import HidroControl.Base.CText

/-!
# `netwifi.cpp` — the Wi-Fi station

The state is what `event_handler` writes, plus two things the environment keeps
for the program: for which events the handler is registered, and how often
`esp_wifi_connect` was called. The error checks of `netwifi_init` abort the
program; here the calls under them succeed.
-/

namespace HidroControl

open CText

structure Ipv4 where
  a : UInt8
  b : UInt8
  c : UInt8
  d : UInt8
deriving DecidableEq

def Ipv4.texto (ip : Ipv4) : Text :=
  decimal ip.a.toNat ++ '.' :: (decimal ip.b.toNat ++ '.' ::
    (decimal ip.c.toNat ++ '.' :: decimal ip.d.toNat))

inductive WifiEventId where
  | staStart
  | staDisconnected
  | outro (id : ℕ)
deriving DecidableEq

inductive IpEventId where
  | staGotIp
  | staLostIp
  | outro (id : ℕ)
deriving DecidableEq

/-- An event of the default event loop. The address is the event data of
`IP_EVENT_STA_GOT_IP`. -/
inductive EventoIdf where
  | wifi (id : WifiEventId)
  | ip (id : IpEventId) (ip : Ipv4)
deriving DecidableEq

/-- What `esp_event_handler_instance_register` was called with. -/
inductive Registro where
  /-- `WIFI_EVENT`, `ESP_EVENT_ANY_ID`. -/
  | wifi
  | ip (id : IpEventId)
deriving DecidableEq

def Registro.aceita : Registro → EventoIdf → Bool
  | .wifi, .wifi _ => true
  | .ip id, .ip id' _ => id == id'
  | _, _ => false

structure Netwifi where
  sConnected : Bool := false
  sIp : Text := "0.0.0.0".toList
  registros : List Registro := []
  espWifiConnect : ℕ := 0

def eventHandler : EventoIdf → Netwifi → Netwifi
  | .wifi .staStart, s => { s with espWifiConnect := s.espWifiConnect + 1 }
  | .wifi .staDisconnected, s =>
      { s with
        sConnected := false
        sIp := "0.0.0.0".toList
        espWifiConnect := s.espWifiConnect + 1 }
  | .ip .staGotIp ip, s =>
      { s with sIp := snprintf 16 ip.texto, sConnected := true }
  | _, s => s

def netwifiInit (s : Netwifi) : Netwifi :=
  { s with registros := s.registros ++ [.wifi, .ip .staGotIp] }

/-- The event loop hands an event to the handler once for every registration
that takes it. -/
def despachaEvento (e : EventoIdf) (s : Netwifi) : Netwifi :=
  (s.registros.filter (·.aceita e)).foldl (fun s _ => eventHandler e s) s

def netwifiIsConnected (s : Netwifi) : Bool := s.sConnected
def netwifiIp (s : Netwifi) : Text := s.sIp

end HidroControl
