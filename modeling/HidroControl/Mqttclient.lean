import HidroControl.Deviceid
import HidroControl.Modos
import HidroControl.Timekeeper
import HidroControl.Taxas

/-!
# `mqttclient.cpp` — commands in, telemetry out

The client handle is only ever compared with `nullptr`, so it is a flag. Events
reach `mqtt_event_handler` on the MQTT task; what an event does to the mode is
the argument of the one call of `modos_set` it can make, and `none` if it makes
none. `mqttclient_publish_telemetry` runs on the control task; the two reads of
the wall clock behind each of its time fields are a `LeiturasTempo`.
-/

namespace HidroControl

open CText

def topicBufferSize : ℕ := 128
def payloadBufferSize : ℕ := 64

structure Mqttclient where
  sClient : Bool := false
  sConnected : Bool := false
  /-- The topics asked for with `esp_mqtt_client_subscribe`, last first. -/
  inscricoes : List Text := []

def buildTelemetryTopic (len : ℕ) (dev : Deviceid) : Text :=
  snprintf len ("hidrocontrol/".toList ++ deviceidGet dev ++ "/telemetry".toList)

def buildModoTopic (len : ℕ) (dev : Deviceid) : Text :=
  snprintf len ("hidrocontrol/".toList ++ deviceidGet dev ++ "/modo".toList)

/-! ## Commands -/

def processarComandoModo (payload : Text) : Option ModoOperacao :=
  if equalIgnoreCase payload "NORMAL".toList || payload == "0".toList then
    some .normal
  else if equalIgnoreCase payload "DUO".toList || payload == "1".toList then
    some .duo
  else if equalIgnoreCase payload "MIX".toList || payload == "2".toList then
    some .mix
  else none

/-- The event data of `MQTT_EVENT_DATA`: two byte ranges, each possibly null. -/
structure EventoData where
  topic : Option (List UInt8)
  data : Option (List UInt8)

/-- The string in a zeroed buffer of `size` bytes after `memcpy` of as much of
`bytes` as leaves room for the terminator. -/
def copia (size : ℕ) (bytes : List UInt8) : Text :=
  ofBuffer ((bytes.take (size - 1)).map Char.ofUInt8)

def processarMensagemRecebida (dev : Deviceid) :
    Option EventoData → Option ModoOperacao
  | some { topic := some t, data := some d } =>
      let topic := copia topicBufferSize t
      let payload := copia payloadBufferSize d
      if topic == buildModoTopic topicBufferSize dev then
        processarComandoModo payload
      else none
  | _ => none

inductive EventoMqtt where
  | connected
  | disconnected
  | subscribed
  | data (event : Option EventoData)
  | published
  | error
  | outro

/-- The new statics, and the mode handed to `modos_set`. -/
def mqttEventHandler (dev : Deviceid) (e : EventoMqtt) (s : Mqttclient) :
    Mqttclient × Option ModoOperacao :=
  match e with
  | .connected =>
      ({ s with
          sConnected := true
          inscricoes := buildModoTopic topicBufferSize dev :: s.inscricoes }, none)
  | .disconnected => ({ s with sConnected := false }, none)
  | .data event => (s, processarMensagemRecebida dev event)
  | .error => ({ s with sConnected := false }, none)
  | .subscribed | .published | .outro => (s, none)

/-- Which of the three calls of the MQTT library succeed. -/
structure RespostaMqtt where
  init : Bool
  registerEvent : Bool
  start : Bool

def mqttclientInit (r : RespostaMqtt) (s : Mqttclient) : Mqttclient :=
  let s := { s with sClient := r.init }
  if !s.sClient then s
  else if !r.registerEvent then { s with sClient := false }
  else if !r.start then { s with sClient := false }
  else s

def mqttclientIsConnected (s : Mqttclient) : Bool := s.sConnected

/-! ## Telemetry -/

structure Telemetria where
  modo : String
  fluxoFrio : ℚ
  fluxoQuente : ℚ
  releFrio : Bool
  releQuente : Bool
  wifiConnected : Bool

/-- The members of a frame, as they are handed to `snprintf`. -/
structure Quadro where
  deviceId : Text
  timestamp : Text
  epoch : ℤ
  modo : String
  flowFrio : ℚ
  flowQuente : ℚ
  releFrio : Bool
  releQuente : Bool
  wifi : Bool
  mqtt : Bool

/-- `b ? 1 : 0` behind `%d`. -/
def bit (b : Bool) : Text := if b then ['1'] else ['0']

def Quadro.payload (q : Quadro) : Text :=
  "\x7b\"deviceId\":\"".toList ++ q.deviceId ++
  "\",\"timestamp\":\"".toList ++ q.timestamp ++
  "\",\"epoch\":".toList ++ decimalInt q.epoch ++
  ",\"modo\":\"".toList ++ q.modo.toList ++
  "\",\"flowFrio\":".toList ++ fixo2 q.flowFrio ++
  ",\"flowQuente\":".toList ++ fixo2 q.flowQuente ++
  ",\"releFrio\":".toList ++ bit q.releFrio ++
  ",\"releQuente\":".toList ++ bit q.releQuente ++
  ",\"wifi\":".toList ++ bit q.wifi ++
  ",\"mqtt\":".toList ++ bit q.mqtt ++ "\x7d".toList

/-- The wall-clock reads of one call, in program order: two for the timestamp,
two for the epoch. A function that finds the clock unsynced stops at its first. -/
structure LeiturasTempo where
  l1 : LeituraHora
  l2 : LeituraHora
  l3 : LeituraHora
  l4 : LeituraHora

structure Publicacao where
  topico : Text
  quadro : Quadro

/-- The arguments of the `snprintf`. `conectado` is `s_connected` when it is read
again for the frame: the MQTT task may have changed it since the test at the
top. -/
def montaQuadro (dev : Deviceid) (t : Telemetria) (timestamp : Text) (epoch : ℤ)
    (conectado : Bool) : Quadro where
  deviceId := deviceidGet dev
  timestamp := timestamp
  epoch := epoch
  modo := t.modo
  flowFrio := t.fluxoFrio
  flowQuente := t.fluxoQuente
  releFrio := t.releFrio
  releQuente := t.releQuente
  wifi := t.wifiConnected
  mqtt := conectado

def mqttclientPublishTelemetry (dev : Deviceid) (t : Telemetria)
    (l : LeiturasTempo) (conectado : Bool) (s : Mqttclient) (k : Timekeeper) :
    Option Publicacao × Timekeeper :=
  if !s.sClient || !s.sConnected then (none, k)
  else
    let (timestamp, k) := timekeeperGetTimestamp 40 l.l1 l.l2 k
    let (epoch, k) := timekeeperGetEpoch l.l3 l.l4 k
    let quadro := montaQuadro dev t timestamp epoch conectado
    if 384 ≤ quadro.payload.length then (none, k)
    else (some { topico := buildTelemetryTopic topicBufferSize dev, quadro }, k)

theorem publicacao_quadro {dev : Deviceid} {t : Telemetria} {l : LeiturasTempo}
    {conectado : Bool} {s : Mqttclient} {k : Timekeeper} {p : Publicacao}
    (h : (mqttclientPublishTelemetry dev t l conectado s k).1 = some p) :
    p.quadro = montaQuadro dev t (timekeeperGetTimestamp 40 l.l1 l.l2 k).1
      (timekeeperGetEpoch l.l3 l.l4 (timekeeperGetTimestamp 40 l.l1 l.l2 k).2).1
      conectado := by
  unfold mqttclientPublishTelemetry at h
  dsimp only at h
  split at h
  · cases h
  · split at h
    · cases h
    · rw [← Option.some.inj h]

end HidroControl
