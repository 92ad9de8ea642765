import HidroControl.Netwifi
import Mathlib.Data.List.Induction

/-!
# Does the station know its address?

The station holds the address of the last event that spoke of one: `STA_GOT_IP`
gives an address, `STA_LOST_IP` and `STA_DISCONNECTED` take it away
(`enderecoApos`). `netwifi_init` registers for two of the three, and
`event_handler` has no branch for the third. What the module keeps is therefore
the address as seen by a station that hears of no loss (`enderecoVisto`), and it
is the address in every state of a run exactly when no loss comes while an address
is held (`acompanha_iff`).
-/

namespace HidroControl

open CText

/-! ## The address and the events -/

/-- What an event says of the station's address, if it speaks of it. -/
def EventoIdf.endereco : EventoIdf → Option (Option Ipv4)
  | .ip .staGotIp a => some (some a)
  | .ip .staLostIp _ => some none
  | .wifi .staDisconnected => some none
  | _ => none

def EventoIdf.perde : EventoIdf → Bool
  | .ip .staLostIp _ => true
  | _ => false

/-- The events at which the station is told to connect. -/
def EventoIdf.conecta : EventoIdf → Bool
  | .wifi .staStart => true
  | .wifi .staDisconnected => true
  | _ => false

/-- The address the station holds after some events: the last that speaks of it
decides. -/
def enderecoApos (es : List EventoIdf) : Option Ipv4 :=
  (es.filterMap EventoIdf.endereco).getLast?.join

/-- The same for a station that hears of no loss. -/
def enderecoVisto (es : List EventoIdf) : Option Ipv4 :=
  enderecoApos (es.filter fun e => !e.perde)

/-- The module after `netwifi_init` and some events. -/
def aposEventos (es : List EventoIdf) : Netwifi :=
  es.foldl (fun s e => despachaEvento e s) (netwifiInit {})

/-- The text for no address. -/
def semEndereco : Text := "0.0.0.0".toList

def textoDe (endereco : Option Ipv4) : Text := (endereco.map Ipv4.texto).getD semEndereco

/-- The module tells the truth about the station. -/
structure Acompanha (es : List EventoIdf) (s : Netwifi) : Prop where
  conectado : netwifiIsConnected s = true ↔ ∃ ip, enderecoApos es = some ip
  ip : netwifiIp s = textoDe (enderecoApos es)
  conexoes : s.espWifiConnect = es.countP EventoIdf.conecta

/-! ## One event more -/

theorem enderecoApos_append (es : List EventoIdf) (e : EventoIdf) :
    enderecoApos (es ++ [e]) = (e.endereco.getD (enderecoApos es)) := by
  unfold enderecoApos
  rw [List.filterMap_append]
  cases he : e.endereco with
  | none => simp [he]
  | some a => simp [he]

theorem enderecoVisto_append (es : List EventoIdf) (e : EventoIdf) :
    enderecoVisto (es ++ [e]) =
      if e.perde then enderecoVisto es else e.endereco.getD (enderecoVisto es) := by
  unfold enderecoVisto
  rw [List.filter_append]
  cases he : e.perde with
  | true => simp [he]
  | false => simp [he, enderecoApos_append]

/-- An address that the module has seen was given to the station. -/
theorem mem_of_enderecoVisto {es : List EventoIdf} {ip : Ipv4}
    (h : enderecoVisto es = some ip) : EventoIdf.ip .staGotIp ip ∈ es := by
  have hlast := List.mem_of_getLast? (Option.join_eq_some_iff.mp h)
  obtain ⟨e, he, hip⟩ := List.mem_filterMap.mp hlast
  have hmem := (List.mem_filter.mp he).1
  cases e with
  | wifi id => cases id <;> cases hip
  | ip id a =>
      cases id with
      | staGotIp =>
          obtain rfl : a = ip := Option.some.inj (Option.some.inj hip)
          exact hmem
      | staLostIp => cases hip
      | outro k => cases hip

theorem length_decimal_byte (b : UInt8) : (decimal b.toNat).length ≤ 3 :=
  (Nat.length_toDigits_le_iff (by omega) (by omega)).mpr (b.toNat_lt.trans (by decide))

/-- **No address is cut** by the 16 bytes of `s_ip`. -/
theorem length_texto_le (ip : Ipv4) : ip.texto.length ≤ 15 := by
  have ha := length_decimal_byte ip.a
  have hb := length_decimal_byte ip.b
  have hc := length_decimal_byte ip.c
  have hd := length_decimal_byte ip.d
  simp only [Ipv4.texto, List.length_append, List.length_cons]
  omega

theorem snprintf_texto (ip : Ipv4) : snprintf 16 ip.texto = ip.texto :=
  snprintf_of_lt (Nat.lt_succ_of_le (length_texto_le ip))

/-- The registrations hand the handler what it has a branch for, once. -/
theorem despachaEvento_registrado {s : Netwifi} (h : s.registros = [.wifi, .ip .staGotIp])
    (e : EventoIdf) : despachaEvento e s = eventHandler e s := by
  unfold despachaEvento
  rw [h]
  cases e with
  | wifi id => rfl
  | ip id ip =>
      cases id with
      | staGotIp => rfl
      | staLostIp => rfl
      | outro n => rfl

/-- The state that belongs to an address and a number of calls. -/
def Netwifi.de (endereco : Option Ipv4) (conexoes : ℕ) : Netwifi where
  sConnected := endereco.isSome
  sIp := textoDe endereco
  registros := [.wifi, .ip .staGotIp]
  espWifiConnect := conexoes

/-- **One event.** -/
theorem despachaEvento_de (endereco : Option Ipv4) (n : ℕ) (e : EventoIdf) :
    despachaEvento e (.de endereco n) =
      .de (if e.perde then endereco else e.endereco.getD endereco)
        (n + if e.conecta then 1 else 0) := by
  rw [despachaEvento_registrado rfl]
  cases e with
  | wifi id =>
      cases id with
      | staStart => rfl
      | staDisconnected => rfl
      | outro k => rfl
  | ip id ip =>
      cases id with
      | staGotIp =>
          show { Netwifi.de endereco n with sIp := snprintf 16 ip.texto, sConnected := true } = _
          rw [snprintf_texto]
          rfl
      | staLostIp => rfl
      | outro k => rfl

/-- **The run.** The module keeps the address as seen without the losses. -/
theorem aposEventos_eq (es : List EventoIdf) :
    aposEventos es = .de (enderecoVisto es) (es.countP EventoIdf.conecta) := by
  induction es using List.reverseRecOn with
  | nil => rfl
  | append_singleton es e ih =>
      have hstep : aposEventos (es ++ [e]) = despachaEvento e (aposEventos es) :=
        List.foldl_append
      rw [hstep, ih, despachaEvento_de, enderecoVisto_append, List.countP_append,
        List.countP_singleton]

/-! ## When the two addresses agree -/

theorem acompanha_of_eq {es : List EventoIdf} (h : enderecoVisto es = enderecoApos es) :
    Acompanha es (aposEventos es) := by
  rw [aposEventos_eq, h]
  exact ⟨Option.isSome_iff_exists, rfl, rfl⟩

/-- Whether an address is held is all there is to get wrong. -/
theorem Acompanha.isSome_eq {es : List EventoIdf} (h : Acompanha es (aposEventos es)) :
    (enderecoVisto es).isSome = (enderecoApos es).isSome := by
  have hconectado := h.conectado
  rw [aposEventos_eq, ← Option.isSome_iff_exists] at hconectado
  rw [Bool.eq_iff_iff]
  exact hconectado

/-- No loss comes while an address is held. -/
def SemPerdaEmUso (es : List EventoIdf) : Prop :=
  ∀ p ip, p ++ [.ip .staLostIp ip] <+: es → enderecoApos p = none

theorem enderecoVisto_eq {es : List EventoIdf} (h : SemPerdaEmUso es) :
    enderecoVisto es = enderecoApos es := by
  induction es using List.reverseRecOn with
  | nil => rfl
  | append_singleton es e ih =>
      have hes := ih fun p ip hp => h p ip (hp.trans (List.prefix_append es [e]))
      rw [enderecoVisto_append, enderecoApos_append, hes]
      cases e with
      | wifi id =>
          cases id with
          | staStart => rfl
          | staDisconnected => rfl
          | outro n => rfl
      | ip id ip =>
          cases id with
          | staGotIp => rfl
          | staLostIp => exact h es ip (List.prefix_refl _)
          | outro n => rfl

/-- **The station's address.** After every event of a sequence the module tells the
truth about the station if and only if no loss came while an address was held. -/
theorem acompanha_iff (es : List EventoIdf) :
    (∀ p, p <+: es → Acompanha p (aposEventos p)) ↔ SemPerdaEmUso es := by
  constructor
  · intro h p ip hp
    have hbefore := (h p ((List.prefix_append p _).trans hp)).isSome_eq
    have hafter := (h _ hp).isSome_eq
    -- the loss changes the address and not what the module has seen
    rw [enderecoVisto_append, enderecoApos_append] at hafter
    change (enderecoVisto p).isSome = false at hafter
    rw [← Option.not_isSome_iff_eq_none, ← hbefore, hafter]
    exact Bool.false_ne_true
  · intro h p hp
    apply acompanha_of_eq
    apply enderecoVisto_eq
    intro q ip hq
    exact h q ip (hq.trans hp)

/-- The lease of an address runs out while the station stays associated. -/
theorem perdaDoEndereco_nao_acompanha :
    ¬ Acompanha [.wifi .staStart, .ip .staGotIp ⟨192, 168, 0, 7⟩, .ip .staLostIp ⟨0, 0, 0, 0⟩]
      (aposEventos [.wifi .staStart, .ip .staGotIp ⟨192, 168, 0, 7⟩,
        .ip .staLostIp ⟨0, 0, 0, 0⟩]) := by
  intro h
  obtain ⟨ip, hip⟩ := h.conectado.mp rfl
  exact Option.some_ne_none ip hip.symm

end HidroControl
