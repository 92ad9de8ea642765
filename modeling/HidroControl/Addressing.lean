import HidroControl.CommandLanguage

/-!
# Which device a message reaches

A device listens on the topic it builds from the last three bytes of its MAC
address. The rendering keeps those bytes apart (`topicoModo_eq_iff`) and fits
every buffer on the way, so a command obeyed by a device was sent on the topic
of a device with the same three bytes. Telemetry goes out under a topic with
another last level, which no device takes for a command.
-/

namespace HidroControl

open CText

def topicoTelemetria (dev : Deviceid) : Text :=
  "hidrocontrol/".toList ++ deviceidGet dev ++ "/telemetry".toList

/-! ## Names and topics keep addresses apart -/

theorem deviceid_eq_iff {m₁ m₂ : Mac} :
    deviceidGet (.de (some m₁)) = deviceidGet (.de (some m₂)) ↔ m₁.mesmoFinal m₂ := by
  rw [deviceidGet_some, deviceidGet_some, List.append_right_inj]
  exact chipDe_eq_iff

theorem topicoModo_eq_iff {m₁ m₂ : Mac} :
    topicoModo (.de (some m₁)) = topicoModo (.de (some m₂)) ↔ m₁.mesmoFinal m₂ := by
  rw [← deviceid_eq_iff]
  unfold topicoModo
  generalize deviceidGet (.de (some m₁)) = w₁, deviceidGet (.de (some m₂)) = w₂
  rw [List.append_left_inj, List.append_right_inj]

theorem topicoTelemetria_ne_topicoModo (dev dev' : Deviceid) :
    topicoTelemetria dev ≠ topicoModo dev' := by
  unfold topicoTelemetria topicoModo
  generalize deviceidGet dev = w, deviceidGet dev' = w'
  intro h
  have hlast := congrArg List.getLast? h
  have htelemetria : "/telemetry".toList.getLast? = some 'y' := by decide
  have hmodo : "/modo".toList.getLast? = some 'o' := by decide
  simp only [List.getLast?_append, htelemetria, hmodo, Option.some_or] at hlast
  exact absurd (Option.some.inj hlast) (by decide)

/-! ## Nothing is cut -/

theorem length_topicoTelemetria_le (dev : Option Mac) :
    (topicoTelemetria (.de dev)).length ≤ 36 :=
  (length_topico_le dev "/telemetry".toList).trans (by decide)

theorem buildTelemetryTopic_de (dev : Option Mac) :
    buildTelemetryTopic topicBufferSize (.de dev) = topicoTelemetria (.de dev) :=
  snprintf_of_lt ((length_topicoTelemetria_le dev).trans_lt (by decide))

/-- **The names of an initialized device**, none of them cut: `chip_id` in its 16
bytes, `device_id` in its 32, both topics in their 128. -/
structure NomesInteiros (mac : Mac) : Prop where
  chip : (deviceidInit mac {}).sChipId = chipDe mac ∧ (chipDe mac).length < 16
  device : deviceidGet (.de (some mac)) = "ac220-".toList ++ chipDe mac ∧
    ("ac220-".toList ++ chipDe mac).length < 32
  modo : buildModoTopic topicBufferSize (.de (some mac)) =
      "hidrocontrol/".toList ++ ("ac220-".toList ++ chipDe mac) ++ "/modo".toList ∧
    ("hidrocontrol/".toList ++ ("ac220-".toList ++ chipDe mac) ++
      "/modo".toList).length < topicBufferSize
  telemetria : buildTelemetryTopic topicBufferSize (.de (some mac)) =
      "hidrocontrol/".toList ++ ("ac220-".toList ++ chipDe mac) ++ "/telemetry".toList ∧
    ("hidrocontrol/".toList ++ ("ac220-".toList ++ chipDe mac) ++
      "/telemetry".toList).length < topicBufferSize

theorem nomesInteiros (mac : Mac) : NomesInteiros mac := by
  have hid : deviceidGet (.de (some mac)) = "ac220-".toList ++ chipDe mac :=
    deviceidGet_some mac
  have hchip : (chipDe mac).length = 6 := rfl
  have hpre : "ac220-".toList.length = 6 := by decide
  have hmodo := buildModoTopic_de (some mac)
  have hmodo' := length_topicoModo_le (some mac)
  have htelemetria := buildTelemetryTopic_de (some mac)
  have htelemetria' := length_topicoTelemetria_le (some mac)
  unfold topicoModo at hmodo hmodo'
  unfold topicoTelemetria at htelemetria htelemetria'
  rw [hid] at hmodo hmodo' htelemetria htelemetria'
  refine ⟨⟨rfl, ?_⟩, ⟨hid, ?_⟩, ⟨hmodo, ?_⟩, ⟨htelemetria, ?_⟩⟩
  · rw [hchip]
    decide
  · rw [List.length_append, hpre, hchip]
    decide
  · exact hmodo'.trans_lt (by decide)
  · exact htelemetria'.trans_lt (by decide)

/-! ## Who obeys -/

/-- A valid word on the topic of `m₁` is a command to `m₂` when the addresses
end alike. -/
theorem processa_de_mesmoFinal {m₁ m₂ : Mac} {t d : List UInt8} {modo : ModoOperacao}
    (h : m₁.mesmoFinal m₂) (ht : ofBytes t = topicoModo (.de (some m₁)))
    (hd : palavraDe modo (ofBytes d) = true) :
    processarMensagemRecebida (.de (some m₂)) (some ⟨some t, some d⟩) = some modo := by
  apply And.right
  apply processa_of_comandoAceita
  exact ⟨ht.trans (topicoModo_eq_iff.mpr h), hd⟩

/-- A topic that is not the device's own is no command, whatever the payload. -/
theorem processa_none_of_topico_ne {dev : Option Mac} {t d : List UInt8}
    (hnul : Char.ofNat 0 ∉ ofBytes t) (ht : ofBytes t ≠ topicoModo (.de dev)) :
    processarMensagemRecebida (.de dev) (some ⟨some t, some d⟩) = none := by
  rw [Option.eq_none_iff_forall_ne_some]
  intro modo hcode
  obtain ⟨htopic, -⟩ := processarMensagemRecebida_iff.mp hcode
  rw [atePrimeiroNul, ofBuffer_of_no_nul hnul] at htopic
  exact ht htopic

theorem nul_notMem_topicoTelemetria (dev : Option Mac) :
    Char.ofNat 0 ∉ topicoTelemetria (.de dev) :=
  nul_notMem_topico dev (by decide)

/-- **Addressing.** A valid command on the topic of `m₁` commands `m₂` when the
last three bytes agree and is nothing to it otherwise; the names are whole; and a
message on any device's telemetry topic commands nobody. -/
theorem enderecamento (m₁ m₂ : Mac) :
    (∀ (c : Mqttclient) (t d : List UInt8) (modo : ModoOperacao) (s : Modos),
      ofBytes t = buildModoTopic topicBufferSize (.de (some m₁)) →
      palavraDe modo (ofBytes d) = true →
      (m₁.mesmoFinal m₂ → (recebe (.de (some m₂)) c t d s).sModo = modo) ∧
      (¬ m₁.mesmoFinal m₂ → recebe (.de (some m₂)) c t d s = s)) ∧
    NomesInteiros m₁ ∧
    buildTelemetryTopic topicBufferSize (.de (some m₁)) ≠
      buildModoTopic topicBufferSize (.de (some m₂)) ∧
    ∀ (c : Mqttclient) (t d : List UInt8) (s : Modos),
      ofBytes t = buildTelemetryTopic topicBufferSize (.de (some m₁)) →
      recebe (.de (some m₂)) c t d s = s := by
  rw [buildModoTopic_de, buildTelemetryTopic_de, buildModoTopic_de]
  refine ⟨?_, nomesInteiros m₁, topicoTelemetria_ne_topicoModo _ _, ?_⟩
  · intro c t d modo s ht hd
    constructor
    · intro h
      rw [recebe_of_some (processa_de_mesmoFinal h ht hd), modosSet_sModo]
    · intro h
      apply recebe_of_none
      apply processa_none_of_topico_ne
      · rw [ht]
        exact nul_notMem_topicoModo _
      · rw [ht, Ne, topicoModo_eq_iff]
        exact h
  · intro c t d s ht
    apply recebe_of_none
    apply processa_none_of_topico_ne
    · rw [ht]
      exact nul_notMem_topicoTelemetria _
    · rw [ht]
      exact topicoTelemetria_ne_topicoModo _ _

def macA : Mac := fun i => [0x24, 0x6F, 0x28, 0xA1, 0xB2, 0xC3].getD i 0
def macB : Mac := fun i => [0x30, 0xAE, 0xA4, 0xA1, 0xB2, 0xC3].getD i 0
def macC : Mac := fun i => [0x24, 0x6F, 0x28, 0xA1, 0xB2, 0xC4].getD i 0

/-- `duo` for `A1B2C3` reaches the two boards whose addresses end so, not the
third. -/
theorem enderecamento_tres_placas :
    (recebe (.de (some macB)) {} (toBytes "hidrocontrol/ac220-A1B2C3/modo".toList)
      (toBytes "duo".toList) {}).sModo = .duo ∧
    recebe (.de (some macC)) {} (toBytes "hidrocontrol/ac220-A1B2C3/modo".toList)
      (toBytes "duo".toList) {} = {} ∧
    recebe (.de (some macC)) {} (toBytes "hidrocontrol/ac220-A1B2C3/telemetry".toList)
      (toBytes "duo".toList) {} = {} :=
  ⟨((enderecamento macA macB).1 {} _ _ .duo {} (by decide +kernel)
      (by decide +kernel)).1 (by decide),
    ((enderecamento macA macC).1 {} _ _ .duo {} (by decide +kernel)
      (by decide +kernel)).2 (by decide),
    (enderecamento macA macC).2.2.2 {} _ _ {} (by decide +kernel)⟩

end HidroControl
