import HidroControl.Mqttclient

/-!
# The language of the remote mode command

A message is two byte ranges with their lengths. The handler copies each into a
buffer of its own and goes on with C strings, so what it compares ends at the
first zero byte. The copy limits do not matter: every topic and word it accepts
is far shorter (`processarMensagemRecebida_iff`). The terminator does:
`comandoAceita` is the language as the broker sees it, whole ranges, and the
handler keeps to it exactly for the messages that are not a command continued
behind a zero byte (`recebe_cumpre_iff`).
-/

namespace HidroControl

open CText

/-! ## Words and topics -/

def digitoModo : ModoOperacao → Char
  | .normal => '0'
  | .duo => '1'
  | .mix => '2'

/-- `s` names mode `m`: its name in any mix of cases, or its digit. -/
def palavraDe (m : ModoOperacao) (s : Text) : Bool :=
  equalIgnoreCase s (modosNome m).toList || s == [digitoModo m]

def topicoModo (dev : Deviceid) : Text :=
  "hidrocontrol/".toList ++ deviceidGet dev ++ "/modo".toList

/-- The words of a mode, with the case of the letters folded. -/
def formas : ModoOperacao → List Text
  | .normal => ["normal".toList, ['0']]
  | .duo => ["duo".toList, ['1']]
  | .mix => ["mix".toList, ['2']]

theorem mem_formas_of_palavraDe {m : ModoOperacao} {s : Text}
    (h : palavraDe m s = true) : s.map Char.toLower ∈ formas m := by
  simp only [palavraDe, equalIgnoreCase, Bool.or_eq_true, beq_iff_eq] at h
  rcases h with h | rfl
  · rw [h]
    cases m <;> decide
  · cases m <;> decide

theorem formas_curtas : ∀ m, ∀ f ∈ formas m, f.length ≤ 6 ∧ Char.ofNat 0 ∉ f := by
  intro m
  cases m <;> decide

theorem formas_disjuntas : ∀ m m', ∀ f ∈ formas m, f ∈ formas m' → m = m' := by
  intro m m'
  cases m <;> cases m' <;> decide

/-- A word names one mode. -/
theorem palavraDe_unica {m m' : ModoOperacao} {s : Text}
    (h : palavraDe m s = true) (h' : palavraDe m' s = true) : m = m' :=
  formas_disjuntas m m' _ (mem_formas_of_palavraDe h) (mem_formas_of_palavraDe h')

theorem length_le_of_palavraDe {m : ModoOperacao} {s : Text}
    (h : palavraDe m s = true) : s.length ≤ 6 := by
  have := (formas_curtas m _ (mem_formas_of_palavraDe h)).1
  simpa using this

theorem nul_notMem_of_palavraDe {m : ModoOperacao} {s : Text}
    (h : palavraDe m s = true) : Char.ofNat 0 ∉ s := by
  intro hmem
  apply (formas_curtas m _ (mem_formas_of_palavraDe h)).2
  exact List.mem_map.mpr ⟨_, hmem, by decide⟩

/-- The chain of comparisons of `processar_comando_modo` is the table of words. -/
theorem processarComandoModo_iff {s : Text} {m : ModoOperacao} :
    processarComandoModo s = some m ↔ palavraDe m s = true := by
  have hchain : processarComandoModo s =
      if palavraDe .normal s then some .normal
      else if palavraDe .duo s then some .duo
      else if palavraDe .mix s then some .mix
      else none := rfl
  rw [hchain]
  constructor
  · intro h
    split_ifs at h with h0 h1 h2 <;> cases h <;> assumption
  · intro h
    split_ifs with h0 h1 h2
    · rw [palavraDe_unica h h0]
    · rw [palavraDe_unica h h1]
    · rw [palavraDe_unica h h2]
    · cases m <;> contradiction

/-! ## The topic -/

/-- A topic of a device, whatever its last level. -/
theorem length_topico_le (dev : Option Mac) (nivel : Text) :
    ("hidrocontrol/".toList ++ deviceidGet (.de dev) ++ nivel).length ≤ 26 + nivel.length := by
  have hdev := length_deviceid_le dev
  have hpre : "hidrocontrol/".toList.length = 13 := by decide
  rw [List.length_append, List.length_append, hpre]
  omega

theorem nul_notMem_topico (dev : Option Mac) {nivel : Text} (hnivel : Char.ofNat 0 ∉ nivel) :
    Char.ofNat 0 ∉ "hidrocontrol/".toList ++ deviceidGet (.de dev) ++ nivel := by
  intro h
  rcases List.mem_append.mp h with h | h
  · rcases List.mem_append.mp h with h | h
    · exact absurd h (by decide)
    · exact absurd (charDeNome_of_mem_deviceid h) (by decide)
  · exact hnivel h

theorem length_topicoModo_le (dev : Option Mac) :
    (topicoModo (.de dev)).length ≤ 31 :=
  (length_topico_le dev "/modo".toList).trans (by decide)

/-- The topic buffer cuts nothing. -/
theorem buildModoTopic_de (dev : Option Mac) :
    buildModoTopic topicBufferSize (.de dev) = topicoModo (.de dev) :=
  snprintf_of_lt ((length_topicoModo_le dev).trans_lt (by decide))

theorem nul_notMem_topicoModo (dev : Option Mac) :
    Char.ofNat 0 ∉ topicoModo (.de dev) :=
  nul_notMem_topico dev (by decide)

/-! ## What the handler accepts -/

/-- The message is, over its whole length, a command for mode `m`. -/
def comandoAceita (dev : Deviceid) (m : ModoOperacao) (t d : List UInt8) : Prop :=
  ofBytes t = topicoModo dev ∧ palavraDe m (ofBytes d) = true

/-- What the handler compares of a range: the string before its first zero. -/
def atePrimeiroNul (b : List UInt8) : Text := ofBuffer (ofBytes b)

theorem copia_eq (size : ℕ) (b : List UInt8) :
    copia size b = ofBuffer ((ofBytes b).take (size - 1)) := by
  simp only [copia, ofBytes, List.map_take]

/-- **The handler's language.** Both limits out of the way, the handler accepts
what stands before the first zero of each range. -/
theorem processarMensagemRecebida_iff {dev : Option Mac} {t d : List UInt8}
    {m : ModoOperacao} :
    processarMensagemRecebida (.de dev) (some ⟨some t, some d⟩) = some m ↔
      atePrimeiroNul t = topicoModo (.de dev) ∧
        palavraDe m (atePrimeiroNul d) = true := by
  have htopico : copia topicBufferSize t = topicoModo (.de dev) ↔
      atePrimeiroNul t = topicoModo (.de dev) := by
    rw [copia_eq]
    exact ofBuffer_take_eq_iff ((length_topicoModo_le dev).trans_lt (by decide))
  have hpalavra : palavraDe m (copia payloadBufferSize d) = true ↔
      palavraDe m (atePrimeiroNul d) = true := by
    -- the side that is a word is short, and then so is the other
    rw [copia_eq]
    constructor
    · intro h
      have hcut := ofBuffer_take_eq_iff (s := ofBytes d)
        ((length_le_of_palavraDe h).trans_lt (show 6 < payloadBufferSize - 1 by decide))
      rwa [atePrimeiroNul, hcut.mp rfl]
    · intro h
      have hcut := ofBuffer_take_eq_iff (s := ofBytes d)
        ((length_le_of_palavraDe h).trans_lt (show 6 < payloadBufferSize - 1 by decide))
      rwa [hcut.mpr rfl]
  unfold processarMensagemRecebida
  dsimp only
  rw [buildModoTopic_de, ← htopico, ← hpalavra, ← processarComandoModo_iff]
  simp

/-! ## The mode after a message -/

/-- The statics of `modos.cpp` after a call that may reach `modos_set`. -/
def aplica (comando : Option ModoOperacao) (s : Modos) : Modos :=
  comando.elim s fun m => modosSet m s

/-- One `MQTT_EVENT_DATA` with the two ranges `t` and `d`. -/
def recebe (dev : Deviceid) (c : Mqttclient) (t d : List UInt8) (s : Modos) : Modos :=
  aplica (mqttEventHandler dev (.data (some ⟨some t, some d⟩)) c).2 s

theorem recebe_of_some {dev : Deviceid} {c : Mqttclient} {t d : List UInt8}
    {m : ModoOperacao}
    (h : processarMensagemRecebida dev (some ⟨some t, some d⟩) = some m) (s : Modos) :
    recebe dev c t d s = modosSet m s := by
  simp [recebe, aplica, mqttEventHandler, h]

theorem recebe_of_none {dev : Deviceid} {c : Mqttclient} {t d : List UInt8}
    (h : processarMensagemRecebida dev (some ⟨some t, some d⟩) = none) (s : Modos) :
    recebe dev c t d s = s := by
  simp [recebe, aplica, mqttEventHandler, h]

/-- The message does what the language says: a command sets its mode whatever the
mode was, and anything else changes nothing. -/
structure CumpreLingua (dev : Deviceid) (t d : List UInt8) : Prop where
  aceita : ∀ c s m, comandoAceita dev m t d → (recebe dev c t d s).sModo = m
  recusa : ∀ c s, (∀ m, ¬ comandoAceita dev m t d) → recebe dev c t d s = s

/-- A command followed, in one of its ranges, by a zero byte and anything. -/
def comandoComSobra (dev : Deviceid) (t d : List UInt8) : Prop :=
  (0 ∈ t ∨ 0 ∈ d) ∧ atePrimeiroNul t = topicoModo dev ∧
    ∃ m, palavraDe m (atePrimeiroNul d) = true

theorem atePrimeiroNul_of_notMem {b : List UInt8} (h : 0 ∉ b) :
    atePrimeiroNul b = ofBytes b := by
  apply ofBuffer_of_no_nul
  rwa [nul_mem_ofBytes]

/-- Neither a topic nor a word holds a zero byte, so a command of the language
is one of the handler's. -/
theorem processa_of_comandoAceita {dev : Option Mac} {m : ModoOperacao}
    {t d : List UInt8} (h : comandoAceita (.de dev) m t d) :
    (0 ∉ t ∧ 0 ∉ d) ∧
      processarMensagemRecebida (.de dev) (some ⟨some t, some d⟩) = some m := by
  obtain ⟨ht, hd⟩ := h
  have ht0 : 0 ∉ t := by
    rw [← nul_mem_ofBytes, ht]
    exact nul_notMem_topicoModo dev
  have hd0 : 0 ∉ d := by
    rw [← nul_mem_ofBytes]
    exact nul_notMem_of_palavraDe hd
  refine ⟨⟨ht0, hd0⟩, processarMensagemRecebida_iff.mpr ?_⟩
  rw [atePrimeiroNul_of_notMem ht0, atePrimeiroNul_of_notMem hd0]
  exact ⟨ht, hd⟩

/-- A command with something behind a zero byte is obeyed, though it is none. -/
theorem not_cumpreLingua_of_sobra {dev : Option Mac} {t d : List UInt8}
    (h : comandoComSobra (.de dev) t d) : ¬ CumpreLingua (.de dev) t d := by
  obtain ⟨hzero, htopic, m, hword⟩ := h
  rintro ⟨-, hrecusa⟩
  have hnone : ∀ m, ¬ comandoAceita (.de dev) m t d := by
    intro m' hm'
    obtain ⟨⟨ht0, hd0⟩, -⟩ := processa_of_comandoAceita hm'
    exact hzero.elim ht0 hd0
  have hcode := processarMensagemRecebida_iff.mpr ⟨htopic, hword⟩
  -- from a state in another mode the call shows
  have hkeep := hrecusa {} { sModo := m.proximo } hnone
  have hmode := congrArg Modos.sModo hkeep
  rw [recebe_of_some hcode, modosSet_sModo] at hmode
  exact m.proximo_ne hmode.symm

/-- **Exactly when the language is kept.** The handler departs from it on the
commands continued behind a zero byte, and on nothing else. -/
theorem recebe_cumpre_iff (dev : Option Mac) (t d : List UInt8) :
    CumpreLingua (.de dev) t d ↔ ¬ comandoComSobra (.de dev) t d := by
  constructor
  · intro hcumpre hsobra
    exact not_cumpreLingua_of_sobra hsobra hcumpre
  · intro hsobra
    constructor
    · intro c s m hm
      rw [recebe_of_some (processa_of_comandoAceita hm).2, modosSet_sModo]
    · intro c s hnone
      apply recebe_of_none
      rw [Option.eq_none_iff_forall_ne_some]
      intro m hcode
      obtain ⟨htopic, hword⟩ := processarMensagemRecebida_iff.mp hcode
      by_cases hzero : 0 ∈ t ∨ 0 ∈ d
      · exact hsobra ⟨hzero, htopic, m, hword⟩
      · rw [not_or] at hzero
        rw [atePrimeiroNul_of_notMem hzero.1] at htopic
        rw [atePrimeiroNul_of_notMem hzero.2] at hword
        exact hnone m ⟨htopic, hword⟩

/-- `MIX`, a zero byte and an `X` on the command topic set MIX. -/
theorem recebe_mix_com_sobra :
    ¬ CumpreLingua (.de none) (toBytes "hidrocontrol/ac220-unknown/modo".toList)
      (toBytes "MIX".toList ++ [0, 88]) := by
  apply not_cumpreLingua_of_sobra
  exact ⟨by decide, by decide +kernel, .mix, by decide +kernel⟩

end HidroControl
