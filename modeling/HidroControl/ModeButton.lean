import HidroControl.Modos
import HidroControl.Base.Debounce

/-!
# The mode button, over whole histories

`modos_update_button` keeps two levels and one 32-bit time. The file compares it
with the debounced level of the whole sample history, and the mode with the fold
of the edges of that level and the remote commands, in order
(`botao_exato`). The comparison is by one invariant, `Segue`: the stamp is the
start of the run of equal samples, modulo `2^32`, and once the run has been found
old the stable level is already the raw one, so nothing depends on the stamp any
more when it goes round.
-/

namespace HidroControl

open WrapClock Debounce

/-- What reaches `modos.cpp` after `modos_init`: a sample of the button at a time
of the timer, or a remote `modos_set`. -/
inductive EventoBotao where
  | amostra (us : ℕ) (btnRaw : Bool)
  | comando (modo : ModoOperacao)

/-- The statics after a history, its latest event first. -/
def estadoBotao (initUs : ℕ) (s₀ : Modos) : List EventoBotao → Modos
  | [] => modosInit initUs s₀
  | .amostra us btnRaw :: h => modosUpdateButton us btnRaw (estadoBotao initUs s₀ h)
  | .comando modo :: h => modosSet modo (estadoBotao initUs s₀ h)

/-- The samples of a history, in true milliseconds. -/
def amostras : List EventoBotao → List Sample
  | [] => []
  | .amostra us btnRaw :: h => ⟨us / 1000, btnRaw⟩ :: amostras h
  | .comando _ :: h => amostras h

/-- The mode that the edges and the commands of a history lead to. The cycle of the
button is written out here, apart from that of `modos_next`. -/
def modoDobrado (t₀ : ℕ) : List EventoBotao → ModoOperacao
  | [] => .normal
  | .amostra us btnRaw :: h =>
      if Falls 120 t₀ (amostras h) ⟨us / 1000, btnRaw⟩ then
        match modoDobrado t₀ h with
        | .normal => .duo
        | .duo => .mix
        | .mix => .normal
      else modoDobrado t₀ h
  | .comando modo :: _ => modo

/-! ## The invariant -/

/-- The statics follow the sample history `h` that began at `t₀`. -/
structure Segue (t₀ : ℕ) (h : List Sample) (s : Modos) : Prop where
  raw : s.sBtnLastRaw = lastHigh h
  stamp : s.sLastDebounceMs = reading (runStart t₀ h)
  stable : s.sBtnStable = level 120 t₀ h
  /-- An old run has been noticed. -/
  old : runStart t₀ h + 120 < lastTime t₀ h → level 120 t₀ h = lastHigh h

theorem segue_init (us : ℕ) (s : Modos) : Segue (us / 1000) [] (modosInit us s) := by
  constructor
  · rfl
  · simp [modosInit, runStart, millis32]
  · rfl
  · intro _
    rfl

theorem Segue.modosSet {t₀ : ℕ} {h : List Sample} {s : Modos} (hs : Segue t₀ h s)
    (modo : ModoOperacao) : Segue t₀ h (modosSet modo s) := by
  constructor
  · rw [modosSet_sBtnLastRaw, hs.raw]
  · rw [modosSet_sLastDebounceMs, hs.stamp]
  · rw [modosSet_sBtnStable, hs.stable]
  · exact hs.old

variable {t₀ us : ℕ} {btnRaw : Bool} {h : List Sample} {s : Modos}

theorem Segue.carimbo (hs : Segue t₀ h s) :
    carimboBotao us btnRaw s = reading (runStart t₀ (⟨us / 1000, btnRaw⟩ :: h)) := by
  unfold carimboBotao
  rw [runStart_cons, hs.raw, hs.stamp]
  split
  · rfl
  · rfl

/-- Within one turn of the register the 32-bit age is the age. -/
theorem debounce_iff {a b : ℕ} (hab : a ≤ b) (hlt : b < a + 2 ^ 32) :
    modeButtonDebounceMs < reading b - reading a ↔ a + 120 < b := by
  rw [UInt32.lt_iff_toNat_lt, sub_toNat_of_lt hab hlt]
  show 120 < b - a ↔ _
  omega

/-- **The stable level of one sample more.** -/
theorem Segue.stable_cons (hs : Segue t₀ h s)
    (hspaced : Spaced t₀ (2 ^ 32 - 121) (⟨us / 1000, btnRaw⟩ :: h)) :
    (if modeButtonDebounceMs < millis32 us - carimboBotao us btnRaw s then btnRaw
      else s.sBtnStable) = level 120 t₀ (⟨us / 1000, btnRaw⟩ :: h) := by
  obtain ⟨hle, hgap, hspaced⟩ := hspaced
  have hstart := runStart_le_lastTime hspaced
  rw [hs.carimbo, hs.stable, millis32]
  simp only [level]
  rw [runStart_cons]
  dsimp only at hle hgap ⊢
  split
  · next hraw =>
      by_cases hold : runStart t₀ h + 120 < lastTime t₀ h
      · -- the run was noticed before: both sides are the raw level
        have hold' : runStart t₀ h + 120 < us / 1000 := by omega
        rw [if_pos hold', hs.old hold, ← hraw, ite_self]
      · have hiff := debounce_iff (hstart.trans hle) (by omega)
        simp only [hiff]
  · -- a run that begins with this sample has no age
    have hiff := debounce_iff (Nat.le_refl (us / 1000)) (by omega)
    simp only [hiff]

/-- **One sample.** -/
theorem Segue.modosDebounce (hs : Segue t₀ h s)
    (hspaced : Spaced t₀ (2 ^ 32 - 121) (⟨us / 1000, btnRaw⟩ :: h)) :
    Segue t₀ (⟨us / 1000, btnRaw⟩ :: h) (modosDebounce us btnRaw s).1 ∧
      ((modosDebounce us btnRaw s).2 = true ↔ Falls 120 t₀ h ⟨us / 1000, btnRaw⟩) := by
  have hstable := hs.stable_cons hspaced
  rw [modosDebounce_eq]
  constructor
  · exact ⟨rfl, hs.carimbo, hstable, fun hold => level_cons_of_lt hold⟩
  · unfold Falls
    rw [← hstable, ← hs.stable]
    dsimp only
    split
    · next hold => simp [hold]
    · next hold => simp [hold]

theorem modosUpdateButton_of_edge {s : Modos} (h : (modosDebounce us btnRaw s).2 = true) :
    modosUpdateButton us btnRaw s = modosNext (modosDebounce us btnRaw s).1 := by
  simp [modosUpdateButton, h]

theorem modosUpdateButton_of_no_edge {s : Modos}
    (h : ¬ (modosDebounce us btnRaw s).2 = true) :
    modosUpdateButton us btnRaw s = (modosDebounce us btnRaw s).1 := by
  simp [modosUpdateButton, h]

/-! ## Whole histories -/

/-- **The run.** At every point of a history whose samples come in order, none
more than `2^32 - 121` ms after the one before, the statics follow the samples and
the mode is the fold. -/
theorem estadoBotao_segue (initUs : ℕ) (s₀ : Modos) (h : List EventoBotao)
    (hspaced : Spaced (initUs / 1000) (2 ^ 32 - 121) (amostras h)) :
    Segue (initUs / 1000) (amostras h) (estadoBotao initUs s₀ h) ∧
      (estadoBotao initUs s₀ h).sModo = modoDobrado (initUs / 1000) h := by
  induction h with
  | nil => exact ⟨segue_init initUs s₀, rfl⟩
  | cons e h ih =>
      cases e with
      | comando modo =>
          obtain ⟨hsegue, -⟩ := ih hspaced
          exact ⟨hsegue.modosSet modo, modosSet_sModo modo _⟩
      | amostra us btnRaw =>
          obtain ⟨hsegue, hmodo⟩ := ih hspaced.2.2
          obtain ⟨hsegue', hedge⟩ := hsegue.modosDebounce hspaced
          simp only [estadoBotao, modoDobrado, ← hedge]
          split
          · next hfalls =>
              rw [modosUpdateButton_of_edge hfalls]
              refine ⟨hsegue'.modosSet _, ?_⟩
              rw [modosNext, modosSet_sModo, modosDebounce_sModo, hmodo]
              -- The cycle of the code is the one written out above.
              cases modoDobrado (initUs / 1000) h <;> rfl
          · next hfalls =>
              rw [modosUpdateButton_of_no_edge hfalls]
              refine ⟨hsegue', ?_⟩
              rw [modosDebounce_sModo, hmodo]

/-- **The button.** The stable level is the debounced level, the mode is the fold
of its falling edges and the commands, and between two edges the input was sampled
high over a run of more than 120 ms. -/
theorem botao_exato (initUs : ℕ) (s₀ : Modos) (h : List EventoBotao)
    (hspaced : Spaced (initUs / 1000) (2 ^ 32 - 121) (amostras h)) :
    (estadoBotao initUs s₀ h).sBtnStable = level 120 (initUs / 1000) (amostras h) ∧
    (estadoBotao initUs s₀ h).sModo = modoDobrado (initUs / 1000) h ∧
    ∀ post mid pre a₁ a₂, amostras h = post ++ a₂ :: (mid ++ a₁ :: pre) →
      Falls 120 (initUs / 1000) pre a₁ →
      Falls 120 (initUs / 1000) (mid ++ a₁ :: pre) a₂ →
      ∃ x r z first last, mid = x ++ (r ++ z) ∧ (∀ a ∈ r, a.high = true) ∧
        r.head? = some last ∧ r.getLast? = some first ∧
        first.time + 120 < last.time := by
  obtain ⟨hsegue, hmodo⟩ := estadoBotao_segue initUs s₀ h hspaced
  refine ⟨hsegue.stable, hmodo, ?_⟩
  intro post mid pre a₁ a₂ _ h₁ h₂
  exact exists_high_run h₁ h₂

/-- A press that bounces, a remote command, 49 days of nothing, and a press across
the turn of the millisecond register. -/
def doisToques : List EventoBotao :=
  [.amostra 4294968500000 false, .amostra 4294968100000 false,
    .amostra 4294967400000 true, .amostra 4294967270000 true, .comando .normal,
    .amostra 700000 false, .amostra 560000 false, .amostra 550000 true,
    .amostra 500000 false, .amostra 20000 true]

theorem doisToques_exato :
    (estadoBotao 0 {} doisToques).sModo = .duo ∧
      (estadoBotao 0 {} doisToques).sBtnStable = false := by
  have hspaced : Spaced 0 (2 ^ 32 - 121) (amostras doisToques) := by
    simp [doisToques, amostras, Spaced, lastTime]
  obtain ⟨hstable, hmodo, -⟩ := botao_exato 0 {} doisToques hspaced
  rw [hstable, hmodo]
  decide

end HidroControl
