import HidroControl.Hardware

/-!
# `modos.cpp` — the operating mode and its button

`s_modo` is shared: the control task writes it through the button
(`modos_update_button` → `modos_next` → `modos_set`), the MQTT task through a
remote command (`modos_set`). The functions are modelled twice. As plain
functions they run to completion; as `PassoModo` they run one access of `s_modo`
at a time, for the modules that let the two tasks interleave.
`PassoModo.executa_eq` says the second is the first when nobody interferes.
-/

namespace HidroControl

inductive ModoOperacao where
  | normal
  | duo
  | mix
deriving DecidableEq, Repr

/-- The statics of `modos.cpp`. HIGH (`true`) is the released button. -/
structure Modos where
  sModo : ModoOperacao := .normal
  sBtnStable : Bool := true
  sBtnLastRaw : Bool := true
  sLastDebounceMs : UInt32 := 0

def modosInit (us : ℕ) (_ : Modos) : Modos :=
  { sModo := .normal
    sBtnStable := true
    sBtnLastRaw := true
    sLastDebounceMs := millis32 us }

def modosSet (modo : ModoOperacao) (s : Modos) : Modos :=
  if modo = s.sModo then s else { s with sModo := modo }

/-- The mode the `switch` of `modos_next` hands to `modos_set`. -/
def ModoOperacao.proximo : ModoOperacao → ModoOperacao
  | .normal => .duo
  | .duo => .mix
  | .mix => .normal

def modosNext (s : Modos) : Modos := modosSet s.sModo.proximo s

/-- `modos_update_button` up to its only call: the new debounce statics, and
whether a stable HIGH-to-LOW edge was seen, in which case `modos_next` runs. -/
def modosDebounce (us : ℕ) (btnRaw : Bool) (s : Modos) : Modos × Bool :=
  let now := millis32 us
  let s :=
    if btnRaw != s.sBtnLastRaw then
      { s with sBtnLastRaw := btnRaw, sLastDebounceMs := now }
    else s
  if modeButtonDebounceMs < now - s.sLastDebounceMs then
    if s.sBtnStable != s.sBtnLastRaw then
      let oldStable := s.sBtnStable
      let s := { s with sBtnStable := s.sBtnLastRaw }
      (s, oldStable && !s.sBtnStable)
    else (s, false)
  else (s, false)

def modosUpdateButton (us : ℕ) (btnRaw : Bool) (s : Modos) : Modos :=
  let (s', borda) := modosDebounce us btnRaw s
  if borda then modosNext s' else s'

def modosGet (s : Modos) : ModoOperacao := s.sModo

/-- The `default` of the source's `switch` has no value of the enumeration left
to catch. -/
def modosNome : ModoOperacao → String
  | .normal => "NORMAL"
  | .duo => "DUO"
  | .mix => "MIX"

@[simp] theorem modosSet_sModo (m : ModoOperacao) (s : Modos) :
    (modosSet m s).sModo = m := by
  unfold modosSet
  split
  · next h => exact h.symm
  · rfl

theorem modosNome_injective : Function.Injective modosNome := by
  intro a b
  cases a <;> cases b <;> decide

theorem modosDebounce_sModo (us : ℕ) (btnRaw : Bool) (s : Modos) :
    (modosDebounce us btnRaw s).1.sModo = s.sModo := by
  unfold modosDebounce
  dsimp only
  split_ifs <;> rfl

/-- The stamp a sample leaves: its own time if the level has just changed. -/
def carimboBotao (us : ℕ) (btnRaw : Bool) (s : Modos) : UInt32 :=
  if btnRaw = s.sBtnLastRaw then s.sLastDebounceMs else millis32 us

/-- **What a sample does.** The stable level follows the raw one when the stamp is
old enough, and the edge is its fall. -/
theorem modosDebounce_eq (us : ℕ) (btnRaw : Bool) (s : Modos) :
    modosDebounce us btnRaw s =
      ({ s with
          sBtnLastRaw := btnRaw
          sLastDebounceMs := carimboBotao us btnRaw s
          sBtnStable :=
            if modeButtonDebounceMs < millis32 us - carimboBotao us btnRaw s then btnRaw
            else s.sBtnStable },
        decide (modeButtonDebounceMs < millis32 us - carimboBotao us btnRaw s) &&
          (s.sBtnStable && !btnRaw)) := by
  have hs : (if btnRaw != s.sBtnLastRaw then
        { s with sBtnLastRaw := btnRaw, sLastDebounceMs := millis32 us }
      else s) =
      { s with sBtnLastRaw := btnRaw, sLastDebounceMs := carimboBotao us btnRaw s } := by
    unfold carimboBotao
    by_cases hraw : btnRaw = s.sBtnLastRaw
    · subst hraw
      simp
    · simp [hraw]
  unfold modosDebounce
  dsimp only
  rw [hs]
  by_cases hold : modeButtonDebounceMs < millis32 us - carimboBotao us btnRaw s
  · cases hstable : s.sBtnStable <;> cases btnRaw <;> simp [hold]
  · simp [hold]

@[simp] theorem modosSet_sBtnStable (m : ModoOperacao) (s : Modos) :
    (modosSet m s).sBtnStable = s.sBtnStable := by
  unfold modosSet
  split <;> rfl

@[simp] theorem modosSet_sBtnLastRaw (m : ModoOperacao) (s : Modos) :
    (modosSet m s).sBtnLastRaw = s.sBtnLastRaw := by
  unfold modosSet
  split <;> rfl

@[simp] theorem modosSet_sLastDebounceMs (m : ModoOperacao) (s : Modos) :
    (modosSet m s).sLastDebounceMs = s.sLastDebounceMs := by
  unfold modosSet
  split <;> rfl

/-! ## The cycle of modes -/

theorem ModoOperacao.proximo_ne (m : ModoOperacao) : m.proximo ≠ m := by
  cases m <;> decide

/-! ## One access at a time -/

/-- Where a task stands inside `modos_next` and `modos_set`. Each constructor
but `fim` is about to make one access of `s_modo`. -/
inductive PassoModo where
  /-- `modos_next`: the `switch (s_modo)`. -/
  | le
  /-- `modos_set`: the test `modo == s_modo`. -/
  | compara (modo : ModoOperacao)
  /-- `modos_set`: the assignment. -/
  | grava (modo : ModoOperacao)
  /-- `modos_set`: the log line reads `s_modo` back. -/
  | registra
  | fim
deriving DecidableEq, Repr

/-- One access: the next program point and the new `s_modo`. -/
def PassoModo.passo : PassoModo → ModoOperacao → PassoModo × ModoOperacao
  | .le, m => (.compara m.proximo, m)
  | .compara modo, m => (if modo = m then .fim else .grava modo, m)
  | .grava modo, _ => (.registra, modo)
  | .registra, m => (.fim, m)
  | .fim, m => (.fim, m)

def PassoModo.executa (p : PassoModo) (m : ModoOperacao) :
    PassoModo × ModoOperacao :=
  let f := fun (x : PassoModo × ModoOperacao) => x.1.passo x.2
  f (f (f (f (p, m))))

/-- Undisturbed, the stepwise `modos_next` and `modos_set` finish with the
result of the functions. -/
theorem PassoModo.executa_eq (s : Modos) (modo : ModoOperacao) :
    PassoModo.le.executa s.sModo = (.fim, (modosNext s).sModo) ∧
      (PassoModo.compara modo).executa s.sModo =
        (.fim, (modosSet modo s).sModo) := by
  simp only [modosNext, modosSet_sModo]
  generalize s.sModo = m
  constructor
  · cases m <;> rfl
  · cases m <;> cases modo <;> rfl

end HidroControl
