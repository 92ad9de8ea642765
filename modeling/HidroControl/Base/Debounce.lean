import Mathlib.Data.List.TakeWhile
import Mathlib.Algebra.Order.Ring.Nat
import Mathlib.Tactic.Common

/-!
# The debounced level of a sampled input

An input is sampled at times of the sampler's choosing. The *run* of a sample is
the stretch of equal samples that ends with it, and the debounced level follows
the raw one once the run has lasted more than `D` ticks. Before the first sample
the input counts as high, since `t₀`.

Histories have their latest sample first. The definitions speak of whole runs;
`runStart_cons` is what a device can keep of them, one time.
-/

namespace Debounce

structure Sample where
  time : ℕ
  high : Bool
deriving DecidableEq

/-- The stretch of equal samples at the end of the history. -/
def run : List Sample → List Sample
  | [] => []
  | a :: h => (a :: h).takeWhile (fun b => b.high == a.high)

/-- When the run began: at its first sample, or at `t₀` when the input has been
high all the time. -/
def runStart (t₀ : ℕ) (h : List Sample) : ℕ :=
  if ∀ a ∈ h, a.high = true then t₀
  else ((run h).getLast?.map Sample.time).getD t₀

/-- The debounced level after a history. -/
def level (D t₀ : ℕ) : List Sample → Bool
  | [] => true
  | a :: h => if runStart t₀ (a :: h) + D < a.time then a.high else level D t₀ h

/-- The sample `a` after the history `h` is a falling edge of the debounced
level. -/
def Falls (D t₀ : ℕ) (h : List Sample) (a : Sample) : Prop :=
  level D t₀ h = true ∧ level D t₀ (a :: h) = false

instance (D t₀ : ℕ) (h : List Sample) (a : Sample) : Decidable (Falls D t₀ h a) :=
  inferInstanceAs (Decidable (_ ∧ _))

/-- The raw level the history ends with. -/
def lastHigh : List Sample → Bool
  | [] => true
  | a :: _ => a.high

def lastTime (t₀ : ℕ) : List Sample → ℕ
  | [] => t₀
  | a :: _ => a.time

/-! ## One sample more -/

theorem run_cons (a : Sample) (h : List Sample) :
    run (a :: h) = (a :: h).takeWhile (fun b => b.high == a.high) := rfl

theorem run_cons_of_eq {a b : Sample} {h : List Sample} (hab : a.high = b.high) :
    run (a :: b :: h) = a :: run (b :: h) := by
  simp [run, hab]

theorem run_cons_of_ne {a b : Sample} {h : List Sample} (hab : b.high ≠ a.high) :
    run (a :: b :: h) = [a] := by
  simp [run, hab]

theorem run_cons_ne_nil (a : Sample) (h : List Sample) : run (a :: h) ≠ [] := by
  simp [run]

/-- **One time is enough.** The start of the run moves exactly when the level
changes. -/
theorem runStart_cons (t₀ : ℕ) (a : Sample) (h : List Sample) :
    runStart t₀ (a :: h) =
      if a.high = lastHigh h then runStart t₀ h else a.time := by
  cases h with
  | nil =>
      cases hhigh : a.high <;> simp [runStart, run, lastHigh, hhigh]
  | cons b h =>
      by_cases hab : a.high = b.high
      · have hlast : (run (a :: b :: h)).getLast? = (run (b :: h)).getLast? := by
          rw [run_cons_of_eq hab, List.getLast?_cons,
            List.getLast?_eq_some_getLast (run_cons_ne_nil b h), Option.getD_some]
        have hall : (∀ c ∈ a :: b :: h, c.high = true) ↔
            ∀ c ∈ b :: h, c.high = true := by
          simp [hab]
        rw [lastHigh, if_pos hab]
        simp only [runStart, hlast, hall]
      · have hmix : ¬ ∀ c ∈ a :: b :: h, c.high = true := by
          intro hall
          apply hab
          rw [hall a (by simp), hall b (by simp)]
        rw [runStart, if_neg hmix, run_cons_of_ne (Ne.symm hab), lastHigh, if_neg hab]
        rfl

/-- Samples in order of time, each at most `G` ticks after the one before. -/
def Spaced (t₀ G : ℕ) : List Sample → Prop
  | [] => True
  | a :: h => lastTime t₀ h ≤ a.time ∧ a.time ≤ lastTime t₀ h + G ∧ Spaced t₀ G h

theorem runStart_le_lastTime {t₀ G : ℕ} {h : List Sample} (hs : Spaced t₀ G h) :
    runStart t₀ h ≤ lastTime t₀ h := by
  induction h with
  | nil => simp [runStart, lastTime]
  | cons a h ih =>
      obtain ⟨hle, -, hs⟩ := hs
      rw [runStart_cons]
      split
      · exact (ih hs).trans hle
      · exact le_rfl

/-! ## Edges -/

theorem level_cons_of_lt {D t₀ : ℕ} {a : Sample} {h : List Sample}
    (hold : runStart t₀ (a :: h) + D < a.time) : level D t₀ (a :: h) = a.high :=
  if_pos hold

theorem level_cons_of_not_lt {D t₀ : ℕ} {a : Sample} {h : List Sample}
    (hyoung : ¬ runStart t₀ (a :: h) + D < a.time) :
    level D t₀ (a :: h) = level D t₀ h :=
  if_neg hyoung

/-- The level changes at a sample only to the raw level, once the run is old. -/
theorem of_level_cons_ne {D t₀ : ℕ} {a : Sample} {h : List Sample}
    (hne : level D t₀ (a :: h) ≠ level D t₀ h) :
    runStart t₀ (a :: h) + D < a.time ∧ level D t₀ (a :: h) = a.high := by
  by_cases hold : runStart t₀ (a :: h) + D < a.time
  · exact ⟨hold, level_cons_of_lt hold⟩
  · exact absurd (level_cons_of_not_lt hold) hne

theorem Falls.low {D t₀ : ℕ} {h : List Sample} {a : Sample} (hf : Falls D t₀ h a) :
    a.high = false := by
  obtain ⟨hbefore, hafter⟩ := hf
  have hne : level D t₀ (a :: h) ≠ level D t₀ h := by simp [hbefore, hafter]
  rw [← (of_level_cons_ne hne).2, hafter]

/-- A level that is high after more samples than it was low after rose at one of
them. -/
theorem exists_rise {D t₀ : ℕ} {pre : List Sample} (hpre : level D t₀ pre = false)
    (mid : List Sample) (hmid : level D t₀ (mid ++ pre) = true) :
    ∃ x b y, mid = x ++ b :: y ∧ level D t₀ (y ++ pre) = false ∧
      level D t₀ (b :: (y ++ pre)) = true := by
  induction mid with
  | nil =>
      rw [List.nil_append, hpre] at hmid
      exact absurd hmid Bool.false_ne_true
  | cons b mid ih =>
      -- the rise is at `b`, or was before it
      cases hlevel : level D t₀ (mid ++ pre) with
      | false => exact ⟨[], b, mid, rfl, hlevel, hmid⟩
      | true =>
          obtain ⟨x, b', y, rfl, hlow, hhigh⟩ := ih hlevel
          exact ⟨b :: x, b', y, rfl, hlow, hhigh⟩

theorem takeWhile_append_cons_of_neg {α : Type*} {p : α → Bool} {a : α}
    (ha : p a = false) (l m : List α) :
    (l ++ a :: m).takeWhile p = l.takeWhile p := by
  induction l with
  | nil => simp [ha]
  | cons b l ih => cases hb : p b <;> simp [hb, ih]

/-- A run of high samples that is stopped by a low one behind it. -/
theorem runStart_of_stopped (t₀ : ℕ) {b a : Sample} (y pre : List Sample)
    (hb : b.high = true) (ha : a.high = false) :
    ∃ r z f, b :: y = r ++ z ∧ (∀ s ∈ r, s.high = true) ∧ r.head? = some b ∧
      r.getLast? = some f ∧ runStart t₀ (b :: (y ++ a :: pre)) = f.time := by
  have hmix : ¬ ∀ c ∈ b :: (y ++ a :: pre), c.high = true := by
    intro hall
    have hhigh := hall a (by simp)
    rw [ha] at hhigh
    exact Bool.false_ne_true hhigh
  have hrun : run (b :: (y ++ a :: pre)) = run (b :: y) := by
    rw [run_cons, run_cons, ← List.cons_append]
    exact takeWhile_append_cons_of_neg (by simp [ha, hb]) _ _
  have hlast := List.getLast?_eq_some_getLast (run_cons_ne_nil b y)
  refine ⟨run (b :: y), (b :: y).dropWhile (fun c => c.high == b.high), _,
    ?_, ?_, ?_, hlast, ?_⟩
  · rw [run_cons, List.takeWhile_append_dropWhile]
  · intro s hs
    have := List.mem_takeWhile_imp hs
    simpa [hb] using this
  · simp [run]
  · rw [runStart, if_neg hmix, hrun, hlast]
    rfl

/-- **Between two falling edges** the input was sampled high over a run that
lasted more than `D` ticks. -/
theorem exists_high_run {D t₀ : ℕ} {pre mid : List Sample} {a₁ a₂ : Sample}
    (h₁ : Falls D t₀ pre a₁) (h₂ : Falls D t₀ (mid ++ a₁ :: pre) a₂) :
    ∃ x r z f b, mid = x ++ (r ++ z) ∧ (∀ s ∈ r, s.high = true) ∧ r.head? = some b ∧
      r.getLast? = some f ∧ f.time + D < b.time := by
  obtain ⟨x, b, y, rfl, hlow, hhigh⟩ := exists_rise h₁.2 mid h₂.1
  have hne : level D t₀ (b :: (y ++ a₁ :: pre)) ≠ level D t₀ (y ++ a₁ :: pre) := by
    simp [hlow, hhigh]
  obtain ⟨hold, hraw⟩ := of_level_cons_ne hne
  obtain ⟨r, z, f, hsplit, hr, hhead, hlast, hstart⟩ :=
    runStart_of_stopped t₀ y pre (hraw.symm.trans hhigh) h₁.low
  exact ⟨x, r, z, f, b, by rw [hsplit], hr, hhead, hlast, hstart ▸ hold⟩

end Debounce
