import Mathlib.Data.Nat.Init
import Mathlib.Algebra.Order.Ring.Nat
import Mathlib.Tactic.Choose

/-!
# Trajectories of a deterministic step under a stream of inputs

A program that loops forever is a step function fed one input a turn. Its
*trajectory* is the state before each turn. The file holds the induction every
run-level result goes through (`invariant`, `related`, `related_until`), and
the law of a **latch**: a register that is overwritten exactly in the turns
where an event happens holds the value of the last such turn, however long ago
it was. The last section chooses a second trajectory along the first, turn by turn
(`exists_thread`), and takes the limit of what was chosen (`exists_limit`).
-/

namespace Trajectory

variable {σ τ ι κ α : Type*}

/-- The state before turn `n`, started in `s₀` and fed `inp 0`, `inp 1`, … -/
def state (step : ι → σ → σ) (s₀ : σ) (inp : ℕ → ι) : ℕ → σ
  | 0 => s₀
  | n + 1 => step (inp n) (state step s₀ inp n)

theorem state_succ (step : ι → σ → σ) (s₀ : σ) (inp : ℕ → ι) (n : ℕ) :
    state step s₀ inp (n + 1) = step (inp n) (state step s₀ inp n) := rfl

/-- **Invariant rule.** What holds at the start and is kept by every turn holds
before every turn. The turn number is part of the invariant, so it may speak of
the inputs consumed so far. -/
theorem invariant {step : ι → σ → σ} {s₀ : σ} {inp : ℕ → ι}
    (P : ℕ → σ → Prop) (h0 : P 0 s₀)
    (hstep : ∀ n s, P n s → P (n + 1) (step (inp n) s)) :
    ∀ n, P n (state step s₀ inp n) := by
  intro n
  induction n with
  | zero => exact h0
  | succ n ih => exact hstep n _ ih

/-- **Two-run rule.** A relation between the states of two machines that every
pair of turns keeps holds all along their two trajectories. -/
theorem related {step : ι → σ → σ} {step' : κ → τ → τ} {s₀ : σ} {t₀ : τ}
    {inp : ℕ → ι} {inp' : ℕ → κ} (R : σ → τ → Prop) (h0 : R s₀ t₀)
    (hstep : ∀ n, R (state step s₀ inp n) (state step' t₀ inp' n) →
      R (step (inp n) (state step s₀ inp n))
        (step' (inp' n) (state step' t₀ inp' n))) :
    ∀ n, R (state step s₀ inp n) (state step' t₀ inp' n) := by
  intro n
  induction n with
  | zero => exact h0
  | succ n ih => exact hstep n ih

/-- The two-run rule up to a horizon: the turns before `N` are all the step
obligation has to cover. -/
theorem related_until {step : ι → σ → σ} {step' : κ → τ → τ} {s₀ : σ} {t₀ : τ}
    {inp : ℕ → ι} {inp' : ℕ → κ} (R : σ → τ → Prop) (h0 : R s₀ t₀) {N : ℕ}
    (hstep : ∀ n < N, R (state step s₀ inp n) (state step' t₀ inp' n) →
      R (step (inp n) (state step s₀ inp n))
        (step' (inp' n) (state step' t₀ inp' n))) :
    ∀ n ≤ N, R (state step s₀ inp n) (state step' t₀ inp' n) := by
  intro n
  induction n with
  | zero => exact fun _ => h0
  | succ n ih => exact fun hn => hstep n (by omega) (ih (by omega))

/-! ## Last occurrences and latches -/

/-- `m` is the last turn before `n` in which `p` happens. -/
structure LastBefore (p : ℕ → Prop) (n m : ℕ) : Prop where
  lt : m < n
  holds : p m
  after : ∀ k, m < k → k < n → ¬ p k

theorem LastBefore.unique {p : ℕ → Prop} {n m m' : ℕ}
    (h : LastBefore p n m) (h' : LastBefore p n m') : m = m' := by
  rcases lt_trichotomy m m' with hlt | heq | hgt
  · exact absurd h'.holds (h.after m' hlt h'.lt)
  · exact heq
  · exact absurd h.holds (h'.after m hgt h.lt)

theorem LastBefore.le {p : ℕ → Prop} {n m k : ℕ} (h : LastBefore p n m)
    (hk : k < n) (hp : p k) : k ≤ m := by
  by_contra hlt
  exact h.after k (by omega) hk hp

theorem lastBefore_succ {p : ℕ → Prop} {n : ℕ} (h : p n) :
    LastBefore p (n + 1) n :=
  ⟨Nat.lt_succ_self n, h, fun _ h1 h2 => absurd h1 (by omega)⟩

theorem LastBefore.skip {p : ℕ → Prop} {n m : ℕ} (h : LastBefore p n m)
    (hn : ¬ p n) : LastBefore p (n + 1) m := by
  refine ⟨Nat.lt_succ_of_lt h.lt, h.holds, fun k h1 h2 hp => ?_⟩
  rcases Nat.lt_succ_iff_lt_or_eq.mp h2 with hlt | rfl
  · exact h.after k h1 hlt hp
  · exact hn hp

theorem none_before_succ {p : ℕ → Prop} {n : ℕ} (h : ∀ k < n, ¬ p k)
    (hn : ¬ p n) : ∀ k < n + 1, ¬ p k := by
  intro k hk
  rcases Nat.lt_succ_iff_lt_or_eq.mp hk with hlt | rfl
  · exact h k hlt
  · exact hn

/-- **Latch law.** A register that takes the value `v n` in the turns where `p`
happens and keeps its value in the others holds its initial value as long as
nothing happened, and the value of the last occurrence ever after. -/
theorem latch {p : ℕ → Prop} (reg v : ℕ → α)
    (hset : ∀ n, p n → reg (n + 1) = v n)
    (hkeep : ∀ n, ¬ p n → reg (n + 1) = reg n) (n : ℕ) :
    ((∀ k < n, ¬ p k) ∧ reg n = reg 0) ∨
      ∃ m, LastBefore p n m ∧ reg n = v m := by
  induction n with
  | zero => exact Or.inl ⟨fun k hk => absurd hk (Nat.not_lt_zero k), rfl⟩
  | succ n ih =>
      by_cases hn : p n
      · exact Or.inr ⟨n, lastBefore_succ hn, hset n hn⟩
      · rcases ih with ⟨hnone, hreg⟩ | ⟨m, hm, hreg⟩
        · exact Or.inl ⟨none_before_succ hnone hn, by rw [hkeep n hn, hreg]⟩
        · exact Or.inr ⟨m, hm.skip hn, by rw [hkeep n hn, hreg]⟩

/-! ## A second run chosen along the first -/

/-- **Thread rule.** If some value suits turn `0`, and one that suits a turn always
has a continuation that suits the next, then one choice of values goes along all
turns. -/
theorem exists_thread {P : ℕ → α → Prop} {E : ℕ → α → α → Prop} {a₀ : α}
    (h0 : P 0 a₀) (hstep : ∀ n a, P n a → ∃ b, P (n + 1) b ∧ E n a b) :
    ∃ f : ℕ → α, ∀ n, P n (f n) ∧ E n (f n) (f (n + 1)) := by
  have : Nonempty α := ⟨a₀⟩
  choose! g hP hE using hstep
  have hall : ∀ n, P n (state g a₀ id n) := by
    intro n
    induction n with
    | zero => exact h0
    | succ n ih => exact hP n _ ih
  exact ⟨state g a₀ id, fun n => ⟨hall n, hE n _ (hall n)⟩⟩

/-- Sequences of which each begins with the first `k n` terms of the one before agree
with every later one there. -/
theorem agree_of_le {f : ℕ → ℕ → α} {k : ℕ → ℕ} (hk : Monotone k)
    (h : ∀ n, ∀ j < k n, f (n + 1) j = f n j) {m n : ℕ} (hmn : m ≤ n) :
    ∀ j < k m, f n j = f m j := by
  induction n, hmn using Nat.le_induction with
  | base => exact fun _ _ => rfl
  | succ n hmn ih =>
      intro j hj
      rw [h n j (hj.trans_le (hk hmn)), ih j hj]

/-- **Limit.** Such sequences have a limit: it begins like each of them, and any two
neighbours in it are neighbours in one of them. -/
theorem exists_limit {f : ℕ → ℕ → α} {k : ℕ → ℕ} (hk : Monotone k)
    (h : ∀ n, ∀ j < k n, f (n + 1) j = f n j) :
    ∃ g : ℕ → α, (∀ n, ∀ j < k n, g j = f n j) ∧
      ∀ j, ∃ n, g j = f n j ∧ g (j + 1) = f n (j + 1) := by
  by_cases hmax : ∃ N, ∀ n, k n ≤ k N
  · -- from some turn on nothing is added
    obtain ⟨N, hN⟩ := hmax
    refine ⟨f N, fun n j hj => ?_, fun j => ⟨N, rfl, rfl⟩⟩
    rcases le_total n N with hle | hle
    · exact agree_of_le hk h hle j hj
    · exact (agree_of_le hk h hle j (hj.trans_le (hN n))).symm
  · -- every place is filled sooner or later
    push Not at hmax
    have hfill : ∀ j, ∃ n, j < k n := by
      intro j
      induction j with
      | zero =>
          obtain ⟨n, hn⟩ := hmax 0
          exact ⟨n, Nat.zero_lt_of_lt hn⟩
      | succ j ih =>
          obtain ⟨m, hm⟩ := ih
          obtain ⟨n, hn⟩ := hmax m
          exact ⟨n, Nat.lt_of_le_of_lt hm hn⟩
    choose w hw using hfill
    have hlim : ∀ n, ∀ j < k n, f (w j) j = f n j := by
      intro n j hj
      rcases le_total n (w j) with hle | hle
      · exact agree_of_le hk h hle j hj
      · exact (agree_of_le hk h hle j (hw j)).symm
    refine ⟨fun j => f (w j) j, hlim, fun j => ⟨w (j + 1), ?_, rfl⟩⟩
    exact hlim _ j (Nat.lt_of_succ_lt (hw (j + 1)))

end Trajectory
