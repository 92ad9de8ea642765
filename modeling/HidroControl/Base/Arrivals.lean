import Mathlib.Data.Nat.Find
import Mathlib.Order.Interval.Finset.Nat
import Mathlib.Tactic.Common

/-!
# Arrivals on a discrete time line

A source of events is the set of instants at which it fires. What a counter
that started at instant `a` shows just before instant `b` is the number of
instants of `[a, b)` in the set, so the difference of two showings is the number
of events in between, and it vanishes exactly when there were none.
-/

namespace Arrivals

variable {h : ℕ → Bool}

def count (h : ℕ → Bool) (a b : ℕ) : ℕ :=
  ((Finset.Ico a b).filter (fun p => h p = true)).card

theorem count_eq_zero_iff {a b : ℕ} :
    count h a b = 0 ↔ ∀ p, a ≤ p → p < b → h p = false := by
  simp only [count, Finset.card_eq_zero, Finset.filter_eq_empty_iff,
    Finset.mem_Ico, Bool.not_eq_true, and_imp]

theorem count_ne_zero_iff {a b : ℕ} :
    count h a b ≠ 0 ↔ ∃ p, a ≤ p ∧ p < b ∧ h p = true := by
  rw [Ne, count_eq_zero_iff]
  push Not
  simp only [ne_eq, Bool.not_eq_false]

@[simp] theorem count_self (a : ℕ) : count h a a = 0 := by
  rw [count_eq_zero_iff]
  omega

theorem count_le (a b : ℕ) : count h a b ≤ b - a := by
  unfold count
  exact (Finset.card_filter_le _ _).trans (Nat.card_Ico a b).le

/-- A finite set of arrivals is counted in full by a window that holds it. -/
theorem count_finset {S : Finset ℕ} {a b : ℕ} (h : ∀ p ∈ S, a ≤ p ∧ p < b) :
    count (fun p => decide (p ∈ S)) a b = S.card := by
  unfold count
  congr 1
  ext p
  simp only [Finset.mem_filter, Finset.mem_Ico, decide_eq_true_eq]
  exact ⟨And.right, fun hp => ⟨h p hp, hp⟩⟩

theorem count_split {a b c : ℕ} (hab : a ≤ b) (hbc : b ≤ c) :
    count h a c = count h a b + count h b c := by
  unfold count
  rw [← Finset.Ico_union_Ico_eq_Ico hab hbc, Finset.filter_union,
    Finset.card_union_of_disjoint]
  exact Finset.disjoint_filter_filter (Finset.Ico_disjoint_Ico_consecutive a b c)

/-- One instant more. -/
theorem count_succ {a b : ℕ} (hab : a ≤ b) :
    count h a (b + 1) = count h a b + if h b = true then 1 else 0 := by
  rw [count_split hab (Nat.le_succ b)]
  congr 1
  unfold count
  rw [Nat.Ico_succ_singleton, Finset.filter_singleton]
  split <;> rfl

theorem exists_last {p t : ℕ} (hp : h p = true) (hpt : p ≤ t) :
    ∃ q, p ≤ q ∧ q ≤ t ∧ h q = true ∧ ∀ r, q < r → r ≤ t → h r = false := by
  refine ⟨Nat.findGreatest (fun r => h r = true) t,
    Nat.le_findGreatest hpt hp, Nat.findGreatest_le t,
    Nat.findGreatest_spec (P := fun r => h r = true) hpt hp, ?_⟩
  intro r hlt hle
  simpa using Nat.findGreatest_is_greatest hlt hle

end Arrivals
