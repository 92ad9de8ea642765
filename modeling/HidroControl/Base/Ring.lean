import Mathlib.Data.List.Induction
import Mathlib.Data.Nat.ModEq
import Mathlib.Logic.Function.Basic

/-!
# Writing round a ring

A memory of `N` cells with a pointer: each item goes to the cell at the pointer,
and the pointer moves on, from the last cell to the first. After as many items as
there are cells, every cell holds what was written last to it: the items, turned
by the place where the pointer stood (`writes_full`). Memory and items are then
the same exactly when the turn does not show (`writes_full_eq_iff`).
-/

namespace RingMemory

variable {α : Type*} {N : ℕ}

/-- The pointer, and the cells. -/
structure State (α : Type*) where
  ptr : ℕ
  cell : ℕ → α

def write (N : ℕ) (s : State α) (x : α) : State α where
  ptr := (s.ptr + 1) % N
  cell := Function.update s.cell s.ptr x

def writes (N : ℕ) (s : State α) (xs : List α) : State α := xs.foldl (write N) s

theorem writes_append (s : State α) (xs ys : List α) :
    writes N s (xs ++ ys) = writes N (writes N s xs) ys :=
  List.foldl_append

theorem writes_ptr {s : State α} (hs : s.ptr < N) (xs : List α) :
    (writes N s xs).ptr = (s.ptr + xs.length) % N := by
  induction xs using List.reverseRecOn with
  | nil => exact (Nat.mod_eq_of_lt hs).symm
  | append_singleton xs x ih =>
      rw [writes_append, List.length_append]
      show ((writes N s xs).ptr + 1) % N = _
      rw [ih, Nat.mod_add_mod]
      rfl

theorem add_mod_injOn {p i j : ℕ} (hi : i < N) (hj : j < N)
    (h : (p + i) % N = (p + j) % N) : i = j := by
  have hmod : i % N = j % N := Nat.ModEq.add_left_cancel' p h
  rwa [Nat.mod_eq_of_lt hi, Nat.mod_eq_of_lt hj] at hmod

/-- No more items than cells: none is overwritten. -/
theorem writes_cell {s : State α} (hs : s.ptr < N) (xs : List α) (hlen : xs.length ≤ N)
    {i : ℕ} (hi : i < xs.length) :
    xs[i]? = some ((writes N s xs).cell ((s.ptr + i) % N)) := by
  induction xs using List.reverseRecOn with
  | nil => exact absurd hi (Nat.not_lt_zero i)
  | append_singleton xs x ih =>
      rw [List.length_append, List.length_singleton] at hlen hi
      rw [writes_append]
      show _ = some (Function.update (writes N s xs).cell (writes N s xs).ptr x _)
      rw [writes_ptr hs]
      by_cases hlast : i = xs.length
      · subst hlast
        simp
      · have hi' : i < xs.length := by omega
        have hne : (s.ptr + i) % N ≠ (s.ptr + xs.length) % N := by
          intro heq
          exact hlast (add_mod_injOn (by omega) (by omega) heq)
        rw [Function.update_of_ne hne, List.getElem?_append_left hi']
        exact ih (by omega) hi'

/-- As many items as cells: cell `a` has the item as far behind the pointer as `a`
is. -/
theorem writes_full {s : State α} (hs : s.ptr < N) {xs : List α} (hlen : xs.length = N)
    {i : ℕ} (hi : i < N) : xs[i]? = some ((writes N s xs).cell ((s.ptr + i) % N)) :=
  writes_cell hs xs hlen.le (hlen ▸ hi)

/-- **The turn must not show.** After a full round the cells are the items in
their places exactly when the items do not change under the turn. -/
theorem writes_full_eq_iff {s : State α} (hs : s.ptr < N) {xs : List α}
    (hlen : xs.length = N) :
    (∀ a < N, xs[a]? = some ((writes N s xs).cell a)) ↔
      ∀ i < N, xs[(s.ptr + i) % N]? = xs[i]? := by
  constructor
  · intro h i hi
    rw [writes_full hs hlen hi]
    exact h _ (Nat.mod_lt _ (Nat.zero_lt_of_lt hi))
  · intro h a ha
    -- the item that went to cell `a`
    obtain ⟨i, hi, rfl⟩ : ∃ i < N, a = (s.ptr + i) % N := by
      refine ⟨(a + (N - s.ptr)) % N, Nat.mod_lt _ (Nat.zero_lt_of_lt ha), ?_⟩
      rw [Nat.add_mod_mod, show s.ptr + (a + (N - s.ptr)) = a + N by omega,
        Nat.add_mod_right, Nat.mod_eq_of_lt ha]
    rw [h i hi]
    exact writes_full hs hlen hi

end RingMemory
