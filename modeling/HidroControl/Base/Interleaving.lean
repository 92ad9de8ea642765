import Mathlib.Data.List.Basic

/-!
# Interleavings of two sequences

`Merge xs ys zs` says that `zs` carries out `xs` and `ys` in some order that
keeps each one's own: what two tasks did, seen by a shared cell. A sequential
explanation of a concurrent run is built from the front, one finished operation
at a time, so the rules are for the end of the list (`snoc_left`, `snoc_right`)
and for giving one task precedence altogether (`append`).
-/

namespace Interleaving

variable {α : Type*}

inductive Merge : List α → List α → List α → Prop
  | nil : Merge [] [] []
  | left {x : α} {xs ys zs : List α} :
      Merge xs ys zs → Merge (x :: xs) ys (x :: zs)
  | right {y : α} {xs ys zs : List α} :
      Merge xs ys zs → Merge xs (y :: ys) (y :: zs)

namespace Merge

variable {x y : α} {xs ys zs : List α}

theorem right_only : ∀ ys : List α, Merge [] ys ys
  | [] => nil
  | _ :: ys => right (right_only ys)

theorem append : ∀ xs ys : List α, Merge xs ys (xs ++ ys)
  | [], ys => right_only ys
  | _ :: xs, ys => left (append xs ys)

theorem snoc_left (h : Merge xs ys zs) : Merge (xs ++ [x]) ys (zs ++ [x]) := by
  induction h with
  | nil => exact left nil
  | left _ ih => exact left ih
  | right _ ih => exact right ih

theorem snoc_right (h : Merge xs ys zs) : Merge xs (ys ++ [y]) (zs ++ [y]) := by
  induction h with
  | nil => exact right nil
  | left _ ih => exact left ih
  | right _ ih => exact right ih

theorem singleton_cases (h : Merge [x] [y] zs) : zs = [x, y] ∨ zs = [y, x] := by
  rcases h with _ | h | h
  · rcases h with _ | _ | h
    cases h
    exact Or.inl rfl
  · rcases h with _ | h | _
    cases h
    exact Or.inr rfl

end Merge

end Interleaving
