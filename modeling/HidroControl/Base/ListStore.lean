import Mathlib.Algebra.BigOperators.Group.List.Basic
import Mathlib.Algebra.GroupWithZero.Nat
import Mathlib.Data.List.Basic
import Mathlib.Data.Nat.Notation

/-!
# Stores that are lists

A store keeps its entries in a list and works on the first entry that a test
finds: it rewrites it (`List.replaceF`, `List.modify`) or takes it out
(`List.eraseP`, `List.eraseIdx`). What a rewrite keeps of an entry, it keeps of the
list; what is taken out is one entry out of the middle, and its weight with it.
-/

namespace ListStore

variable {α β : Type*}

/-- What the rewriting of an entry keeps of it (`key`), the list keeps. -/
theorem map_replaceF {key : α → β} {p : α → Option α}
    (h : ∀ a b, p a = some b → key b = key a) (l : List α) :
    (l.replaceF p).map key = l.map key := by
  induction l with
  | nil => rfl
  | cons a l ih =>
      cases hp : p a with
      | none => rw [List.replaceF_cons_of_none _ hp, List.map_cons, List.map_cons, ih]
      | some b => rw [List.replaceF_cons_of_some _ hp, List.map_cons, List.map_cons, h a b hp]

/-- The entry that is found, and the list around it. -/
theorem exists_split_of_find? {p : α → Bool} {l : List α} {x : α} (h : l.find? p = some x) :
    ∃ l₁ l₂, l = l₁ ++ x :: l₂ ∧ l.eraseP p = l₁ ++ l₂ ∧ ∀ a ∈ l₁, p a = false := by
  induction l with
  | nil => cases h
  | cons a l ih =>
      cases hp : p a with
      | true =>
          rw [List.find?_cons_of_pos hp] at h
          cases h
          exact ⟨[], l, rfl, List.eraseP_cons_of_pos hp, by simp⟩
      | false =>
          have hn : ¬ p a = true := by simp [hp]
          rw [List.find?_cons_of_neg hn] at h
          obtain ⟨l₁, l₂, hl, herase, hall⟩ := ih h
          refine ⟨a :: l₁, l₂, by rw [hl, List.cons_append], ?_, ?_⟩
          · rw [List.eraseP_cons_of_neg hn, herase, List.cons_append]
          · rintro b (_ | ⟨_, hb⟩)
            · exact hp
            · exact hall b hb

theorem exists_split_of_getElem? {l : List α} {i : ℕ} {x : α} (h : l[i]? = some x) :
    ∃ l₁ l₂, l = l₁ ++ x :: l₂ ∧ l.eraseIdx i = l₁ ++ l₂ := by
  obtain ⟨hi, hx⟩ := List.getElem?_eq_some_iff.mp h
  refine ⟨l.take i, l.drop (i + 1), ?_, List.eraseIdx_eq_take_drop_succ l i⟩
  rw [← hx, List.getElem_cons_drop, List.take_append_drop]

/-- A rewrite leaves the list as it is, or changes one entry in the middle. -/
theorem replaceF_cases (p : α → Option α) (l : List α) :
    l.replaceF p = l ∨
      ∃ l₁ x y l₂, l = l₁ ++ x :: l₂ ∧ p x = some y ∧ l.replaceF p = l₁ ++ y :: l₂ := by
  induction l with
  | nil => exact Or.inl rfl
  | cons a l ih =>
      cases hp : p a with
      | some b =>
          rw [List.replaceF_cons_of_some _ hp]
          exact Or.inr ⟨[], a, b, l, rfl, hp, rfl⟩
      | none =>
          rw [List.replaceF_cons_of_none _ hp]
          rcases ih with heq | ⟨l₁, x, y, l₂, hl, hxy, heq⟩
          · rw [heq]
            exact Or.inl rfl
          · rw [heq, hl]
            exact Or.inr ⟨a :: l₁, x, y, l₂, rfl, hxy, rfl⟩

theorem exists_split_modify {l : List α} {i : ℕ} {x : α} (h : l[i]? = some x) (f : α → α) :
    ∃ l₁ l₂, l = l₁ ++ x :: l₂ ∧ l.modify i f = l₁ ++ f x :: l₂ := by
  induction l generalizing i with
  | nil => cases h
  | cons a l ih =>
      cases i with
      | zero =>
          obtain rfl := Option.some.inj h
          exact ⟨[], l, rfl, rfl⟩
      | succ i =>
          obtain ⟨l₁, l₂, hl, hmod⟩ := ih (i := i) h
          exact ⟨a :: l₁, l₂, by rw [hl, List.cons_append], by
            rw [List.modify_succ_cons, hmod, List.cons_append]⟩

/-- One entry out of the middle takes its weight along. -/
theorem sum_map_remove (w : α → ℕ) {l l₁ l₂ : List α} {x : α} (h : l = l₁ ++ x :: l₂) :
    ((l₁ ++ l₂).map w).sum = (l.map w).sum - w x := by
  subst h
  rw [List.map_append, List.map_append, List.map_cons, List.sum_append_nat,
    List.sum_append_nat, List.sum_cons]
  omega

end ListStore
