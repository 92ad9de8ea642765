import Mathlib.Algebra.Order.Ring.Abs
import Mathlib.Algebra.Order.Ring.Int
import Mathlib.Logic.Function.Iterate
import Mathlib.Tactic.Linarith
import Mathlib.Tactic.Ring

/-!
# Digital lines by an error term

A line from `(0, 0)` to `(a, b)`, both coordinates nonnegative, is drawn point by
point with one integer that is kept up to date: the error `a (1 + j) - b (1 + i)`
at the point `(i, j)`. Twice the error, compared with `-b` and with `a`, decides
whether to step in the first direction and whether to step in the second.

The two comparisons mirror each other (`step_swap`), so only the flat lines need a
proof. Along a flat line the first direction is stepped every time, the second
where the line has come half a point closer to the next row, and the point stays
within half a point of the line (`OnLine.step`); the walk therefore ends in `(a, b)`
after as many steps as the longer side has (`walk_end`), and no sooner.
-/

namespace DigitalLine

variable {a b : ℤ} {p : ℤ × ℤ}

def err (a b : ℤ) (p : ℤ × ℤ) : ℤ := a * (1 + p.2) - b * (1 + p.1)

def step (a b : ℤ) (p : ℤ × ℤ) : ℤ × ℤ :=
  (if -b ≤ 2 * err a b p then p.1 + 1 else p.1,
    if 2 * err a b p ≤ a then p.2 + 1 else p.2)

/-- The point after `k` steps. -/
def walk (a b : ℤ) (k : ℕ) : ℤ × ℤ := (step a b)^[k] (0, 0)

/-- Inside the box of the line, and within half a point of it. -/
structure OnLine (a b : ℤ) (p : ℤ × ℤ) : Prop where
  fst_nonneg : 0 ≤ p.1
  fst_le : p.1 ≤ a
  snd_nonneg : 0 ≤ p.2
  snd_le : p.2 ≤ b
  near : 2 * |a * p.2 - b * p.1| ≤ max a b

/-! ## The error is kept up to date -/

theorem err_fst_succ (a b i j : ℤ) : err a b (i + 1, j) = err a b (i, j) + -b := by
  simp only [err]
  ring

theorem err_snd_succ (a b i j : ℤ) : err a b (i, j + 1) = err a b (i, j) + a := by
  simp only [err]
  ring

/-! ## The mirror -/

theorem err_swap (a b : ℤ) (p : ℤ × ℤ) : err b a p.swap = -err a b p := by
  simp only [err, Prod.fst_swap, Prod.snd_swap]
  ring

theorem step_swap (a b : ℤ) (p : ℤ × ℤ) : step b a p.swap = (step a b p).swap := by
  have hfst : -a ≤ 2 * -err a b p ↔ 2 * err a b p ≤ a := by omega
  have hsnd : 2 * -err a b p ≤ b ↔ -b ≤ 2 * err a b p := by omega
  simp only [step, err_swap, hfst, hsnd, Prod.fst_swap, Prod.snd_swap, Prod.swap_prod_mk]

theorem walk_succ (a b : ℤ) (k : ℕ) : walk a b (k + 1) = step a b (walk a b k) :=
  Function.iterate_succ_apply' _ k _

theorem walk_swap (a b : ℤ) (k : ℕ) : walk b a k = (walk a b k).swap := by
  induction k with
  | zero => rfl
  | succ k ih => rw [walk_succ, walk_succ, ih, step_swap]

theorem OnLine.swap (h : OnLine a b p) : OnLine b a p.swap where
  fst_nonneg := h.snd_nonneg
  fst_le := h.snd_le
  snd_nonneg := h.fst_nonneg
  snd_le := h.fst_le
  near := by
    have hnear := h.near
    rw [abs_sub_comm, max_comm] at hnear
    exact hnear

/-! ## Flat lines -/

theorem onLine_zero (ha : 0 ≤ a) (hb : 0 ≤ b) : OnLine a b (0, 0) where
  fst_nonneg := le_rfl
  fst_le := ha
  snd_nonneg := le_rfl
  snd_le := hb
  near := by simp [ha]

/-- A point near the line that has not passed its end in one direction has not in
the other. -/
theorem snd_le_of_near (hb : 0 ≤ b) (hpos : 0 < a) (hfst : p.1 ≤ a)
    (hnear : 2 * (a * p.2 - b * p.1) ≤ a) : p.2 ≤ b := by
  by_contra hlt
  have hrow : a * (b + 1) ≤ a * p.2 := mul_le_mul_of_nonneg_left (by omega) hpos.le
  have hcol : b * p.1 ≤ b * a := mul_le_mul_of_nonneg_left hfst hb
  rw [mul_add, mul_one, mul_comm a b] at hrow
  linarith

/-- **One step of a flat line.** -/
theorem OnLine.step (h : OnLine a b p) (hab : b ≤ a) (hlt : p.1 < a) :
    (step a b p).1 = p.1 + 1 ∧
      ((step a b p).2 = p.2 ∨ (step a b p).2 = p.2 + 1) ∧ OnLine a b (step a b p) := by
  obtain ⟨i, j⟩ := p
  obtain ⟨hi, hia, hj, hjb, hnear⟩ := h
  dsimp only at hi hia hj hjb hnear hlt
  rw [max_eq_left hab] at hnear
  have hb : 0 ≤ b := hj.trans hjb
  have herr : err a b (i, j) = a * j - b * i + a - b := by
    simp only [err]
    ring
  -- the error is the distance after a step in both directions
  have hbounds := abs_le.mp (show |a * j - b * i| ≤ a / 2 by omega)
  have hfst : -b ≤ 2 * err a b (i, j) := by omega
  have hcol : a * j - b * (i + 1) = a * j - b * i - b := by ring
  have hboth : a * (j + 1) - b * (i + 1) = a * j - b * i + a - b := by ring
  by_cases hsnd : 2 * err a b (i, j) ≤ a
  · have hstep : DigitalLine.step a b (i, j) = (i + 1, j + 1) := by
      simp only [DigitalLine.step, if_pos hfst, if_pos hsnd]
    rw [hstep]
    have hnear' : 2 * |a * (j + 1) - b * (i + 1)| ≤ a := by
      have habs : |a * (j + 1) - b * (i + 1)| ≤ a / 2 := by
        rw [abs_le, hboth]
        omega
      omega
    refine ⟨rfl, Or.inr rfl, ⟨by omega, hlt, by omega, ?_, ?_⟩⟩
    · apply snd_le_of_near (p := (i + 1, j + 1)) hb (by omega) hlt
      exact (mul_le_mul_of_nonneg_left (le_abs_self _) (by norm_num)).trans hnear'
    · rwa [max_eq_left hab]
  · have hstep : DigitalLine.step a b (i, j) = (i + 1, j) := by
      simp only [DigitalLine.step, if_pos hfst, if_neg hsnd]
    rw [hstep]
    have hnear' : 2 * |a * j - b * (i + 1)| ≤ a := by
      have habs : |a * j - b * (i + 1)| ≤ a / 2 := by
        rw [abs_le, hcol]
        omega
      omega
    refine ⟨rfl, Or.inl rfl, ⟨by omega, hlt, hj, hjb, ?_⟩⟩
    rwa [max_eq_left hab]

theorem walk_flat (hb : 0 ≤ b) (hab : b ≤ a) {k : ℕ} (hk : (k : ℤ) ≤ a) :
    (walk a b k).1 = k ∧ OnLine a b (walk a b k) := by
  induction k with
  | zero => exact ⟨rfl, onLine_zero (hb.trans hab) hb⟩
  | succ k ih =>
      push_cast at hk ⊢
      obtain ⟨hfst, hline⟩ := ih (by omega)
      obtain ⟨hnext, -, hline'⟩ := hline.step hab (by omega)
      rw [walk_succ]
      exact ⟨hnext.trans (by rw [hfst]), hline'⟩

/-- A point near a flat line at its last column is the end. -/
theorem OnLine.eq_end (h : OnLine a b p) (hab : b ≤ a) (hfst : p.1 = a) : p = (a, b) := by
  obtain ⟨i, j⟩ := p
  obtain ⟨hi, -, hj, hjb, hnear⟩ := h
  dsimp only at hi hj hjb hnear hfst
  subst hfst
  rw [max_eq_left hab] at hnear
  by_contra hne
  have hlt : j + 1 ≤ b := by
    have hjb' : j ≠ b := by
      rintro rfl
      exact hne rfl
    omega
  have hrow : i * (j + 1) ≤ i * b := mul_le_mul_of_nonneg_left hlt hi
  rw [mul_add, mul_one] at hrow
  have hleft := neg_abs_le (i * j - b * i)
  rw [mul_comm b i] at hleft hnear
  -- a row short of the end is a whole side away from the line, and the side is not zero
  omega

/-! ## All lines -/

theorem walk_onLine (ha : 0 ≤ a) (hb : 0 ≤ b) {k : ℕ} (hk : (k : ℤ) ≤ max a b) :
    OnLine a b (walk a b k) := by
  rcases le_total b a with hab | hab
  · rw [max_eq_left hab] at hk
    exact (walk_flat hb hab hk).2
  · rw [max_eq_right hab] at hk
    rw [walk_swap b a]
    exact (walk_flat ha hab hk).2.swap

/-- The first direction of a flat line is stepped every time. -/
theorem walk_step (hb : 0 ≤ b) (hab : b ≤ a) {k : ℕ} (hk : (k : ℤ) < a) :
    (walk a b (k + 1)).1 = (walk a b k).1 + 1 ∧
      ((walk a b (k + 1)).2 = (walk a b k).2 ∨ (walk a b (k + 1)).2 = (walk a b k).2 + 1) := by
  obtain ⟨hfst, hline⟩ := walk_flat hb hab hk.le
  obtain ⟨hnext, hother, -⟩ := hline.step hab (by omega)
  rw [walk_succ]
  exact ⟨hnext, hother⟩

theorem walk_end (ha : 0 ≤ a) (hb : 0 ≤ b) : walk a b (max a b).toNat = (a, b) := by
  rcases le_total b a with hab | hab
  · rw [max_eq_left hab]
    obtain ⟨hfst, hline⟩ := walk_flat hb hab (Int.toNat_of_nonneg ha).le
    exact hline.eq_end hab (hfst.trans (Int.toNat_of_nonneg ha))
  · rw [max_eq_right hab, walk_swap b a]
    obtain ⟨hfst, hline⟩ := walk_flat ha hab (Int.toNat_of_nonneg hb).le
    rw [hline.eq_end hab (hfst.trans (Int.toNat_of_nonneg hb))]
    rfl

/-- **Not before.** -/
theorem walk_ne_end (ha : 0 ≤ a) (hb : 0 ≤ b) {k : ℕ} (hk : (k : ℤ) < max a b) :
    walk a b k ≠ (a, b) := by
  intro heq
  rcases le_total b a with hab | hab
  · rw [max_eq_left hab] at hk
    have hfst := (walk_flat hb hab hk.le).1
    rw [heq] at hfst
    exact hk.ne' hfst
  · rw [max_eq_right hab] at hk
    have hfst := (walk_flat ha hab hk.le).1
    rw [walk_swap, heq] at hfst
    exact hk.ne' hfst

end DigitalLine
