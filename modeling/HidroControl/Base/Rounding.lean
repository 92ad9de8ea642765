import Mathlib.Data.Rat.Floor
import Mathlib.Algebra.Order.Field.Power
import Mathlib.Tactic.Linarith
import Mathlib.Tactic.FieldSimp
import Mathlib.Tactic.Ring
import Mathlib.Tactic.Positivity

/-!
# Rounded arithmetic on the rationals

A floating-point operation is the exact operation followed by a rounding. The
results that do not depend on which rounding is meant are proved over any
`Rounding`: a map whose relative error on nonnegative values is at most
`2^-24`, half a unit in the last place of a 24-bit significand. How far a chain of
operations is from the exact one is then a matter of counting its roundings (`Near`).

Two instances: `Rounding.exact`, which rounds nothing (the rational reading of
a float expression), and `Rounding.binary32`, round to nearest with ties to
even on a 24-bit significand. The exponent range is left unbounded: a caller
that stays away from overflow and from subnormals computes the same numbers as
the hardware format.
-/

/-- A rounding of the rationals, accurate to `2^-24` on nonnegative values. -/
structure Rounding where
  rnd : ℚ → ℚ
  err : ∀ q, 0 ≤ q → |rnd q - q| ≤ q / 2 ^ 24

namespace Rounding

variable (A : Rounding)

/-! ## Laws of any rounding -/

@[simp] theorem rnd_zero : A.rnd 0 = 0 := by
  have h := A.err 0 le_rfl
  simpa using h

theorem rnd_le {q : ℚ} (hq : 0 ≤ q) : A.rnd q ≤ q * (1 + 1 / 2 ^ 24) := by
  have h := (abs_le.mp (A.err q hq)).2
  linarith

theorem le_rnd {q : ℚ} (hq : 0 ≤ q) : q * (1 - 1 / 2 ^ 24) ≤ A.rnd q := by
  have h := (abs_le.mp (A.err q hq)).1
  linarith

theorem rnd_nonneg {q : ℚ} (hq : 0 ≤ q) : 0 ≤ A.rnd q := by
  have h := A.le_rnd hq
  have : 0 ≤ q * (1 - 1 / 2 ^ 24) := mul_nonneg hq (by norm_num)
  linarith

theorem rnd_pos {q : ℚ} (hq : 0 < q) : 0 < A.rnd q := by
  have h := A.le_rnd hq.le
  have : 0 < q * (1 - 1 / 2 ^ 24) := mul_pos hq (by norm_num)
  linarith

/-! ## The operations -/

def lit (q : ℚ) : ℚ := A.rnd q

def div (a b : ℚ) : ℚ := A.rnd (a / b)

theorem div_pos' {a b : ℚ} (hb : 0 < b) (ha : 0 < a) : 0 < A.div a b :=
  A.rnd_pos (div_pos ha hb)

@[simp] theorem zero_div' (b : ℚ) : A.div 0 b = 0 := by simp [div]

/-! ## Counting roundings -/

/-- At most `n` roundings stand between `x` and `y`, whichever of the two was
rounded. -/
structure Near (n : ℕ) (x y : ℚ) : Prop where
  le : x * (1 - 1 / 2 ^ 24) ^ n ≤ y * (1 + 1 / 2 ^ 24) ^ n
  ge : y * (1 - 1 / 2 ^ 24) ^ n ≤ x * (1 + 1 / 2 ^ 24) ^ n

section Near

variable {m n : ℕ} {x y z a b q : ℚ}

theorem Near.symm (h : Near n x y) : Near n y x := ⟨h.ge, h.le⟩

theorem near_rnd (hq : 0 ≤ q) : Near 1 (A.rnd q) q := by
  have hle := A.rnd_le hq
  have hge := A.le_rnd hq
  have hrnd := A.rnd_nonneg hq
  constructor
  · linarith
  · linarith

theorem Near.le_trans (h : Near m x y) (h' : Near n y z) :
    x * (1 - 1 / 2 ^ 24) ^ (m + n) ≤ z * (1 + 1 / 2 ^ 24) ^ (m + n) := by
  calc x * (1 - 1 / 2 ^ 24) ^ (m + n)
      = x * (1 - 1 / 2 ^ 24) ^ m * (1 - 1 / 2 ^ 24) ^ n := by ring
    _ ≤ y * (1 + 1 / 2 ^ 24) ^ m * (1 - 1 / 2 ^ 24) ^ n :=
        mul_le_mul_of_nonneg_right h.le (by positivity)
    _ = y * (1 - 1 / 2 ^ 24) ^ n * (1 + 1 / 2 ^ 24) ^ m := by ring
    _ ≤ z * (1 + 1 / 2 ^ 24) ^ n * (1 + 1 / 2 ^ 24) ^ m :=
        mul_le_mul_of_nonneg_right h'.le (by positivity)
    _ = z * (1 + 1 / 2 ^ 24) ^ (m + n) := by ring

theorem Near.trans (h : Near m x y) (h' : Near n y z) : Near (m + n) x z := by
  refine ⟨h.le_trans h', ?_⟩
  rw [Nat.add_comm]
  exact h'.symm.le_trans h.symm

theorem Near.div_le (h : Near m a x) (h' : Near n b y) (hx : 0 ≤ x) (hb : 0 < b)
    (hy : 0 < y) :
    a / b * (1 - 1 / 2 ^ 24) ^ (m + n) ≤ x / y * (1 + 1 / 2 ^ 24) ^ (m + n) := by
  rw [div_mul_eq_mul_div, div_mul_eq_mul_div, div_le_div_iff₀ hb hy]
  calc a * (1 - 1 / 2 ^ 24) ^ (m + n) * y
      = a * (1 - 1 / 2 ^ 24) ^ m * (y * (1 - 1 / 2 ^ 24) ^ n) := by ring
    _ ≤ x * (1 + 1 / 2 ^ 24) ^ m * (b * (1 + 1 / 2 ^ 24) ^ n) :=
        mul_le_mul h.le h'.ge (by positivity) (by positivity)
    _ = x * (1 + 1 / 2 ^ 24) ^ (m + n) * b := by ring

/-- A rounded quotient of rounded numbers: their roundings, and one more. -/
theorem Near.div (h : Near m a x) (h' : Near n b y) (ha : 0 ≤ a) (hx : 0 ≤ x)
    (hb : 0 < b) (hy : 0 < y) : Near (1 + (m + n)) (A.div a b) (x / y) :=
  (A.near_rnd (div_nonneg ha hb.le)).trans
    ⟨h.div_le h' hx hb hy, h.symm.div_le h'.symm ha hy hb⟩

end Near

/-- No rounding at all: the float expression read as a rational one. -/
def exact : Rounding where
  rnd q := q
  err q hq := by simpa using by positivity

@[simp] theorem exact_lit (q : ℚ) : exact.lit q = q := rfl
@[simp] theorem exact_div (a b : ℚ) : exact.div a b = a / b := rfl

/-! ## binary32 -/

/-- The nearest integer, ties to even. -/
def nearestEven (t : ℚ) : ℤ :=
  let f := ⌊t⌋
  if t - f < 1 / 2 then f
  else if 1 / 2 < t - f then f + 1
  else if f % 2 = 0 then f else f + 1

def pow2 (e : ℤ) : ℚ :=
  if 0 ≤ e then 2 ^ e.toNat else 1 / 2 ^ (-e).toNat

/-- The binary exponent of a positive rational: `2^e ≤ q < 2^(e+1)`. -/
def expo (q : ℚ) : ℤ :=
  let e : ℤ := (Nat.log2 q.num.natAbs : ℤ) - (Nat.log2 q.den : ℤ)
  if pow2 e ≤ q then e else e - 1

/-- Round to a 24-bit significand, to nearest with ties to even. -/
def rnd32 (q : ℚ) : ℚ :=
  if q = 0 then 0
  else
    let ulp := pow2 (expo |q| - 23)
    nearestEven (q / ulp) * ulp

theorem nearestEven_err (t : ℚ) : |(nearestEven t : ℚ) - t| ≤ 1 / 2 := by
  have h1 := Int.floor_le t
  have h2 := Int.lt_floor_add_one t
  unfold nearestEven
  dsimp only
  rw [abs_le]
  split_ifs with ha hb hc
  · constructor <;> linarith
  · push_cast
    constructor <;> linarith
  · have : t - ⌊t⌋ = 1 / 2 := le_antisymm (not_lt.mp hb) (not_lt.mp ha)
    constructor <;> linarith
  · have : t - ⌊t⌋ = 1 / 2 := le_antisymm (not_lt.mp hb) (not_lt.mp ha)
    push_cast
    constructor <;> linarith

theorem pow2_eq_zpow (e : ℤ) : pow2 e = (2 : ℚ) ^ e := by
  unfold pow2
  split_ifs with h
  · obtain ⟨n, rfl⟩ := Int.eq_ofNat_of_zero_le h
    simp
  · obtain ⟨n, hn⟩ := Int.eq_ofNat_of_zero_le (show 0 ≤ -e by omega)
    have : e = -(n : ℤ) := by omega
    subst this
    simp

theorem pow2_pos (e : ℤ) : 0 < pow2 e := by
  rw [pow2_eq_zpow]
  positivity

/-- The exponent is not too large: this is the half of its specification that
the error bound needs. -/
theorem pow2_expo_le {q : ℚ} (hq : 0 < q) : pow2 (expo q) ≤ q := by
  unfold expo
  dsimp only
  split_ifs with h
  · exact h
  · have hnum : 0 < q.num := Rat.num_pos.mpr hq
    have hn : (2 : ℚ) ^ Nat.log2 q.num.natAbs ≤ q.num.natAbs := by
      exact_mod_cast Nat.log2_self_le (by omega)
    have hd : (q.den : ℚ) ≤ 2 ^ (Nat.log2 q.den + 1) := by
      exact_mod_cast (Nat.lt_log2_self).le
    have hdpos : (0 : ℚ) < q.den := by exact_mod_cast q.den_pos
    have hexp : (Nat.log2 q.num.natAbs : ℤ) - (Nat.log2 q.den : ℤ) - 1 =
        (Nat.log2 q.num.natAbs : ℤ) - ((Nat.log2 q.den + 1 : ℕ) : ℤ) := by
      push_cast
      ring
    calc pow2 ((Nat.log2 q.num.natAbs : ℤ) - (Nat.log2 q.den : ℤ) - 1)
        = 2 ^ Nat.log2 q.num.natAbs / 2 ^ (Nat.log2 q.den + 1) := by
          rw [pow2_eq_zpow, hexp, zpow_sub₀ (by norm_num), zpow_natCast,
            zpow_natCast]
      _ ≤ (q.num.natAbs : ℚ) / q.den := by gcongr
      _ = q := by
          rw [Nat.cast_natAbs, abs_of_pos hnum]
          exact Rat.num_div_den q

theorem rnd32_err (q : ℚ) (hq : 0 ≤ q) : |rnd32 q - q| ≤ q / 2 ^ 24 := by
  rcases hq.eq_or_lt with rfl | hpos
  · simp [rnd32]
  · unfold rnd32
    rw [if_neg hpos.ne', abs_of_pos hpos]
    set u := pow2 (expo q - 23) with hu
    have hupos : 0 < u := pow2_pos _
    have hule : u ≤ q / 2 ^ 23 := by
      rw [le_div_iff₀ (by positivity)]
      calc u * 2 ^ 23 = pow2 (expo q) := by
            rw [hu, pow2_eq_zpow, pow2_eq_zpow, zpow_sub₀ (by norm_num)]
            norm_num
        _ ≤ q := pow2_expo_le hpos
    have hround := nearestEven_err (q / u)
    calc |(nearestEven (q / u) : ℚ) * u - q|
        = |((nearestEven (q / u) : ℚ) - q / u) * u| := by
          congr 1
          field_simp
      _ = |(nearestEven (q / u) : ℚ) - q / u| * u := by
          rw [abs_mul, abs_of_pos hupos]
      _ ≤ 1 / 2 * u := by gcongr
      _ ≤ q / 2 ^ 24 := by linarith

/-- The hardware format: every result rounded to a 24-bit significand. -/
def binary32 : Rounding where
  rnd := rnd32
  err := rnd32_err

end Rounding
