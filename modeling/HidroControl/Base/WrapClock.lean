import Mathlib.Tactic.Common
import Mathlib.Data.Nat.ModEq
import Mathlib.Data.UInt

/-!
# 32-bit readings of an unbounded clock

A device reads a tick counter that never stops through a 32-bit register. The
register is faithful only modulo `2^32`, so the difference of two readings is
the true elapsed time modulo `2^32`, and a reading taken *after* the one it is
compared with comes out close to `2^32` instead of negative.

Nothing here knows which device it is: `t` is any count of ticks.
-/

namespace WrapClock

/-- The 32-bit reading of the true tick count `t`. -/
def reading (t : ℕ) : UInt32 := UInt32.ofNat t

@[simp] theorem reading_toNat (t : ℕ) : (reading t).toNat = t % 2 ^ 32 := by
  simp [reading]

theorem reading_toNat_of_lt {t : ℕ} (h : t < 2 ^ 32) :
    (reading t).toNat = t := by
  rw [reading_toNat, Nat.mod_eq_of_lt h]

theorem reading_eq_zero_iff {t : ℕ} : reading t = 0 ↔ t % 2 ^ 32 = 0 := by
  rw [← UInt32.toNat_inj, reading_toNat]
  rfl

theorem reading_ne_zero {t : ℕ} (h0 : 0 < t) (h : t < 2 ^ 32) :
    reading t ≠ 0 := by
  rw [Ne, reading_eq_zero_iff, Nat.mod_eq_of_lt h]
  omega

/-- **Elapsed time.** Reading `b` first and `a` later, the unsigned difference
is the true elapsed time modulo `2^32`. -/
theorem sub_toNat_of_le {a b : ℕ} (h : b ≤ a) :
    (reading a - reading b).toNat = (a - b) % 2 ^ 32 := by
  rw [UInt32.toNat_sub, reading_toNat, reading_toNat]
  omega

theorem reading_sub {a b : ℕ} (h : b ≤ a) :
    reading a - reading b = reading (a - b) := by
  rw [← UInt32.toNat_inj, sub_toNat_of_le h, reading_toNat]

theorem reading_succ (t : ℕ) : reading t + 1 = reading (t + 1) := by
  rw [← UInt32.toNat_inj, UInt32.toNat_add, reading_toNat, reading_toNat,
    UInt32.toNat_one]
  omega

/-- Within one turn of the register the difference is exact. -/
theorem sub_toNat_of_lt {a b : ℕ} (h : b ≤ a) (ha : a < b + 2 ^ 32) :
    (reading a - reading b).toNat = a - b := by
  rw [sub_toNat_of_le h, Nat.mod_eq_of_lt (by omega)]

/-- A stamp taken `k` ticks *after* the reading it is subtracted from makes the
difference wrap to `2^32 - k`. -/
theorem sub_toNat_of_gt {a b : ℕ} (h : a < b) (hb : b ≤ a + 2 ^ 32) :
    (reading a - reading b).toNat = (2 ^ 32 - (b - a)) % 2 ^ 32 := by
  rw [UInt32.toNat_sub, reading_toNat, reading_toNat]
  omega

end WrapClock
