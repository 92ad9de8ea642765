import Mathlib.Algebra.Order.Ring.Int
import Mathlib.Tactic.Common
import Mathlib.Tactic.IntervalCases

/-!
# The Gregorian calendar

Days are counted from 1970-01-01, in both directions and without end. A year is
taken to start in March, so that the leap day is its last: the day number of a
date is then a sum (`Civil.days`), and a date is found from a day number by
dividing by the lengths of the 400-, 100-, 4- and 1-year cycles (`civilOfDays`).
The cycles of 100 years and of one year have one day more when they come last,
which is what the two `min` are for.
-/

namespace Calendar

structure Civil where
  year : ℤ
  month : ℕ
  day : ℕ
deriving DecidableEq, Repr

def isLeap (y : ℤ) : Prop := y % 4 = 0 ∧ (y % 100 ≠ 0 ∨ y % 400 = 0)

instance (y : ℤ) : Decidable (isLeap y) :=
  inferInstanceAs (Decidable (_ ∧ _))

def daysInMonth (y : ℤ) (m : ℕ) : ℕ :=
  if m = 2 then (if isLeap y then 29 else 28)
  else if m = 4 ∨ m = 6 ∨ m = 9 ∨ m = 11 then 30
  else 31

structure Civil.Valid (c : Civil) : Prop where
  month_pos : 1 ≤ c.month
  month_le : c.month ≤ 12
  day_pos : 1 ≤ c.day
  day_le : c.day ≤ daysInMonth c.year c.month

instance (c : Civil) : Decidable c.Valid :=
  decidable_of_iff
    (1 ≤ c.month ∧ c.month ≤ 12 ∧ 1 ≤ c.day ∧ c.day ≤ daysInMonth c.year c.month)
    ⟨fun ⟨h1, h2, h3, h4⟩ => ⟨h1, h2, h3, h4⟩,
      fun h => ⟨h.month_pos, h.month_le, h.day_pos, h.day_le⟩⟩

theorem Civil.Valid.day_lt {c : Civil} (h : c.Valid) : c.day < 32 := by
  have := h.day_le
  unfold daysInMonth at this
  split_ifs at this <;> omega

/-- The days before the first of March of year `y`, counted from year 0. -/
def daysBefore (y : ℤ) : ℤ := 365 * y + y / 4 - y / 100 + y / 400

/-- The days before the `m`-th month of a year that starts in March. -/
def daysBeforeMonth (m : ℕ) : ℕ := (153 * m + 2) / 5

/-- The number of the day, 1970-01-01 being day 0. -/
def Civil.days (c : Civil) : ℤ :=
  daysBefore (if c.month ≤ 2 then c.year - 1 else c.year) +
    daysBeforeMonth ((c.month + 9) % 12) + c.day - 1 - 719468

/-- Year, counted from March of year 0, and day of the year. -/
def yearDay (z : ℤ) : ℤ × ℕ :=
  let doe := (z % 146097).toNat
  let c := min 3 (doe / 36524)
  let doc := doe - 36524 * c
  let q := doc / 1461
  let doq := doc - 1461 * q
  let y := min 3 (doq / 365)
  (z / 146097 * 400 + (100 * c + 4 * q + y : ℕ), doq - 365 * y)

/-- Month, counted from March, and day of the month. -/
def monthDay (doy : ℕ) : ℕ × ℕ :=
  let m := (5 * doy + 2) / 153
  (m, doy - daysBeforeMonth m + 1)

/-- The calendar's year starts two months before the next March does. -/
def ofMarch (y : ℤ) (m d : ℕ) : Civil :=
  if m < 10 then { year := y, month := m + 3, day := d }
  else { year := y + 1, month := m - 9, day := d }

def civilOfDays (z : ℤ) : Civil :=
  let a := yearDay (z + 719468)
  let b := monthDay a.2
  ofMarch a.1 b.1 b.2

/-! ## From days to dates and back -/

/-- The cycles a day falls in, and what is left of the year. -/
theorem yearDay_cycles (z : ℤ) :
    ∃ (e : ℤ) (c q y doy : ℕ),
      yearDay z = (400 * e + (100 * c + 4 * q + y), doy) ∧
      z = 146097 * e + (36524 * c + 1461 * q + 365 * y + doy) ∧
      c ≤ 3 ∧ q ≤ 24 ∧ y ≤ 3 ∧ doy ≤ 365 ∧
      (doy = 365 → y = 3 ∧ (q = 24 → c = 3)) := by
  have h0 : 0 ≤ z % 146097 := Int.emod_nonneg z (by decide)
  have h1 : z % 146097 < 146097 := Int.emod_lt_of_pos z (by decide)
  obtain ⟨doe, hdoe⟩ := Int.eq_ofNat_of_zero_le h0
  have hz : z = 146097 * (z / 146097) + doe := by omega
  obtain ⟨c, hc⟩ : ∃ c, c = min 3 (doe / 36524) := ⟨_, rfl⟩
  obtain ⟨q, hq⟩ : ∃ q, q = (doe - 36524 * c) / 1461 := ⟨_, rfl⟩
  obtain ⟨y, hy⟩ : ∃ y, y = min 3 ((doe - 36524 * c - 1461 * q) / 365) := ⟨_, rfl⟩
  refine ⟨z / 146097, c, q, y, doe - 36524 * c - 1461 * q - 365 * y, ?_, ?_⟩
  · unfold yearDay
    rw [hdoe]
    dsimp only [Int.toNat_natCast]
    rw [← hc, ← hq, ← hy]
    push_cast
    rw [Int.mul_comm]
  · omega

theorem daysBefore_cycles (e : ℤ) {c q y : ℕ} (hc : c ≤ 3) (hq : q ≤ 24)
    (hy : y ≤ 3) :
    daysBefore (400 * e + (100 * c + 4 * q + y)) =
      146097 * e + (36524 * c + 1461 * q + 365 * y) := by
  unfold daysBefore
  omega

theorem yearDay_spec (z : ℤ) :
    daysBefore (yearDay z).1 + (yearDay z).2 = z ∧ (yearDay z).2 ≤ 365 := by
  obtain ⟨e, c, q, y, doy, hyd, hz, hc, hq, hy, hdoy, -⟩ := yearDay_cycles z
  rw [hyd, daysBefore_cycles e hc hq hy]
  exact ⟨by omega, hdoy⟩

/-- The 366th day is the leap day. -/
theorem isLeap_of_yearDay {z : ℤ} (h : (yearDay z).2 = 365) :
    isLeap ((yearDay z).1 + 1) := by
  obtain ⟨e, c, q, y, doy, hyd, -, hc, hq, hy, -, hlast⟩ := yearDay_cycles z
  rw [hyd] at h ⊢
  obtain ⟨rfl, hcent⟩ := hlast h
  unfold isLeap
  dsimp only
  omega

theorem monthDay_spec {doy : ℕ} (h : doy ≤ 365) :
    (monthDay doy).1 ≤ 11 ∧ 1 ≤ (monthDay doy).2 ∧
      daysBeforeMonth (monthDay doy).1 + (monthDay doy).2 = doy + 1 ∧
      doy < daysBeforeMonth ((monthDay doy).1 + 1) := by
  unfold monthDay daysBeforeMonth
  dsimp only
  omega

theorem days_ofMarch (y : ℤ) {m d : ℕ} (hm : m ≤ 11) :
    (ofMarch y m d).days =
      daysBefore y + daysBeforeMonth m + d - 1 - 719468 := by
  unfold ofMarch Civil.days
  split
  · rw [if_neg (by dsimp only; omega)]
    dsimp only
    rw [show (m + 3 + 9) % 12 = m by omega]
  · rw [if_pos (by dsimp only; omega)]
    dsimp only
    rw [show (m - 9 + 9) % 12 = m by omega, Int.add_sub_cancel]

theorem days_civilOfDays (z : ℤ) : (civilOfDays z).days = z := by
  obtain ⟨hz, hdoy⟩ := yearDay_spec (z + 719468)
  obtain ⟨hm, -, hsum, -⟩ := monthDay_spec hdoy
  rw [civilOfDays, days_ofMarch _ hm]
  omega

theorem civilOfDays_valid (z : ℤ) : (civilOfDays z).Valid := by
  obtain ⟨-, hdoy⟩ := yearDay_spec (z + 719468)
  obtain ⟨hm, hd, hsum, hlt⟩ := monthDay_spec hdoy
  have hleap := isLeap_of_yearDay (z := z + 719468)
  unfold civilOfDays
  dsimp only
  generalize (yearDay (z + 719468)).1 = y at hleap ⊢
  generalize (yearDay (z + 719468)).2 = doy at hdoy hm hd hsum hlt hleap ⊢
  generalize (monthDay doy).1 = m at hm hsum hlt ⊢
  generalize (monthDay doy).2 = d at hd hsum ⊢
  have hfeb : m = 11 → d ≤ if isLeap (y + 1) then 29 else 28 := by
    rintro rfl
    unfold daysBeforeMonth at hsum
    split
    · omega
    · next hnot =>
        have : doy ≠ 365 := fun h => hnot (hleap h)
        omega
  unfold daysBeforeMonth at hsum hlt
  interval_cases m <;> constructor <;> simp [ofMarch, daysInMonth] <;> omega

end Calendar
