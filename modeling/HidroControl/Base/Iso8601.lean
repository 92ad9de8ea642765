import HidroControl.Base.Calendar
import HidroControl.Base.CText

/-!
# ISO 8601 date-times

`parse` reads a calendar date-time with a numeric zone offset,
`YYYY-MM-DDThh:mm:ss±hh:mm`, and gives the second it denotes, counted from
1970-01-01T00:00:00Z. A year is four digits or more, with a minus sign before
year 0; a date that does not exist is refused. `parse_render` is the round trip.
-/

namespace Iso8601

open CText Calendar

structure DateTime where
  date : Civil
  hour : ℕ
  minute : ℕ
  second : ℕ
deriving DecidableEq, Repr

structure DateTime.Valid (t : DateTime) : Prop where
  date : t.date.Valid
  hour : t.hour < 24
  minute : t.minute < 60
  second : t.second < 60

instance (t : DateTime) : Decidable t.Valid :=
  decidable_of_iff (t.date.Valid ∧ t.hour < 24 ∧ t.minute < 60 ∧ t.second < 60)
    ⟨fun ⟨h1, h2, h3, h4⟩ => ⟨h1, h2, h3, h4⟩,
      fun h => ⟨h.date, h.hour, h.minute, h.second⟩⟩

def DateTime.seconds (t : DateTime) : ℤ :=
  86400 * t.date.days + (3600 * t.hour + 60 * t.minute + t.second : ℕ)

/-- What a clock that counts `s` seconds shows. -/
def dateTimeOfSeconds (s : ℤ) : DateTime :=
  let r := (s % 86400).toNat
  { date := civilOfDays (s / 86400)
    hour := r / 3600
    minute := r / 60 % 60
    second := r % 60 }

theorem seconds_dateTimeOfSeconds (s : ℤ) : (dateTimeOfSeconds s).seconds = s := by
  have h0 : 0 ≤ s % 86400 := Int.emod_nonneg s (by decide)
  unfold dateTimeOfSeconds DateTime.seconds
  dsimp only
  rw [days_civilOfDays]
  omega

theorem dateTimeOfSeconds_valid (s : ℤ) : (dateTimeOfSeconds s).Valid := by
  have h1 : s % 86400 < 86400 := Int.emod_lt_of_pos s (by decide)
  refine ⟨civilOfDays_valid _, ?_, ?_, ?_⟩
  all_goals
    unfold dateTimeOfSeconds
    dsimp only
    omega

/-! ## Text -/

def renderYear (y : ℤ) : Text :=
  if y < 0 then '-' :: padded 4 y.natAbs else padded 4 y.natAbs

def DateTime.render (t : DateTime) : Text :=
  renderYear t.date.year ++ '-' :: (padded 2 t.date.month ++ '-' ::
    (padded 2 t.date.day ++ 'T' :: (padded 2 t.hour ++ ':' ::
      (padded 2 t.minute ++ ':' :: padded 2 t.second))))

/-- The zone `h` hours and `m` minutes behind Greenwich, or before it. -/
def renderOffset (behind : Bool) (h m : ℕ) : Text :=
  (if behind then '-' else '+') :: (padded 2 h ++ ':' :: padded 2 m)

def readYear : Text → Option (ℤ × Text)
  | '-' :: s => (readNat s).map fun (y, s) => (-(y : ℤ), s)
  | s => (readNat s).map fun (y, s) => ((y : ℤ), s)

/-- The zone's offset from Greenwich in seconds. -/
def readOffset : Text → Option (ℤ × Text)
  | [] => none
  | c :: s => do
      let (h, s) ← readFixed 2 s
      let s ← expect ':' s
      let (m, s) ← readFixed 2 s
      if c = '-' then some (-(3600 * h + 60 * m : ℤ), s)
      else if c = '+' then some ((3600 * h + 60 * m : ℤ), s)
      else none

/-- A date and time without zone, and what follows. -/
def readDateTime (s : Text) : Option (DateTime × Text) := do
  let (year, s) ← readYear s
  let s ← expect '-' s
  let (month, s) ← readFixed 2 s
  let s ← expect '-' s
  let (day, s) ← readFixed 2 s
  let s ← expect 'T' s
  let (hour, s) ← readFixed 2 s
  let s ← expect ':' s
  let (minute, s) ← readFixed 2 s
  let s ← expect ':' s
  let (second, s) ← readFixed 2 s
  some ({ date := { year, month, day }, hour, minute, second }, s)

/-- The second a date-time with zone denotes. -/
def parse (s : Text) : Option ℤ := do
  let (t, s) ← readDateTime s
  let (offset, s) ← readOffset s
  if s = [] ∧ t.Valid then some (t.seconds - offset) else none

/-! ## The round trip -/

theorem head_padded_ne (w n : ℕ) (s : Text) :
    ∃ c cs, padded w n ++ s = c :: cs ∧ c ≠ '-' := by
  obtain ⟨c, cs, hcs⟩ := List.exists_cons_of_ne_nil (padded_ne_nil w n)
  refine ⟨c, cs ++ s, by rw [hcs, List.cons_append], ?_⟩
  rintro rfl
  have := isDigit_of_mem_padded (hcs ▸ List.mem_cons_self)
  exact absurd this (by decide)

theorem readYear_renderYear (y : ℤ) (s : Text) :
    readYear (renderYear y ++ '-' :: s) = some (y, '-' :: s) := by
  have hread := readNat_padded (w := 4) (n := y.natAbs) (s := s)
    (show Char.isDigit '-' = false by decide)
  unfold renderYear
  split
  · next hneg =>
      show (readNat (padded 4 y.natAbs ++ '-' :: s)).map _ = _
      rw [hread]
      simp only [Option.map_some, Option.some.injEq, Prod.mk.injEq, and_true]
      omega
  · next hpos =>
      obtain ⟨c, cs, hcs, hne⟩ := head_padded_ne 4 y.natAbs ('-' :: s)
      rw [hcs] at hread ⊢
      rw [readYear, hread]
      · simp only [Option.map_some, Option.some.injEq, Prod.mk.injEq, and_true]
        omega
      · exact fun t heq => hne (List.cons.inj heq).1

theorem readDateTime_render {t : DateTime} (ht : t.Valid) (s : Text) :
    readDateTime (t.render ++ s) = some (t, s) := by
  have hmonth : t.date.month < 10 ^ 2 := by have := ht.date.month_le; omega
  have hday : t.date.day < 10 ^ 2 := by have := ht.date.day_lt; omega
  have hhour : t.hour < 10 ^ 2 := by have := ht.hour; omega
  have hminute : t.minute < 10 ^ 2 := by have := ht.minute; omega
  have hsecond : t.second < 10 ^ 2 := by have := ht.second; omega
  unfold readDateTime DateTime.render
  simp only [List.append_assoc, List.cons_append, readYear_renderYear,
    readFixed_padded (Nat.zero_lt_two), hmonth, hday, hhour, hminute, hsecond,
    expect_cons, Option.bind_eq_bind, Option.bind_some]

theorem readOffset_renderOffset (behind : Bool) {h m : ℕ} (hh : h < 10 ^ 2)
    (hm : m < 10 ^ 2) :
    readOffset (renderOffset behind h m) =
      some (if behind then -(3600 * h + 60 * m : ℤ) else (3600 * h + 60 * m : ℤ), []) := by
  have hlast : readFixed 2 (padded 2 m) = some (m, []) := by
    have := readFixed_padded Nat.zero_lt_two hm []
    rwa [List.append_nil] at this
  unfold renderOffset readOffset
  cases behind <;>
    simp [readFixed_padded Nat.zero_lt_two hh, hlast]

/-- **Round trip.** A printed date-time with its zone denotes the second it was
printed for. -/
theorem parse_render {t : DateTime} (ht : t.Valid) (behind : Bool) {h m : ℕ}
    (hh : h < 10 ^ 2) (hm : m < 10 ^ 2) :
    parse (t.render ++ renderOffset behind h m) =
      some (if behind then t.seconds + (3600 * h + 60 * m : ℤ)
        else t.seconds - (3600 * h + 60 * m : ℤ)) := by
  unfold parse
  rw [readDateTime_render ht]
  simp only [Option.bind_eq_bind, Option.bind_some,
    readOffset_renderOffset behind hh hm, ht, and_self, if_true]
  cases behind
  · rfl
  · simp only [if_true, sub_neg_eq_add]

end Iso8601
