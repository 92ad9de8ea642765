import HidroControl.Base.Iso8601

/-!
# `timekeeper.cpp` — wall-clock time

`s_synced` is set by the SNTP callback and by the first look at a clock that
shows a date after 2023, and never cleared. The callback runs on another task,
so each access of the wall clock comes with what happened around it
(`LeituraHora`): whether the callback ran since the access before, what `time`
returned, and whether the callback ran again before `s_synced` was looked at.

`localtime_r` and `strftime` are the C library's, for the zone `BRT3` and the one
format the program uses. `parse_strftime` says that they print the second they
were given.
-/

namespace HidroControl

open CText Calendar Iso8601

structure TimeT where
  s : ℤ
  ge : -2 ^ 63 ≤ s
  lt : s < 2 ^ 63

/-- One call of `time(nullptr)`, and whether `time_sync_cb` ran just before it
and just after it. -/
structure LeituraHora where
  antes : Bool
  now : TimeT
  depois : Bool

structure Timekeeper where
  sSynced : Bool := false
deriving DecidableEq

def timeSyncCb (_ : Timekeeper) : Timekeeper := { sSynced := true }

def avisa (b : Bool) (s : Timekeeper) : Timekeeper := if b then timeSyncCb s else s

def timekeeperIsSynced (l : LeituraHora) (s : Timekeeper) : Bool × Timekeeper :=
  let s := avisa l.antes s
  let s : Timekeeper := if 1700000000 < l.now.s then { sSynced := true } else s
  let s := avisa l.depois s
  (s.sSynced, s)

/-! ## The C library under `TZ=BRT3` -/

/-- `struct tm`: months from 0, years from 1900. -/
structure Tm where
  tmYear : ℤ
  tmMon : ℕ
  tmMday : ℕ
  tmHour : ℕ
  tmMin : ℕ
  tmSec : ℕ

/-- `localtime_r` three hours west of Greenwich. -/
def localtimeR (t : ℤ) : Tm :=
  let l := dateTimeOfSeconds (t - 10800)
  { tmYear := l.date.year - 1900
    tmMon := l.date.month - 1
    tmMday := l.date.day
    tmHour := l.hour
    tmMin := l.minute
    tmSec := l.second }

/-- `strftime` with `%Y-%m-%dT%H:%M:%S-03:00`. A text that does not fit leaves
the zeroed buffer as it was. -/
def strftime (len : ℕ) (tm : Tm) : Text :=
  let s := renderYear (tm.tmYear + 1900) ++ '-' :: (padded 2 (tm.tmMon + 1) ++
    '-' :: (padded 2 tm.tmMday ++ 'T' :: (padded 2 tm.tmHour ++ ':' ::
    (padded 2 tm.tmMin ++ ':' :: (padded 2 tm.tmSec ++ "-03:00".toList)))))
  if s.length < len then s else []

def unsynced : Text := "unsynced".toList

def timekeeperGetTimestamp (len : ℕ) (l₁ l₂ : LeituraHora) (s : Timekeeper) :
    Text × Timekeeper :=
  if len = 0 then ([], s)
  else
    let (synced, s) := timekeeperIsSynced l₁ s
    if !synced then (snprintf len unsynced, s)
    else
      let s := avisa l₂.antes s
      let timeinfo := localtimeR l₂.now.s
      (strftime len timeinfo, avisa l₂.depois s)

def timekeeperGetEpoch (l₁ l₂ : LeituraHora) (s : Timekeeper) : ℤ × Timekeeper :=
  let (synced, s) := timekeeperIsSynced l₁ s
  if !synced then (0, s)
  else
    let s := avisa l₂.antes s
    (l₂.now.s, avisa l₂.depois s)

/-! ## What the library prints -/

/-- The years a `time_t` reaches have at most twelve digits. -/
theorem natAbs_year_lt {t : ℤ} (h : -2 ^ 63 ≤ t) (h' : t < 2 ^ 63) :
    (dateTimeOfSeconds (t - 10800)).date.year.natAbs < 10 ^ 12 := by
  obtain ⟨hz, hdoy⟩ := yearDay_spec ((t - 10800) / 86400 + 719468)
  have hy : (yearDay ((t - 10800) / 86400 + 719468)).1.natAbs < 10 ^ 12 - 1 := by
    unfold daysBefore at hz
    omega
  show (civilOfDays ((t - 10800) / 86400)).year.natAbs < _
  unfold civilOfDays ofMarch
  dsimp only
  split <;> dsimp only <;> omega

theorem length_renderYear_le {y : ℤ} (h : y.natAbs < 10 ^ 12) :
    (renderYear y).length ≤ 13 := by
  have := length_padded_le (w := 4) (by omega) h
  unfold renderYear
  split <;> simp <;> omega

/-- `localtime_r` and `strftime` print a date-time and its zone. -/
theorem strftime_localtimeR {len : ℕ} (hlen : 40 ≤ len) (t : TimeT) :
    strftime len (localtimeR t.s) =
      (dateTimeOfSeconds (t.s - 10800)).render ++ renderOffset true 3 0 := by
  have hyear := length_renderYear_le (natAbs_year_lt t.ge t.lt)
  obtain ⟨hdate, hhour, hminute, hsecond⟩ := dateTimeOfSeconds_valid (t.s - 10800)
  unfold strftime localtimeR
  dsimp only
  generalize dateTimeOfSeconds (t.s - 10800) = l at *
  obtain ⟨⟨year, month, day⟩, hour, minute, second⟩ := l
  have hmonth := hdate.month_pos
  have hmonth' := hdate.month_le
  have hday := hdate.day_lt
  dsimp only at *
  rw [sub_add_cancel, Nat.sub_add_cancel hmonth, if_pos]
  · simp only [DateTime.render, List.append_assoc, List.cons_append]
    rfl
  · have hzone : "-03:00".toList.length = 6 := rfl
    simp only [List.length_append, List.length_cons, hzone,
      length_padded Nat.zero_lt_two (show month < 10 ^ 2 by omega),
      length_padded Nat.zero_lt_two (show day < 10 ^ 2 by omega),
      length_padded Nat.zero_lt_two (show hour < 10 ^ 2 by omega),
      length_padded Nat.zero_lt_two (show minute < 10 ^ 2 by omega),
      length_padded Nat.zero_lt_two (show second < 10 ^ 2 by omega)]
    omega

theorem parse_strftime (t : TimeT) :
    parse (strftime 40 (localtimeR t.s)) = some t.s := by
  rw [strftime_localtimeR le_rfl, parse_render (dateTimeOfSeconds_valid _) true
    (by decide) (by decide), if_pos rfl, seconds_dateTimeOfSeconds]
  simp

end HidroControl
