import HidroControl.Execucao

/-!
# Hold-off and inhibition over whole runs

What `DELAY_OFF_MS` and `STARTUP_INHIBIT_MS` promise, and when the code keeps
it. The decision of an iteration compares two 32-bit stamps with one clock read,
`now`, taken at the top of the loop, and four things can go wrong:

- the stop is stamped later in the iteration than `now`, and a millisecond may
  tick in between: `now - last_stop` wraps and the pump cuts out for one
  iteration (`tickRun`);
- the stamp is never cleared, so 2^32 ms after a stop the difference is small
  again and the pump starts in a dry house (`retriggerRun`);
- `now > STARTUP_INHIBIT_MS` is false again for three seconds each time the
  millisecond counter wraps (`wrapRun`);
- a stop recorded *inside* the inhibition outlives it, and the hold-off starts a
  pump that was never on (`earlyStopRun`).

Each law below is stated for every run, refuted on one of these runs, and
proved of every run that stays away from them.
-/

namespace HidroControl

open WrapClock Trajectory

namespace Execucao

variable {A : Rounding} {R : Execucao}

/-! ## The condition on the two clock reads -/

/-- In the iterations past the inhibition that record a stop before the millisecond
counter turns, no millisecond ticks between the read at the top of the loop and the
one that stamps the stop. -/
def ReadsAgreeAtStops (A : Rounding) (R : Execucao) : Prop :=
  ∀ c n, 3000 < R.topoMs n → R.paradaMs n < 2 ^ 32 → R.parou A c n →
    R.paradaMs n = R.topoMs n

theorem demanda_cases {c : Canal} {n : ℕ} {now : UInt32}
    (h : demandaDe now (R.canal A c (n + 1)) = true)
    (hoff : R.ativo A c n = false) :
    ∃ m, LastBefore (R.parou A c) (n + 1) m ∧
      holdOffActive (reading (R.paradaMs m)) now = true := by
  rw [demandaDe_canal, hoff, Bool.false_or] at h
  obtain ⟨m, hm, hstop⟩ := lastBefore_of_holdOffActive h
  exact ⟨m, hm, hstop ▸ h⟩

/-- A relay fed by an active sensor is on once the inhibition is over. -/
theorem ligado_of_ativo {c r : Canal} {n : ℕ}
    (hnow : startupInhibitMs < reading (R.topoMs n))
    (hfeed : alimenta (R.it n).modo c r = true) (hon : R.ativo A c n = true) :
    R.ligado A r n = true := by
  refine ligado_iff.mpr ⟨hnow, c, hfeed, ?_⟩
  rw [demandaDe_canal, hon, Bool.true_or]

/-- A relay fed by a sensor whose last stop is less than 5000 ms old is on, as
long as that stop is not stamped after `now`. -/
theorem ligado_of_lastStop {c r : Canal} {n m : ℕ}
    (hnow : 3000 < R.topoMs n) (hup : R.topoMs n < 2 ^ 32)
    (hfeed : alimenta (R.it n).modo c r = true)
    (hm : LastBefore (R.parou A c) (n + 1) m)
    (hle : R.paradaMs m ≤ R.topoMs n)
    (hlt : R.topoMs n < R.paradaMs m + 5000) : R.ligado A r n = true := by
  refine ligado_iff.mpr ⟨(startupInhibit_lt_iff hup).mpr hnow, c, hfeed, ?_⟩
  have hpos := paradaMs_of_parou hm.holds
  have hhold := (holdOffActive_iff (by omega) (by omega) hle hup).mpr hlt
  rcases lastStop_cases (A := A) (R := R) c (n + 1) with ⟨hnone, -⟩ | ⟨m', hm', hstop⟩
  · exact absurd hm.holds (hnone m hm.lt)
  · rw [hm'.unique hm] at hstop
    rw [demandaDe_canal, hstop, hhold, Bool.or_true]

/-! ## Hold-off is never interrupted -/

/-- Whenever an iteration stops a sensor, the relays its mode feeds from that
sensor are on in that iteration and in every later one whose `now` is less than
5000 ms after the recorded stop, the mode unchanged and the inhibition over. -/
def HoldOffUninterrupted (A : Rounding) (R : Execucao) : Prop :=
  ∀ (c r : Canal) (i j : ℕ), R.parou A c i → i ≤ j →
    (∀ k, i ≤ k → k ≤ j → (R.it k).modo = (R.it i).modo) →
    alimenta (R.it i).modo c r = true →
    3000 < R.topoMs j → R.topoMs j < R.paradaMs i + 5000 →
    R.paradaMs j < 2 ^ 32 → R.ligado A r j = true

/-- Water until 4 s, then none. The next window closes at 5 000 999 µs: `now`
still reads 5000, the stop is stamped 5001. -/
def tickRun : Execucao where
  initUs := 0
  it
    | 0 => .em 4000000 100 0 .normal
    | 1 =>
        { topoUs := 5000999
          fluxo :=
            { nowUs := 5000999, pFrio := 100, pQuente := 0, msUs := 5001000 }
          modo := .normal
          topo_le := by decide
          now_le_ms := by decide }
    | _ => .em 6000000 100 0 .normal
  boot_le := by decide
  next_le
    | 0 => by decide
    | 1 => by decide
    | _ + 2 => le_rfl

/-- The pump cuts out in the very iteration that records the stop. -/
theorem tickRun_interrupted : ¬ HoldOffUninterrupted .binary32 tickRun := by
  intro h
  have hstop : tickRun.parou .binary32 .frio 1 := by
    unfold parou
    decide +kernel
  have hon := h .frio .frio 1 1 hstop le_rfl
    (fun k h1 h2 => by rw [le_antisymm h2 h1]) rfl (by decide) (by decide)
    (by decide)
  have hoff : tickRun.ligado .binary32 .frio 1 = false := by decide +kernel
  rw [hoff] at hon
  exact Bool.noConfusion hon

/-- In NORMAL every tick between the two reads of a stop cuts the pump out. -/
theorem desligado_of_tick {c : Canal} {n : ℕ} (hmodo : (R.it n).modo = .normal)
    (hstop : R.parou A c n) (htick : R.topoMs n < R.paradaMs n)
    (hcurta : R.paradaMs n + 5000 ≤ R.topoMs n + 2 ^ 32) : R.ligado A c n = false := by
  rw [← Bool.not_eq_true, ligado_iff]
  rintro ⟨-, c', hfeed, hdem⟩
  rw [hmodo] at hfeed
  obtain rfl : c' = c := by simpa [alimenta] using hfeed
  rw [demandaDe_canal, hstop.2, Bool.false_or, lastStop_succ_of_parou hstop,
    holdOffActive_adiantada htick hcurta] at hdem
  exact Bool.noConfusion hdem

/-- **Hold-off, given agreeing reads.** The last stop at or before `j` is no
older than the one at `i`, and its stamp is not after `now`: it is stamped in an
earlier iteration, or in `j` itself by a read that agrees with `now`. -/
theorem holdOff_uninterrupted (A : Rounding) (R : Execucao)
    (h : ReadsAgreeAtStops A R) : HoldOffUninterrupted A R := by
  intro c r i j hstop hij hmode hfeed hnow hlt hup
  have hup' : R.topoMs j < 2 ^ 32 := (topoMs_le_paradaMs j).trans_lt hup
  have hfeed' : alimenta (R.it j).modo c r = true := by
    rw [hmode j hij le_rfl]
    exact hfeed
  rcases lastStop_cases (A := A) (R := R) c (j + 1) with ⟨hnone, -⟩ | ⟨m, hm, -⟩
  · exact absurd hstop (hnone i (by omega))
  · have him : i ≤ m := hm.le (by omega) hstop
    have hmj : R.paradaMs m ≤ R.topoMs j := by
      rcases (Nat.lt_succ_iff.mp hm.lt).eq_or_lt with rfl | hlt'
      · exact (h c m hnow hup hm.holds).le
      · exact paradaMs_le_topoMs hlt'
    have hmono := paradaMs_mono (R := R) him
    exact ligado_of_lastStop hnow hup' hfeed' hm hmj (by omega)

/-- Water until 4 s, a stop at 5 s, and the pump asked at 9.999 s. -/
def stopRun : Execucao :=
  .deInstantes 0
    (fun | 0 => 4000000 | 1 => 5000000 | _ => 9999000)
    (fun _ => 100) (fun _ => 0) (by decide)
    (fun | 0 => by decide | 1 => by decide | _ + 2 => le_rfl)

theorem stopRun_topoMs : ∀ n, 4000 ≤ stopRun.topoMs n ∧ stopRun.topoMs n ≤ 9999
  | 0 => by decide
  | 1 => by decide
  | _ + 2 => by
      show 4000 ≤ 9999000 / 1000 ∧ 9999000 / 1000 ≤ 9999
      decide

theorem stopRun_uninterrupted : HoldOffUninterrupted .binary32 stopRun :=
  holdOff_uninterrupted .binary32 stopRun fun _ _ _ _ _ => rfl

/-! ## No spurious activation -/

theorem startupInhibit_lt_iff_mod {t : ℕ} :
    startupInhibitMs < reading t ↔ 3000 < t % 2 ^ 32 := by
  rw [UInt32.lt_iff_toNat_lt, reading_toNat]
  rfl

/-- Whenever a relay is on, some sensor that feeds it is active, or stopped less
than 5000 ms of true time ago. -/
def NoSpuriousActivation (A : Rounding) (R : Execucao) : Prop :=
  ∀ (r : Canal) (j : ℕ), R.ligado A r j = true →
    ∃ c, alimenta (R.it j).modo c r = true ∧
      (R.ativo A c j = true ∨
        ∃ m, LastBefore (R.parou A c) (j + 1) m ∧
          R.topoMs j < R.paradaMs m + 5000)

/-- No iteration whose `now` reads more than 3000 finds an inactive sensor whose last
stop is a whole number of turns of the millisecond counter old, give or take the
5000 ms after it. -/
def NoRetrigger (A : Rounding) (R : Execucao) : Prop :=
  ∀ (c : Canal) (j m : ℕ), 3000 < R.topoMs j % 2 ^ 32 →
    LastBefore (R.parou A c) (j + 1) m → R.ativo A c j = false →
    R.paradaMs m + 2 ^ 32 ≤ R.topoMs j → 5000 ≤ (R.topoMs j - R.paradaMs m) % 2 ^ 32

/-- Water until 4 s, a stop at 5 s, and the next look at the sensors a second
after the millisecond counter has turned once more. -/
def retriggerRun : Execucao :=
  .deInstantes 0
    (fun | 0 => 4000000 | 1 => 5000000 | _ => 4294973296000)
    (fun _ => 100) (fun _ => 0) (by decide)
    (fun | 0 => by decide | 1 => by decide | _ + 2 => le_rfl)

theorem retriggerRun_spurious :
    ¬ NoSpuriousActivation .binary32 retriggerRun := by
  intro h
  have hon : retriggerRun.ligado .binary32 .frio 2 = true := by decide +kernel
  have hstop : LastBefore (retriggerRun.parou .binary32 .frio) 3 1 := by
    refine ⟨by decide, ?_, ?_⟩
    · unfold parou
      decide +kernel
    · intro k h1 h2
      obtain rfl : k = 2 := by omega
      unfold parou
      decide +kernel
  obtain ⟨c, hfeed, hact | ⟨m, hm, hlt⟩⟩ := h .frio 2 hon
  · have hidle : ∀ c, retriggerRun.ativo .binary32 c 2 = false := by
      intro c
      cases c <;> decide +kernel
    rw [hidle c] at hact
    exact Bool.noConfusion hact
  · cases c with
    | quente => exact absurd hfeed (by decide)
    | frio =>
        rw [hm.unique hstop] at hlt
        exact absurd hlt (by decide)

theorem noSpuriousActivation (A : Rounding) (R : Execucao)
    (h : NoRetrigger A R) : NoSpuriousActivation A R := by
  intro r j hon
  obtain ⟨hnow, c, hfeed, hdem⟩ := ligado_iff.mp hon
  refine ⟨c, hfeed, ?_⟩
  rcases Bool.eq_false_or_eq_true (R.ativo A c j) with hact | hoff
  · exact Or.inl hact
  · obtain ⟨m, hm, hhold⟩ := demanda_cases hdem hoff
    refine Or.inr ⟨m, hm, ?_⟩
    by_contra hge
    have hle : R.paradaMs m ≤ R.topoMs j := by omega
    -- the stamp looks fresh: the true age is small modulo `2^32`
    have hmod : (R.topoMs j - R.paradaMs m) % 2 ^ 32 < 5000 := by
      unfold holdOffActive at hhold
      split at hhold
      · exact absurd hhold Bool.false_ne_true
      · rw [decide_eq_true_iff, UInt32.lt_iff_toNat_lt,
          sub_toNat_of_le hle] at hhold
        exact hhold
    have hturn : R.paradaMs m + 2 ^ 32 ≤ R.topoMs j := by omega
    have := h c j m (startupInhibit_lt_iff_mod.mp hnow) hm hoff hturn
    omega

theorem stopRun_notSpurious : NoSpuriousActivation .binary32 stopRun := by
  apply noSpuriousActivation .binary32 stopRun
  intro c j m _ _ _ hturn
  have hj := (stopRun_topoMs j).2
  omega

/-! ## Inhibition at boot and only at boot -/

/-- Up to 3000 ms of true uptime both relays are off; later every relay fed by
an active sensor is on. -/
def InhibitionOnlyAtBoot (A : Rounding) (R : Execucao) : Prop :=
  ∀ j, (R.topoMs j ≤ 3000 → ∀ r, R.ligado A r j = false) ∧
    (3000 < R.topoMs j → ∀ c r, alimenta (R.it j).modo c r = true →
      R.ativo A c j = true → R.ligado A r j = true)

/-- 33 Hz for 49 days; the second iteration falls one second after the
millisecond counter wrapped. -/
def wrapRun : Execucao :=
  .deInstantes 0
    (fun | 0 => 4000000 | _ => 4294968296000)
    (fun | 0 => 132 | _ => 141733953) (fun _ => 0) (by decide)
    (fun | 0 => by decide | _ + 1 => le_rfl)

/-- The tap is open, the uptime is 49 days, and the pump is off. -/
theorem wrapRun_inhibited : ¬ InhibitionOnlyAtBoot .binary32 wrapRun := by
  intro h
  have hon := (h 1).2 (by decide) .frio .frio rfl (by decide +kernel)
  have hoff : wrapRun.ligado .binary32 .frio 1 = false := by decide +kernel
  rw [hoff] at hon
  exact Bool.noConfusion hon

/-- **The inhibition law holds of exactly the runs in which no water flows when
the millisecond counter has just wrapped.** -/
theorem inhibitionOnlyAtBoot_iff (A : Rounding) (R : Execucao) :
    InhibitionOnlyAtBoot A R ↔
      ∀ j c, 3000 < R.topoMs j → R.topoMs j % 2 ^ 32 ≤ 3000 →
        R.ativo A c j = false := by
  constructor
  · intro h j c hlate hwrap
    by_contra hact
    rw [Bool.not_eq_false] at hact
    have hon := (h j).2 hlate c c (alimenta_self _ c) hact
    have hnow := startupInhibit_lt_iff_mod.mp (ligado_iff.mp hon).1
    omega
  · intro h j
    constructor
    · intro hearly r
      rw [← Bool.not_eq_true, ligado_iff, startupInhibit_lt_iff_mod]
      rintro ⟨hnow, -⟩
      have := Nat.mod_le (R.topoMs j) (2 ^ 32)
      omega
    · intro hlate c r hfeed hact
      refine ligado_of_ativo (startupInhibit_lt_iff_mod.mpr ?_) hfeed hact
      by_contra hwrap
      rw [h j c hlate (by omega)] at hact
      exact Bool.noConfusion hact

/-! ## No start without flow -/

/-- Between two consecutive iterations in one mode a relay goes from off to on
only if a sensor that feeds it is active. -/
def NoStartWithoutFlow (A : Rounding) (R : Execucao) : Prop :=
  ∀ (r : Canal) (i : ℕ), (R.it (i + 1)).modo = (R.it i).modo →
    R.paradaMs (i + 1) < 2 ^ 32 →
    R.ligado A r i = false → R.ligado A r (i + 1) = true →
    ∃ c, alimenta (R.it (i + 1)).modo c r = true ∧ R.ativo A c (i + 1) = true

/-- No stop is less than 5000 ms old when the first iteration past the
inhibition finds its sensor inactive. -/
def QuietStart (A : Rounding) (R : Execucao) : Prop :=
  ∀ (c : Canal) (i m : ℕ), R.topoMs i ≤ 3000 → 3000 < R.topoMs (i + 1) →
    LastBefore (R.parou A c) (i + 2) m → R.ativo A c (i + 1) = false →
    R.paradaMs m + 5000 ≤ R.topoMs (i + 1)

/-- Water in the first second of uptime, none in the second: the stop is recorded
under inhibition, at 2 s. -/
def earlyStopRun : Execucao :=
  .deInstantes 0
    (fun | 0 => 1000000 | 1 => 2000000 | _ => 3500000)
    (fun _ => 100) (fun _ => 0) (by decide)
    (fun | 0 => by decide | 1 => by decide | _ + 2 => le_rfl)

/-- At 3.5 s the hold-off of that stop starts a pump that was never on. -/
theorem earlyStopRun_starts : ¬ NoStartWithoutFlow .binary32 earlyStopRun := by
  intro h
  obtain ⟨c, -, hact⟩ := h .frio 1 rfl (by decide) (by decide +kernel)
    (by decide +kernel)
  have hidle : ∀ c, earlyStopRun.ativo .binary32 c 2 = false := by
    intro c
    cases c <;> decide +kernel
  rw [hidle c] at hact
  exact Bool.noConfusion hact

/-- A stop of an iteration before `i + 1` is still the last one there if it was
the last one at `i`, and conversely. -/
theorem lastBefore_pred {p : ℕ → Prop} {n m : ℕ} (h : LastBefore p (n + 1) m)
    (hne : m ≠ n) : LastBefore p n m :=
  ⟨by have := h.lt; omega, h.holds, fun k h1 h2 => h.after k h1 (by omega)⟩

/-- **No start without flow, given agreeing reads and a quiet start.** A relay
that is on at `i + 1` without flow is held by a stop; that stop already held it
at `i`, unless `i` was inhibited. -/
theorem noStartWithoutFlow (A : Rounding) (R : Execucao)
    (hreads : ReadsAgreeAtStops A R) (hquiet : QuietStart A R) :
    NoStartWithoutFlow A R := by
  intro r i hmode hup hoff hon
  obtain ⟨hnow, c, hfeed, hdem⟩ := ligado_iff.mp hon
  have htopo := topoMs_mono (R := R) (Nat.le_add_right i 1)
  have hup' : R.topoMs (i + 1) < 2 ^ 32 :=
    (topoMs_le_paradaMs (i + 1)).trans_lt hup
  rw [startupInhibit_lt_iff hup'] at hnow
  refine ⟨c, hfeed, ?_⟩
  by_contra hact
  rw [Bool.not_eq_true] at hact
  obtain ⟨m, hm, hhold⟩ := demanda_cases hdem hact
  have hpos := paradaMs_of_parou hm.holds
  rcases Nat.lt_or_ge 3000 (R.topoMs i) with hlate | hearly
  · -- past the inhibition: the relay was on at `i` already
    rw [hmode] at hfeed
    suffices hli : R.ligado A r i = true by
      rw [hoff] at hli
      exact Bool.noConfusion hli
    by_cases hmi : m = i + 1
    · -- the sensor stops in `i + 1`, so it was active in `i`
      have hwas : R.ativo A c i = true := (hmi ▸ hm.holds).1
      exact ligado_of_ativo ((startupInhibit_lt_iff (by omega)).mpr hlate)
        hfeed hwas
    · have hm' := lastBefore_pred hm hmi
      have hle : R.paradaMs m ≤ R.topoMs i := by
        rcases (Nat.lt_succ_iff.mp hm'.lt).eq_or_lt with rfl | hlt
        · have hstamp := paradaMs_mono (R := R) (Nat.le_add_right m 1)
          exact (hreads c m hlate (hstamp.trans_lt hup) hm.holds).le
        · exact paradaMs_le_topoMs hlt
      have hlt := (holdOffActive_iff (by omega) (by omega)
        (hle.trans htopo) hup').mp hhold
      exact ligado_of_lastStop hlate (by omega) hfeed hm' hle (by omega)
  · -- the first iteration past the inhibition: no fresh stop to hold
    have hold := hquiet c i m hearly hnow hm hact
    have hlt := (holdOffActive_iff (by omega) (by omega) (by omega) hup').mp
      hhold
    omega

theorem stopRun_startsOnFlow : NoStartWithoutFlow .binary32 stopRun := by
  apply noStartWithoutFlow .binary32 stopRun (fun _ _ _ _ _ => rfl)
  intro c i m hearly
  have hi := (stopRun_topoMs i).1
  omega

end Execucao

end HidroControl
