import HidroControl.Pulsos

/-!
# Detected flow is fresh

An activity flag is an average over a window, so how old the water behind it can
be is a matter of window lengths. From the second window on the control loop
itself decides them: a second, plus at most one gap between iterations. The
first window is different. It opens in `fluxo_init`, before `app_main` waits for
Wi-Fi, and closes in the first iterations of a task that is only created after
the wait; a burst of pulses at power-on is averaged over all of it.

`FlowIsFresh` is refuted by a ten-second wait (`bootWait_stale`). It holds of exactly
the runs in which the flow that the first call may find is fresh (`flowIsFresh_iff`), in
particular after every wait of at most a window and a gap.
-/

namespace HidroControl

open WrapClock Trajectory

namespace ExecucaoPulsos

variable {A : Rounding} {R : ExecucaoPulsos} {G : ℕ}

def GapAtMost (R : ExecucaoPulsos) (G : ℕ) : Prop :=
  ∀ n, (R.it (n + 1)).topoUs ≤ (R.it n).topoUs + 1000 * G

/-- Whenever a sensor is active in an iteration, a pulse of it arrived no
earlier than `2 * (1000 + G)` ms before the iteration. -/
def FlowIsFresh (A : Rounding) (R : ExecucaoPulsos) (G : ℕ) : Prop :=
  ∀ c n, R.ativo A c n = true →
    ∃ p, R.pulso c p = true ∧ p ≤ (R.it n).fluxo.msUs ∧
      (R.it n).topoUs ≤ p + 1000 * (2 * (1000 + G))

def umSegundo : Finset ℕ := (Finset.range 10).image (100000 * ·)

theorem umSegundo_lt {p : ℕ} (hp : p ∈ umSegundo) : p < 1000000 := by
  obtain ⟨k, hk, rfl⟩ := Finset.mem_image.mp hp
  have hk' := Finset.mem_range.mp hk
  show 100000 * k < 1000000
  omega

/-- The tap is open in the first second after power-on; `app_main` waits until
`w` µs, and then comes an iteration every 20 ms. -/
def burstRun (w : ℕ) (hw : 1000000 ≤ w) : ExecucaoPulsos where
  initUs := 0
  it n := .em (w + 20000 * n) 10 0 .normal
  boot_le := Nat.zero_le _
  next_le n := by
    show w + 20000 * n ≤ w + 20000 * (n + 1)
    omega
  pulso := soFrio fun p => decide (p ∈ umSegundo)
  cargaUs _ n := w + 20000 * n
  carga_ge _ _ := Nat.le_refl _
  carga_le _ _ := Nat.le_refl _
  carga_eq c n := by
    cases c with
    | frio =>
        show (10 : UInt32) = reading (Arrivals.count _ 0 (w + 20000 * n + 1))
        rw [soFrio, Arrivals.count_finset]
        · rfl
        · intro p hp
          have hlt := umSegundo_lt hp
          omega
    | quente =>
        show (0 : UInt32) =
          reading (Arrivals.count (fun _ => false) 0 (w + 20000 * n + 1))
        rw [Arrivals.count_eq_zero_iff.mpr fun _ _ _ => rfl]
        rfl

theorem burstRun_gap {w : ℕ} {hw : 1000000 ≤ w} : (burstRun w hw).GapAtMost 20 := by
  intro n
  show w + 20000 * (n + 1) ≤ w + 20000 * n + 1000 * 20
  clear hw
  omega

/-- A ten-second wait: the first window averages the ten pulses over it, one a
second, so flow, though the last pulse is nine seconds old. -/
theorem bootWait_stale :
    (burstRun 10000000 (by decide)).GapAtMost 20 ∧
      ¬ FlowIsFresh .binary32 (burstRun 10000000 (by decide)) 20 := by
  refine ⟨burstRun_gap, fun h => ?_⟩
  obtain ⟨p, hp, -, hfresh⟩ := h .frio 0 (by decide +kernel)
  have hlt : p < 1000000 := umSegundo_lt (of_decide_eq_true hp)
  have hfresh' : 10000000 ≤ p + 1000 * (2 * (1000 + 20)) := hfresh
  omega

/-! ## Window lengths -/

/-- An iteration starts before the window it leaves open is a second old. -/
theorem topoUs_lt_sLastUpdateUs (n : ℕ) :
    (R.it n).topoUs <
      (R.estado A (n + 1)).fluxo.sLastUpdateUs + 1000000 := by
  have htopo := (R.it n).topo_le
  rw [Execucao.fluxo_succ]
  by_cases hcomp : R.completa A n
  · rw [fluxoUpdate_sLastUpdateUs hcomp]
    omega
  · rw [fluxoUpdate_of_not_completa hcomp]
    rw [Execucao.completa_iff] at hcomp
    omega

/-- The window from `fluxo_init` to the task's first load, if it is as long as a
window has to be, and by the code's threshold has flow in it, is followed by fresh
pulses: an iteration that looks less than a second after the window was closed has one
no older than `2 * (1000 + G)` ms. -/
def FirstWindowFresh (A : Rounding) (R : ExecucaoPulsos) (G : ℕ) : Prop :=
  ∀ c, R.initUs + 1000000 ≤ (R.it 0).fluxo.nowUs →
    lminAtivo A (lmin A
      (reading (Arrivals.count (R.pulso c) R.initUs (R.cargaUs c 0 + 1)))
      (((R.it 0).fluxo.nowUs : ℤ) - R.initUs)) = true →
    ∀ n, (R.it n).fluxo.nowUs < (R.it 0).fluxo.nowUs + 1000000 →
      ∃ p, R.pulso c p = true ∧ p ≤ (R.it n).fluxo.msUs ∧
        (R.it n).topoUs ≤ p + 1000 * (2 * (1000 + G))

/-- The flag the first call sets is the threshold applied to the pulses since
`fluxo_init`. -/
theorem ativo_primeira {c : Canal} (hcomp : R.completa A 0) :
    R.ativo A c 0 = lminAtivo A (lmin A
      (reading (Arrivals.count (R.pulso c) R.initUs (R.cargaUs c 0 + 1)))
      (((R.it 0).fluxo.nowUs : ℤ) - R.initUs)) := by
  rw [Execucao.ativo_of_completa hcomp, pulsos_janela]
  rfl

/-- A call that closes a window opened less than a second before the previous
iteration closes it within a second and two gaps. -/
theorem janela_curta (hgap : R.GapAtMost G) (n : ℕ) :
    (R.it (n + 1)).fluxo.nowUs <
      (R.estado A (n + 1)).fluxo.sLastUpdateUs + 1000 * (1000 + 2 * G) := by
  have h := topoUs_lt_sLastUpdateUs (A := A) (R := R) n
  have hms := (R.it (n + 1)).now_le_ms
  have hnext := R.next_le (n + 1)
  have h1 := hgap n
  have h2 := hgap (n + 1)
  omega

theorem nowUs_mono {i j : ℕ} (h : i ≤ j) : (R.it i).fluxo.nowUs ≤ (R.it j).fluxo.nowUs := by
  rcases h.eq_or_lt with rfl | hlt
  · exact le_rfl
  · exact (R.it i).now_le_ms.trans
      ((Execucao.msUs_le_topoUs (R := R.toExecucao) hlt).trans (R.it j).topo_le)

/-- For a second the flags are those of the first window. -/
theorem primeira_janela (hcomp : R.completa A 0) {n : ℕ}
    (hn : (R.it n).fluxo.nowUs < (R.it 0).fluxo.nowUs + 1000000) :
    (R.estado A (n + 1)).fluxo.sLastUpdateUs = (R.it 0).fluxo.nowUs ∧
      ∀ c, R.ativo A c n = R.ativo A c 0 := by
  induction n with
  | zero =>
      refine ⟨?_, fun _ => rfl⟩
      rw [Execucao.fluxo_succ, fluxoUpdate_sLastUpdateUs hcomp]
  | succ n ih =>
      obtain ⟨hlast, hflag⟩ := ih ((nowUs_mono (Nat.le_succ n)).trans_lt hn)
      have hopen : ¬ R.completa A (n + 1) := by
        rw [Execucao.completa_iff, hlast]
        omega
      refine ⟨?_, fun c => ?_⟩
      · rw [Execucao.fluxo_succ, fluxoUpdate_of_not_completa hopen, hlast]
      · rw [Execucao.ativo_of_not_completa hopen]
        exact hflag c

/-- A wait of at most a window and a gap is short enough for the first window
too. -/
theorem firstWindowFresh_of_wait (hgap : R.GapAtMost G)
    (hwait : (R.it 0).topoUs ≤ R.initUs + 1000 * (1000 + G)) :
    FirstWindowFresh A R G := by
  intro c (hcomp : R.completa A 0) hact n hn
  rw [← ativo_primeira hcomp] at hact
  obtain ⟨p, hp, hcarga, hpulso⟩ := exists_pulso_of_ativo hcomp hact
  have hp' : R.initUs ≤ p := hp
  have hload := R.carga_le c 0
  have hms := (R.it 0).now_le_ms
  have hnext := R.next_le 0
  have hfirst := hgap 0
  have htopo := (R.it n).topo_le
  have hmono := nowUs_mono (R := R) (Nat.zero_le n)
  have hread := (R.it n).now_le_ms
  refine ⟨p, hpulso, ?_, by omega⟩
  -- the pulse was counted by the first load
  rcases Nat.eq_zero_or_pos n with rfl | hpos
  · omega
  · have hlater := Execucao.msUs_le_topoUs (R := R.toExecucao) hpos
    omega

/-- The pulse behind a flag set by a later window: it came at most a second and two
gaps before the window that counted it was closed. -/
theorem pulso_da_janela (hgap : R.GapAtMost G) {c : Canal} {n : ℕ}
    (hcomp : R.completa A (n + 1)) (hact : R.ativo A c (n + 1) = true) :
    ∃ p, R.pulso c p = true ∧ p ≤ (R.it (n + 1)).fluxo.msUs ∧
      (R.estado A (n + 2)).fluxo.sLastUpdateUs ≤ p + 1000 * (1000 + 2 * G) := by
  rw [Execucao.fluxo_succ, fluxoUpdate_sLastUpdateUs hcomp]
  obtain ⟨p, hp, hcarga, hpulso⟩ := exists_pulso_of_ativo hcomp hact
  have hopen := (janela_aberta (A := A) (R := R) c (n + 1)).2.2.1
  have hlen := janela_curta (A := A) hgap n
  exact ⟨p, hpulso, hcarga.trans (R.carga_le c (n + 1)), by omega⟩

/-- An active flag is one of the first window, or has a recent pulse behind it. -/
theorem pulso_recente (hgap : R.GapAtMost G) (c : Canal) (n : ℕ)
    (hact : R.ativo A c n = true) :
    (R.completa A 0 ∧ R.ativo A c 0 = true ∧
        (R.it n).fluxo.nowUs < (R.it 0).fluxo.nowUs + 1000000) ∨
      ∃ p, R.pulso c p = true ∧ p ≤ (R.it n).fluxo.msUs ∧
        (R.estado A (n + 1)).fluxo.sLastUpdateUs ≤ p + 1000 * (1000 + 2 * G) := by
  induction n with
  | zero =>
      by_cases hcomp : R.completa A 0
      · exact Or.inl ⟨hcomp, hact, Nat.lt_add_of_pos_right (by decide)⟩
      · rw [Execucao.ativo_of_not_completa hcomp, Execucao.inicial_inativo] at hact
        exact Bool.noConfusion hact
  | succ n ih =>
      by_cases hcomp : R.completa A (n + 1)
      · exact Or.inr (pulso_da_janela hgap hcomp hact)
      · rw [Execucao.ativo_of_not_completa hcomp] at hact
        rcases ih hact with ⟨hfirst, hact₀, hn⟩ | ⟨p, hpulso, hms, hlast⟩
        · refine Or.inl ⟨hfirst, hact₀, ?_⟩
          rwa [Execucao.completa_iff, (primeira_janela hfirst hn).1, not_le] at hcomp
        · refine Or.inr ⟨p, hpulso, ?_, ?_⟩
          · exact hms.trans ((R.next_le n).trans
              (Execucao.topoUs_le_msUs (R := R.toExecucao) (n + 1)))
          · rw [Execucao.fluxo_succ, fluxoUpdate_of_not_completa hcomp]
            exact hlast

/-- **Detected flow is fresh exactly if it is after the first window.** -/
theorem flowIsFresh_iff (A : Rounding) (R : ExecucaoPulsos) (G : ℕ) (hgap : R.GapAtMost G) :
    FlowIsFresh A R G ↔ FirstWindowFresh A R G := by
  constructor
  · intro h c (hcomp : R.completa A 0) hact n hn
    rw [← ativo_primeira hcomp] at hact
    exact h c n (((primeira_janela hcomp hn).2 c).trans hact)
  · intro h c n hact
    rcases pulso_recente hgap c n hact with ⟨hcomp, hact₀, hn⟩ | ⟨p, hpulso, hms, hlast⟩
    · rw [ativo_primeira hcomp] at hact₀
      exact h c hcomp hact₀ n hn
    · have htopo := topoUs_lt_sLastUpdateUs (A := A) (R := R) n
      exact ⟨p, hpulso, hms, by omega⟩

/-- The same burst after a one-second wait. -/
theorem shortWait_fresh :
    FlowIsFresh .binary32 (burstRun 1000000 (by decide)) 20 :=
  (flowIsFresh_iff .binary32 (burstRun 1000000 (by decide)) 20 burstRun_gap).mpr
    (firstWindowFresh_of_wait burstRun_gap
      (show 1000000 + 20000 * 0 ≤ 0 + 1000 * (1000 + 20) by decide))

end ExecucaoPulsos

end HidroControl
