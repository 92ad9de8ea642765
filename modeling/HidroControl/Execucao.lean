import HidroControl.Main
import HidroControl.Base.Trajectory

/-!
# Runs of the control task

An `Execucao` is a run of `task_hidrocontrol` from its start on: the stamp
`fluxo_init` took, and what every iteration reads. The timer never runs
backwards, within an iteration or from one to the next; the pulse counters and
the mode snapshots are arbitrary, so every pulse history and every sequence of
modes is some run. Times are true, unbounded times; only the program sees them
modulo `2^32`.

The file proves what one iteration does to the activity flag and the stop time
of a sensor, and from it the invariant of whole runs: **the stored stop time is
the reading taken in the last iteration that turned the sensor off**
(`Execucao.lastStop_cases`).
-/

namespace HidroControl

open WrapClock Trajectory

structure Execucao where
  initUs : ℕ
  it : ℕ → Leituras
  boot_le : initUs ≤ (it 0).topoUs
  next_le : ∀ n, (it n).fluxo.msUs ≤ (it (n + 1)).topoUs

/-- All reads of an iteration at one instant. -/
def Leituras.em (t : ℕ) (pFrio pQuente : UInt32) (modo : ModoOperacao) :
    Leituras where
  topoUs := t
  fluxo := { nowUs := t, pFrio, pQuente, msUs := t }
  modo := modo
  topo_le := le_rfl
  now_le_ms := le_rfl

namespace Execucao

/-- A run in NORMAL whose iterations are instants. -/
def deInstantes (initUs : ℕ) (t : ℕ → ℕ) (pFrio pQuente : ℕ → UInt32)
    (boot_le : initUs ≤ t 0) (next_le : ∀ n, t n ≤ t (n + 1)) : Execucao where
  initUs := initUs
  it := fun n => .em (t n) (pFrio n) (pQuente n) .normal
  boot_le := boot_le
  next_le := next_le

variable (A : Rounding) (R : Execucao)

def estado (n : ℕ) : Controle :=
  state (taskHidrocontrol A) (Controle.boot R.initUs) R.it n

def canal (c : Canal) (n : ℕ) : CanalFluxo := (R.estado A n).fluxo.canal c

/-- `fluxo_*_ativo()` as iteration `n` sees it, `fluxo_update` done. -/
def ativo (c : Canal) (n : ℕ) : Bool := (R.canal A c (n + 1)).ativo

/-- The relay of `r` as iteration `n` leaves it. -/
def ligado (r : Canal) (n : ℕ) : Bool := (R.estado A (n + 1)).reles.ligado r

/-- Iteration `n` turns sensor `c` from active to inactive. -/
def parou (c : Canal) (n : ℕ) : Prop :=
  (R.canal A c n).ativo = true ∧ R.ativo A c n = false

/-- The true millisecond of the read `now` at the top of iteration `n`. -/
def topoMs (n : ℕ) : ℕ := (R.it n).topoUs / 1000

/-- The true millisecond of the `millis32()` inside `fluxo_update`. -/
def paradaMs (n : ℕ) : ℕ := (R.it n).fluxo.msUs / 1000

/-! ## The clock -/

variable {A R}

theorem topoUs_le_msUs (n : ℕ) : (R.it n).topoUs ≤ (R.it n).fluxo.msUs :=
  (R.it n).topo_le.trans (R.it n).now_le_ms

theorem msUs_le_topoUs {i j : ℕ} (h : i < j) :
    (R.it i).fluxo.msUs ≤ (R.it j).topoUs := by
  induction j, Nat.succ_le_of_lt h using Nat.le_induction with
  | base => exact R.next_le i
  | succ j hj ih =>
      exact (ih hj).trans ((topoUs_le_msUs j).trans (R.next_le j))

theorem initUs_le (n : ℕ) : R.initUs ≤ (R.it n).topoUs := by
  induction n with
  | zero => exact R.boot_le
  | succ n ih => exact ih.trans ((topoUs_le_msUs n).trans (R.next_le n))

theorem topoMs_le_paradaMs (n : ℕ) : R.topoMs n ≤ R.paradaMs n :=
  Nat.div_le_div_right (topoUs_le_msUs n)

theorem paradaMs_le_topoMs {i j : ℕ} (h : i < j) : R.paradaMs i ≤ R.topoMs j :=
  Nat.div_le_div_right (msUs_le_topoUs h)

theorem topoMs_mono {i j : ℕ} (h : i ≤ j) : R.topoMs i ≤ R.topoMs j := by
  rcases h.eq_or_lt with rfl | hlt
  · exact le_rfl
  · exact (topoMs_le_paradaMs i).trans (paradaMs_le_topoMs hlt)

theorem paradaMs_mono {i j : ℕ} (h : i ≤ j) : R.paradaMs i ≤ R.paradaMs j := by
  rcases h.eq_or_lt with rfl | hlt
  · exact le_rfl
  · exact (paradaMs_le_topoMs hlt).trans (topoMs_le_paradaMs j)

/-! ## One iteration -/

theorem estado_succ (n : ℕ) :
    R.estado A (n + 1) = taskHidrocontrol A (R.it n) (R.estado A n) :=
  state_succ _ _ _ n

theorem fluxo_succ (n : ℕ) :
    (R.estado A (n + 1)).fluxo =
      fluxoUpdate A (R.it n).fluxo (R.estado A n).fluxo := rfl

def completa (A : Rounding) (R : Execucao) (n : ℕ) : Prop :=
  (R.estado A n).fluxo.completa (R.it n).fluxo

theorem completa_iff {n : ℕ} :
    R.completa A n ↔
      (R.estado A n).fluxo.sLastUpdateUs + 1000000 ≤ (R.it n).fluxo.nowUs := Iff.rfl

theorem canal_succ_of_completa {c : Canal} {n : ℕ} (h : R.completa A n) :
    R.canal A c (n + 1) =
      (R.canal A c n).fecha A
        (((R.it n).fluxo.nowUs : ℤ) - (R.estado A n).fluxo.sLastUpdateUs)
        ((R.it n).fluxo.pulsos c) (millis32 (R.it n).fluxo.msUs) := by
  unfold canal
  rw [fluxo_succ, fluxoUpdate_canal h]

theorem canal_succ_of_not_completa {c : Canal} {n : ℕ} (h : ¬ R.completa A n) :
    R.canal A c (n + 1) = R.canal A c n := by
  unfold canal
  rw [fluxo_succ, fluxoUpdate_of_not_completa h]

/-- The flag is the threshold applied to what the window counted. -/
theorem ativo_of_completa {c : Canal} {n : ℕ} (h : R.completa A n) :
    R.ativo A c n = lminAtivo A (lmin A
      ((R.it n).fluxo.pulsos c - (R.canal A c n).lastPulsos)
      (((R.it n).fluxo.nowUs : ℤ) - (R.estado A n).fluxo.sLastUpdateUs)) :=
  congrArg CanalFluxo.ativo (canal_succ_of_completa h)

theorem ativo_of_not_completa {c : Canal} {n : ℕ} (h : ¬ R.completa A n) :
    R.ativo A c n = (R.canal A c n).ativo :=
  congrArg CanalFluxo.ativo (canal_succ_of_not_completa h)

theorem completa_of_parou {c : Canal} {n : ℕ} (h : R.parou A c n) :
    R.completa A n := by
  by_contra hn
  obtain ⟨hon, hoff⟩ := h
  rw [ativo_of_not_completa hn, hon] at hoff
  exact Bool.noConfusion hoff

/-- The demand an iteration sees. -/
theorem demandaDe_canal {c : Canal} {n : ℕ} {now : UInt32} :
    demandaDe now (R.canal A c (n + 1)) =
      (R.ativo A c n || holdOffActive (R.canal A c (n + 1)).lastStopMs now) := rfl

/-- **The relay command of an iteration.** -/
theorem ligado_iff {r : Canal} {n : ℕ} :
    R.ligado A r n = true ↔
      startupInhibitMs < reading (R.topoMs n) ∧
        ∃ c, alimenta (R.it n).modo c r = true ∧
          demandaDe (reading (R.topoMs n)) (R.canal A c (n + 1)) = true := by
  unfold ligado
  rw [estado_succ, taskHidrocontrol_ligado, decisao_rele_iff]
  rfl

/-! ## The stop time -/

/-- The stop time is overwritten where the sensor stops, and only there. -/
theorem lastStop_succ_of_parou {c : Canal} {n : ℕ} (h : R.parou A c n) :
    (R.canal A c (n + 1)).lastStopMs = reading (R.paradaMs n) := by
  have hc := canal_succ_of_completa (c := c) (completa_of_parou h)
  obtain ⟨hon, hoff⟩ := h
  unfold ativo at hoff
  rw [hc] at hoff ⊢
  simp only [CanalFluxo.fecha] at hoff ⊢
  rw [hon, hoff]
  rfl

theorem lastStop_succ_of_not_parou {c : Canal} {n : ℕ} (h : ¬ R.parou A c n) :
    (R.canal A c (n + 1)).lastStopMs = (R.canal A c n).lastStopMs := by
  by_cases hcomp : R.completa A n
  · have hc := canal_succ_of_completa (c := c) hcomp
    have hkeep : ((R.canal A c n).ativo && !R.ativo A c n) = false := by
      rw [← Bool.not_eq_true, Bool.and_eq_true, Bool.not_eq_true']
      exact h
    unfold ativo at hkeep
    rw [hc] at hkeep ⊢
    simp only [CanalFluxo.fecha] at hkeep ⊢
    rw [hkeep]
    rfl
  · rw [canal_succ_of_not_completa hcomp]

/-- **The stop-time invariant.** Before iteration `n` the stored stop time is
zero if the sensor never stopped, and otherwise the reading of the last
iteration that stopped it. -/
theorem lastStop_cases (c : Canal) (n : ℕ) :
    ((∀ k < n, ¬ R.parou A c k) ∧ (R.canal A c n).lastStopMs = 0) ∨
      ∃ m, LastBefore (R.parou A c) n m ∧
        (R.canal A c n).lastStopMs = reading (R.paradaMs m) := by
  have h := latch (fun n => (R.canal A c n).lastStopMs)
    (fun n => reading (R.paradaMs n))
    (fun n => lastStop_succ_of_parou (A := A) (R := R) (c := c))
    (fun n => lastStop_succ_of_not_parou) n
  rcases h with ⟨hnone, hreg⟩ | hlast
  · refine Or.inl ⟨hnone, hreg.trans ?_⟩
    cases c <;> rfl
  · exact Or.inr hlast

/-- A sensor starts inactive, so one that is inactive after being active has
stopped. -/
theorem inicial_inativo (c : Canal) : (R.canal A c 0).ativo = false := by
  cases c <;> rfl

/-- A stop is recorded at least a second after `fluxo_init`. -/
theorem paradaMs_of_parou {c : Canal} {n : ℕ} (h : R.parou A c n) :
    1000 ≤ R.paradaMs n := by
  have hcomp := completa_of_parou h
  rw [completa_iff] at hcomp
  have hle := (R.it n).now_le_ms
  unfold paradaMs
  omega

/-! ## The hold-off of a stopped sensor -/

theorem startupInhibit_lt_iff {t : ℕ} (h : t < 2 ^ 32) :
    startupInhibitMs < reading t ↔ 3000 < t := by
  rw [UInt32.lt_iff_toNat_lt, reading_toNat_of_lt h]
  rfl

/-- Below `2^32` ms, the hold-off of a stop recorded at `s` runs while `now` is
not before it and less than 5000 ms after it. -/
theorem holdOffActive_iff {s now : ℕ} (hs : 0 < s) (hs' : s < 2 ^ 32)
    (hle : s ≤ now) (hnow : now < 2 ^ 32) :
    holdOffActive (reading s) (reading now) = true ↔ now < s + 5000 := by
  unfold holdOffActive
  rw [if_neg (reading_ne_zero hs hs'), decide_eq_true_iff,
    UInt32.lt_iff_toNat_lt, sub_toNat_of_lt hle (by omega)]
  show now - s < 5000 ↔ _
  omega

/-- A stop stamped after `now` holds nothing: the age comes out close to `2^32`. -/
theorem holdOffActive_adiantada {s now : ℕ} (h : now < s)
    (hs : s + 5000 ≤ now + 2 ^ 32) : holdOffActive (reading s) (reading now) = false := by
  unfold holdOffActive
  split
  · rfl
  · rw [decide_eq_false_iff_not, UInt32.lt_iff_toNat_lt,
      sub_toNat_of_gt h (by omega), not_lt]
    show 5000 ≤ _
    omega

theorem lastBefore_of_holdOffActive {c : Canal} {n : ℕ} {now : UInt32}
    (h : holdOffActive (R.canal A c n).lastStopMs now = true) :
    ∃ m, LastBefore (R.parou A c) n m ∧
      (R.canal A c n).lastStopMs = reading (R.paradaMs m) := by
  rcases lastStop_cases (A := A) (R := R) c n with ⟨-, hzero⟩ | hlast
  · rw [hzero] at h
    simp [holdOffActive] at h
  · exact hlast

end Execucao

end HidroControl
