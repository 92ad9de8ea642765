import HidroControl.Execucao
import HidroControl.Base.Arrivals

/-!
# Runs with their pulses in time

An `Execucao` lets the counters show anything. Here they show what the sensors
sent: a pulse history per circuit, as the set of microseconds at which the pin
falls, counted from the instant `fluxo_init` enables the interrupts, and each
load of a counter returns the number of pulses up to that instant, modulo
`2^32`. The load happens somewhere between the two timer reads of
`fluxo_update`.

The result of the file is what a completing call subtracts: the pulses since
the previous completing call's load (`pulsos_janela`).
-/

namespace HidroControl

open WrapClock Trajectory

structure ExecucaoPulsos extends Execucao where
  pulso : Canal → ℕ → Bool
  cargaUs : Canal → ℕ → ℕ
  carga_ge : ∀ c n, (it n).fluxo.nowUs ≤ cargaUs c n
  carga_le : ∀ c n, cargaUs c n ≤ (it n).fluxo.msUs
  carga_eq : ∀ c n, (it n).fluxo.pulsos c =
    reading (Arrivals.count (pulso c) initUs (cargaUs c n + 1))

def soFrio (h : ℕ → Bool) : Canal → ℕ → Bool
  | .frio => h
  | .quente => fun _ => false

/-- The counter a load reads is the interrupt handler run once per pulse. -/
theorem isrFluxo_iterate (n : ℕ) :
    (isrFluxoFrio^[n] {}).sPulsosFrio = reading n ∧
      (isrFluxoQuente^[n] {}).sPulsosQuente = reading n := by
  induction n with
  | zero => exact ⟨rfl, rfl⟩
  | succ n ih =>
      simp only [Function.iterate_succ_apply', isrFluxoFrio, isrFluxoQuente,
        ih.1, ih.2, reading_succ, and_self]

namespace ExecucaoPulsos

/-- The run of a pulse history whose iterations are instants, each load made at
the instant of its iteration. -/
def deInstantes (initUs : ℕ) (t : ℕ → ℕ) (modo : ℕ → ModoOperacao)
    (pulso : Canal → ℕ → Bool) (boot_le : initUs ≤ t 0)
    (next_le : ∀ n, t n ≤ t (n + 1)) : ExecucaoPulsos where
  initUs := initUs
  it n := .em (t n)
    (reading (Arrivals.count (pulso .frio) initUs (t n + 1)))
    (reading (Arrivals.count (pulso .quente) initUs (t n + 1))) (modo n)
  boot_le := boot_le
  next_le := next_le
  pulso := pulso
  cargaUs _ n := t n
  carga_ge _ _ := Nat.le_refl _
  carga_le _ _ := Nat.le_refl _
  carga_eq c _ := by cases c <;> rfl

variable (A : Rounding) (R : ExecucaoPulsos)

/-- The first instant whose pulses the window open before iteration `n` will
count: `fluxo_init`, or just after the last load that was used. -/
def desde (c : Canal) : ℕ → ℕ
  | 0 => R.initUs
  | n + 1 =>
      if (R.estado A n).fluxo.completa (R.it n).fluxo then R.cargaUs c n + 1
      else desde c n

variable {A R}

theorem desde_succ_of_completa {c : Canal} {n : ℕ} (h : R.completa A n) :
    R.desde A c (n + 1) = R.cargaUs c n + 1 := if_pos h

theorem desde_succ_of_not_completa {c : Canal} {n : ℕ} (h : ¬ R.completa A n) :
    R.desde A c (n + 1) = R.desde A c n := if_neg h

/-- **The open window.** Before iteration `n` the window has been open since
`sLastUpdateUs`, the pulses from `desde` on are not yet counted, and the stored
baseline is the counter at `desde`. -/
theorem janela_aberta (c : Canal) (n : ℕ) :
    R.initUs ≤ R.desde A c n ∧ R.desde A c n ≤ (R.it n).topoUs + 1 ∧
      (R.estado A n).fluxo.sLastUpdateUs ≤ R.desde A c n ∧
      (R.canal A c n).lastPulsos =
        reading (Arrivals.count (R.pulso c) R.initUs (R.desde A c n)) := by
  induction n with
  | zero =>
      refine ⟨le_rfl, Nat.le_succ_of_le R.boot_le, le_rfl, ?_⟩
      rw [show R.desde A c 0 = R.initUs from rfl, Arrivals.count_self]
      cases c <;> rfl
  | succ n ih =>
      obtain ⟨hinit, hdesde, hlast, hbase⟩ := ih
      have hge := R.carga_ge c n
      have hle := R.carga_le c n
      have hnext := R.next_le n
      have htopo := Execucao.topoUs_le_msUs (R := R.toExecucao) n
      by_cases hcomp : R.completa A n
      · rw [desde_succ_of_completa hcomp]
        refine ⟨?_, by omega, ?_, ?_⟩
        · have := Execucao.initUs_le (R := R.toExecucao) n
          have := (R.it n).topo_le
          omega
        · rw [Execucao.fluxo_succ, fluxoUpdate_sLastUpdateUs hcomp]
          omega
        · rw [Execucao.canal_succ_of_completa hcomp]
          exact R.carga_eq c n
      · rw [desde_succ_of_not_completa hcomp,
          Execucao.canal_succ_of_not_completa hcomp, Execucao.fluxo_succ,
          fluxoUpdate_of_not_completa hcomp]
        exact ⟨hinit, by omega, hlast, hbase⟩

/-- **What a window counts.** A completing call subtracts the pulses from
`desde` up to its own load. -/
theorem pulsos_janela (c : Canal) (n : ℕ) :
    (R.it n).fluxo.pulsos c - (R.canal A c n).lastPulsos =
      reading (Arrivals.count (R.pulso c) (R.desde A c n)
        (R.cargaUs c n + 1)) := by
  obtain ⟨hinit, hdesde, -, hbase⟩ := janela_aberta (A := A) (R := R) c n
  have hge := R.carga_ge c n
  have htopo := (R.it n).topo_le
  have hsplit := Arrivals.count_split (h := R.pulso c) hinit
    (show R.desde A c n ≤ R.cargaUs c n + 1 by omega)
  rw [R.carga_eq, hbase, hsplit, reading_sub (Nat.le_add_right _ _),
    Nat.add_sub_cancel_left]

/-- A sensor that a completing call finds active sent a pulse in its window. -/
theorem exists_pulso_of_ativo {c : Canal} {n : ℕ} (hcomp : R.completa A n)
    (hact : R.ativo A c n = true) :
    ∃ p, R.desde A c n ≤ p ∧ p ≤ R.cargaUs c n ∧ R.pulso c p = true := by
  unfold Execucao.ativo at hact
  rw [Execucao.canal_succ_of_completa hcomp] at hact
  have hne := CanalFluxo.pulsos_ne_of_ativo hact
  have hcount : Arrivals.count (R.pulso c) (R.desde A c n)
      (R.cargaUs c n + 1) ≠ 0 := by
    intro hzero
    have hwin := pulsos_janela (A := A) (R := R) c n
    rw [hzero, show reading 0 = 0 from rfl] at hwin
    apply hne
    rw [← UInt32.sub_add_cancel ((R.it n).fluxo.pulsos c), hwin,
      UInt32.zero_add]
  obtain ⟨p, h1, h2, h3⟩ := Arrivals.count_ne_zero_iff.mp hcount
  exact ⟨p, h1, by omega, h3⟩

end ExecucaoPulsos

end HidroControl
