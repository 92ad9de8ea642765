import HidroControl.Pulsos

/-!
# What counts as flow

A window is closed by the first call of `fluxo_update` a second or more after
the previous closing call. The file collects what a closing call decides from
the window alone: the stamp of a window is the clock read of the call that
opened it (`sLastUpdateUs_cases`), a sensor is found active from the pulses of
that window and its length (`ativo_iff_of_completa`), and up to
`1 515 151` microseconds one pulse is enough (`ativo_iff_pulsos`). The only
memory that reaches further back is the stop time.
-/

namespace HidroControl

open WrapClock Trajectory

namespace Execucao

variable {A : Rounding} {R : Execucao}

/-- The length of the window a call would close. -/
def janelaUs (A : Rounding) (R : Execucao) (n : ℕ) : ℤ :=
  ((R.it n).fluxo.nowUs : ℤ) - (R.estado A n).fluxo.sLastUpdateUs

/-- The pulse difference a call would compute. -/
def diferenca (A : Rounding) (R : Execucao) (c : Canal) (n : ℕ) : UInt32 :=
  (R.it n).fluxo.pulsos c - (R.canal A c n).lastPulsos

/-! ## The stamp of the open window -/

/-- The open window began at the clock read of the last closing call, or at
`fluxo_init`. -/
theorem sLastUpdateUs_cases (n : ℕ) :
    ((∀ k < n, ¬ R.completa A k) ∧
      (R.estado A n).fluxo.sLastUpdateUs = R.initUs) ∨
      ∃ m, LastBefore (R.completa A) n m ∧
        (R.estado A n).fluxo.sLastUpdateUs = (R.it m).fluxo.nowUs := by
  apply latch (fun n => (R.estado A n).fluxo.sLastUpdateUs)
    (fun n => (R.it n).fluxo.nowUs)
  · intro n h
    rw [fluxo_succ, fluxoUpdate_sLastUpdateUs h]
  · intro n h
    rw [fluxo_succ, fluxoUpdate_of_not_completa h]

theorem sLastUpdateUs_of_lastBefore {n m : ℕ} (h : LastBefore (R.completa A) n m) :
    (R.estado A n).fluxo.sLastUpdateUs = (R.it m).fluxo.nowUs := by
  rcases sLastUpdateUs_cases (A := A) (R := R) n with ⟨hnone, -⟩ | ⟨m', hm', hstamp⟩
  · exact absurd h.holds (hnone m h.lt)
  · rw [hstamp, h.unique hm']

theorem sLastUpdateUs_of_none {n : ℕ} (h : ∀ k < n, ¬ R.completa A k) :
    (R.estado A n).fluxo.sLastUpdateUs = R.initUs := by
  rcases sLastUpdateUs_cases (A := A) (R := R) n with ⟨-, hstamp⟩ | ⟨m, hm, -⟩
  · exact hstamp
  · exact absurd hm.holds (h m hm.lt)

theorem janelaUs_of_completa {n : ℕ} (h : R.completa A n) :
    1000000 ≤ R.janelaUs A n := by
  rw [completa_iff] at h
  unfold janelaUs
  omega

/-! ## One window -/

theorem fluxo_inalterado {n : ℕ} (h : ¬ R.completa A n) :
    (R.estado A (n + 1)).fluxo = (R.estado A n).fluxo := by
  rw [fluxo_succ, fluxoUpdate_of_not_completa h]

/-- **The threshold.** Exactly read, a closing call finds the sensor active when
`10^8 d > 66 dt`. -/
theorem ativo_iff_of_completa {c : Canal} {n : ℕ} (h : R.completa .exact n) :
    R.ativo .exact c n = true ↔
      66 * R.janelaUs .exact n <
        100000000 * ((R.diferenca .exact c n).toNat : ℤ) := by
  have hpos := janelaUs_of_completa h
  rw [ativo_of_completa h]
  exact lminAtivo_exact (by unfold janelaUs at hpos; omega)

/-- Up to `1 515 151` us one pulse is flow: `66 * 1515151 < 10^8`. -/
theorem ativo_iff_diferenca_ne {c : Canal} {n : ℕ} (h : R.completa .exact n)
    (hdt : R.janelaUs .exact n ≤ 1515151) :
    R.ativo .exact c n = true ↔ R.diferenca .exact c n ≠ 0 := by
  have hpos := janelaUs_of_completa h
  rw [ativo_iff_of_completa h, Ne, ← UInt32.toNat_inj]
  show _ ↔ ¬ (R.diferenca .exact c n).toNat = 0
  constructor
  · intro hlt hzero
    rw [hzero] at hlt
    omega
  · intro hne
    omega

/-- The two divisors of the float chain are never zero. -/
theorem divisores_ne_zero {n : ℕ} (h : R.completa A n) :
    A.div (A.lit (R.janelaUs A n)) (A.lit 1000000) ≠ 0 ∧ A.lit flowKFactor ≠ 0 ∧
      A.lit 1000000 ≠ 0 := by
  have hpos : (0 : ℚ) < (R.janelaUs A n : ℚ) := by
    have := janelaUs_of_completa h
    exact_mod_cast (show (0 : ℤ) < R.janelaUs A n by omega)
  have hmega : 0 < A.lit 1000000 := A.rnd_pos (by norm_num)
  have hK : 0 < A.lit flowKFactor := A.rnd_pos (by norm_num [flowKFactor])
  exact ⟨(A.div_pos' hmega (A.rnd_pos hpos)).ne', hK.ne', hmega.ne'⟩

end Execucao

namespace ExecucaoPulsos

variable {A : Rounding} {R : ExecucaoPulsos}

/-- The pulses a call would count: from the load that opened the window up to its
own. -/
def pulsosDaJanela (A : Rounding) (R : ExecucaoPulsos) (c : Canal) (n : ℕ) : ℕ :=
  Arrivals.count (R.pulso c) (R.desde A c n) (R.cargaUs c n + 1)

theorem diferenca_eq (c : Canal) (n : ℕ) :
    R.diferenca A c n = reading (R.pulsosDaJanela A c n) := pulsos_janela c n

/-- Between two loads less than `2^32` us apart there are fewer pulses than the
counter has values. -/
theorem pulsosDaJanela_lt {c : Canal} {n : ℕ} (hdt : R.janelaUs A n ≤ 1515151)
    (hcarga : R.cargaUs c n + 1515152 < (R.it n).fluxo.nowUs + 2 ^ 32) :
    R.pulsosDaJanela A c n < 2 ^ 32 := by
  have hcount := Arrivals.count_le (h := R.pulso c) (R.desde A c n) (R.cargaUs c n + 1)
  obtain ⟨-, -, hlast, -⟩ := janela_aberta (A := A) (R := R) c n
  unfold Execucao.janelaUs at hdt
  unfold pulsosDaJanela
  omega

/-- With fewer than `2^32` pulses in the window, one pulse is what it takes. -/
theorem ativo_iff_pulsos {c : Canal} {n : ℕ} (h : R.completa .exact n)
    (hdt : R.janelaUs .exact n ≤ 1515151) (hlt : R.pulsosDaJanela .exact c n < 2 ^ 32) :
    R.ativo .exact c n = true ↔
      ∃ p, R.desde .exact c n ≤ p ∧ p ≤ R.cargaUs c n ∧ R.pulso c p = true := by
  rw [Execucao.ativo_iff_diferenca_ne h hdt, diferenca_eq, Ne, reading_eq_zero_iff,
    Nat.mod_eq_of_lt hlt, pulsosDaJanela, ← Ne, Arrivals.count_ne_zero_iff]
  simp only [Nat.lt_succ_iff]

/-- **Detection.** Before the second is over a call changes nothing; a closing
call applies the exact threshold to its own window, without dividing by zero;
up to `1 515 151` us one pulse is enough, whenever the counter cannot have gone
round in the window; and the stop time is that of the last window that turned the
sensor off. -/
theorem deteccao (R : ExecucaoPulsos) (n : ℕ) :
    (∀ m, LastBefore (R.completa .exact) n m →
      (R.it n).fluxo.nowUs < (R.it m).fluxo.nowUs + 1000000 →
      (R.estado .exact (n + 1)).fluxo = (R.estado .exact n).fluxo) ∧
    ((∀ k < n, ¬ R.completa .exact k) →
      (R.it n).fluxo.nowUs < R.initUs + 1000000 →
      (R.estado .exact (n + 1)).fluxo = (R.estado .exact n).fluxo) ∧
    ∀ c,
      (R.completa .exact n →
        (R.ativo .exact c n = true ↔
          66 * R.janelaUs .exact n <
            100000000 * ((R.diferenca .exact c n).toNat : ℤ)) ∧
        (R.janelaUs .exact n : ℚ) / 1000000 ≠ 0 ∧ flowKFactor ≠ 0) ∧
      (R.completa .exact n → R.janelaUs .exact n ≤ 1515151 →
        (R.ativo .exact c n = true ↔ R.diferenca .exact c n ≠ 0) ∧
        (R.cargaUs c n + 1515152 < (R.it n).fluxo.nowUs + 2 ^ 32 ∨
          R.pulsosDaJanela .exact c n < 2 ^ 32 →
          (R.ativo .exact c n = true ↔
            ∃ p, R.desde .exact c n ≤ p ∧ p ≤ R.cargaUs c n ∧
              R.pulso c p = true))) ∧
      (((∀ k < n, ¬ R.parou .exact c k) ∧ (R.canal .exact c n).lastStopMs = 0) ∨
        ∃ m, LastBefore (R.parou .exact c) n m ∧
          (R.canal .exact c n).lastStopMs = millis32 (R.it m).fluxo.msUs) := by
  refine ⟨?_, ?_, fun c => ⟨?_, ?_, Execucao.lastStop_cases c n⟩⟩
  · intro m hm hshort
    apply Execucao.fluxo_inalterado
    rw [Execucao.completa_iff, Execucao.sLastUpdateUs_of_lastBefore hm]
    exact not_le.mpr hshort
  · intro hnone hshort
    apply Execucao.fluxo_inalterado
    rw [Execucao.completa_iff, Execucao.sLastUpdateUs_of_none hnone]
    exact not_le.mpr hshort
  · intro h
    obtain ⟨hdt, hK, -⟩ := Execucao.divisores_ne_zero h
    exact ⟨Execucao.ativo_iff_of_completa h, hdt, hK⟩
  · intro h hdt
    refine ⟨Execucao.ativo_iff_diferenca_ne h hdt, fun hfit => ?_⟩
    apply ativo_iff_pulsos h hdt
    rcases hfit with hcarga | hlt
    · exact pulsosDaJanela_lt hdt hcarga
    · exact hlt

/-- One pulse of cold water, then none; every window has the critical length. -/
def umPulsoRun : ExecucaoPulsos :=
  deInstantes 0 (fun n => 1515151 * (n + 1)) (fun _ => .normal)
    (soFrio fun p => decide (p = 700)) (Nat.zero_le _)
    (fun _ => Nat.mul_le_mul_left _ (Nat.le_succ _))

theorem umPulsoRun_detectado :
    umPulsoRun.ativo .exact .frio 0 = true ∧
      ¬ umPulsoRun.ativo .exact .quente 0 = true := by
  have hcomp : umPulsoRun.completa .exact 0 := show 0 + 1000000 ≤ 1515151 by omega
  have hdt : umPulsoRun.janelaUs .exact 0 ≤ 1515151 := le_of_eq rfl
  have hcarga (c : Canal) :
      umPulsoRun.cargaUs c 0 + 1515152 < (umPulsoRun.it 0).fluxo.nowUs + 2 ^ 32 :=
    show 1515151 + 1515152 < 1515151 + 2 ^ 32 by omega
  constructor
  · rw [(((deteccao umPulsoRun 0).2.2 .frio).2.1 hcomp hdt).2 (Or.inl (hcarga _))]
    exact ⟨700, Nat.zero_le _, show 700 ≤ 1515151 by omega, rfl⟩
  · rw [(((deteccao umPulsoRun 0).2.2 .quente).2.1 hcomp hdt).2 (Or.inl (hcarga _))]
    rintro ⟨p, -, -, hp⟩
    exact Bool.noConfusion hp

end ExecucaoPulsos

end HidroControl
