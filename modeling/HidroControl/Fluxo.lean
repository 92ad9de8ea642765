import HidroControl.Hardware
import HidroControl.Base.Rounding

/-!
# `fluxo.cpp` — the flow sensors

The interrupt handlers bump two atomic counters; `fluxo_update` reads them once
a second and turns the differences into rates, activity flags and stop times.
The counters belong to the interrupts and the rest to the control task, so the
module keeps them apart: `Contadores` and `Fluxo`. What a call of `fluxo_update`
reads from outside — the timer twice, each counter once — is a `LeituraFluxo`.

The floats are rationals rounded after every operation by `A : Rounding`:
`Rounding.binary32` is the hardware, `Rounding.exact` the exact reading.

The second half states what one call does, once for both circuits: `Fluxo`
projected on a circuit is a `CanalFluxo`, and a completing call is
`CanalFluxo.fecha` on each of the two.
-/

namespace HidroControl

/-! ## Counters and interrupts -/

structure Contadores where
  sPulsosFrio : UInt32 := 0
  sPulsosQuente : UInt32 := 0

def isrFluxoFrio (s : Contadores) : Contadores :=
  { s with sPulsosFrio := s.sPulsosFrio + 1 }

def isrFluxoQuente (s : Contadores) : Contadores :=
  { s with sPulsosQuente := s.sPulsosQuente + 1 }

/-! ## The task's statics -/

/-- The statics of `fluxo.cpp` that only the control task writes, with their
initializers. -/
structure Fluxo where
  sLastPulsosFrio : UInt32 := 0
  sLastPulsosQuente : UInt32 := 0
  sFrioLmin : ℚ := 0
  sQuenteLmin : ℚ := 0
  sFrioAtivo : Bool := false
  sQuenteAtivo : Bool := false
  sLastStopFrioMs : UInt32 := 0
  sLastStopQuenteMs : UInt32 := 0
  sLastUpdateUs : ℕ := 0

/-- What one `fluxo_update` reads: `now_us`, the two counter loads, and the
timer once more behind `millis32()`. -/
structure LeituraFluxo where
  nowUs : ℕ := 0
  pFrio : UInt32 := 0
  pQuente : UInt32 := 0
  msUs : ℕ := 0

/-- `fluxo_init` stamps the start of the first window; the pin setup has no
other effect on the statics. -/
def fluxoInit (nowUs : ℕ) (s : Fluxo) : Fluxo := { s with sLastUpdateUs := nowUs }

/-- Litres a minute from a pulse difference and a window length: the float
chain `(d / (dt_us / 1000000.0f)) / FLOW_K_FACTOR`, rounded where C rounds. -/
def lmin (A : Rounding) (d : UInt32) (dtUs : ℤ) : ℚ :=
  let dtS := A.div (A.lit dtUs) (A.lit 1000000)
  let hz := A.div (A.lit d.toNat) dtS
  A.div hz (A.lit flowKFactor)

def lminAtivo (A : Rounding) (q : ℚ) : Bool := decide (A.lit (1 / 10) < q)

def fluxoUpdate (A : Rounding) (e : LeituraFluxo) (s : Fluxo) : Fluxo :=
  let dtUs : ℤ := (e.nowUs : ℤ) - (s.sLastUpdateUs : ℤ)
  if dtUs < 1000000 then s
  else
    let dFrio := e.pFrio - s.sLastPulsosFrio
    let dQuente := e.pQuente - s.sLastPulsosQuente
    let frioLmin := lmin A dFrio dtUs
    let quenteLmin := lmin A dQuente dtUs
    let novoFrioAtivo := lminAtivo A frioLmin
    let novoQuenteAtivo := lminAtivo A quenteLmin
    let nowMs := millis32 e.msUs
    { sLastUpdateUs := e.nowUs
      sLastPulsosFrio := e.pFrio
      sLastPulsosQuente := e.pQuente
      sFrioLmin := frioLmin
      sQuenteLmin := quenteLmin
      sLastStopFrioMs :=
        if s.sFrioAtivo && !novoFrioAtivo then nowMs else s.sLastStopFrioMs
      sLastStopQuenteMs :=
        if s.sQuenteAtivo && !novoQuenteAtivo then nowMs else s.sLastStopQuenteMs
      sFrioAtivo := novoFrioAtivo
      sQuenteAtivo := novoQuenteAtivo }

def fluxoFrioLmin (s : Fluxo) : ℚ := s.sFrioLmin
def fluxoQuenteLmin (s : Fluxo) : ℚ := s.sQuenteLmin
def fluxoFrioAtivo (s : Fluxo) : Bool := s.sFrioAtivo
def fluxoQuenteAtivo (s : Fluxo) : Bool := s.sQuenteAtivo
def fluxoPulsosFrio (s : Contadores) : UInt32 := s.sPulsosFrio
def fluxoPulsosQuente (s : Contadores) : UInt32 := s.sPulsosQuente
def fluxoLastStopFrioMs (s : Fluxo) : UInt32 := s.sLastStopFrioMs
def fluxoLastStopQuenteMs (s : Fluxo) : UInt32 := s.sLastStopQuenteMs

/-! ## One circuit at a time

`fluxo_update` is written twice over, once per sensor. Projected on a circuit
the two copies are the same function, so every later result is proved once. -/

structure CanalFluxo where
  lastPulsos : UInt32
  lmin : ℚ
  ativo : Bool
  lastStopMs : UInt32

def Fluxo.canal (s : Fluxo) : Canal → CanalFluxo
  | .frio => ⟨s.sLastPulsosFrio, s.sFrioLmin, s.sFrioAtivo, s.sLastStopFrioMs⟩
  | .quente =>
      ⟨s.sLastPulsosQuente, s.sQuenteLmin, s.sQuenteAtivo, s.sLastStopQuenteMs⟩

def LeituraFluxo.pulsos (e : LeituraFluxo) : Canal → UInt32
  | .frio => e.pFrio
  | .quente => e.pQuente

/-- The call completes a window: at least a second since the last one. -/
def Fluxo.completa (s : Fluxo) (e : LeituraFluxo) : Prop :=
  s.sLastUpdateUs + 1000000 ≤ e.nowUs

instance (s : Fluxo) (e : LeituraFluxo) : Decidable (s.completa e) :=
  inferInstanceAs (Decidable (_ ≤ _))

/-- One sensor closing a window of `dtUs` microseconds with counter value `p`,
the millisecond clock showing `ms`. -/
def CanalFluxo.fecha (A : Rounding) (dtUs : ℤ) (p ms : UInt32) (c : CanalFluxo) :
    CanalFluxo :=
  let q := HidroControl.lmin A (p - c.lastPulsos) dtUs
  let novo := lminAtivo A q
  { lastPulsos := p
    lmin := q
    ativo := novo
    lastStopMs := if c.ativo && !novo then ms else c.lastStopMs }

theorem fluxoUpdate_of_not_completa {A : Rounding} {e : LeituraFluxo} {s : Fluxo}
    (h : ¬ s.completa e) : fluxoUpdate A e s = s := by
  unfold fluxoUpdate
  unfold Fluxo.completa at h
  exact if_pos (by omega)

theorem fluxoUpdate_sLastUpdateUs {A : Rounding} {e : LeituraFluxo} {s : Fluxo}
    (h : s.completa e) : (fluxoUpdate A e s).sLastUpdateUs = e.nowUs := by
  unfold fluxoUpdate
  unfold Fluxo.completa at h
  rw [if_neg (by omega)]

/-- **One call, one circuit.** A completing call does to each sensor what
`CanalFluxo.fecha` says, from that sensor's counter alone. -/
theorem fluxoUpdate_canal {A : Rounding} {e : LeituraFluxo} {s : Fluxo}
    (h : s.completa e) (c : Canal) :
    (fluxoUpdate A e s).canal c =
      (s.canal c).fecha A ((e.nowUs : ℤ) - s.sLastUpdateUs) (e.pulsos c)
        (millis32 e.msUs) := by
  unfold fluxoUpdate
  unfold Fluxo.completa at h
  rw [if_neg (by omega)]
  cases c <;> rfl

/-! ## When a window counts as flow -/

theorem lminAtivo_iff {A : Rounding} {q : ℚ} :
    lminAtivo A q = true ↔ A.lit (1 / 10) < q := decide_eq_true_iff

/-- No pulse, no flow: under any rounding a zero difference is below the
threshold. -/
theorem lminAtivo_zero (A : Rounding) (dtUs : ℤ) :
    lminAtivo A (lmin A 0 dtUs) = false := by
  have h : 0 ≤ A.lit (1 / 10) := A.rnd_nonneg (by norm_num)
  have hzero : lmin A 0 dtUs = 0 := by simp [lmin, Rounding.lit]
  rw [← Bool.not_eq_true, lminAtivo_iff, hzero]
  exact not_lt.mpr h

/-- A sensor found active counted at least one pulse in the window. -/
theorem CanalFluxo.pulsos_ne_of_ativo {A : Rounding} {dtUs : ℤ} {p ms : UInt32}
    {c : CanalFluxo} (h : (c.fecha A dtUs p ms).ativo = true) :
    p ≠ c.lastPulsos := by
  rintro rfl
  simp [CanalFluxo.fecha, lminAtivo_zero] at h

theorem lmin_exact_eq {d : UInt32} {dtUs : ℤ} (hdt : 0 < dtUs) :
    lmin .exact d dtUs = 10000000 * d.toNat / (66 * dtUs) := by
  have hdt' : (dtUs : ℚ) ≠ 0 := by exact_mod_cast hdt.ne'
  simp only [lmin, Rounding.exact_lit, Rounding.exact_div, flowKFactor]
  field_simp
  ring

/-- **The exact threshold.** Read as rational arithmetic, `d` pulses in `dt`
microseconds are flow exactly when `10^8 d > 66 dt`. -/
theorem lminAtivo_exact {d : UInt32} {dtUs : ℤ} (hdt : 0 < dtUs) :
    lminAtivo .exact (lmin .exact d dtUs) = true ↔
      66 * dtUs < 100000000 * (d.toNat : ℤ) := by
  have hdt' : (0 : ℚ) < (dtUs : ℚ) := by exact_mod_cast hdt
  rw [lminAtivo_iff, lmin_exact_eq hdt, Rounding.exact_lit, lt_div_iff₀ (by positivity)]
  constructor
  · intro h
    have : (66 * dtUs : ℚ) < 100000000 * (d.toNat : ℚ) := by linarith
    exact_mod_cast this
  · intro h
    have : (66 * dtUs : ℚ) < 100000000 * (d.toNat : ℚ) := by exact_mod_cast h
    linarith

/-- **The float chain.** Four conversions and three divisions: the rate is seven
roundings away from the one read exactly. -/
theorem lmin_near (A : Rounding) (d : UInt32) {dtUs : ℤ} (hdt : 0 < dtUs) :
    Rounding.Near 7 (lmin A d dtUs) (lmin .exact d dtUs) := by
  have hdt' : (0 : ℚ) < (dtUs : ℚ) := by exact_mod_cast hdt
  have hd : (0 : ℚ) ≤ (d.toNat : ℚ) := Nat.cast_nonneg _
  have hm : (0 : ℚ) < 1000000 := by norm_num
  have hK : 0 < flowKFactor := by norm_num [flowKFactor]
  have hdtS := (A.near_rnd hdt'.le).div A (A.near_rnd hm.le) (A.rnd_pos hdt').le hdt'.le
    (A.rnd_pos hm) hm
  have hdtSpos := A.div_pos' (A.rnd_pos hm) (A.rnd_pos hdt')
  have hhz := (A.near_rnd hd).div A hdtS (A.rnd_nonneg hd) hd hdtSpos (div_pos hdt' hm)
  have hhznonneg := A.rnd_nonneg (div_nonneg (A.rnd_nonneg hd) hdtSpos.le)
  exact hhz.div A (A.near_rnd hK.le) hhznonneg (div_nonneg hd (div_pos hdt' hm).le)
    (A.rnd_pos hK) hK

end HidroControl
