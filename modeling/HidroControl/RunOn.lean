import HidroControl.HoldOff
import HidroControl.Pulsos

/-!
# From the pulses to the relay

How long the pump runs for a burst of pulses, end to end: the counters, the
windows, the threshold, the stop time and the hold-off together. The setting is
the quiet one — mode NORMAL, iterations that are instants at most 500 ms apart,
exact arithmetic — and the bounds are for every burst and every placement of the
windows in it.

Two facts carry the proof. A window shorter than 1.5 s is active exactly when
it counts a pulse. And what an iteration knows of the burst is one pulse, the
last one counted (`Rastro`): the sensor is active since, or the stop recorded
after it is at least a second younger than it.
-/

namespace HidroControl

open WrapClock Trajectory

/-- A burst: pulses from `a` to `z`, never more than 4999 ms apart, and none
after `z`. Pulses before `a` are allowed. -/
structure Rajada (h : ℕ → Bool) (a z : ℕ) : Prop where
  primeiro : h a = true
  ultimo : h z = true
  denso : ∀ p, a ≤ p → p < z → h p = true →
    ∃ q, p < q ∧ q ≤ p + 4999000 ∧ h q = true
  depois : ∀ p, z < p → h p = false

theorem Rajada.le {h : ℕ → Bool} {a z : ℕ} (hb : Rajada h a z) : a ≤ z := by
  by_contra hlt
  have := hb.depois a (by omega)
  rw [hb.primeiro] at this
  exact Bool.noConfusion this

namespace ExecucaoPulsos

/-- NORMAL throughout, every iteration one instant, at most 500 ms apart. -/
structure Calma (R : ExecucaoPulsos) : Prop where
  normal : ∀ n, (R.it n).modo = .normal
  instante : ∀ n, (R.it n).fluxo.msUs = (R.it n).topoUs
  gap : ∀ n, (R.it (n + 1)).topoUs ≤ (R.it n).topoUs + 500000

variable {R : ExecucaoPulsos}

/-- When the last completed window before the end of iteration `n` closed. -/
def fechadaUs (R : ExecucaoPulsos) (n : ℕ) : ℕ :=
  (R.estado .exact (n + 1)).fluxo.sLastUpdateUs

/-- The sensor is active in iteration `n`, and the window of that flag closed at
or after the burst's first pulse. -/
def Detecta (R : ExecucaoPulsos) (c : Canal) (a n : ℕ) : Prop :=
  R.ativo .exact c n = true ∧ a ≤ R.fechadaUs n

/-- The relay is on from the first detection up to 5998 ms after the last pulse,
and off from 8000 ms after it, for every burst that starts after a completed
window. -/
def RunOnBounds (R : ExecucaoPulsos) (c : Canal) : Prop :=
  ∀ a z k, Rajada (R.pulso c) a z → R.completa .exact k →
    (R.it k).topoUs < a →
    (∀ n₀ n, R.Detecta c a n₀ → n₀ ≤ n → 3000 < R.topoMs n →
      R.topoMs n < 2 ^ 32 → (R.it n).topoUs ≤ z + 5998000 →
      R.ligado .exact c n = true) ∧
    (∀ n, R.topoMs n < 2 ^ 32 → z + 8000000 ≤ (R.it n).topoUs →
      R.ligado .exact c n = false)

/-! ## One instant per iteration -/

theorem Calma.nowUs_eq (hR : R.Calma) (n : ℕ) :
    (R.it n).fluxo.nowUs = (R.it n).topoUs :=
  le_antisymm ((R.it n).now_le_ms.trans_eq (hR.instante n)) (R.it n).topo_le

theorem Calma.cargaUs_eq (hR : R.Calma) (c : Canal) (n : ℕ) :
    R.cargaUs c n = (R.it n).topoUs :=
  le_antisymm ((R.carga_le c n).trans_eq (hR.instante n))
    ((R.it n).topo_le.trans (R.carga_ge c n))

theorem fechadaUs_of_completa (hR : R.Calma) {n : ℕ}
    (h : R.completa .exact n) : R.fechadaUs n = (R.it n).topoUs := by
  unfold fechadaUs
  rw [Execucao.fluxo_succ, fluxoUpdate_sLastUpdateUs h, hR.nowUs_eq]

theorem fechadaUs_succ_of_not_completa {n : ℕ}
    (h : ¬ R.completa .exact (n + 1)) : R.fechadaUs (n + 1) = R.fechadaUs n := by
  unfold fechadaUs
  rw [Execucao.fluxo_succ, fluxoUpdate_of_not_completa h]

/-- The window left open is never a second old. -/
theorem fechadaUs_bounds (hR : R.Calma) (n : ℕ) :
    R.fechadaUs n ≤ (R.it n).topoUs ∧
      (R.it n).topoUs < R.fechadaUs n + 1000000 := by
  induction n with
  | zero =>
      by_cases hcomp : R.completa .exact 0
      · rw [fechadaUs_of_completa hR hcomp]
        omega
      · unfold fechadaUs
        rw [Execucao.fluxo_succ, fluxoUpdate_of_not_completa hcomp]
        rw [Execucao.completa_iff, hR.nowUs_eq] at hcomp
        exact ⟨R.boot_le, by omega⟩
  | succ n ih =>
      by_cases hcomp : R.completa .exact (n + 1)
      · rw [fechadaUs_of_completa hR hcomp]
        omega
      · rw [fechadaUs_succ_of_not_completa hcomp]
        have hnot := hcomp
        rw [Execucao.completa_iff, hR.nowUs_eq] at hnot
        have hms := R.next_le n
        rw [hR.instante] at hms
        exact ⟨ih.1.trans hms, by unfold fechadaUs; omega⟩

theorem fechadaUs_mono (hR : R.Calma) {n₀ n : ℕ} (hn : n₀ ≤ n) :
    R.fechadaUs n₀ ≤ R.fechadaUs n := by
  induction n, hn using Nat.le_induction with
  | base => exact le_rfl
  | succ n hn ih =>
      refine ih.trans ?_
      by_cases h : R.completa .exact (n + 1)
      · rw [fechadaUs_of_completa hR h]
        have hms := R.next_le n
        rw [hR.instante] at hms
        exact (fechadaUs_bounds hR n).1.trans hms
      · exact (fechadaUs_succ_of_not_completa h).ge

/-- A window that closes after the first iteration is 1 s to 1.5 s long. -/
theorem janela_bounds (hR : R.Calma) {n : ℕ} (h : R.completa .exact (n + 1)) :
    R.fechadaUs n + 1000000 ≤ (R.it (n + 1)).topoUs ∧
      (R.it (n + 1)).topoUs < R.fechadaUs n + 1500000 := by
  have hlt := (fechadaUs_bounds hR n).2
  have hgap := hR.gap n
  rw [Execucao.completa_iff, hR.nowUs_eq] at h
  exact ⟨h, by omega⟩

/-- The pulses still uncounted start at the last window's end or just after. -/
theorem desde_bounds (hR : R.Calma) (c : Canal) (n : ℕ) :
    R.fechadaUs n ≤ R.desde .exact c (n + 1) ∧
      R.desde .exact c (n + 1) ≤ R.fechadaUs n + 1 := by
  refine ⟨(janela_aberta c (n + 1)).2.2.1, ?_⟩
  induction n with
  | zero =>
      by_cases hcomp : R.completa .exact 0
      · rw [desde_succ_of_completa hcomp, fechadaUs_of_completa hR hcomp,
          hR.cargaUs_eq]
      · rw [desde_succ_of_not_completa hcomp]
        unfold fechadaUs
        rw [Execucao.fluxo_succ, fluxoUpdate_of_not_completa hcomp]
        exact Nat.le_succ _
  | succ n ih =>
      by_cases hcomp : R.completa .exact (n + 1)
      · rw [desde_succ_of_completa hcomp, fechadaUs_of_completa hR hcomp,
          hR.cargaUs_eq]
      · rw [desde_succ_of_not_completa hcomp,
          fechadaUs_succ_of_not_completa hcomp]
        exact ih

/-- **A window of the loop is active exactly when it counts a pulse.** Shorter
than 1.5 s, a single pulse is above the threshold; and it cannot hold the 2^32
pulses that would make the 32-bit difference vanish. -/
theorem ativo_iff (hR : R.Calma) {c : Canal} {n : ℕ}
    (h : R.completa .exact (n + 1)) :
    R.ativo .exact c (n + 1) = true ↔
      ∃ p, R.desde .exact c (n + 1) ≤ p ∧ p ≤ (R.it (n + 1)).topoUs ∧
        R.pulso c p = true := by
  constructor
  · intro hact
    obtain ⟨p, h1, h2, h3⟩ := exists_pulso_of_ativo h hact
    exact ⟨p, h1, h2.trans_eq (hR.cargaUs_eq c (n + 1)), h3⟩
  · rintro ⟨p, h1, h2, h3⟩
    obtain ⟨hlong, hshort⟩ := janela_bounds hR h
    have hdesde := desde_bounds hR c n
    have hcarga := hR.cargaUs_eq c (n + 1)
    have hcount := Arrivals.count_ne_zero_iff.mpr
      ⟨p, h1, (by omega : p < R.cargaUs c (n + 1) + 1), h3⟩
    have hle := Arrivals.count_le (h := R.pulso c)
      (R.desde .exact c (n + 1)) (R.cargaUs c (n + 1) + 1)
    have hwin := pulsos_janela (A := .exact) (R := R) c (n + 1)
    rw [Execucao.ativo_of_completa h, hwin, hR.nowUs_eq]
    rw [show (R.estado .exact (n + 1)).fluxo.sLastUpdateUs = R.fechadaUs n from
      rfl]
    rw [lminAtivo_exact (by omega), reading_toNat_of_lt (by omega)]
    omega

/-! ## On: the last pulse counted -/

/-- What the state after iteration `n` keeps of the burst: `q` is the last pulse
counted, and either the sensor is still active or the stop recorded since is at
least a second younger than `q`. -/
def Rastro (R : ExecucaoPulsos) (c : Canal) (a n q : ℕ) : Prop :=
  a ≤ q ∧ R.pulso c q = true ∧ q ≤ R.fechadaUs n ∧
    (∀ p, q < p → p < R.desde .exact c (n + 1) → R.pulso c p = false) ∧
    (R.ativo .exact c n = true ∨
      ∃ v, q + 1000000 ≤ v ∧ v ≤ R.fechadaUs n ∧
        (R.canal .exact c (n + 1)).lastStopMs = reading (v / 1000))

/-- A window that counts pulses leaves the last of them as the trace. -/
theorem rastro_of_pulso (hR : R.Calma) {c : Canal} {a p n : ℕ}
    (ha : R.pulso c a = true) (hat : a ≤ (R.it (n + 1)).topoUs)
    (h : R.completa .exact (n + 1)) (h1 : R.desde .exact c (n + 1) ≤ p)
    (h2 : p ≤ (R.it (n + 1)).topoUs) (h3 : R.pulso c p = true) :
    ∃ q, R.Rastro c a (n + 1) q := by
  obtain ⟨q, hpq, hq, hpulso, hlast⟩ := Arrivals.exists_last h3 h2
  refine ⟨q, ?_, hpulso, ?_, ?_, Or.inl ?_⟩
  · by_contra hlt
    have := hlast a (by omega) hat
    rw [ha] at this
    exact Bool.noConfusion this
  · rw [fechadaUs_of_completa hR h]
    exact hq
  · rw [desde_succ_of_completa h, hR.cargaUs_eq]
    exact fun r hr1 hr2 => hlast r hr1 (by omega)
  · exact (ativo_iff hR h).mpr ⟨q, h1.trans hpq, hq, hpulso⟩

/-- A window that counts nothing keeps the trace: an active sensor stops now, at
least a second after the last pulse, and a stopped one keeps its stop. -/
theorem rastro_of_silencio (hR : R.Calma) {c : Canal} {a q n : ℕ}
    (h : R.completa .exact (n + 1)) (hq : R.Rastro c a n q)
    (hnone : ∀ p, R.desde .exact c (n + 1) ≤ p → p ≤ (R.it (n + 1)).topoUs →
      R.pulso c p = false) : R.Rastro c a (n + 1) q := by
  obtain ⟨haq, hpulso, hle, hlast, hstate⟩ := hq
  obtain ⟨hlong, -⟩ := janela_bounds hR h
  have hclosed := fechadaUs_of_completa hR h
  have hoff : R.ativo .exact c (n + 1) = false := by
    rw [← Bool.not_eq_true, ativo_iff hR h]
    rintro ⟨p, h1, h2, h3⟩
    rw [hnone p h1 h2] at h3
    exact Bool.noConfusion h3
  refine ⟨haq, hpulso, by omega, ?_, Or.inr ?_⟩
  · rw [desde_succ_of_completa h, hR.cargaUs_eq]
    intro p h1 h2
    rcases Nat.lt_or_ge p (R.desde .exact c (n + 1)) with hlt | hge
    · exact hlast p h1 hlt
    · exact hnone p hge (by omega)
  · by_cases hact : R.ativo .exact c n = true
    · refine ⟨(R.it (n + 1)).topoUs, by omega, hclosed.ge, ?_⟩
      rw [Execucao.lastStop_succ_of_parou ⟨hact, hoff⟩]
      unfold Execucao.paradaMs
      rw [hR.instante]
    · obtain ⟨v, hv1, hv2, hstop⟩ := hstate.resolve_left hact
      refine ⟨v, hv1, by omega, ?_⟩
      rw [Execucao.lastStop_succ_of_not_parou fun hp => hact hp.1]
      exact hstop

/-- **The trace of a burst.** Once a window has closed at or after the first
pulse, every iteration keeps the last pulse counted. -/
theorem exists_rastro (hR : R.Calma) {c : Canal} {a : ℕ}
    (ha : R.pulso c a = true) (hstart : (R.it 0).topoUs < a) (n : ℕ) :
    a ≤ R.fechadaUs n → ∃ q, R.Rastro c a n q := by
  induction n with
  | zero =>
      intro hclosed
      have := (fechadaUs_bounds hR 0).1
      omega
  | succ n ih =>
      intro hclosed
      by_cases h : R.completa .exact (n + 1)
      · rw [fechadaUs_of_completa hR h] at hclosed
        by_cases hex : ∃ p, R.desde .exact c (n + 1) ≤ p ∧
            p ≤ (R.it (n + 1)).topoUs ∧ R.pulso c p = true
        · obtain ⟨p, h1, h2, h3⟩ := hex
          exact rastro_of_pulso hR ha hclosed h h1 h2 h3
        · have hnone : ∀ p, R.desde .exact c (n + 1) ≤ p →
              p ≤ (R.it (n + 1)).topoUs → R.pulso c p = false := by
            intro p h1 h2
            rw [← Bool.not_eq_true]
            exact fun h3 => hex ⟨p, h1, h2, h3⟩
          -- the first pulse was counted before, so the trace is there
          have hbefore : a ≤ R.fechadaUs n := by
            have hdesde := desde_bounds hR c n
            by_contra hlt
            have := hnone a (by omega) hclosed
            rw [ha] at this
            exact Bool.noConfusion this
          obtain ⟨q, hq⟩ := ih hbefore
          exact ⟨q, rastro_of_silencio hR h hq hnone⟩
      · rw [fechadaUs_succ_of_not_completa h] at hclosed
        obtain ⟨q, hq⟩ := ih hclosed
        refine ⟨q, ?_⟩
        unfold Rastro at hq ⊢
        rw [Execucao.ativo_of_not_completa h, Execucao.canal_succ_of_not_completa h,
          fechadaUs_succ_of_not_completa h, desde_succ_of_not_completa h]
        exact hq

/-- **On.** The trace keeps the relay on: a stop is at least a second younger
than the last pulse counted, and the next pulse, if there is one, is counted
before the hold-off of that stop runs out. -/
theorem ligado_of_rastro (hR : R.Calma) {c : Canal} {a z n q : ℕ}
    (hb : Rajada (R.pulso c) a z) (hq : R.Rastro c a n q)
    (hnow : 3000 < R.topoMs n) (hup : R.topoMs n < 2 ^ 32)
    (hz : (R.it n).topoUs ≤ z + 5998000) : R.ligado .exact c n = true := by
  obtain ⟨haq, hpulso, hle, hlast, hstate⟩ := hq
  have hinhib := (Execucao.startupInhibit_lt_iff hup).mpr hnow
  have hfeed : alimenta (R.it n).modo c c = true := alimenta_self _ c
  rcases hstate with hact | ⟨v, hv1, hv2, hstop⟩
  · exact Execucao.ligado_of_ativo hinhib hfeed hact
  · have hbounds := fechadaUs_bounds hR n
    have hdesde := desde_bounds hR c n
    have hlt : (R.it n).topoUs < v + 4999000 := by
      have hqz : q ≤ z := by
        by_contra hgt
        have := hb.depois q (by omega)
        rw [hpulso] at this
        exact Bool.noConfusion this
      rcases hqz.eq_or_lt with rfl | hqz
      · omega
      · obtain ⟨q', h1, h2, h3⟩ := hb.denso q haq hqz hpulso
        have hnext : R.desde .exact c (n + 1) ≤ q' := by
          by_contra hlt
          rw [hlast q' h1 (by omega)] at h3
          exact Bool.noConfusion h3
        omega
    refine Execucao.ligado_iff.mpr ⟨hinhib, c, hfeed, ?_⟩
    rw [Execucao.demandaDe_canal, hstop]
    unfold Execucao.topoMs at hup ⊢
    rw [(Execucao.holdOffActive_iff (by omega) (by omega) (by omega) hup).mpr
      (by omega), Bool.or_true]

/-! ## Off: nothing after the last pulse -/

/-- An active flag means the last window closed less than 1.5 s after the last
pulse of all. -/
theorem fechadaUs_of_ativo (hR : R.Calma) {c : Canal} {z : ℕ}
    (hz : ∀ p, z < p → R.pulso c p = false) (hstart : (R.it 0).topoUs < z)
    (n : ℕ) (hact : R.ativo .exact c n = true) : R.fechadaUs n < z + 1500000 := by
  induction n with
  | zero =>
      have := (fechadaUs_bounds hR 0).1
      omega
  | succ n ih =>
      by_cases h : R.completa .exact (n + 1)
      · obtain ⟨p, h1, h2, h3⟩ := (ativo_iff hR h).mp hact
        have hpz : p ≤ z := by
          by_contra hgt
          rw [hz p (by omega)] at h3
          exact Bool.noConfusion h3
        have hdesde := desde_bounds hR c n
        have hlen := janela_bounds hR h
        rw [fechadaUs_of_completa hR h]
        omega
      · rw [fechadaUs_succ_of_not_completa h]
        rw [Execucao.ativo_of_not_completa h] at hact
        exact ih hact

/-- A stop is recorded less than 3 s after the last pulse of all. -/
theorem topoUs_of_parou (hR : R.Calma) {c : Canal} {z : ℕ}
    (hz : ∀ p, z < p → R.pulso c p = false) (hstart : (R.it 0).topoUs < z)
    {m : ℕ} (hm : R.parou .exact c m) : (R.it m).topoUs < z + 3000000 := by
  cases m with
  | zero => omega
  | succ m =>
      have hact : R.ativo .exact c m = true := hm.1
      have hclosed := fechadaUs_of_ativo hR hz hstart m hact
      have hlen := janela_bounds hR (Execucao.completa_of_parou hm)
      omega

/-- **Off.** Eight seconds after the last pulse the flag is down and the last
stop is more than 5000 ms old. -/
theorem desligado_depois (hR : R.Calma) {c : Canal} {z n : ℕ}
    (hz : ∀ p, z < p → R.pulso c p = false) (hstart : (R.it 0).topoUs < z)
    (hup : R.topoMs n < 2 ^ 32) (hlate : z + 8000000 ≤ (R.it n).topoUs) :
    R.ligado .exact c n = false := by
  have hbounds := fechadaUs_bounds hR n
  have hoff : R.ativo .exact c n = false := by
    rw [← Bool.not_eq_true]
    intro hact
    have := fechadaUs_of_ativo hR hz hstart n hact
    omega
  rw [← Bool.not_eq_true, Execucao.ligado_iff]
  rintro ⟨-, c', hfeed, hdem⟩
  rw [hR.normal n] at hfeed
  obtain rfl : c' = c := by simpa [alimenta] using hfeed
  obtain ⟨m, hm, hhold⟩ := Execucao.demanda_cases hdem hoff
  have hstop := topoUs_of_parou hR hz hstart hm.holds
  have hpos := Execucao.paradaMs_of_parou hm.holds
  have hms : R.paradaMs m = (R.it m).topoUs / 1000 := by
    unfold Execucao.paradaMs
    rw [hR.instante]
  unfold Execucao.topoMs at hup hhold
  have := (Execucao.holdOffActive_iff (by omega) (by omega) (by omega) hup).mp
    hhold
  omega

/-! ## The bounds -/

theorem runOnBounds (R : ExecucaoPulsos) (hR : R.Calma) (c : Canal) :
    RunOnBounds R c := by
  intro a z k hb _ hk
  have hstart : (R.it 0).topoUs < a := by
    rcases Nat.eq_zero_or_pos k with rfl | hpos
    · exact hk
    · have h0 := Execucao.msUs_le_topoUs (R := R.toExecucao) hpos
      rw [hR.instante] at h0
      omega
  constructor
  · intro n₀ n hdet hn hnow hup hz
    have hclosed := hdet.2.trans (fechadaUs_mono hR hn)
    obtain ⟨q, hq⟩ := exists_rastro hR hb.primeiro hstart n hclosed
    exact ligado_of_rastro hR hb hq hnow hup hz
  · intro n hup hlate
    exact desligado_depois hR hb.depois (hstart.trans_le hb.le) hup hlate

def duasGotas (p : ℕ) : Bool := p == 2500001 || p == 6500001

/-- The dripping tap, seen every half second. -/
def dripRun : ExecucaoPulsos where
  initUs := 0
  it := fun n =>
    .em (500000 * (n + 1))
      (reading (Arrivals.count duasGotas 0 (500000 * (n + 1) + 1))) 0 .normal
  boot_le := Nat.zero_le _
  next_le := fun n => by
    show 500000 * (n + 1) ≤ 500000 * (n + 1 + 1)
    omega
  pulso := soFrio duasGotas
  cargaUs := fun _ n => 500000 * (n + 1)
  carga_ge := fun _ _ => Nat.le_refl _
  carga_le := fun _ _ => Nat.le_refl _
  carga_eq := fun
    | .frio, _ => rfl
    | .quente, n => by
        show (0 : UInt32) =
          reading (Arrivals.count (fun _ => false) 0 (500000 * (n + 1) + 1))
        rw [Arrivals.count_eq_zero_iff.mpr fun _ _ _ => rfl]
        rfl

theorem dripRun_calma : dripRun.Calma :=
  ⟨fun _ => rfl, fun _ => rfl, fun n => by
    show 500000 * (n + 1 + 1) ≤ 500000 * (n + 1) + 500000
    omega⟩

theorem dripRun_bounds : RunOnBounds dripRun .frio :=
  runOnBounds dripRun dripRun_calma .frio

end ExecucaoPulsos

end HidroControl
