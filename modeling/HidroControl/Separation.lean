import HidroControl.Detection

/-!
# The two circuits do not read each other

Two runs with the same clock reads and the same modes are compared, their pulse
histories agreeing on one sensor only. Everything `fluxo.cpp` keeps about that
sensor then agrees in every state of the two runs (`canal_eq`), and so does its
relay in the iterations whose mode feeds the relay from that sensor alone
(`ligado_eq`): NORMAL for the cold one, NORMAL and MIX for the hot one. In the
modes left out the table of `alimenta` wires the sensors together on purpose.
-/

namespace HidroControl

open WrapClock Trajectory

/-- The same clock reads and the same sequence of modes. -/
structure MesmoRitmo (R R' : Execucao) : Prop where
  init : R.initUs = R'.initUs
  topo : ∀ n, (R.it n).topoUs = (R'.it n).topoUs
  now : ∀ n, (R.it n).fluxo.nowUs = (R'.it n).fluxo.nowUs
  ms : ∀ n, (R.it n).fluxo.msUs = (R'.it n).fluxo.msUs
  modo : ∀ n, (R.it n).modo = (R'.it n).modo

/-- What the circuit `c` can tell of the statics of `fluxo.cpp`: the stamp of the
window and its own half. -/
def Fluxo.igualEm (c : Canal) (s s' : Fluxo) : Prop :=
  s.sLastUpdateUs = s'.sLastUpdateUs ∧ s.canal c = s'.canal c

/-- **One call.** From statics that agree in `c`, with the same clock and the
same count of `c`, the statics agree in `c` again. -/
theorem fluxoUpdate_igualEm {A : Rounding} {c : Canal} {e e' : LeituraFluxo}
    {s s' : Fluxo} (h : s.igualEm c s') (hnow : e.nowUs = e'.nowUs)
    (hms : e.msUs = e'.msUs) (hp : e.pulsos c = e'.pulsos c) :
    (fluxoUpdate A e s).igualEm c (fluxoUpdate A e' s') := by
  obtain ⟨hstamp, hcanal⟩ := h
  by_cases hcomp : s.completa e
  · have hcomp' : s'.completa e' := by
      unfold Fluxo.completa at hcomp ⊢
      rwa [← hstamp, ← hnow]
    constructor
    · rw [fluxoUpdate_sLastUpdateUs hcomp, fluxoUpdate_sLastUpdateUs hcomp', hnow]
    · rw [fluxoUpdate_canal hcomp, fluxoUpdate_canal hcomp', hcanal, hstamp, hnow, hms,
        hp]
  · have hcomp' : ¬ s'.completa e' := by
      unfold Fluxo.completa at hcomp ⊢
      rwa [← hstamp, ← hnow]
    rw [fluxoUpdate_of_not_completa hcomp, fluxoUpdate_of_not_completa hcomp']
    exact ⟨hstamp, hcanal⟩

namespace Execucao

variable {A : Rounding} {R R' : Execucao} {c : Canal}

/-- **Both runs.** Loads of `c` that agree keep the statics of `c` in agreement,
whatever the other sensor sends. -/
theorem igualEm (h : MesmoRitmo R R')
    (hp : ∀ n, (R.it n).fluxo.pulsos c = (R'.it n).fluxo.pulsos c) (n : ℕ) :
    (R.estado A n).fluxo.igualEm c (R'.estado A n).fluxo := by
  apply related (fun s s' : Controle => s.fluxo.igualEm c s'.fluxo)
  · exact ⟨h.init, by cases c <;> rfl⟩
  · intro n ih
    exact fluxoUpdate_igualEm ih (h.now n) (h.ms n) (hp n)

theorem canal_eq (h : MesmoRitmo R R')
    (hp : ∀ n, (R.it n).fluxo.pulsos c = (R'.it n).fluxo.pulsos c) (n : ℕ) :
    R.canal A c n = R'.canal A c n := (igualEm h hp n).2

/-- An iteration whose mode feeds the relay of `c` from the sensor of `c` alone
commands it the same in both runs. -/
theorem ligado_eq (h : MesmoRitmo R R')
    (hp : ∀ n, (R.it n).fluxo.pulsos c = (R'.it n).fluxo.pulsos c) {n : ℕ}
    (hsolo : ∀ c', alimenta (R.it n).modo c' c = true → c' = c) :
    R.ligado A c n = R'.ligado A c n := by
  have htopo : R.topoMs n = R'.topoMs n := congrArg (· / 1000) (h.topo n)
  -- the inhibition is common; of the demands only the one of `c` reaches the relay
  rw [Bool.eq_iff_iff, ligado_iff, ligado_iff, ← h.modo n, ← htopo]
  apply and_congr_right
  intro _
  apply exists_congr
  intro c'
  apply and_congr_right
  intro hfeed
  rw [hsolo c' hfeed, canal_eq h hp]

/-! ## The pins -/

/-- The cache tells the truth about the pins in every state of a run. -/
theorem reles_coerente (n : ℕ) : (R.estado A n).reles.Coerente := by
  apply invariant (fun _ (s : Controle) => s.reles.Coerente)
  · exact relesInit_coerente _
  · intro n s hs
    exact relesSetQuente_coerente (relesSetFrio_coerente hs _) _

/-- The level of the relay pin of `r` as iteration `n` leaves it. -/
def nivel (A : Rounding) (R : Execucao) (r : Canal) (n : ℕ) : Option ℕ :=
  (R.estado A (n + 1)).reles.gpio (pinRele r)

theorem nivel_eq (r : Canal) (n : ℕ) :
    R.nivel A r n = some (relayLevel (R.ligado A r n)) := reles_coerente (n + 1) r

end Execucao

/-! ## Pulse histories -/

theorem solo_frio {m : ModoOperacao} (h : m = .normal) :
    ∀ c, alimenta m c .frio = true → c = .frio := by
  subst h
  intro c
  cases c <;> simp [alimenta]

theorem solo_quente {m : ModoOperacao} (h : m = .normal ∨ m = .mix) :
    ∀ c, alimenta m c .quente = true → c = .quente := by
  intro c
  rcases h with rfl | rfl <;> cases c <;> simp [alimenta]

namespace ExecucaoPulsos

/-- The sensor of `c` sends the same pulses in both runs, and its counter is
loaded at the same instants. -/
structure MesmosPulsos (c : Canal) (R R' : ExecucaoPulsos) : Prop where
  pulso : R.pulso c = R'.pulso c
  carga : R.cargaUs c = R'.cargaUs c

theorem pulsos_eq {c : Canal} {R R' : ExecucaoPulsos}
    (h : MesmoRitmo R.toExecucao R'.toExecucao) (hp : MesmosPulsos c R R') (n : ℕ) :
    (R.it n).fluxo.pulsos c = (R'.it n).fluxo.pulsos c := by
  rw [R.carga_eq, R'.carga_eq, hp.pulso, hp.carga, h.init]

/-- The runs agree on the circuit `c` before iteration `n`: rate, activity and
stop time. -/
structure Concordam (A : Rounding) (c : Canal) (R R' : ExecucaoPulsos) (n : ℕ) :
    Prop where
  lmin : (R.canal A c n).lmin = (R'.canal A c n).lmin
  ativo : (R.canal A c n).ativo = (R'.canal A c n).ativo
  lastStopMs : (R.canal A c n).lastStopMs = (R'.canal A c n).lastStopMs

/-- The relay of `r` is commanded and driven alike by iteration `n`. -/
structure MesmoRele (A : Rounding) (r : Canal) (R R' : ExecucaoPulsos) (n : ℕ) :
    Prop where
  ligado : R.ligado A r n = R'.ligado A r n
  nivel : R.nivel A r n = R'.nivel A r n

theorem concordam {A : Rounding} {c : Canal} {R R' : ExecucaoPulsos}
    (h : MesmoRitmo R.toExecucao R'.toExecucao) (hp : MesmosPulsos c R R') (n : ℕ) :
    Concordam A c R R' n := by
  have heq := Execucao.canal_eq (A := A) h (pulsos_eq h hp) n
  constructor <;> rw [heq]

theorem mesmoRele {A : Rounding} {c : Canal} {R R' : ExecucaoPulsos}
    (h : MesmoRitmo R.toExecucao R'.toExecucao) (hp : MesmosPulsos c R R') {n : ℕ}
    (hsolo : ∀ c', alimenta (R.it n).modo c' c = true → c' = c) :
    MesmoRele A c R R' n := by
  have heq := Execucao.ligado_eq (A := A) h (pulsos_eq h hp) hsolo
  exact ⟨heq, by rw [Execucao.nivel_eq, Execucao.nivel_eq, heq]⟩

/-- **Channel separation.** What the other sensor sends never shows in a
circuit's rate, activity or stop time, nor in its relay while the mode keeps the
circuits apart. -/
theorem separacao (A : Rounding) (R R' : ExecucaoPulsos)
    (h : MesmoRitmo R.toExecucao R'.toExecucao) :
    (MesmosPulsos .frio R R' → ∀ n,
      Concordam A .frio R R' n ∧
        ((∀ k ≤ n, (R.it k).modo = .normal) → MesmoRele A .frio R R' n)) ∧
    (MesmosPulsos .quente R R' → ∀ n,
      Concordam A .quente R R' n ∧
        ((∀ k ≤ n, (R.it k).modo = .normal ∨ (R.it k).modo = .mix) →
          MesmoRele A .quente R R' n)) := by
  constructor
  · intro hp n
    refine ⟨concordam h hp n, fun hmodo => ?_⟩
    exact mesmoRele h hp (solo_frio (hmodo n (Nat.le_refl n)))
  · intro hp n
    refine ⟨concordam h hp n, fun hmodo => ?_⟩
    exact mesmoRele h hp (solo_quente (hmodo n (Nat.le_refl n)))

/-- Two pulse histories under one clock: a window a second, NORMAL for five windows
and MIX from then on. -/
def duasAguas (frio quente : ℕ → Bool) : ExecucaoPulsos :=
  deInstantes 0 (fun n => 1000000 * (n + 1))
    (fun n => if n < 5 then .normal else .mix)
    (fun | .frio => frio | .quente => quente)
    (Nat.zero_le _) (fun _ => Nat.mul_le_mul_left _ (Nat.le_succ _))

section

variable (f q f' q' : ℕ → Bool)

theorem duasAguas_instante (n : ℕ) :
    (duasAguas f q).initUs = 0 ∧ ((duasAguas f q).it n).topoUs = 1000000 * (n + 1) ∧
      ((duasAguas f q).it n).fluxo.nowUs = 1000000 * (n + 1) ∧
      ((duasAguas f q).it n).fluxo.msUs = 1000000 * (n + 1) ∧
      ((duasAguas f q).it n).modo = if n < 5 then .normal else .mix :=
  ⟨rfl, rfl, rfl, rfl, rfl⟩

theorem duasAguas_ritmo :
    MesmoRitmo (duasAguas f q).toExecucao (duasAguas f' q').toExecucao := by
  have h := duasAguas_instante f q
  have h' := duasAguas_instante f' q'
  constructor
  · rw [(h 0).1, (h' 0).1]
  all_goals
    intro n
    simp only [h n, h' n]

theorem duasAguas_frio : MesmosPulsos .frio (duasAguas f q) (duasAguas f q') := ⟨rfl, rfl⟩

theorem duasAguas_quente : MesmosPulsos .quente (duasAguas f q) (duasAguas f' q) :=
  ⟨rfl, rfl⟩

/-- Every call closes the window the call before left open. -/
theorem duasAguas_completa (n : ℕ) :
    ((duasAguas f q).estado .exact n).fluxo.sLastUpdateUs = 1000000 * n ∧
      (duasAguas f q).completa .exact n := by
  have hcomp (k : ℕ)
      (h : ((duasAguas f q).estado .exact k).fluxo.sLastUpdateUs = 1000000 * k) :
      (duasAguas f q).completa .exact k := by
    rw [Execucao.completa_iff, h, (duasAguas_instante f q k).2.2.1, Nat.mul_succ]
  induction n with
  | zero => exact ⟨rfl, hcomp 0 rfl⟩
  | succ n ih =>
      have hlast : ((duasAguas f q).estado .exact (n + 1)).fluxo.sLastUpdateUs =
          1000000 * (n + 1) := by
        rw [Execucao.fluxo_succ, fluxoUpdate_sLastUpdateUs ih.2]
        rfl
      exact ⟨hlast, hcomp (n + 1) hlast⟩

/-- Past the inhibition, a sensor that sends a pulse in the second of an iteration
has its relay on at the end of it. -/
theorem duasAguas_ligado {r : Canal} {n p : ℕ} (hn : 3 ≤ n) (hup : n < 4000000)
    (hfeed : alimenta ((duasAguas f q).it n).modo r r = true)
    (hge : 1000000 * n < p) (hle : p ≤ 1000000 * (n + 1))
    (hp : (duasAguas f q).pulso r p = true) :
    (duasAguas f q).ligado .exact r n = true := by
  obtain ⟨hlast, hcomp⟩ := duasAguas_completa f q n
  have hdt : (duasAguas f q).janelaUs .exact n ≤ 1515151 := by
    unfold Execucao.janelaUs
    rw [hlast, (duasAguas_instante f q n).2.2.1]
    omega
  have hlt : (duasAguas f q).pulsosDaJanela .exact r n < 2 ^ 32 := by
    apply pulsosDaJanela_lt hdt
    show 1000000 * (n + 1) + 1515152 < 1000000 * (n + 1) + 2 ^ 32
    omega
  have hdesde : (duasAguas f q).desde .exact r n ≤ p := by
    obtain ⟨m, rfl⟩ := Nat.exists_eq_succ_of_ne_zero (show n ≠ 0 by omega)
    rw [desde_succ_of_completa (duasAguas_completa f q m).2]
    exact hge
  have hativo : (duasAguas f q).ativo .exact r n = true :=
    (ativo_iff_pulsos hcomp hdt hlt).mpr ⟨p, hdesde, hle, hp⟩
  have hms : (duasAguas f q).topoMs n = 1000 * (n + 1) := by
    unfold Execucao.topoMs
    rw [(duasAguas_instante f q n).2.1]
    omega
  refine Execucao.ligado_iff.mpr ⟨?_, r, hfeed, ?_⟩
  · rw [hms, UInt32.lt_iff_toNat_lt, reading_toNat, Nat.mod_eq_of_lt (by omega)]
    show 3000 < 1000 * (n + 1)
    omega
  · rw [Execucao.demandaDe_canal, hativo]
    rfl

end

/-- Two pulses a second of one water, with and without the other: at 5 s in NORMAL
for the cold relay and at 10 s in MIX for the hot one, both past the inhibition and
on. -/
theorem duasAguas_separadas :
    MesmoRele .exact .frio
      (duasAguas (fun p => p % 500000 == 1) (fun _ => false))
      (duasAguas (fun p => p % 500000 == 1) (fun p => p % 3 == 0)) 4 ∧
    (duasAguas (fun p => p % 500000 == 1) (fun _ => false)).ligado .exact .frio 4 = true ∧
    MesmoRele .exact .quente
      (duasAguas (fun _ => false) (fun p => p % 500000 == 1))
      (duasAguas (fun p => p % 3 == 0) (fun p => p % 500000 == 1)) 9 ∧
    (duasAguas (fun _ => false) (fun p => p % 500000 == 1)).ligado .exact .quente 9 =
      true := by
  refine ⟨?_, ?_, ?_, ?_⟩
  · apply ((separacao .exact _ _ (duasAguas_ritmo _ _ _ _)).1
      (duasAguas_frio _ _ _) 4).2
    intro k hk
    rw [(duasAguas_instante _ _ k).2.2.2.2, if_pos (Nat.lt_succ_of_le hk)]
  · exact duasAguas_ligado _ _ (p := 4000001) (by decide) (by decide) rfl (by decide)
      (by decide) rfl
  · apply ((separacao .exact _ _ (duasAguas_ritmo _ _ _ _)).2
      (duasAguas_quente _ _ _) 9).2
    intro k _
    rw [(duasAguas_instante _ _ k).2.2.2.2]
    by_cases hk : k < 5
    · exact Or.inl (if_pos hk)
    · exact Or.inr (if_neg hk)
  · exact duasAguas_ligado _ _ (p := 9000001) (by decide) (by decide) rfl (by decide)
      (by decide) rfl

end ExecucaoPulsos

end HidroControl
