import HidroControl.Execucao
import HidroControl.Programa

/-!
# The control runs are runs of the program

`Execucao` takes an iteration of `task_hidrocontrol` in one step and lets its
reads be anything in order of time; in `Programa` the iteration is many
steps, with interrupts, the button, `app_main` and the network between any two
of them. This file relates the two: inside the loop, what the program has of the
control — flow statics, relays, locals — is always a control run halted in the
middle of an iteration (`Programa.Fase`). The readings of that run are chosen as the
program makes them, and one run goes along the whole of it (`Programa.exists_guia`).

So whatever is proved of every iteration of every `Execucao` is proved of every
iteration the program ever ends (`corrida_refina`).
-/

namespace HidroControl

open Trajectory

/-! ## Control runs, one iteration after the other -/

namespace Execucao

/-- The last read before iteration `k`. -/
def fimUs (R : Execucao) : ℕ → ℕ
  | 0 => R.initUs
  | k + 1 => (R.it k).fluxo.msUs

/-- The run that has not begun its first iteration. -/
def parada (initUs : ℕ) : Execucao :=
  deInstantes initUs (fun _ => initUs) 0 0 le_rfl fun _ => le_rfl

/-- The first `k` iterations of `R`, then one that reads `l`. -/
def prossegue (R : Execucao) (k : ℕ) (l : Leituras) (h : R.fimUs k ≤ l.topoUs) :
    Execucao where
  initUs := R.initUs
  it n :=
    if n < k then R.it n
    else if n = k then l
    else .em l.fluxo.msUs 0 0 .normal
  boot_le := by
    cases k with
    | zero => exact h
    | succ k =>
        rw [if_pos (Nat.succ_pos k)]
        exact R.boot_le
  next_le n := by
    rcases lt_trichotomy n k with hlt | rfl | hgt
    · rw [if_pos hlt]
      split
      · exact R.next_le n
      · next hge =>
          obtain rfl : k = n + 1 := by omega
          rw [if_pos rfl]
          exact h
    · rw [if_neg (lt_irrefl n), if_pos rfl, if_neg (by omega), if_neg (by omega)]
      exact le_rfl
    · rw [if_neg (by omega), if_neg (by omega), if_neg (by omega),
        if_neg (by omega)]
      exact le_rfl

/-- `R'` begins like `R`: the same boot and the same first `k` iterations. -/
structure Continua (R : Execucao) (k : ℕ) (R' : Execucao) : Prop where
  init : R'.initUs = R.initUs
  it : ∀ j < k, R'.it j = R.it j

variable {A : Rounding} {R R' : Execucao} {k : ℕ} {l : Leituras}
  {h : R.fimUs k ≤ l.topoUs}

theorem Continua.fimUs (h : R.Continua k R') : R'.fimUs k = R.fimUs k := by
  cases k with
  | zero => exact h.init
  | succ k => exact congrArg (fun l : Leituras => l.fluxo.msUs) (h.it k (Nat.lt_succ_self k))

theorem Continua.estado (h : R.Continua k R') {n : ℕ} (hn : n ≤ k) :
    R'.estado A n = R.estado A n := by
  induction n with
  | zero => exact congrArg Controle.boot h.init
  | succ n ih => rw [estado_succ, estado_succ, ih (Nat.le_of_succ_le hn), h.it n hn]

/-- **Limit.** Runs that each continue the one before begin like one run. -/
theorem exists_limite {Rs : ℕ → Execucao} {k : ℕ → ℕ} (hk : Monotone k)
    (h : ∀ n, (Rs n).Continua (k n) (Rs (n + 1))) :
    ∃ L : Execucao, ∀ n, (Rs n).Continua (k n) L := by
  obtain ⟨it, hit, hvizinhos⟩ := exists_limit (f := fun n => (Rs n).it) hk fun n => (h n).it
  have hinit : ∀ n, (Rs n).initUs = (Rs 0).initUs := by
    intro n
    induction n with
    | zero => rfl
    | succ n ih => rw [(h n).init, ih]
  refine ⟨{ initUs := (Rs 0).initUs, it, boot_le := ?_, next_le := fun j => ?_ },
    fun n => ⟨(hinit n).symm, hit n⟩⟩
  · obtain ⟨n, heq, -⟩ := hvizinhos 0
    rw [heq, ← hinit n]
    exact (Rs n).boot_le
  · obtain ⟨n, heq, heq'⟩ := hvizinhos j
    rw [heq, heq']
    exact (Rs n).next_le j

theorem prossegue_it : (R.prossegue k l h).it k = l := by
  show (if k < k then _ else if k = k then l else _) = l
  rw [if_neg (lt_irrefl k), if_pos rfl]

theorem prossegue_fimUs : (R.prossegue k l h).fimUs (k + 1) = l.fluxo.msUs := by
  show ((R.prossegue k l h).it k).fluxo.msUs = _
  rw [prossegue_it]

theorem prossegue_continua : R.Continua k (R.prossegue k l h) :=
  ⟨rfl, fun _ hj => if_pos hj⟩

theorem prossegue_estado_succ :
    (R.prossegue k l h).estado A (k + 1) = taskHidrocontrol A l (R.estado A k) := by
  rw [estado_succ, prossegue_continua.estado le_rfl, prossegue_it]

end Execucao

/-! ## Inside an iteration -/

namespace Programa

def controle (s : Programa) : Controle := ⟨s.fluxo, s.reles⟩

/-- `fluxo_update` is done: the iteration began after `fim`, has read `l`, and
turned `f` into what the statics hold. -/
structure Leu (A : Rounding) (f : Fluxo) (fim : ℕ) (s : Programa) (now : UInt32)
    (l : Leituras) : Prop where
  inicio : fim ≤ l.topoUs
  passado : l.fluxo.msUs ≤ s.relogioUs
  now : now = millis32 l.topoUs
  fluxo : s.fluxo = fluxoUpdate A l.fluxo f

/-- The program stands in the iteration that follows the control state `c`, whose
reads were over at `fim`. -/
def Fase (A : Rounding) (c : Controle) (fim : ℕ) (s : Programa) (t : Tarefa) : Prop :=
  match t.pc with
  | .topo | .atraso => s.controle = c ∧ fim ≤ s.relogioUs
  | .botao | .modosNext _ | .relogio =>
      s.controle = c ∧
        ∃ topoUs, fim ≤ topoUs ∧ topoUs ≤ s.relogioUs ∧ t.now = millis32 topoUs
  | .cargaFrio | .cargaQuente | .fecha =>
      s.controle = c ∧
        ∃ topoUs, fim ≤ topoUs ∧ topoUs ≤ t.leitura.nowUs ∧
          t.leitura.nowUs ≤ s.relogioUs ∧ t.now = millis32 topoUs
  | .leModo => s.reles = c.reles ∧ ∃ l, s.Leu A c.fluxo fim t.now l
  | .decide =>
      s.reles = c.reles ∧ ∃ l, s.Leu A c.fluxo fim t.now l ∧ t.modo = l.modo
  | .releFrio =>
      s.reles = c.reles ∧ ∃ l, s.Leu A c.fluxo fim t.now l ∧ t.modo = l.modo ∧
        t.decisao = l.decisao s.fluxo
  | .releQuente =>
      s.reles = relesSetFrio t.decisao.releFrio c.reles ∧
        ∃ l, s.Leu A c.fluxo fim t.now l ∧ t.modo = l.modo ∧
          t.decisao = l.decisao s.fluxo
  | .registro | .telemetria =>
      ∃ l, s.Leu A c.fluxo fim t.now l ∧ t.modo = l.modo ∧
        s.controle = taskHidrocontrol A l c

/-- Before the loop: what `app_main` has initialised so far. -/
def Boot (s : Programa) : Prop :=
  match s.main with
  | .relesInit => s.controle = ⟨{}, {}⟩
  | .fluxoInit => s.controle = ⟨{}, relesInit {}⟩
  | _ => ∃ initUs ≤ s.relogioUs, s.controle = Controle.boot initUs

/-! ## Steps -/

variable {A : Rounding} {s s' : Programa} {t : Tarefa} {c : Controle} {fim : ℕ}

theorem Leu.mono {f : Fluxo} {now : UInt32} {l : Leituras}
    (h : s.Leu A f fim now l) (hfluxo : s'.fluxo = s.fluxo)
    (hrelogio : s.relogioUs ≤ s'.relogioUs) : s'.Leu A f fim now l :=
  ⟨h.inicio, h.passado.trans hrelogio, h.now, hfluxo.trans h.fluxo⟩

/-- What leaves the control statics alone leaves the loop where it is, however
much time passes. -/
theorem Fase.mono (h : s.Fase A c fim t) (hcontrole : s'.controle = s.controle)
    (hrelogio : s.relogioUs ≤ s'.relogioUs) : s'.Fase A c fim t := by
  have hfluxo : s'.fluxo = s.fluxo := congrArg Controle.fluxo hcontrole
  have hreles : s'.reles = s.reles := congrArg Controle.reles hcontrole
  unfold Fase at *
  cases hpc : t.pc with
  | topo | atraso =>
      rw [hpc] at h
      exact ⟨hcontrole.trans h.1, h.2.trans hrelogio⟩
  | botao | modosNext | relogio =>
      rw [hpc] at h
      obtain ⟨hc, topoUs, hfim, hpassado, hnow⟩ := h
      exact ⟨hcontrole.trans hc, topoUs, hfim, hpassado.trans hrelogio, hnow⟩
  | cargaFrio | cargaQuente | fecha =>
      rw [hpc] at h
      obtain ⟨hc, topoUs, hfim, hnowUs, hpassado, hnow⟩ := h
      exact ⟨hcontrole.trans hc, topoUs, hfim, hnowUs, hpassado.trans hrelogio, hnow⟩
  | leModo =>
      rw [hpc] at h
      obtain ⟨hr, l, hleu⟩ := h
      exact ⟨hreles.trans hr, l, hleu.mono hfluxo hrelogio⟩
  | decide =>
      rw [hpc] at h
      obtain ⟨hr, l, hleu, hmodo⟩ := h
      exact ⟨hreles.trans hr, l, hleu.mono hfluxo hrelogio, hmodo⟩
  | releFrio | releQuente =>
      rw [hpc] at h
      obtain ⟨hr, l, hleu, hmodo, hdec⟩ := h
      refine ⟨hreles.trans hr, l, hleu.mono hfluxo hrelogio, hmodo, ?_⟩
      rw [hfluxo]
      exact hdec
  | registro | telemetria =>
      rw [hpc] at h
      obtain ⟨l, hleu, hmodo, hc⟩ := h
      exact ⟨l, hleu.mono hfluxo hrelogio, hmodo, hcontrole.trans hc⟩

/-- **A step of the loop other than the last** stays in the same iteration. -/
theorem Fase.passo {amb : Ambiente} (hS : amb.setters = .fonte)
    (h : s.Fase amb.A c fim t) (hpc : t.pc ≠ .telemetria) {t' : Tarefa}
    (ht' : (s.passoTarefa amb t).tarefa = some t') :
    (s.passoTarefa amb t).Fase amb.A c fim t' := by
  unfold passoTarefa at ht' ⊢
  unfold Fase at h
  cases hpc' : t.pc with
  | topo =>
      rw [hpc'] at ht' h
      cases ht'
      exact ⟨h.1, s.relogioUs, h.2, le_rfl, rfl⟩
  | botao =>
      rw [hpc'] at ht' h
      dsimp only at ht'
      split at ht' <;> cases ht' <;> exact h
  | modosNext p =>
      rw [hpc'] at ht' h
      dsimp only at ht'
      split at ht' <;> cases ht' <;> exact h
  | relogio =>
      rw [hpc'] at ht' h
      obtain ⟨hc, topoUs, hfim, hpassado, hnow⟩ := h
      by_cases hcomp : s.fluxo.completa { nowUs := s.relogioUs }
      · dsimp only at ht'
        rw [if_pos hcomp] at ht'
        cases ht'
        exact ⟨hc, topoUs, hfim, hpassado, le_rfl, hnow⟩
      · dsimp only at ht'
        rw [if_neg hcomp] at ht'
        cases ht'
        -- the early return: no counter and no second clock was read
        have hcedo : ¬ s.fluxo.completa { nowUs := s.relogioUs, msUs := s.relogioUs } :=
          hcomp
        refine ⟨congrArg Controle.reles hc,
          ⟨topoUs, { nowUs := s.relogioUs, msUs := s.relogioUs }, .normal, hpassado,
            le_rfl⟩, hfim, le_rfl, hnow, ?_⟩
        rw [← congrArg Controle.fluxo hc]
        exact (fluxoUpdate_of_not_completa hcedo).symm
  | cargaFrio | cargaQuente =>
      rw [hpc'] at ht' h
      cases ht'
      exact h
  | fecha =>
      rw [hpc'] at ht' h
      obtain ⟨hc, topoUs, hfim, hnowUs, hpassado, hnow⟩ := h
      cases ht'
      refine ⟨congrArg Controle.reles hc,
        ⟨topoUs, { t.leitura with msUs := s.relogioUs }, .normal, hnowUs, hpassado⟩,
        hfim, le_rfl, hnow, ?_⟩
      rw [← congrArg Controle.fluxo hc]
      rfl
  | leModo =>
      rw [hpc'] at ht' h
      obtain ⟨hr, l, hleu⟩ := h
      cases ht'
      exact ⟨hr, { l with modo := modosGet s.modos },
        ⟨hleu.inicio, hleu.passado, hleu.now, hleu.fluxo⟩, rfl⟩
  | decide =>
      rw [hpc'] at ht' h
      obtain ⟨hr, l, hleu, hmodo⟩ := h
      cases ht'
      refine ⟨hr, l, hleu.mono rfl le_rfl, hmodo, ?_⟩
      unfold Leituras.decisao
      rw [← hleu.now, ← hmodo]
  | releFrio =>
      rw [hpc'] at ht' h
      obtain ⟨hr, l, hleu, hmodo, hdec⟩ := h
      cases ht'
      refine ⟨?_, l, hleu.mono rfl le_rfl, hmodo, hdec⟩
      rw [hS, ← hr]
      rfl
  | releQuente =>
      rw [hpc'] at ht' h
      obtain ⟨hr, l, hleu, hmodo, hdec⟩ := h
      cases ht'
      refine ⟨l, hleu.mono rfl le_rfl, hmodo, ?_⟩
      unfold controle taskHidrocontrol
      dsimp only
      rw [hS, hr, hdec, hleu.fluxo]
      rfl
  | registro =>
      obtain ⟨_, _, heq, -⟩ := mostra_eq t s
      rw [hpc'] at ht' h
      cases ht'
      dsimp only
      rw [heq]
      obtain ⟨l, hleu, hmodo, hc⟩ := h
      exact ⟨l, hleu.mono rfl le_rfl, hmodo, hc⟩
  | atraso =>
      rw [hpc'] at ht' h
      cases ht'
      exact h
  | telemetria => exact absurd hpc' hpc

/-- Nothing but the telemetry line leads to the delay. -/
theorem pc_of_atraso {amb : Ambiente} {t' : Tarefa}
    (ht' : (s.passoTarefa amb t).tarefa = some t') (hatraso : t'.pc = .atraso) :
    t.pc = .telemetria := by
  unfold passoTarefa at ht'
  cases hpc : t.pc with
  | telemetria => rfl
  | botao | modosNext | relogio =>
      rw [hpc] at ht'
      dsimp only at ht'
      split at ht' <;> cases ht' <;> cases hatraso
  | _ =>
      rw [hpc] at ht'
      cases ht'
      cases hatraso

/-- **The last step.** What the iteration has read makes the control run one iteration
longer. -/
theorem Fase.termina {amb : Ambiente} {R : Execucao} {k : ℕ}
    (h : s.Fase amb.A (R.estado amb.A k) (R.fimUs k) t) (hpc : t.pc = .telemetria) :
    ∃ t' R', (s.passoTarefa amb t).tarefa = some t' ∧ R.Continua k R' ∧
      (s.passoTarefa amb t).Fase amb.A (R'.estado amb.A (k + 1)) (R'.fimUs (k + 1)) t' ∧
      millis32 (R'.it k).topoUs = t'.now ∧ (R'.it k).modo = t'.modo := by
  unfold Fase at h
  rw [hpc] at h
  obtain ⟨l, hleu, hmodo, hc⟩ := h
  unfold passoTarefa
  rw [hpc]
  dsimp only
  split
  all_goals
    refine ⟨_, R.prossegue k l hleu.inicio, rfl, Execucao.prossegue_continua, ?_⟩
    rw [Execucao.prossegue_estado_succ, Execucao.prossegue_fimUs, Execucao.prossegue_it]
    exact ⟨⟨hc, hleu.passado⟩, hleu.now.symm, hmodo.symm⟩

theorem Boot.passoMain {amb : Ambiente} (hboot : s.Boot) (hpc : s.main ≠ .fim)
    (hcria : s.main ≠ .criaTarefa) : (s.passoMain amb).Boot := by
  unfold Boot at hboot
  unfold Programa.passoMain
  cases hpc' : s.main with
  | relesInit =>
      rw [hpc'] at hboot
      have hfluxo : s.fluxo = {} := congrArg Controle.fluxo hboot
      have hreles : s.reles = {} := congrArg Controle.reles hboot
      show (⟨s.fluxo, relesInit s.reles⟩ : Controle) = _
      rw [hfluxo, hreles]
  | fluxoInit =>
      rw [hpc'] at hboot
      have hfluxo : s.fluxo = {} := congrArg Controle.fluxo hboot
      have hreles : s.reles = relesInit {} := congrArg Controle.reles hboot
      refine ⟨s.relogioUs, le_rfl, ?_⟩
      show (⟨fluxoInit s.relogioUs s.fluxo, s.reles⟩ : Controle) = _
      rw [hfluxo, hreles]
      rfl
  | aguarda =>
      rw [hpc'] at hboot
      dsimp only
      split
      · exact hboot
      · unfold Boot
        rw [hpc']
        exact hboot
  | criaTarefa => exact absurd hpc' hcria
  | fim => exact absurd hpc' hpc
  | _ =>
      rw [hpc'] at hboot
      exact hboot

theorem Boot.of_criaTarefa (hboot : s.Boot) (hpc : s.main = .criaTarefa) :
    ∃ initUs ≤ s.relogioUs, s.controle = Controle.boot initUs := by
  unfold Boot at hboot
  rw [hpc] at hboot
  exact hboot

theorem Boot.mono (hboot : s.Boot) (hmain : s'.main = s.main)
    (hcontrole : s'.controle = s.controle) (hrelogio : s.relogioUs ≤ s'.relogioUs) :
    s'.Boot := by
  unfold Boot at hboot ⊢
  rw [hmain, hcontrole]
  cases hpc : s.main with
  | relesInit | fluxoInit =>
      rw [hpc] at hboot
      exact hboot
  | _ =>
      rw [hpc] at hboot
      obtain ⟨initUs, hpassado, hc⟩ := hboot
      exact ⟨initUs, hpassado.trans hrelogio, hc⟩

theorem boot_estado (amb : Ambiente) (redes : ℕ → List EventoRede)
    (fis : ℕ → EventoFisico) (n : ℕ) (hnone : (estado amb redes fis n).tarefa = none) :
    (estado amb redes fis n).Boot := by
  refine (estado_regra (P := fun s => s.TarefaNoFim ∧ (s.tarefa = none → s.Boot))
    ⟨fun _ => rfl, fun _ => rfl⟩ (fun s _ _ _ _ _ _ h => h) ?_ ?_ ?_ redes fis n).2 hnone
  · intro s _ _ _ hle ⟨hfim, h⟩
    exact ⟨hfim, fun hnone => (h hnone).mono rfl rfl hle⟩
  · intro s ⟨hfim, h⟩
    refine ⟨hfim.passoMain, fun hnone => ?_⟩
    by_cases hpc : s.main = .fim
    · rw [passoMain_fim amb hpc] at hnone ⊢
      exact h hnone
    · by_cases hcria : s.main = .criaTarefa
      · unfold Programa.passoMain at hnone
        rw [hcria] at hnone
        cases hnone
      · exact (h (hfim hpc)).passoMain hpc hcria
  · intro s t ht ⟨hfim, h⟩
    refine ⟨hfim.passoTarefa ht, fun hnone => ?_⟩
    obtain ⟨_, _, _, _, _, _, _, _, _, heq⟩ := passoTarefa_frame amb t s
    rw [heq] at hnone
    cases hnone

/-! ## Along a whole run -/

/-- The program stands in iteration `k` of the control run `R`. At the delay it has
just ended the one before. -/
structure Guiado (A : Rounding) (R : Execucao) (k : ℕ) (s : Programa) (t : Tarefa) :
    Prop where
  fase : s.Fase A (R.estado A k) (R.fimUs k) t
  fim : t.pc = .atraso →
    ∃ j, k = j + 1 ∧ millis32 (R.it j).topoUs = t.now ∧ (R.it j).modo = t.modo

variable {R R' : Execucao} {k : ℕ}

theorem Guiado.continua (h : s.Guiado A R k t) (hR : R.Continua k R') :
    s.Guiado A R' k t := by
  refine ⟨?_, fun hpc => ?_⟩
  · rw [hR.estado le_rfl, hR.fimUs]
    exact h.fase
  · obtain ⟨j, rfl, hnow, hmodo⟩ := h.fim hpc
    rw [← hR.it j (Nat.lt_succ_self j)] at hnow hmodo
    exact ⟨j, rfl, hnow, hmodo⟩

theorem Guiado.mono (h : s.Guiado A R k t) (hcontrole : s'.controle = s.controle)
    (hrelogio : s.relogioUs ≤ s'.relogioUs) : s'.Guiado A R k t :=
  ⟨h.fase.mono hcontrole hrelogio, h.fim⟩

/-- The event is the last step of an iteration. -/
def termina (s : Programa) : EventoFisico → Bool
  | .tarefa => s.tarefa.any fun t => t.pc = .telemetria
  | _ => false

theorem termina_tarefa (ht : s.tarefa = some t) :
    s.termina .tarefa = decide (t.pc = .telemetria) := by
  unfold termina
  rw [ht]
  rfl

theorem termina_of_none {e : EventoFisico} (h : e = .tarefa → s.tarefa = none) :
    s.termina e = false := by
  cases e with
  | tarefa =>
      unfold termina
      rw [h rfl]
      rfl
  | _ => rfl

/-- **One turn** of a program that has its control task. -/
theorem Guiado.turno {amb : Ambiente} (hS : amb.setters = .fonte) (hfim : s.TarefaNoFim)
    (ht : s.tarefa = some t) (h : s.Guiado amb.A R k t)
    (e : List EventoRede × EventoFisico) :
    ∃ t' R', (s.turno amb e).tarefa = some t' ∧ R.Continua k R' ∧
      (s.turno amb e).Guiado amb.A R' (k + (s.termina e.2).toNat) t' := by
  obtain ⟨_, _, _, _, _, _, hrede⟩ := foldl_rede e.1 s
  have ht₁ := (tarefa_foldl_rede e.1 s).trans ht
  have h₁ : (e.1.foldl rede s).Guiado amb.A R k t := by
    rw [hrede]
    exact h.mono rfl le_rfl
  have hmesma : R.Continua k R := ⟨rfl, fun _ _ => rfl⟩
  unfold Programa.turno
  rcases fisico_cases amb (e.1.foldl rede s) e.2 with
    ⟨hmain, heq⟩ | ⟨t₁, hfis, ht₁', heq⟩ | ⟨_, _, _, hnone, hle, heq⟩
  · -- `app_main` is done
    have hpronto : (e.1.foldl rede s).main = .fim := by
      rw [main_foldl_rede]
      exact hfim.main_eq ht
    rw [heq, passoMain_fim amb hpronto, hmain]
    exact ⟨t, R, ht₁, hmesma, h₁⟩
  · obtain rfl : t = t₁ := Option.some.inj (ht₁.symm.trans ht₁')
    rw [heq, hfis, termina_tarefa ht]
    by_cases hpc : t.pc = .telemetria
    · obtain ⟨t', R', ht', hR, hfase, hnow, hmodo⟩ := h₁.fase.termina hpc
      rw [decide_eq_true hpc]
      exact ⟨t', R', ht', hR, hfase, fun _ => ⟨k, rfl, hnow, hmodo⟩⟩
    · obtain ⟨_, _, _, _, t', _, _, _, _, hpasso⟩ :=
        passoTarefa_frame amb t (e.1.foldl rede s)
      have ht' : ((e.1.foldl rede s).passoTarefa amb t).tarefa = some t' := by rw [hpasso]
      rw [decide_eq_false hpc]
      exact ⟨t', R, ht', hmesma, h₁.fase.passo hS hpc ht',
        fun hatraso => absurd (pc_of_atraso ht' hatraso) hpc⟩
  · have hfora : e.2 = .tarefa → s.tarefa = none := fun hfis => by
      cases (hnone hfis).symm.trans ht₁
    rw [heq, termina_of_none hfora]
    exact ⟨t, R, ht₁, hmesma, h₁.mono rfl hle⟩

section

variable {amb : Ambiente} {redes : ℕ → List EventoRede} {fis : ℕ → EventoFisico} {n : ℕ}

/-- How many iterations have ended before turn `n`. -/
def terminadas (amb : Ambiente) (redes : ℕ → List EventoRede) (fis : ℕ → EventoFisico) :
    ℕ → ℕ
  | 0 => 0
  | n + 1 => terminadas amb redes fis n + ((estado amb redes fis n).termina (fis n)).toNat

theorem terminadas_mono : Monotone (terminadas amb redes fis) :=
  monotone_nat_of_le_succ fun _ => Nat.le_add_right _ _

/-- No iteration ends before there is a task. -/
theorem terminadas_eq_zero (h : ∀ k < n, (estado amb redes fis k).tarefa = none) :
    terminadas amb redes fis n = 0 := by
  induction n with
  | zero => rfl
  | succ n ih =>
      have hnone := h n (Nat.lt_succ_self n)
      unfold terminadas
      rw [ih fun k hk => h k (Nat.lt_succ_of_lt hk), termina_of_none fun _ => hnone]
      rfl

/-- The turn in which the task is created begins a control run. -/
theorem criada {t : Tarefa} (hnone : (estado amb redes fis n).tarefa = none)
    (ht : (estado amb redes fis (n + 1)).tarefa = some t) :
    ∃ initUs, (estado amb redes fis (n + 1)).Guiado amb.A (.parada initUs) 0 t := by
  obtain ⟨_, _, _, _, _, _, hrede⟩ := foldl_rede (redes n) (estado amb redes fis n)
  have hnone₁ := (tarefa_foldl_rede (redes n) (estado amb redes fis n)).trans hnone
  have hboot : ((redes n).foldl rede (estado amb redes fis n)).Boot := by
    rw [hrede]
    exact (boot_estado amb redes fis n hnone).mono rfl rfl le_rfl
  change ((estado amb redes fis n).turno amb (redes n, fis n)).tarefa = some t at ht
  show ∃ initUs, ((estado amb redes fis n).turno amb (redes n, fis n)).Guiado _ _ _ _
  unfold Programa.turno at ht ⊢
  rcases fisico_cases amb ((redes n).foldl rede (estado amb redes fis n)) (fis n) with
    ⟨-, heq⟩ | ⟨t₁, -, ht₁, -⟩ | ⟨_, _, _, -, -, heq⟩
  · rw [heq] at ht ⊢
    by_cases hcria : ((redes n).foldl rede (estado amb redes fis n)).main = .criaTarefa
    · obtain ⟨initUs, hpassado, hc⟩ := hboot.of_criaTarefa hcria
      unfold Programa.passoMain at ht ⊢
      rw [hcria] at ht ⊢
      cases ht
      refine ⟨initUs, ⟨hc, hpassado⟩, ?_⟩
      rintro ⟨⟩
    · rw [passoMain_tarefa amb hcria, hnone₁] at ht
      cases ht
  · cases hnone₁.symm.trans ht₁
  · rw [heq] at ht
    cases hnone₁.symm.trans ht

/-- The run that guides the program in one turn has continuations that guide it in all
later ones, and so one that does. -/
theorem Guiado.exists_guia (hS : amb.setters = .fonte) {m : ℕ} {t : Tarefa} {R : Execucao}
    (ht : (estado amb redes fis m).tarefa = some t)
    (h : (estado amb redes fis m).Guiado amb.A R (terminadas amb redes fis m) t) :
    ∃ L : Execucao, ∀ n t, m ≤ n → (estado amb redes fis n).tarefa = some t →
      (estado amb redes fis n).Guiado amb.A L (terminadas amb redes fis n) t := by
  obtain ⟨Rs, hRs⟩ := exists_thread
    (P := fun i R => ∃ t, (estado amb redes fis (m + i)).tarefa = some t ∧
      (estado amb redes fis (m + i)).Guiado amb.A R (terminadas amb redes fis (m + i)) t)
    (E := fun i R R' => R.Continua (terminadas amb redes fis (m + i)) R') ⟨t, ht, h⟩ (by
      rintro i R ⟨t, ht, h⟩
      obtain ⟨t', R', ht', hR, h'⟩ :=
        h.turno hS (tarefaNoFim_estado amb redes fis _) ht (redes (m + i), fis (m + i))
      exact ⟨R', ⟨t', ht', h'⟩, hR⟩)
  have hmono : Monotone fun i => terminadas amb redes fis (m + i) := fun i j hij =>
    terminadas_mono (Nat.add_le_add_left hij m)
  obtain ⟨L, hL⟩ := Execucao.exists_limite hmono fun i => (hRs i).2
  refine ⟨L, fun n t hle ht => ?_⟩
  obtain ⟨i, rfl⟩ := Nat.exists_eq_add_of_le hle
  obtain ⟨t₁, ht₁, h₁⟩ := (hRs i).1
  obtain rfl : t = t₁ := Option.some.inj (ht.symm.trans ht₁)
  exact h₁.continua (hL i)

/-- **The guide.** One control run goes along the whole run of the program: before
every turn the program stands in the iteration of it that follows those it has
ended. -/
theorem exists_guia (hS : amb.setters = .fonte) (redes : ℕ → List EventoRede)
    (fis : ℕ → EventoFisico) :
    ∃ R : Execucao, ∀ n t, (estado amb redes fis n).tarefa = some t →
      (estado amb redes fis n).Guiado amb.A R (terminadas amb redes fis n) t := by
  by_cases hnunca : ∀ n, (estado amb redes fis n).tarefa = none
  · refine ⟨.parada 0, fun n t ht => ?_⟩
    cases (hnunca n).symm.trans ht
  · push Not at hnunca
    classical
    -- the turn before the first with a task creates it
    obtain ⟨m, hm⟩ := Nat.exists_eq_succ_of_ne_zero (n := Nat.find hnunca) fun hzero => by
      have := Nat.find_spec hnunca
      rw [hzero] at this
      exact this rfl
    have hantes : ∀ k < m + 1, (estado amb redes fis k).tarefa = none := by
      intro k hk
      exact not_not.mp (Nat.find_min hnunca (hm ▸ hk))
    obtain ⟨t₀, ht₀⟩ := Option.ne_none_iff_exists'.mp (hm ▸ Nat.find_spec hnunca)
    obtain ⟨initUs, hguiado⟩ := criada (hantes m (Nat.lt_succ_self m)) ht₀
    rw [← terminadas_eq_zero hantes] at hguiado
    obtain ⟨L, hL⟩ := hguiado.exists_guia hS ht₀
    refine ⟨L, fun n t ht => hL n t ?_ ht⟩
    by_contra hlt
    cases (hantes n (not_le.mp hlt)).symm.trans ht

end

end Programa

/-! ## Every iteration of the program is an iteration of a control run -/

/-- **Refinement.** There is one control run for the whole run of the program:
whenever the program has ended its iteration `k`, iteration `k` of the control run
read the same `now` and the same mode, is over by now, and left the same flow statics,
caches and pins. -/
theorem corrida_refina (A : Rounding) (mac : Mac) (fis : ℕ → EventoFisico) (r : Rede) :
    ∃ R : Execucao, ∀ n t, (corrida A mac fis r n).tarefa = some t → t.pc = .atraso →
      ∃ k, Programa.terminadas { A, mac, resposta := r.resposta } r.eventos fis n = k + 1 ∧
        millis32 (R.it k).topoUs = t.now ∧ (R.it k).modo = t.modo ∧
        (R.it k).fluxo.msUs ≤ (corrida A mac fis r n).relogioUs ∧
        R.estado A (k + 1) = (corrida A mac fis r n).controle := by
  have hfonte : (⟨A, .fonte, mac, r.resposta⟩ : Ambiente).setters = .fonte := rfl
  obtain ⟨R, hR⟩ := Programa.exists_guia hfonte r.eventos fis
  refine ⟨R, fun n t ht hpc => ?_⟩
  obtain ⟨hfase, hfim⟩ := hR n t ht
  obtain ⟨k, hk, hnow, hmodo⟩ := hfim hpc
  unfold Programa.Fase at hfase
  rw [hpc, hk] at hfase
  exact ⟨k, hk, hnow, hmodo, hfase.2, hfase.1.symm⟩

/-- Turn 32 ends the first iteration. -/
theorem terminadas_tapOpens :
    Programa.terminadas { A := .binary32, mac := fun _ => 0, resposta := wifiUp.resposta }
      wifiUp.eventos tapOpens 33 = 1 := by decide +kernel

/-- The first iteration after the tap opens is iteration `0` of the control run. -/
theorem tapOpens_refina :
    ∃ (R : Execucao) (t : Tarefa),
      (corrida .binary32 (fun _ => 0) tapOpens wifiUp 33).tarefa = some t ∧
        millis32 (R.it 0).topoUs = t.now ∧ (R.it 0).modo = t.modo ∧
        (R.it 0).fluxo.msUs ≤ (corrida .binary32 (fun _ => 0) tapOpens wifiUp 33).relogioUs ∧
        R.estado .binary32 1 =
          (corrida .binary32 (fun _ => 0) tapOpens wifiUp 33).controle := by
  have hpc : ((corrida .binary32 (fun _ => 0) tapOpens wifiUp 33).tarefa.map
      Tarefa.pc) = some .atraso := by decide +kernel
  obtain ⟨t, ht, hatraso⟩ := Option.map_eq_some_iff.mp hpc
  obtain ⟨R, hR⟩ := corrida_refina .binary32 (fun _ => 0) tapOpens wifiUp
  obtain ⟨k, hk, h⟩ := hR 33 t ht hatraso
  obtain rfl : k = 0 := Nat.succ.inj (hk.symm.trans terminadas_tapOpens)
  exact ⟨R, t, ht, h⟩

end HidroControl
