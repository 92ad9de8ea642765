import HidroControl.Programa

/-!
# What an iteration leaves behind

The mode can change between any two steps of the loop, the setters skip writes,
and three things show the result: the cache, the pins and the telemetry. They
agree at the end of every iteration because each is taken from one decision,
which is taken from one snapshot of the mode (`Programa.Linha`), and because the
cache never lies about the pins (`Reles.Coerente`).

`iterationCoherence` collects it for whole runs: the end of every iteration, the reads
its clock and its mode come from (`Programa.Lidos`), every frame ever published, and
the comparison with setters that always write.
-/

namespace HidroControl

open Trajectory

/-- The relays of a mode: cold and hot, from the two demands. -/
def tabela : ModoOperacao → Bool → Bool → Bool × Bool
  | .normal, frio, quente => (frio, quente)
  | .duo, frio, quente => (frio || quente, frio || quente)
  | .mix, frio, quente => (frio || quente, quente)

/-- A frame that reports DUO has equal relays, one that reports MIX never has
hot without cold. -/
def Quadro.ModoCoerente (q : Quadro) : Prop :=
  (q.modo = modosNome .duo → q.releFrio = q.releQuente) ∧
    (q.modo = modosNome .mix → q.releQuente = true → q.releFrio = true)

theorem decideReles_tabela (now : UInt32) (frio quente : Bool) (f : Fluxo)
    (modo : ModoOperacao) :
    ((decideReles now frio quente f modo).releFrio,
        (decideReles now frio quente f modo).releQuente) =
      if startupInhibitMs < now then
        tabela modo (frio || holdOffActive (fluxoLastStopFrioMs f) now)
          (quente || holdOffActive (fluxoLastStopQuenteMs f) now)
      else (false, false) := by
  unfold decideReles
  split
  · cases modo <;> rfl
  · rfl

/-- Whatever is decided suits a frame that reports the mode it was decided
for. -/
theorem decideReles_modo (now : UInt32) (frio quente : Bool) (f : Fluxo)
    (modo : ModoOperacao) :
    (modo = .duo → (decideReles now frio quente f modo).releFrio =
        (decideReles now frio quente f modo).releQuente) ∧
      (modo = .mix → (decideReles now frio quente f modo).releQuente = true →
        (decideReles now frio quente f modo).releFrio = true) := by
  unfold decideReles
  split
  · constructor <;> rintro rfl
    · rfl
    · simp only [switchModo]
      intro h
      rw [h, Bool.or_true]
  · exact ⟨fun _ => rfl, fun _ h => h⟩

/-! ## Line by line -/

/-- The lines of the loop body after `modos_get`. -/
def PcTarefa.leuModo : PcTarefa → Bool
  | .decide | .releFrio | .releQuente | .registro | .telemetria | .atraso => true
  | _ => false

namespace Programa

/-- The decision is the one the snapshot of the mode gives. -/
def Decidida (s : Programa) (t : Tarefa) : Prop :=
  t.decisao = decideReles t.now (fluxoFrioAtivo s.fluxo)
    (fluxoQuenteAtivo s.fluxo) s.fluxo t.modo

def Comandada (s : Programa) (t : Tarefa) : Prop :=
  s.reles.sFrio = t.decisao.releFrio ∧ s.reles.sQuente = t.decisao.releQuente

/-- The telemetry call of the iteration, if there was one, reported it. -/
def Relatada (s : Programa) (t : Tarefa) : Prop :=
  ∀ q, s.chamada = some q → q.modo = modosNome t.modo ∧
    q.releFrio = t.decisao.releFrio ∧ q.releQuente = t.decisao.releQuente

/-- What the loop body knows at each of its lines. -/
def Linha (s : Programa) (t : Tarefa) : Prop :=
  match t.pc with
  | .topo => True
  | .botao | .modosNext _ | .relogio | .cargaFrio | .cargaQuente | .fecha
  | .leModo | .decide => s.chamada = none
  | .releFrio => s.chamada = none ∧ s.Decidida t
  | .releQuente =>
      s.chamada = none ∧ s.Decidida t ∧ s.reles.sFrio = t.decisao.releFrio
  | .registro | .telemetria => s.chamada = none ∧ s.Decidida t ∧ s.Comandada t
  | .atraso => s.Relatada t ∧ s.Decidida t ∧ s.Comandada t

structure Sa (s : Programa) : Prop where
  tarefaNoFim : s.TarefaNoFim
  reles : s.main ≠ .relesInit → s.reles.Coerente
  linha : ∀ t, s.tarefa = some t → s.Linha t
  quadros : ∀ p ∈ s.publicacoes, p.quadro.ModoCoerente

theorem sa_inicial : ({} : Programa).Sa where
  tarefaNoFim := fun _ => rfl
  reles := fun h => absurd rfl h
  linha := by rintro _ ⟨⟩
  quadros := by rintro _ ⟨⟩

theorem quadro_modoCoerente {s : Programa} {t : Tarefa} (hdec : s.Decidida t)
    (hcmd : s.Comandada t) {p : Publicacao}
    (hp : (mqttclientPublishTelemetry s.deviceid (s.argumentos t) s.parede
      s.mqtt.sConnected s.mqtt s.timekeeper).1 = some p) :
    p.quadro.ModoCoerente := by
  rw [publicacao_quadro hp]
  show (modosNome t.modo = modosNome .duo → s.reles.sFrio = s.reles.sQuente) ∧
    (modosNome t.modo = modosNome .mix → s.reles.sQuente = true →
      s.reles.sFrio = true)
  rw [modosNome_injective.eq_iff, modosNome_injective.eq_iff, hcmd.1, hcmd.2,
    hdec]
  exact decideReles_modo _ _ _ _ _

theorem linha_ite {s : Programa} {P : Prop} [Decidable P] {a b : PcTarefa}
    {now pub : UInt32} {l : LeituraFluxo} {modo : ModoOperacao} {d : Decisao}
    (ha : s.Linha ⟨a, now, l, modo, d, pub⟩) (hb : s.Linha ⟨b, now, l, modo, d, pub⟩) :
    s.Linha ⟨if P then a else b, now, l, modo, d, pub⟩ := by
  split
  · exact ha
  · exact hb

/-- **One line of the loop.** -/
theorem Linha.passo {amb : Ambiente} (hS : amb.setters = .fonte) {s : Programa}
    {t : Tarefa} (h : s.Linha t) {t' : Tarefa}
    (ht' : (s.passoTarefa amb t).tarefa = some t') :
    (s.passoTarefa amb t).Linha t' := by
  unfold passoTarefa at ht' ⊢
  unfold Linha at h
  cases hpc : t.pc with
  | topo =>
      rw [hpc] at ht'
      cases ht'
      exact (rfl : (none : Option Telemetria) = none)
  | botao | relogio =>
      rw [hpc] at ht' h
      cases ht'
      exact linha_ite h h
  | modosNext p =>
      rw [hpc] at ht' h
      cases ht'
      exact linha_ite h h
  | cargaFrio | cargaQuente | fecha | leModo =>
      rw [hpc] at ht' h
      cases ht'
      exact h
  | decide =>
      rw [hpc] at ht' h
      cases ht'
      exact ⟨h, rfl⟩
  | releFrio =>
      rw [hpc] at ht' h
      cases ht'
      rw [hS]
      exact ⟨h.1, h.2, relesSetFrio_sFrio _ _⟩
  | releQuente =>
      rw [hpc] at ht' h
      cases ht'
      rw [hS]
      exact ⟨h.1, h.2.1, (relesSetQuente_sFrio _ _).trans h.2.2,
        relesSetQuente_sQuente _ _⟩
  | registro =>
      obtain ⟨_, _, heq, -⟩ := mostra_eq t s
      rw [hpc] at ht' h
      cases ht'
      dsimp only
      rw [heq]
      exact h
  | telemetria =>
      rw [hpc] at ht' h
      dsimp only at ht' ⊢
      split at ht'
      · next hper =>
          rw [if_pos hper]
          cases ht'
          refine ⟨?_, h.2⟩
          rintro q ⟨⟩
          exact ⟨rfl, h.2.2⟩
      · next hper =>
          rw [if_neg hper]
          cases ht'
          refine ⟨?_, h.2⟩
          intro q hq
          rw [show s.chamada = none from h.1] at hq
          cases hq
  | atraso =>
      rw [hpc] at ht'
      cases ht'
      trivial

/-- The caches and pins are written at two lines. -/
theorem reles_passoTarefa (amb : Ambiente) (t : Tarefa) (s : Programa) :
    (s.passoTarefa amb t).reles = s.reles ∨
      (∃ b, (s.passoTarefa amb t).reles = amb.setters.frio b s.reles) ∨
      ∃ b, (s.passoTarefa amb t).reles = amb.setters.quente b s.reles := by
  unfold passoTarefa
  cases t.pc with
  | registro =>
      obtain ⟨_, _, heq, -⟩ := mostra_eq t s
      dsimp only
      rw [heq]
      exact Or.inl rfl
  | telemetria =>
      dsimp only
      split <;> exact Or.inl rfl
  | releFrio => exact Or.inr (Or.inl ⟨_, rfl⟩)
  | releQuente => exact Or.inr (Or.inr ⟨_, rfl⟩)
  | _ => exact Or.inl rfl

/-- Frames go out at one line. -/
theorem publicacoes_passoTarefa (amb : Ambiente) (t : Tarefa) (s : Programa) :
    (s.passoTarefa amb t).publicacoes = s.publicacoes ∨
      t.pc = .telemetria ∧ (s.passoTarefa amb t).publicacoes =
        (mqttclientPublishTelemetry s.deviceid (s.argumentos t) s.parede
          s.mqtt.sConnected s.mqtt s.timekeeper).1.toList ++ s.publicacoes := by
  unfold passoTarefa
  cases t.pc with
  | registro =>
      obtain ⟨_, _, heq, -⟩ := mostra_eq t s
      dsimp only
      rw [heq]
      exact Or.inl rfl
  | telemetria =>
      dsimp only
      split
      · exact Or.inr ⟨rfl, rfl⟩
      · exact Or.inl rfl
  | _ => exact Or.inl rfl

/-- The pins are set up before there is a control task. -/
theorem Sa.coerente {s : Programa} (h : s.Sa) {t : Tarefa} (ht : s.tarefa = some t) :
    s.reles.Coerente :=
  h.reles (by rw [h.tarefaNoFim.main_eq ht]; decide)

theorem Sa.passoTarefa {amb : Ambiente} (hS : amb.setters = .fonte) {s : Programa}
    (h : s.Sa) {t : Tarefa} (ht : s.tarefa = some t) : (s.passoTarefa amb t).Sa := by
  have hcoer := h.coerente ht
  have hlinha := h.linha t ht
  refine ⟨h.tarefaNoFim.passoTarefa ht, fun _ => ?_,
    fun t' ht' => hlinha.passo hS ht', ?_⟩
  · rcases reles_passoTarefa amb t s with heq | ⟨b, heq⟩ | ⟨b, heq⟩
    · rw [heq]
      exact hcoer
    · rw [heq, hS]
      exact relesSetFrio_coerente hcoer b
    · rw [heq, hS]
      exact relesSetQuente_coerente hcoer b
  · rcases publicacoes_passoTarefa amb t s with heq | ⟨hpc, heq⟩
    · rw [heq]
      exact h.quadros
    · rw [heq]
      intro p hp
      rcases List.mem_append.mp hp with hp | hp
      · unfold Linha at hlinha
        rw [hpc] at hlinha
        exact quadro_modoCoerente hlinha.2.1 hlinha.2.2 (Option.mem_toList.mp hp)
      · exact h.quadros p hp

theorem Sa.passoMain {amb : Ambiente} {s : Programa} (h : s.Sa) :
    (s.passoMain amb).Sa := by
  obtain ⟨_, _, _, _, _, _, _, _, _, tarefa, heq, htarefa⟩ := passoMain_frame amb s
  refine ⟨h.tarefaNoFim.passoMain, fun _ => ?_, fun t ht => ?_, ?_⟩
  · unfold Programa.passoMain
    cases hpc : s.main with
    | relesInit => exact relesInit_coerente _
    | aguarda =>
        dsimp only
        split <;> exact h.reles (by rw [hpc]; decide)
    | _ => exact h.reles (by rw [hpc]; decide)
  · have ht' : tarefa = some t := by
      rw [heq] at ht
      exact ht
    rcases htarefa with hsame | ⟨-, hnova⟩
    · -- the task was there, so `app_main` is done and this step is none
      have hfim := h.tarefaNoFim.main_eq (hsame ▸ ht')
      rw [passoMain_fim amb hfim]
      exact h.linha t (hsame ▸ ht')
    · rw [hnova] at ht'
      cases ht'
      trivial
  · rw [heq]
    exact h.quadros

/-- **Every state of a run is sound.** -/
theorem sa_estado {amb : Ambiente} (hS : amb.setters = .fonte)
    (redes : ℕ → List EventoRede) (fis : ℕ → EventoFisico) (n : ℕ) :
    (estado amb redes fis n).Sa :=
  estado_regra sa_inicial
    (fun _ _ _ _ _ _ _ h => ⟨h.tarefaNoFim, h.reles, h.linha, h.quadros⟩)
    (fun _ _ _ _ _ h => ⟨h.tarefaNoFim, h.reles, h.linha, h.quadros⟩)
    (fun _ h => h.passoMain) (fun _ _ ht h => h.passoTarefa hS ht) redes fis n

/-! ## Setters that always write -/

/-- From a sound state the two kinds of setters do the same. -/
theorem Sa.passoTarefa_sempre {amb : Ambiente} (hS : amb.setters = .fonte)
    {s : Programa} (h : s.Sa) {t : Tarefa} (ht : s.tarefa = some t) :
    s.passoTarefa { amb with setters := .sempre } t = s.passoTarefa amb t := by
  have hcoer := h.coerente ht
  unfold Programa.passoTarefa
  rw [hS]
  cases t.pc with
  | releFrio =>
      dsimp only [Setters.fonte, Setters.sempre]
      rw [relesSetFrio_eq_sempre hcoer]
  | releQuente =>
      dsimp only [Setters.fonte, Setters.sempre]
      rw [relesSetQuente_eq_sempre hcoer]
  | _ => rfl

theorem Sa.turno_sempre {amb : Ambiente} (hS : amb.setters = .fonte) {s : Programa}
    (h : s.Sa) (e : List EventoRede × EventoFisico) :
    s.turno { amb with setters := .sempre } e = s.turno amb e := by
  obtain ⟨_, _, _, _, _, _, heq⟩ := foldl_rede e.1 s
  have hrede : (e.1.foldl rede s).Sa := by
    rw [heq]
    exact ⟨h.tarefaNoFim, h.reles, h.linha, h.quadros⟩
  unfold turno
  cases e.2 with
  | tarefa =>
      cases ht : (e.1.foldl rede s).tarefa with
      | none => rw [fisico_tarefa_none _ ht, fisico_tarefa_none _ ht]
      | some t =>
          rw [fisico_tarefa_some _ ht, fisico_tarefa_some _ ht]
          exact hrede.passoTarefa_sempre hS ht
  | _ => rfl

theorem estado_sempre {amb : Ambiente} (hS : amb.setters = .fonte)
    (redes : ℕ → List EventoRede) (fis : ℕ → EventoFisico) (n : ℕ) :
    estado { amb with setters := .sempre } redes fis n = estado amb redes fis n := by
  refine related (fun s s' => s = s') rfl (fun n h => ?_) n
  rw [h]
  exact (sa_estado hS redes fis n).turno_sempre hS _

/-! ## What an iteration has read -/

/-- In turn `k` the control task makes the step of the line `pc`. -/
def Passa (amb : Ambiente) (redes : ℕ → List EventoRede) (fis : ℕ → EventoFisico)
    (pc : PcTarefa) (k : ℕ) : Prop :=
  fis k = .tarefa ∧ ∃ t, (estado amb redes fis k).tarefa = some t ∧ t.pc = pc

/-- The locals `now` and `modo` before turn `n` are what the task read last: the clock
at the top of the loop, and after it the mode, at `modos_get`. -/
def Lidos (amb : Ambiente) (redes : ℕ → List EventoRede) (fis : ℕ → EventoFisico)
    (n : ℕ) (t : Tarefa) : Prop :=
  ∃ i j, LastBefore (Passa amb redes fis .topo) n i ∧
    LastBefore (Passa amb redes fis .leModo) n j ∧ i < j ∧
    t.now = millis32 (estado amb redes fis i).relogioUs ∧
    t.modo = modosGet ((redes j).foldl rede (estado amb redes fis j)).modos

/-- Between the top and the mode only the first of the two has been read. -/
def LidosAte (amb : Ambiente) (redes : ℕ → List EventoRede) (fis : ℕ → EventoFisico)
    (n : ℕ) (t : Tarefa) : Prop :=
  (t.pc ≠ .topo → ∃ i, LastBefore (Passa amb redes fis .topo) n i ∧
    t.now = millis32 (estado amb redes fis i).relogioUs) ∧
  (t.pc.leuModo = true → Lidos amb redes fis n t)

/-- **The locals.** `now` is written at the top and `modo` at `modos_get`, neither
anywhere else. -/
theorem passoTarefa_locais (amb : Ambiente) (t : Tarefa) (s : Programa) {t' : Tarefa}
    (ht' : (s.passoTarefa amb t).tarefa = some t') :
    (t.pc = .topo ∧ t'.pc = .botao ∧ t'.now = millis32 s.relogioUs) ∨
      (t.pc = .leModo ∧ t'.pc = .decide ∧ t'.now = t.now ∧
        t'.modo = modosGet s.modos) ∨
      (t.pc = .atraso ∧ t'.pc = .topo) ∨
      (t.pc ≠ .topo ∧ t.pc ≠ .leModo ∧ t'.pc.leuModo = t.pc.leuModo ∧
        t'.now = t.now ∧ t'.modo = t.modo) := by
  unfold passoTarefa at ht'
  cases hpc : t.pc with
  | topo =>
      rw [hpc] at ht'
      cases ht'
      exact Or.inl ⟨rfl, rfl, rfl⟩
  | leModo =>
      rw [hpc] at ht'
      cases ht'
      exact Or.inr (Or.inl ⟨rfl, rfl, rfl, rfl⟩)
  | atraso =>
      rw [hpc] at ht'
      cases ht'
      exact Or.inr (Or.inr (Or.inl ⟨rfl, rfl⟩))
  | botao | modosNext _ | relogio =>
      rw [hpc] at ht'
      cases ht'
      refine Or.inr (Or.inr (Or.inr ⟨?_, ?_, ?_, rfl, rfl⟩))
      · rintro ⟨⟩
      · rintro ⟨⟩
      · dsimp only
        split <;> rfl
  | telemetria =>
      rw [hpc] at ht'
      dsimp only at ht'
      refine Or.inr (Or.inr (Or.inr ⟨?_, ?_, ?_⟩))
      · rintro ⟨⟩
      · rintro ⟨⟩
      · split at ht' <;> cases ht' <;> exact ⟨rfl, rfl, rfl⟩
  | _ =>
      rw [hpc] at ht'
      cases ht'
      refine Or.inr (Or.inr (Or.inr ⟨?_, ?_, rfl, rfl, rfl⟩))
      · rintro ⟨⟩
      · rintro ⟨⟩

section

variable {amb : Ambiente} {redes : ℕ → List EventoRede} {fis : ℕ → EventoFisico} {n : ℕ}

/-- A turn that does not pass the line leaves its last pass where it was. -/
theorem LidosAte.skip {t : Tarefa} (h : LidosAte amb redes fis n t)
    (htopo : ¬ Passa amb redes fis .topo n) (hmodo : ¬ Passa amb redes fis .leModo n) :
    LidosAte amb redes fis (n + 1) t := by
  refine ⟨fun hpc => ?_, fun hleu => ?_⟩
  · obtain ⟨i, hi, hnow⟩ := h.1 hpc
    exact ⟨i, hi.skip htopo, hnow⟩
  · obtain ⟨i, j, hi, hj, hij, heq⟩ := h.2 hleu
    exact ⟨i, j, hi.skip htopo, hj.skip hmodo, hij, heq⟩

theorem Passa.pc_eq {pc : PcTarefa} (h : Passa amb redes fis pc n) {t : Tarefa}
    (ht : (estado amb redes fis n).tarefa = some t) : t.pc = pc := by
  obtain ⟨-, t', ht', hpc⟩ := h
  obtain rfl : t = t' := Option.some.inj (ht.symm.trans ht')
  exact hpc

/-- **A step of the task** keeps account of what it has read. -/
theorem LidosAte.passo {t t' : Tarefa} (h : LidosAte amb redes fis n t)
    (hfis : fis n = .tarefa) (ht : (estado amb redes fis n).tarefa = some t)
    (ht' : (((redes n).foldl rede (estado amb redes fis n)).passoTarefa amb t).tarefa =
      some t') : LidosAte amb redes fis (n + 1) t' := by
  rcases passoTarefa_locais amb t _ ht' with ⟨hpc, hpc', hnow⟩ |
    ⟨hpc, hpc', hnow, hmodo⟩ | ⟨-, hpc'⟩ | ⟨hno, hno', hleu, hnow, hmodo⟩
  · have hpassa : Passa amb redes fis .topo n := ⟨hfis, t, ht, hpc⟩
    refine ⟨fun _ => ⟨n, lastBefore_succ hpassa, ?_⟩, fun hl => ?_⟩
    · rw [hnow, relogioUs_foldl_rede]
    · rw [hpc'] at hl
      cases hl
  · obtain ⟨i, hi, hi'⟩ := h.1 (by rw [hpc]; decide)
    have hskip : ¬ Passa amb redes fis .topo n := by
      intro hp
      cases hpc.symm.trans (hp.pc_eq ht)
    have hpassa : Passa amb redes fis .leModo n := ⟨hfis, t, ht, hpc⟩
    refine ⟨fun _ => ⟨i, hi.skip hskip, hnow.trans hi'⟩, fun _ => ?_⟩
    exact ⟨i, n, hi.skip hskip, lastBefore_succ hpassa, hi.lt, hnow.trans hi', hmodo⟩
  · refine ⟨fun hne => absurd hpc' hne, fun hl => ?_⟩
    rw [hpc'] at hl
    cases hl
  · have hs := h.skip (fun hp => hno (hp.pc_eq ht)) (fun hp => hno' (hp.pc_eq ht))
    unfold LidosAte Lidos at hs ⊢
    rw [hleu, hnow, hmodo]
    exact ⟨fun _ => hs.1 hno, hs.2⟩

/-- Who writes the task's locals in a turn: the task itself, or nobody, or `app_main`,
which starts it at the top. -/
theorem turno_tarefa (e : List EventoRede × EventoFisico) (s : Programa) {t' : Tarefa}
    (ht' : (s.turno amb e).tarefa = some t') :
    (e.2 = .tarefa ∧ ∃ t, s.tarefa = some t ∧
        ((e.1.foldl rede s).passoTarefa amb t).tarefa = some t') ∨
      (e.2 ≠ .tarefa ∧ s.tarefa = some t') ∨ t'.pc = .topo := by
  have htar := tarefa_foldl_rede e.1 s
  unfold turno at ht'
  rcases fisico_cases amb (e.1.foldl rede s) e.2 with
    ⟨hmain, hfis⟩ | ⟨t, hfis, ht, heq⟩ | ⟨_, _, _, hnone, -, heq⟩
  · obtain ⟨_, _, _, _, _, _, _, _, _, tarefa, heq, htarefa⟩ :=
      passoMain_frame amb (e.1.foldl rede s)
    rw [hfis, heq] at ht'
    rcases htarefa with hsame | ⟨-, hnova⟩
    · refine Or.inr (Or.inl ⟨?_, ?_⟩)
      · rw [hmain]
        rintro ⟨⟩
      · rw [← htar, ← hsame]
        exact ht'
    · obtain rfl : {} = t' := Option.some.inj (hnova.symm.trans ht')
      exact Or.inr (Or.inr rfl)
  · rw [heq] at ht'
    exact Or.inl ⟨hfis, t, htar ▸ ht, ht'⟩
  · rw [heq] at ht'
    refine Or.inr (Or.inl ⟨fun hfis => ?_, htar.symm.trans ht'⟩)
    cases (hnone hfis).symm.trans ht'

/-- **Every state of a run.** -/
theorem lidosAte_estado (n : ℕ) {t : Tarefa}
    (ht : (estado amb redes fis n).tarefa = some t) : LidosAte amb redes fis n t := by
  induction n generalizing t with
  | zero => cases ht
  | succ n ih =>
      rcases turno_tarefa (redes n, fis n) _ ht with
        ⟨hfis, t₀, ht₀, ht'⟩ | ⟨hfis, ht₀⟩ | htopo
      · exact (ih ht₀).passo hfis ht₀ ht'
      · exact (ih ht₀).skip (fun hp => hfis hp.1) (fun hp => hfis hp.1)
      · refine ⟨fun hne => absurd htopo hne, fun hl => ?_⟩
        rw [htopo] at hl
        cases hl

end

end Programa

/-! ## The law -/

/-- At the end of an iteration pins, caches and the telemetry call show one
decision, and it is the mode's table applied to the iteration's demands. -/
structure Programa.FimCoerente (s : Programa) (t : Tarefa) : Prop where
  pinos : ∀ c, s.reles.gpio (pinRele c) = some (relayLevel (t.decisao.rele c))
  cache : ∀ c, s.reles.ligado c = t.decisao.rele c
  telemetria : s.Relatada t
  tabela : (t.decisao.releFrio, t.decisao.releQuente) =
    if startupInhibitMs < t.now then
      tabela t.modo
        (fluxoFrioAtivo s.fluxo || holdOffActive (fluxoLastStopFrioMs s.fluxo) t.now)
        (fluxoQuenteAtivo s.fluxo ||
          holdOffActive (fluxoLastStopQuenteMs s.fluxo) t.now)
    else (false, false)

/-- **Coherence at the end of every iteration.** The clock and the mode the table is
applied to are those the iteration has read itself. -/
theorem iterationCoherence (A : Rounding) (mac : Mac) (fis : ℕ → EventoFisico)
    (r : Rede) (n : ℕ) :
    (∀ t, (corrida A mac fis r n).tarefa = some t → t.pc = .atraso →
        (corrida A mac fis r n).FimCoerente t ∧
          Programa.Lidos { A, mac, resposta := r.resposta } r.eventos fis n t) ∧
      (∀ p ∈ (corrida A mac fis r n).publicacoes, p.quadro.ModoCoerente) ∧
      (corrida A mac fis r n).reles.gpio =
        (corridaCom .sempre A mac fis r n).reles.gpio := by
  have h : (corrida A mac fis r n).Sa := Programa.sa_estado rfl _ _ _
  refine ⟨fun t ht hpc => ⟨?_, ?_⟩, h.quadros, ?_⟩
  · have hlinha := h.linha t ht
    unfold Programa.Linha at hlinha
    rw [hpc] at hlinha
    obtain ⟨hrel, hdec, hfrio, hquente⟩ := hlinha
    have hcache : ∀ c, (corrida A mac fis r n).reles.ligado c = t.decisao.rele c := by
      rintro (_ | _)
      · exact hfrio
      · exact hquente
    refine ⟨fun c => ?_, hcache, hrel, ?_⟩
    · rw [h.coerente ht c, hcache c]
    · rw [hdec]
      exact decideReles_tabela _ _ _ _ _
  · apply (Programa.lidosAte_estado n ht).2
    rw [hpc]
    rfl
  · have hsempre := Programa.estado_sempre (rfl :
      (⟨A, .fonte, mac, r.resposta⟩ : Ambiente).setters = .fonte) r.eventos fis n
    exact congrArg (fun s : Programa => s.reles.gpio) hsempre.symm

/-- The first iteration after the tap opens ends coherently, with the pump on and a
frame that says so. -/
theorem tapOpens_coherent :
    ∃ t, (corrida .binary32 (fun _ => 0) tapOpens wifiUp 33).tarefa = some t ∧
      (corrida .binary32 (fun _ => 0) tapOpens wifiUp 33).FimCoerente t ∧
      Programa.Lidos { A := .binary32, mac := fun _ => 0, resposta := wifiUp.resposta }
        wifiUp.eventos tapOpens 33 t ∧
      t.decisao.rele .frio = true ∧
      ∃ p ∈ (corrida .binary32 (fun _ => 0) tapOpens wifiUp 33).publicacoes,
        p.quadro.ModoCoerente ∧ p.quadro.releFrio = true := by
  obtain ⟨hfim, hquadros, -⟩ :=
    iterationCoherence .binary32 (fun _ => 0) tapOpens wifiUp 33
  have hpc : ((corrida .binary32 (fun _ => 0) tapOpens wifiUp 33).tarefa.map
      fun t => (t.pc, t.decisao.rele .frio)) = some (.atraso, true) := by decide +kernel
  have hpub : ((corrida .binary32 (fun _ => 0) tapOpens wifiUp 33).publicacoes.map
      fun p => p.quadro.releFrio) = [true] := by decide +kernel
  obtain ⟨t, ht, heq⟩ := Option.map_eq_some_iff.mp hpc
  obtain ⟨hatraso, hligado⟩ := Prod.mk.inj heq
  obtain ⟨hcoerente, hlidos⟩ := hfim t ht hatraso
  refine ⟨t, ht, hcoerente, hlidos, hligado, ?_⟩
  obtain ⟨p, hp, hfrio⟩ := List.mem_map.mp (hpub ▸ List.mem_singleton_self true)
  exact ⟨p, hp, hquadros p hp, hfrio⟩

end HidroControl
