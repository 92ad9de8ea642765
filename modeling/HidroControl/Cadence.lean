import HidroControl.Refinement
import HidroControl.Base.Pacing

/-!
# How often the loop logs and publishes

Two gates on `now` close the body of `task_hidrocontrol`: one second for the log
line and the display, five for the telemetry. Each keeps the `now` of the
iteration in which it was last open, 0 to begin with. Over a control run they
are two gates of the same kind, and the bounds of both are those of any such
gate, in true milliseconds (`cadencia_ritmo`). The last section says that the
stamps the program carries through its steps are the ones of the control run that
goes along with it.
-/

namespace HidroControl

open WrapClock Trajectory Pacing

/-- The two stamps: `static uint32_t last_log` and the local `last_mqtt_pub`. -/
structure Cadencia where
  lastLog : UInt32 := 0
  lastMqttPub : UInt32 := 0

def Cadencia.loga (s : Cadencia) (now : UInt32) : Prop := 1000 ≤ now - s.lastLog

def Cadencia.publica (s : Cadencia) (now : UInt32) : Prop := 5000 ≤ now - s.lastMqttPub

instance (s : Cadencia) (now : UInt32) : Decidable (s.loga now) :=
  inferInstanceAs (Decidable (_ ≤ _))

instance (s : Cadencia) (now : UInt32) : Decidable (s.publica now) :=
  inferInstanceAs (Decidable (_ ≤ _))

/-- The two `if`s at the end of the loop body. -/
def Cadencia.itera (now : UInt32) (s : Cadencia) : Cadencia where
  lastLog := if s.loga now then now else s.lastLog
  lastMqttPub := if s.publica now then now else s.lastMqttPub

namespace Execucao

variable {R : Execucao}

def cadencia (R : Execucao) (n : ℕ) : Cadencia :=
  state Cadencia.itera {} (fun n => millis32 (R.it n).topoUs) n

/-- Iteration `n` writes the log line and refreshes the display. -/
def loga (R : Execucao) (n : ℕ) : Prop := (R.cadencia n).loga (millis32 (R.it n).topoUs)

/-- Iteration `n` calls `mqttclient_publish_telemetry`. -/
def publica (R : Execucao) (n : ℕ) : Prop :=
  (R.cadencia n).publica (millis32 (R.it n).topoUs)

/-! ## Two gates -/

theorem cadencia_eq (n : ℕ) :
    R.cadencia n = ⟨stamp 1000 0 R.topoMs n, stamp 5000 0 R.topoMs n⟩ := by
  induction n with
  | zero => rfl
  | succ n ih =>
      unfold cadencia at ih ⊢
      rw [state_succ, ih]
      rfl

theorem loga_iff (n : ℕ) : R.loga n ↔ opens 1000 0 R.topoMs n := by
  unfold loga
  rw [cadencia_eq]
  exact Iff.rfl

theorem publica_iff (n : ℕ) : R.publica n ↔ opens 5000 0 R.topoMs n := by
  unfold publica
  rw [cadencia_eq]
  exact Iff.rfl

theorem topoMs_monotone : Monotone R.topoMs := fun _ _ h => topoMs_mono h

/-- The spacing of the iterations in which `p` happens: `P` ms at least, and, if
the iterations are at most `G` ms apart, `P + G` ms at most from one to the
next. It does happen again: an iteration `P` ms on has not gone by without. -/
structure Espacado (R : Execucao) (p : ℕ → Prop) (P : ℕ) : Prop where
  minimo : ∀ i j, i < j → p i → p j → R.topoMs i + P ≤ R.topoMs j
  maximo : ∀ G, G < 2 ^ 32 - P → (∀ n, R.topoMs (n + 1) ≤ R.topoMs n + G) →
    (∀ i j, i < j → p i → (∀ k, i < k → k < j → ¬ p k) → p j →
      R.topoMs j ≤ R.topoMs i + P + G) ∧
    ∀ i n, p i → R.topoMs i + P ≤ R.topoMs n →
      ∃ j, i < j ∧ j ≤ n ∧ p j ∧ R.topoMs j ≤ R.topoMs i + P + G

theorem espacado_of_opens {P : UInt32} (hP : 0 < P.toNat) :
    R.Espacado (opens P 0 R.topoMs) P.toNat := by
  constructor
  · intro i j hij hi hj
    exact apart topoMs_monotone hij hi hj
  · intro G hG hgap
    refine ⟨fun i j hij hi hshut _ => ?_, fun i n hi hlate => ?_⟩
    · exact soon topoMs_monotone (by omega) hgap hP hij hi hshut
    · exact again topoMs_monotone (by omega) hgap hP hi hlate

/-- **The cadence.** Telemetry at least five seconds apart, log and display at
least one, and neither more than a gap between iterations late; wherever the
32-bit clock stands. -/
theorem cadencia_ritmo (R : Execucao) :
    R.Espacado R.publica 5000 ∧ R.Espacado R.loga 1000 := by
  have hpublica : R.publica = opens 5000 0 R.topoMs :=
    funext fun n => propext (publica_iff n)
  have hloga : R.loga = opens 1000 0 R.topoMs :=
    funext fun n => propext (loga_iff n)
  rw [hpublica, hloga]
  exact ⟨espacado_of_opens (by decide), espacado_of_opens (by decide)⟩

end Execucao

/-! ## The stamps of the program -/

namespace Programa

variable {s s' : Programa} {t : Tarefa} {R : Execucao} {k : ℕ}

/-- The program's stamps in the iteration `k` of the control run `R`. At the delay the
iteration before has just ended, and `chamada` tells whether it published. -/
def Selos (R : Execucao) (k : ℕ) (s : Programa) (t : Tarefa) : Prop :=
  match t.pc with
  | .topo =>
      s.lastLog = (R.cadencia k).lastLog ∧ t.lastMqttPub = (R.cadencia k).lastMqttPub
  | .telemetria =>
      s.lastLog = ((R.cadencia k).itera t.now).lastLog ∧
        t.lastMqttPub = (R.cadencia k).lastMqttPub ∧ s.chamada = none
  | .atraso =>
      s.lastLog = (R.cadencia k).lastLog ∧ t.lastMqttPub = (R.cadencia k).lastMqttPub ∧
        ∃ j, k = j + 1 ∧ (s.chamada.isSome = true ↔ R.publica j)
  | _ =>
      s.lastLog = (R.cadencia k).lastLog ∧
        t.lastMqttPub = (R.cadencia k).lastMqttPub ∧ s.chamada = none

theorem Selos.mono (h : s.Selos R k t) (hlog : s'.lastLog = s.lastLog)
    (hchamada : s'.chamada = s.chamada) : s'.Selos R k t := by
  unfold Selos at *
  rw [hlog, hchamada]
  exact h

/-- **A step of the loop other than the last** keeps the stamps on course. -/
theorem Selos.passo {amb : Ambiente} (h : s.Selos R k t) (hpc : t.pc ≠ .telemetria)
    {t' : Tarefa} (ht' : (s.passoTarefa amb t).tarefa = some t') :
    (s.passoTarefa amb t).Selos R k t' := by
  unfold passoTarefa at ht' ⊢
  unfold Selos at h
  cases hpc' : t.pc with
  | topo =>
      rw [hpc'] at ht' h
      cases ht'
      exact ⟨h.1, h.2, rfl⟩
  | botao | modosNext | relogio =>
      rw [hpc'] at ht' h
      dsimp only at ht'
      split at ht' <;> cases ht' <;> exact h
  | registro =>
      rw [hpc'] at ht' h
      cases ht'
      -- the gate of the log; `chamada` stays empty until the telemetry
      obtain ⟨hlog, hpub, hchamada⟩ := h
      obtain ⟨_, _, heq, hstamp⟩ := mostra_eq t s
      dsimp only
      rw [heq]
      refine ⟨?_, hpub, hchamada⟩
      rw [hstamp, hlog]
      rfl
  | telemetria => exact absurd hpc' hpc
  | atraso =>
      rw [hpc'] at ht' h
      cases ht'
      exact ⟨h.1, h.2.1⟩
  | _ =>
      rw [hpc'] at ht' h
      cases ht'
      exact h

/-- **The last step** closes the gates with the clock that iteration `k` has read. -/
theorem Selos.termina {amb : Ambiente} (h : s.Selos R k t) (hpc : t.pc = .telemetria)
    {t' : Tarefa} (ht' : (s.passoTarefa amb t).tarefa = some t')
    (hnow : millis32 (R.it k).topoUs = t'.now) :
    (s.passoTarefa amb t).Selos R (k + 1) t' := by
  have hcad : R.cadencia (k + 1) = (R.cadencia k).itera t'.now := by
    rw [← hnow]
    exact state_succ _ _ _ k
  have hpublica : R.publica k ↔ (R.cadencia k).publica t'.now := by
    rw [← hnow]
    exact Iff.rfl
  unfold Selos at h
  rw [hpc] at h
  obtain ⟨hlog, hpub, hchamada⟩ := h
  unfold passoTarefa at ht' ⊢
  rw [hpc] at ht' ⊢
  dsimp only at ht' ⊢
  split at ht'
  · next hper =>
      rw [if_pos hper]
      cases ht'
      rw [hpub] at hper
      refine ⟨?_, ?_, k, rfl, iff_of_true rfl (hpublica.mpr hper)⟩
      · rw [hcad]
        exact hlog
      · rw [hcad]
        exact (if_pos hper).symm
  · next hper =>
      rw [if_neg hper]
      cases ht'
      rw [hpub] at hper
      refine ⟨?_, ?_, k, rfl, iff_of_false ?_ (hper ∘ hpublica.mp)⟩
      · rw [hcad]
        exact hlog
      · rw [hcad]
        exact hpub.trans (if_neg hper).symm
      · rw [hchamada]
        exact Bool.noConfusion

/-- The telemetry line leads to the delay. -/
theorem atraso_of_telemetria {amb : Ambiente} (hpc : t.pc = .telemetria) {t' : Tarefa}
    (ht' : (s.passoTarefa amb t).tarefa = some t') : t'.pc = .atraso := by
  unfold passoTarefa at ht'
  rw [hpc] at ht'
  dsimp only at ht'
  split at ht' <;> cases ht' <;> rfl

/-- The stamps are on course, from `0` before there is a task. -/
structure Compasso (R : Execucao) (k : ℕ) (s : Programa) : Prop where
  boot : s.tarefa = none → s.lastLog = 0 ∧ k = 0
  laco : ∀ t, s.tarefa = some t → s.Selos R k t

theorem Compasso.mono (h : s.Compasso R k) (htarefa : s'.tarefa = s.tarefa)
    (hlog : s'.lastLog = s.lastLog) (hchamada : s'.chamada = s.chamada) :
    s'.Compasso R k := by
  constructor
  · intro hnone
    rw [hlog]
    exact h.boot (htarefa ▸ hnone)
  · intro t ht
    exact (h.laco t (htarefa ▸ ht)).mono hlog hchamada

theorem Compasso.passoMain {amb : Ambiente} (hfim : s.TarefaNoFim)
    (h : s.Compasso R k) : (s.passoMain amb).Compasso R k := by
  obtain ⟨_, _, _, _, _, _, _, _, _, tarefa, heq, htarefa | ⟨hcria, hnova⟩⟩ :=
    passoMain_frame amb s
  · rw [heq]
    exact h.mono htarefa rfl rfl
  · -- the task is created
    have hnone : s.tarefa = none := hfim (by rw [hcria]; decide)
    obtain ⟨hlog, rfl⟩ := h.boot hnone
    rw [heq, hnova]
    refine ⟨?_, ?_⟩
    · rintro ⟨⟩
    · rintro t ⟨⟩
      exact ⟨hlog, rfl⟩

theorem Compasso.passoTarefa {amb : Ambiente} (h : s.Compasso R k)
    (ht : s.tarefa = some t)
    (hguia : ∀ t', (s.passoTarefa amb t).tarefa = some t' → (s.passoTarefa amb t).Guiado
      amb.A R (k + (s.termina .tarefa).toNat) t') :
    (s.passoTarefa amb t).Compasso R (k + (s.termina .tarefa).toNat) := by
  obtain ⟨_, _, _, _, t', _, _, _, _, hpasso⟩ := passoTarefa_frame amb t s
  have ht' : (s.passoTarefa amb t).tarefa = some t' := by rw [hpasso]
  refine ⟨fun hnone => ?_, fun t'' ht'' => ?_⟩
  · cases hnone.symm.trans ht'
  · obtain rfl : t' = t'' := Option.some.inj (ht'.symm.trans ht'')
    have hfim := (hguia t' ht').fim
    rw [termina_tarefa ht] at hfim ⊢
    by_cases hpc : t.pc = .telemetria
    · rw [decide_eq_true hpc] at hfim ⊢
      obtain ⟨j, hj, hnow, -⟩ := hfim (atraso_of_telemetria hpc ht')
      obtain rfl : k = j := Nat.succ.inj hj
      exact (h.laco t ht).termina hpc ht' hnow
    · rw [decide_eq_false hpc]
      exact (h.laco t ht).passo hpc ht'

/-- **One turn**, along the guide. -/
theorem Compasso.turno {amb : Ambiente} (hfim : s.TarefaNoFim) (h : s.Compasso R k)
    (e : List EventoRede × EventoFisico)
    (hguia : ∀ t', (s.turno amb e).tarefa = some t' →
      (s.turno amb e).Guiado amb.A R (k + (s.termina e.2).toNat) t') :
    (s.turno amb e).Compasso R (k + (s.termina e.2).toNat) := by
  obtain ⟨_, _, _, _, _, _, hrede⟩ := foldl_rede e.1 s
  have htar := tarefa_foldl_rede e.1 s
  have hfim₁ : (e.1.foldl rede s).TarefaNoFim := by
    rw [hrede]
    exact hfim
  have h₁ : (e.1.foldl rede s).Compasso R k := by
    rw [hrede]
    exact h.mono rfl rfl rfl
  unfold Programa.turno at hguia ⊢
  rcases fisico_cases amb (e.1.foldl rede s) e.2 with
    ⟨hmain, heq⟩ | ⟨t, hfis, ht, heq⟩ | ⟨_, _, _, hnone, -, heq⟩
  · rw [heq, hmain]
    exact h₁.passoMain hfim₁
  · have htermina : (e.1.foldl rede s).termina .tarefa = s.termina .tarefa := by
      rw [termina_tarefa ht, termina_tarefa (htar.symm.trans ht)]
    rw [heq, hfis, ← htermina] at hguia ⊢
    exact h₁.passoTarefa ht hguia
  · rw [heq, termina_of_none fun hfis => htar.symm.trans (hnone hfis)]
    exact h₁.mono rfl rfl rfl

/-- **Every state of a run**, along its guide. -/
theorem compasso_estado {amb : Ambiente} {redes : ℕ → List EventoRede}
    {fis : ℕ → EventoFisico}
    (hR : ∀ n t, (estado amb redes fis n).tarefa = some t →
      (estado amb redes fis n).Guiado amb.A R (terminadas amb redes fis n) t) (n : ℕ) :
    (estado amb redes fis n).Compasso R (terminadas amb redes fis n) := by
  induction n with
  | zero =>
      refine ⟨fun _ => ⟨rfl, rfl⟩, ?_⟩
      rintro t ⟨⟩
  | succ n ih => exact ih.turno (tarefaNoFim_estado amb redes fis n) _ (hR (n + 1))

end Programa

/-- **The gates of the program.** The control run that goes along the run of the program
has the program's two stamps at the end of every iteration, and calls
`mqttclient_publish_telemetry` in exactly those in which the program did. -/
theorem corrida_cadencia (A : Rounding) (mac : Mac) (fis : ℕ → EventoFisico) (r : Rede) :
    ∃ R : Execucao, ∀ n t, (corrida A mac fis r n).tarefa = some t → t.pc = .atraso →
      ∃ k, Programa.terminadas { A, mac, resposta := r.resposta } r.eventos fis n = k + 1 ∧
        millis32 (R.it k).topoUs = t.now ∧
        R.estado A (k + 1) = (corrida A mac fis r n).controle ∧
        R.cadencia (k + 1) = ⟨(corrida A mac fis r n).lastLog, t.lastMqttPub⟩ ∧
        ((corrida A mac fis r n).chamada.isSome = true ↔ R.publica k) := by
  have hfonte : (⟨A, .fonte, mac, r.resposta⟩ : Ambiente).setters = .fonte := rfl
  obtain ⟨R, hR⟩ := Programa.exists_guia hfonte r.eventos fis
  refine ⟨R, fun n t ht hpc => ?_⟩
  obtain ⟨hfase, hfim⟩ := hR n t ht
  have hselos := (Programa.compasso_estado hR n).laco t ht
  obtain ⟨k, hk, hnow, -⟩ := hfim hpc
  unfold Programa.Fase at hfase
  unfold Programa.Selos at hselos
  rw [hpc, hk] at hfase hselos
  obtain ⟨hlog, hpub, j, hj, hchamada⟩ := hselos
  obtain rfl : k = j := Nat.succ.inj hj
  refine ⟨k, hk, hnow, hfase.1.symm, ?_, hchamada⟩
  rw [hpub]
  show _ = (⟨(Programa.estado _ _ _ _).lastLog, _⟩ : Cadencia)
  rw [hlog]

/-- Six seconds after the boot the first iteration opens both gates. -/
theorem tapOpens_cadencia :
    ∃ (R : Execucao) (t : Tarefa),
      (corrida .binary32 (fun _ => 0) tapOpens wifiUp 33).tarefa = some t ∧
        millis32 (R.it 0).topoUs = t.now ∧
        R.estado .binary32 1 =
          (corrida .binary32 (fun _ => 0) tapOpens wifiUp 33).controle ∧
        R.cadencia 1 = ⟨6000, 6000⟩ ∧ R.publica 0 := by
  have hpc : ((corrida .binary32 (fun _ => 0) tapOpens wifiUp 33).tarefa.map
      fun t => (t.pc, t.lastMqttPub)) = some (.atraso, 6000) := by decide +kernel
  have hlog : (corrida .binary32 (fun _ => 0) tapOpens wifiUp 33).lastLog = 6000 := by
    decide +kernel
  have hchamada : (corrida .binary32 (fun _ => 0) tapOpens wifiUp 33).chamada.isSome =
      true := by decide +kernel
  obtain ⟨t, ht, heq⟩ := Option.map_eq_some_iff.mp hpc
  obtain ⟨hatraso, hpub⟩ := Prod.mk.inj heq
  obtain ⟨R, hR⟩ := corrida_cadencia .binary32 (fun _ => 0) tapOpens wifiUp
  obtain ⟨k, hk, hnow, hestado, hcadencia, hpublica⟩ := hR 33 t ht hatraso
  obtain rfl : k = 0 := Nat.succ.inj (hk.symm.trans terminadas_tapOpens)
  rw [hlog, hpub] at hcadencia
  exact ⟨R, t, ht, hnow, hestado, hcadencia, hpublica.mp hchamada⟩

end HidroControl
