import HidroControl.Programa

/-!
# What the network can do to the relays

Two runs of the whole program with the same physical events and different
networks. `Programa.semRede` forgets everything the network writes; what is left
— clock, button, counters, flow, mode, relays, the control task and its program
point — steps by itself, except in two places. A remote command sets the mode.
And `app_main` creates the control task only after its wait for Wi-Fi, so the
network decides *when* the control starts, or that it never does
(`waitRuns_differ`). Without commands and with the task created at the same
moment, the two runs agree on the relays at every time (`relays_networkIndependent`).
The physical events say in which turns the two tasks make their steps, so the runs are
compared under one schedule: a network that keeps the control task waiting inside
`esp_mqtt_client_publish` changes the schedule, and that is not compared.
-/

namespace HidroControl

open Trajectory

/-- The level last written to a relay pin. -/
def Programa.nivel (s : Programa) (c : Canal) : Option ℕ := s.reles.gpio (pinRele c)

/-- Two runs without remote commands have the same relay levels after the
startup inhibition, whatever their networks do. -/
def NetworkIndependent (A : Rounding) : Prop :=
  ∀ mac fis r₁ r₂ n,
    (corrida A mac fis r₁ n).remotos = [] → (corrida A mac fis r₂ n).remotos = [] →
    3000 < (corrida A mac fis r₁ n).relogioUs / 1000 →
    ∀ c, (corrida A mac fis r₁ n).nivel c = (corrida A mac fis r₂ n).nivel c

/-! ## A network that never comes up -/

def wifiDown : Rede where
  eventos _ := []

/-- With Wi-Fi the cold pump is on after nine steps of the control task; without
it there is no control task. -/
theorem waitRuns_differ : ¬ NetworkIndependent .binary32 := by
  intro h
  have heq := h (fun _ => 0) tapOpens wifiUp wifiDown 30 (by decide +kernel)
    (by decide +kernel) (by decide +kernel) .frio
  revert heq
  decide +kernel

/-! ## The part of the state the network does not write -/

/-- Still in the part of `app_main` before the wait. -/
def PcMain.inicializa : PcMain → Bool
  | .relesInit | .fluxoInit | .modosInit | .deviceidInit | .oledInit
  | .netwifiInit => true
  | _ => false

namespace Programa

/-- The state with everything forgotten that the network writes or that only
reports. -/
def semRede (s : Programa) : Programa :=
  { s with
    deviceid := {}
    netwifi := {}
    mqtt := {}
    timekeeper := {}
    sntp := false
    parede := .parado
    main := .fim
    oled := []
    chamada := none
    publicacoes := []
    remotos := [] }

theorem remotos_suffix_foldl (es : List EventoRede) (s : Programa) :
    s.remotos <:+ (es.foldl rede s).remotos := by
  induction es generalizing s with
  | nil => exact List.suffix_rfl
  | cons e es ih =>
      refine List.IsSuffix.trans ?_ (ih (s.rede e))
      rcases rede_cases s e with ⟨_, _, _, _, heq⟩ | ⟨_, modo, heq⟩
      · rw [heq]
      · rw [heq]
        exact List.suffix_cons modo s.remotos

/-- Without commands, network events change nothing that is kept. -/
theorem foldl_rede_semRede {es : List EventoRede} {s : Programa}
    (h : (es.foldl rede s).remotos = []) :
    (es.foldl rede s).semRede = s.semRede := by
  induction es generalizing s with
  | nil => rfl
  | cons e es ih =>
      rw [List.foldl_cons, ih h]
      rcases rede_cases s e with ⟨_, _, _, _, heq⟩ | ⟨_, modo, heq⟩
      · rw [heq]
        rfl
      · -- a command would still be in the history
        have hsuf := remotos_suffix_foldl es (s.rede e)
        rw [List.foldl_cons] at h
        rw [h, heq] at hsuf
        exact absurd (List.suffix_nil.mp hsuf) (List.cons_ne_nil _ _)

/-- The control task reads nothing the network writes, except to report it. -/
theorem passoTarefa_semRede (amb : Ambiente) (t : Tarefa) (s : Programa) :
    (s.passoTarefa amb t).semRede = (s.semRede.passoTarefa amb t).semRede := by
  unfold passoTarefa
  cases t.pc with
  | registro =>
      obtain ⟨_, _, heq, rfl⟩ := mostra_eq t s
      obtain ⟨_, _, heq', rfl⟩ := mostra_eq t s.semRede
      dsimp only
      rw [heq, heq']
      rfl
  | telemetria =>
      dsimp only
      split <;> rfl
  | _ => rfl

/-- The calls of `app_main` before the wait do not either. -/
theorem passoMain_semRede {s : Programa} (amb amb' : Ambiente)
    (h : s.main.inicializa = true) :
    (s.passoMain amb).semRede =
        (({ s.semRede with main := s.main } : Programa).passoMain amb').semRede ∧
      (s.passoMain amb).main =
        (({ s.semRede with main := s.main } : Programa).passoMain amb').main := by
  unfold passoMain
  dsimp only
  cases hpc : s.main <;> rw [hpc] at h <;> first | exact ⟨rfl, rfl⟩ | cases h

/-- From the wait on, `app_main` only creates the task. -/
theorem passoMain_semRede_espera {s : Programa} (amb : Ambiente)
    (h : s.main.inicializa = false) :
    (s.passoMain amb).main.inicializa = false ∧
      ((s.passoMain amb).semRede = s.semRede ∨
        s.main = .criaTarefa ∧
          (s.passoMain amb).semRede = { s.semRede with tarefa := some {} }) := by
  have hstay := h
  unfold passoMain
  cases hpc : s.main <;> rw [hpc] at h
  case aguarda =>
    dsimp only
    split
    · exact ⟨rfl, Or.inl rfl⟩
    · exact ⟨hstay, Or.inl rfl⟩
  case timekeeperInit => exact ⟨rfl, Or.inl rfl⟩
  case mqttclientInit => exact ⟨rfl, Or.inl rfl⟩
  case criaTarefa => exact ⟨rfl, Or.inr ⟨rfl, rfl⟩⟩
  case fim => exact ⟨hstay, Or.inl rfl⟩
  all_goals cases h

/-- A physical event other than a step of `app_main` acts on what is kept. -/
theorem fisico_semRede (amb : Ambiente) {e : EventoFisico} (he : e ≠ .main)
    (s : Programa) :
    (s.fisico amb e).semRede = (s.semRede.fisico amb e).semRede ∧
      (s.fisico amb e).main = s.main := by
  cases e with
  | relogio us => exact ⟨rfl, rfl⟩
  | pulso c =>
      unfold fisico
      dsimp only
      constructor
      · show _ = (if s.isr then _ else _ : Programa).semRede
        split <;> rfl
      · split <;> rfl
  | botao nivel => exact ⟨rfl, rfl⟩
  | main => exact absurd rfl he
  | tarefa =>
      cases ht : s.tarefa with
      | none =>
          rw [fisico_tarefa_none amb ht, fisico_tarefa_none amb (s := s.semRede) ht]
          exact ⟨rfl, rfl⟩
      | some t =>
          rw [fisico_tarefa_some amb ht, fisico_tarefa_some amb (s := s.semRede) ht]
          exact ⟨passoTarefa_semRede amb t s, passoTarefa_main amb t s⟩

/-- Which board it is and how the MQTT library answers is nothing to the tasks
but `app_main`. -/
theorem fisico_congr {amb amb' : Ambiente} (hA : amb.A = amb'.A)
    (hS : amb.setters = amb'.setters) {e : EventoFisico} (he : e ≠ .main)
    (s : Programa) : s.fisico amb e = s.fisico amb' e := by
  cases e with
  | main => exact absurd rfl he
  | tarefa =>
      unfold fisico passoTarefa
      rw [hA, hS]
  | _ => rfl

/-! ## Two runs -/

/-- Two states that agree on all that is kept, and on where `app_main` stands
until the wait. -/
structure Concorda (s s' : Programa) : Prop where
  semRede : s.semRede = s'.semRede
  main : s.main = s'.main ∨ s.main.inicializa = false ∧ s'.main.inicializa = false

theorem Concorda.tarefa {s s' : Programa} (h : Concorda s s') :
    s.tarefa = s'.tarefa := by
  show s.semRede.tarefa = s'.semRede.tarefa
  rw [h.semRede]

theorem Concorda.symm {s s' : Programa} (h : Concorda s s') : Concorda s' s :=
  ⟨h.semRede.symm, h.main.imp Eq.symm And.symm⟩

/-- If one run creates the task and the other does not, the other has none. -/
theorem Concorda.cria_ambos {amb amb' : Ambiente} {s s' : Programa}
    (h : Concorda s s') (hs : s.TarefaNoFim) (hpc : s.main = .criaTarefa)
    (hsem : (s.passoMain amb).semRede = { s.semRede with tarefa := some {} })
    (hsem' : (s'.passoMain amb').semRede = s'.semRede) :
    (s.passoMain amb).tarefa.isSome ≠ (s'.passoMain amb').tarefa.isSome := by
  have hnone : s.tarefa = none := hs (by rw [hpc]; decide)
  show (s.passoMain amb).semRede.tarefa.isSome ≠
    (s'.passoMain amb').semRede.tarefa.isSome
  rw [hsem, hsem']
  show _ ≠ s'.tarefa.isSome
  rw [← h.tarefa, hnone]
  exact Bool.noConfusion

theorem Concorda.passoMain {amb amb' : Ambiente} {s s' : Programa}
    (h : Concorda s s') (hs : s.TarefaNoFim) (hs' : s'.TarefaNoFim)
    (hcriada : (s.passoMain amb).tarefa.isSome = (s'.passoMain amb').tarefa.isSome) :
    Concorda (s.passoMain amb) (s'.passoMain amb') := by
  by_cases hinit : s.main.inicializa = true
  · -- both make the same call
    have hmain : s.main = s'.main := by
      refine h.main.resolve_right fun hboth => ?_
      rw [hboth.1] at hinit
      exact Bool.noConfusion hinit
    obtain ⟨hsem, hpc⟩ := passoMain_semRede amb amb' hinit
    obtain ⟨hsem', hpc'⟩ := passoMain_semRede amb' amb' (hmain ▸ hinit)
    rw [h.semRede, hmain] at hsem hpc
    exact ⟨hsem.trans hsem'.symm, Or.inl (hpc.trans hpc'.symm)⟩
  · -- both are at or past the wait, and only the creation counts
    rw [Bool.not_eq_true] at hinit
    have hinit' : s'.main.inicializa = false := by
      rcases h.main with hmain | hboth
      · exact hmain ▸ hinit
      · exact hboth.2
    obtain ⟨hpc, hsem⟩ := passoMain_semRede_espera amb hinit
    obtain ⟨hpc', hsem'⟩ := passoMain_semRede_espera amb' hinit'
    refine ⟨?_, Or.inr ⟨hpc, hpc'⟩⟩
    rcases hsem with hsem | ⟨hcria, hsem⟩ <;>
      rcases hsem' with hsem' | ⟨hcria', hsem'⟩
    · rw [hsem, hsem', h.semRede]
    · exact absurd hcriada.symm (h.symm.cria_ambos hs' hcria' hsem' hsem)
    · exact absurd hcriada (h.cria_ambos hs hcria hsem hsem')
    · rw [hsem, hsem', h.semRede]

theorem Concorda.turno (amb amb' : Ambiente) {s s' : Programa}
    (h : Concorda s s') (hA : amb.A = amb'.A) (hS : amb.setters = amb'.setters)
    (hs : s.TarefaNoFim) (hs' : s'.TarefaNoFim) {es es' : List EventoRede}
    {e : EventoFisico} (hr : (s.turno amb (es, e)).remotos = [])
    (hr' : (s'.turno amb' (es', e)).remotos = [])
    (hcriada : (s.turno amb (es, e)).tarefa.isSome =
      (s'.turno amb' (es', e)).tarefa.isSome) :
    Concorda (s.turno amb (es, e)) (s'.turno amb' (es', e)) := by
  unfold Programa.turno at *
  dsimp only at *
  rw [fisico_remotos] at hr hr'
  -- the network first
  have hsem := foldl_rede_semRede hr
  have hsem' := foldl_rede_semRede hr'
  obtain ⟨_, _, _, _, _, _, heq⟩ := foldl_rede es s
  obtain ⟨_, _, _, _, _, _, heq'⟩ := foldl_rede es' s'
  have hrede : Concorda (es.foldl rede s) (es'.foldl rede s') := by
    refine ⟨hsem.trans (h.semRede.trans hsem'.symm), ?_⟩
    rw [main_foldl_rede, main_foldl_rede]
    exact h.main
  have hfim : (es.foldl rede s).TarefaNoFim := by rw [heq]; exact hs
  have hfim' : (es'.foldl rede s').TarefaNoFim := by rw [heq']; exact hs'
  -- then the physical event
  by_cases he : e = .main
  · rw [he] at hcriada ⊢
    exact hrede.passoMain hfim hfim' hcriada
  · obtain ⟨hfis, hpc⟩ := fisico_semRede amb he (es.foldl rede s)
    obtain ⟨hfis', hpc'⟩ := fisico_semRede amb' he (es'.foldl rede s')
    refine ⟨?_, by rw [hpc, hpc']; exact hrede.main⟩
    rw [hfis, hfis', hrede.semRede, fisico_congr hA hS he]

theorem remotos_suffix (amb : Ambiente) (redes : ℕ → List EventoRede)
    (fis : ℕ → EventoFisico) {k n : ℕ} (h : k ≤ n) :
    (estado amb redes fis k).remotos <:+ (estado amb redes fis n).remotos := by
  induction n, h using Nat.le_induction with
  | base => exact List.suffix_rfl
  | succ n hn ih =>
      refine ih.trans ?_
      show _ <:+ (((redes n).foldl rede _).fisico amb (fis n)).remotos
      rw [fisico_remotos]
      exact remotos_suffix_foldl _ _

end Programa

/-! ## The law -/

/-- **Relay control is independent of the network, up to the moment at which the
control task is created,** between runs in which the tasks make their steps in the same
turns. -/
theorem relays_networkIndependent (A : Rounding) (mac : Mac)
    (fis : ℕ → EventoFisico) (r₁ r₂ : Rede) (n : ℕ)
    (hr₁ : (corrida A mac fis r₁ n).remotos = [])
    (hr₂ : (corrida A mac fis r₂ n).remotos = [])
    (hcriada : ∀ k ≤ n, (corrida A mac fis r₁ k).tarefa.isSome =
      (corrida A mac fis r₂ k).tarefa.isSome) (c : Canal) :
    (corrida A mac fis r₁ n).nivel c = (corrida A mac fis r₂ n).nivel c := by
  have hsilent {r : Rede} (hr : (corrida A mac fis r n).remotos = []) {k : ℕ}
      (hk : k ≤ n) : (corrida A mac fis r k).remotos = [] :=
    List.suffix_nil.mp (hr ▸ Programa.remotos_suffix _ _ _ hk)
  have hall : Programa.Concorda (corrida A mac fis r₁ n) (corrida A mac fis r₂ n) := by
    refine related_until (N := n) Programa.Concorda ⟨rfl, Or.inl rfl⟩
      (fun k hk h => ?_) n le_rfl
    exact h.turno { A, mac, resposta := r₁.resposta }
      { A, mac, resposta := r₂.resposta } rfl rfl
      (Programa.tarefaNoFim_estado _ r₁.eventos fis k)
      (Programa.tarefaNoFim_estado _ r₂.eventos fis k) (hsilent hr₁ hk)
      (hsilent hr₂ hk) (hcriada (k + 1) hk)
  show (corrida A mac fis r₁ n).semRede.nivel c = _
  rw [hall.semRede]
  rfl

/-- The network that lets the board start and then fails: the station is
disconnected and the MQTT client never starts. -/
def wifiLost : Rede where
  resposta := ⟨true, true, false⟩
  eventos n :=
    if n = 6 then [.idf (.ip .staGotIp ⟨10, 0, 0, 2⟩)]
    else if n = 23 then [.idf (.wifi .staDisconnected), .mqtt .error]
    else []

theorem wifiLost_agrees :
    (corrida .binary32 (fun _ => 0) tapOpens wifiUp 30).nivel .frio =
      (corrida .binary32 (fun _ => 0) tapOpens wifiLost 30).nivel .frio :=
  relays_networkIndependent .binary32 (fun _ => 0) tapOpens wifiUp wifiLost 30
    (by decide +kernel) (by decide +kernel) (by decide +kernel) .frio

end HidroControl
