import HidroControl.Main
import HidroControl.Mqttclient
import HidroControl.Netwifi
import HidroControl.Base.Trajectory

/-!
# The whole program, step by step

`app_main` and `task_hidrocontrol` as two program counters over the statics of
all modules: a call of `app_main` is one step, and in the loop every access of
something shared is one. What drives them comes in two streams. The physical one
(`EventoFisico`) has the passing of time, the pulses, the button, and which of the
two tasks makes its next step; the network one (`EventoRede`) has what the Wi-Fi
and MQTT libraries call back with. A *turn* is one physical event, with any number
of network events before it: a run is a trajectory of turns. A remote command is
one event, placed where its `modos_set` stores the mode or finds it already stored;
`ModeRace` takes the call apart. The call of `mqttclient_publish_telemetry` is one step
as well: the MQTT library may make it wait, for its lock and for the socket, and how
long it does is part of the physical stream, as the moment of the task's next step.

The setters of the relays are a parameter (`Setters`), so that the program can
be compared with one whose setters always write.
-/

namespace HidroControl

open Trajectory

/-! ## Program points -/

/-- Where `app_main` stands: the call it makes next. -/
inductive PcMain where
  | relesInit
  | fluxoInit
  | modosInit
  | deviceidInit
  | oledInit
  | netwifiInit
  /-- `while (!netwifi_is_connected())`. -/
  | aguarda
  | timekeeperInit
  | mqttclientInit
  /-- `xTaskCreate(task_hidrocontrol, …)`. -/
  | criaTarefa
  | fim
deriving DecidableEq

/-- Where `task_hidrocontrol` stands in its loop. -/
inductive PcTarefa where
  /-- `now = millis32()`. -/
  | topo
  /-- `modos_update_button` up to its call of `modos_next`. -/
  | botao
  | modosNext (p : PassoModo)
  /-- `fluxo_update`: `now_us` and the early return. -/
  | relogio
  | cargaFrio
  | cargaQuente
  /-- `fluxo_update`, from its `millis32()` on. -/
  | fecha
  /-- `modos_get()`. -/
  | leModo
  /-- The `if` and the `switch`. -/
  | decide
  | releFrio
  | releQuente
  /-- The log line and `oled_show_status`. -/
  | registro
  | telemetria
  /-- `vTaskDelay`: the iteration is over. -/
  | atraso
deriving DecidableEq

/-- The locals of `task_hidrocontrol`. `leitura` collects what the current
`fluxo_update` has read. -/
structure Tarefa where
  pc : PcTarefa := .topo
  now : UInt32 := 0
  leitura : LeituraFluxo := {}
  modo : ModoOperacao := .normal
  decisao : Decisao := {}
  lastMqttPub : UInt32 := 0

/-! ## The state -/

structure StatusOled where
  wifiConnected : Bool
  mqttConnected : Bool
  modo : String
  fluxoFrio : ℚ
  fluxoQuente : ℚ

/-- A wall clock that has not been set. -/
def LeiturasTempo.parado : LeiturasTempo :=
  let l : LeituraHora :=
    { antes := false, now := { s := 0, ge := by decide, lt := by decide }, depois := false }
  { l1 := l, l2 := l, l3 := l, l4 := l }

/-- The statics of all modules, the tasks, and what the outside has seen. The
histories have their latest entry first. -/
structure Programa where
  relogioUs : ℕ := 0
  nivelBotao : Bool := true
  contadores : Contadores := {}
  /-- The pulse interrupts are enabled. -/
  isr : Bool := false
  fluxo : Fluxo := {}
  modos : Modos := {}
  reles : Reles := {}
  deviceid : Deviceid := {}
  netwifi : Netwifi := {}
  mqtt : Mqttclient := {}
  timekeeper : Timekeeper := {}
  /-- `time_sync_cb` is registered. -/
  sntp : Bool := false
  /-- What the wall clock will show to the next telemetry call. -/
  parede : LeiturasTempo := .parado
  main : PcMain := .relesInit
  tarefa : Option Tarefa := none
  lastLog : UInt32 := 0
  oled : List StatusOled := []
  /-- The call of `mqttclient_publish_telemetry` of the current iteration. -/
  chamada : Option Telemetria := none
  publicacoes : List Publicacao := []
  /-- The modes the MQTT task has handed to `modos_set`. -/
  remotos : List ModoOperacao := []

inductive EventoFisico where
  | relogio (us : ℕ)
  | pulso (c : Canal)
  | botao (nivel : Bool)
  | main
  | tarefa

inductive EventoRede where
  | idf (e : EventoIdf)
  | mqtt (e : EventoMqtt)
  | sntp
  | parede (l : LeiturasTempo)

/-- The relay setters the program is linked with. -/
structure Setters where
  frio : Bool → Reles → Reles
  quente : Bool → Reles → Reles

def Setters.fonte : Setters := ⟨relesSetFrio, relesSetQuente⟩

/-- Setters that write whatever the cache says. -/
def Setters.sempre : Setters := ⟨relesSetFrioSempre, relesSetQuenteSempre⟩

/-- What does not change in a run. -/
structure Ambiente where
  A : Rounding
  setters : Setters := .fonte
  mac : Mac
  resposta : RespostaMqtt

namespace Programa

/-! ## The network -/

/-- The MQTT task handles an event, once its handler is registered. -/
def recebeMqtt (e : EventoMqtt) (s : Programa) : Programa :=
  if s.mqtt.sClient then
    let (mqtt, comando) := mqttEventHandler s.deviceid e s.mqtt
    match comando with
    | none => { s with mqtt }
    | some modo =>
        { s with mqtt, modos := modosSet modo s.modos, remotos := modo :: s.remotos }
  else s

def rede (s : Programa) : EventoRede → Programa
  | .idf e => { s with netwifi := despachaEvento e s.netwifi }
  | .mqtt e => s.recebeMqtt e
  | .sntp => if s.sntp then { s with timekeeper := timeSyncCb s.timekeeper } else s
  | .parede l => { s with parede := l }

/-- **What a network event does.** It writes the network's own statics, and, if
it is a command, the mode. -/
theorem rede_cases (s : Programa) (e : EventoRede) :
    (∃ netwifi mqtt timekeeper parede,
      s.rede e = { s with netwifi, mqtt, timekeeper, parede }) ∨
    ∃ mqtt modo, s.rede e =
      { s with mqtt, modos := modosSet modo s.modos, remotos := modo :: s.remotos } := by
  cases e with
  | idf e => exact Or.inl ⟨_, _, _, _, rfl⟩
  | mqtt e =>
      unfold rede recebeMqtt
      dsimp only
      split
      · split
        · exact Or.inl ⟨_, _, _, _, rfl⟩
        · exact Or.inr ⟨_, _, rfl⟩
      · exact Or.inl ⟨_, _, _, _, rfl⟩
  | sntp =>
      unfold rede
      dsimp only
      split <;> exact Or.inl ⟨_, _, _, _, rfl⟩
  | parede l => exact Or.inl ⟨_, _, _, _, rfl⟩

theorem foldl_rede (es : List EventoRede) (s : Programa) :
    ∃ modos netwifi mqtt timekeeper parede remotos, es.foldl rede s =
      { s with modos, netwifi, mqtt, timekeeper, parede, remotos } := by
  induction es generalizing s with
  | nil => exact ⟨_, _, _, _, _, _, rfl⟩
  | cons e es ih =>
      obtain ⟨_, _, _, _, _, _, hes⟩ := ih (s.rede e)
      rw [List.foldl_cons, hes]
      rcases rede_cases s e with ⟨_, _, _, _, heq⟩ | ⟨_, _, heq⟩
      · rw [heq]
        exact ⟨_, _, _, _, _, _, rfl⟩
      · rw [heq]
        exact ⟨_, _, _, _, _, _, rfl⟩

theorem main_foldl_rede (es : List EventoRede) (s : Programa) :
    (es.foldl rede s).main = s.main := by
  obtain ⟨_, _, _, _, _, _, heq⟩ := foldl_rede es s
  rw [heq]

theorem tarefa_foldl_rede (es : List EventoRede) (s : Programa) :
    (es.foldl rede s).tarefa = s.tarefa := by
  obtain ⟨_, _, _, _, _, _, heq⟩ := foldl_rede es s
  rw [heq]

theorem relogioUs_foldl_rede (es : List EventoRede) (s : Programa) :
    (es.foldl rede s).relogioUs = s.relogioUs := by
  obtain ⟨_, _, _, _, _, _, heq⟩ := foldl_rede es s
  rw [heq]

/-! ## `app_main` -/

def passoMain (amb : Ambiente) (s : Programa) : Programa :=
  match s.main with
  | .relesInit => { s with reles := relesInit s.reles, main := .fluxoInit }
  | .fluxoInit =>
      { s with isr := true, fluxo := fluxoInit s.relogioUs s.fluxo, main := .modosInit }
  | .modosInit =>
      { s with modos := modosInit s.relogioUs s.modos, main := .deviceidInit }
  | .deviceidInit =>
      { s with deviceid := deviceidInit amb.mac s.deviceid, main := .oledInit }
  | .oledInit => { s with main := .netwifiInit }
  | .netwifiInit => { s with netwifi := netwifiInit s.netwifi, main := .aguarda }
  | .aguarda =>
      if netwifiIsConnected s.netwifi then { s with main := .timekeeperInit } else s
  | .timekeeperInit => { s with sntp := true, main := .mqttclientInit }
  | .mqttclientInit =>
      { s with mqtt := mqttclientInit amb.resposta s.mqtt, main := .criaTarefa }
  | .criaTarefa => { s with tarefa := some {}, main := .fim }
  | .fim => s

/-! ## `task_hidrocontrol` -/

def mostra (t : Tarefa) (s : Programa) : Programa :=
  if 1000 ≤ t.now - s.lastLog then
    { s with
      lastLog := t.now
      oled :=
        { wifiConnected := netwifiIsConnected s.netwifi
          mqttConnected := mqttclientIsConnected s.mqtt
          modo := modosNome t.modo
          fluxoFrio := fluxoFrioLmin s.fluxo
          fluxoQuente := fluxoQuenteLmin s.fluxo } :: s.oled }
  else s

theorem mostra_eq (t : Tarefa) (s : Programa) :
    ∃ lastLog oled, s.mostra t = { s with lastLog, oled } ∧
      lastLog = if 1000 ≤ t.now - s.lastLog then t.now else s.lastLog := by
  unfold mostra
  split <;> exact ⟨_, _, rfl, rfl⟩

def argumentos (t : Tarefa) (s : Programa) : Telemetria where
  modo := modosNome t.modo
  fluxoFrio := fluxoFrioLmin s.fluxo
  fluxoQuente := fluxoQuenteLmin s.fluxo
  releFrio := relesFrioLigado s.reles
  releQuente := relesQuenteLigado s.reles
  wifiConnected := netwifiIsConnected s.netwifi

def chama (q : Telemetria) (s : Programa) : Programa :=
  let r := mqttclientPublishTelemetry s.deviceid q s.parede s.mqtt.sConnected
    s.mqtt s.timekeeper
  { s with
    chamada := some q
    publicacoes := r.1.toList ++ s.publicacoes
    timekeeper := r.2 }

/-- The task makes the step its program counter stands at. -/
def passoTarefa (amb : Ambiente) (t : Tarefa) (s : Programa) : Programa :=
  match t.pc with
  | .topo =>
      { s with
        chamada := none
        tarefa := some { t with now := millis32 s.relogioUs, pc := .botao } }
  | .botao =>
      let d := modosDebounce s.relogioUs s.nivelBotao s.modos
      { s with
        modos := d.1
        tarefa := some { t with pc := if d.2 then .modosNext .le else .relogio } }
  | .modosNext p =>
      let r := p.passo s.modos.sModo
      { s with
        modos := { s.modos with sModo := r.2 }
        tarefa := some
          { t with pc := if r.1 = .fim then .relogio else .modosNext r.1 } }
  | .relogio =>
      let leitura : LeituraFluxo := { nowUs := s.relogioUs }
      { s with
        tarefa := some
          { t with leitura, pc := if s.fluxo.completa leitura then .cargaFrio else .leModo } }
  | .cargaFrio =>
      { s with
        tarefa := some
          { t with
            leitura := { t.leitura with pFrio := fluxoPulsosFrio s.contadores }
            pc := .cargaQuente } }
  | .cargaQuente =>
      { s with
        tarefa := some
          { t with
            leitura := { t.leitura with pQuente := fluxoPulsosQuente s.contadores }
            pc := .fecha } }
  | .fecha =>
      let leitura := { t.leitura with msUs := s.relogioUs }
      { s with
        fluxo := fluxoUpdate amb.A leitura s.fluxo
        tarefa := some { t with leitura, pc := .leModo } }
  | .leModo =>
      { s with tarefa := some { t with modo := modosGet s.modos, pc := .decide } }
  | .decide =>
      let decisao := decideReles t.now (fluxoFrioAtivo s.fluxo)
        (fluxoQuenteAtivo s.fluxo) s.fluxo t.modo
      { s with tarefa := some { t with decisao, pc := .releFrio } }
  | .releFrio =>
      { s with
        reles := amb.setters.frio t.decisao.releFrio s.reles
        tarefa := some { t with pc := .releQuente } }
  | .releQuente =>
      { s with
        reles := amb.setters.quente t.decisao.releQuente s.reles
        tarefa := some { t with pc := .registro } }
  | .registro =>
      { s.mostra t with tarefa := some { t with pc := .telemetria } }
  | .telemetria =>
      if 5000 ≤ t.now - t.lastMqttPub then
        { s.chama (s.argumentos t) with
          tarefa := some { t with lastMqttPub := t.now, pc := .atraso } }
      else { s with tarefa := some { t with pc := .atraso } }
  | .atraso => { s with tarefa := some { t with pc := .topo } }

/-! ## Turns -/

def conta : Canal → Contadores → Contadores
  | .frio => isrFluxoFrio
  | .quente => isrFluxoQuente

def fisico (amb : Ambiente) (s : Programa) : EventoFisico → Programa
  | .relogio us => { s with relogioUs := s.relogioUs + us }
  | .pulso c => if s.isr then { s with contadores := conta c s.contadores } else s
  | .botao nivel => { s with nivelBotao := nivel }
  | .main => s.passoMain amb
  | .tarefa =>
      match s.tarefa with
      | none => s
      | some t => s.passoTarefa amb t

theorem fisico_tarefa_none (amb : Ambiente) {s : Programa} (h : s.tarefa = none) :
    s.fisico amb .tarefa = s := by
  simp only [fisico, h]

theorem fisico_tarefa_some (amb : Ambiente) {s : Programa} {t : Tarefa}
    (h : s.tarefa = some t) : s.fisico amb .tarefa = s.passoTarefa amb t := by
  simp only [fisico, h]

/-- The network events, then the physical one. -/
def turno (amb : Ambiente) (e : List EventoRede × EventoFisico) (s : Programa) :
    Programa :=
  (e.1.foldl rede s).fisico amb e.2

/-- The state before turn `n`, from power-on. -/
def estado (amb : Ambiente) (redes : ℕ → List EventoRede) (fis : ℕ → EventoFisico)
    (n : ℕ) : Programa :=
  state (turno amb) {} (fun n => (redes n, fis n)) n

/-! ## What the steps write -/

/-- All that a step of the control task can write. -/
theorem passoTarefa_frame (amb : Ambiente) (t : Tarefa) (s : Programa) :
    ∃ fluxo modos reles timekeeper t' lastLog oled chamada publicacoes,
      s.passoTarefa amb t =
        { s with
          fluxo, modos, reles, timekeeper, lastLog, oled, chamada, publicacoes
          tarefa := some t' } := by
  unfold passoTarefa
  cases t.pc with
  | registro =>
      obtain ⟨_, _, heq, -⟩ := mostra_eq t s
      dsimp only
      rw [heq]
      exact ⟨_, _, _, _, _, _, _, _, _, rfl⟩
  | telemetria =>
      dsimp only
      split <;> exact ⟨_, _, _, _, _, _, _, _, _, rfl⟩
  | _ => exact ⟨_, _, _, _, _, _, _, _, _, rfl⟩

theorem passoTarefa_main (amb : Ambiente) (t : Tarefa) (s : Programa) :
    (s.passoTarefa amb t).main = s.main := by
  obtain ⟨_, _, _, _, _, _, _, _, _, heq⟩ := passoTarefa_frame amb t s
  rw [heq]

/-- All that a step of `app_main` can write. It creates the control task at one
place. -/
theorem passoMain_frame (amb : Ambiente) (s : Programa) :
    ∃ isr fluxo modos reles deviceid netwifi mqtt sntp main tarefa,
      s.passoMain amb =
        { s with
          isr, fluxo, modos, reles, deviceid, netwifi, mqtt, sntp, main, tarefa } ∧
      (tarefa = s.tarefa ∨ s.main = .criaTarefa ∧ tarefa = some {}) := by
  unfold passoMain
  cases s.main with
  | aguarda =>
      dsimp only
      split <;> exact ⟨_, _, _, _, _, _, _, _, _, _, rfl, Or.inl rfl⟩
  | criaTarefa =>
      exact ⟨_, _, _, _, _, _, _, _, _, _, rfl, Or.inr ⟨rfl, rfl⟩⟩
  | _ => exact ⟨_, _, _, _, _, _, _, _, _, _, rfl, Or.inl rfl⟩

theorem passoMain_tarefa (amb : Ambiente) {s : Programa} (h : s.main ≠ .criaTarefa) :
    (s.passoMain amb).tarefa = s.tarefa := by
  obtain ⟨_, _, _, _, _, _, _, _, _, _, heq, htarefa | ⟨hcria, -⟩⟩ :=
    passoMain_frame amb s
  · rw [heq]
    exact htarefa
  · exact absurd hcria h

theorem passoMain_fim (amb : Ambiente) {s : Programa} (h : s.main = .fim) :
    s.passoMain amb = s := by
  simp only [passoMain, h]

/-- **What a physical event does.** It is a step of `app_main`, a step of the control
task, or it comes from outside: time, a pulse, the button, or the turn of a task that
does not exist yet. -/
theorem fisico_cases (amb : Ambiente) (s : Programa) (e : EventoFisico) :
    (e = .main ∧ s.fisico amb e = s.passoMain amb) ∨
      (∃ t, e = .tarefa ∧ s.tarefa = some t ∧ s.fisico amb e = s.passoTarefa amb t) ∨
      ∃ relogioUs nivelBotao contadores, (e = .tarefa → s.tarefa = none) ∧
        s.relogioUs ≤ relogioUs ∧
        s.fisico amb e = { s with relogioUs, nivelBotao, contadores } := by
  cases e with
  | main => exact Or.inl ⟨rfl, rfl⟩
  | relogio us =>
      refine Or.inr (Or.inr ⟨_, _, _, ?_, Nat.le_add_right _ us, rfl⟩)
      rintro ⟨⟩
  | botao nivel =>
      refine Or.inr (Or.inr ⟨_, _, _, ?_, le_rfl, rfl⟩)
      rintro ⟨⟩
  | pulso c =>
      unfold fisico
      dsimp only
      split
      · refine Or.inr (Or.inr ⟨_, _, _, ?_, le_rfl, rfl⟩)
        rintro ⟨⟩
      · refine Or.inr (Or.inr ⟨_, _, _, ?_, le_rfl, rfl⟩)
        rintro ⟨⟩
  | tarefa =>
      by_cases ht : s.tarefa = none
      · rw [fisico_tarefa_none amb ht]
        exact Or.inr (Or.inr ⟨_, _, _, fun _ => ht, le_rfl, rfl⟩)
      · obtain ⟨t, ht⟩ := Option.ne_none_iff_exists'.mp ht
        exact Or.inr (Or.inl ⟨t, rfl, ht, fisico_tarefa_some amb ht⟩)

/-- Only the MQTT task hands out remote commands. -/
theorem fisico_remotos (amb : Ambiente) (s : Programa) (e : EventoFisico) :
    (s.fisico amb e).remotos = s.remotos := by
  rcases fisico_cases amb s e with ⟨-, heq⟩ | ⟨t, -, -, heq⟩ | ⟨_, _, _, -, -, heq⟩
  · obtain ⟨_, _, _, _, _, _, _, _, _, _, hmain, -⟩ := passoMain_frame amb s
    rw [heq, hmain]
  · obtain ⟨_, _, _, _, _, _, _, _, _, htarefa⟩ := passoTarefa_frame amb t s
    rw [heq, htarefa]
  · rw [heq]

/-! ## The invariant rule -/

/-- **Turn rule.** What the network cannot break, nor time, pulses and the button,
and what every step of the two tasks keeps, a turn keeps. -/
theorem turno_regra {amb : Ambiente} {P : Programa → Prop}
    (hrede : ∀ s modos netwifi mqtt timekeeper parede remotos, P s →
      P { s with modos, netwifi, mqtt, timekeeper, parede, remotos })
    (hfora : ∀ s relogioUs nivelBotao contadores, s.relogioUs ≤ relogioUs → P s →
      P { s with relogioUs, nivelBotao, contadores })
    (hmain : ∀ s, P s → P (s.passoMain amb))
    (htarefa : ∀ s t, s.tarefa = some t → P s → P (s.passoTarefa amb t))
    {s : Programa} (h : P s) (e : List EventoRede × EventoFisico) :
    P (s.turno amb e) := by
  obtain ⟨_, _, _, _, _, _, heq⟩ := foldl_rede e.1 s
  have hs : P (e.1.foldl rede s) := by
    rw [heq]
    exact hrede s _ _ _ _ _ _ h
  unfold turno
  rcases fisico_cases amb (e.1.foldl rede s) e.2 with
    ⟨-, hfis⟩ | ⟨t, -, ht, hfis⟩ | ⟨_, _, _, -, hle, hfis⟩
  · rw [hfis]
    exact hmain _ hs
  · rw [hfis]
    exact htarefa _ t ht hs
  · rw [hfis]
    exact hfora _ _ _ _ hle hs

/-- **Run rule.** The turn rule, from power-on. -/
theorem estado_regra {amb : Ambiente} {P : Programa → Prop} (h0 : P {})
    (hrede : ∀ s modos netwifi mqtt timekeeper parede remotos, P s →
      P { s with modos, netwifi, mqtt, timekeeper, parede, remotos })
    (hfora : ∀ s relogioUs nivelBotao contadores, s.relogioUs ≤ relogioUs → P s →
      P { s with relogioUs, nivelBotao, contadores })
    (hmain : ∀ s, P s → P (s.passoMain amb))
    (htarefa : ∀ s t, s.tarefa = some t → P s → P (s.passoTarefa amb t))
    (redes : ℕ → List EventoRede) (fis : ℕ → EventoFisico) (n : ℕ) :
    P (estado amb redes fis n) :=
  invariant (fun _ => P) h0
    (fun _ _ h => turno_regra hrede hfora hmain htarefa h _) n

/-! ## The task exists when `app_main` is done -/

def TarefaNoFim (s : Programa) : Prop := s.main ≠ .fim → s.tarefa = none

theorem TarefaNoFim.main_eq {s : Programa} (h : s.TarefaNoFim) {t : Tarefa}
    (ht : s.tarefa = some t) : s.main = .fim := by
  by_contra hne
  rw [h hne] at ht
  cases ht

theorem TarefaNoFim.passoMain {amb : Ambiente} {s : Programa} (h : s.TarefaNoFim) :
    (s.passoMain amb).TarefaNoFim := by
  unfold Programa.passoMain TarefaNoFim at *
  cases hpc : s.main with
  | aguarda =>
      dsimp only
      split <;> exact fun _ => h (by rw [hpc]; decide)
  | criaTarefa => exact fun hne => absurd rfl hne
  | fim => exact fun hne => absurd hpc hne
  | _ => exact fun _ => h (by rw [hpc]; decide)

theorem TarefaNoFim.passoTarefa {amb : Ambiente} {s : Programa} (h : s.TarefaNoFim)
    {t : Tarefa} (ht : s.tarefa = some t) : (s.passoTarefa amb t).TarefaNoFim := by
  intro hne
  rw [passoTarefa_main] at hne
  exact absurd (h.main_eq ht) hne

theorem tarefaNoFim_estado (amb : Ambiente) (redes : ℕ → List EventoRede)
    (fis : ℕ → EventoFisico) (n : ℕ) : (estado amb redes fis n).TarefaNoFim :=
  estado_regra (fun _ => rfl) (fun _ _ _ _ _ _ _ h => h) (fun _ _ _ _ _ h => h)
    (fun _ h => h.passoMain) (fun _ _ ht h => h.passoTarefa ht) redes fis n

end Programa

/-! ## Runs on a board -/

/-- What a network does in a run. -/
structure Rede where
  resposta : RespostaMqtt := ⟨true, true, true⟩
  eventos : ℕ → List EventoRede

/-- The run of the program, linked with the setters `S`, on a board, its physical
events and a network. -/
def corridaCom (S : Setters) (A : Rounding) (mac : Mac) (fis : ℕ → EventoFisico)
    (r : Rede) (n : ℕ) : Programa :=
  Programa.estado { A, setters := S, mac, resposta := r.resposta } r.eventos fis n

def corrida (A : Rounding) (mac : Mac) (fis : ℕ → EventoFisico) (r : Rede)
    (n : ℕ) : Programa := corridaCom .fonte A mac fis r n

/-- The board boots, ten pulses arrive within six seconds, and both tasks run on. -/
def tapOpens (n : ℕ) : EventoFisico :=
  if n < 6 then .main
  else if n = 6 then .relogio 6000000
  else if n < 17 then .pulso .frio
  else if n < 21 then .main
  else .tarefa

/-- The station gets its address as soon as it is started, and the broker accepts the
client as soon as there is one. -/
def wifiUp : Rede where
  eventos n :=
    if n = 6 then [.idf (.ip .staGotIp ⟨192, 168, 0, 7⟩)]
    else if n = 20 then [.mqtt .connected]
    else []

end HidroControl
