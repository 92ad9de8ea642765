import HidroControl.EspMqtt.ClientSteps

/-!
# Rounds and runs

A round of the client's task, or a call of its interface, is one chain of small steps.
Only a round in `MQTT_STATE_INIT` is more: it has an attempt to connect in it, that
fails or that brings a connection (`Rodada`). A run is rounds and calls in any order;
what each of them keeps, the run keeps (`corre_induz`).
-/

namespace HidroControl.EspMqtt

variable {cfg : Config} {le : Bool} {c c' : Cliente}

/-! ## Rounds -/

/-- `esp_transport_connect` is called, `d` later. -/
def Cliente.tenta (d : ℕ) (c : Cliente) : Cliente :=
  { c with
    relogio := c.relogio + d
    tentativas := (c.relogio + d) :: c.tentativas
    saida := [] }

/-- The broker has accepted. -/
def Cliente.liga (cfg : Config) (c : Cliente) : Cliente :=
  espMqttDispatchEvent cfg .connected { c with state := .connected }

/-- The times of a new connection. -/
def Cliente.marca (refreshConnectionTick : ℕ) (c : Cliente) : Cliente :=
  { c with refreshConnectionTick, keepaliveTick := c.relogio }

/-- A round or a call: a chain of small steps, or an attempt to connect. -/
inductive Rodada (cfg : Config) (c c' : Cliente) : Prop
  | faz (h : Faz cfg true c c')
  | falha (c₁ : Cliente) (d : ℕ) (antes : Faz cfg true c c₁) (init : c₁.state = .init)
      (depois : Faz cfg true (c₁.tenta d) c') (fim : c'.state ≠ .init)
  | liga (c₁ c₂ c₃ : Cliente) (d refreshConnectionTick : ℕ) (antes : Faz cfg true c c₁)
      (init : c₁.state = .init) (tentativa : Faz cfg true (c₁.tenta d) c₂) (init' : c₂.state = .init)
      (inscreve : Faz cfg true (c₂.liga cfg) c₃)
      (depois : Faz cfg true (c₃.marca refreshConnectionTick) c') (fim : c'.state = .connected)

theorem Rodada.antes {c₀ : Cliente} (h : Rodada cfg c c') (h₀ : Faz cfg true c₀ c) :
    Rodada cfg c₀ c' := by
  cases h with
  | faz h => exact .faz (h₀.trans h)
  | falha c₁ d antes init depois fim => exact .falha c₁ d (h₀.trans antes) init depois fim
  | liga c₁ c₂ c₃ d refresh antes init tentativa init' inscreve depois fim =>
      exact .liga c₁ c₂ c₃ d refresh (h₀.trans antes) init tentativa init' inscreve depois fim

theorem Rodada.depois {c'' : Cliente} (h : Rodada cfg c c') (h' : Faz cfg true c' c'')
    (hstate : c''.state = c'.state) : Rodada cfg c c'' := by
  cases h with
  | faz h => exact .faz (h.trans h')
  | falha c₁ d antes init depois fim =>
      exact .falha c₁ d antes init (depois.trans h') (hstate ▸ fim)
  | liga c₁ c₂ c₃ d refresh antes init tentativa init' inscreve depois fim =>
      exact .liga c₁ c₂ c₃ d refresh antes init tentativa init' inscreve (depois.trans h')
        (hstate.trans fim)

theorem Rodada.limpa (h : Rodada cfg c c') (hc : Limpa c.mqttState.connection) :
    Limpa c'.mqttState.connection := by
  cases h with
  | faz h => exact h.limpa hc
  | falha c₁ d antes init depois fim => exact depois.limpa (antes.limpa hc)
  | liga c₁ c₂ c₃ d refresh antes init tentativa init' inscreve depois fim =>
      exact depois.limpa (inscreve.limpa (tentativa.limpa (antes.limpa hc)))

theorem espMqttWrite_state : (espMqttWrite cfg c).2.state = c.state := by
  unfold espMqttWrite
  dsimp only
  split <;> rfl

theorem espMqttConnect_state : (espMqttConnect cfg c).2.state = c.state := by
  unfold espMqttConnect
  dsimp only
  split
  · rfl
  · generalize hr : espMqttWrite cfg _ = r
    have hstate : r.2.state = c.state := by
      rw [← hr, espMqttWrite_state]
      rfl
    split
    · exact hstate
    · split
      · exact hstate
      · split
        · exact hstate
        · split
          · exact hstate
          · split <;> exact hstate

theorem espMqttClientSubscribe_state (topic : List UInt8) (qos : ℕ) :
    (espMqttClientSubscribe cfg topic qos c).2.state = c.state := by
  unfold espMqttClientSubscribe
  split
  · rfl
  · split
    · rfl
    · dsimp only
      split
      · rfl
      · rw [mqttEnqueue_eq]
        split
        next => rfl
        next c₁ hmem =>
          split at hmem
          · rw [← Option.some.inj hmem]
            split <;> exact espMqttWrite_state
          · cases hmem

theorem espTransportConnect_faz :
    Faz cfg true (c.tenta (c.mundo.avancos.headD 0)) (espTransportConnect c) :=
  arruma_faz (c := c.tenta (c.mundo.avancos.headD 0))
    { c.mqttState with receptor := { c.mqttState.receptor with entrada := c.mundo.chega } }
    { c.mundo with avancos := c.mundo.avancos.tail } id nofun

theorem tentaConectar_rodada (hc : Limpa c.mqttState.connection) (hinit : c.state = .init) :
    Rodada cfg c (tentaConectar cfg c) := by
  have houtro : Faz cfg true c (espMqttDispatchEvent cfg .outro c) := evento_faz (by simp) (by simp)
  generalize hc₁ : espMqttDispatchEvent cfg .outro c = c₁ at houtro
  have hinit₁ : c₁.state = .init := by rw [← hc₁]; exact hinit
  have htry : Faz cfg true (c₁.tenta (c₁.mundo.avancos.headD 0)) (espTransportConnect c₁) :=
    espTransportConnect_faz
  have hstate : (espTransportConnect c₁).state = .init := hinit₁
  have hclean : Limpa (espTransportConnect c₁).mqttState.connection := houtro.limpa hc
  unfold tentaConectar
  rw [hc₁]
  generalize espTransportConnect c₁ = c₂ at *
  have hconnect : Faz cfg true c₂ (espMqttConnect cfg c₂).2 := espMqttConnect_faz hstate
  have hgave : ∀ c₃, Faz cfg true (c₁.tenta (c₁.mundo.avancos.headD 0)) c₃ →
      Rodada cfg c (espMqttAbortConnection cfg c₃) := fun c₃ h₃ =>
    .falha c₁ _ houtro hinit₁ (h₃.trans espMqttAbortConnection_faz) (by simp)
  dsimp only
  split
  · exact hgave _ (htry.trans (evento_faz (e := .error) (by simp) (by simp)))
  · split
    · exact hgave _ (htry.trans hconnect)
    · have hstate₃ : (espMqttConnect cfg c₂).2.state = .init := espMqttConnect_state.trans hstate
      have hclean₃ := hconnect.limpa hclean
      generalize (espMqttConnect cfg c₂).2 = c₃ at *
      have hsub : Faz cfg true (c₃.liga cfg) (despachaConnected cfg { c₃ with state := .connected }) :=
        espMqttClientSubscribe_faz (c := c₃.liga cfg) hclean₃ _ _
      have hconnected : (despachaConnected cfg { c₃ with state := .connected }).state = .connected :=
        espMqttClientSubscribe_state _ _
      generalize despachaConnected cfg { c₃ with state := .connected } = c₄ at *
      exact .liga c₁ c₃ _ _ (platformTickGetMs c₄).1 houtro hinit₁ (htry.trans hconnect) hstate₃
        ((hsub.trans platformTickGetMs_faz).trans platformTickGetMs_faz) .refl hconnected

theorem poll_faz (poll : Bool) : Faz cfg le c { c with poll } :=
  (Micro.arruma c.mqttState c.mundo poll c.lastRetransmit id fun _ => .refl _).faz

theorem espMqttTask_rodada (hc : Limpa c.mqttState.connection) :
    Rodada cfg c (espMqttTask cfg c) := by
  have hexpired : Faz cfg true c (mqttDeleteExpiredMessages c) := mqttDeleteExpiredMessages_faz
  have hclean := hexpired.limpa hc
  unfold espMqttTask
  dsimp only
  generalize mqttDeleteExpiredMessages c = c₀ at *
  suffices Rodada cfg c₀ _ from (this.antes hexpired).depois (poll_faz _) rfl
  split
  · exact .faz .refl
  next hinit => exact tentaConectar_rodada hclean hinit
  · generalize hr : c₀.comReceptor { c₀.mqttState.receptor with
      entrada := c₀.mqttState.receptor.entrada ++ c₀.mundo.chega } = c₁
    have hreceive : Faz cfg true c₀ (mqttProcessReceive cfg c₁).2 := by
      rw [← hr]
      exact (comReceptor_faz _).trans mqttProcessReceive_faz
    split
    · exact .faz (hreceive.trans espMqttAbortConnection_faz)
    · exact .faz (hreceive.trans voltaConectada_faz)
  next hwait => exact .faz (esperaReconectar_faz hwait)

/-! ## Runs -/

/-- An action that leaves no fragment behind: a packet that must be cut is also put away. -/
def Acao.Segura : Acao → Prop
  | .tarefa _ | .poll _ _ => True
  | .publica m p => p.Valido ∧ (m.memoria = true ∨ p.Curto)
  | .enfileira m p store =>
      p.Valido ∧ (m.memoria = true ∧ (0 < p.qos ∨ store = true) ∨ p.Curto)

theorem comMundo_faz (m : Mundo) : Faz cfg le c (c.comMundo m) :=
  arruma_faz
    { c.mqttState with receptor := { c.mqttState.receptor with leituras := m.leituras } } m id
    fun _ => ⟨rfl, rfl⟩

/-- An action other than a round. -/
theorem passo_faz {a : Acao} (ha : a.Segura) (hc : Limpa c.mqttState.connection)
    (htarefa : ∀ m, a ≠ .tarefa m) : Faz cfg le c (passo cfg a c) := by
  cases a with
  | tarefa m => exact absurd rfl (htarefa m)
  | poll m erro =>
      have hpoll : Faz cfg le c { c.comMundo m with poll := false } :=
        (comMundo_faz m).trans (poll_faz false)
      unfold passo
      dsimp only
      split
      · split
        · exact hpoll.trans espMqttAbortConnection_faz
        · exact hpoll
      · exact .refl
  | publica m p =>
      exact (comMundo_faz m).trans (espMqttClientPublish_faz (c := c.comMundo m) ha.1 hc ha.2)
  | enfileira m p store =>
      exact (comMundo_faz m).trans (espMqttClientEnqueue_faz (c := c.comMundo m) ha.1 hc ha.2)

theorem passo_tarefa (hpoll : c.poll = false) (m : Mundo) :
    passo cfg (.tarefa m) c = espMqttTask cfg (c.comMundo m) := by
  unfold passo
  dsimp only
  rw [hpoll, if_neg (by simp)]

/-- In its poll the task does no round. -/
theorem passo_tarefa_poll (hpoll : c.poll = true) (m : Mundo) : passo cfg (.tarefa m) c = c := by
  unfold passo
  dsimp only
  rw [if_pos hpoll]

theorem passo_rodada {a : Acao} (ha : a.Segura) (hc : Limpa c.mqttState.connection) :
    Rodada cfg c (passo cfg a c) := by
  cases a with
  | tarefa m =>
      by_cases hpoll : c.poll = true
      · rw [passo_tarefa_poll hpoll]
        exact .faz .refl
      · rw [passo_tarefa (Bool.not_eq_true _ ▸ hpoll)]
        exact (espMqttTask_rodada (c := c.comMundo m) hc).antes (comMundo_faz m)
  | _ => exact .faz (passo_faz ha hc nofun)

/-- **What every round and every call keeps, every run keeps.** -/
theorem corre_induz {P : Cliente → Prop}
    (hP : ∀ {c c'}, Rodada cfg c c' → P c → P c') {as : List Acao}
    (has : ∀ a ∈ as, a.Segura) (hc : Limpa c.mqttState.connection) (h : P c) :
    P (corre cfg as c) := by
  induction as generalizing c with
  | nil => exact h
  | cons a as ih =>
      have hstep : Rodada cfg c (passo cfg a c) := passo_rodada (has a (by simp)) hc
      exact ih (fun b hb => has b (by simp [hb])) (hstep.limpa hc) (hP hstep h)

end HidroControl.EspMqtt
