import HidroControl.EspMqtt.Rounds

/-!
# The offset over whole runs

`fini_message` moves the offset of the fragments down with every packet it closes, and
only a publication on a connection sets it back. No action closes more than three packets
(`passo_fechou`), unless it has to cut one; so a run of short requests keeps the offset in
the range in which `esp_mqtt_client_publish` reckons right (`corre_recuo`).
-/

namespace HidroControl.EspMqtt

variable {cfg : Config} {c c' c'' : Cliente} {n n' : ℕ}

/-- `fragmented_msg_data_offset` -/
def Cliente.offset (c : Cliente) : UInt32 :=
  c.mqttState.connection.outboundMessage.fragmentedMsgDataOffset

/-- At most `n` packets have been closed. -/
def Fechou (n : ℕ) (c c' : Cliente) : Prop :=
  Limpa c.mqttState.connection →
    Limpa c'.mqttState.connection ∧ ∀ b, Recuo c.offset b → Recuo c'.offset (b + 3 * n)

theorem Fechou.trans (h : Fechou n c c') (h' : Fechou n' c' c'') : Fechou (n + n') c c'' := by
  intro hc
  obtain ⟨hc', hoff⟩ := h hc
  obtain ⟨hc'', hoff'⟩ := h' hc'
  refine ⟨hc'', fun b hb => ?_⟩
  have := hoff' _ (hoff b hb)
  rwa [Nat.add_assoc, ← Nat.mul_add] at this

theorem Fechou.mono (h : Fechou n c c') (hn : n ≤ n') : Fechou n' c c' := by
  intro hc
  obtain ⟨hc', hoff⟩ := h hc
  exact ⟨hc', fun b hb => (hoff b hb).mono (Nat.add_le_add_left (Nat.mul_le_mul_left 3 hn) b)⟩

/-- The offset stays, or is set back. -/
theorem fechou_zero (hlimpa : Limpa c.mqttState.connection → Limpa c'.mqttState.connection)
    (hoff : c'.offset = c.offset ∨ c'.offset = 0) : Fechou 0 c c' := by
  refine fun hc => ⟨hlimpa hc, fun b hb => ?_⟩
  rcases hoff with h | h
  · exact h ▸ hb
  · exact ⟨0, Nat.zero_le _, h⟩

theorem fechou_of_eq (h : c'.mqttState.connection = c.mqttState.connection) : Fechou 0 c c' :=
  fechou_zero (fun hc => h ▸ hc) (Or.inl (congrArg (·.outboundMessage.fragmentedMsgDataOffset) h))

theorem fechou_of_fecha (h : Limpa c.mqttState.connection →
    Fecha c.mqttState.connection c'.mqttState.connection) : Fechou 1 c c' :=
  fun hc => ⟨(h hc).limpa hc, fun _ hb => (h hc).recuo hb⟩

theorem Fechou.zero (h : Fechou n c c') (h' : Fechou 0 c' c'') : Fechou n c c'' := h.trans h'

theorem Fechou.antes (h : Fechou n c' c'')
    (heq : c'.mqttState.connection = c.mqttState.connection) : Fechou n c c'' := by
  have := (fechou_of_eq heq).trans h
  rwa [Nat.zero_add] at this

theorem Fechou.depois (h : Fechou n c c')
    (heq : c''.mqttState.connection = c'.mqttState.connection) : Fechou n c c'' :=
  h.zero (fechou_of_eq heq)

theorem limpa_fechou : Fechou 0 c c.limpa :=
  fechou_zero (fun hc => ⟨⟨rfl, hc.buffer⟩, hc.minimo⟩) (Or.inl rfl)

/-! ## The parts of a round -/

@[simp] theorem espMqttWrite_mqttState : (espMqttWrite cfg c).2.mqttState = c.mqttState := by
  unfold espMqttWrite
  dsimp only
  split <;> rfl

theorem espMqttWrite_fechou : Fechou 0 c (espMqttWrite cfg c).2 :=
  fechou_of_eq (by rw [espMqttWrite_mqttState])

theorem espMqttAbortConnection_fechou : Fechou 0 c (espMqttAbortConnection cfg c) :=
  fechou_of_eq rfl

theorem escreveOuAborta_fechou : Fechou 0 c (escreveOuAborta cfg c).2 := by
  unfold escreveOuAborta
  dsimp only
  split
  · exact espMqttWrite_fechou.zero espMqttAbortConnection_fechou
  · exact espMqttWrite_fechou

theorem comConexao_fechou {m : MqttConnection}
    (h : Limpa c.mqttState.connection → Fecha c.mqttState.connection m) :
    Fechou 1 c (c.comConexao m) :=
  fechou_of_fecha h

theorem comPendente_fechou (id : UInt16) (tipo : Option MqttMessageType) (qos : ℕ) :
    Fechou 0 c (c.comPendente id tipo qos) :=
  fechou_of_eq rfl

theorem espMqttClientSubscribe_fechou (topic : List UInt8) (qos : ℕ) :
    Fechou 1 c (espMqttClientSubscribe cfg topic qos c).2 := by
  have hnone : Fechou 1 c c := (fechou_of_eq rfl).mono (Nat.zero_le 1)
  unfold espMqttClientSubscribe
  split
  · exact hnone
  · split
    · exact hnone
    · generalize hr : mqttMsgSubscribe c.mundo.sorteio [{ filter := topic, qos }]
        c.mqttState.connection = r
      have hpending : ∀ id tipo qos, Fechou 1 c ((c.comConexao r.2).comPendente id tipo qos) :=
        fun id tipo qos => fechou_of_fecha fun hc => hr ▸ mqttMsgSubscribe_fecha hc _ _
      dsimp only
      split
      · exact hpending _ _ _
      · rw [mqttEnqueue_eq]
        split
        next => exact hpending _ _ _
        next c₁ hmem =>
          have hsame : c₁.mqttState.connection = r.2 := by
            split at hmem
            · rw [← Option.some.inj hmem]
              rfl
            · cases hmem
          have hstored : Fechou 1 c { c₁ with
              outbox := outboxSetPending c₁.outbox c₁.mqttState.pendingMsgId .transmitted } := by
            apply fechou_of_fecha
            intro hc
            have hfecha := mqttMsgSubscribe_fecha hc c.mundo.sorteio [{ filter := topic, qos }]
            rwa [hr, ← hsame] at hfecha
          split
          · exact hstored.zero espMqttWrite_fechou
          · exact hstored.zero espMqttWrite_fechou

theorem espMqttClientPing_fechou : Fechou 1 c (espMqttClientPing cfg c).2 := by
  have hping : Fechou 1 c (c.comConexao (mqttMsgPingreq c.mqttState.connection)) :=
    comConexao_fechou fun hc => finiMessage_fecha hc _ _ _ _ _
  unfold espMqttClientPing
  dsimp only
  split
  · exact hping
  · exact hping.zero espMqttWrite_fechou

theorem processKeepalive_fechou : Fechou 1 c (processKeepalive cfg c).2 := by
  have htick : Fechou 0 c (platformTickGetMs c).2 := fechou_of_eq rfl
  have hidle : Fechou 1 c (platformTickGetMs c).2 := htick.mono (Nat.zero_le 1)
  unfold processKeepalive
  dsimp only
  split
  · split
    · split
      · exact hidle.depois rfl
      · exact hidle
    · split
      · have hping : Fechou 1 c (espMqttClientPing cfg (platformTickGetMs c).2).2 :=
          htick.trans espMqttClientPing_fechou
        split
        · exact hping.zero espMqttAbortConnection_fechou
        · exact hping.depois rfl
      · exact hidle
  · exact (fechou_of_eq rfl).mono (Nat.zero_le 1)

theorem espMqttConnect_fechou : Fechou 1 c (espMqttConnect cfg c).2 := by
  have hconn : Fechou 1 c (({ c with waitForPingResp := false } : Cliente).comConexao
      (mqttMsgConnect cfg.information c.mqttState.connection)) :=
    fechou_of_fecha fun hc => mqttMsgConnect_fecha hc _
  unfold espMqttConnect
  dsimp only
  split
  · exact hconn
  · generalize hr : espMqttWrite cfg _ = r
    have hwrite : Fechou 1 c r.2 := by
      rw [← hr]
      exact (hconn.zero (comPendente_fechou _ _ _)).zero espMqttWrite_fechou
    split
    · exact hwrite
    · split
      · exact hwrite.depois rfl
      · split
        · exact hwrite.depois rfl
        · split
          · exact hwrite.depois rfl
          · split <;> exact hwrite.depois rfl

theorem tentaConectar_fechou : Fechou 2 c (tentaConectar cfg c) := by
  have hstart : (espTransportConnect (espMqttDispatchEvent cfg .outro c)).mqttState.connection =
      c.mqttState.connection := rfl
  unfold tentaConectar
  generalize espTransportConnect (espMqttDispatchEvent cfg .outro c) = c₁ at *
  have hconnect : Fechou 1 c (espMqttConnect cfg c₁).2 := espMqttConnect_fechou.antes hstart
  dsimp only
  split
  · exact (fechou_of_eq hstart).mono (Nat.zero_le 2)
  · generalize espMqttConnect cfg c₁ = r at hconnect
    split
    · exact (hconnect.zero espMqttAbortConnection_fechou).mono (by decide)
    · have hsub : Fechou 1 r.2 (despachaConnected cfg { r.2 with state := .connected }) :=
        (espMqttClientSubscribe_fechou _ _).antes rfl
      exact (hconnect.trans hsub).depois rfl

/-! ### What the broker sends -/

theorem entrega_fechou (fuel falta : ℕ) (topic : Option (List UInt8)) (data : List UInt8) :
    Fechou 0 c (entrega cfg fuel falta topic data c).2 := by
  induction fuel generalizing falta topic data c with
  | zero => exact fechou_of_eq rfl
  | succ fuel ih =>
      unfold entrega
      dsimp only
      split
      · exact fechou_of_eq rfl
      · split
        · split <;> exact fechou_of_eq rfl
        · exact (ih _ _ _).antes rfl

theorem deliverPublish_fechou : Fechou 0 c (deliverPublish cfg c).2 := by
  unfold deliverPublish
  dsimp only
  split
  · exact fechou_of_eq rfl
  · exact entrega_fechou _ _ _ _

theorem deliverSuback_fechou : Fechou 0 c (deliverSuback cfg c).2 := by
  unfold deliverSuback
  dsimp only
  split <;> exact fechou_of_eq rfl

theorem respondePublish_fechou (qos : ℕ) (msgId : UInt16) :
    Fechou 1 c (respondePublish cfg qos msgId c).2 := by
  unfold respondePublish
  split
  · generalize hm : (if qos = 1 then mqttMsgPuback c.mundo.sorteio msgId c.mqttState.connection
      else mqttMsgPubrec c.mundo.sorteio msgId c.mqttState.connection) = m
    have hconn : Fechou 1 c (c.comConexao m) := by
      apply comConexao_fechou
      intro hc
      rw [← hm]
      split <;> exact mqttMsgAck_fecha hc _ _ _ _
    dsimp only
    split
    · exact hconn
    · exact hconn.zero espMqttWrite_fechou
  · exact (fechou_of_eq rfl).mono (Nat.zero_le 1)

theorem respondeSemOlhar_fechou {m : MqttConnection} {f : Cliente → Cliente}
    (hm : Limpa c.mqttState.connection → Fecha c.mqttState.connection m)
    (hf : ∀ c, (f c).mqttState = c.mqttState) :
    Fechou 1 c (respondeSemOlhar cfg m f c).2 := by
  have hconn : Fechou 1 c (c.comConexao m) := comConexao_fechou hm
  unfold respondeSemOlhar
  dsimp only
  split
  · exact hconn
  · exact (hconn.zero (fechou_of_eq (congrArg _ (hf _)))).zero espMqttWrite_fechou

theorem removeInitiatorMessage_fechou (msgType : MqttMessageType) (msgId : UInt16)
    {f : Cliente → Res} (hf : ∀ c, Fechou 0 c (f c).2) :
    Fechou 0 c (removeInitiatorMessage msgType msgId f c).2 := by
  unfold removeInitiatorMessage
  split
  · exact fechou_of_eq rfl
  · exact (hf _).antes rfl

theorem trataMensagem_fechou (msgType : Option MqttMessageType) (msgQos : ℕ) (msgId : UInt16) :
    Fechou 1 c (trataMensagem cfg msgType msgQos msgId c).2 := by
  have hremove : ∀ (tipo : MqttMessageType) (f : Cliente → Res), (∀ c, Fechou 0 c (f c).2) →
      Fechou 1 c (removeInitiatorMessage tipo msgId f c).2 := fun tipo f hf =>
    (removeInitiatorMessage_fechou tipo msgId hf).mono (Nat.zero_le 1)
  have hevent : ∀ (e : EventoMqtt) (c : Cliente), Fechou 0 c (espMqttDispatchEvent cfg e c) :=
    fun e c => fechou_of_eq rfl
  unfold trataMensagem
  split
  · exact hremove _ _ fun _ => deliverSuback_fechou
  · exact hremove _ _ (hevent .outro)
  · dsimp only
    split
    · exact deliverPublish_fechou.mono (Nat.zero_le 1)
    · exact deliverPublish_fechou.trans (respondePublish_fechou _ _)
  · exact hremove _ _ (hevent .published)
  · exact hremove _ _ (hevent .published)
  · exact respondeSemOlhar_fechou (fun hc => mqttMsgAck_fecha hc _ _ _ _) fun _ => rfl
  · exact respondeSemOlhar_fechou (fun hc => mqttMsgAck_fecha hc _ _ _ _) fun _ => rfl
  · exact (fechou_of_eq rfl).mono (Nat.zero_le 1)
  · exact (fechou_of_eq rfl).mono (Nat.zero_le 1)

theorem mqttProcessReceive_fechou : Fechou 1 c (mqttProcessReceive cfg c).2 := by
  have hread : ∀ r, Fechou 0 c (c.comReceptor r) := fun r => fechou_of_eq rfl
  unfold mqttProcessReceive
  dsimp only
  split
  · exact (hread _).mono (Nat.zero_le 1)
  · exact (hread _).mono (Nat.zero_le 1)
  · exact ((hread _).depois rfl).mono (Nat.zero_le 1)
  · unfold processaMensagem
    dsimp only
    generalize hr : trataMensagem cfg _ _ _ _ = r
    have hmessage : Fechou 1 c r.2 := by
      rw [← hr]
      exact (trataMensagem_fechou _ _ _).antes rfl
    split
    · exact hmessage
    · exact hmessage.depois rfl

/-! ### Sending again -/

theorem mqttResendQueued_fechou (item : ℕ) (x : OutboxItem) :
    Fechou 0 c (mqttResendQueued cfg item x c).2 := by
  have hset : ∀ data, Fechou 0 c ((c.pega x).comOutbound data) := fun data =>
    fechou_zero (fun hc => ⟨⟨hc.total, hc.buffer⟩, hc.minimo⟩) (Or.inl rfl)
  unfold mqttResendQueued
  dsimp only
  split
  · exact (hset (mqttSetDup x.buffer)).zero (escreveOuAborta_fechou.antes rfl)
  · exact (hset x.buffer).zero (escreveOuAborta_fechou.antes rfl)

theorem mqttResendPubrel_fechou (item : ℕ) (x : OutboxItem) :
    Fechou 1 c (mqttResendPubrel cfg item x c).2 := by
  have hset : Fechou 0 c (c.pega x) :=
    fechou_zero (fun hc => ⟨⟨hc.total, hc.buffer⟩, hc.minimo⟩) (Or.inl rfl)
  have hack := hset.trans (comConexao_fechou (c := c.pega x)
    (m := mqttMsgPubrel c.mundo.sorteio x.msgId (c.pega x).mqttState.connection)
    fun hc => mqttMsgAck_fecha hc _ _ _ _)
  unfold mqttResendPubrel
  dsimp only
  split
  · exact hack
  · exact hack.zero escreveOuAborta_fechou

theorem aposReenvio_fechou (item : ℕ) (x : OutboxItem) : Fechou 0 c (aposReenvio item x c) := by
  unfold aposReenvio
  dsimp only
  split <;> split <;> exact fechou_of_eq rfl

theorem reenviaAntiga_fechou (pending : PendingState) {f : ℕ → OutboxItem → Cliente → Res}
    (hf : ∀ item x, Fechou n c (f item x c).2) :
    Fechou n c (reenviaAntiga cfg pending f c) := by
  have hnone : Fechou n c c := (fechou_of_eq rfl).mono (Nat.zero_le n)
  unfold reenviaAntiga
  split
  · exact hnone
  · split
    · exact hf _ _
    · exact hnone

theorem reenvia_fechou : Fechou 1 c (reenvia cfg c) := by
  unfold reenvia
  split
  next item x _ =>
    have hsent : Fechou 1 c (mqttResendQueued cfg item x c).2 :=
      (mqttResendQueued_fechou item x).mono (Nat.zero_le 1)
    dsimp only
    split
    · exact hsent.zero (aposReenvio_fechou item x)
    · exact hsent
  next =>
    dsimp only
    split
    · have hagain : Fechou 0 c { (platformTickGetMs (platformTickGetMs c).2).2 with
          lastRetransmit := (platformTickGetMs (platformTickGetMs c).2).1 } := fechou_of_eq rfl
      exact (hagain.zero (reenviaAntiga_fechou _ mqttResendQueued_fechou)).trans
        (reenviaAntiga_fechou _ mqttResendPubrel_fechou)
    · exact (fechou_of_eq rfl).mono (Nat.zero_le 1)

theorem voltaConectada_fechou : Fechou 2 c (voltaConectada cfg c) := by
  have hfirst : Fechou 0 c (primeiraVez c) := by
    unfold primeiraVez
    split <;> exact fechou_of_eq rfl
  have hkeep : Fechou 2 c (processKeepalive cfg (reenvia cfg (primeiraVez c))).2 :=
    (hfirst.trans reenvia_fechou).trans processKeepalive_fechou
  unfold voltaConectada
  dsimp only
  split
  · exact hkeep
  · split
    · split <;> exact hkeep.depois rfl
    · exact hkeep

theorem espMqttTask_fechou : Fechou 3 c (espMqttTask cfg c) := by
  have hexpired : Fechou 0 c (mqttDeleteExpiredMessages c) := fechou_of_eq rfl
  unfold espMqttTask
  dsimp only
  generalize mqttDeleteExpiredMessages c = c₀ at *
  have hpoll : ∀ c₁ : Cliente, Fechou 3 c₀ c₁ →
      Fechou 3 c { c₁ with poll := decide (c₁.state = .connected) } := fun c₁ h =>
    (hexpired.trans h).depois rfl
  refine hpoll _ ?_
  split
  · exact (fechou_of_eq rfl).mono (Nat.zero_le 3)
  · exact tentaConectar_fechou.mono (by decide)
  · generalize hr : mqttProcessReceive cfg _ = r
    have hreceive : Fechou 1 c₀ r.2 := by
      rw [← hr]
      exact mqttProcessReceive_fechou.antes rfl
    split
    · exact (hreceive.zero espMqttAbortConnection_fechou).mono (by decide)
    · exact hreceive.trans voltaConectada_fechou
  · unfold esperaReconectar
    dsimp only
    split <;> exact (fechou_of_eq rfl).mono (Nat.zero_le 3)

/-! ## Publishing -/

theorem publicaLoop_fechou (fuel : ℕ) (remaining : ℤ) (dados : List UInt8) :
    Fechou 0 c (publicaLoop cfg fuel remaining dados c).2 := by
  induction fuel generalizing remaining dados c with
  | zero => exact fechou_of_eq rfl
  | succ fuel ih =>
      have hwrite : Fechou 0 c (espMqttWrite cfg c).2 := espMqttWrite_fechou
      have hback : Fechou 0 c (espMqttWrite cfg c).2.semOffset.limpa :=
        hwrite.zero (fechou_zero (fun hc => ⟨⟨rfl, hc.buffer⟩, hc.minimo⟩) (Or.inr rfl))
      have hnext : ∀ data, Fechou 0 c ((espMqttWrite cfg c).2.semOffset.limpa.comOutbound data) :=
        fun data => hback.zero
          (fechou_zero (fun hc => ⟨⟨hc.total, hc.buffer⟩, hc.minimo⟩) (Or.inl rfl))
      unfold publicaLoop
      dsimp only
      split
      · exact hwrite.zero espMqttAbortConnection_fechou
      · split
        · exact (hnext _).zero (ih _ _)
        · exact hback

section Curto

variable {p : Pedido}

/-- A short request closes one packet, whether it is put away or not. -/
theorem mqttClientEnqueuePublish_fechou (hp : p.Valido) (hcurto : p.Curto) (store : Bool) :
    Fechou 1 c (mqttClientEnqueuePublish p store c).2 := by
  apply fechou_of_fecha
  intro hc
  rcases mqttClientEnqueuePublish_cases hp store hc.toSemFragmento with
    ⟨c₁, heq, -, hfecha⟩ | ⟨pk, n, c₁, hpack, heq, hcorte, hlength, -⟩
  · rw [heq]
    exact hfecha (Or.inr hcurto) hc
  · rw [heq]
    exact hcorte.fecha hpack hlength hc.minimo hcurto

/-- From the loop of `esp_mqtt_client_publish` on. -/
theorem publicada_fechou {id : UInt16} {w : Res} (h : Fechou n c w.2) :
    Fechou n c (if w.1 ≠ .ok then (-1, w.2.limpa)
      else if 0 < p.qos then
        ((id.toNat : ℤ), { (platformTickGetMs w.2).2 with
          outbox := outboxSetPending
            (outboxSetTick (platformTickGetMs w.2).2.outbox id (platformTickGetMs w.2).1) id
            .transmitted })
      else ((id.toNat : ℤ), w.2)).2 := by
  split
  · exact h.zero limpa_fechou
  · split
    · exact h.depois rfl
    · exact h

theorem espMqttClientPublish_fechou (hp : p.Valido) (hcurto : p.Curto) :
    Fechou 1 c (espMqttClientPublish cfg p c).2 := by
  have hmade : Fechou 1 c (mqttClientEnqueuePublish p false c).2 :=
    mqttClientEnqueuePublish_fechou hp hcurto false
  unfold espMqttClientPublish
  split
  · exact (fechou_of_eq rfl).mono (Nat.zero_le 1)
  · generalize mqttClientEnqueuePublish p false c = r at hmade
    dsimp only
    split
    · exact hmade
    · split
      · exact hmade.zero limpa_fechou
      · exact publicada_fechou (hmade.zero (publicaLoop_fechou _ _ _))

theorem espMqttClientEnqueue_fechou (hp : p.Valido) (hcurto : p.Curto) (store : Bool) :
    Fechou 1 c (espMqttClientEnqueue cfg p store c).2 := by
  have hmade : Fechou 1 c (mqttClientEnqueuePublish p store c).2 :=
    mqttClientEnqueuePublish_fechou hp hcurto store
  unfold espMqttClientEnqueue
  split
  · exact (fechou_of_eq rfl).mono (Nat.zero_le 1)
  · generalize mqttClientEnqueuePublish p store c = r at hmade
    dsimp only
    split
    · exact hmade
    · exact hmade

end Curto

/-! ## Runs -/

/-- An action whose request, if it has one, is never cut. -/
def Acao.Curta : Acao → Prop
  | .tarefa _ | .poll _ _ => True
  | .publica _ p | .enfileira _ p _ => p.Valido ∧ p.Curto

theorem passo_fechou {a : Acao} (ha : a.Curta) : Fechou 3 c (passo cfg a c) := by
  have hmundo : ∀ m, (c.comMundo m).mqttState.connection = c.mqttState.connection := fun _ => rfl
  cases a with
  | tarefa m =>
      unfold passo
      dsimp only
      split
      · exact (fechou_of_eq rfl).mono (Nat.zero_le 3)
      · exact espMqttTask_fechou.antes (hmundo m)
  | poll m erro =>
      unfold passo
      dsimp only
      split
      · split <;> exact (fechou_of_eq rfl).mono (Nat.zero_le 3)
      · exact (fechou_of_eq rfl).mono (Nat.zero_le 3)
  | publica m p =>
      have hcall : Fechou 1 (c.comMundo m) (espMqttClientPublish cfg p (c.comMundo m)).2 :=
        espMqttClientPublish_fechou ha.1 ha.2
      exact (hcall.antes (hmundo m)).mono (by decide)
  | enfileira m p store =>
      have hcall : Fechou 1 (c.comMundo m) (espMqttClientEnqueue cfg p store (c.comMundo m)).2 :=
        espMqttClientEnqueue_fechou ha.1 ha.2 store
      exact (hcall.antes (hmundo m)).mono (by decide)

theorem corre_fechou {as : List Acao} (has : ∀ a ∈ as, a.Curta) :
    Fechou (3 * as.length) c (corre cfg as c) := by
  induction as generalizing c with
  | nil => exact fechou_of_eq rfl
  | cons a as ih =>
      have hfirst : Fechou 3 c (passo cfg a c) := passo_fechou (has a (by simp))
      have hrest := ih (c := passo cfg a c) fun b hb => has b (by simp [hb])
      have hlength : 3 * (a :: as).length = 3 + 3 * as.length := by
        rw [List.length_cons]
        omega
      rw [hlength]
      exact hfirst.trans hrest

/-- **In a run of short requests** no fragment is ever pending, and the offset goes down by
no more than nine an action. -/
theorem corre_recuo {as : List Acao} (has : ∀ a ∈ as, a.Curta)
    (hc : Limpa c.mqttState.connection) {b : ℕ} (hoff : Recuo c.offset b)
    (hb : b + 9 * as.length ≤ 2 ^ 30) :
    Limpa (corre cfg as c).mqttState.connection ∧ Recuo (corre cfg as c).offset (2 ^ 30) := by
  obtain ⟨hclean, hrecuo⟩ := corre_fechou has hc
  exact ⟨hclean, (hrecuo b hoff).mono (by omega)⟩

end HidroControl.EspMqtt
