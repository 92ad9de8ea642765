import HidroControl.EspMqtt.Publication
import Mathlib.Logic.Relation

/-!
# What the client can do

Every round of the client's task and every call of its interface is a chain of small
steps (`Micro`): time passes, bytes go out, an event is handed to the firmware, a
message comes into the outbox, is touched there, or goes out of it for one of its
reasons. Each function's chain is found once (`…_faz`); what holds along every chain
is then a matter of one step at a time.
-/

namespace HidroControl.EspMqtt

open Wire CText

/-! ## Messages in the outbox -/

/-- The item is one whole packet of its type, with its id. -/
inductive Carta (x : OutboxItem) : Prop
  | publish (pk : PacotePublish) (bytes : x.buffer = pk.bytes) (tipo : x.msgType = some .publish)
      (qos : pk.qos = x.msgQos) (id : pk.id = x.msgId)
  | subscribe (q : Quadro) (bytes : x.buffer = q.bytes) (tipo : x.msgType = some .subscribe)
      (tipoNoFio : mqttGetType [q.h] = some .subscribe)
      (id : ∃ resto, q.body = be16 x.msgId.toNat ++ resto)

/-- What may be changed in an item at time `t`. -/
inductive Retoca (t : ℕ) (x : OutboxItem) : OutboxItem → Prop
  | transmitida : Retoca t x { x with pending := .transmitted }
  | reconhecida : Retoca t x { x with pending := .acknowledged }
  | tick : Retoca t x { x with tick := t }
  | repetida (tipo : x.msgType = some .publish) (qos : 0 < x.msgQos) :
      Retoca t x { x with buffer := mqttSetDup x.buffer }

/-- `tipo` is the type of the packet that answers messages of type `msgType`. -/
inductive Responde : Option MqttMessageType → Option MqttMessageType → Prop
  | puback : Responde (some .puback) (some .publish)
  | pubcomp : Responde (some .pubcomp) (some .publish)
  | suback : Responde (some .suback) (some .subscribe)
  | unsuback : Responde (some .unsuback) (some .unsubscribe)

/-! ## Steps -/

/-- The same bytes in the buffer, and the same to come. -/
structure MesmoFluxo (r r' : Receptor) : Prop where
  inBuffer : r'.inBuffer = r.inBuffer
  entrada : r'.entrada = r.entrada

theorem MesmoFluxo.refl (r : Receptor) : MesmoFluxo r r := ⟨rfl, rfl⟩

/-- One small step; only with `le` is it a step of reading what the broker sends. -/
inductive Micro (cfg : Config) (le : Bool) (c : Cliente) : Cliente → Prop
  /-- What is the client's own business. -/
  | arruma (mqttState : MqttState) (mundo : Mundo) (poll : Bool) (lastRetransmit : ℕ)
      (limpa : Limpa c.mqttState.connection → Limpa mqttState.connection)
      (parado : le = false → MesmoFluxo c.mqttState.receptor mqttState.receptor) :
      Micro cfg le c { c with mqttState, mundo, poll, lastRetransmit }
  | espera (waitForPingResp : Bool) (h : waitForPingResp = true ∨ c.state ≠ .connected) :
      Micro cfg le c { c with waitForPingResp }
  | tempo (d : ℕ) : Micro cfg le c { c with relogio := c.relogio + d }
  | escreve (bytes : List UInt8) : Micro cfg le c { c with saida := c.saida ++ bytes }
  | evento (e : EventoMqtt) (ne : e ≠ .connected)
      (parado : le = false → ∀ dados, e ≠ .data dados) : Micro cfg le c (espMqttDispatchEvent cfg e c)
  | aborta (receptor : Receptor) : Micro cfg le c
      (espMqttDispatchEvent cfg .disconnected
        { c with
          mqttState := { c.mqttState with receptor }
          state := .waitReconnect
          waitTimeoutMs := cfg.reconnectTimeoutMs
          reconnectTick := c.relogio
          waitForPingResp := false })
  | recomeca (d : ℕ) (espera : c.state = .waitReconnect)
      (passou : c.waitTimeoutMs < c.relogio - c.reconnectTick) :
      Micro cfg le c
        { c with
          state := .init
          relogio := c.relogio + d
          reconnectTick := c.relogio + d }
  | renova (refresh : cfg.refreshConnectionAfterMs ≠ 0) (espera : c.state = .waitReconnect) :
      Micro cfg le c { c with state := .init }
  | recebe (lendo : le = true) (tipo : Option MqttMessageType) (id : UInt16) :
      Micro cfg le c { c with recebidos := (tipo, id) :: c.recebidos }
  | pong (lendo : le = true) (id : UInt16) (d : ℕ) : Micro cfg le c
      { c with
        recebidos := (some .pingresp, id) :: c.recebidos
        relogio := c.relogio + d
        waitForPingResp := false
        keepaliveTick := c.relogio + d }
  | poe (x : OutboxItem) (mqttState : MqttState) (carta : Carta x) (tick : x.tick = c.relogio)
      (limpa : Limpa mqttState.connection)
      (parado : MesmoFluxo c.mqttState.receptor mqttState.receptor) :
      Micro cfg le c
        { c with mqttState, outbox := c.outbox.insere x, postas := x.chave :: c.postas }
  | retoca (l₁ l₂ : List OutboxItem) (x y : OutboxItem) (lista : c.outbox.list = l₁ ++ x :: l₂)
      (retoca : Retoca c.relogio x y) :
      Micro cfg le c { c with outbox := { c.outbox with list := l₁ ++ y :: l₂ } }
  | responde (lendo : le = true) (x : OutboxItem) (outbox : Outbox)
      (tipo : Option MqttMessageType) (tira : Tira x c.outbox outbox) (responde : Responde tipo x.msgType) :
      Micro cfg le c { c with outbox, recebidos := (tipo, x.msgId) :: c.recebidos }
  | expira : Micro cfg le c
      { c with outbox := (outboxDeleteExpired c.outbox c.relogio outboxExpiredTimeoutMs).2 }
  | descarta (x : OutboxItem) (outbox : Outbox) (tira : Tira x c.outbox outbox)
      (tipo : x.msgType = some .publish) (qos : x.msgQos = 0) : Micro cfg le c { c with outbox }

abbrev Faz (cfg : Config) (le : Bool) : Cliente → Cliente → Prop :=
  Relation.ReflTransGen (Micro cfg le)

variable {cfg : Config} {le : Bool} {c c' : Cliente}

theorem Micro.faz (h : Micro cfg le c c') : Faz cfg le c c' := .single h

theorem Micro.limpa (h : Micro cfg le c c') (hc : Limpa c.mqttState.connection) :
    Limpa c'.mqttState.connection := by
  cases h with
  | arruma _ _ _ _ limpa => exact limpa hc
  | poe _ _ _ _ limpa => exact limpa
  | _ => exact hc

theorem Faz.limpa (h : Faz cfg le c c') (hc : Limpa c.mqttState.connection) :
    Limpa c'.mqttState.connection := by
  induction h with
  | refl => exact hc
  | tail _ hstep ih => exact hstep.limpa ih

/-! ## The parts of the functions -/

/-- The client's own business. -/
theorem arruma_faz (mqttState : MqttState) (mundo : Mundo)
    (h : Limpa c.mqttState.connection → Limpa mqttState.connection)
    (hr : le = false → MesmoFluxo c.mqttState.receptor mqttState.receptor) :
    Faz cfg le c { c with mqttState, mundo } :=
  (Micro.arruma mqttState mundo c.poll c.lastRetransmit h hr).faz

theorem mundo_faz (mundo : Mundo) : Faz cfg le c { c with mundo } :=
  arruma_faz c.mqttState mundo id fun _ => .refl _

theorem comReceptor_faz (r : Receptor) : Faz cfg true c (c.comReceptor r) :=
  arruma_faz { c.mqttState with receptor := r } c.mundo id nofun

theorem platformTickGetMs_faz : Faz cfg le c (platformTickGetMs c).2 :=
  (Micro.tempo (c.mundo.avancos.headD 0)).faz.trans
    (mundo_faz { c.mundo with avancos := c.mundo.avancos.tail })

theorem evento_faz {e : EventoMqtt} (he : e ≠ .connected) (hdata : ∀ dados, e ≠ .data dados) :
    Faz cfg le c (espMqttDispatchEvent cfg e c) :=
  (Micro.evento e he fun _ => hdata).faz

theorem espMqttWrite_faz : Faz cfg le c (espMqttWrite cfg c).2 := by
  have hout : Faz cfg le c
      { c with
        saida := c.saida ++ (escreve c.mundo.escritas c.outbound).2.1
        mundo := { c.mundo with escritas := (escreve c.mundo.escritas c.outbound).2.2 } } :=
    (Micro.escreve (escreve c.mundo.escritas c.outbound).2.1).faz.trans
      (mundo_faz { c.mundo with escritas := (escreve c.mundo.escritas c.outbound).2.2 })
  unfold espMqttWrite
  dsimp only
  split
  · exact hout.trans (evento_faz (e := .error) (by simp) (by simp))
  · exact hout

@[simp] theorem espMqttAbortConnection_state :
    (espMqttAbortConnection cfg c).state = .waitReconnect := rfl

theorem espMqttAbortConnection_faz : Faz cfg le c (espMqttAbortConnection cfg c) :=
  ((Micro.tempo (c.mundo.avancos.headD 0)).faz.trans
    (mundo_faz { c.mundo with avancos := c.mundo.avancos.tail, escritas := [] })).trans
    (Micro.aborta { c.mqttState.receptor with entrada := [], leituras := [] }).faz

theorem poe_faz {x : OutboxItem} (mqttState : MqttState) (carta : Carta x)
    (tick : x.tick = c.relogio) (limpa : Limpa mqttState.connection)
    (parado : MesmoFluxo c.mqttState.receptor mqttState.receptor) :
    Faz cfg le c
      { c with mqttState, outbox := c.outbox.insere x, postas := x.chave :: c.postas } :=
  (Micro.poe x mqttState carta tick limpa parado).faz

/-! ## Writers of packets -/

section Fecha

variable {m : MqttConnection}

/-- A message that is closed, or that was too long. -/
theorem finiMessage_cases (hm : Limpa m) (corpo : List UInt8) (type : MqttMessageType)
    (dup qos retain : ℕ) :
    finiMessage m corpo type dup qos retain = failMessage m ∨
      (encode corpo.length).length ≤ 4 ∧ ∃ k ≤ 3,
        finiMessage m corpo type dup qos retain =
          { m with
            outboundMessage :=
              { m.outboundMessage with
                data := headerByte type dup qos retain :: (encode corpo.length ++ corpo)
                fragmentedMsgDataOffset :=
                  m.outboundMessage.fragmentedMsgDataOffset - UInt32.ofNat k } } := by
  have h5 : mqttMaxFixedHeaderSize = 5 := rfl
  have hpos := length_encode_pos corpo.length
  have htotal : (if m.outboundMessage.fragmentedMsgTotalLength ≠ 0 then
      m.outboundMessage.fragmentedMsgTotalLength - mqttMaxFixedHeaderSize else corpo.length) =
      corpo.length := if_neg (by simp [hm.total])
  unfold finiMessage
  dsimp only
  rw [htotal]
  split
  next => exact Or.inl rfl
  next hfit => exact Or.inr ⟨by omega, _, by omega, rfl⟩

theorem finiMessage_fecha (hm : Limpa m) (corpo : List UInt8) (type : MqttMessageType)
    (dup qos retain : ℕ) : Fecha m (finiMessage m corpo type dup qos retain) := by
  rcases finiMessage_cases hm corpo type dup qos retain with heq | ⟨-, k, hk, heq⟩
  · rw [heq]
    exact failMessage_fecha hm.toSemFragmento
  · rw [heq]
    exact ⟨hm.total, rfl, k, hk, rfl⟩

theorem mqttMsgAck_fecha (hm : Limpa m) (type : MqttMessageType) (qos : ℕ) (s : Sorteio)
    (id : UInt16) : Fecha m (mqttMsgAck type qos s id m) := by
  unfold mqttMsgAck
  split
  · exact failMessage_fecha hm.toSemFragmento
  · exact finiMessage_fecha hm _ _ _ _ _

theorem mqttMsgConnect_fecha (hm : Limpa m) (info : MqttConnectInfo) :
    Fecha m (mqttMsgConnect info m) := by
  unfold mqttMsgConnect
  dsimp only
  split
  · exact failMessage_fecha hm.toSemFragmento
  · split
    · exact failMessage_fecha hm.toSemFragmento
    · exact finiMessage_fecha hm _ _ _ _ _

end Fecha

theorem appendTopics_prefix {m : MqttConnection} {ts : List EspMqttTopic}
    {corpo corpo' : List UInt8} (h : appendTopics m ts corpo = some corpo') :
    corpo <+: corpo' := by
  induction ts generalizing corpo with
  | nil => rw [← Option.some.inj h]
  | cons t ts ih =>
      unfold appendTopics at h
      split at h
      · cases h
      · split at h
        · cases h
        next corpo₁ hstring =>
          rw [appendString_eq] at hstring
          split at hstring
          · split at h
            · cases h
            · rw [← Option.some.inj hstring] at h
              exact ((List.prefix_append _ _).trans (List.prefix_append _ _)).trans (ih h)
          · cases hstring

/-- A SUBSCRIBE starts with its id. -/
theorem mqttMsgSubscribe_cases (s : Sorteio) (ts : List EspMqttTopic) (m : MqttConnection) :
    (mqttMsgSubscribe s ts m).2 = failMessage m ∨
      ∃ resto, (mqttMsgSubscribe s ts m).2 =
        finiMessage m (be16 (mqttMsgSubscribe s ts m).1.toNat ++ resto) .subscribe 0 1 0 := by
  unfold mqttMsgSubscribe
  rw [appendMessageId_zero]
  split
  · exact Or.inl rfl
  next id corpo hid =>
    split at hid
    · obtain ⟨rfl, rfl⟩ := Prod.mk.inj (Option.some.inj hid)
      split
      · exact Or.inl rfl
      next corpo' htopics =>
        obtain ⟨resto, rfl⟩ := appendTopics_prefix htopics
        exact Or.inr ⟨resto, rfl⟩
    · cases hid

theorem mqttMsgSubscribe_fecha {m : MqttConnection} (hm : Limpa m) (s : Sorteio)
    (ts : List EspMqttTopic) : Fecha m (mqttMsgSubscribe s ts m).2 := by
  rcases mqttMsgSubscribe_cases s ts m with heq | ⟨resto, heq⟩
  · rw [heq]
    exact failMessage_fecha hm.toSemFragmento
  · rw [heq]
    exact finiMessage_fecha hm _ _ _ _ _

/-! ## Touching the outbox -/

theorem outboxSetPending_faz (msgId : UInt16) (pending : PendingState) (h : pending ≠ .queued)
    (h' : pending ≠ .confirmed) :
    Faz cfg le c { c with outbox := outboxSetPending c.outbox msgId pending } := by
  rcases reescreve_cases msgId (fun x => { x with pending }) c.outbox with
    heq | ⟨l₁, x, l₂, hl, -, heq⟩
  · rw [outboxSetPending, heq]
  · rw [outboxSetPending, heq]
    refine (Micro.retoca l₁ l₂ x _ hl ?_).faz
    cases pending with
    | queued => exact absurd rfl h
    | transmitted => exact .transmitida
    | acknowledged => exact .reconhecida
    | confirmed => exact absurd rfl h'

theorem outboxSetTick_faz (msgId : UInt16) :
    Faz cfg le c { c with outbox := outboxSetTick c.outbox msgId c.relogio } := by
  rcases reescreve_cases msgId (fun x => { x with tick := c.relogio }) c.outbox with
    heq | ⟨l₁, x, l₂, hl, -, heq⟩
  · rw [outboxSetTick, heq]
  · rw [outboxSetTick, heq]
    exact (Micro.retoca l₁ l₂ x _ hl .tick).faz

theorem marcaDup_faz {item : ℕ} {x : OutboxItem} (hx : c.outbox.list[item]? = some x)
    (tipo : x.msgType = some .publish) (qos : 0 < x.msgQos) :
    Faz cfg le c { c with outbox := marcaDup c.outbox item } := by
  obtain ⟨l₁, l₂, hl, hmod⟩ := ListStore.exists_split_modify hx
    fun x => { x with buffer := mqttSetDup x.buffer }
  rw [marcaDup, hmod]
  exact (Micro.retoca l₁ l₂ x _ hl (.repetida tipo qos)).faz

/-! ## The functions -/

theorem comConexao_faz {m : MqttConnection}
    (h : Limpa c.mqttState.connection → Limpa m) : Faz cfg le c (c.comConexao m) :=
  arruma_faz { c.mqttState with connection := m } c.mundo h fun _ => .refl _

theorem limpa_faz : Faz cfg le c c.limpa :=
  comConexao_faz fun h => ⟨⟨rfl, h.buffer⟩, h.minimo⟩

theorem comOutbound_faz (data : List UInt8) : Faz cfg le c (c.comOutbound data) :=
  comConexao_faz fun h => ⟨⟨h.total, h.buffer⟩, h.minimo⟩

theorem comPendente_faz (id : UInt16) (tipo : Option MqttMessageType) (qos : ℕ) :
    Faz cfg le c (c.comPendente id tipo qos) :=
  arruma_faz
    { c.mqttState with pendingMsgId := id, pendingMsgType := tipo, pendingPublishQos := qos }
    c.mundo (fun h => h) fun _ => .refl _

/-- The SUBSCRIBE in the client's buffer is a letter of its id. -/
theorem carta_subscribe {s : Sorteio} {ts : List EspMqttTopic} {m : MqttConnection}
    (hm : Limpa m) (hdata : (mqttMsgSubscribe s ts m).2.outboundMessage.data ≠ [])
    {x : OutboxItem} (hbuffer : x.buffer = (mqttMsgSubscribe s ts m).2.outboundMessage.data)
    (hid : x.msgId = (mqttMsgSubscribe s ts m).1) (htype : x.msgType = some .subscribe) :
    Carta x := by
  rcases mqttMsgSubscribe_cases s ts m with heq | ⟨resto, heq⟩
  · rw [heq] at hdata
    exact absurd rfl hdata
  · rcases finiMessage_cases hm (be16 (mqttMsgSubscribe s ts m).1.toNat ++ resto) .subscribe 0 1 0
      with heq' | ⟨hcurto, k, -, heq'⟩
    · rw [heq, heq'] at hdata
      exact absurd rfl hdata
    · rw [heq, heq', ← hid] at hbuffer
      rw [← hid] at hcurto
      exact .subscribe (Quadro.de _ _ rfl hcurto) hbuffer htype (tipo_headerByte 0 1 0 .subscribe)
        ⟨resto, rfl⟩

theorem mqttGetType_subscribe {s : Sorteio} {ts : List EspMqttTopic} {m : MqttConnection}
    (hm : Limpa m) (hdata : (mqttMsgSubscribe s ts m).2.outboundMessage.data ≠ []) :
    mqttGetType (mqttMsgSubscribe s ts m).2.outboundMessage.data = some .subscribe := by
  rcases mqttMsgSubscribe_cases s ts m with heq | ⟨resto, heq⟩
  · rw [heq] at hdata
    exact absurd rfl hdata
  · rcases finiMessage_cases hm (be16 (mqttMsgSubscribe s ts m).1.toNat ++ resto) .subscribe 0 1 0
      with heq' | ⟨-, k, -, heq'⟩
    · rw [heq, heq'] at hdata
      exact absurd rfl hdata
    · rw [heq, heq']
      exact tipo_headerByte 0 1 0 .subscribe

theorem espMqttClientSubscribe_faz (hc : Limpa c.mqttState.connection) (topic : List UInt8)
    (qos : ℕ) : Faz cfg le c (espMqttClientSubscribe cfg topic qos c).2 := by
  unfold espMqttClientSubscribe
  split
  · exact .refl
  · split
    · exact .refl
    · generalize hr : mqttMsgSubscribe c.mundo.sorteio [{ filter := topic, qos }]
        c.mqttState.connection = r
      have hm : Limpa r.2 := hr ▸ (mqttMsgSubscribe_fecha hc _ _).limpa hc
      have hpending : ∀ id tipo qos, Faz cfg le c ((c.comConexao r.2).comPendente id tipo qos) :=
        fun id tipo qos => (comConexao_faz fun _ => hm).trans (comPendente_faz id tipo qos)
      dsimp only
      split
      · exact hpending _ _ _
      next hdata =>
        have hout : (c.comConexao r.2).outbound = r.2.outboundMessage.data := rfl
        rw [hout] at hdata ⊢
        have htype := mqttGetType_subscribe hc (by rw [hr]; exact hdata)
        rw [hr] at htype
        rw [mqttEnqueue_eq, htype]
        split
        · -- no memory
          exact hpending _ _ _
        next c₂ hmem =>
          split at hmem
          · rw [← Option.some.inj hmem]
            have htick : Faz cfg le c (platformTickGetMs (c.comConexao r.2)).2 :=
              (comConexao_faz fun _ => hm).trans platformTickGetMs_faz
            have hcarta : Carta
                { buffer := r.2.outboundMessage.data ++ []
                  msgId := r.1
                  msgType := some .subscribe
                  msgQos := c.mqttState.pendingPublishQos
                  tick := (platformTickGetMs (c.comConexao r.2)).1
                  pending := .queued } := by
              rw [← hr] at hdata ⊢
              exact carta_subscribe hc hdata (List.append_nil _) rfl rfl
            have hstored := (htick.trans (poe_faz ((c.comConexao r.2).comPendente r.1
              (some .subscribe) c.mqttState.pendingPublishQos).mqttState hcarta rfl hm
                (.refl _))).trans
              (outboxSetPending_faz r.1 .transmitted (by simp) (by simp))
            split
            · exact hstored.trans espMqttWrite_faz
            · exact hstored.trans espMqttWrite_faz
          · cases hmem

theorem espMqttClientPing_faz : Faz cfg le c (espMqttClientPing cfg c).2 := by
  have hping : Faz cfg le c (c.comConexao (mqttMsgPingreq c.mqttState.connection)) :=
    comConexao_faz fun h => (finiMessage_fecha h _ _ _ _ _).limpa h
  unfold espMqttClientPing
  dsimp only
  split
  · exact hping
  · exact hping.trans espMqttWrite_faz

theorem processKeepalive_faz : Faz cfg le c (processKeepalive cfg c).2 := by
  unfold processKeepalive
  dsimp only
  have htick : Faz cfg le c (platformTickGetMs c).2 := platformTickGetMs_faz
  split
  · split
    · split
      · exact (htick.trans espMqttAbortConnection_faz).trans
          (Micro.espera false (Or.inr (by simp))).faz
      · exact htick
    · split
      · have hping : Faz cfg le c (espMqttClientPing cfg (platformTickGetMs c).2).2 :=
          htick.trans espMqttClientPing_faz
        split
        · exact hping.trans espMqttAbortConnection_faz
        · exact hping.trans (Micro.espera true (Or.inl rfl)).faz
      · exact htick
  · exact .refl

theorem espMqttConnect_faz (hinit : c.state = .init) : Faz cfg true c (espMqttConnect cfg c).2 := by
  have hconn : Faz cfg true c (({ c with waitForPingResp := false } : Cliente).comConexao
      (mqttMsgConnect cfg.information c.mqttState.connection)) :=
    (Micro.espera false (Or.inr (by simp [hinit]))).faz.trans
      (comConexao_faz fun h => (mqttMsgConnect_fecha h _).limpa h)
  unfold espMqttConnect
  dsimp only
  split
  · exact hconn
  · generalize hr : espMqttWrite cfg _ = r
    have hwrite : Faz cfg true c r.2 := by
      rw [← hr]
      exact (hconn.trans (comPendente_faz _ _ _)).trans espMqttWrite_faz
    split
    · exact hwrite
    · have hread : ∀ r', Faz cfg true c (r.2.comReceptor r') := fun r' =>
        hwrite.trans (comReceptor_faz r')
      split
      · exact (hread _).trans (evento_faz (e := .error) (by simp) (by simp))
      · split
        · exact hread _
        · split
          · exact hread _
          · split
            · exact (hread _).trans (comReceptor_faz _)
            · exact ((hread _).trans (comReceptor_faz _)).trans
                (evento_faz (e := .error) (by simp) (by simp))

/-! ### What the broker sends -/

theorem dados_faz (dados : Option EventoData) :
    Faz cfg true c (espMqttDispatchEvent cfg (.data dados) c) :=
  (Micro.evento (.data dados) (by simp) fun h => by cases h).faz

theorem entrega_faz (fuel falta : ℕ) (topic : Option (List UInt8)) (data : List UInt8) :
    Faz cfg true c (entrega cfg fuel falta topic data c).2 := by
  induction fuel generalizing falta topic data c with
  | zero => exact dados_faz _
  | succ fuel ih =>
      have hevent : Faz cfg true c
          (espMqttDispatchEvent cfg (.data (some ⟨topic, dadosDoEvento data⟩)) c) :=
        dados_faz _
      unfold entrega
      dsimp only
      split
      · exact hevent
      · have hread : ∀ r, Faz cfg true c ((espMqttDispatchEvent cfg
            (.data (some ⟨topic, dadosDoEvento data⟩)) c).comReceptor r) := fun r =>
          hevent.trans (comReceptor_faz r)
        split
        · split
          · exact hread _
          · exact (hread _).trans (evento_faz (e := .error) (by simp) (by simp))
        · exact (hread _).trans (ih _ _ _)

theorem deliverPublish_faz : Faz cfg true c (deliverPublish cfg c).2 := by
  unfold deliverPublish
  dsimp only
  split
  · exact .refl
  · exact entrega_faz _ _ _ _

theorem deliverSuback_faz : Faz cfg true c (deliverSuback cfg c).2 := by
  unfold deliverSuback
  dsimp only
  split
  · exact .refl
  · exact evento_faz (e := .subscribed) (by simp) (by simp)

theorem respondePublish_faz (qos : ℕ) (msgId : UInt16) :
    Faz cfg le c (respondePublish cfg qos msgId c).2 := by
  unfold respondePublish
  split
  · generalize hm : (if qos = 1 then mqttMsgPuback c.mundo.sorteio msgId c.mqttState.connection
      else mqttMsgPubrec c.mundo.sorteio msgId c.mqttState.connection) = m
    have hconn : Faz cfg le c (c.comConexao m) := by
      apply comConexao_faz
      intro h
      rw [← hm]
      split <;> exact (mqttMsgAck_fecha h _ _ _ _).limpa h
    dsimp only
    split
    · exact hconn
    · exact hconn.trans espMqttWrite_faz
  · exact .refl

theorem respondeSemOlhar_faz {m : MqttConnection} {f : Cliente → Cliente}
    (hm : Limpa c.mqttState.connection → Limpa m) (hf : ∀ c, Faz cfg le c (f c)) :
    Faz cfg le c (respondeSemOlhar cfg m f c).2 := by
  have hconn : Faz cfg le c (c.comConexao m) := comConexao_faz hm
  unfold respondeSemOlhar
  dsimp only
  split
  · exact hconn
  · exact (hconn.trans (hf _)).trans espMqttWrite_faz

/-- The answer is noted, and the message it answers goes out of the outbox. -/
theorem removeInitiatorMessage_faz {msgType : MqttMessageType} {msgId : UInt16}
    {tipo : Option MqttMessageType} {f : Cliente → Res} (hr : Responde tipo (some msgType))
    (hf : ∀ c, Faz cfg true c (f c).2) :
    Faz cfg true c (removeInitiatorMessage msgType msgId f
      { c with recebidos := (tipo, msgId) :: c.recebidos }).2 := by
  unfold removeInitiatorMessage
  dsimp only
  split
  · exact (Micro.recebe rfl tipo msgId).faz
  next outbox hout =>
    obtain ⟨x, rfl, htype, htira⟩ := outboxDelete_tira hout
    exact (Micro.responde rfl x outbox tipo htira (htype ▸ hr)).faz.trans (hf _)

theorem trataMensagem_faz (msgType : Option MqttMessageType) (msgQos : ℕ) (msgId : UInt16) :
    Faz cfg true c (trataMensagem cfg msgType msgQos msgId
      { c with recebidos := (msgType, msgId) :: c.recebidos }).2 := by
  have hnoted : Faz cfg true c { c with recebidos := (msgType, msgId) :: c.recebidos } :=
    (Micro.recebe rfl msgType msgId).faz
  unfold trataMensagem
  split
  · exact removeInitiatorMessage_faz .suback fun _ => deliverSuback_faz
  · exact removeInitiatorMessage_faz .unsuback fun _ => evento_faz (e := .outro) (by simp) (by simp)
  · dsimp only
    split
    · exact hnoted.trans deliverPublish_faz
    · exact (hnoted.trans deliverPublish_faz).trans (respondePublish_faz _ _)
  · exact removeInitiatorMessage_faz .puback fun _ => evento_faz (e := .published) (by simp) (by simp)
  · exact removeInitiatorMessage_faz .pubcomp fun _ => evento_faz (e := .published) (by simp) (by simp)
  · exact hnoted.trans (respondeSemOlhar_faz (fun h => (mqttMsgAck_fecha h _ _ _ _).limpa h)
      fun _ => outboxSetPending_faz _ _ (by simp) (by simp))
  · exact hnoted.trans (respondeSemOlhar_faz (fun h => (mqttMsgAck_fecha h _ _ _ _).limpa h) fun _ => .refl)
  · -- a PINGRESP, with its reading of the clock
    have hpong : Micro cfg true c _ := .pong rfl msgId (c.mundo.avancos.headD 0)
    exact hpong.faz.trans (mundo_faz { c.mundo with avancos := c.mundo.avancos.tail })
  · exact hnoted

theorem processaMensagem_faz : Faz cfg true c (processaMensagem cfg c).2 := by
  unfold processaMensagem
  dsimp only
  split
  · exact trataMensagem_faz _ _ _
  · exact (trataMensagem_faz _ _ _).trans (comReceptor_faz _)

theorem mqttProcessReceive_faz : Faz cfg true c (mqttProcessReceive cfg c).2 := by
  unfold mqttProcessReceive
  dsimp only
  split
  · exact comReceptor_faz _
  · exact comReceptor_faz _
  · exact (comReceptor_faz _).trans (evento_faz (e := .error) (by simp) (by simp))
  · exact (comReceptor_faz _).trans processaMensagem_faz

/-! ### Sending again -/

theorem mqttDeleteExpiredMessages_faz : Faz cfg le c (mqttDeleteExpiredMessages c) :=
  platformTickGetMs_faz.trans Micro.expira.faz

theorem escreveOuAborta_faz : Faz cfg le c (escreveOuAborta cfg c).2 := by
  unfold escreveOuAborta
  dsimp only
  split
  · exact espMqttWrite_faz.trans espMqttAbortConnection_faz
  · exact espMqttWrite_faz

theorem escreveOuAborta_outbox : (escreveOuAborta cfg c).2.outbox = c.outbox := by
  unfold escreveOuAborta espMqttWrite
  dsimp only
  split <;> split <;> rfl

theorem pega_faz (x : OutboxItem) : Faz cfg le c (c.pega x) :=
  (comOutbound_faz x.buffer).trans (comPendente_faz _ _ _)

theorem mqttResendQueued_faz {item : ℕ} {x : OutboxItem} (hx : c.outbox.list[item]? = some x) :
    Faz cfg le c (mqttResendQueued cfg item x c).2 := by
  unfold mqttResendQueued
  dsimp only
  split
  next hdup =>
    have hpega : Faz cfg le c ((c.pega x).comOutbound (mqttSetDup x.buffer)) :=
      (pega_faz x).trans (comOutbound_faz _)
    exact (hpega.trans (marcaDup_faz hx hdup.1 hdup.2.1)).trans escreveOuAborta_faz
  next => exact (pega_faz x).trans escreveOuAborta_faz

/-- Without a quality of service, a message is sent as it is. -/
theorem mqttResendQueued_outbox (item : ℕ) {x : OutboxItem} (hqos : x.msgQos = 0) :
    (mqttResendQueued cfg item x c).2.outbox = c.outbox := by
  unfold mqttResendQueued
  dsimp only
  rw [if_neg (by omega), escreveOuAborta_outbox]
  rfl

theorem mqttResendPubrel_faz (item : ℕ) (x : OutboxItem) :
    Faz cfg le c (mqttResendPubrel cfg item x c).2 := by
  have hack : Faz cfg le c ((c.pega x).comConexao
      (mqttMsgPubrel c.mundo.sorteio x.msgId (c.pega x).mqttState.connection)) :=
    (pega_faz x).trans (comConexao_faz fun h => (mqttMsgAck_fecha h _ _ _ _).limpa h)
  unfold mqttResendPubrel
  dsimp only
  split
  · exact hack
  · exact hack.trans escreveOuAborta_faz

theorem aposReenvio_faz {item : ℕ} {x : OutboxItem}
    (hx : x.msgQos = 0 → c.outbox.list[item]? = some x) : Faz cfg le c (aposReenvio item x c) := by
  have hdelete : Faz cfg le c (if x.msgType = some .publish ∧ x.msgQos = 0 then
      { c with outbox := (outboxDeleteItem c.outbox item).getD c.outbox } else c) := by
    split
    next htype =>
      cases hdel : outboxDeleteItem c.outbox item with
      | none => exact .refl
      | some outbox =>
          obtain ⟨y, hy, htira⟩ := outboxDeleteItem_tira hdel
          rw [hx htype.2] at hy
          obtain rfl := Option.some.inj hy
          exact (Micro.descarta x outbox htira htype.1 htype.2).faz
    next => exact .refl
  unfold aposReenvio
  dsimp only
  split
  · exact hdelete.trans (outboxSetPending_faz _ _ (by simp) (by simp))
  · exact hdelete

theorem primeiro_get {o : Outbox} {pending : PendingState} {item : ℕ} {x : OutboxItem}
    (h : primeiro o pending = some (item, x)) : o.list[item]? = some x := by
  unfold primeiro at h
  simp only [Option.bind_eq_bind, Option.bind_eq_some_iff, Option.pure_def, Option.some.injEq,
    Prod.mk.injEq] at h
  obtain ⟨i, -, y, hy, rfl, rfl⟩ := h
  exact hy

theorem reenviaAntiga_faz (pending : PendingState) {f : ℕ → OutboxItem → Cliente → Res}
    (hf : ∀ {c : Cliente} {item x}, c.outbox.list[item]? = some x → Faz cfg le c (f item x c).2) :
    Faz cfg le c (reenviaAntiga cfg pending f c) := by
  unfold reenviaAntiga
  split
  · exact .refl
  next item x hfirst =>
    split
    · exact hf (primeiro_get hfirst)
    · exact .refl

theorem lastRetransmit_faz (lastRetransmit : ℕ) : Faz cfg le c { c with lastRetransmit } :=
  (Micro.arruma c.mqttState c.mundo c.poll lastRetransmit id fun _ => .refl _).faz

theorem reenvia_faz : Faz cfg le c (reenvia cfg c) := by
  unfold reenvia
  split
  next item x hfirst =>
    have hx := primeiro_get hfirst
    have hsent : Faz cfg le c (mqttResendQueued cfg item x c).2 := mqttResendQueued_faz hx
    dsimp only
    split
    · refine hsent.trans (aposReenvio_faz fun hqos => ?_)
      rw [mqttResendQueued_outbox item hqos]
      exact hx
    · exact hsent
  next =>
    have htick : Faz cfg le c (platformTickGetMs c).2 := platformTickGetMs_faz
    dsimp only
    split
    · have hagain : Faz cfg le c { (platformTickGetMs (platformTickGetMs c).2).2 with
          lastRetransmit := (platformTickGetMs (platformTickGetMs c).2).1 } :=
        (htick.trans platformTickGetMs_faz).trans (lastRetransmit_faz _)
      exact (hagain.trans (reenviaAntiga_faz _ mqttResendQueued_faz)).trans
        (reenviaAntiga_faz _ fun _ => mqttResendPubrel_faz _ _)
    · exact htick

theorem primeiraVez_faz : Faz cfg le c (primeiraVez c) := by
  unfold primeiraVez
  split
  · exact platformTickGetMs_faz.trans (lastRetransmit_faz _)
  · exact .refl

theorem ateKeepalive_faz : Faz cfg le c (reenvia cfg (primeiraVez c)) :=
  primeiraVez_faz.trans reenvia_faz

theorem depoisKeepalive_faz :
    Faz cfg le (processKeepalive cfg (reenvia cfg (primeiraVez c))).2 (voltaConectada cfg c) := by
  unfold voltaConectada
  dsimp only
  split
  · exact .refl
  · split
    next hrefresh =>
      split
      · exact (platformTickGetMs_faz.trans espMqttAbortConnection_faz).trans
          (Micro.renova hrefresh espMqttAbortConnection_state).faz
      · exact platformTickGetMs_faz
    next => exact .refl

theorem voltaConectada_faz : Faz cfg le c (voltaConectada cfg c) :=
  (ateKeepalive_faz.trans processKeepalive_faz).trans depoisKeepalive_faz

theorem esperaReconectar_faz (hwait : c.state = .waitReconnect) :
    Faz cfg le c (esperaReconectar c) := by
  have htick : Faz cfg le c (platformTickGetMs c).2 := platformTickGetMs_faz
  unfold esperaReconectar
  dsimp only
  split
  next hlate =>
    have hagain : Micro cfg le (platformTickGetMs c).2 _ :=
      .recomeca ((platformTickGetMs c).2.mundo.avancos.headD 0) hwait hlate
    exact (htick.trans hagain.faz).trans (mundo_faz { (platformTickGetMs c).2.mundo with
      avancos := (platformTickGetMs c).2.mundo.avancos.tail })
  next => exact htick

/-! ### Publishing -/

/-- The loop of `esp_mqtt_client_publish` does not look at the length of the fragmented
message, and leaves it zero if it succeeds. -/
theorem publicaLoop_limpa (cfg : Config) (c : Cliente) (fuel : ℕ) (remaining : ℤ)
    (dados : List UInt8) :
    (publicaLoop cfg fuel remaining dados c).1 =
        (publicaLoop cfg fuel remaining dados c.limpa).1 ∧
      (publicaLoop cfg fuel remaining dados c).2.limpa =
        (publicaLoop cfg fuel remaining dados c.limpa).2.limpa ∧
      ((publicaLoop cfg fuel remaining dados c).1 = .ok →
        (publicaLoop cfg fuel remaining dados c).2 =
          (publicaLoop cfg fuel remaining dados c.limpa).2) := by
  cases fuel with
  | zero => exact ⟨rfl, rfl, fun h => by cases h⟩
  | succ fuel =>
      have hwrite : (espMqttWrite cfg c.limpa).1 = (espMqttWrite cfg c).1 ∧
          (espMqttWrite cfg c.limpa).2 = (espMqttWrite cfg c).2.limpa := by
        have hout : c.limpa.outbound = c.outbound := rfl
        have hmundo : c.limpa.mundo = c.mundo := rfl
        unfold espMqttWrite
        rw [hout, hmundo]
        dsimp only
        split <;> exact ⟨rfl, rfl⟩
      rw [publicaLoop, publicaLoop]
      dsimp only
      rw [hwrite.1, hwrite.2]
      generalize espMqttWrite cfg c = r
      by_cases hok : r.1 = .ok
      · have hsent : ¬ r.1 ≠ .ok := not_not_intro hok
        simp only [if_neg hsent]
        exact ⟨rfl, rfl, fun _ => rfl⟩
      · rw [if_pos hok, if_pos hok]
        exact ⟨rfl, rfl, fun h => by cases h⟩

theorem publicaLoop_faz (fuel : ℕ) (remaining : ℤ) (dados : List UInt8) :
    Faz cfg le c (publicaLoop cfg fuel remaining dados c).2 := by
  induction fuel generalizing remaining dados c with
  | zero => exact .refl
  | succ fuel ih =>
      have hwrite : Faz cfg le c (espMqttWrite cfg c).2 := espMqttWrite_faz
      unfold publicaLoop
      dsimp only
      split
      · exact hwrite.trans espMqttAbortConnection_faz
      · have hclean : Faz cfg le c (espMqttWrite cfg c).2.semOffset.limpa :=
          hwrite.trans (comConexao_faz fun h => ⟨⟨rfl, h.buffer⟩, h.minimo⟩)
        split
        · exact (hclean.trans (comOutbound_faz _)).trans (ih _ _)
        · exact hclean

theorem carta_publish {p : Pedido} {id : UInt16} {pk : PacotePublish} (h : p.Pacote id pk)
    (tick : ℕ) : Carta (p.item id pk tick) :=
  .publish pk rfl rfl h.qos h.id

theorem guardou_faz {p : Pedido} {pk : PacotePublish} (hc : Limpa c.mqttState.connection)
    (hpack : p.Pacote (p.id c.mundo.sorteio) pk) (h : Guardou p pk c c')
    (hlength : c'.mqttState.connection.bufferLength = c.mqttState.connection.bufferLength) :
    Faz cfg le c c' := by
  obtain ⟨mqttState, mundo, relogio, rfl, hle, htotal, hr⟩ := h
  have htime : Faz cfg le c { c with relogio, mundo } := by
    have hclock : Faz cfg le c { c with relogio := c.relogio + (relogio - c.relogio) } :=
      (Micro.tempo (relogio - c.relogio)).faz
    rw [Nat.add_sub_of_le hle] at hclock
    exact hclock.trans (mundo_faz mundo)
  exact htime.trans (poe_faz mqttState (carta_publish hpack relogio) rfl
    ⟨⟨htotal, hlength ▸ hc.buffer⟩, hlength ▸ hc.minimo⟩ ⟨congrArg _ hr, congrArg _ hr⟩)

/-- The packet in the client is another. -/
theorem troca_faz (h : Troca c c')
    (hlimpa : Limpa c.mqttState.connection → Limpa c'.mqttState.connection) : Faz cfg le c c' := by
  obtain ⟨mqttState, rfl, hr⟩ := h
  exact arruma_faz mqttState c.mundo hlimpa fun _ => ⟨congrArg _ hr, congrArg _ hr⟩

section Publica

variable {p : Pedido}

/-- A request whose packet is made, with no fragment left. -/
theorem pacote_faz {store : Bool} {pk : PacotePublish} (hc : Limpa c.mqttState.connection)
    (hpack : p.Pacote (p.id c.mundo.sorteio) pk)
    (hlength : c'.mqttState.connection.bufferLength = c.mqttState.connection.bufferLength)
    (hstored : if 0 < p.qos ∨ store = true then Guardou p pk c c' else Troca c c') :
    Faz cfg le c c'.limpa := by
  split at hstored
  · exact (guardou_faz hc hpack hstored hlength).trans limpa_faz
  · obtain ⟨mqttState, rfl, hr⟩ := hstored
    exact troca_faz ⟨({ c with mqttState } : Cliente).limpa.mqttState, rfl, hr⟩
      fun h => ⟨⟨rfl, hlength ▸ h.buffer⟩, hlength ▸ h.minimo⟩

/-- From the loop of `esp_mqtt_client_publish` on. -/
theorem publicada_faz {fuel : ℕ} {remaining : ℤ} {dados : List UInt8} {id : UInt16}
    {w : Res} {r : ℤ × Cliente} (hc : Faz cfg le c c'.limpa)
    (hw : publicaLoop cfg fuel remaining dados c' = w)
    (hr : (if w.1 ≠ .ok then (-1, w.2.limpa)
      else if 0 < p.qos then
        ((id.toNat : ℤ), { (platformTickGetMs w.2).2 with
          outbox := outboxSetPending
            (outboxSetTick (platformTickGetMs w.2).2.outbox id (platformTickGetMs w.2).1) id
            .transmitted })
      else ((id.toNat : ℤ), w.2)) = r) : Faz cfg le c r.2 := by
  have hloop : Faz cfg le c (publicaLoop cfg fuel remaining dados c'.limpa).2 :=
    hc.trans (publicaLoop_faz fuel remaining dados)
  obtain ⟨-, hfail, hgood⟩ := publicaLoop_limpa cfg c' fuel remaining dados
  rw [hw] at hfail hgood
  split at hr
  · rw [← hr]
    change Faz cfg le c w.2.limpa
    rw [hfail]
    exact hloop.trans limpa_faz
  next hok =>
    rw [← hgood (not_not.mp hok)] at hloop
    split at hr
    · rw [← hr]
      exact ((hloop.trans platformTickGetMs_faz).trans (outboxSetTick_faz id)).trans
        (outboxSetPending_faz id .transmitted (by simp) (by simp))
    · rw [← hr]
      exact hloop

theorem espMqttClientPublish_faz (hp : p.Valido) (hc : Limpa c.mqttState.connection)
    (hmem : c.mundo.memoria = true ∨ p.Curto) :
    Faz cfg le c (espMqttClientPublish cfg p c).2 := by
  generalize hr : espMqttClientPublish cfg p c = r
  unfold espMqttClientPublish at hr
  split at hr
  · rw [← hr]
  · rcases mqttClientEnqueuePublish_cases hp false hc.toSemFragmento with
      ⟨c₁, heq, htroca, hfecha⟩ | ⟨pk, n, c₁, hpack, heq, -, hlength, hstored⟩
    · rw [heq] at hr
      rw [← hr]
      exact troca_faz htroca fun hclean => (hfecha hmem hclean).limpa hclean
    · have hpacked : Faz cfg le c c₁.limpa := pacote_faz hc hpack hlength hstored
      rw [heq] at hr
      dsimp only at hr
      split at hr
      · rw [← hr]
        exact hpacked
      · exact publicada_faz hpacked rfl hr

/-- A packet that is only put away must be put away, or be short. -/
theorem espMqttClientEnqueue_faz (hp : p.Valido) {store : Bool}
    (hc : Limpa c.mqttState.connection)
    (hmem : c.mundo.memoria = true ∧ (0 < p.qos ∨ store = true) ∨ p.Curto) :
    Faz cfg le c (espMqttClientEnqueue cfg p store c).2 := by
  unfold espMqttClientEnqueue
  split
  · exact .refl
  · rcases mqttClientEnqueuePublish_cases hp store hc.toSemFragmento with
      ⟨c₁, heq, htroca, hfecha⟩ | ⟨pk, n, c₁, hpack, heq, hcorte, hlength, hstored⟩
    · rw [heq]
      exact troca_faz htroca fun hclean => (hfecha (hmem.imp_left And.left) hclean).limpa hclean
    · rw [heq]
      split at hstored
      · exact guardou_faz hc hpack hstored hlength
      next hkept =>
        have hcurto : p.Curto := hmem.resolve_left fun h => hkept h.2
        exact troca_faz hstored fun hclean =>
          (hcorte.fecha hpack hlength hclean.minimo hcurto).limpa hclean

end Publica

end HidroControl.EspMqtt
