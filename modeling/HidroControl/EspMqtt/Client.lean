import HidroControl.EspMqtt.Outbox
import HidroControl.EspMqtt.Receive
import HidroControl.CommandLanguage

/-!
# `mqtt_client.c` — the MQTT client under the firmware

The client's task goes round in `esp_mqtt_task`; the control task calls
`esp_mqtt_client_publish`. Both hold the client's lock from beginning to end, so a
run is a sequence of rounds and calls (`Acao`), and of the polls that the task makes
between two rounds without the lock.

What the outside does in one action is a `Mundo`: how much time passes before each
reading of the clock, what the reads and the writes of the transport come to, what
the broker has sent. An event goes to the firmware's own handler at once
(`mqttEventHandler`), on the task that dispatches it.
-/

namespace HidroControl.EspMqtt

open CText

/-! ## The client -/

inductive MqttClientState where
  | init
  | disconnected
  | connected
  | waitReconnect
deriving DecidableEq

inductive EspErr where
  | ok
  | fail
  | timeout
deriving DecidableEq

/-- `MQTT_BUFFER_SIZE_BYTE`, the size of a buffer if the firmware gives none. -/
def mqttBufferSizeByte : ℕ := 1024

/-- What `esp_mqtt_set_config` keeps of the firmware's `mqtt_cfg`, with the defaults for
what that leaves open, and the identifier that the firmware's handler knows. -/
structure Config where
  information : MqttConnectInfo
  dev : Deviceid
  inBufferLength : ℕ := mqttBufferSizeByte
  reconnectTimeoutMs : ℕ := 5000
  messageRetransmitTimeout : ℕ := 1000
  refreshConnectionAfterMs : ℕ := 0
  outboxLimit : ℕ := 0

/-- The `mqtt_cfg` of `mqttclient_init`. -/
def mqttCfg (dev : Deviceid) (username password : List UInt8) : Config where
  information :=
    { clientId := toBytes (deviceidGet dev), username, password, keepalive := 60 }
  dev := dev
  reconnectTimeoutMs := 5000

def outboxExpiredTimeoutMs : ℕ := 30000

/-- The outside, during one action. A list that is at its end means: no time, a timeout
of a read, an error of a write. -/
structure Mundo where
  /-- The time that passes before each reading of the clock. -/
  avancos : List ℕ := []
  /-- The results of `esp_transport_read`. -/
  leituras : List ℤ := []
  /-- The results of `esp_transport_write`. -/
  escritas : List ℤ := []
  /-- What the broker has sent since the last round. -/
  chega : List UInt8 := []
  /-- `esp_transport_connect` succeeds. -/
  conecta : Bool := true
  /-- The reads of each call of `mqtt_message_receive` that waits for the CONNACK. -/
  connack : List (List ℤ) := []
  /-- What earlier packets have left in the buffer behind the CONNACK. -/
  velho : List UInt8 := []
  memoria : Bool := true
  sorteio : Sorteio

structure MqttState where
  connection : MqttConnection
  receptor : Receptor := { entrada := [] }
  pendingMsgId : UInt16 := 0
  pendingMsgType : Option MqttMessageType := none
  pendingPublishQos : ℕ := 0

/-- `lastRetransmit` is a local of `esp_mqtt_task`, and `poll` says that the task is in
`esp_transport_poll_read`. The histories have their latest entry first. -/
structure Cliente where
  state : MqttClientState := .init
  mqttState : MqttState
  outbox : Outbox := {}
  waitForPingResp : Bool := false
  keepaliveTick : ℕ := 0
  reconnectTick : ℕ := 0
  refreshConnectionTick : ℕ := 0
  waitTimeoutMs : ℕ := 0
  lastRetransmit : ℕ := 0
  poll : Bool := false
  /-- The statics of `mqttclient.cpp`. -/
  aplicacao : Mqttclient := {}
  relogio : ℕ := 0
  mundo : Mundo
  /-- What the transport has taken since it was last connected. -/
  saida : List UInt8 := []
  /-- The modes handed to `modos_set`. -/
  comandos : List ModoOperacao := []
  /-- The packets that `mqtt_process_receive` has found, by type and id. -/
  recebidos : List (Option MqttMessageType × UInt16) := []
  /-- When `esp_transport_connect` was called. -/
  tentativas : List ℕ := []
  /-- The messages that `mqtt_enqueue` has put into the outbox. -/
  postas : List Chave := []

abbrev Res := EspErr × Cliente

/-! ## Its parts -/

def Cliente.comReceptor (c : Cliente) (receptor : Receptor) : Cliente :=
  { c with mqttState := { c.mqttState with receptor } }

def Cliente.comConexao (c : Cliente) (connection : MqttConnection) : Cliente :=
  { c with mqttState := { c.mqttState with connection } }

/-- `in_buffer_read_len = 0` -/
def Cliente.esvazia (c : Cliente) : Cliente :=
  c.comReceptor { c.mqttState.receptor with inBuffer := [] }

/-- The packet the client is about to write. -/
def Cliente.outbound (c : Cliente) : List UInt8 := c.mqttState.connection.outboundMessage.data

def Cliente.comOutbound (c : Cliente) (data : List UInt8) : Cliente :=
  let connection := c.mqttState.connection
  c.comConexao { connection with outboundMessage := { connection.outboundMessage with data } }

def Cliente.comPendente (c : Cliente) (pendingMsgId : UInt16)
    (pendingMsgType : Option MqttMessageType) (pendingPublishQos : ℕ) : Cliente :=
  { c with
    mqttState := { c.mqttState with pendingMsgId, pendingMsgType, pendingPublishQos } }

/-- `platform_tick_get_ms` -/
def platformTickGetMs (c : Cliente) : ℕ × Cliente :=
  let relogio := c.relogio + c.mundo.avancos.headD 0
  (relogio, { c with relogio, mundo := { c.mundo with avancos := c.mundo.avancos.tail } })

/-- An event other than `MQTT_EVENT_CONNECTED`: of those, the handler answers none with
a call of the client. -/
def espMqttDispatchEvent (cfg : Config) (e : EventoMqtt) (c : Cliente) : Cliente :=
  let (aplicacao, comando) := mqttEventHandler cfg.dev e c.aplicacao
  { c with aplicacao, comandos := comando.toList ++ c.comandos }

def espMqttClientDispatchTransportError (cfg : Config) : Cliente → Cliente :=
  espMqttDispatchEvent cfg .error

/-- The loop of `esp_mqtt_write`: its result, what the transport has taken, and what is
left of the results of its writes. -/
def escreve : List ℤ → List UInt8 → EspErr × List UInt8 × List ℤ
  | es, [] => (.ok, [], es)
  | [], _ :: _ => (.fail, [], [])
  | wlen :: es, b :: bs =>
      if wlen < 0 then (.fail, [], es)
      else if wlen = 0 then (.timeout, [], es)
      else
        let r := escreve es ((b :: bs).drop wlen.toNat)
        (r.1, (b :: bs).take wlen.toNat ++ r.2.1, r.2.2)

def espMqttWrite (cfg : Config) (c : Cliente) : Res :=
  let r := escreve c.mundo.escritas c.outbound
  let c := { c with saida := c.saida ++ r.2.1, mundo := { c.mundo with escritas := r.2.2 } }
  if r.1 = .fail then (.fail, espMqttClientDispatchTransportError cfg c) else (r.1, c)

/-- A closed transport takes nothing and gives nothing. -/
def espTransportClose (c : Cliente) : Cliente :=
  let c := c.comReceptor { c.mqttState.receptor with entrada := [], leituras := [] }
  { c with mundo := { c.mundo with escritas := [] } }

def espMqttAbortConnection (cfg : Config) (c : Cliente) : Cliente :=
  let (tick, c) := platformTickGetMs (espTransportClose c)
  espMqttDispatchEvent cfg .disconnected
    { c with
      waitTimeoutMs := cfg.reconnectTimeoutMs
      reconnectTick := tick
      state := .waitReconnect
      waitForPingResp := false }

def hasTimedOut (lastTick timeout now : ℕ) : Bool := lastTick + timeout ≤ now

/-! ## Writing packets -/

def mqttEnqueue (remainingData : List UInt8) (c : Cliente) : Option Cliente :=
  let (tick, c) := platformTickGetMs c
  let msg : OutboxMessage :=
    { data := c.outbound
      msgId := c.mqttState.pendingMsgId
      msgQos := c.mqttState.pendingPublishQos
      msgType := c.mqttState.pendingMsgType
      remainingData }
  (outboxEnqueue c.mundo.memoria msg tick c.outbox).map fun outbox =>
    { c with outbox, postas := (msg.item tick).chave :: c.postas }

def espMqttClientSubscribe (cfg : Config) (topic : List UInt8) (qos : ℕ) (c : Cliente) :
    ℤ × Cliente :=
  if 0 < cfg.outboxLimit ∧ cfg.outboxLimit < outboxGetSize c.outbox then (-2, c)
  else if c.state ≠ .connected then (-1, c)
  else
    let r := mqttMsgSubscribe c.mundo.sorteio [{ filter := topic, qos }] c.mqttState.connection
    let c := c.comConexao r.2
    let qos := c.mqttState.pendingPublishQos
    if c.outbound = [] then (-1, c.comPendente r.1 c.mqttState.pendingMsgType qos)
    else
      match mqttEnqueue [] (c.comPendente r.1 (mqttGetType c.outbound) qos) with
      | none => (-1, c.comPendente r.1 (mqttGetType c.outbound) qos)
      | some c =>
          let c :=
            { c with outbox := outboxSetPending c.outbox c.mqttState.pendingMsgId .transmitted }
          let r := espMqttWrite cfg c
          if r.1 ≠ .ok then (-1, r.2) else (r.2.mqttState.pendingMsgId.toNat, r.2)

/-- `MQTT_EVENT_CONNECTED`, which the handler answers with its subscription. -/
def despachaConnected (cfg : Config) (c : Cliente) : Cliente :=
  (espMqttClientSubscribe cfg (toBytes (buildModoTopic topicBufferSize cfg.dev)) 1
    (espMqttDispatchEvent cfg .connected c)).2

def espMqttClientPing (cfg : Config) (c : Cliente) : Res :=
  let c := c.comConexao (mqttMsgPingreq c.mqttState.connection)
  if c.outbound = [] then (.fail, c)
  else
    let r := espMqttWrite cfg c
    (if r.1 ≠ .ok then .fail else .ok, r.2)

/-- `keepalive * 1000` -/
def Config.keepaliveMs (cfg : Config) : ℕ := cfg.information.keepalive * 1000

def processKeepalive (cfg : Config) (c : Cliente) : Res :=
  if 0 < cfg.information.keepalive then
    let r := platformTickGetMs c
    if c.waitForPingResp then
      if hasTimedOut c.keepaliveTick cfg.keepaliveMs r.1 then
        (.fail, { espMqttAbortConnection cfg r.2 with waitForPingResp := false })
      else (.ok, r.2)
    else if hasTimedOut c.keepaliveTick (cfg.keepaliveMs / 2) r.1 then
      let p := espMqttClientPing cfg r.2
      if p.1 = .fail then (.fail, espMqttAbortConnection cfg p.2)
      else (.ok, { p.2 with waitForPingResp := true })
    else (.ok, r.2)
  else (.ok, c)

/-! ## Connecting -/

/-- The `do … while` that waits for the CONNACK: it ends when the time is up, here with
the list of its calls. -/
def esperaConnack (inBufferLength : ℕ) : List ℤ → List (List ℤ) → Receptor →
    Recebido × Receptor
  | leituras, [], r => mqttMessageReceive inBufferLength { r with leituras }
  | leituras, proximas :: mais, r =>
      let res := mqttMessageReceive inBufferLength { r with leituras }
      if res.1 = .nada then esperaConnack inBufferLength proximas mais res.2 else res

def espMqttConnect (cfg : Config) (c : Cliente) : Res :=
  let c := { c with waitForPingResp := false }
  let c := c.comConexao (mqttMsgConnect cfg.information c.mqttState.connection)
  if c.outbound = [] then (.fail, c)
  else
    let c := c.comPendente (mqttGetId c.outbound c.outbound.length) (mqttGetType c.outbound)
      c.mqttState.pendingPublishQos
    let r := espMqttWrite cfg c
    if r.1 ≠ .ok then (.fail, r.2)
    else
      let c := r.2
      let res := esperaConnack cfg.inBufferLength (c.mundo.connack.headD []) c.mundo.connack.tail
        { c.mqttState.receptor with inBuffer := [], messageLength := 0 }
      let c := c.comReceptor res.2
      if res.1 = .erro then (.fail, espMqttClientDispatchTransportError cfg c)
      else if res.1 ≠ .mensagem then (.fail, c)
      else if mqttGetType res.2.inBuffer ≠ some .connack then (.fail, c)
      else if mqttGetConnectReturnCode (res.2.inBuffer ++ c.mundo.velho) = 0 then
        (.ok, c.esvazia)
      else (.fail, espMqttDispatchEvent cfg .error c.esvazia)

/-- A new connection: nothing of the old one is left in the transport. -/
def espTransportConnect (c : Cliente) : Cliente :=
  let (tick, c) := platformTickGetMs c
  let c := { c with tentativas := tick :: c.tentativas, saida := [] }
  c.comReceptor { c.mqttState.receptor with entrada := c.mundo.chega }

/-- `MQTT_STATE_INIT` -/
def tentaConectar (cfg : Config) (c : Cliente) : Cliente :=
  let c := espTransportConnect (espMqttDispatchEvent cfg .outro c)
  if !c.mundo.conecta then
    espMqttAbortConnection cfg (espMqttClientDispatchTransportError cfg c)
  else
    let r := espMqttConnect cfg c
    if r.1 ≠ .ok then espMqttAbortConnection cfg r.2
    else
      let c := despachaConnected cfg { r.2 with state := .connected }
      let (tick, c) := platformTickGetMs c
      let (tick', c) := platformTickGetMs c
      { c with refreshConnectionTick := tick, keepaliveTick := tick' }

/-! ## What the broker sends -/

/-- A range of length zero comes as a null pointer. -/
def dadosDoEvento (data : List UInt8) : Option (List UInt8) := if data = [] then none else some data

/-- The loop of `deliver_publish`, with `falta` bytes of the message still unread. Every
read brings a byte, so it is not longer than that. -/
def entrega (cfg : Config) : ℕ → ℕ → Option (List UInt8) → List UInt8 → Cliente → Res
  | 0, _, topic, data, c =>
      (.ok, espMqttDispatchEvent cfg (.data (some ⟨topic, dadosDoEvento data⟩)) c)
  | fuel + 1, falta, topic, data, c =>
      let c := espMqttDispatchEvent cfg (.data (some ⟨topic, dadosDoEvento data⟩)) c
      if falta = 0 then (.ok, c)
      else
        let r := espTransportRead (min falta cfg.inBufferLength)
          { c.mqttState.receptor with inBuffer := [] }
        let c := c.comReceptor r.2
        if r.1 ≤ 0 then
          if r.1 = 0 then (.ok, c) else (.fail, espMqttClientDispatchTransportError cfg c)
        else entrega cfg fuel (falta - r.1.toNat) none r.2.inBuffer c

def deliverPublish (cfg : Config) (c : Cliente) : Res :=
  let buf := c.mqttState.receptor.inBuffer
  match mqttGetPublishTopic buf buf.length with
  | none => (.fail, c)
  | some topic =>
      let falta := c.mqttState.receptor.messageLength - buf.length
      entrega cfg falta falta (some topic) ((mqttGetPublishData buf buf.length).getD []) c

def deliverSuback (cfg : Config) (c : Cliente) : Res :=
  let buf := c.mqttState.receptor.inBuffer
  match mqttGetSubackData buf buf.length with
  | none => (.fail, c)
  | some _ => (.ok, espMqttDispatchEvent cfg .subscribed c)

/-- `remove_initiator_message`, and what is done if it finds the message. -/
def removeInitiatorMessage (msgType : MqttMessageType) (msgId : UInt16)
    (f : Cliente → Res) (c : Cliente) : Res :=
  match outboxDelete c.outbox msgId msgType with
  | none => (.ok, c)
  | some outbox => f { c with outbox }

/-- The answer to a PUBLISH. -/
def respondePublish (cfg : Config) (qos : ℕ) (msgId : UInt16) (c : Cliente) : Res :=
  if qos = 1 ∨ qos = 2 then
    let connection :=
      if qos = 1 then mqttMsgPuback c.mundo.sorteio msgId c.mqttState.connection
      else mqttMsgPubrec c.mundo.sorteio msgId c.mqttState.connection
    let c := c.comConexao connection
    if c.outbound = [] then (.fail, c)
    else
      let r := espMqttWrite cfg c
      (if r.1 ≠ .ok then .fail else .ok, r.2)
  else (.ok, c)

/-- An answer whose write may fail without a word. -/
def respondeSemOlhar (cfg : Config) (connection : MqttConnection) (f : Cliente → Cliente)
    (c : Cliente) : Res :=
  let c := c.comConexao connection
  if c.outbound = [] then (.fail, c)
  else (.ok, (espMqttWrite cfg (f c)).2)

/-- The `switch` of `mqtt_process_receive`; `fail` is its `return ESP_FAIL`. -/
def trataMensagem (cfg : Config) (msgType : Option MqttMessageType) (msgQos : ℕ)
    (msgId : UInt16) (c : Cliente) : Res :=
  match msgType with
  | some .suback => removeInitiatorMessage .subscribe msgId (deliverSuback cfg) c
  | some .unsuback =>
      removeInitiatorMessage .unsubscribe msgId
        (fun c => (.ok, espMqttDispatchEvent cfg .outro c)) c
  | some .publish =>
      let r := deliverPublish cfg c
      if r.1 ≠ .ok then (.fail, r.2) else respondePublish cfg msgQos msgId r.2
  | some .puback | some .pubcomp =>
      removeInitiatorMessage .publish msgId
        (fun c => (.ok, espMqttDispatchEvent cfg .published c)) c
  | some .pubrec =>
      respondeSemOlhar cfg (mqttMsgPubrel c.mundo.sorteio msgId c.mqttState.connection)
        (fun c => { c with outbox := outboxSetPending c.outbox msgId .acknowledged }) c
  | some .pubrel =>
      respondeSemOlhar cfg (mqttMsgPubcomp c.mundo.sorteio msgId c.mqttState.connection) id c
  | some .pingresp =>
      let r := platformTickGetMs c
      (.ok, { r.2 with waitForPingResp := false, keepaliveTick := r.1 })
  | _ => (.ok, c)

/-- From the message in the buffer on. -/
def processaMensagem (cfg : Config) (c : Cliente) : Res :=
  let buf := c.mqttState.receptor.inBuffer
  let msgType := mqttGetType buf
  let msgId := mqttGetId buf c.mqttState.receptor.messageLength
  let r := trataMensagem cfg msgType (mqttGetQos buf) msgId
    { c with recebidos := (msgType, msgId) :: c.recebidos }
  if r.1 ≠ .ok then (.fail, r.2) else (.ok, r.2.esvazia)

def mqttProcessReceive (cfg : Config) (c : Cliente) : Res :=
  let previous := c.mqttState.receptor.inBuffer.length
  let res := mqttMessageReceive cfg.inBufferLength c.mqttState.receptor
  let c := c.comReceptor res.2
  match res.1 with
  | .nada => (.ok, c)
  | .meio => (if previous = res.2.inBuffer.length then .fail else .ok, c)
  | .erro => (.fail, espMqttClientDispatchTransportError cfg c)
  | .mensagem => processaMensagem cfg c

/-! ## Sending again -/

def mqttDeleteExpiredMessages (c : Cliente) : Cliente :=
  let (tick, c) := platformTickGetMs c
  { c with outbox := (outboxDeleteExpired c.outbox tick outboxExpiredTimeoutMs).2 }

/-- `outbox_item_get_data` into the client's state. -/
def Cliente.pega (c : Cliente) (x : OutboxItem) : Cliente :=
  (c.comOutbound x.buffer).comPendente x.msgId x.msgType x.msgQos

def escreveOuAborta (cfg : Config) (c : Cliente) : Res :=
  let r := espMqttWrite cfg c
  if r.1 ≠ .ok then (.fail, espMqttAbortConnection cfg r.2) else (.ok, r.2)

/-- The DUP flag goes into the stored message. -/
def mqttResendQueued (cfg : Config) (item : ℕ) (x : OutboxItem) (c : Cliente) : Res :=
  let c := c.pega x
  if x.msgType = some .publish ∧ 0 < x.msgQos ∧ x.pending = .transmitted then
    escreveOuAborta cfg
      { c.comOutbound (mqttSetDup x.buffer) with outbox := marcaDup c.outbox item }
  else escreveOuAborta cfg c

def mqttResendPubrel (cfg : Config) (_item : ℕ) (x : OutboxItem) (c : Cliente) : Res :=
  let c := c.pega x
  let c := c.comConexao (mqttMsgPubrel c.mundo.sorteio x.msgId c.mqttState.connection)
  if c.outbound = [] then (.fail, c) else escreveOuAborta cfg c

/-- Behind the resend of a queued message. -/
def aposReenvio (item : ℕ) (x : OutboxItem) (c : Cliente) : Cliente :=
  let c :=
    if x.msgType = some .publish ∧ x.msgQos = 0 then
      { c with outbox := (outboxDeleteItem c.outbox item).getD c.outbox }
    else c
  if 0 < x.msgQos then { c with outbox := outboxSetPending c.outbox x.msgId .transmitted } else c

/-- The first item in a state, and its place. -/
def primeiro (o : Outbox) (pending : PendingState) : Option (ℕ × OutboxItem) := do
  let item ← outboxDequeue o pending
  let x ← o.list[item]?
  return (item, x)

/-- The first message in a state goes out once more, if it is old enough. -/
def reenviaAntiga (cfg : Config) (pending : PendingState)
    (f : ℕ → OutboxItem → Cliente → Res) (c : Cliente) : Cliente :=
  match primeiro c.outbox pending with
  | none => c
  | some (item, x) =>
      if x.tick + cfg.messageRetransmitTimeout < c.lastRetransmit then (f item x c).2 else c

def reenvia (cfg : Config) (c : Cliente) : Cliente :=
  match primeiro c.outbox .queued with
  | some (item, x) =>
      let r := mqttResendQueued cfg item x c
      if r.1 = .ok then aposReenvio item x r.2 else r.2
  | none =>
      let r := platformTickGetMs c
      if hasTimedOut c.lastRetransmit cfg.messageRetransmitTimeout r.1 then
        let r := platformTickGetMs r.2
        let c := { r.2 with lastRetransmit := r.1 }
        let c := reenviaAntiga cfg .transmitted (mqttResendQueued cfg) c
        reenviaAntiga cfg .acknowledged (mqttResendPubrel cfg) c
      else r.2

/-! ## The task -/

/-- Connected for the first time, the client does not send anything again at once. -/
def primeiraVez (c : Cliente) : Cliente :=
  if c.lastRetransmit = 0 then
    let r := platformTickGetMs c
    { r.2 with lastRetransmit := r.1 }
  else c

/-- `MQTT_STATE_CONNECTED` behind `mqtt_process_receive`. -/
def voltaConectada (cfg : Config) (c : Cliente) : Cliente :=
  let r := processKeepalive cfg (reenvia cfg (primeiraVez c))
  if r.1 ≠ .ok then r.2
  else if cfg.refreshConnectionAfterMs ≠ 0 then
    let t := platformTickGetMs r.2
    if hasTimedOut r.2.refreshConnectionTick cfg.refreshConnectionAfterMs t.1 then
      { espMqttAbortConnection cfg t.2 with state := .init }
    else t.2
  else r.2

/-- `MQTT_STATE_WAIT_RECONNECT`, with `auto_reconnect`. -/
def esperaReconectar (c : Cliente) : Cliente :=
  let (tick, c) := platformTickGetMs c
  if c.waitTimeoutMs < tick - c.reconnectTick then
    let (tick, c) := platformTickGetMs c
    { c with state := .init, reconnectTick := tick }
  else c

/-- One round of `esp_mqtt_task`, up to its poll. -/
def espMqttTask (cfg : Config) (c : Cliente) : Cliente :=
  let c := mqttDeleteExpiredMessages c
  let c : Cliente :=
    match c.state with
    | .disconnected => c
    | .init => tentaConectar cfg c
    | .connected =>
        let receptor := c.mqttState.receptor
        let r := mqttProcessReceive cfg
          (c.comReceptor { receptor with entrada := receptor.entrada ++ c.mundo.chega })
        if r.1 = .fail then espMqttAbortConnection cfg r.2 else voltaConectada cfg r.2
    | .waitReconnect => esperaReconectar c
  { c with poll := decide (c.state = .connected) }

/-! ## Publishing -/

/-- What `data` and `len` are to `esp_mqtt_client_publish`: a length of zero is that of a
string. -/
def publishData (data : Option (List UInt8)) (len : ℕ) : PublishData :=
  match data with
  | none => .null len
  | some b => .bytes (if len = 0 then b.takeWhile (· ≠ 0) else b.take len)

def PublishData.len : PublishData → ℕ
  | .null len => len
  | .bytes b => b.length

def PublishData.resto (n : ℕ) : PublishData → List UInt8
  | .null _ => []
  | .bytes b => b.drop n

structure Pedido where
  topic : List UInt8
  data : PublishData
  qos : ℕ
  retain : ℕ

/-- The client with the packet, or without one; and the id. -/
def makePublish (p : Pedido) (c : Cliente) : UInt16 × Cliente :=
  let r := mqttMsgPublish c.mundo.sorteio p.topic p.data p.qos p.retain c.mqttState.connection
  (r.1, c.comConexao r.2)

/-- `length - fragmented_msg_data_offset`, an `int`. -/
def dadosNoBuffer (m : MqttMessage) : ℤ :=
  (UInt32.ofNat m.data.length - m.fragmentedMsgDataOffset).toInt32.toInt

/-- `fragmented_msg_total_length = 0` -/
def Cliente.limpa (c : Cliente) : Cliente :=
  let connection := c.mqttState.connection
  c.comConexao
    { connection with
      outboundMessage := { connection.outboundMessage with fragmentedMsgTotalLength := 0 } }

/-- `fragmented_msg_data_offset = 0` -/
def Cliente.semOffset (c : Cliente) : Cliente :=
  let connection := c.mqttState.connection
  c.comConexao
    { connection with
      outboundMessage := { connection.outboundMessage with fragmentedMsgDataOffset := 0 } }

/-- The id, or nothing if it returns below zero. -/
def mqttClientEnqueuePublish (p : Pedido) (store : Bool) (c : Cliente) :
    Option UInt16 × Cliente :=
  let r := makePublish p c
  let c := r.2
  if c.outbound = [] then (none, c)
  else if 0 < p.qos || store then
    let c := c.comPendente r.1 (mqttGetType c.outbound) p.qos
    let m := c.mqttState.connection.outboundMessage
    if m.fragmentedMsgTotalLength = 0 then
      match mqttEnqueue [] c with
      | none => (none, c)
      | some c => (some r.1, c)
    else
      match mqttEnqueue (p.data.resto (dadosNoBuffer m).toNat) c with
      | none => (none, c)
      | some c => (some r.1, c.limpa)
  else (some r.1, c)

/-- The loop of `esp_mqtt_client_publish`; `dados` is what `current_data` points to,
and `remaining` how much of it there is. Every round but the first sends a byte or
more of that, and the first makes it at most 2^31 more. -/
def publicaLoop (cfg : Config) : ℕ → ℤ → List UInt8 → Cliente → Res
  | 0, _, _, c => (.fail, c)
  | fuel + 1, remaining, dados, c =>
      let r := espMqttWrite cfg c
      if r.1 ≠ .ok then (.fail, espMqttAbortConnection cfg r.2)
      else
        let c := r.2
        let dataSent := dadosNoBuffer c.mqttState.connection.outboundMessage
        let c := c.semOffset.limpa
        let remaining := remaining - dataSent
        let dados := dados.drop dataSent.toNat
        if 0 < remaining then
          let writeLen := min remaining.toNat c.mqttState.connection.bufferLength
          publicaLoop cfg fuel remaining dados (c.comOutbound (dados.take writeLen))
        else (.ok, c)

/-- The id if it is a success, and -1 or -2. -/
def espMqttClientPublish (cfg : Config) (p : Pedido) (c : Cliente) : ℤ × Cliente :=
  if 0 < cfg.outboxLimit ∧ 0 < p.qos ∧ cfg.outboxLimit < p.data.len + outboxGetSize c.outbox then
    (-2, c)
  else
    let r := mqttClientEnqueuePublish p false c
    match r.1 with
    | none => (-1, r.2)
    | some id =>
        if r.2.state ≠ .connected then
          (if 0 < p.qos then (id.toNat : ℤ) else -1, r.2.limpa)
        else
          let w := publicaLoop cfg (p.data.len + 2 ^ 31 + 2) p.data.len (p.data.resto 0) r.2
          if w.1 ≠ .ok then (-1, w.2.limpa)
          else if 0 < p.qos then
            let t := platformTickGetMs w.2
            let outbox := outboxSetPending (outboxSetTick t.2.outbox id t.1) id .transmitted
            (id.toNat, { t.2 with outbox })
          else (id.toNat, w.2)

def espMqttClientEnqueue (cfg : Config) (p : Pedido) (store : Bool) (c : Cliente) :
    ℤ × Cliente :=
  if 0 < cfg.outboxLimit ∧ cfg.outboxLimit < p.data.len + outboxGetSize c.outbox then (-2, c)
  else
    let r := mqttClientEnqueuePublish p store c
    match r.1 with
    | none => (-1, r.2)
    | some id => (if id = 0 ∧ store = false then -1 else (id.toNat : ℤ), r.2)

/-! ## Runs -/

/-- The client that `esp_mqtt_client_start` starts from, with a buffer of `n` bytes. -/
def Cliente.novo (n : ℕ) (mundo : Mundo) : Cliente where
  mqttState := { connection := { bufferLength := n } }
  mundo := mundo

inductive Acao where
  /-- One round of the client's task. -/
  | tarefa (m : Mundo)
  /-- The poll behind a round ends, with or without an error. -/
  | poll (m : Mundo) (erro : Bool)
  | publica (m : Mundo) (p : Pedido)
  | enfileira (m : Mundo) (p : Pedido) (store : Bool)

def Cliente.comMundo (c : Cliente) (m : Mundo) : Cliente :=
  let c := c.comReceptor { c.mqttState.receptor with leituras := m.leituras }
  { c with mundo := m }

def passo (cfg : Config) (a : Acao) (c : Cliente) : Cliente :=
  match a with
  | .tarefa m => if c.poll then c else espMqttTask cfg (c.comMundo m)
  | .poll m erro =>
      if c.poll then
        let c := { c.comMundo m with poll := false }
        if erro then espMqttAbortConnection cfg c else c
      else c
  | .publica m p => (espMqttClientPublish cfg p (c.comMundo m)).2
  | .enfileira m p store => (espMqttClientEnqueue cfg p store (c.comMundo m)).2

def corre (cfg : Config) (as : List Acao) (c : Cliente) : Cliente :=
  as.foldl (fun c a => passo cfg a c) c

end HidroControl.EspMqtt
