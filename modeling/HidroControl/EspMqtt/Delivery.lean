import HidroControl.EspMqtt.ClientSafety

/-!
# From the broker's stream to the mode

On one connection the firmware is handed the commands in the packets of the broker's
stream, each once and in their order, whatever the transport does to the stream and
whatever else the client is busy with (`corre_entrega`, `conexao_entrega`).

Only the reading of a round looks at the stream. All else in a run leaves it where it is
(`Alheio`), up to the end of the connection.
-/

namespace HidroControl.EspMqtt

open Wire CText

variable {cfg : Config} {c c' : Cliente}

/-! ## What leaves the stream alone -/

/-- Nothing is handed over, and a connection that is still there has its stream where
it was. -/
structure Alheio (c c' : Cliente) : Prop where
  comandos : c'.comandos = c.comandos
  recebidos : c'.recebidos = c.recebidos
  tentativas : c'.tentativas = c.tentativas
  fluxo : c'.state = .connected →
    c.state = .connected ∧ MesmoFluxo c.mqttState.receptor c'.mqttState.receptor

theorem Alheio.refl (c : Cliente) : Alheio c c := ⟨rfl, rfl, rfl, fun h => ⟨h, .refl _⟩⟩

theorem Alheio.trans {c'' : Cliente} (h : Alheio c c') (h' : Alheio c' c'') : Alheio c c'' := by
  refine ⟨h'.comandos.trans h.comandos, h'.recebidos.trans h.recebidos,
    h'.tentativas.trans h.tentativas, fun hstate => ?_⟩
  obtain ⟨hstate', hflow'⟩ := h'.fluxo hstate
  obtain ⟨hstate₀, hflow⟩ := h.fluxo hstate'
  exact ⟨hstate₀, hflow'.inBuffer.trans hflow.inBuffer, hflow'.entrada.trans hflow.entrada⟩

theorem Micro.alheio (h : Micro cfg false c c') : Alheio c c' := by
  cases h with
  | arruma mqttState mundo poll last hlimpa hflow =>
      exact ⟨rfl, rfl, rfl, fun hstate => ⟨hstate, hflow rfl⟩⟩
  | evento e hne hdata =>
      refine ⟨?_, rfl, rfl, fun hstate => ⟨hstate, .refl _⟩⟩
      cases e with
      | data dados => exact absurd rfl (hdata rfl dados)
      | _ => rfl
  | aborta => exact ⟨rfl, rfl, rfl, fun hstate => by cases hstate⟩
  | recomeca => exact ⟨rfl, rfl, rfl, fun hstate => by cases hstate⟩
  | renova => exact ⟨rfl, rfl, rfl, fun hstate => by cases hstate⟩
  | poe x mqttState hcarta htick hlimpa hflow =>
      exact ⟨rfl, rfl, rfl, fun hstate => ⟨hstate, hflow⟩⟩
  | recebe hle => cases hle
  | pong hle => cases hle
  | responde hle => cases hle
  | _ => exact ⟨rfl, rfl, rfl, fun hstate => ⟨hstate, .refl _⟩⟩

theorem Faz.alheio (h : Faz cfg false c c') : Alheio c c' := by
  induction h with
  | refl => exact .refl c
  | tail _ hstep ih => exact ih.trans hstep.alheio

/-! ## What a packet asks for -/

/-- The mode that a packet sets, if it is a command. -/
def comandoDe (dev : Deviceid) (b : List UInt8) : Option ModoOperacao :=
  if mqttGetType b = some .publish then
    (mqttGetPublishTopic b b.length).bind fun topic =>
      processarMensagemRecebida dev
        (some ⟨some topic, dadosDoEvento ((mqttGetPublishData b b.length).getD [])⟩)
  else none

/-- What the client notes of a packet. -/
def cabecaDe (b : List UInt8) : Option MqttMessageType × UInt16 :=
  (mqttGetType b, mqttGetId b b.length)

/-! ## What the client does with a packet -/

/-- The client has handed over `cs`, and its stream is where it was. -/
structure Entrega (cs : List ModoOperacao) (c c' : Cliente) : Prop where
  comandos : c'.comandos = cs ++ c.comandos
  recebidos : c'.recebidos = c.recebidos
  tentativas : c'.tentativas = c.tentativas
  receptor : c'.mqttState.receptor = c.mqttState.receptor

theorem Entrega.trans {cs cs' : List ModoOperacao} {c'' : Cliente} (h : Entrega cs c c')
    (h' : Entrega cs' c' c'') : Entrega (cs' ++ cs) c c'' where
  comandos := by rw [h'.comandos, h.comandos, List.append_assoc]
  recebidos := h'.recebidos.trans h.recebidos
  tentativas := h'.tentativas.trans h.tentativas
  receptor := h'.receptor.trans h.receptor

theorem espMqttWrite_entrega : Entrega [] c (espMqttWrite cfg c).2 := by
  unfold espMqttWrite
  dsimp only
  split <;> exact ⟨rfl, rfl, rfl, rfl⟩

theorem comConexao_entrega (m : MqttConnection) : Entrega [] c (c.comConexao m) :=
  ⟨rfl, rfl, rfl, rfl⟩

theorem respondeSemOlhar_entrega (m : MqttConnection) {f : Cliente → Cliente}
    (hf : ∀ c, Entrega [] c (f c)) : Entrega [] c (respondeSemOlhar cfg m f c).2 := by
  unfold respondeSemOlhar
  dsimp only
  split
  · exact comConexao_entrega m
  · exact ((comConexao_entrega m).trans (hf _)).trans espMqttWrite_entrega

theorem removeInitiatorMessage_entrega (msgType : MqttMessageType) (msgId : UInt16)
    {f : Cliente → Res} (hf : ∀ c, Entrega [] c (f c).2) :
    Entrega [] c (removeInitiatorMessage msgType msgId f c).2 := by
  unfold removeInitiatorMessage
  split
  · exact ⟨rfl, rfl, rfl, rfl⟩
  next outbox _ =>
    have hdelete : Entrega [] c { c with outbox } := ⟨rfl, rfl, rfl, rfl⟩
    exact hdelete.trans (hf _)

theorem deliverSuback_entrega : Entrega [] c (deliverSuback cfg c).2 := by
  unfold deliverSuback
  dsimp only
  split <;> exact ⟨rfl, rfl, rfl, rfl⟩

theorem respondePublish_entrega (qos : ℕ) (msgId : UInt16) :
    Entrega [] c (respondePublish cfg qos msgId c).2 := by
  unfold respondePublish
  split
  · generalize (if qos = 1 then mqttMsgPuback c.mundo.sorteio msgId c.mqttState.connection
      else mqttMsgPubrec c.mundo.sorteio msgId c.mqttState.connection) = m
    dsimp only
    split
    · exact comConexao_entrega _
    · exact (comConexao_entrega _).trans espMqttWrite_entrega
  · exact ⟨rfl, rfl, rfl, rfl⟩

/-- A PUBLISH that is in the buffer whole comes in one event. -/
theorem deliverPublish_entrega
    (hlength : c.mqttState.receptor.messageLength = c.mqttState.receptor.inBuffer.length)
    (htype : mqttGetType c.mqttState.receptor.inBuffer = some .publish) :
    Entrega (comandoDe cfg.dev c.mqttState.receptor.inBuffer).toList c
      (deliverPublish cfg c).2 := by
  unfold deliverPublish comandoDe
  dsimp only
  rw [hlength, Nat.sub_self, if_pos htype]
  cases mqttGetPublishTopic c.mqttState.receptor.inBuffer c.mqttState.receptor.inBuffer.length with
  | none => exact ⟨rfl, rfl, rfl, rfl⟩
  | some topic => exact ⟨rfl, rfl, rfl, rfl⟩

/-- Whatever the packet is, it is handed over as the command it is, or not at all. -/
theorem trataMensagem_entrega (cfg : Config) (c : Cliente) (msgQos : ℕ) (msgId : UInt16)
    (hlength : c.mqttState.receptor.messageLength = c.mqttState.receptor.inBuffer.length) :
    Entrega (comandoDe cfg.dev c.mqttState.receptor.inBuffer).toList c
      (trataMensagem cfg (mqttGetType c.mqttState.receptor.inBuffer) msgQos msgId c).2 := by
  by_cases htype : mqttGetType c.mqttState.receptor.inBuffer = some .publish
  · have hdeliver : Entrega _ c (deliverPublish cfg c).2 := deliverPublish_entrega hlength htype
    rw [htype]
    unfold trataMensagem
    dsimp only
    split
    · exact hdeliver
    · exact hdeliver.trans (respondePublish_entrega _ _)
  · rw [comandoDe, if_neg htype]
    unfold trataMensagem
    split
    · exact removeInitiatorMessage_entrega _ _ fun _ => deliverSuback_entrega
    · exact removeInitiatorMessage_entrega _ _ fun _ => ⟨rfl, rfl, rfl, rfl⟩
    next hpublish => exact absurd hpublish htype
    · exact removeInitiatorMessage_entrega _ _ fun _ => ⟨rfl, rfl, rfl, rfl⟩
    · exact removeInitiatorMessage_entrega _ _ fun _ => ⟨rfl, rfl, rfl, rfl⟩
    · exact respondeSemOlhar_entrega _ fun _ => ⟨rfl, rfl, rfl, rfl⟩
    · exact respondeSemOlhar_entrega _ fun _ => ⟨rfl, rfl, rfl, rfl⟩
    · exact ⟨rfl, rfl, rfl, rfl⟩
    · exact ⟨rfl, rfl, rfl, rfl⟩

/-! ## Reading -/

/-- The client has handled the packets `lidos`: the firmware has been handed their
commands, and the client has noted what they are. -/
structure Consome (dev : Deviceid) (lidos : List Quadro) (c c' : Cliente) : Prop where
  comandos : c'.comandos =
    (lidos.filterMap fun q => comandoDe dev q.bytes).reverse ++ c.comandos
  recebidos : c'.recebidos = (lidos.map fun q => cabecaDe q.bytes).reverse ++ c.recebidos

theorem Consome.nada {dev : Deviceid} (hcomandos : c'.comandos = c.comandos)
    (hrecebidos : c'.recebidos = c.recebidos) : Consome dev [] c c' :=
  ⟨hcomandos, hrecebidos⟩

theorem Consome.trans {dev : Deviceid} {lidos lidos' : List Quadro} {c'' : Cliente}
    (h : Consome dev lidos c c') (h' : Consome dev lidos' c' c'') :
    Consome dev (lidos ++ lidos') c c'' where
  comandos := by
    rw [h'.comandos, h.comandos, List.filterMap_append, List.reverse_append, List.append_assoc]
  recebidos := by
    rw [h'.recebidos, h.recebidos, List.map_append, List.reverse_append, List.append_assoc]

/-- Of the packets `qs` the client has handled some; it stands before the others if it
is connected. -/
def Entregue (cfg : Config) (qs : List Quadro) (futuro : List UInt8) (c₀ c : Cliente) : Prop :=
  ∃ lidos resto, qs = lidos ++ resto ∧ Consome cfg.dev lidos c₀ c ∧
    (c.state = .connected → Antes resto futuro c.mqttState.receptor)

theorem Entregue.alheio {qs : List Quadro} {futuro : List UInt8} {c₀ : Cliente}
    (h : Entregue cfg qs futuro c₀ c) (h' : Alheio c c') : Entregue cfg qs futuro c₀ c' := by
  obtain ⟨lidos, resto, hqs, hread, hstream⟩ := h
  refine ⟨lidos, resto, hqs, ⟨h'.comandos.trans hread.comandos,
    h'.recebidos.trans hread.recebidos⟩, fun hstate => ?_⟩
  obtain ⟨hstate₀, hflow⟩ := h'.fluxo hstate
  exact (hstream hstate₀).congr hflow.inBuffer hflow.entrada

/-- The packet in the buffer. -/
theorem processaMensagem_consome (cfg : Config) (c : Cliente) {q : Quadro} {qs : List Quadro} {futuro : List UInt8}
    (hem : Em (q.bytes ++ fluxoDe qs) futuro q.bytes.length c.mqttState.receptor)
    (hlength : c.mqttState.receptor.messageLength = q.bytes.length) :
    Consome cfg.dev [q] c (processaMensagem cfg c).2 ∧
      (processaMensagem cfg c).2.tentativas = c.tentativas ∧
      ((processaMensagem cfg c).1 ≠ .fail →
        Antes qs futuro (processaMensagem cfg c).2.mqttState.receptor) := by
  have hbuffer : c.mqttState.receptor.inBuffer = q.bytes := by
    rw [hem.buffer, List.take_left]
  unfold processaMensagem
  dsimp only
  rw [hbuffer, hlength]
  generalize hc₁ : ({ c with recebidos := (mqttGetType q.bytes, mqttGetId q.bytes q.bytes.length) ::
    c.recebidos } : Cliente) = c₁
  have hreceptor : c₁.mqttState.receptor = c.mqttState.receptor := by rw [← hc₁]
  have hdone := trataMensagem_entrega cfg c₁ (mqttGetQos q.bytes) (mqttGetId q.bytes q.bytes.length)
    (by rw [hreceptor, hlength, hbuffer])
  rw [hreceptor, hbuffer] at hdone
  generalize trataMensagem cfg (mqttGetType q.bytes) (mqttGetQos q.bytes)
    (mqttGetId q.bytes q.bytes.length) c₁ = r at hdone ⊢
  have hread : Consome cfg.dev [q] c r.2 := by
    constructor
    · rw [hdone.comandos, ← hc₁]
      cases hcmd : comandoDe cfg.dev q.bytes <;> simp [hcmd]
    · rw [hdone.recebidos, ← hc₁]
      rfl
  have htent : r.2.tentativas = c.tentativas := by rw [hdone.tentativas, ← hc₁]
  split
  · exact ⟨hread, htent, fun hok => absurd rfl hok⟩
  · refine ⟨⟨hread.comandos, hread.recebidos⟩, htent, fun _ => antes_zero ?_⟩
    have hnext := hem.proximo
    rw [← hreceptor, ← hdone.receptor] at hnext
    exact hnext

/-- **One reading of the client.** -/
theorem mqttProcessReceive_consome (hL : 6 ≤ cfg.inBufferLength) {qs : List Quadro}
    (hqs : ∀ q ∈ qs, q.Inteiro cfg.inBufferLength) {futuro : List UInt8}
    (h : Antes qs futuro c.mqttState.receptor) :
    (mqttProcessReceive cfg c).2.tentativas = c.tentativas ∧
      ∃ lidos resto, qs = lidos ++ resto ∧ Consome cfg.dev lidos c (mqttProcessReceive cfg c).2 ∧
        ((mqttProcessReceive cfg c).1 ≠ .fail →
          Antes resto futuro (mqttProcessReceive cfg c).2.mqttState.receptor) := by
  have hcall := mqttMessageReceive_antes hL hqs h
  unfold mqttProcessReceive
  dsimp only
  generalize mqttMessageReceive cfg.inBufferLength c.mqttState.receptor = res at hcall ⊢
  rcases hcall with hbad | ⟨hwait | hwait, hantes⟩ | ⟨hmsg, q, qs', rfl, hem, hlength⟩
  · rw [hbad]
    exact ⟨rfl, [], qs, rfl, .nada rfl rfl, fun hok => absurd rfl hok⟩
  · rw [hwait]
    exact ⟨rfl, [], qs, rfl, .nada rfl rfl, fun _ => hantes⟩
  · rw [hwait]
    exact ⟨rfl, [], qs, rfl, .nada rfl rfl, fun _ => hantes⟩
  · rw [hmsg]
    obtain ⟨hread, htent, hnext⟩ := processaMensagem_consome cfg (c.comReceptor res.2) hem hlength
    exact ⟨htent, [q], qs', rfl, ⟨hread.comandos, hread.recebidos⟩, hnext⟩

/-! ## Connecting -/

/-- The client waits for the first packet of the stream, and takes no other. -/
theorem esperaConnack_em {L : ℕ} (hL : 6 ≤ L) {q : Quadro} (hq : q.Inteiro L)
    {qs : List Quadro} {futuro : List UInt8} (leituras : List ℤ) (mais : List (List ℤ))
    {r : Receptor} (h : Antes (q :: qs) futuro r) (hqs : ∀ q ∈ qs, q.Inteiro L)
    (hmsg : (esperaConnack L leituras mais r).1 = .mensagem) :
    Em (q.bytes ++ fluxoDe qs) futuro q.bytes.length (esperaConnack L leituras mais r).2 := by
  have hall : ∀ q' ∈ q :: qs, q'.Inteiro L := by
    rintro q' (_ | ⟨_, hq'⟩)
    · exact hq
    · exact hqs q' hq'
  have hcall := fun leituras => mqttMessageReceive_antes hL hall
    (show Antes (q :: qs) futuro { r with leituras } from h.congr rfl rfl)
  induction mais generalizing leituras r with
  | nil =>
      rcases hcall leituras with hbad | ⟨hwait | hwait, -⟩ | ⟨-, q', qs', heq, hem, -⟩
      · exact absurd (hbad.symm.trans hmsg) (by simp)
      · exact absurd (hwait.symm.trans hmsg) (by simp)
      · exact absurd (hwait.symm.trans hmsg) (by simp)
      · obtain ⟨rfl, rfl⟩ := List.cons.inj heq
        exact hem
  | cons proximas mais ih =>
      unfold esperaConnack at hmsg ⊢
      dsimp only at hmsg ⊢
      split at hmsg
      next hnada =>
        rw [if_pos hnada]
        have hantes : Antes (q :: qs) futuro (mqttMessageReceive L { r with leituras }).2 := by
          rcases hcall leituras with hbad | ⟨-, hantes⟩ | ⟨hdone, -⟩
          · rw [hbad] at hnada
            cases hnada
          · exact hantes
          · rw [hdone] at hnada
            cases hnada
        exact ih proximas hantes hmsg fun leituras => mqttMessageReceive_antes hL hall
          (hantes.congr rfl rfl)
      next hnada =>
        rw [if_neg hnada]
        rcases hcall leituras with hbad | ⟨hwait | hwait, -⟩ | ⟨-, q', qs', heq, hem, -⟩
        · exact absurd (hbad.symm.trans hmsg) (by simp)
        · exact absurd (hwait.symm.trans hmsg) (by simp)
        · exact absurd (hwait.symm.trans hmsg) (by simp)
        · obtain ⟨rfl, rfl⟩ := List.cons.inj heq
          exact hem

/-- Off the stream, only what is handed over matters. -/
theorem alheio_fora (hcomandos : c'.comandos = c.comandos) (hrecebidos : c'.recebidos = c.recebidos)
    (htentativas : c'.tentativas = c.tentativas) (hstate : c'.state ≠ .connected) : Alheio c c' :=
  ⟨hcomandos, hrecebidos, htentativas, fun h => absurd h hstate⟩

/-- Up to the CONNACK nothing is handed over, and the client takes one packet. -/
theorem espMqttConnect_conecta (cfg : Config) (hinit : c.state = .init) :
    Alheio c (espMqttConnect cfg c).2 ∧
      ∀ {q : Quadro} {qs : List Quadro} {futuro : List UInt8}, 6 ≤ cfg.inBufferLength →
        (∀ q' ∈ q :: qs, q'.Inteiro cfg.inBufferLength) →
        c.mqttState.receptor.entrada ++ futuro = fluxoDe (q :: qs) →
        (espMqttConnect cfg c).1 = .ok →
        Antes qs futuro (espMqttConnect cfg c).2.mqttState.receptor := by
  unfold espMqttConnect
  dsimp only
  split
  · exact ⟨alheio_fora rfl rfl rfl (by simp [Cliente.comConexao, hinit]), fun _ _ _ hok => absurd hok (by simp)⟩
  · generalize hc₁ : Cliente.comPendente _ _ _ _ = c₁
    have hwrite : Entrega [] c₁ (espMqttWrite cfg c₁).2 := espMqttWrite_entrega
    have hstate : (espMqttWrite cfg c₁).2.state = c₁.state := espMqttWrite_state
    generalize espMqttWrite cfg c₁ = r at hwrite hstate ⊢
    have hfora : ∀ c₂ : Cliente, c₂.comandos = r.2.comandos → c₂.recebidos = r.2.recebidos →
        c₂.tentativas = r.2.tentativas → c₂.state = r.2.state → Alheio c c₂ := by
      subst hc₁
      intro c₂ hcomandos hrecebidos htentativas hstate₂
      refine alheio_fora (hcomandos.trans hwrite.comandos) (hrecebidos.trans hwrite.recebidos)
        (htentativas.trans hwrite.tentativas) ?_
      rw [hstate₂, hstate]
      simp [Cliente.comPendente, Cliente.comConexao, hinit]
    split
    · exact ⟨hfora _ rfl rfl rfl rfl, fun _ _ _ hok => absurd hok (by simp)⟩
    · generalize hres : esperaConnack cfg.inBufferLength _ _ _ = res
      split
      · exact ⟨hfora _ rfl rfl rfl rfl, fun _ _ _ hok => absurd hok (by simp)⟩
      · split
        · exact ⟨hfora _ rfl rfl rfl rfl, fun _ _ _ hok => absurd hok (by simp)⟩
        next hmsg =>
          split
          · exact ⟨hfora _ rfl rfl rfl rfl, fun _ _ _ hok => absurd hok (by simp)⟩
          · split
            · refine ⟨hfora _ rfl rfl rfl rfl, fun {q qs futuro} hL hqs hfluxo _ => ?_⟩
              have hentrada : r.2.mqttState.receptor.entrada = c.mqttState.receptor.entrada := by
                rw [hwrite.receptor, ← hc₁]
                rfl
              have hstart : Antes (q :: qs) futuro
                  { r.2.mqttState.receptor with inBuffer := [], messageLength := 0 } := by
                refine antes_zero ⟨rfl, ?_, Nat.zero_le _⟩
                rw [hentrada, hfluxo]
                rfl
              have hem := esperaConnack_em hL (hqs q List.mem_cons_self)
                (r.2.mundo.connack.headD []) r.2.mundo.connack.tail hstart
                (fun q' hq' => hqs q' (List.mem_cons_of_mem q hq'))
                (by rw [hres]; exact not_not.mp hmsg)
              rw [hres] at hem
              exact antes_zero hem.proximo
            · exact ⟨hfora _ rfl rfl rfl rfl, fun _ _ _ hok => absurd hok (by simp)⟩

/-- **An attempt to connect**: it hands nothing over, and if it brings a connection, the
client stands behind the first packet of the stream. -/
theorem tentaConectar_conecta (cfg : Config) (hc : Limpa c.mqttState.connection) (hinit : c.state = .init) :
    (tentaConectar cfg c).comandos = c.comandos ∧
      (tentaConectar cfg c).recebidos = c.recebidos ∧
      (∃ t, (tentaConectar cfg c).tentativas = t :: c.tentativas) ∧
      ∀ {q : Quadro} {qs : List Quadro} {futuro : List UInt8}, 6 ≤ cfg.inBufferLength →
        (∀ q' ∈ q :: qs, q'.Inteiro cfg.inBufferLength) →
        c.mundo.chega ++ futuro = fluxoDe (q :: qs) →
        (tentaConectar cfg c).state = .connected →
        Antes qs futuro (tentaConectar cfg c).mqttState.receptor := by
  have houtro : Alheio c (espMqttDispatchEvent cfg .outro c) := ⟨rfl, rfl, rfl, fun h => ⟨h, .refl _⟩⟩
  unfold tentaConectar
  generalize hc₁ : espTransportConnect (espMqttDispatchEvent cfg .outro c) = c₁
  have hclean : Limpa c₁.mqttState.connection := by rw [← hc₁]; exact hc
  have hinit₁ : c₁.state = .init := by rw [← hc₁]; exact hinit
  have hchega : c₁.mqttState.receptor.entrada = c.mundo.chega := by rw [← hc₁]; rfl
  -- what has been handed over is as it was, and there is one attempt more
  have hconta : ∀ c₂, Alheio c₁ c₂ → c₂.comandos = c.comandos ∧ c₂.recebidos = c.recebidos ∧
      ∃ t, c₂.tentativas = t :: c.tentativas := by
    rintro c₂ ⟨hcomandos, hrecebidos, htentativas, -⟩
    rw [hcomandos, hrecebidos, htentativas, ← hc₁]
    exact ⟨rfl, rfl, _, rfl⟩
  have hsolta : ∀ c₂, Alheio c₁ c₂ → Alheio c₁ (espMqttAbortConnection cfg c₂) := fun c₂ h₂ =>
    h₂.trans espMqttAbortConnection_faz.alheio
  dsimp only
  split
  · have herror : Faz cfg false c₁ (espMqttClientDispatchTransportError cfg c₁) :=
      evento_faz (by simp) (by simp)
    obtain ⟨hcomandos, hrecebidos, htentativas⟩ := hconta _ (hsolta _ herror.alheio)
    exact ⟨hcomandos, hrecebidos, htentativas, fun _ _ _ h => nomatch h⟩
  · obtain ⟨halheio, hfluxo⟩ := espMqttConnect_conecta cfg hinit₁
    have hconnect : Faz cfg true c₁ (espMqttConnect cfg c₁).2 := espMqttConnect_faz hinit₁
    have hclean₂ := hconnect.limpa hclean
    generalize espMqttConnect cfg c₁ = r at halheio hfluxo hclean₂ ⊢
    split
    · obtain ⟨hcomandos, hrecebidos, htentativas⟩ := hconta _ (hsolta _ halheio)
      exact ⟨hcomandos, hrecebidos, htentativas, fun _ _ _ h => nomatch h⟩
    next hok =>
      have hsub : Faz cfg false (r.2.liga cfg)
          (despachaConnected cfg { r.2 with state := .connected }) :=
        espMqttClientSubscribe_faz (c := r.2.liga cfg) hclean₂ _ _
      generalize despachaConnected cfg { r.2 with state := .connected } = c₂ at hsub ⊢
      have hrest : Alheio (r.2.liga cfg) c₂ := hsub.alheio
      obtain ⟨hcomandos, hrecebidos, htentativas⟩ := hconta _ halheio
      obtain ⟨hcomandos₂, hrecebidos₂, htentativas₂, hfluxo₂⟩ := hrest
      refine ⟨hcomandos₂.trans hcomandos, hrecebidos₂.trans hrecebidos, ?_,
        fun {q qs futuro} hL hqs hstream hstate => ?_⟩
      · obtain ⟨t, ht⟩ := htentativas
        exact ⟨t, htentativas₂.trans ht⟩
      · obtain ⟨-, hsame⟩ := hfluxo₂ hstate
        have hantes : Antes qs futuro r.2.mqttState.receptor :=
          hfluxo hL hqs (by rw [hchega, hstream]) (not_not.mp hok)
        exact hantes.congr hsame.inBuffer hsame.entrada

/-! ## Runs -/

/-- What the client is given of the broker's stream in one action. -/
def ouve (a : Acao) (c : Cliente) : List UInt8 :=
  match a with
  | .tarefa m =>
      if c.poll = false ∧ (c.state = .init ∨ c.state = .connected) then m.chega else []
  | _ => []

/-- And in a run. -/
def ouvido (cfg : Config) : List Acao → Cliente → List UInt8
  | [], _ => []
  | a :: as, c => ouve a c ++ ouvido cfg as (passo cfg a c)

theorem Micro.tentativas (h : Micro cfg le c c') : c'.tentativas = c.tentativas := by
  cases h <;> rfl

/-- Attempts are never undone. -/
theorem corre_sufixo (cfg : Config) {as : List Acao} (has : ∀ a ∈ as, a.Segura)
    (hc : Limpa c.mqttState.connection) : c.tentativas <:+ (corre cfg as c).tentativas := by
  have hround : ∀ {c₁ c₂ : Cliente}, Rodada cfg c₁ c₂ → c.tentativas <:+ c₁.tentativas →
      c.tentativas <:+ c₂.tentativas := by
    intro c₁ c₂ hround h₁
    refine hround.induz (P := fun c' => c.tentativas <:+ c'.tentativas) ?_ ?_ ?_ ?_ h₁
    · intro c₃ c₄ hstep h₃
      rwa [hstep.tentativas]
    · exact fun _ _ h₃ => h₃.trans (List.suffix_cons _ _)
    · exact fun _ h₃ => h₃
    · exact fun _ _ h₃ => h₃
  exact corre_induz hround has hc List.suffix_rfl

theorem comMundo_alheio (c : Cliente) (m : Mundo) : Alheio c (c.comMundo m) :=
  ⟨rfl, rfl, rfl, fun h => ⟨h, rfl, rfl⟩⟩

/-- Of what was still to come, the client has handled some more. -/
theorem Entregue.entao {qs : List Quadro} {futuro futuro' : List UInt8} {c₀ : Cliente}
    (h : Entregue cfg qs futuro c₀ c) (hstate : c.state = .connected)
    (hread : ∀ {resto}, (∃ lidos, qs = lidos ++ resto) → Antes resto futuro c.mqttState.receptor →
      Entregue cfg resto futuro' c c') : Entregue cfg qs futuro' c₀ c' := by
  obtain ⟨lidos, resto, rfl, hdone, hstream⟩ := h
  obtain ⟨lidos', resto', rfl, hdone', hstream'⟩ := hread ⟨lidos, rfl⟩ (hstream hstate)
  exact ⟨lidos ++ lidos', resto', (List.append_assoc _ _ _).symm, hdone.trans hdone', hstream'⟩

/-- **A round of a connected client.** -/
theorem espMqttTask_ligada (hL : 6 ≤ cfg.inBufferLength) {qs : List Quadro}
    (hqs : ∀ q ∈ qs, q.Inteiro cfg.inBufferLength) {futuro : List UInt8}
    (hstate : c.state = .connected) (h : Antes qs (c.mundo.chega ++ futuro) c.mqttState.receptor) :
    Entregue cfg qs futuro c (espMqttTask cfg c) := by
  have hexpired : Faz cfg false c (mqttDeleteExpiredMessages c) := mqttDeleteExpiredMessages_faz
  unfold espMqttTask
  dsimp only
  rw [show (mqttDeleteExpiredMessages c).state = .connected from hstate]
  dsimp only
  generalize hc₁ : (mqttDeleteExpiredMessages c).comReceptor _ = c₁
  have hantes : Antes qs futuro c₁.mqttState.receptor := by
    rw [← hc₁]
    exact h.chega
  have hcomandos : c₁.comandos = c.comandos := by rw [← hc₁]; rfl
  have hrecebidos : c₁.recebidos = c.recebidos := by rw [← hc₁]; rfl
  obtain ⟨-, lidos, resto, rfl, hread, hnext⟩ := mqttProcessReceive_consome hL hqs hantes
  have hread' : Consome cfg.dev lidos c (mqttProcessReceive cfg c₁).2 :=
    ⟨hcomandos ▸ hread.comandos, hrecebidos ▸ hread.recebidos⟩
  generalize mqttProcessReceive cfg c₁ = r at hread' hnext ⊢
  suffices h₂ : ∀ c₂, Entregue cfg (lidos ++ resto) futuro c c₂ →
      Entregue cfg (lidos ++ resto) futuro c { c₂ with poll := decide (c₂.state = .connected) } by
    apply h₂
    split
    · exact ⟨lidos, resto, rfl, ⟨hread'.comandos, hread'.recebidos⟩, fun h => nomatch h⟩
    next hok =>
      have hdone : Entregue cfg (lidos ++ resto) futuro c r.2 :=
        ⟨lidos, resto, rfl, hread', fun _ => hnext hok⟩
      have hback : Faz cfg false r.2 (voltaConectada cfg r.2) := voltaConectada_faz
      exact hdone.alheio hback.alheio
  intro c₂ h₂
  have hpoll : Faz cfg false c₂ { c₂ with poll := decide (c₂.state = .connected) } := poll_faz _
  exact h₂.alheio hpoll.alheio

/-- A round of a client that has no connection, and tries for none. -/
theorem espMqttTask_desligada (hinit : c.state ≠ .init) (hstate : c.state ≠ .connected) :
    Alheio c (espMqttTask cfg c) := by
  have hexpired : Faz cfg false c (mqttDeleteExpiredMessages c) := mqttDeleteExpiredMessages_faz
  have hpoll : ∀ c₁ : Cliente, Alheio c₁ { c₁ with poll := decide (c₁.state = .connected) } := by
    intro c₁
    have hfaz : Faz cfg false c₁ { c₁ with poll := decide (c₁.state = .connected) } := poll_faz _
    exact hfaz.alheio
  have hsame : (mqttDeleteExpiredMessages c).state = c.state := rfl
  unfold espMqttTask
  dsimp only
  generalize mqttDeleteExpiredMessages c = c₀ at *
  refine hexpired.alheio.trans (Alheio.trans ?_ (hpoll _))
  split
  · exact .refl _
  next h => exact absurd (hsame.symm.trans h) hinit
  next h => exact absurd (hsame.symm.trans h) hstate
  next h =>
    have hwait : Faz cfg false c₀ (esperaReconectar c₀) := esperaReconectar_faz h
    exact hwait.alheio

/-- A round that tries to connect. -/
theorem espMqttTask_tenta (cfg : Config) (hc : Limpa c.mqttState.connection) (hinit : c.state = .init) :
    (espMqttTask cfg c).comandos = c.comandos ∧
      (espMqttTask cfg c).recebidos = c.recebidos ∧
      (∃ t, (espMqttTask cfg c).tentativas = t :: c.tentativas) ∧
      ∀ {q : Quadro} {qs : List Quadro} {futuro : List UInt8}, 6 ≤ cfg.inBufferLength →
        (∀ q' ∈ q :: qs, q'.Inteiro cfg.inBufferLength) →
        c.mundo.chega ++ futuro = fluxoDe (q :: qs) →
        (espMqttTask cfg c).state = .connected →
        Antes qs futuro (espMqttTask cfg c).mqttState.receptor := by
  have htry := tentaConectar_conecta cfg (c := mqttDeleteExpiredMessages c) hc hinit
  unfold espMqttTask
  dsimp only
  rw [show (mqttDeleteExpiredMessages c).state = .init from hinit]
  exact htry

/-- **One action**, on a connection that there already is. -/
theorem passo_entregue (hL : 6 ≤ cfg.inBufferLength) {qs : List Quadro}
    (hqs : ∀ q ∈ qs, q.Inteiro cfg.inBufferLength) {futuro : List UInt8} {c₀ : Cliente}
    {a : Acao} (ha : a.Segura) (hc : Limpa c.mqttState.connection)
    (h : Entregue cfg qs (ouve a c ++ futuro) c₀ c)
    (htentativas : (passo cfg a c).tentativas = c.tentativas) :
    Entregue cfg qs futuro c₀ (passo cfg a c) := by
  by_cases htarefa : ∃ m, a = .tarefa m
  · obtain ⟨m, rfl⟩ := htarefa
    by_cases hpoll : c.poll = false
    · rw [passo_tarefa hpoll] at htentativas ⊢
      have h₁ : Entregue cfg qs (ouve (.tarefa m) c ++ futuro) c₀ (c.comMundo m) :=
        h.alheio (comMundo_alheio c m)
      by_cases hstate : c.state = .connected
      · rw [show ouve (.tarefa m) c = m.chega from if_pos ⟨hpoll, Or.inr hstate⟩] at h₁
        refine h₁.entao hstate fun ⟨lidos, hsplit⟩ hantes => ?_
        exact espMqttTask_ligada hL
          (fun q hq => hqs q (hsplit ▸ List.mem_append_right lidos hq)) hstate hantes
      · by_cases hinit : c.state = .init
        · obtain ⟨-, -, ⟨t, ht⟩, -⟩ := espMqttTask_tenta cfg (c := c.comMundo m) hc hinit
          have hlength := congrArg List.length (ht.symm.trans htentativas)
          simp [Cliente.comMundo, Cliente.comReceptor] at hlength
        · have hnone : ouve (.tarefa m) c = [] := if_neg fun h => h.2.elim hinit hstate
          rw [hnone, List.nil_append] at h₁
          exact h₁.alheio (espMqttTask_desligada (c := c.comMundo m) hinit hstate)
    · have hnone : ouve (.tarefa m) c = [] := if_neg fun h => hpoll h.1
      rw [hnone, List.nil_append] at h
      rw [passo_tarefa_poll (Bool.not_eq_false _ ▸ hpoll)]
      exact h
  · have hother : ∀ m, a ≠ .tarefa m := fun m h => htarefa ⟨m, h⟩
    have hstep : Faz cfg false c (passo cfg a c) := passo_faz ha hc hother
    have hnone : ouve a c = [] := by
      cases a with
      | tarefa m => exact absurd rfl (hother m)
      | _ => rfl
    rw [hnone, List.nil_append] at h
    exact h.alheio hstep.alheio

/-- **While a connection lasts**, the firmware is handed the commands in the packets of
the broker's stream, each once and in their order, whatever the client was called for in
between; and if the connection is still there at the end, the client stands before the
packets that it has not handled. -/
theorem corre_entrega (hL : 6 ≤ cfg.inBufferLength) {qs : List Quadro}
    (hqs : ∀ q ∈ qs, q.Inteiro cfg.inBufferLength) {futuro : List UInt8} {c₀ : Cliente}
    {as : List Acao} (has : ∀ a ∈ as, a.Segura) (hc : Limpa c.mqttState.connection)
    (h : Entregue cfg qs (ouvido cfg as c ++ futuro) c₀ c)
    (htentativas : (corre cfg as c).tentativas = c.tentativas) :
    Entregue cfg qs futuro c₀ (corre cfg as c) := by
  induction as generalizing c with
  | nil => exact h
  | cons a as ih =>
      have ha : a.Segura := has a (by simp)
      have has' : ∀ b ∈ as, b.Segura := fun b hb => has b (by simp [hb])
      have hround : Rodada cfg c (passo cfg a c) := passo_rodada ha hc
      have hfirst : c.tentativas <:+ (corre cfg [a] c).tentativas :=
        corre_sufixo cfg (by simpa using ha) hc
      have hrest : (passo cfg a c).tentativas <:+ c.tentativas := by
        have hsuffix := corre_sufixo cfg has' (hround.limpa hc)
        rwa [show corre cfg as (passo cfg a c) = corre cfg (a :: as) c from rfl,
          htentativas] at hsuffix
      have hsame : (passo cfg a c).tentativas = c.tentativas :=
        hrest.eq_of_length (le_antisymm hrest.length_le hfirst.length_le)
      rw [ouvido, List.append_assoc] at h
      exact ih has' (hround.limpa hc) (passo_entregue hL hqs ha hc h hsame)
        (htentativas.trans hsame.symm)

/-- **On one connection**, from the attempt that brings it, the firmware is handed the
commands in the first of the packets behind the CONNACK, each once and in their order.
As long as the connection is there, the packets it has not been handed are in the
client's buffer and still to come. -/
theorem conexao_entrega (hL : 6 ≤ cfg.inBufferLength) (connack : Quadro) {qs : List Quadro}
    (hqs : ∀ q ∈ connack :: qs, q.Inteiro cfg.inBufferLength) {futuro : List UInt8} {m : Mundo}
    {as : List Acao} (has : ∀ a ∈ as, a.Segura) (hc : Limpa c.mqttState.connection)
    (hpoll : c.poll = false) (hinit : c.state = .init)
    (hfluxo : ouvido cfg (.tarefa m :: as) c ++ futuro = fluxoDe (connack :: qs))
    (huma : (corre cfg (.tarefa m :: as) c).tentativas.length = c.tentativas.length + 1) :
    ∃ n, Consome cfg.dev (qs.take n) c (corre cfg (.tarefa m :: as) c) ∧
      ((corre cfg (.tarefa m :: as) c).state = .connected →
        (corre cfg (.tarefa m :: as) c).mqttState.receptor.inBuffer ++
          (corre cfg (.tarefa m :: as) c).mqttState.receptor.entrada ++ futuro =
            fluxoDe (qs.drop n)) := by
  have hround : Rodada cfg c (passo cfg (.tarefa m) c) := passo_rodada trivial hc
  have hsuffix := corre_sufixo cfg has (hround.limpa hc)
  obtain ⟨hcomandos, hrecebidos, ⟨t, ht⟩, hconecta⟩ :=
    espMqttTask_tenta cfg (c := c.comMundo m) hc hinit
  rw [ouvido, show ouve (.tarefa m) c = m.chega from if_pos ⟨hpoll, Or.inl hinit⟩,
    List.append_assoc] at hfluxo
  rw [show corre cfg (.tarefa m :: as) c = corre cfg as (passo cfg (.tarefa m) c) from rfl,
    passo_tarefa hpoll] at *
  have hlength : (espMqttTask cfg (c.comMundo m)).tentativas.length = c.tentativas.length + 1 :=
    congrArg List.length ht
  have hstart : Entregue cfg qs (ouvido cfg as (espMqttTask cfg (c.comMundo m)) ++ futuro)
      (espMqttTask cfg (c.comMundo m)) (espMqttTask cfg (c.comMundo m)) :=
    ⟨[], qs, rfl, .nada rfl rfl, hconecta hL hqs hfluxo⟩
  obtain ⟨lidos, resto, hsplit, hread, hstream⟩ := corre_entrega hL
    (fun q hq => hqs q (List.mem_cons_of_mem connack hq)) has (hround.limpa hc) hstart
    (hsuffix.eq_of_length (hlength.trans huma.symm)).symm
  have htake : qs.take lidos.length = lidos := by rw [hsplit, List.take_left]
  have hdrop : qs.drop lidos.length = resto := by rw [hsplit, List.drop_left]
  refine ⟨lidos.length, ?_, fun hstate => ?_⟩
  · rw [htake]
    exact ⟨hread.comandos.trans (congrArg _ hcomandos),
      hread.recebidos.trans (congrArg _ hrecebidos)⟩
  · obtain ⟨k, hem, -⟩ := (hstream hstate).em
    rw [hdrop, List.append_assoc, hem.buffer, hem.entrada, List.take_append_drop]

/-- `MIX`, for a station that does not know its address. -/
def corpoDeTeste : List UInt8 :=
  be16 31 ++ toBytes "hidrocontrol/ac220-unknown/modo".toList ++ be16 9 ++ toBytes "MIX".toList

theorem comandoDeTeste_valido : mqttHasValidMsgHdr [50] 1 = true := by decide

theorem comandoDeTeste_curto : (encode corpoDeTeste.length).length ≤ 4 := by decide

def comandoDeTeste : Quadro := .de 50 corpoDeTeste comandoDeTeste_valido comandoDeTeste_curto

/-- The command comes in two parts. -/
def sessaoDeComando : List Acao :=
  [.poll mundoQuieto false,
    .tarefa { mundoQuieto with chega := comandoDeTeste.bytes.take 7, leituras := [1, 1, 9] },
    .poll mundoQuieto false,
    .tarefa { mundoQuieto with chega := comandoDeTeste.bytes.drop 7, leituras := [100] }]

theorem sessaoDeComando_segura : ∀ a ∈ sessaoDeComando, a.Segura := by
  simp only [sessaoDeComando, List.forall_mem_cons]
  exact ⟨trivial, trivial, trivial, trivial, nofun⟩

def mundoDeTeste : Mundo :=
  { mundoQuieto with
    escritas := [1000, 1000]
    chega := connackDeTeste.bytes
    connack := [[1, 1, 2]] }

theorem sessaoDeComando_entrega :
    let c := Cliente.novo mqttBufferSizeByte mundoQuieto
    let fim := corre cfgDeSessao (.tarefa mundoDeTeste :: sessaoDeComando) c
    ∃ n, Consome cfgDeSessao.dev ([comandoDeTeste].take n) c fim ∧
      (fim.state = .connected →
        fim.mqttState.receptor.inBuffer ++ fim.mqttState.receptor.entrada ++ [] =
          fluxoDe ([comandoDeTeste].drop n)) :=
  conexao_entrega (by decide) connackDeTeste (by decide) sessaoDeComando_segura
    (limpa_novo le_rfl (by decide) mundoQuieto) rfl rfl (by decide) (by decide)

example : (corre cfgDeSessao (.tarefa mundoDeTeste :: sessaoDeComando)
    (Cliente.novo mqttBufferSizeByte mundoQuieto)).comandos = [.mix] := by
  decide

end HidroControl.EspMqtt
