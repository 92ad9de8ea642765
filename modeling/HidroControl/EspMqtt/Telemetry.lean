import HidroControl.EspMqtt.Offset
import HidroControl.Addressing
import HidroControl.FrameClock
import HidroControl.Payload

/-!
# Telemetry on the wire

`mqttclient_publish_telemetry` hands its frame to the client as a C string, so the
client measures it, and nothing of it is lost if it has no NUL. The request is small
enough never to be cut (`DaEstacao.curta`), so that no run of the station's publications
comes into the range in which the client reckons wrong. What the broker reads in the
packet is the frame, and what a JSON reader makes of it are the ten members that went in.
-/

namespace HidroControl

open CText Json

/-! ## Frames are C strings -/

theorem cString_padded (w n : ℕ) : CString (padded w n) :=
  cString_of_isDigit fun _ => isDigit_of_mem_padded

theorem cString_decimalInt (z : ℤ) : CString (decimalInt z) := by
  have hdecimal : CString (decimal z.natAbs) := by
    rw [← padded_zero]
    exact cString_padded 0 _
  unfold decimalInt
  split
  · exact cString_cons.mpr ⟨by decide, hdecimal⟩
  · exact hdecimal

theorem cString_bit (b : Bool) : CString (bit b) := by
  cases b <;> decide

theorem cString_modosNome (m : ModoOperacao) : CString (modosNome m).toList := by
  cases m with
  | normal => decide
  | duo => decide
  | mix => decide

theorem cString_of_isAlphanum {c : Char} (h : c.isAlphanum = true) :
    0 < c.toNat ∧ c.toNat < 256 := by
  have hranges : (decide (65 ≤ c.val ∧ c.val ≤ 90) ||
      decide (97 ≤ c.val) && decide (c.val ≤ 122) ||
      decide (48 ≤ c.val) && decide (c.val ≤ 57)) = true := h
  simp only [Bool.or_eq_true, Bool.and_eq_true, decide_eq_true_eq,
    UInt32.le_iff_toNat_le] at hranges
  change ((65 ≤ c.toNat ∧ c.toNat ≤ 90) ∨ 97 ≤ c.toNat ∧ c.toNat ≤ 122) ∨
    48 ≤ c.toNat ∧ c.toNat ≤ 57 at hranges
  omega

theorem cString_deviceid (dev : Option Mac) : CString (deviceidGet (.de dev)) := by
  intro c hc
  have hnome := charDeNome_of_mem_deviceid hc
  rw [charDeNome, Bool.or_eq_true, beq_iff_eq] at hnome
  rcases hnome with h | rfl
  · exact cString_of_isAlphanum h
  · decide

theorem cString_strftime (len : ℕ) (tm : Tm) : CString (strftime len tm) := by
  have hyear : CString (Iso8601.renderYear (tm.tmYear + 1900)) := by
    unfold Iso8601.renderYear
    split
    · exact cString_cons.mpr ⟨by decide, cString_padded _ _⟩
    · exact cString_padded _ _
  unfold strftime
  dsimp only
  split
  · simp only [cString_append, cString_cons, hyear, cString_padded, true_and]
    decide
  · exact List.forall_mem_nil _

variable {A : Rounding} {q : Quadro}

theorem TaxaPossivel.cString_fixo2 {x : ℚ} (h : TaxaPossivel A x) : CString (fixo2 x) := by
  intro c hc
  rcases h.mem_fixo2 hc with hdigit | rfl
  · exact cString_of_isAlphanum (by simp [Char.isAlphanum, hdigit])
  · decide

theorem QuadroPossivel.cString_payload (h : QuadroPossivel A q) : CString q.payload := by
  obtain ⟨dev, hdev⟩ := h.deviceId
  obtain ⟨modo, hmodo⟩ := h.modo
  have hid : CString q.deviceId := hdev ▸ cString_deviceid dev
  have hnome : CString q.modo.toList := hmodo ▸ cString_modosNome modo
  have htimestamp : CString q.timestamp := by
    rcases h.timestamp with ht | ⟨tm, ht⟩
    · rw [ht]
      decide
    · rw [ht]
      exact cString_strftime 40 tm
  have hfrio := h.flowFrio.cString_fixo2
  have hquente := h.flowQuente.cString_fixo2
  unfold Quadro.payload
  generalize q.modo.toList = modo at hnome ⊢
  simp only [cString_append, hid, htimestamp, cString_decimalInt, hnome, hfrio, hquente,
    cString_bit, and_true, and_assoc]
  -- what is left are the texts of the format
  exact ⟨by decide, by decide, by decide, by decide, by decide, by decide, by decide, by decide,
    by decide, by decide, by decide⟩

/-! ## The request -/

/-- The call of `esp_mqtt_client_publish`: a string, so its length is left open. -/
def Publicacao.pedido (p : Publicacao) : EspMqtt.Pedido where
  topic := toBytes p.topico
  data := EspMqtt.publishData (some (toBytes p.quadro.payload)) 0
  qos := 1
  retain := 0

/-- `mqttclient_publish_telemetry` with the client under it, and what the call of that
returns if it is made. -/
def publicaTelemetria (cfg : EspMqtt.Config) (t : Telemetria) (l : LeiturasTempo)
    (conectado : Bool) (k : Timekeeper) (c : EspMqtt.Cliente) :
    Option ℤ × EspMqtt.Cliente × Timekeeper :=
  let r := mqttclientPublishTelemetry cfg.dev t l conectado c.aplicacao k
  match r.1 with
  | none => (none, c, r.2)
  | some p =>
      let w := EspMqtt.espMqttClientPublish cfg p.pedido c
      (some w.1, w.2, r.2)

/-- What `mqttclient_publish_telemetry` publishes for a station. -/
structure DaEstacao (A : Rounding) (dev : Option Mac) (p : Publicacao) : Prop where
  topico : p.topico = topicoTelemetria (.de dev)
  quadro : QuadroPossivel A p.quadro

theorem publishTelemetry_daEstacao {dev : Option Mac} {t : Telemetria} {l : LeiturasTempo}
    {conectado : Bool} {s : Mqttclient} {k : Timekeeper} {p : Publicacao}
    (hmodo : ∃ m, t.modo = modosNome m) (hfrio : TaxaPossivel A t.fluxoFrio)
    (hquente : TaxaPossivel A t.fluxoQuente) (hepoch : 0 ≤ l.l4.now.s)
    (hp : (mqttclientPublishTelemetry (.de dev) t l conectado s k).1 = some p) :
    DaEstacao A dev p := by
  constructor
  · unfold mqttclientPublishTelemetry at hp
    dsimp only at hp
    split at hp
    · cases hp
    · split at hp
      · cases hp
      · rw [← Option.some.inj hp]
        exact buildTelemetryTopic_de dev
  · rw [publicacao_quadro hp]
    exact montaQuadro_possivel dev conectado k hmodo hfrio hquente
      (timekeeperGetEpoch_nonneg _ hepoch)

namespace DaEstacao

open EspMqtt

variable {dev : Option Mac} {p : Publicacao}

/-- The client measures the whole frame. -/
theorem data (h : DaEstacao A dev p) : p.pedido.data = .bytes (toBytes p.quadro.payload) := by
  have hnul := h.quadro.cString_payload.nul_notMem
  change PublishData.bytes ((toBytes p.quadro.payload).takeWhile (· ≠ 0)) = _
  rw [List.takeWhile_eq_self_iff.mpr]
  intro b hb
  simp only [ne_eq, decide_not, Bool.not_eq_true', decide_eq_false_iff_not]
  rintro rfl
  exact hnul hb

theorem valido (h : DaEstacao A dev p) : p.pedido.Valido ∧ p.pedido.Curto := by
  have htopic : p.pedido.topic.length ≤ 36 := by
    change (toBytes p.topico).length ≤ 36
    rw [toBytes, List.length_map, h.topico]
    exact length_topicoTelemetria_le dev
  have hpayload : p.pedido.data.conteudo.length ≤ 222 := by
    simp only [h.data, PublishData.conteudo, toBytes, List.length_map]
    exact h.quadro.length_payload_le
  have hqos : p.pedido.qos = 1 := rfl
  refine ⟨⟨by omega, by omega⟩, ?_⟩
  have hbuffer : mqttBufferSizeByte = 1024 := rfl
  have hheader : mqttMaxFixedHeaderSize = 5 := rfl
  rw [Pedido.Curto]
  omega

/-- **Telemetry is never cut.** -/
theorem curta (h : DaEstacao A dev p) (m : Mundo) : (Acao.publica m p.pedido).Curta :=
  h.valido

/-- The broker's reader gets the frame. -/
theorem lido (h : DaEstacao A dev p) {m : List UInt8} {id : UInt16}
    (hm : lePublish m = p.pedido.lido id m.length) :
    (lePublish m).topic = some (toBytes (topicoTelemetria (.de dev))) ∧
      parse (ofBytes (lePublish m).data) = some p.quadro.json := by
  rw [hm]
  constructor
  · exact congrArg (fun s => some (toBytes s)) h.topico
  · simp only [Pedido.lido, h.data, PublishData.conteudo,
      h.quadro.cString_payload.ofBytes_toBytes]
    exact h.quadro.parse_payload

end DaEstacao

open EspMqtt

/-- One call, in a state in which the client reckons right. -/
theorem publicaTelemetria_enviada (A : Rounding) {cfg : EspMqtt.Config} {dev : Option Mac}
    (hdev : cfg.dev = .de dev) {t : Telemetria} {l : LeiturasTempo} {conectado : Bool}
    {k : Timekeeper} {c : Cliente} (hmodo : ∃ m, t.modo = modosNome m)
    (hfrio : TaxaPossivel A t.fluxoFrio) (hquente : TaxaPossivel A t.fluxoQuente)
    (hepoch : 0 ≤ l.l4.now.s) (hc : Limpa c.mqttState.connection)
    (hoff : Recuo c.offset (2 ^ 30)) (hon : c.state = .connected) {id : ℤ}
    (hret : (publicaTelemetria cfg t l conectado k c).1 = some id) (hid : 0 ≤ id) :
    ∃ m, (publicaTelemetria cfg t l conectado k c).2.1.saida = c.saida ++ m ∧
      (lePublish m).valido = true ∧ (lePublish m).tipo = some .publish ∧
      (lePublish m).qos = 1 ∧ (lePublish m).total = m.length ∧
      (lePublish m).topic = some (toBytes (topicoTelemetria (.de dev))) ∧
      parse (ofBytes (lePublish m).data) = some
        (montaQuadro (.de dev) t (timekeeperGetTimestamp 40 l.l1 l.l2 k).1
          (timekeeperGetEpoch l.l3 l.l4 (timekeeperGetTimestamp 40 l.l1 l.l2 k).2).1
          conectado).json := by
  unfold publicaTelemetria at hret ⊢
  rw [hdev] at hret ⊢
  dsimp only at hret ⊢
  generalize hpub : (mqttclientPublishTelemetry (.de dev) t l conectado c.aplicacao k).1 = pub
    at hret ⊢
  cases pub with
  | none => cases hret
  | some p =>
      have hframe := publishTelemetry_daEstacao hmodo hfrio hquente hepoch hpub
      have hcall := espMqttClientPublish_publicou cfg hframe.valido.1 hc.toSemFragmento hoff
      dsimp only at hret ⊢
      obtain rfl := Option.some.inj hret
      rw [← publicacao_quadro hpub]
      generalize espMqttClientPublish cfg p.pedido c = r at hcall hid ⊢
      cases hcall with
      | recusada ret => omega
      | adiada pk pacote antes => exact absurd hon antes
      | interrompida pk pacote antes ret => omega
      | enviada pk pacote antes ret saida =>
          have hread := pacote.lePublish hframe.valido.1
          obtain ⟨htopic, hjson⟩ := hframe.lido hread
          refine ⟨pk.bytes, saida, ?_, ?_, ?_, ?_, htopic, hjson⟩
          · rw [hread]; rfl
          · rw [hread]; rfl
          · rw [hread]; rfl
          · rw [hread]; rfl

/-- **From the sensors to the broker**, at any time in a run of the client whose requests
are short, as all of the station's are: if a telemetry call succeeds on a connection, the
transport has taken the bytes of one PUBLISH packet on the station's telemetry topic, and
a JSON reader gets out of its payload the frame that the call put together. -/
theorem telemetria_no_fio (A : Rounding) {cfg : EspMqtt.Config} {dev : Option Mac}
    (hdev : cfg.dev = .de dev) {t : Telemetria} {l : LeiturasTempo} {conectado : Bool}
    {k : Timekeeper} (hmodo : ∃ m, t.modo = modosNome m)
    (hfrio : TaxaPossivel A t.fluxoFrio) (hquente : TaxaPossivel A t.fluxoQuente)
    (hepoch : 0 ≤ l.l4.now.s) {c₀ : Cliente} (hc : Limpa c₀.mqttState.connection) {b : ℕ}
    (hoff : Recuo c₀.offset b) {as : List Acao} (has : ∀ a ∈ as, a.Curta)
    (hb : b + 9 * as.length ≤ 2 ^ 30) (mundo : Mundo)
    (hon : (corre cfg as c₀).state = .connected) {id : ℤ}
    (hret : (publicaTelemetria cfg t l conectado k ((corre cfg as c₀).comMundo mundo)).1 = some id)
    (hid : 0 ≤ id) :
    ∃ m, (publicaTelemetria cfg t l conectado k ((corre cfg as c₀).comMundo mundo)).2.1.saida =
        (corre cfg as c₀).saida ++ m ∧
      (lePublish m).valido = true ∧ (lePublish m).tipo = some .publish ∧
      (lePublish m).qos = 1 ∧ (lePublish m).total = m.length ∧
      (lePublish m).topic = some (toBytes (topicoTelemetria (.de dev))) ∧
      parse (ofBytes (lePublish m).data) = some
        (montaQuadro (.de dev) t (timekeeperGetTimestamp 40 l.l1 l.l2 k).1
          (timekeeperGetEpoch l.l3 l.l4 (timekeeperGetTimestamp 40 l.l1 l.l2 k).2).1
          conectado).json := by
  obtain ⟨hclean, hrecuo⟩ := corre_recuo has hc hoff hb
  exact publicaTelemetria_enviada A hdev hmodo hfrio hquente hepoch
    (c := (corre cfg as c₀).comMundo mundo) hclean hrecuo hon hret hid

/-- A frame of a station that does not know its address. -/
def publicacaoDeTeste : Publicacao where
  topico := topicoTelemetria (.de none)
  quadro := montaQuadro (.de none) idleTelemetry
    (timekeeperGetTimestamp 40 quietReads.l1 quietReads.l2 {}).1
    (timekeeperGetEpoch quietReads.l3 quietReads.l4
      (timekeeperGetTimestamp 40 quietReads.l1 quietReads.l2 {}).2).1 true

theorem publicacaoDeTeste_daEstacao : DaEstacao .binary32 none publicacaoDeTeste where
  topico := rfl
  quadro := montaQuadro_possivel none true {} ⟨.normal, rfl⟩ (taxaPossivel_zero _)
    (taxaPossivel_zero _) (by decide)

def clienteDaEstacao : Cliente :=
  { Cliente.novo mqttBufferSizeByte mundoQuieto with aplicacao := { sClient := true } }

/-- A connection, and a first frame on it. -/
def sessaoDaEstacao : List Acao :=
  [.tarefa
      { mundoQuieto with
        avancos := [100, 100, 100, 100]
        escritas := [1000, 1000]
        chega := [32, 2, 0, 0]
        connack := [[1, 1, 2]] },
    .publica { mundoQuieto with escritas := [1000] } publicacaoDeTeste.pedido]

theorem sessaoDaEstacao_curta : ∀ a ∈ sessaoDaEstacao, a.Curta := by
  rintro a (_ | ⟨_, _ | ⟨_, ha⟩⟩)
  · trivial
  · exact publicacaoDeTeste_daEstacao.curta _
  · cases ha

/-- The second frame. -/
theorem idleTelemetry_no_fio :
    let mundo : Mundo := { mundoQuieto with escritas := [1000] }
    let c := corre cfgDeSessao sessaoDaEstacao clienteDaEstacao
    ∃ m, (publicaTelemetria cfgDeSessao idleTelemetry quietReads true {}
          (c.comMundo mundo)).2.1.saida = c.saida ++ m ∧
      (lePublish m).valido = true ∧ (lePublish m).tipo = some .publish ∧
      (lePublish m).qos = 1 ∧ (lePublish m).total = m.length ∧
      (lePublish m).topic = some (toBytes (topicoTelemetria (.de none))) ∧
      parse (ofBytes (lePublish m).data) = some
        (montaQuadro (.de none) idleTelemetry
          (timekeeperGetTimestamp 40 quietReads.l1 quietReads.l2 {}).1
          (timekeeperGetEpoch quietReads.l3 quietReads.l4
            (timekeeperGetTimestamp 40 quietReads.l1 quietReads.l2 {}).2).1 true).json := by
  have hon : (corre cfgDeSessao sessaoDaEstacao clienteDaEstacao).state = .connected := by
    decide +kernel
  have hret : (publicaTelemetria cfgDeSessao idleTelemetry quietReads true {}
      ((corre cfgDeSessao sessaoDaEstacao clienteDaEstacao).comMundo
        { mundoQuieto with escritas := [1000] })).1 = some 7 := by
    decide +kernel
  have hclean : Limpa clienteDaEstacao.mqttState.connection :=
    limpa_novo le_rfl (by decide) mundoQuieto
  exact telemetria_no_fio .binary32 rfl ⟨.normal, rfl⟩ (taxaPossivel_zero _) (taxaPossivel_zero _)
    (by decide) hclean ⟨0, le_rfl, rfl⟩ sessaoDaEstacao_curta (by decide) _ hon hret (by decide)

end HidroControl
