import HidroControl.EspMqtt.Msg
import Mathlib.Data.Nat.Bitwise
import Mathlib.Tactic.Ring

/-!
# What the writers of `mqtt_msg.c` write, and what its readers read

A PUBLISH on the wire is a header byte, a base-128 field and a body of topic, id
and payload. `pacotePublish` is the packet; the writer makes it whole, or as much
of it as its buffer holds (`mqttMsgPublish_data`). The readers are taken through
any packet that was cut off behind its id, since the client reads a large one so.
-/

namespace HidroControl.EspMqtt

open Wire

/-! ## The header byte -/

theorem headerByte_bits (type : MqttMessageType) (dup qos retain : ℕ) :
    headerByte type dup qos retain =
      UInt8.ofNat (type.code * 16 + dup % 2 * 8 + qos % 4 * 2 + retain % 2) := by
  have hcode : type.code &&& 0x0f = type.code := by cases type <;> rfl
  have hlt : type.code < 16 := by cases type <;> decide
  have hdup : dup &&& 1 = dup % 2 := Nat.and_one_is_mod dup
  have hqos : qos &&& 3 = qos % 4 := Nat.and_two_pow_sub_one_eq_mod qos 2
  have hretain : retain &&& 1 = retain % 2 := Nat.and_one_is_mod retain
  have hall : ∀ (c : Fin 16) (d : Fin 2) (q : Fin 4) (r : Fin 2),
      (c.val <<< 4) ||| (d.val <<< 3) ||| (q.val <<< 1) ||| r.val =
        c.val * 16 + d.val * 8 + q.val * 2 + r.val := by
    decide +kernel
  rw [headerByte, hcode, hdup, hqos, hretain]
  exact congrArg UInt8.ofNat (hall ⟨type.code, hlt⟩ ⟨dup % 2, Nat.mod_lt _ (by decide)⟩
    ⟨qos % 4, Nat.mod_lt _ (by decide)⟩ ⟨retain % 2, Nat.mod_lt _ (by decide)⟩)

/-- What the readers find in a header byte. -/
structure LeCabecalho (h : UInt8) (type : MqttMessageType) (dup qos retain : ℕ) : Prop where
  type : mqttGetType [h] = some type
  dup : mqttGetDup [h] = dup
  qos : mqttGetQos [h] = qos
  retain : mqttGetRetain [h] = retain

instance (h : UInt8) (type : MqttMessageType) (dup qos retain : ℕ) :
    Decidable (LeCabecalho h type dup qos retain) :=
  decidable_of_iff (mqttGetType [h] = some type ∧ mqttGetDup [h] = dup ∧
      mqttGetQos [h] = qos ∧ mqttGetRetain [h] = retain)
    ⟨fun h => ⟨h.1, h.2.1, h.2.2.1, h.2.2.2⟩, fun h => ⟨h.1, h.2, h.3, h.4⟩⟩

theorem leCabecalho_headerByte (type : MqttMessageType) (dup qos retain : ℕ) :
    LeCabecalho (headerByte type dup qos retain) type (dup % 2) (qos % 4) (retain % 2) := by
  have hall : ∀ (d : Fin 2) (q : Fin 4) (r : Fin 2),
      LeCabecalho (UInt8.ofNat (type.code * 16 + d.val * 8 + q.val * 2 + r.val)) type
        d.val q.val r.val := by
    cases type <;> decide +kernel
  rw [headerByte_bits]
  exact hall ⟨dup % 2, Nat.mod_lt _ (by decide)⟩ ⟨qos % 4, Nat.mod_lt _ (by decide)⟩
    ⟨retain % 2, Nat.mod_lt _ (by decide)⟩

@[simp] theorem mqttGetType_cons (h : UInt8) (bs : List UInt8) :
    mqttGetType (h :: bs) = mqttGetType [h] := rfl

@[simp] theorem mqttGetDup_cons (h : UInt8) (bs : List UInt8) :
    mqttGetDup (h :: bs) = mqttGetDup [h] := rfl

@[simp] theorem mqttGetQos_cons (h : UInt8) (bs : List UInt8) :
    mqttGetQos (h :: bs) = mqttGetQos [h] := rfl

@[simp] theorem mqttGetRetain_cons (h : UInt8) (bs : List UInt8) :
    mqttGetRetain (h :: bs) = mqttGetRetain [h] := rfl

/-! ## The fixed header -/

/-- The sum of the loop is the value of the field, moved to where the loop is. -/
theorem somaComprimento_eq (i totlen : ℕ) (bs : List UInt8) :
    somaComprimento (i + 1) totlen bs =
      (totlen + (decode bs).1 * 128 ^ i, i + 1 + (decode bs).2) := by
  have hshift : ∀ n i : ℕ, n <<< (7 * (i + 1 - 1)) = n * 128 ^ i := by
    intro n i
    rw [Nat.shiftLeft_eq, Nat.add_sub_cancel, pow_mul]
    rfl
  induction bs generalizing i totlen with
  | nil => simp [somaComprimento, decode]
  | cons b bs ih =>
      unfold somaComprimento decode
      dsimp only
      rw [toNat_and_127, hshift]
      split
      next =>
          rw [ih, Prod.mk.injEq]
          exact ⟨by ring, by omega⟩
      next hb =>
          have hlt := (goesOn_eq_false_iff b).mp (by simpa using hb)
          rw [Nat.mod_eq_of_lt hlt]

/-- The fixed header of a packet, whatever of the packet is there behind it. -/
theorem cabecalho_fio (h : UInt8) {f : List UInt8} (hf : IsField f) (body : List UInt8) :
    cabecalho (h :: (f ++ body)) (h :: (f ++ body)).length = ((decode f).1, 1 + f.length) := by
  rw [cabecalho, List.take_length, List.drop_succ_cons, List.drop_zero, somaComprimento_eq,
    decode_append hf]
  simp

theorem mqttGetTotalLength_fio (h : UInt8) {f : List UInt8} (hf : IsField f)
    (body : List UInt8) :
    mqttGetTotalLength (h :: (f ++ body)) (h :: (f ++ body)).length =
      ((decode f).1 + (1 + f.length), 1 + f.length) := by
  simp only [mqttGetTotalLength, cabecalho_fio h hf]

/-! ## Reading a PUBLISH -/

def idBytes (qos : ℕ) (id : UInt16) : List UInt8 := if 0 < qos then be16 id.toNat else []

/-- The body of a PUBLISH in front of its payload. -/
def corpoPublish (topic : List UInt8) (qos : ℕ) (id : UInt16) : List UInt8 :=
  be16 topic.length ++ (topic ++ idBytes qos id)

theorem length_corpoPublish (topic : List UInt8) (qos : ℕ) (id : UInt16) :
    (corpoPublish topic qos id).length = 2 + topic.length + if 0 < qos then 2 else 0 := by
  unfold corpoPublish idBytes
  split
  next => simp only [List.length_append, length_be16]; omega
  next => simp only [List.length_append, length_be16, List.length_nil]; omega

/-- A PUBLISH as it stands on the wire, in any writer's choice of its field. -/
structure PacotePublish where
  h : UInt8
  f : List UInt8
  topic : List UInt8
  id : UInt16
  payload : List UInt8
  isField : IsField f
  tipo : mqttGetType [h] = some .publish
  valor : (decode f).1 = (corpoPublish topic (mqttGetQos [h]) id).length + payload.length
  topico : topic ≠ []
  curto : topic.length < 65536

namespace PacotePublish

def qos (p : PacotePublish) : ℕ := mqttGetQos [p.h]

def corpo (p : PacotePublish) : List UInt8 := corpoPublish p.topic p.qos p.id

/-- The packet with `part` for its payload, under the header of the whole. -/
def ate (p : PacotePublish) (part : List UInt8) : List UInt8 :=
  p.h :: (p.f ++ (p.corpo ++ part))

def bytes (p : PacotePublish) : List UInt8 := p.ate p.payload

/-- The fixed header and the body in front of the payload. -/
def inicio (p : PacotePublish) : ℕ := 1 + p.f.length + p.corpo.length

theorem length_ate (p : PacotePublish) (part : List UInt8) :
    (p.ate part).length = p.inicio + part.length := by
  simp only [ate, inicio, List.length_cons, List.length_append]
  omega

theorem length_bytes (p : PacotePublish) : p.bytes.length = p.inicio + p.payload.length :=
  p.length_ate p.payload

theorem inicio_gt (p : PacotePublish) : 1 + p.f.length + 2 < p.inicio := by
  have := List.length_pos_iff.mpr p.topico
  rw [inicio, corpo, length_corpoPublish]
  omega

/-! ### Where the readers stand -/

variable (p : PacotePublish) (part : List UInt8)

theorem cabecalho_ate :
    cabecalho (p.ate part) (p.ate part).length = ((decode p.f).1, 1 + p.f.length) :=
  cabecalho_fio p.h p.isField _

theorem totalLength_ate :
    mqttGetTotalLength (p.ate part) (p.ate part).length =
      (p.inicio + p.payload.length, 1 + p.f.length) := by
  rw [ate, mqttGetTotalLength_fio p.h p.isField, p.valor, Prod.mk.injEq]
  refine ⟨?_, rfl⟩
  rw [inicio, corpo, qos]
  omega

/-- The two bytes behind the fixed header. -/
theorem readBe16_topic : readBe16 (p.ate part) (1 + p.f.length) = p.topic.length := by
  have hate : p.ate part =
      (p.h :: p.f) ++ (be16 p.topic.length ++ (p.topic ++ idBytes p.qos p.id ++ part)) := by
    simp [ate, corpo, corpoPublish]
  rw [hate, show 1 + p.f.length = (p.h :: p.f).length by simp [Nat.add_comm]]
  exact readBe16_append p.curto _ _

theorem drop_topic : (p.ate part).drop (1 + p.f.length + 2) =
    p.topic ++ (idBytes p.qos p.id ++ part) := by
  have hate : p.ate part = (p.h :: (p.f ++ be16 p.topic.length)) ++
      (p.topic ++ (idBytes p.qos p.id ++ part)) := by
    simp [ate, corpo, corpoPublish]
  rw [hate]
  apply List.drop_left'
  simp only [List.length_cons, List.length_append, length_be16]
  omega

theorem drop_inicio : (p.ate part).drop p.inicio = part := by
  rw [ate, ← List.cons_append, ← List.append_assoc]
  apply List.drop_left'
  simp only [inicio, List.length_cons, List.length_append]
  omega

theorem inicio_eq : p.inicio =
    1 + p.f.length + 2 + p.topic.length + if 0 < p.qos then 2 else 0 := by
  rw [inicio, corpo, length_corpoPublish]
  omega

/-! ### What the readers read -/

theorem getTopic_ate : mqttGetPublishTopic (p.ate part) (p.ate part).length = some p.topic := by
  have hlen := p.length_ate part
  have hgt := p.inicio_gt
  have heq := p.inicio_eq
  unfold mqttGetPublishTopic
  rw [p.cabecalho_ate]
  dsimp only
  rw [p.readBe16_topic, p.drop_topic, if_neg (by omega), if_neg (by split at heq <;> omega), List.take_left]

/-- A payload of which nothing is there has no pointer. -/
theorem getData_ate (hpart : part.length ≤ p.payload.length) :
    (mqttGetPublishData (p.ate part) (p.ate part).length).getD [] = part := by
  have hlen := p.length_ate part
  have hgt := p.inicio_gt
  have heq := p.inicio_eq
  have hqos : mqttGetQos (p.ate part) = p.qos := rfl
  unfold mqttGetPublishData
  rw [p.totalLength_ate]
  dsimp only
  rw [p.readBe16_topic, hqos, if_neg (by omega)]
  by_cases hempty : part = []
  · subst hempty
    simp only [List.length_nil, Nat.add_zero] at hlen
    by_cases h0 : 0 < p.qos
    · rw [if_pos h0] at heq
      rw [if_neg (by omega), if_pos ⟨h0, by omega⟩]
      rfl
    · rw [if_neg h0] at heq
      rw [if_pos (by omega)]
      rfl
  · have hpos := List.length_pos_iff.mpr hempty
    have hi : (if 0 < p.qos then 1 + p.f.length + 2 + p.topic.length + 2
        else 1 + p.f.length + 2 + p.topic.length) = p.inicio := by
      split <;> simp_all
    have hno : ¬ (0 < p.qos ∧
        (p.ate part).length ≤ 1 + p.f.length + 2 + p.topic.length + 2) := by
      rintro ⟨h0, hle⟩
      rw [if_pos h0] at heq
      omega
    rw [if_neg (by split at heq <;> omega), if_neg hno, hi, if_neg (by omega), p.drop_inicio,
      Option.getD_some]
    apply List.take_of_length_le
    omega

theorem getId_ate : mqttGetId (p.ate part) (p.ate part).length =
    if 0 < p.qos then p.id else 0 := by
  have hlen := p.length_ate part
  have hgt := p.inicio_gt
  have heq := p.inicio_eq
  have hqos : mqttGetQos (p.ate part) = p.qos := rfl
  have htype : mqttGetType (p.ate part) = some .publish := p.tipo
  unfold mqttGetId
  rw [if_neg (by omega), htype]
  dsimp only
  rw [p.cabecalho_ate, hqos]
  dsimp only
  rw [p.readBe16_topic, if_neg (by omega), if_neg (by split at heq <;> omega)]
  by_cases h0 : 0 < p.qos
  · have hate : p.ate part = (p.h :: (p.f ++ (be16 p.topic.length ++ p.topic))) ++
        (be16 p.id.toNat ++ part) := by
      simp [ate, corpo, corpoPublish, idBytes, h0]
    have hi : (p.h :: (p.f ++ (be16 p.topic.length ++ p.topic))).length =
        1 + p.f.length + 2 + p.topic.length := by
      simp only [List.length_cons, List.length_append, length_be16]
      omega
    rw [if_pos h0] at heq
    rw [if_pos h0, if_pos h0, if_neg (by omega), ← hi, hate, readBe16_append p.id.toNat_lt,
      UInt16.ofNat_toNat]
  · rw [if_neg h0, if_neg h0]

/-! ### Marking it as sent before -/

theorem headerByte_dup (h : UInt8) :
    mqttGetType [h ||| 0x08] = mqttGetType [h] ∧ mqttGetDup [h ||| 0x08] = 1 ∧
      mqttGetQos [h ||| 0x08] = mqttGetQos [h] ∧
      mqttGetRetain [h ||| 0x08] = mqttGetRetain [h] := by
  have hall : ∀ i : Fin 256,
      mqttGetType [UInt8.ofNat i.val ||| 0x08] = mqttGetType [UInt8.ofNat i.val] ∧
      mqttGetDup [UInt8.ofNat i.val ||| 0x08] = 1 ∧
      mqttGetQos [UInt8.ofNat i.val ||| 0x08] = mqttGetQos [UInt8.ofNat i.val] ∧
      mqttGetRetain [UInt8.ofNat i.val ||| 0x08] = mqttGetRetain [UInt8.ofNat i.val] := by
    decide +kernel
  have hh := hall ⟨h.toNat, h.toNat_lt⟩
  rwa [UInt8.ofNat_toNat] at hh

theorem valor_repetido (p : PacotePublish) : (decode p.f).1 =
    (corpoPublish p.topic (mqttGetQos [p.h ||| 0x08]) p.id).length + p.payload.length := by
  rw [(headerByte_dup p.h).2.2.1]
  exact p.valor

/-- The same packet with its DUP flag set. -/
def repetido (p : PacotePublish) : PacotePublish :=
  { p with
    h := p.h ||| 0x08
    tipo := (headerByte_dup p.h).1.trans p.tipo
    valor := p.valor_repetido }

theorem qos_repetido : p.repetido.qos = p.qos := (headerByte_dup p.h).2.2.1

theorem bytes_repetido : p.repetido.bytes = mqttSetDup p.bytes := by
  rw [bytes, ate, corpo, qos_repetido]
  rfl

end PacotePublish

/-- Everything the readers of `mqtt_msg.c` get out of a packet. -/
structure LidoPublish where
  valido : Bool
  tipo : Option MqttMessageType
  dup : ℕ
  qos : ℕ
  retain : ℕ
  total : ℕ
  topic : Option (List UInt8)
  data : List UInt8
  id : UInt16

def lePublish (b : List UInt8) : LidoPublish where
  valido := mqttHasValidMsgHdr b b.length
  tipo := mqttGetType b
  dup := mqttGetDup b
  qos := mqttGetQos b
  retain := mqttGetRetain b
  total := (mqttGetTotalLength b b.length).1
  topic := mqttGetPublishTopic b b.length
  data := (mqttGetPublishData b b.length).getD []
  id := mqttGetId b b.length

namespace PacotePublish

theorem hasValidMsgHdr (p : PacotePublish) :
    mqttHasValidMsgHdr p.bytes p.bytes.length =
      (decide (p.qos < 3) && (decide (0 < p.qos) || mqttGetDup [p.h] == 0)) := by
  have hlen := p.length_bytes
  have hgt := p.inicio_gt
  have htype : mqttGetType p.bytes = some .publish := p.tipo
  unfold mqttHasValidMsgHdr
  rw [if_neg (by omega), htype]
  rfl

/-- **A PUBLISH is read as it was meant**, in any encoding of its length. -/
theorem lePublish_bytes (p : PacotePublish) :
    lePublish p.bytes =
      { valido := decide (p.qos < 3) && (decide (0 < p.qos) || mqttGetDup [p.h] == 0)
        tipo := some .publish
        dup := mqttGetDup [p.h]
        qos := p.qos
        retain := mqttGetRetain [p.h]
        total := p.bytes.length
        topic := some p.topic
        data := p.payload
        id := if 0 < p.qos then p.id else 0 } := by
  have htype : mqttGetType p.bytes = some .publish := p.tipo
  have htotal := p.totalLength_ate p.payload
  have htopic := p.getTopic_ate p.payload
  have hdata := p.getData_ate p.payload le_rfl
  have hid := p.getId_ate p.payload
  rw [← bytes] at htotal htopic hdata hid
  rw [lePublish, p.hasValidMsgHdr, htype, htotal, htopic, hdata, hid, p.length_bytes]
  rfl

end PacotePublish

/-! ## Writing a PUBLISH -/

theorem appendString_eq (c : MqttConnection) (string corpo : List UInt8) :
    appendString c string corpo =
      if mqttMaxFixedHeaderSize + corpo.length + string.length + 2 ≤ c.bufferLength then
        some (corpo ++ (be16 string.length ++ string))
      else none := by
  unfold appendString
  split <;> split <;> first | rfl | omega

theorem appendMessageId_zero (s : Sorteio) (c : MqttConnection) (corpo : List UInt8) :
    appendMessageId s c 0 corpo =
      if mqttMaxFixedHeaderSize + corpo.length + 2 ≤ c.bufferLength then
        some (s.id, corpo ++ be16 s.id.toNat)
      else none := by
  unfold appendMessageId
  simp only [if_true]
  split <;> split <;> first | rfl | omega

/-- The id of a publication. -/
def idDe (s : Sorteio) (qos : ℕ) : UInt16 := if 0 < qos then s.id else 0

theorem publishId_eq (s : Sorteio) (qos : ℕ) (c : MqttConnection) (topic : List UInt8)
    (h : mqttMaxFixedHeaderSize + (corpoPublish topic qos (idDe s qos)).length
      ≤ c.bufferLength) :
    publishId s qos c (be16 topic.length ++ topic) =
      some (idDe s qos, corpoPublish topic qos (idDe s qos)) := by
  rw [length_corpoPublish] at h
  unfold publishId idDe corpoPublish idBytes
  by_cases h0 : 0 < qos
  · rw [if_pos h0] at h
    simp only [if_pos h0]
    rw [appendMessageId_zero, if_pos, List.append_assoc]
    simp only [List.length_append, length_be16]
    omega
  · simp only [if_neg h0, List.append_nil]

/-- **When it fits at all.** The topic is not empty and the buffer holds everything in
front of the payload. -/
theorem mqttMsgPublish_of_fits (s : Sorteio) {topic : List UInt8} (payload : List UInt8)
    (qos retain : ℕ) {c : MqttConnection} (ht : topic ≠ [])
    (h : mqttMaxFixedHeaderSize + (corpoPublish topic qos (idDe s qos)).length
      ≤ c.bufferLength) :
    mqttMsgPublish s topic (.bytes payload) qos retain c =
      (idDe s qos,
        let r := appendData (.bytes payload) c (corpoPublish topic qos (idDe s qos))
        finiMessage r.1 r.2 .publish 0 qos retain) := by
  have hstring : appendString c topic [] = some (be16 topic.length ++ topic) := by
    have hlen := length_corpoPublish topic qos (idDe s qos)
    rw [appendString_eq, if_pos, List.nil_append]
    simp only [List.length_nil]
    omega
  unfold mqttMsgPublish
  rw [if_neg ht, hstring]
  dsimp only
  rw [publishId_eq s qos c topic h]
  rfl

theorem mqttMsgPublish_of_not_fits (s : Sorteio) {topic : List UInt8} (payload : List UInt8)
    (qos retain : ℕ) {c : MqttConnection}
    (h : c.bufferLength <
      mqttMaxFixedHeaderSize + (corpoPublish topic qos (idDe s qos)).length) :
    mqttMsgPublish s topic (.bytes payload) qos retain c = (0, failMessage c) := by
  rw [length_corpoPublish] at h
  unfold mqttMsgPublish
  split
  · rfl
  · rw [appendString_eq]
    by_cases hstring : mqttMaxFixedHeaderSize + ([] : List UInt8).length + topic.length + 2
        ≤ c.bufferLength
    · -- then it is the id that has no room
      rw [if_pos hstring]
      simp only [List.length_nil] at hstring
      have h0 : 0 < qos := by
        by_contra h0
        rw [if_neg h0] at h
        omega
      rw [if_pos h0] at h
      dsimp only [PublishData.invalido]
      rw [publishId, if_pos h0, appendMessageId_zero, if_neg]
      · rfl
      · simp only [List.nil_append, List.length_append, length_be16]
        omega
    · rw [if_neg hstring]

/-- The bytes of a message that is closed with an announced length of `n`. -/
theorem finiMessage_data {c : MqttConnection} {corpo : List UInt8} {n : ℕ}
    {type : MqttMessageType} {dup qos retain : ℕ}
    (htotal : (if c.outboundMessage.fragmentedMsgTotalLength ≠ 0 then
      c.outboundMessage.fragmentedMsgTotalLength - mqttMaxFixedHeaderSize
      else corpo.length) = n) (hn : n < 128 ^ 4) :
    finiMessage c corpo type dup qos retain =
      { c with
        outboundMessage :=
          { c.outboundMessage with
            data := headerByte type dup qos retain :: (encode n ++ corpo)
            fragmentedMsgDataOffset := c.outboundMessage.fragmentedMsgDataOffset -
              UInt32.ofNat (mqttMaxFixedHeaderSize - 1 - (encode n).length) } } := by
  have hlen := length_encode_le (k := 4) (by decide) hn
  have h5 : mqttMaxFixedHeaderSize = 5 := rfl
  unfold finiMessage
  dsimp only
  rw [htotal, if_neg (by omega)]

theorem tipo_headerByte (dup qos retain : ℕ) (type : MqttMessageType) :
    mqttGetType [headerByte type dup qos retain] = some type :=
  (leCabecalho_headerByte type dup qos retain).type

theorem valor_encode (topic : List UInt8) (id : UInt16) (payload : List UInt8)
    {qos : ℕ} (hqos : qos < 3) (retain : ℕ) :
    (decode (encode ((corpoPublish topic qos id).length + payload.length))).1 =
      (corpoPublish topic (mqttGetQos [headerByte .publish 0 qos retain]) id).length +
        payload.length := by
  have hget := (leCabecalho_headerByte .publish 0 qos retain).qos
  rw [decode_encode, hget, Nat.mod_eq_of_lt (by omega)]

/-- The packet the writer is asked for. -/
def PacotePublish.novo (topic : List UInt8) (id : UInt16) (payload : List UInt8)
    {qos : ℕ} (hqos : qos < 3) (retain : ℕ) (ht : topic ≠ []) (hshort : topic.length < 65536) :
    PacotePublish where
  h := headerByte .publish 0 qos retain
  f := encode ((corpoPublish topic qos id).length + payload.length)
  topic := topic
  id := id
  payload := payload
  isField := isField_encode _
  tipo := tipo_headerByte 0 qos retain .publish
  valor := valor_encode topic id payload hqos retain
  topico := ht
  curto := hshort

section Publish

variable (s : Sorteio) {topic : List UInt8} (payload : List UInt8) {qos : ℕ} (hqos : qos < 3)
  (retain : ℕ) {c : MqttConnection} (ht : topic ≠ []) (hshort : topic.length < 65536)

theorem PacotePublish.qos_novo (id : UInt16) :
    (novo topic id payload hqos retain ht hshort).qos = qos := by
  have hget := (leCabecalho_headerByte .publish 0 qos retain).qos
  rw [Nat.mod_eq_of_lt (show qos < 4 by omega)] at hget
  exact hget

theorem PacotePublish.ate_novo (id : UInt16) (part : List UInt8) :
    (novo topic id payload hqos retain ht hshort).ate part =
      headerByte .publish 0 qos retain ::
        (encode ((corpoPublish topic qos id).length + payload.length) ++
          (corpoPublish topic qos id ++ part)) := by
  rw [ate, corpo, qos_novo]
  rfl

/-- The fragment fields that the payload leaves behind. -/
theorem appendData_bytes (b corpo : List UInt8) (c : MqttConnection) :
    ∃ total offset,
      appendData (.bytes b) c corpo =
        ({ c with
            outboundMessage :=
              { c.outboundMessage with
                fragmentedMsgTotalLength := total
                fragmentedMsgDataOffset := offset } },
          corpo ++ b.take (c.bufferLength - (mqttMaxFixedHeaderSize + corpo.length))) ∧
      (mqttMaxFixedHeaderSize + corpo.length + b.length ≤ c.bufferLength ∧ total = 0 ∧
          offset = c.outboundMessage.fragmentedMsgDataOffset ∨
        c.bufferLength < mqttMaxFixedHeaderSize + corpo.length + b.length ∧
          total = b.length + (mqttMaxFixedHeaderSize + corpo.length) ∧
          offset = UInt32.ofNat (mqttMaxFixedHeaderSize + corpo.length)) := by
  unfold appendData
  dsimp only
  split
  next h => exact ⟨_, _, rfl, Or.inr ⟨h, rfl, rfl⟩⟩
  next h =>
      rw [not_lt] at h
      refine ⟨_, _, ?_, Or.inl ⟨h, rfl, rfl⟩⟩
      rw [List.take_of_length_le (by omega)]

/-- **The first fragment.** The writer puts out the packet, with as much of its payload
as the buffer has room for, and the length of the whole in its header. -/
theorem mqttMsgPublish_data
    (hfit : mqttMaxFixedHeaderSize + (corpoPublish topic qos (idDe s qos)).length
      ≤ c.bufferLength)
    (hsize : (corpoPublish topic qos (idDe s qos)).length + payload.length < 128 ^ 4) :
    (mqttMsgPublish s topic (.bytes payload) qos retain c).2.outboundMessage.data =
      (PacotePublish.novo topic (idDe s qos) payload hqos retain ht hshort).ate
        (payload.take (c.bufferLength -
          (mqttMaxFixedHeaderSize + (corpoPublish topic qos (idDe s qos)).length))) := by
  have h5 : mqttMaxFixedHeaderSize = 5 := rfl
  obtain ⟨total, offset, heq, hcase⟩ :=
    appendData_bytes payload (corpoPublish topic qos (idDe s qos)) c
  rw [mqttMsgPublish_of_fits s payload qos retain ht hfit, heq, PacotePublish.ate_novo]
  dsimp only
  rw [finiMessage_data _ hsize]
  -- the announced length, in a packet that fits and in one that does not
  dsimp only
  rcases hcase with ⟨hle, rfl, -⟩ | ⟨-, rfl, -⟩
  · rw [if_neg (by simp), List.length_append, List.take_of_length_le (by omega)]
  · rw [if_pos (by omega)]
    omega

/-- The other messages have no bytes: the caller sees a length of zero. -/
theorem mqttMsgPublish_eq_nil_iff
    (hsize : (corpoPublish topic qos (idDe s qos)).length + payload.length < 128 ^ 4) :
    (mqttMsgPublish s topic (.bytes payload) qos retain c).2.outboundMessage.data = [] ↔
      topic = [] ∨ c.bufferLength <
        mqttMaxFixedHeaderSize + (corpoPublish topic qos (idDe s qos)).length := by
  by_cases ht : topic = []
  · subst ht
    simp [mqttMsgPublish, failMessage]
  · by_cases hfit : c.bufferLength <
        mqttMaxFixedHeaderSize + (corpoPublish topic qos (idDe s qos)).length
    · rw [mqttMsgPublish_of_not_fits s payload qos retain hfit]
      simp [failMessage, hfit]
    · obtain ⟨total, offset, heq, hcase⟩ :=
        appendData_bytes payload (corpoPublish topic qos (idDe s qos)) c
      have h5 : mqttMaxFixedHeaderSize = 5 := rfl
      rw [mqttMsgPublish_of_fits s payload qos retain ht (not_lt.mp hfit), heq]
      dsimp only
      rw [finiMessage_data rfl]
      · simp [ht, hfit]
      · dsimp only
        rcases hcase with ⟨hle, rfl, -⟩ | ⟨-, rfl, -⟩
        · rw [if_neg (by simp), List.length_append, List.length_take]
          omega
        · rw [if_pos (by omega)]
          omega

end Publish

/-- **PUBLISH round trip.** What is written into a buffer it fits in, first sent and
sent again, reads as the publication it was written for. -/
theorem publish_round_trip (s : Sorteio) {topic : List UInt8} (payload : List UInt8)
    {qos : ℕ} (retain : ℕ) {c : MqttConnection} (hqos : qos < 3) (ht : topic ≠ [])
    (hshort : topic.length < 65536)
    (hfit : mqttMaxFixedHeaderSize + (corpoPublish topic qos (idDe s qos)).length +
      payload.length ≤ c.bufferLength)
    (hbuffer : c.bufferLength ≤ 128 ^ 4) :
    let r := mqttMsgPublish s topic (.bytes payload) qos retain c
    let m := r.2.outboundMessage.data
    let l : LidoPublish :=
      { valido := true
        tipo := some .publish
        dup := 0
        qos := qos
        retain := retain % 2
        total := m.length
        topic := some topic
        data := payload
        id := r.1 }
    lePublish m = l ∧ (0 < qos → lePublish (mqttSetDup m) = { l with dup := 1 }) := by
  have h5 : mqttMaxFixedHeaderSize = 5 := rfl
  have hdata := mqttMsgPublish_data s payload hqos retain ht hshort (c := c) (by omega)
    (by omega)
  have hid := congrArg Prod.fst (mqttMsgPublish_of_fits s payload qos retain ht (c := c)
    (by omega))
  rw [List.take_of_length_le (by omega)] at hdata
  generalize hp : PacotePublish.novo topic (idDe s qos) payload hqos retain ht hshort = p at hdata
  have hbytes : (mqttMsgPublish s topic (.bytes payload) qos retain c).2.outboundMessage.data =
      p.bytes := by
    rw [hdata, ← hp]
    rfl
  have hpqos : p.qos = qos := by
    rw [← hp]
    exact PacotePublish.qos_novo payload hqos retain ht hshort _
  have hpid : (if 0 < p.qos then p.id else 0) = idDe s qos := by
    rw [hpqos, ← hp]
    dsimp only [PacotePublish.novo, idDe]
    split <;> rfl
  have hread := leCabecalho_headerByte .publish 0 qos retain
  have hh : p.h = headerByte .publish 0 qos retain := by rw [← hp]; rfl
  have htopic : p.topic = topic := by rw [← hp]; rfl
  have hpayload : p.payload = payload := by rw [← hp]; rfl
  dsimp only
  rw [hbytes, hid]
  constructor
  · rw [p.lePublish_bytes, hpid, hpqos, hh, hread.dup, hread.retain, htopic, hpayload]
    simp [hqos]
  · intro h0
    have hdup := PacotePublish.headerByte_dup p.h
    have hsame : p.repetido.bytes.length = p.bytes.length := by
      rw [p.bytes_repetido, mqttSetDup, List.length_modifyHead]
    rw [← p.bytes_repetido, p.repetido.lePublish_bytes, p.qos_repetido, hsame]
    have hrid : p.repetido.id = p.id := rfl
    have hrh : p.repetido.h = p.h ||| 0x08 := rfl
    have hrtopic : p.repetido.topic = p.topic := rfl
    have hrpayload : p.repetido.payload = p.payload := rfl
    rw [hrid, hpid, hpqos, hrh, hdup.2.1, hdup.2.2.2, hh, hread.retain, hrtopic, htopic,
      hrpayload, hpayload]
    simp [hqos, h0]

theorem sete_ne_zero : (7 : UInt16) ≠ 0 := by decide

def Sorteio.sete : Sorteio := ⟨7, sete_ne_zero⟩

/-- `x` on the topic `t`, with an acknowledgement. -/
theorem publish_de_uma_letra :
    let r := mqttMsgPublish .sete [116] (.bytes [120]) 1 0 { bufferLength := 64 }
    let m := r.2.outboundMessage.data
    let l : LidoPublish :=
      { valido := true
        tipo := some .publish
        dup := 0
        qos := 1
        retain := 0 % 2
        total := m.length
        topic := some [116]
        data := [120]
        id := r.1 }
    lePublish m = l ∧ (0 < 1 → lePublish (mqttSetDup m) = { l with dup := 1 }) :=
  publish_round_trip .sete [120] 0 (by decide) (by decide) (by decide) (by decide) (by decide)

end HidroControl.EspMqtt
