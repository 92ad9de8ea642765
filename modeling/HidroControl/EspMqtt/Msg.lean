import HidroControl.Base.Wire
import Mathlib.Data.UInt

/-!
# `mqtt_msg.c` — MQTT 3.1.1 packets

The firmware's MQTT library builds a packet from the fifth byte of its buffer on,
and puts the fixed header right before it when the length is known. The bytes
built so far are a list (`corpo`), the bounds of the buffer are checked where the
source checks them, and a message that could not be built has no bytes. The
readers take the buffer and the length they may look at, and read a byte that is
not there as zero.
-/

namespace HidroControl.EspMqtt

open Wire

inductive MqttMessageType where
  | connect
  | connack
  | publish
  | puback
  | pubrec
  | pubrel
  | pubcomp
  | subscribe
  | suback
  | unsubscribe
  | unsuback
  | pingreq
  | pingresp
  | disconnect
deriving DecidableEq

def MqttMessageType.code : MqttMessageType → ℕ
  | .connect => 1
  | .connack => 2
  | .publish => 3
  | .puback => 4
  | .pubrec => 5
  | .pubrel => 6
  | .pubcomp => 7
  | .subscribe => 8
  | .suback => 9
  | .unsubscribe => 10
  | .unsuback => 11
  | .pingreq => 12
  | .pingresp => 13
  | .disconnect => 14

/-- The four bits of a type; 0 and 15 are none. -/
def MqttMessageType.ofCode : ℕ → Option MqttMessageType
  | 1 => some .connect
  | 2 => some .connack
  | 3 => some .publish
  | 4 => some .puback
  | 5 => some .pubrec
  | 6 => some .pubrel
  | 7 => some .pubcomp
  | 8 => some .subscribe
  | 9 => some .suback
  | 10 => some .unsubscribe
  | 11 => some .unsuback
  | 12 => some .pingreq
  | 13 => some .pingresp
  | 14 => some .disconnect
  | _ => none

theorem MqttMessageType.ofCode_code (t : MqttMessageType) : ofCode t.code = some t := by
  cases t <;> rfl

/-! ## The outbound message -/

def mqttMaxFixedHeaderSize : ℕ := 5

/-- `data` and `length` are the list. -/
structure MqttMessage where
  data : List UInt8 := []
  fragmentedMsgTotalLength : ℕ := 0
  /-- A `size_t` of 32 bits, and it is decremented below zero. -/
  fragmentedMsgDataOffset : UInt32 := 0

structure MqttConnection where
  outboundMessage : MqttMessage := {}
  bufferLength : ℕ

/-- The first number that `platform_random(65535)` gives and that is not zero. -/
structure Sorteio where
  id : UInt16
  ne : id ≠ 0

/-- Appends a string to `corpo`, what stands in the buffer from its fifth byte on. -/
def appendString (c : MqttConnection) (string corpo : List UInt8) : Option (List UInt8) :=
  if c.bufferLength < mqttMaxFixedHeaderSize + corpo.length + string.length + 2 then none
  else some (corpo ++ (be16 string.length ++ string))

def appendMessageId (s : Sorteio) (c : MqttConnection) (messageId : UInt16)
    (corpo : List UInt8) : Option (UInt16 × List UInt8) :=
  let messageId := if messageId = 0 then s.id else messageId
  if c.bufferLength < mqttMaxFixedHeaderSize + corpo.length + 2 then none
  else some (messageId, corpo ++ be16 messageId.toNat)

def failMessage (c : MqttConnection) : MqttConnection :=
  { c with outboundMessage := { c.outboundMessage with data := [] } }

/-- The first byte of a packet. -/
def headerByte (type : MqttMessageType) (dup qos retain : ℕ) : UInt8 :=
  UInt8.ofNat (((type.code &&& 0x0f) <<< 4) ||| ((dup &&& 1) <<< 3) |||
    ((qos &&& 3) <<< 1) ||| (retain &&& 1))

def finiMessage (c : MqttConnection) (corpo : List UInt8) (type : MqttMessageType)
    (dup qos retain : ℕ) : MqttConnection :=
  let m := c.outboundMessage
  let totalLength :=
    if m.fragmentedMsgTotalLength ≠ 0 then
      m.fragmentedMsgTotalLength - mqttMaxFixedHeaderSize
    else corpo.length
  let encodedLens := encode totalLength
  if mqttMaxFixedHeaderSize < encodedLens.length + 1 then failMessage c
  else
    let offs := mqttMaxFixedHeaderSize - 1 - encodedLens.length
    { c with
      outboundMessage :=
        { m with
          data := headerByte type dup qos retain :: (encodedLens ++ corpo)
          fragmentedMsgDataOffset := m.fragmentedMsgDataOffset - UInt32.ofNat offs } }

/-! ## Writers -/

/-- A payload by its pointer and its length. -/
inductive PublishData where
  | null (len : ℕ)
  | bytes (b : List UInt8)

/-- `data == NULL && data_length > 0` -/
def PublishData.invalido : PublishData → Bool
  | .null len => 0 < len
  | .bytes _ => false

def publishId (s : Sorteio) (qos : ℕ) (c : MqttConnection) (corpo : List UInt8) :
    Option (UInt16 × List UInt8) :=
  if 0 < qos then appendMessageId s c 0 corpo else some (0, corpo)

/-- The payload, or as much of it as fits; the rest goes out in fragments. -/
def appendData (data : PublishData) (c : MqttConnection) (corpo : List UInt8) :
    MqttConnection × List UInt8 :=
  match data with
  | .null _ => (c, corpo)
  | .bytes b =>
      let length := mqttMaxFixedHeaderSize + corpo.length
      if c.bufferLength < length + b.length then
        ({ c with
            outboundMessage :=
              { c.outboundMessage with
                fragmentedMsgDataOffset := UInt32.ofNat length
                fragmentedMsgTotalLength := b.length + length } },
          corpo ++ b.take (c.bufferLength - length))
      else
        ({ c with outboundMessage := { c.outboundMessage with fragmentedMsgTotalLength := 0 } },
          corpo ++ b)

/-- The packet in the connection, and the id it carries. A topic that is a null
pointer is an empty one. -/
def mqttMsgPublish (s : Sorteio) (topic : List UInt8) (data : PublishData) (qos retain : ℕ)
    (c : MqttConnection) : UInt16 × MqttConnection :=
  if topic = [] then (0, failMessage c)
  else
    match appendString c topic [] with
    | none => (0, failMessage c)
    | some corpo =>
        if data.invalido then (0, failMessage c)
        else
          match publishId s qos c corpo with
          | none => (0, failMessage c)
          | some (id, corpo) =>
              let r := appendData data c corpo
              (id, finiMessage r.1 r.2 .publish 0 qos retain)

/-- A packet of one id: the four answers. -/
def mqttMsgAck (type : MqttMessageType) (qos : ℕ) (s : Sorteio) (messageId : UInt16)
    (c : MqttConnection) : MqttConnection :=
  match appendMessageId s c messageId [] with
  | none => failMessage c
  | some (_, corpo) => finiMessage c corpo type 0 qos 0

def mqttMsgPuback := mqttMsgAck .puback 0
def mqttMsgPubrec := mqttMsgAck .pubrec 0
def mqttMsgPubrel := mqttMsgAck .pubrel 1
def mqttMsgPubcomp := mqttMsgAck .pubcomp 0

structure EspMqttTopic where
  filter : List UInt8
  qos : ℕ

/-- The loop over the topics of `mqtt_msg_subscribe`. -/
def appendTopics (c : MqttConnection) :
    List EspMqttTopic → List UInt8 → Option (List UInt8)
  | [], corpo => some corpo
  | t :: ts, corpo =>
      if t.filter = [] then none
      else
        match appendString c t.filter corpo with
        | none => none
        | some corpo =>
            if c.bufferLength < mqttMaxFixedHeaderSize + corpo.length + 1 then none
            else appendTopics c ts (corpo ++ [UInt8.ofNat t.qos])

def mqttMsgSubscribe (s : Sorteio) (topicList : List EspMqttTopic) (c : MqttConnection) :
    UInt16 × MqttConnection :=
  match appendMessageId s c 0 [] with
  | none => (0, failMessage c)
  | some (id, corpo) =>
      match appendTopics c topicList corpo with
      | none => (id, failMessage c)
      | some corpo => (id, finiMessage c corpo .subscribe 0 1 0)

def mqttMsgPingreq (c : MqttConnection) : MqttConnection := finiMessage c [] .pingreq 0 0 0

/-! ### CONNECT -/

inductive EspMqttProtocolVer where
  | v31
  | v311
deriving DecidableEq

/-- A string that is a null pointer is an empty one. -/
structure MqttConnectInfo where
  clientId : List UInt8
  username : List UInt8
  password : List UInt8
  willTopic : List UInt8 := []
  willMessage : List UInt8 := []
  keepalive : ℕ
  willQos : ℕ := 0
  willRetain : Bool := false
  cleanSession : Bool := true
  protocolVer : EspMqttProtocolVer := .v311

/-- The variable header up to the flags: the protocol's name and version. -/
def nomeProtocolo : EspMqttProtocolVer → List UInt8
  | .v31 => [0, 6, 77, 81, 73, 115, 100, 112, 3]
  | .v311 => [0, 4, 77, 81, 84, 84, 4]

/-- `variable_header[flags_offset] |= flag` -/
def ligaFlag (v : EspMqttProtocolVer) (flag : UInt8) (corpo : List UInt8) : List UInt8 :=
  corpo.modify (nomeProtocolo v).length (· ||| flag)

def appendWill (c : MqttConnection) (info : MqttConnectInfo) (corpo : List UInt8) :
    Option (List UInt8) :=
  if info.willTopic = [] then some corpo
  else do
    let corpo ← appendString c info.willTopic corpo
    let corpo ← appendString c info.willMessage corpo
    let corpo := ligaFlag info.protocolVer 0x04 corpo
    let corpo := if info.willRetain then ligaFlag info.protocolVer 0x20 corpo else corpo
    return ligaFlag info.protocolVer (UInt8.ofNat ((info.willQos &&& 3) <<< 3)) corpo

def appendUsername (c : MqttConnection) (info : MqttConnectInfo) (corpo : List UInt8) :
    Option (List UInt8) :=
  if info.username = [] then some corpo
  else do
    let corpo ← appendString c info.username corpo
    return ligaFlag info.protocolVer 0x80 corpo

/-- A password without a user name comes with an empty one. -/
def appendPassword (c : MqttConnection) (info : MqttConnectInfo) (corpo : List UInt8) :
    Option (List UInt8) :=
  if info.password = [] then some corpo
  else do
    let corpo ←
      if info.username = [] then do
        let corpo ← appendString c [] corpo
        pure (ligaFlag info.protocolVer 0x80 corpo)
      else pure corpo
    let corpo ← appendString c info.password corpo
    return ligaFlag info.protocolVer 0x40 corpo

def mqttMsgConnect (info : MqttConnectInfo) (c : MqttConnection) : MqttConnection :=
  let header := nomeProtocolo info.protocolVer ++ [0] ++ be16 info.keepalive
  if c.bufferLength < mqttMaxFixedHeaderSize + header.length then failMessage c
  else
    let header := if info.cleanSession then ligaFlag info.protocolVer 0x02 header else header
    let corpo := do
      let corpo ← appendString c info.clientId header
      let corpo ← appendWill c info corpo
      let corpo ← appendUsername c info corpo
      appendPassword c info corpo
    match corpo with
    | none => failMessage c
    | some corpo => finiMessage c corpo .connect 0 0 0

/-! ## Readers -/

def byteAt (buffer : List UInt8) (i : ℕ) : UInt8 := buffer.getD i 0

def mqttGetType (buffer : List UInt8) : Option MqttMessageType :=
  MqttMessageType.ofCode ((byteAt buffer 0 &&& 0xf0) >>> 4).toNat

def mqttGetDup (buffer : List UInt8) : ℕ := ((byteAt buffer 0 &&& 0x08) >>> 3).toNat

def mqttSetDup (buffer : List UInt8) : List UInt8 := buffer.modifyHead (· ||| 0x08)

def mqttGetQos (buffer : List UInt8) : ℕ := ((byteAt buffer 0 &&& 0x06) >>> 1).toNat

def mqttGetRetain (buffer : List UInt8) : ℕ := (byteAt buffer 0 &&& 0x01).toNat

def mqttGetConnectReturnCode (buffer : List UInt8) : ℕ := (byteAt buffer 3).toNat

/-- The loop over the remaining length, at byte `i` of the buffer: what it has
added up in `totlen`, and where it stops. -/
def somaComprimento : ℕ → ℕ → List UInt8 → ℕ × ℕ
  | i, totlen, [] => (totlen, i)
  | i, totlen, b :: bs =>
      let totlen := totlen + (b &&& 0x7f).toNat <<< (7 * (i - 1))
      if goesOn b then somaComprimento (i + 1) totlen bs else (totlen, i + 1)

/-- The sum over the fixed header and the header's length. -/
def cabecalho (buffer : List UInt8) (length : ℕ) : ℕ × ℕ :=
  somaComprimento 1 0 ((buffer.take length).drop 1)

/-- The length of the whole packet, and of its fixed header. -/
def mqttGetTotalLength (buffer : List UInt8) (length : ℕ) : ℕ × ℕ :=
  let r := cabecalho buffer length
  (r.1 + r.2, r.2)

def mqttGetPublishTopic (buffer : List UInt8) (length : ℕ) : Option (List UInt8) :=
  let i := (cabecalho buffer length).2
  if length ≤ i + 2 then none
  else
    let topiclen := readBe16 buffer i
    if length < i + 2 + topiclen then none
    else some ((buffer.drop (i + 2)).take topiclen)

/-- No pointer comes with a length of zero. -/
def mqttGetPublishData (buffer : List UInt8) (blength : ℕ) : Option (List UInt8) :=
  let (totlen, i) := mqttGetTotalLength buffer blength
  if blength ≤ i + 2 then none
  else
    let i := i + 2 + readBe16 buffer i
    if blength ≤ i then none
    else if 0 < mqttGetQos buffer ∧ blength ≤ i + 2 then none
    else
      let i := if 0 < mqttGetQos buffer then i + 2 else i
      if totlen < i then none
      else some ((buffer.drop i).take (min totlen blength - i))

def mqttGetSubackData (buffer : List UInt8) (length : ℕ) : Option (List UInt8) :=
  if 4 < length then some ((buffer.take length).drop 4) else none

def mqttGetId (buffer : List UInt8) (length : ℕ) : UInt16 :=
  if length < 1 then 0
  else
    match mqttGetType buffer with
    | some .publish =>
        let i := (cabecalho buffer length).2
        if length ≤ i + 2 then 0
        else
          let i' := i + 2 + readBe16 buffer i
          if length < i' then 0
          else if 0 < mqttGetQos buffer then
            if length < i' + 2 then 0 else UInt16.ofNat (readBe16 buffer i')
          else 0
    | some .puback | some .pubrec | some .pubrel | some .pubcomp | some .suback
    | some .unsuback | some .subscribe | some .unsubscribe =>
        if 4 ≤ length ∧ goesOn (byteAt buffer 1) = false then
          UInt16.ofNat (readBe16 buffer 2)
        else 0
    | _ => 0

def mqttHasValidMsgHdr (buffer : List UInt8) (length : ℕ) : Bool :=
  if length < 1 then false
  else
    match mqttGetType buffer with
    | some .connect | some .connack | some .puback | some .pubrec | some .pubcomp
    | some .suback | some .unsuback | some .pingreq | some .pingresp | some .disconnect =>
        byteAt buffer 0 &&& 0x0f == 0
    | some .pubrel | some .subscribe | some .unsubscribe => byteAt buffer 0 &&& 0x0f == 0x02
    | some .publish =>
        mqttGetQos buffer < 3 && (0 < mqttGetQos buffer || mqttGetDup buffer == 0)
    | none => false

end HidroControl.EspMqtt
