import HidroControl.EspMqtt.Client

/-!
# What a publication puts on the wire

`mqtt_msg_publish` makes the packet whole, or a first fragment of it; the loop of
`esp_mqtt_client_publish` writes that, and the rest of the payload behind it in pieces
of the size of the buffer. Cut or not, and however the transport takes it, the bytes of
one packet go out (`espMqttClientPublish_fio`).

How much of the payload a fragment holds is reckoned from an offset that
`mqtt_msg.c` moves with every packet and only a publication sets back. It never goes
wrong before 2^30 (`offset`).
-/

namespace HidroControl.EspMqtt

open Wire

/-! ## The request -/

def PublishData.conteudo : PublishData → List UInt8
  | .null _ => []
  | .bytes b => b

/-- A request that the library's interface allows, of a size that MQTT allows. -/
structure Pedido.Valido (p : Pedido) : Prop where
  qos : p.qos < 3
  tamanho : p.topic.length + p.data.conteudo.length + 4 < 128 ^ 4

/-- It need not be cut, whatever the size of the buffer. -/
def Pedido.Curto (p : Pedido) : Prop :=
  mqttMaxFixedHeaderSize + 4 + p.topic.length + p.data.conteudo.length ≤ mqttBufferSizeByte

/-- No fragment is pending, and the topic of any packet in the buffer can be written with
two bytes of length. -/
structure SemFragmento (m : MqttConnection) : Prop where
  total : m.outboundMessage.fragmentedMsgTotalLength = 0
  buffer : m.bufferLength ≤ 65536

/-- So it is between two actions, with a buffer in which no short packet is cut. -/
structure Limpa (m : MqttConnection) : Prop extends SemFragmento m where
  minimo : mqttBufferSizeByte ≤ m.bufferLength

/-- A null payload is an empty one. -/
theorem mqttMsgPublish_null (s : Sorteio) (topic : List UInt8) (qos retain : ℕ)
    {c : MqttConnection} (hc : c.outboundMessage.fragmentedMsgTotalLength = 0) :
    mqttMsgPublish s topic (.null 0) qos retain c =
      mqttMsgPublish s topic (.bytes []) qos retain c := by
  have hroom : ∀ {corpo id corpo'}, publishId s qos c corpo = some (id, corpo') →
      mqttMaxFixedHeaderSize + corpo.length ≤ c.bufferLength →
      mqttMaxFixedHeaderSize + corpo'.length ≤ c.bufferLength := by
    intro corpo id corpo' h hle
    unfold publishId at h
    split at h
    · rw [appendMessageId_zero] at h
      split at h
      next hfit =>
          obtain ⟨-, rfl⟩ := Prod.mk.inj (Option.some.inj h)
          rw [List.length_append, length_be16]
          omega
      next => cases h
    · obtain ⟨-, rfl⟩ := Prod.mk.inj (Option.some.inj h)
      exact hle
  unfold mqttMsgPublish
  split
  · rfl
  · cases hstring : appendString c topic [] with
    | none => rfl
    | some corpo =>
        dsimp only [PublishData.invalido]
        cases hid : publishId s qos c corpo with
        | none => rfl
        | some r =>
            have hcorpo : mqttMaxFixedHeaderSize + corpo.length ≤ c.bufferLength := by
              rw [appendString_eq] at hstring
              split at hstring
              next hfit =>
                  rw [← Option.some.inj hstring]
                  simp only [List.length_nil, List.nil_append, List.length_append,
                    length_be16] at hfit ⊢
                  omega
              next => cases hstring
            have hle := hroom hid hcorpo
            have hsame : appendData (.bytes []) c r.2 = (c, r.2) := by
              unfold appendData
              dsimp only
              rw [List.length_nil, Nat.add_zero, if_neg (by omega), List.append_nil, ← hc]
            dsimp only
            rw [hsame]
            rfl

/-! ## The packet -/

/-- `pk` is the publication that `p` asks for, under the id `id`. -/
structure Pedido.Pacote (p : Pedido) (id : UInt16) (pk : PacotePublish) : Prop where
  topic : pk.topic = p.topic
  payload : pk.payload = p.data.conteudo
  len : p.data.len = pk.payload.length
  qos : pk.qos = p.qos
  dup : mqttGetDup [pk.h] = 0
  retain : mqttGetRetain [pk.h] = p.retain % 2
  id : pk.id = id

/-- The id of the request. -/
def Pedido.id (p : Pedido) (s : Sorteio) : UInt16 := idDe s p.qos

/-- The offset has only been moved down since it was zero, by no more than `n`. -/
def Recuo (offset : UInt32) (n : ℕ) : Prop := ∃ k ≤ n, offset = 0 - UInt32.ofNat k

theorem Recuo.sub {offset : UInt32} {n k : ℕ} (h : Recuo offset n) (hk : k ≤ 3) :
    Recuo (offset - UInt32.ofNat k) (n + 3) := by
  obtain ⟨k₀, hk₀, rfl⟩ := h
  refine ⟨k₀ + k, by omega, ?_⟩
  rw [UInt32.ofNat_add, UInt32.zero_sub, UInt32.zero_sub, UInt32.neg_add]

theorem Recuo.mono {offset : UInt32} {n n' : ℕ} (h : Recuo offset n) (hn : n ≤ n') :
    Recuo offset n' := by
  obtain ⟨k, hk, hoff⟩ := h
  exact ⟨k, hk.trans hn, hoff⟩

/-- A packet is closed, or none is: the buffer has no fragment, and the offset has been
moved down by at most three. -/
structure Fecha (m m' : MqttConnection) : Prop where
  total : m'.outboundMessage.fragmentedMsgTotalLength = 0
  bufferLength : m'.bufferLength = m.bufferLength
  offset : ∃ k ≤ 3, m'.outboundMessage.fragmentedMsgDataOffset =
    m.outboundMessage.fragmentedMsgDataOffset - UInt32.ofNat k

section Fecha

variable {m m' : MqttConnection}

theorem Fecha.limpa (h : Fecha m m') (hm : Limpa m) : Limpa m' :=
  ⟨⟨h.total, h.bufferLength ▸ hm.buffer⟩, h.bufferLength ▸ hm.minimo⟩

theorem Fecha.recuo (h : Fecha m m') {n : ℕ}
    (hm : Recuo m.outboundMessage.fragmentedMsgDataOffset n) :
    Recuo m'.outboundMessage.fragmentedMsgDataOffset (n + 3) := by
  obtain ⟨k, hk, hoffset⟩ := h.offset
  rw [hoffset]
  exact hm.sub hk

theorem failMessage_fecha (hm : SemFragmento m) : Fecha m (failMessage m) :=
  ⟨hm.total, rfl, 0, Nat.zero_le _, (UInt32.sub_zero _).symm⟩

end Fecha

theorem dadosNoBuffer_eq {m : MqttMessage} {n : ℕ} (h : n < 2 ^ 31)
    (hn : UInt32.ofNat m.data.length - m.fragmentedMsgDataOffset = UInt32.ofNat n) :
    dadosNoBuffer m = n := by
  rw [dadosNoBuffer, hn, UInt32.toInt32_ofNat', Int32.toInt_ofNat_of_lt h]

/-- The header of `e` bytes of length starts `4 - e` bytes into the buffer. -/
theorem offset_exato {e : ℕ} (he : e ≤ 4) (corpo n : ℕ) :
    UInt32.ofNat (e + (corpo + n) + 1) - (UInt32.ofNat (mqttMaxFixedHeaderSize + corpo) -
      UInt32.ofNat (mqttMaxFixedHeaderSize - 1 - e)) = UInt32.ofNat n := by
  have h5 : mqttMaxFixedHeaderSize = 5 := rfl
  rw [h5, ← UInt32.ofNat_sub (by omega), ← UInt32.ofNat_sub (by omega)]
  congr 1
  omega

section Pacote

variable {p : Pedido} (s : Sorteio) {m : MqttConnection}

/-- A null pointer with a length is refused; every other payload is its bytes. -/
theorem mqttMsgPublish_conteudo (hm : SemFragmento m) :
    (mqttMsgPublish s p.topic p.data p.qos p.retain m).2 = failMessage m ∨
      p.data.len = p.data.conteudo.length ∧
        mqttMsgPublish s p.topic p.data p.qos p.retain m =
          mqttMsgPublish s p.topic (.bytes p.data.conteudo) p.qos p.retain m := by
  cases hd : p.data with
  | bytes b => exact Or.inr ⟨rfl, rfl⟩
  | null len =>
      rcases Nat.eq_zero_or_pos len with rfl | hpos
      · exact Or.inr ⟨rfl, mqttMsgPublish_null s p.topic p.qos p.retain hm.total⟩
      · left
        unfold mqttMsgPublish
        split
        · rfl
        · split
          · rfl
          · rw [if_pos (by simpa [PublishData.invalido] using hpos)]

theorem length_corpo_lt (hp : p.Valido) (id : UInt16) :
    (corpoPublish p.topic p.qos id).length + p.data.conteudo.length < 128 ^ 4 := by
  have hlen := length_corpoPublish p.topic p.qos id
  have := hp.tamanho
  split at hlen <;> omega

/-- A request that is refused leaves no fragment. -/
theorem mqttMsgPublish_nil (hp : p.Valido) (hm : SemFragmento m)
    (hdata : (mqttMsgPublish s p.topic p.data p.qos p.retain m).2.outboundMessage.data = []) :
    (mqttMsgPublish s p.topic p.data p.qos p.retain m).2 = failMessage m := by
  rcases mqttMsgPublish_conteudo s hm with hfail | ⟨-, hsame⟩
  · exact hfail
  · rw [hsame] at hdata ⊢
    rcases (mqttMsgPublish_eq_nil_iff s p.data.conteudo p.retain (length_corpo_lt hp _)).mp
      hdata with ht | hroom
    · rw [mqttMsgPublish, if_pos ht]
    · rw [mqttMsgPublish_of_not_fits s p.data.conteudo p.qos p.retain hroom]

/-- **What `mqtt_msg_publish` leaves in the client**: the packet with `n` bytes of its
payload, and an offset that tells so, if it is cut; if it is whole, the offset has only
been moved down. -/
theorem mqttMsgPublish_pacote (hp : p.Valido) (hm : SemFragmento m)
    (hdata : (mqttMsgPublish s p.topic p.data p.qos p.retain m).2.outboundMessage.data ≠ []) :
    ∃ (pk : PacotePublish) (n total : ℕ) (offset : UInt32),
      p.Pacote (p.id s) pk ∧
      mqttMsgPublish s p.topic p.data p.qos p.retain m =
        (p.id s, { m with
          outboundMessage :=
            { data := pk.ate (p.data.conteudo.take n)
              fragmentedMsgTotalLength := total
              fragmentedMsgDataOffset := offset } }) ∧
      (pk.ate (p.data.conteudo.take n)).length ≤ m.bufferLength ∧
      (total = 0 ∧ n = p.data.conteudo.length ∧
          (∃ k ≤ 3, offset = m.outboundMessage.fragmentedMsgDataOffset - UInt32.ofNat k) ∨
        total ≠ 0 ∧ n < p.data.conteudo.length ∧
          UInt32.ofNat (pk.ate (p.data.conteudo.take n)).length - offset = UInt32.ofNat n ∧
          m.bufferLength <
            mqttMaxFixedHeaderSize + 4 + p.topic.length + p.data.conteudo.length) := by
  have h5 : mqttMaxFixedHeaderSize = 5 := rfl
  obtain ⟨hlendata, hsame⟩ : p.data.len = p.data.conteudo.length ∧
      mqttMsgPublish s p.topic p.data p.qos p.retain m =
        mqttMsgPublish s p.topic (.bytes p.data.conteudo) p.qos p.retain m := by
    rcases mqttMsgPublish_conteudo s hm with hfail | hsame
    · exact absurd (congrArg (·.outboundMessage.data) hfail) hdata
    · exact hsame
  rw [hsame] at hdata ⊢
  have hsize := length_corpo_lt hp (p.id s)
  have hlen := length_corpoPublish p.topic p.qos (p.id s)
  generalize hpay : p.data.conteudo = payload at hdata hsize hlendata ⊢
  have hall := mt (mqttMsgPublish_eq_nil_iff s payload p.retain hsize).mpr hdata
  rw [not_or, not_lt] at hall
  obtain ⟨ht, hfit⟩ := hall
  have hroom : mqttMaxFixedHeaderSize + (corpoPublish p.topic p.qos (p.id s)).length
      ≤ m.bufferLength := hfit
  have hshort : p.topic.length < 65536 := by
    have hbuffer := hm.buffer
    split at hlen <;> omega
  obtain ⟨total, offset, heq, hcase⟩ :=
    appendData_bytes payload (corpoPublish p.topic p.qos (p.id s)) m
  have henc := length_encode_le (k := 4) (by decide) hsize
  have hread := leCabecalho_headerByte .publish 0 p.qos p.retain
  have hpack : p.Pacote (p.id s)
      (PacotePublish.novo p.topic (p.id s) payload hp.qos p.retain ht hshort) :=
    ⟨rfl, hpay.symm, hlendata, PacotePublish.qos_novo payload hp.qos p.retain ht hshort _, hread.dup,
      hread.retain, rfl⟩
  have hate : ∀ part, headerByte .publish 0 p.qos p.retain ::
      (encode ((corpoPublish p.topic p.qos (p.id s)).length + payload.length) ++
        (corpoPublish p.topic p.qos (p.id s) ++ part)) =
      (PacotePublish.novo p.topic (p.id s) payload hp.qos p.retain ht hshort).ate part :=
    fun part => (PacotePublish.ate_novo payload hp.qos p.retain ht hshort _ part).symm
  rw [mqttMsgPublish_of_fits s payload p.qos p.retain ht hfit]
  change ∃ pk n total offset, _ ∧ (p.id s, finiMessage
    (appendData (.bytes payload) m (corpoPublish p.topic p.qos (p.id s))).1 _ _ _ _ _) = _ ∧ _
  rw [show idDe s p.qos = p.id s from rfl, heq]
  dsimp only
  rcases hcase with ⟨hle, rfl, rfl⟩ | ⟨hgt, rfl, rfl⟩
  · -- the whole packet
    rw [finiMessage_data (n := (corpoPublish p.topic p.qos (p.id s)).length + payload.length)
      (by
        dsimp only
        rw [if_neg (by simp), List.length_append, List.take_of_length_le (by omega)]) hsize]
    refine ⟨_, payload.length, 0, _, hpack, ?_, ?_,
      Or.inl ⟨rfl, rfl, mqttMaxFixedHeaderSize - 1 -
      (encode ((corpoPublish p.topic p.qos (p.id s)).length + payload.length)).length, ?_, rfl⟩⟩
    · dsimp only
      rw [← hate, List.take_length, List.take_of_length_le (by omega)]
    · rw [← hate, List.length_cons, List.length_append, List.length_append, List.length_take]
      omega
    · have := length_encode_pos
        ((corpoPublish p.topic p.qos (p.id s)).length + payload.length)
      omega
  · -- a first fragment
    rw [finiMessage_data (n := (corpoPublish p.topic p.qos (p.id s)).length + payload.length)
      (by
        dsimp only
        rw [if_pos (by omega)]
        omega) hsize]
    generalize hn : m.bufferLength -
      (mqttMaxFixedHeaderSize + (corpoPublish p.topic p.qos (p.id s)).length) = n
    have hlength : ((PacotePublish.novo p.topic (p.id s) payload hp.qos p.retain ht hshort).ate
        (payload.take n)).length = (encode ((corpoPublish p.topic p.qos (p.id s)).length +
          payload.length)).length + ((corpoPublish p.topic p.qos (p.id s)).length + n) + 1 := by
      rw [← hate, List.length_cons, List.length_append, List.length_append, List.length_take,
        Nat.min_eq_left (by omega)]
    have hoffset : UInt32.ofNat ((PacotePublish.novo p.topic (p.id s) payload hp.qos p.retain ht
        hshort).ate (payload.take n)).length - (UInt32.ofNat (mqttMaxFixedHeaderSize +
          (corpoPublish p.topic p.qos (p.id s)).length) - UInt32.ofNat (mqttMaxFixedHeaderSize -
            1 - (encode ((corpoPublish p.topic p.qos (p.id s)).length +
              payload.length)).length)) = UInt32.ofNat n := by
      rw [hlength]
      exact offset_exato henc _ _
    refine ⟨_, n, payload.length +
      (mqttMaxFixedHeaderSize + (corpoPublish p.topic p.qos (p.id s)).length), _, hpack, ?_,
      by omega, Or.inr ⟨by omega, by omega, hoffset, ?_⟩⟩
    · dsimp only
      rw [← hate]
    · split at hlen <;> omega

end Pacote

/-! ## Writing -/

/-- The transport takes the bytes from the front, and all of them if it says so. -/
theorem escreve_inicio (es : List ℤ) (bs : List UInt8) :
    (escreve es bs).2.1 <+: bs ∧ ((escreve es bs).1 = .ok → (escreve es bs).2.1 = bs) := by
  induction es generalizing bs with
  | nil =>
      cases bs with
      | nil => exact ⟨List.prefix_rfl, fun _ => rfl⟩
      | cons b bs => exact ⟨List.nil_prefix, fun h => by cases h⟩
  | cons wlen es ih =>
      cases bs with
      | nil => exact ⟨List.prefix_rfl, fun _ => rfl⟩
      | cons b bs =>
          unfold escreve
          split
          · exact ⟨List.nil_prefix, fun h => by cases h⟩
          · split
            · exact ⟨List.nil_prefix, fun h => by cases h⟩
            · obtain ⟨hpre, hall⟩ := ih ((b :: bs).drop wlen.toNat)
              dsimp only
              constructor
              · have := (List.prefix_append_right_inj ((b :: bs).take wlen.toNat)).mpr hpre
                rwa [List.take_append_drop] at this
              · intro hok
                rw [hall hok, List.take_append_drop]

/-- What a call that writes changes if it succeeds: the client's packet, and what is
left of the writes. -/
structure Escreveu (bytes : List UInt8) (c c' : Cliente) : Prop where
  igual : ∃ mundo mqttState, c' = { c with saida := c.saida ++ bytes, mundo, mqttState }
  receptor : c'.mqttState.receptor = c.mqttState.receptor
  bufferLength : c'.mqttState.connection.bufferLength = c.mqttState.connection.bufferLength
  sorteio : c'.mundo.sorteio = c.mundo.sorteio

/-- What it leaves if it fails: a part is out, and the connection is given up. -/
structure Desistiu (bytes : List UInt8) (c c' : Cliente) : Prop where
  saida : ∃ parte, parte <+: bytes ∧ c'.saida = c.saida ++ parte
  state : c'.state = .waitReconnect
  outbox : c'.outbox = c.outbox

theorem Escreveu.trans {bytes bytes' : List UInt8} {c c' c'' : Cliente}
    (h : Escreveu bytes c c') (h' : Escreveu bytes' c' c'') :
    Escreveu (bytes ++ bytes') c c'' := by
  obtain ⟨⟨mundo, mqttState, rfl⟩, hr, hb, hs⟩ := h
  obtain ⟨⟨mundo', mqttState', rfl⟩, hr', hb', hs'⟩ := h'
  refine ⟨⟨mundo', mqttState', ?_⟩, hr'.trans hr, hb'.trans hb, hs'.trans hs⟩
  rw [← List.append_assoc]

theorem Escreveu.desistiu {bytes bytes' : List UInt8} {c c' c'' : Cliente}
    (h : Escreveu bytes c c') (h' : Desistiu bytes' c' c'') :
    Desistiu (bytes ++ bytes') c c'' := by
  obtain ⟨⟨mundo, mqttState, rfl⟩, -, -, -⟩ := h
  obtain ⟨⟨parte, hparte, hsaida⟩, hstate, houtbox⟩ := h'
  refine ⟨⟨bytes ++ parte, (List.prefix_append_right_inj bytes).mpr hparte, ?_⟩, hstate, houtbox⟩
  rw [hsaida, List.append_assoc]

variable {cfg : Config}

theorem espMqttWrite_escreveu {c : Cliente} (h : (espMqttWrite cfg c).1 = .ok) :
    Escreveu c.outbound c (espMqttWrite cfg c).2 ∧
      (espMqttWrite cfg c).2.mqttState = c.mqttState := by
  have hall := (escreve_inicio c.mundo.escritas c.outbound).2
  unfold espMqttWrite at h ⊢
  dsimp only at h ⊢
  split at h
  · cases h
  · rw [if_neg ‹_›, hall h]
    exact ⟨⟨⟨_, _, rfl⟩, rfl, rfl, rfl⟩, rfl⟩

theorem espMqttAbortConnection_desistiu (cfg : Config) (c : Cliente) :
    Desistiu c.outbound c (espMqttAbortConnection cfg (espMqttWrite cfg c).2) := by
  have hpre := (escreve_inicio c.mundo.escritas c.outbound).1
  unfold espMqttWrite
  dsimp only
  split <;> exact ⟨⟨_, hpre, rfl⟩, rfl, rfl⟩

/-- One round of the loop: it gives up; or what it has written is behind it, and it goes
on with what is left. -/
theorem publicaLoop_succ (cfg : Config) (fuel : ℕ) (remaining : ℤ) (dados : List UInt8)
    (c : Cliente) {sent : ℤ}
    (hsent : dadosNoBuffer c.mqttState.connection.outboundMessage = sent) :
    (∃ c', publicaLoop cfg (fuel + 1) remaining dados c = (.fail, c') ∧
        Desistiu c.outbound c c') ∨
      ∃ c', Escreveu c.outbound c c' ∧
        c'.mqttState = c.semOffset.limpa.mqttState ∧
        publicaLoop cfg (fuel + 1) remaining dados c =
          if 0 < remaining - sent then
            publicaLoop cfg fuel (remaining - sent) (dados.drop sent.toNat)
              (c'.comOutbound ((dados.drop sent.toNat).take
                (min (remaining - sent).toNat c'.mqttState.connection.bufferLength)))
          else (.ok, c') := by
  rw [publicaLoop]
  dsimp only
  by_cases hok : (espMqttWrite cfg c).1 = .ok
  · obtain ⟨⟨⟨mundo, mqttState, heq⟩, hr, hb, hs⟩, hsame⟩ := espMqttWrite_escreveu hok
    rw [if_neg (by simp [hok])]
    refine Or.inr ⟨(espMqttWrite cfg c).2.semOffset.limpa,
      ⟨⟨mundo, (espMqttWrite cfg c).2.semOffset.limpa.mqttState, ?_⟩, hr, hb, hs⟩, ?_, ?_⟩
    · rw [heq]
      rfl
    · simp only [Cliente.limpa, Cliente.semOffset, Cliente.comConexao, hsame]
    · rw [hsame, hsent]
  · rw [if_pos hok]
    exact Or.inl ⟨_, rfl, espMqttAbortConnection_desistiu cfg c⟩

/-- **The pieces one after the other**: with `w` bytes of `dados` in the packet that is
written first, the packet goes out and the rest of `dados` behind it. -/
theorem publicaLoop_bytes (cfg : Config) {fuel w : ℕ} (dados : List UInt8) {c : Cliente}
    (hsent : dadosNoBuffer c.mqttState.connection.outboundMessage = w)
    (hbuffer : 0 < c.mqttState.connection.bufferLength) (hsize : dados.length < 2 ^ 31)
    (hfuel : dados.length - w < fuel) :
    (∃ c', publicaLoop cfg fuel dados.length dados c = (.fail, c') ∧
        Desistiu (c.outbound ++ dados.drop w) c c') ∨
      ∃ c', publicaLoop cfg fuel dados.length dados c = (.ok, c') ∧
        Escreveu (c.outbound ++ dados.drop w) c c' ∧
        c'.mqttState.connection.outboundMessage.fragmentedMsgTotalLength = 0 ∧
        c'.mqttState.connection.outboundMessage.fragmentedMsgDataOffset = 0 := by
  induction fuel generalizing w dados c with
  | zero => omega
  | succ fuel ih =>
      have hrest : (dados.drop w).length = dados.length - w := List.length_drop
      rcases publicaLoop_succ cfg fuel dados.length dados c hsent with
        ⟨c', heq, hfail⟩ | ⟨c', hgood, hstate, heq⟩
      · obtain ⟨⟨parte, hparte, hsaida⟩, hwait, houtbox⟩ := hfail
        exact Or.inl ⟨c', heq, ⟨parte, hparte.trans (List.prefix_append _ _), hsaida⟩, hwait,
          houtbox⟩
      · rw [heq]
        by_cases hmore : w < dados.length
        · -- the next piece is cut from the rest
          generalize hc₁ : c'.comOutbound ((dados.drop w).take
            (min (dados.drop w).length c'.mqttState.connection.bufferLength)) = c₁
          generalize hw' : min (dados.drop w).length c'.mqttState.connection.bufferLength = w'
            at hc₁
          have hlength := hgood.bufferLength
          have hout : c₁.outbound = (dados.drop w).take w' := by rw [← hc₁]; rfl
          have hset : Escreveu [] c' c₁ := by
            rw [← hc₁]
            exact ⟨⟨c'.mundo, _, by rw [List.append_nil]; rfl⟩, rfl, rfl, rfl⟩
          have hoff : c₁.mqttState.connection.outboundMessage.fragmentedMsgDataOffset = 0 := by
            rw [← hc₁, Cliente.comOutbound, hstate]
            rfl
          have hsent' : dadosNoBuffer c₁.mqttState.connection.outboundMessage = w' := by
            apply dadosNoBuffer_eq (by omega)
            rw [hoff, UInt32.sub_zero]
            refine congrArg UInt32.ofNat ((congrArg List.length hout).trans ?_)
            rw [List.length_take]
            omega
          have hnext := ih (dados.drop w) hsent' (by rw [hset.bufferLength]; omega)
            (by omega) (by omega)
          have hcast : (dados.length : ℤ) - (w : ℤ) = ((dados.drop w).length : ℕ) := by
            rw [hrest]
            omega
          rw [hout, List.take_append_drop] at hnext
          rw [if_pos (by omega), hcast, Int.toNat_natCast, Int.toNat_natCast, hw', hc₁]
          rcases hnext with ⟨c'', heq', hfail⟩ | ⟨c'', heq', hgood', hend⟩
          · exact Or.inl ⟨c'', heq', hgood.desistiu (hset.desistiu hfail)⟩
          · exact Or.inr ⟨c'', heq', hgood.trans (hset.trans hgood'), hend⟩
        · have hall : dados.drop w = [] := List.drop_of_length_le (by omega)
          rw [if_neg (by omega), hall, List.append_nil]
          exact Or.inr ⟨c', rfl, hgood, by rw [hstate]; rfl, by rw [hstate]; rfl⟩

/-! ## The client with the packet -/

/-- The client holds the packet with `n` bytes of its payload, and knows how many if
it is cut. -/
structure Corte (antes : UInt32) (m : MqttConnection) (pk : PacotePublish) (n : ℕ) : Prop where
  data : m.outboundMessage.data = pk.ate (pk.payload.take n)
  buffer : (pk.ate (pk.payload.take n)).length ≤ m.bufferLength
  caso :
    (n = pk.payload.length ∧ m.outboundMessage.fragmentedMsgTotalLength = 0 ∧
        ∃ k ≤ 3, m.outboundMessage.fragmentedMsgDataOffset = antes - UInt32.ofNat k) ∨
      n < pk.payload.length ∧
        m.bufferLength < mqttMaxFixedHeaderSize + 4 + pk.topic.length + pk.payload.length ∧
        UInt32.ofNat (pk.ate (pk.payload.take n)).length -
          m.outboundMessage.fragmentedMsgDataOffset = UInt32.ofNat n

/-- A packet that is short is not cut. -/
theorem Corte.fecha {m m' : MqttConnection} {p : Pedido} {id : UInt16} {pk : PacotePublish}
    {n : ℕ} (h : Corte m.outboundMessage.fragmentedMsgDataOffset m' pk n)
    (hpack : p.Pacote id pk) (hlength : m'.bufferLength = m.bufferLength)
    (hm : mqttBufferSizeByte ≤ m.bufferLength) (hcurto : p.Curto) : Fecha m m' := by
  rcases h.caso with ⟨-, htotal, hoffset⟩ | ⟨-, hlong, -⟩
  · exact ⟨htotal, hlength, hoffset⟩
  · rw [hpack.topic, hpack.payload] at hlong
    rw [Pedido.Curto] at hcurto
    omega

/-- **Cut or not, the same bytes go out.** -/
theorem publicaLoop_pacote (cfg : Config) (fuel : ℕ) {antes : UInt32} {pk : PacotePublish}
    {n : ℕ} {c : Cliente} (hantes : Recuo antes (2 ^ 30)) (hcorte : Corte antes c.mqttState.connection pk n)
    (hbuffer : c.mqttState.connection.bufferLength ≤ 65536)
    (hsize : pk.payload.length < 2 ^ 31) (hfuel : pk.payload.length < fuel) :
    (∃ c', publicaLoop cfg fuel pk.payload.length pk.payload c = (.fail, c') ∧
        Desistiu pk.bytes c c') ∨
      ∃ c', publicaLoop cfg fuel pk.payload.length pk.payload c = (.ok, c') ∧
        Escreveu pk.bytes c c' ∧
        c'.mqttState.connection.outboundMessage.fragmentedMsgTotalLength = 0 ∧
        c'.mqttState.connection.outboundMessage.fragmentedMsgDataOffset = 0 := by
  obtain ⟨hdata, hle, hcaso⟩ := hcorte
  have hout : c.outbound = pk.ate (pk.payload.take n) := hdata
  have hlong := pk.length_ate (pk.payload.take n)
  have hpos : 0 < pk.inicio := Nat.zero_lt_of_lt pk.inicio_gt
  have hsplit : ∀ w, pk.payload.drop w = pk.payload.drop n →
      c.outbound ++ pk.payload.drop w = pk.bytes := by
    intro w hw
    rw [hout, hw]
    simp [PacotePublish.bytes, PacotePublish.ate]
  rcases hcaso with ⟨rfl, -, k₀, hk₀, hoff₀⟩ | ⟨hlt, -, hoff⟩
  · -- the packet is whole, and the offset makes it look longer
    obtain ⟨k, hk, hoff⟩ := hoff₀ ▸ hantes.sub hk₀
    have hsent : dadosNoBuffer c.mqttState.connection.outboundMessage =
        ((pk.ate (pk.payload.take pk.payload.length)).length + k : ℕ) := by
      apply dadosNoBuffer_eq (by omega)
      rw [hdata, hoff, UInt32.ofNat_add, UInt32.zero_sub, UInt32.sub_eq_add_neg,
        UInt32.neg_neg]
    have hloop := publicaLoop_bytes cfg pk.payload hsent (by omega) hsize
      (show pk.payload.length - _ < fuel by omega)
    rwa [hsplit _ (by rw [List.take_length, PacotePublish.length_ate, List.drop_length,
      List.drop_of_length_le (by omega)])] at hloop
  · have hsent : dadosNoBuffer c.mqttState.connection.outboundMessage = n := by
      apply dadosNoBuffer_eq (by omega)
      rw [hdata]
      exact hoff
    have hloop := publicaLoop_bytes cfg pk.payload hsent (by omega) hsize
      (show pk.payload.length - _ < fuel by omega)
    rwa [hsplit n rfl] at hloop

/-! ## The message in the outbox -/

theorem PublishData.resto_eq (d : PublishData) (n : ℕ) : d.resto n = d.conteudo.drop n := by
  cases d with
  | null => exact List.drop_nil.symm
  | bytes => rfl

def Pedido.item (p : Pedido) (id : UInt16) (pk : PacotePublish) (tick : ℕ) : OutboxItem where
  buffer := pk.bytes
  msgId := id
  msgType := some .publish
  msgQos := p.qos
  tick := tick
  pending := .queued

/-- The client has another packet, and that is all. -/
def Troca (c c' : Cliente) : Prop :=
  ∃ mqttState, c' = { c with mqttState } ∧ mqttState.receptor = c.mqttState.receptor

/-- The client has put the packet away, whole. -/
def Guardou (p : Pedido) (pk : PacotePublish) (c c' : Cliente) : Prop :=
  ∃ mqttState mundo relogio,
    c' = { c with
      mqttState, mundo, relogio
      outbox := c.outbox.insere (p.item (p.id c.mundo.sorteio) pk relogio)
      postas := (p.item (p.id c.mundo.sorteio) pk relogio).chave :: c.postas } ∧
    c.relogio ≤ relogio ∧ mqttState.connection.outboundMessage.fragmentedMsgTotalLength = 0 ∧
    mqttState.receptor = c.mqttState.receptor

theorem mqttEnqueue_eq (resto : List UInt8) (c : Cliente) :
    mqttEnqueue resto c =
      if c.mundo.memoria then
        let r := platformTickGetMs c
        let x : OutboxItem :=
          { buffer := c.outbound ++ resto
            msgId := c.mqttState.pendingMsgId
            msgType := c.mqttState.pendingMsgType
            msgQos := c.mqttState.pendingPublishQos
            tick := r.1
            pending := .queued }
        some { r.2 with outbox := c.outbox.insere x, postas := x.chave :: c.postas }
      else none := by
  unfold mqttEnqueue outboxEnqueue
  dsimp only [platformTickGetMs]
  split <;> rfl

section Enfileira

variable {p : Pedido} {c : Cliente}

/-- A request is refused, or its packet is made; with a quality of service, or on demand,
it is also put away. -/
theorem mqttClientEnqueuePublish_cases (hp : p.Valido) (store : Bool)
    (hc : SemFragmento c.mqttState.connection) :
    (∃ c', mqttClientEnqueuePublish p store c = (none, c') ∧ Troca c c' ∧
        (c.mundo.memoria = true ∨ p.Curto → Limpa c.mqttState.connection →
          Fecha c.mqttState.connection c'.mqttState.connection)) ∨
      ∃ pk n c', p.Pacote (p.id c.mundo.sorteio) pk ∧
        mqttClientEnqueuePublish p store c = (some (p.id c.mundo.sorteio), c') ∧
        Corte c.mqttState.connection.outboundMessage.fragmentedMsgDataOffset
          c'.mqttState.connection pk n ∧
        c'.mqttState.connection.bufferLength = c.mqttState.connection.bufferLength ∧
        if 0 < p.qos ∨ store = true then Guardou p pk c c' else Troca c c' := by
  generalize hm : c.mqttState.connection = m at *
  unfold mqttClientEnqueuePublish makePublish
  rw [hm]
  by_cases hdata :
      (mqttMsgPublish c.mundo.sorteio p.topic p.data p.qos p.retain m).2.outboundMessage.data = []
  · -- refused
    have hfail := mqttMsgPublish_nil c.mundo.sorteio hp hc hdata
    dsimp only
    rw [hfail, if_pos (by rfl)]
    exact Or.inl ⟨_, rfl, ⟨_, rfl, rfl⟩, fun _ _ => failMessage_fecha hc⟩
  · obtain ⟨pk, n, total, offset, hpack, heq, hle, hcase⟩ :=
      mqttMsgPublish_pacote c.mundo.sorteio hp hc hdata
    obtain ⟨m', hm'⟩ : ∃ m' : MqttConnection, m' = { m with
        outboundMessage :=
          { data := pk.ate (p.data.conteudo.take n)
            fragmentedMsgTotalLength := total
            fragmentedMsgDataOffset := offset } } := ⟨_, rfl⟩
    rw [← hm'] at heq
    rw [heq] at hdata ⊢
    rw [← hpack.payload] at hle hcase hm'
    have hcorte : Corte m.outboundMessage.fragmentedMsgDataOffset m' pk n := by
      rw [hm']
      refine ⟨rfl, hle, ?_⟩
      rcases hcase with ⟨htot, hn, hoffset⟩ | ⟨-, hn, hoffset, hlong⟩
      · exact Or.inl ⟨hn, htot, hoffset⟩
      · exact Or.inr ⟨hn, hpack.topic ▸ hpack.payload ▸ hlong, hoffset⟩
    have hlength : m'.bufferLength = m.bufferLength := by rw [hm']
    have hout : (c.comConexao m').outbound = m'.outboundMessage.data := rfl
    have htype : mqttGetType m'.outboundMessage.data = some .publish := by
      rw [hcorte.data]
      exact pk.tipo
    have htotal : m'.outboundMessage.fragmentedMsgTotalLength = total := by rw [hm']
    dsimp only
    rw [hout, if_neg hdata, htype]
    by_cases hstore : 0 < p.qos ∨ store = true
    · obtain ⟨c₁, hc₁⟩ : ∃ c₁, c₁ =
          (c.comConexao m').comPendente (p.id c.mundo.sorteio) (some .publish) p.qos := ⟨_, rfl⟩
      have hmemoria : c₁.mundo.memoria = c.mundo.memoria := by rw [hc₁]; rfl
      have hnew : c₁.mqttState.connection = m' := by rw [hc₁]; rfl
      have hitem : ∀ tick, ({ buffer := pk.bytes
                              msgId := c₁.mqttState.pendingMsgId
                              msgType := c₁.mqttState.pendingMsgType
                              msgQos := c₁.mqttState.pendingPublishQos
                              tick := tick
                              pending := .queued } : OutboxItem) =
          p.item (p.id c.mundo.sorteio) pk tick := by
        rw [hc₁]
        exact fun _ => rfl
      rw [if_pos (by simpa using hstore), ← hc₁, mqttEnqueue_eq, mqttEnqueue_eq, hnew, htotal,
        hmemoria]
      have hfill : c₁.outbound ++ pk.payload.drop n = pk.bytes := by
        have hdata' : c₁.outbound = pk.ate (pk.payload.take n) := by
          rw [Cliente.outbound, hnew, hcorte.data]
        rw [hdata']
        simp [PacotePublish.bytes, PacotePublish.ate]
      by_cases hmem : c.mundo.memoria = true
      · rw [if_pos hmem, if_pos hmem]
        dsimp only
        right
        rcases hcase with ⟨htot, hn, -⟩ | ⟨htot, hn, hoffset, -⟩
        · -- whole
          have hnil : pk.payload.drop n = [] := by rw [hn, List.drop_length]
          rw [hnil] at hfill
          rw [if_pos htot, hfill, hitem]
          refine ⟨pk, n, _, hpack, rfl, ?_, ?_, ?_⟩
          · exact hnew ▸ hcorte
          · exact (congrArg MqttConnection.bufferLength hnew).trans hlength
          · rw [if_pos hstore]
            refine ⟨c₁.mqttState, (platformTickGetMs c₁).2.mundo, (platformTickGetMs c₁).1, ?_,
              ?_, ?_, ?_⟩
            · rw [hc₁]
              rfl
            · rw [hc₁]
              exact Nat.le_add_right _ _
            · rw [hnew, htotal, htot]
            · rw [hc₁]
              rfl
        · -- cut: the rest of the payload comes from the caller's buffer
          have hsent : dadosNoBuffer m'.outboundMessage = n := by
            have hbuffer := hc.buffer
            have := pk.length_ate (pk.payload.take n)
            rw [List.length_take] at this
            apply dadosNoBuffer_eq (by omega)
            rw [hcorte.data]
            rw [hm']
            exact hoffset
          rw [if_neg htot, hsent, Int.toNat_natCast, PublishData.resto_eq, ← hpack.payload, hfill,
            hitem]
          refine ⟨pk, n, _, hpack, rfl, ?_, ?_, ?_⟩
          · have hcorte' := hnew ▸ hcorte
            refine ⟨hcorte'.data, hcorte'.buffer, ?_⟩
            rcases hcorte'.caso with ⟨hn', -⟩ | hcut
            · omega
            · exact Or.inr hcut
          · exact (congrArg MqttConnection.bufferLength hnew).trans hlength
          · rw [if_pos hstore]
            refine ⟨c₁.limpa.mqttState, (platformTickGetMs c₁).2.mundo,
              (platformTickGetMs c₁).1, ?_, ?_, rfl, ?_⟩
            · rw [hc₁]
              rfl
            · rw [hc₁]
              exact Nat.le_add_right _ _
            · rw [hc₁]
              rfl
      · rw [if_neg hmem, if_neg hmem]
        refine Or.inl ⟨c₁, ?_, ⟨c₁.mqttState, ?_, ?_⟩, fun h hclean => ?_⟩
        · dsimp only
          split <;> rfl
        · rw [hc₁]
          rfl
        · rw [hc₁]
          rfl
        · rw [hnew]
          exact hcorte.fecha hpack hlength hclean.minimo (h.resolve_left hmem)
    · rw [if_neg (by simpa using hstore)]
      refine Or.inr ⟨pk, n, _, hpack, rfl, hcorte, hlength, ?_⟩
      rw [if_neg hstore]
      exact ⟨_, rfl, rfl⟩

end Enfileira

/-! ## A call of `esp_mqtt_client_publish` -/

/-- With a quality of service, the outbox has the packet at its end. -/
structure Guarda (p : Pedido) (id : UInt16) (pk : PacotePublish) (o o' : Outbox) : Prop where
  chaves : o'.chaves = o.chaves ++ if 0 < p.qos then [(p.item id pk 0).chave] else []
  size : o'.size = o.size + if 0 < p.qos then pk.bytes.length else 0

/-- What a call can come to. -/
inductive Publicou (p : Pedido) (c : Cliente) (r : ℤ × Cliente) : Prop
  /-- No packet, or no memory for it: nothing happens. -/
  | recusada (ret : r.1 < 0) (saida : r.2.saida = c.saida) (outbox : r.2.outbox = c.outbox)
      (state : r.2.state = c.state)
  /-- Without a connection, the packet is put away, or lost if it has no quality of
  service. -/
  | adiada (pk : PacotePublish) (pacote : p.Pacote (p.id c.mundo.sorteio) pk)
      (antes : c.state ≠ .connected)
      (ret : r.1 = if 0 < p.qos then ((p.id c.mundo.sorteio).toNat : ℤ) else -1)
      (saida : r.2.saida = c.saida)
      (outbox : Guarda p (p.id c.mundo.sorteio) pk c.outbox r.2.outbox)
      (state : r.2.state = c.state)
  /-- A write fails: a part is out, and the connection is given up. -/
  | interrompida (pk : PacotePublish) (pacote : p.Pacote (p.id c.mundo.sorteio) pk)
      (antes : c.state = .connected) (ret : r.1 = -1)
      (saida : ∃ parte, parte <+: pk.bytes ∧ r.2.saida = c.saida ++ parte)
      (outbox : Guarda p (p.id c.mundo.sorteio) pk c.outbox r.2.outbox)
      (state : r.2.state = .waitReconnect)
  /-- The whole packet is out. -/
  | enviada (pk : PacotePublish) (pacote : p.Pacote (p.id c.mundo.sorteio) pk)
      (antes : c.state = .connected) (ret : r.1 = (p.id c.mundo.sorteio).toNat)
      (saida : r.2.saida = c.saida ++ pk.bytes)
      (outbox : Guarda p (p.id c.mundo.sorteio) pk c.outbox r.2.outbox)
      (state : r.2.state = .connected)

theorem Guarda.mantem {p : Pedido} {id : UInt16} {pk : PacotePublish} {o o' o'' : Outbox}
    (h : Guarda p id pk o o') (h' : Mantem o' o'') : Guarda p id pk o o'' :=
  ⟨h'.chaves.trans h.chaves, h'.size.trans h.size⟩

/-- The state in which the loop of `esp_mqtt_client_publish` starts. -/
theorem guarda_of_cases {p : Pedido} {pk : PacotePublish} {c c' : Cliente}
    (h : if 0 < p.qos ∨ false = true then Guardou p pk c c' else Troca c c') :
    Guarda p (p.id c.mundo.sorteio) pk c.outbox c'.outbox ∧ c'.saida = c.saida ∧
      c'.state = c.state := by
  by_cases hqos : 0 < p.qos
  · rw [if_pos (Or.inl hqos)] at h
    obtain ⟨mqttState, mundo, relogio, rfl, -⟩ := h
    refine ⟨⟨?_, ?_⟩, rfl, rfl⟩
    · rw [if_pos hqos]
      exact List.map_append
    · rw [if_pos hqos]
      rfl
  · rw [if_neg (by simpa using hqos)] at h
    obtain ⟨mqttState, rfl, -⟩ := h
    refine ⟨⟨?_, ?_⟩, rfl, rfl⟩
    · rw [if_neg hqos, List.append_nil]
    · rw [if_neg hqos]
      rfl

theorem espMqttClientPublish_publicou (cfg : Config) {p : Pedido} (hp : p.Valido) {c : Cliente}
    (hc : SemFragmento c.mqttState.connection)
    (hoff : Recuo c.mqttState.connection.outboundMessage.fragmentedMsgDataOffset (2 ^ 30)) :
    Publicou p c (espMqttClientPublish cfg p c) := by
  unfold espMqttClientPublish
  split
  · exact .recusada (by simp) rfl rfl rfl
  · rcases mqttClientEnqueuePublish_cases hp false hc with
      ⟨c₁, heq, ⟨mqttState, rfl, -⟩, -⟩ | ⟨pk, n, c₁, hpack, heq, hcorte, hlength, hstored⟩
    · rw [heq]
      exact .recusada (by simp) rfl rfl rfl
    · obtain ⟨hguarda, hsaida, hstate⟩ := guarda_of_cases hstored
      rw [heq]
      dsimp only
      split
      next hoffline =>
        exact .adiada pk hpack (hstate ▸ hoffline) rfl hsaida hguarda hstate
      next honline =>
        rw [not_not] at honline
        have hbuffer := hc.buffer
        have hsize := hp.tamanho
        have hrest : p.data.resto 0 = pk.payload := by
          rw [PublishData.resto_eq, List.drop_zero, hpack.payload]
        rw [hpack.len, hrest]
        rcases publicaLoop_pacote cfg (pk.payload.length + 2 ^ 31 + 2) hoff hcorte (by omega)
            (by rw [hpack.payload]; omega) (by omega) with
          ⟨c₂, hloop, hfail⟩ | ⟨c₂, hloop, hgood, -, -⟩
        · rw [hloop]
          obtain ⟨⟨parte, hparte, hout⟩, hwait, houtbox⟩ := hfail
          refine .interrompida pk hpack (hstate ▸ honline) rfl ⟨parte, hparte, ?_⟩ ?_ hwait
          · exact hsaida ▸ hout
          · exact houtbox ▸ hguarda
        · rw [hloop]
          obtain ⟨⟨mundo, mqttState, rfl⟩, -, -, -⟩ := hgood
          dsimp only
          rw [if_neg (by simp)]
          have hout : c₁.saida ++ pk.bytes = c.saida ++ pk.bytes := by rw [hsaida]
          split
          next =>
            exact .enviada pk hpack (hstate ▸ honline) rfl hout
              ((hguarda.mantem (outboxSetTick_mantem _ _ _)).mantem
                (outboxSetPending_mantem _ _ _)) honline
          next => exact .enviada pk hpack (hstate ▸ honline) rfl hout hguarda honline

/-- What a reader should get out of the packet of a request. -/
def Pedido.lido (p : Pedido) (id : UInt16) (total : ℕ) : LidoPublish where
  valido := true
  tipo := some .publish
  dup := 0
  qos := p.qos
  retain := p.retain % 2
  total := total
  topic := some p.topic
  data := p.data.conteudo
  id := id

theorem Pedido.Pacote.lePublish {p : Pedido} {s : Sorteio} {pk : PacotePublish} (hp : p.Valido)
    (h : p.Pacote (p.id s) pk) : lePublish pk.bytes = p.lido (p.id s) pk.bytes.length := by
  have hid : (if 0 < p.qos then p.id s else 0) = p.id s := by
    unfold Pedido.id idDe
    split <;> rfl
  rw [pk.lePublish_bytes, h.topic, h.payload, h.qos, h.dup, h.retain, h.id, hid, Pedido.lido,
    decide_eq_true hp.qos]
  simp

theorem limpa_novo {n : ℕ} (h : mqttBufferSizeByte ≤ n) (h' : n ≤ 65536) (mundo : Mundo) :
    Limpa (Cliente.novo n mundo).mqttState.connection :=
  ⟨⟨rfl, h'⟩, h⟩

/-- An action in which nothing comes, nothing goes out and no time passes. -/
def mundoQuieto : Mundo := { sorteio := .sete }

/-- A station that does not know its address. -/
def cfgDeSessao : Config := mqttCfg (.de none) [66] [67]

end HidroControl.EspMqtt
