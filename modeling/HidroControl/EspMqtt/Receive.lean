import HidroControl.EspMqtt.Codec

/-!
# `mqtt_message_receive` — packets out of a stream

The client takes a packet out of the stream over as many calls as the transport
needs: a call goes on with the bytes that earlier ones left in the buffer. What the
broker has sent and the client not read is `entrada`, and `leituras` are the results
of the next reads of the transport, which ends with a timeout when the list does.

A call that goes on with a packet looks at the last byte it has to find out whether
it was still reading the remaining length, and takes a byte of the body for one of
the length if its bit 7 is set. That is harmless unless the body ends in two such
bytes within the first five of the packet (`Roubavel`): then the call goes on into
the next packet (`inteiro_iff_not_roubavel`). All other packets come out whole,
one after the other, however the stream is cut (`montagem`).
-/

namespace HidroControl.EspMqtt

open Wire

/-! ## The transport -/

structure Receptor where
  /-- `in_buffer[0, in_buffer_read_len)` -/
  inBuffer : List UInt8 := []
  messageLength : ℕ := 0
  entrada : List UInt8
  leituras : List ℤ := []

/-- `esp_transport_read` of at most `len` bytes to the end of the buffer: how many it
read, zero for a timeout, or an error below zero. -/
def espTransportRead (len : ℕ) (r : Receptor) : ℤ × Receptor :=
  match r.leituras with
  | [] => (0, r)
  | k :: ks =>
      if k ≤ 0 then (k, { r with leituras := ks })
      else
        let n := min k.toNat (min len r.entrada.length)
        (n,
          { r with
            leituras := ks
            inBuffer := r.inBuffer ++ r.entrada.take n
            entrada := r.entrada.drop n })

/-- What `mqtt_message_receive` returns: 0, -1, -2 and 1. With `erro` it has
dispatched a transport error. -/
inductive Recebido where
  | nada
  | meio
  | erro
  | mensagem
deriving DecidableEq

/-- `esp_mqtt_handle_transport_read_error` -/
def readError (err : ℤ) (midMessage : Bool) : Recebido :=
  if err = 0 then (if midMessage then .meio else .nada) else .erro

/-! ## The parts of the function

Each gives the result that the function returns with there, if it does. -/

abbrev Parte := Option Recebido × Receptor

def Parte.entao (res : Parte) (f : Receptor → Parte) : Parte :=
  match res.1 with
  | some _ => res
  | none => f res.2

/-- A read, behind which the function goes on if it has brought something. -/
def leEntao (len : ℕ) (midMessage : Bool) (f : Receptor → Parte) (r : Receptor) : Parte :=
  let (readLen, r) := espTransportRead len r
  if readLen ≤ 0 then (some (readError readLen midMessage), r) else f r

def lePrimeiro (r : Receptor) : Parte :=
  if r.inBuffer.length = 0 then
    leEntao 1 false
      (fun r =>
        if !mqttHasValidMsgHdr r.inBuffer 1 then (some .erro, { r with inBuffer := [] })
        else (none, r)) r
  else (none, r)

/-- `in_buffer_read_len < 6 && *(buf - 1) & 0x80` -/
def naoAcabou (r : Receptor) : Bool :=
  r.inBuffer.length < 6 && goesOn (byteAt r.inBuffer (r.inBuffer.length - 1))

def leComprimentoLoop : ℕ → Receptor → Parte
  | 0, r => (none, r)
  | fuel + 1, r =>
      leEntao 1 true
        (fun r => if naoAcabou r then leComprimentoLoop fuel r else (none, r)) r

/-- Every round reads a byte and the sixth ends the loop, so five are enough. -/
def leComprimento (r : Receptor) : Parte :=
  if r.inBuffer.length = 1 || naoAcabou r then leComprimentoLoop 5 r else (none, r)

/-- The two bytes of the topic's length, if they are not there yet. -/
def leTamanhoTopico (fixedHeaderLen : ℕ) (r : Receptor) : Parte :=
  if r.inBuffer.length < fixedHeaderLen + 2 then
    leEntao (r.inBuffer.length - fixedHeaderLen + 2) true
      (fun r => if r.inBuffer.length < fixedHeaderLen + 2 then (some .nada, r) else (none, r)) r
  else (none, r)

/-- Of a packet longer than the buffer, only a PUBLISH goes on, if the buffer is big
enough for its topic. -/
def leTopico (inBufferLength totalLen fixedHeaderLen : ℕ) (r : Receptor) : Parte :=
  if totalLen ≤ inBufferLength then (none, r)
  else if mqttGetType r.inBuffer = some .publish then
    (leTamanhoTopico fixedHeaderLen r).entao fun r =>
      let topicLen := readBe16 r.inBuffer fixedHeaderLen
      let totalLen := fixedHeaderLen + topicLen + if 0 < mqttGetQos r.inBuffer then 2 else 0
      if inBufferLength < totalLen then (some .erro, r) else (none, r)
  else (some .erro, r)

def leResto (totalLen : ℕ) (r : Receptor) : Parte :=
  if r.inBuffer.length < totalLen then
    leEntao (totalLen - r.inBuffer.length) true
      (fun r => if r.inBuffer.length < totalLen then (some .nada, r) else (none, r)) r
  else (none, r)

/-- Behind the remaining length: what is left is the smaller of packet and buffer. -/
def leCorpo (inBufferLength : ℕ) (r : Receptor) : Parte :=
  let (totalLen, fixedHeaderLen) := mqttGetTotalLength r.inBuffer r.inBuffer.length
  (leTopico inBufferLength totalLen fixedHeaderLen { r with messageLength := totalLen }).entao
    (leResto (min totalLen inBufferLength))

def mqttMessageReceive (inBufferLength : ℕ) (r : Receptor) : Recebido × Receptor :=
  let res := ((lePrimeiro { r with messageLength := 0 }).entao leComprimento).entao
    (leCorpo inBufferLength)
  (res.1.getD .mensagem, res.2)

/-! ## Packets -/

/-- A packet as it stands on the wire, in any writer's choice of its field. -/
structure Quadro where
  h : UInt8
  f : List UInt8
  body : List UInt8
  valido : mqttHasValidMsgHdr [h] 1 = true
  isField : IsField f
  curto : f.length ≤ 4
  valor : (decode f).1 = body.length

namespace Quadro

def bytes (q : Quadro) : List UInt8 := q.h :: (q.f ++ q.body)

/-- The fixed header. -/
def cabeca (q : Quadro) : ℕ := 1 + q.f.length

theorem length_bytes (q : Quadro) : q.bytes.length = q.cabeca + q.body.length := by
  simp only [bytes, cabeca, List.length_cons, List.length_append]
  omega

theorem cabeca_gt (q : Quadro) : 1 < q.cabeca := by
  have := List.length_pos_iff.mpr q.isField.ne_nil
  rw [cabeca]
  omega

theorem length_bytes_pos (q : Quadro) : 0 < q.bytes.length := Nat.succ_pos _

/-- A body that ends in two bytes with bit 7 set, within the first five bytes of the
packet. -/
def Roubavel (q : Quadro) : Prop :=
  q.bytes.length < 6 ∧ 2 ≤ q.body.length ∧
    goesOn (byteAt q.bytes (q.bytes.length - 2)) = true ∧
    goesOn (byteAt q.bytes (q.bytes.length - 1)) = true

instance (q : Quadro) : Decidable q.Roubavel := inferInstanceAs (Decidable (_ ∧ _))

/-- Where a call that takes the packet up is done: at its end, or with a full
buffer. -/
def fim (q : Quadro) (L : ℕ) : ℕ := min q.bytes.length L

/-- A packet that is longer than the buffer is a PUBLISH whose topic and id are in it. -/
def Cabe (q : Quadro) (L : ℕ) : Prop :=
  q.bytes.length ≤ L ∨
    mqttGetType [q.h] = some .publish ∧ q.cabeca + 4 ≤ L ∧ 2 ≤ q.body.length ∧
      q.cabeca + readBe16 q.bytes q.cabeca + (if 0 < mqttGetQos [q.h] then 2 else 0) ≤ L

end Quadro

/-- A packet with its length in the shortest form. -/
def Quadro.de (h : UInt8) (body : List UInt8) (valido : mqttHasValidMsgHdr [h] 1 = true)
    (curto : (encode body.length).length ≤ 4) : Quadro where
  h := h
  f := encode body.length
  body := body
  valido := valido
  isField := isField_encode _
  curto := curto
  valor := decode_encode _

/-! ## Where the client stands in the stream -/

/-- The client has taken the first `k` bytes of the stream `S` since it last began a
packet, and the last of them, `futuro`, have not arrived. -/
structure Em (S futuro : List UInt8) (k : ℕ) (r : Receptor) : Prop where
  buffer : r.inBuffer = S.take k
  entrada : r.entrada ++ futuro = S.drop k
  le : k ≤ S.length

variable {S futuro : List UInt8} {k : ℕ} {r : Receptor}

theorem Em.length (h : Em S futuro k r) : r.inBuffer.length = k := by
  rw [h.buffer, List.length_take, Nat.min_eq_left h.le]

/-- The next read at `k` brings nothing: the transport has a timeout or an error next,
or no more of the stream has arrived. -/
def Parado (S futuro : List UInt8) (k : ℕ) (leituras : List ℤ) : Prop :=
  (∀ e ∈ leituras.head?, e ≤ 0) ∨ S.length ≤ k + futuro.length

/-- **A read goes forward in the stream**, or leaves everything as it is. -/
theorem espTransportRead_em (h : Em S futuro k r) {len : ℕ} (hlen : 0 < len) :
    ((espTransportRead len r).1 < 0 ∧ ∃ e ∈ r.leituras, e < 0) ∨
      ((espTransportRead len r).1 = 0 ∧ Em S futuro k (espTransportRead len r).2 ∧
        Parado S futuro k r.leituras) ∨
      ∃ j : ℕ, 0 < j ∧ j ≤ len ∧ (espTransportRead len r).1 = j ∧
        Em S futuro (k + j) (espTransportRead len r).2 := by
  unfold espTransportRead
  cases hr : r.leituras with
  | nil => exact Or.inr (Or.inl ⟨rfl, h, Or.inl (by simp)⟩)
  | cons e es =>
      dsimp only
      split
      next he =>
        rcases lt_or_eq_of_le he with hneg | rfl
        · exact Or.inl ⟨hneg, e, List.mem_cons_self, hneg⟩
        · exact Or.inr (Or.inl ⟨rfl, ⟨h.buffer, h.entrada, h.le⟩, Or.inl (by simp)⟩)
      next he =>
        generalize hn : min e.toNat (min len r.entrada.length) = n
        have hall : n ≤ r.entrada.length := by omega
        have hlength : r.entrada.length + futuro.length = S.length - k := by
          rw [← List.length_append, h.entrada, List.length_drop]
        have hle := h.le
        have hem : Em S futuro (k + n)
            { r with
              leituras := es
              inBuffer := r.inBuffer ++ r.entrada.take n
              entrada := r.entrada.drop n } := by
          refine ⟨?_, ?_, by omega⟩
          · dsimp only
            rw [h.buffer, List.take_add, ← h.entrada, List.take_append_of_le_length hall]
          · dsimp only
            rw [← List.drop_append_of_le_length hall, h.entrada, List.drop_drop]
        refine Or.inr ?_
        rcases Nat.eq_zero_or_pos n with rfl | hpos
        · exact Or.inl ⟨rfl, hem, Or.inr (by omega)⟩
        · exact Or.inr ⟨n, hpos, by omega, rfl, hem⟩

/-- What a read does not touch, and what it uses up. -/
theorem espTransportRead_frame (len : ℕ) (r : Receptor) :
    (espTransportRead len r).2.leituras <:+ r.leituras ∧
      (espTransportRead len r).2.messageLength = r.messageLength := by
  unfold espTransportRead
  split
  next => exact ⟨List.suffix_rfl, rfl⟩
  next e es hr =>
      rw [hr]
      split <;> exact ⟨List.suffix_cons e es, rfl⟩

/-! ## What a part of a call comes to -/

/-- The call fails because a read does. -/
def Falha (leituras : List ℤ) (x : Recebido) : Prop := x = .erro ∧ ∃ e ∈ leituras, e < 0

/-- The call stops in the middle of the packet and waits for more. It has read
something unless the first read brought nothing. -/
def Pausa (S futuro : List UInt8) (k fim : ℕ) (leituras : List ℤ) (x : Recebido) (r : Receptor) :
    Prop :=
  (x = .nada ∨ x = .meio) ∧
    ∃ k', k ≤ k' ∧ k' < fim ∧ Em S futuro k' r ∧ (k' = k → Parado S futuro k leituras)

/-- The call goes on at a place of which `P` holds. -/
def Segue (S futuro : List UInt8) (k fim : ℕ) (leituras : List ℤ) (P : ℕ → Prop) (r : Receptor) :
    Prop :=
  r.leituras <:+ leituras ∧
    ∃ k', k ≤ k' ∧ k' ≤ fim ∧ P k' ∧ Em S futuro k' r ∧ (k' = k → r.leituras = leituras)

/-- A part of a call that started at `k` fails, stops in the middle, or the next part
goes on. -/
def Chega (S futuro : List UInt8) (k fim : ℕ) (leituras : List ℤ) (P : ℕ → Prop) (res : Parte) :
    Prop :=
  (∃ x, res.1 = some x ∧ (Falha leituras x ∨ Pausa S futuro k fim leituras x res.2)) ∨
    res.1 = none ∧ Segue S futuro k fim leituras P res.2

variable {fim : ℕ} {ls : List ℤ} {P Q : ℕ → Prop}

/-- A part that goes on without a read. -/
theorem chega_ja (hem : Em S futuro k r) (hk : k ≤ fim) (hP : P k) :
    Chega S futuro k fim r.leituras P (none, r) :=
  Or.inr ⟨rfl, List.suffix_rfl, k, le_rfl, hk, hP, hem, fun _ => rfl⟩

/-- A part that goes on after a read of `j` bytes. -/
theorem chega_leu {j : ℕ} (hem : Em S futuro (k + j) r) (hj : 0 < j) (hfim : k + j ≤ fim)
    (hls : r.leituras <:+ ls) (hP : P (k + j)) : Chega S futuro k fim ls P (none, r) :=
  Or.inr ⟨rfl, hls, k + j, by omega, hfim, hP, hem, fun h => by omega⟩

/-- A part that stops after a read of `j` bytes. -/
theorem chega_parou {j : ℕ} (hem : Em S futuro (k + j) r) (hj : 0 < j) (hfim : k + j < fim) :
    Chega S futuro k fim ls P (some .nada, r) :=
  Or.inl ⟨_, rfl, Or.inr ⟨Or.inl rfl, k + j, by omega, hfim, hem, fun h => by omega⟩⟩

/-- The first read of a part decides, whatever comes behind it. -/
theorem chega_leEntao {len : ℕ} {mid : Bool} {f : Receptor → Parte} (hem : Em S futuro k r)
    (hlen : 0 < len) (hk : k < fim)
    (hf : ∀ j r', 0 < j → j ≤ len → Em S futuro (k + j) r' → r'.leituras <:+ r.leituras →
      Chega S futuro k fim r.leituras P (f r')) :
    Chega S futuro k fim r.leituras P (leEntao len mid f r) := by
  unfold leEntao
  dsimp only
  rcases espTransportRead_em hem hlen with
    ⟨hneg, hbad⟩ | ⟨hzero, hem', hp⟩ | ⟨j, hj, hjle, hread, hem'⟩
  · rw [if_pos hneg.le, readError, if_neg hneg.ne]
    exact Or.inl ⟨_, rfl, Or.inl ⟨rfl, hbad⟩⟩
  · rw [if_pos hzero.le, hzero, readError, if_pos rfl]
    refine Or.inl ⟨_, rfl, Or.inr ⟨?_, k, le_rfl, hk, hem', fun _ => hp⟩⟩
    cases mid
    · exact Or.inl rfl
    · exact Or.inr rfl
  · rw [hread, if_neg (by omega)]
    exact hf j _ hj hjle hem' (espTransportRead_frame len r).1

/-- What a later part comes to, seen from where the call started. -/
theorem Chega.mono {k' : ℕ} {ls' : List ℤ} {res : Parte} (h : Chega S futuro k' fim ls' P res)
    (hk : k ≤ k') (hls : ls' <:+ ls) (heq : k' = k → ls' = ls) : Chega S futuro k fim ls P res := by
  rcases h with ⟨x, hx, ⟨rfl, e, he, hneg⟩ | ⟨hpause, n, hn, hfim, hem, hp⟩⟩ |
      ⟨hnone, hsuf, n, hn, hfim, hP, hem, hsame⟩
  · exact Or.inl ⟨_, hx, Or.inl ⟨rfl, e, hls.subset he, hneg⟩⟩
  · refine Or.inl ⟨x, hx, Or.inr ⟨hpause, n, hk.trans hn, hfim, hem, ?_⟩⟩
    rintro rfl
    obtain rfl : k' = n := by omega
    rw [← heq rfl]
    exact hp rfl
  · refine Or.inr ⟨hnone, hsuf.trans hls, n, hk.trans hn, hfim, hP, hem, ?_⟩
    rintro rfl
    obtain rfl : k' = n := by omega
    rw [← heq rfl]
    exact hsame rfl

/-- **Parts one after the other.** -/
theorem Chega.entao {res : Parte} {f : Receptor → Parte} (h : Chega S futuro k fim ls P res)
    (hf : ∀ k' r', k ≤ k' → k' ≤ fim → P k' → Em S futuro k' r' →
      Chega S futuro k' fim r'.leituras Q (f r')) :
    Chega S futuro k fim ls Q (res.entao f) := by
  unfold Parte.entao
  rcases h with ⟨x, hx, hstop⟩ | ⟨hnone, hsuf, k', hk', hfim, hP, hem, hsame⟩
  · rw [hx]
    exact Or.inl ⟨x, hx, hstop⟩
  · rw [hnone]
    exact (hf k' res.2 hk' hfim hP hem).mono hk' hsuf hsame

/-! ## The parts, in the middle of a packet -/

section Chamada

variable {q : Quadro} {rest : List UInt8} {L : ℕ}

theorem byteAt_stream (rest : List UInt8) {i : ℕ} (h : i < q.bytes.length) :
    byteAt (q.bytes ++ rest) i = byteAt q.bytes i :=
  List.getD_append _ _ _ _ h

theorem byteAt_take {i : ℕ} (h : i < k) : byteAt (S.take k) i = byteAt S i := by
  simp [byteAt, List.getD, h]

/-- Within the fixed header, the bytes of the length go on up to the last. -/
theorem goesOn_cabeca (q : Quadro) (rest : List UInt8) {i : ℕ} (h0 : 0 < i) (hi : i < q.cabeca) :
    goesOn (byteAt (q.bytes ++ rest) i) = decide (i + 1 < q.cabeca) := by
  obtain ⟨init, last, hf, hinit, hlast⟩ := q.isField
  obtain ⟨i, rfl⟩ : ∃ j, i = j + 1 := ⟨i - 1, by omega⟩
  have hcab : q.cabeca = 2 + init.length := by
    rw [Quadro.cabeca, hf, List.length_append, List.length_singleton]
    omega
  have hbyte : byteAt (q.bytes ++ rest) (i + 1) = (init ++ [last]).getD i 0 := by
    have hlen : i < (init ++ [last]).length := by
      rw [List.length_append, List.length_singleton]
      omega
    rw [byteAt, Quadro.bytes, hf, List.cons_append, List.getD_cons_succ, List.append_assoc,
      List.getD_append _ _ _ _ hlen]
  rw [hbyte]
  by_cases hlt : i < init.length
  · rw [List.getD_append _ _ _ _ hlt, List.getD_eq_getElem _ _ hlt,
      hinit _ (List.getElem_mem hlt)]
    simp [hcab]
    omega
  · obtain rfl : i = init.length := by omega
    rw [List.getD_append_right _ _ _ _ le_rfl, Nat.sub_self, List.getD_cons_zero, hlast]
    simp [hcab]
    omega

theorem lePrimeiro_em (hL : 6 ≤ L) (hem : Em (q.bytes ++ rest) futuro k r) (hk : k < q.fim L) :
    Chega (q.bytes ++ rest) futuro k (q.fim L) r.leituras (fun k' => 0 < k' ∧ k' < q.fim L)
      (lePrimeiro r) := by
  have hfim : 1 < q.fim L := by
    have hlen := q.length_bytes
    have hcab := q.cabeca_gt
    exact lt_min (by omega) (by omega)
  unfold lePrimeiro
  rw [hem.length]
  by_cases h0 : k = 0
  · subst h0
    rw [if_pos rfl]
    apply chega_leEntao hem Nat.one_pos hk
    intro j r' hj hj1 hem' hls
    obtain rfl : j = 1 := by omega
    have hbuf : r'.inBuffer = [q.h] := by
      rw [hem'.buffer, Quadro.bytes]
      rfl
    rw [hbuf, q.valido]
    exact chega_leu hem' hj hk hls ⟨Nat.one_pos, hfim⟩
  · rw [if_neg h0]
    exact chega_ja hem hk.le ⟨Nat.pos_of_ne_zero h0, hk⟩

/-- The call takes the next byte for one of the remaining length. -/
def AindaComprimento (S : List UInt8) (k : ℕ) : Prop :=
  k = 1 ∨ k < 6 ∧ goesOn (byteAt S (k - 1)) = true

theorem naoAcabou_iff (hem : Em S futuro k r) (hk : 0 < k) :
    naoAcabou r = true ↔ k < 6 ∧ goesOn (byteAt S (k - 1)) = true := by
  rw [naoAcabou, hem.length, hem.buffer, byteAt_take (Nat.sub_lt hk Nat.one_pos)]
  simp

/-- Where the call takes no more bytes for the length, the header is all there. -/
theorem cabeca_le (hk : 0 < k) (h : ¬ AindaComprimento (q.bytes ++ rest) k) :
    q.cabeca ≤ k := by
  rw [AindaComprimento, not_or] at h
  by_contra hlt
  have hgoes := goesOn_cabeca q rest (i := k - 1) (by omega) (by omega)
  have hcab : q.cabeca ≤ 5 := Nat.add_le_add_left q.curto 1
  rw [show k - 1 + 1 = k by omega, decide_eq_true (by omega)] at hgoes
  exact h.2 ⟨by omega, hgoes⟩

/-- **Why it does not run into the next packet.** While it takes bytes for the length,
the end of the packet is still ahead. -/
theorem aindaComprimento_lt (hq : ¬ q.Roubavel) (hk : 0 < k) (hlt : k < q.bytes.length)
    (h : AindaComprimento (q.bytes ++ rest) k)
    (h' : AindaComprimento (q.bytes ++ rest) (k + 1)) : k + 1 < q.bytes.length := by
  by_contra hge
  have hend : q.bytes.length = k + 1 := by omega
  have hlen := q.length_bytes
  have hcab := q.cabeca_gt
  obtain ⟨h6, hlast⟩ := h'.resolve_left (by omega)
  rw [Nat.add_sub_cancel] at hlast
  by_cases hbody : k < q.cabeca
  · -- the last byte is the last of the header
    rw [goesOn_cabeca q rest hk hbody] at hlast
    have := of_decide_eq_true hlast
    omega
  · obtain ⟨-, hprev⟩ := h.resolve_left (by omega)
    by_cases hone : q.body.length = 1
    · -- the byte before it is
      rw [goesOn_cabeca q rest (by omega) (by omega)] at hprev
      have := of_decide_eq_true hprev
      omega
    · apply hq
      refine ⟨by omega, by omega, ?_, ?_⟩
      · rw [hend, ← byteAt_stream rest (by omega)]
        exact hprev
      · rw [hend, Nat.add_sub_cancel, ← byteAt_stream rest (by omega)]
        exact hlast

theorem leComprimentoLoop_em (hq : ¬ q.Roubavel) (hL : 6 ≤ L) {fuel : ℕ}
    (hem : Em (q.bytes ++ rest) futuro k r) (hfuel : 6 ≤ fuel + k) (hk0 : 0 < k)
    (hk : k < q.fim L) (hs : AindaComprimento (q.bytes ++ rest) k) :
    Chega (q.bytes ++ rest) futuro k (q.fim L) r.leituras (fun k' => q.cabeca ≤ k')
      (leComprimentoLoop fuel r) := by
  induction fuel generalizing k r with
  | zero => rcases hs with rfl | ⟨h6, -⟩ <;> omega
  | succ fuel ih =>
      apply chega_leEntao hem Nat.one_pos hk
      intro j r' hj hj1 hem' hls
      obtain rfl : j = 1 := by omega
      have hlt : k < q.bytes.length ∧ k < L := lt_min_iff.mp hk
      have hiff := naoAcabou_iff hem' (Nat.succ_pos k)
      by_cases hmore : naoAcabou r' = true
      · have hs' : AindaComprimento (q.bytes ++ rest) (k + 1) := Or.inr (hiff.mp hmore)
        have hend := aindaComprimento_lt hq hk0 hlt.1 hs hs'
        have h6 := (hiff.mp hmore).1
        rw [if_pos hmore]
        exact (ih hem' (by omega) (Nat.succ_pos k) (lt_min hend (by omega)) hs').mono
          (Nat.le_succ k) hls (fun h => absurd h (Nat.succ_ne_self k))
      · have hns : ¬ AindaComprimento (q.bytes ++ rest) (k + 1) := by
          rintro (h1 | h1)
          · omega
          · exact hmore (hiff.mpr h1)
        rw [if_neg hmore]
        exact chega_leu hem' hj hk hls (cabeca_le (Nat.succ_pos k) hns)

theorem leComprimento_em (hq : ¬ q.Roubavel) (hL : 6 ≤ L)
    (hem : Em (q.bytes ++ rest) futuro k r) (hk0 : 0 < k) (hk : k < q.fim L) :
    Chega (q.bytes ++ rest) futuro k (q.fim L) r.leituras (fun k' => q.cabeca ≤ k')
      (leComprimento r) := by
  have hiff : (decide (r.inBuffer.length = 1) || naoAcabou r) = true ↔
      AindaComprimento (q.bytes ++ rest) k := by
    rw [Bool.or_eq_true, naoAcabou_iff hem hk0, hem.length, AindaComprimento,
      decide_eq_true_iff]
  unfold leComprimento
  by_cases hs : AindaComprimento (q.bytes ++ rest) k
  · rw [if_pos (hiff.mpr hs)]
    exact leComprimentoLoop_em hq hL hem (by omega) hk0 hk hs
  · rw [if_neg (mt hiff.mp hs)]
    exact chega_ja hem hk.le (cabeca_le hk0 hs)

/-- The buffer, once the header is in it. -/
theorem buffer_eq (hem : Em (q.bytes ++ rest) futuro k r) (hk : q.cabeca ≤ k) :
    r.inBuffer = q.h :: (q.f ++ (q.body ++ rest).take (k - q.cabeca)) := by
  have hsplit : q.bytes ++ rest = (q.h :: q.f) ++ (q.body ++ rest) := by simp [Quadro.bytes]
  have hlen : (q.h :: q.f).length = q.cabeca := by
    rw [Quadro.cabeca, List.length_cons, Nat.add_comm]
  rw [hem.buffer, hsplit, List.take_append, hlen, List.take_of_length_le (by omega)]
  rfl

theorem totalLength_eq (hem : Em (q.bytes ++ rest) futuro k r) (hk : q.cabeca ≤ k) :
    mqttGetTotalLength r.inBuffer r.inBuffer.length = (q.bytes.length, q.cabeca) := by
  rw [buffer_eq hem hk, mqttGetTotalLength_fio q.h q.isField, q.valor, q.length_bytes,
    Quadro.cabeca, Nat.add_comm q.body.length]

theorem leTamanhoTopico_em (hem : Em (q.bytes ++ rest) futuro k r) (hk0 : q.cabeca ≤ k)
    (hk : k ≤ q.fim L) (hroom : q.cabeca + 4 ≤ q.fim L) :
    Chega (q.bytes ++ rest) futuro k (q.fim L) r.leituras (fun k' => q.cabeca + 2 ≤ k')
      (leTamanhoTopico q.cabeca r) := by
  unfold leTamanhoTopico
  rw [hem.length]
  by_cases hall : k < q.cabeca + 2
  · rw [if_pos hall]
    apply chega_leEntao hem (by omega) (by omega)
    intro j r' hj hj3 hem' hls
    rw [hem'.length]
    split
    next hshort => exact chega_parou hem' hj (by omega)
    next hlong => exact chega_leu hem' hj (by omega) hls (by omega)
  · rw [if_neg hall]
    exact chega_ja hem hk (by omega)

theorem readBe16_buffer (hem : Em (q.bytes ++ rest) futuro k r) (hk : q.cabeca + 2 ≤ k)
    (hbody : 2 ≤ q.body.length) :
    readBe16 r.inBuffer q.cabeca = readBe16 q.bytes q.cabeca := by
  have hlen := q.length_bytes
  have hbyte : ∀ i < q.cabeca + 2, byteAt r.inBuffer i = byteAt q.bytes i := by
    intro i hi
    rw [hem.buffer, byteAt_take (by omega), byteAt_stream rest (by omega)]
  have h0 := hbyte q.cabeca (by omega)
  have h1 := hbyte (q.cabeca + 1) (by omega)
  unfold byteAt at h0 h1
  rw [readBe16, readBe16, h0, h1]

theorem leTopico_em (hcabe : q.Cabe L) (hem : Em (q.bytes ++ rest) futuro k r)
    (hk0 : q.cabeca ≤ k) (hk : k ≤ q.fim L) :
    Chega (q.bytes ++ rest) futuro k (q.fim L) r.leituras (fun _ => True)
      (leTopico L q.bytes.length q.cabeca r) := by
  unfold leTopico
  by_cases hle : q.bytes.length ≤ L
  · rw [if_pos hle]
    exact chega_ja hem hk trivial
  · obtain ⟨htype, hfour, hbody, htopic⟩ := hcabe.resolve_left hle
    have hfim : q.fim L = L := min_eq_right (by omega)
    have htype' : mqttGetType r.inBuffer = some .publish := by
      rw [buffer_eq hem hk0, mqttGetType_cons]
      exact htype
    rw [if_neg hle, if_pos htype']
    apply (leTamanhoTopico_em hem hk0 hk (by omega)).entao
    intro k' r' hk' hfim' h2 hem'
    have hqos : mqttGetQos r'.inBuffer = mqttGetQos [q.h] := by
      rw [buffer_eq hem' (by omega), mqttGetQos_cons]
    dsimp only
    rw [readBe16_buffer hem' h2 hbody, hqos, if_neg (by omega)]
    exact chega_ja hem' hfim' trivial

theorem leResto_em (hem : Em S futuro k r) (hk : k ≤ fim) :
    Chega S futuro k fim r.leituras (fun k' => k' = fim) (leResto fim r) := by
  unfold leResto
  rw [hem.length]
  by_cases hall : k < fim
  · rw [if_pos hall]
    apply chega_leEntao hem (by omega) hall
    intro j r' hj hjle hem' hls
    rw [hem'.length]
    split
    next hshort => exact chega_parou hem' hj hshort
    next hlong => exact chega_leu hem' hj (by omega) hls (by omega)
  · rw [if_neg hall]
    exact chega_ja hem hk (by omega)

theorem leCorpo_em (hcabe : q.Cabe L) (hem : Em (q.bytes ++ rest) futuro k r)
    (hk0 : q.cabeca ≤ k) (hk : k ≤ q.fim L) :
    Chega (q.bytes ++ rest) futuro k (q.fim L) r.leituras (fun k' => k' = q.fim L)
      (leCorpo L r) := by
  unfold leCorpo
  rw [totalLength_eq hem hk0]
  have hem' : Em (q.bytes ++ rest) futuro k { r with messageLength := q.bytes.length } :=
    ⟨hem.buffer, hem.entrada, hem.le⟩
  apply (leTopico_em hcabe hem' hk0 hk).entao
  intro k' r' hk' hfim' _ hem''
  exact leResto_em hem'' hfim'

/-- Up to the body. -/
theorem cabeca_em (hq : ¬ q.Roubavel) (hL : 6 ≤ L) (hem : Em (q.bytes ++ rest) futuro k r)
    (hk : k < q.fim L) :
    Chega (q.bytes ++ rest) futuro k (q.fim L) r.leituras (fun k' => q.cabeca ≤ k')
      ((lePrimeiro { r with messageLength := 0 }).entao leComprimento) := by
  have hem0 : Em (q.bytes ++ rest) futuro k { r with messageLength := 0 } :=
    ⟨hem.buffer, hem.entrada, hem.le⟩
  apply (lePrimeiro_em hL hem0 hk).entao
  rintro k' r' - - ⟨h0, hlt⟩ hem'
  exact leComprimento_em hq hL hem' h0 hlt

/-- **One call**, in the middle of a packet: it fails, it stops before the packet's
end, or it has the packet, and has taken nothing behind it. -/
theorem mqttMessageReceive_em (hq : ¬ q.Roubavel) (hcabe : q.Cabe L) (hL : 6 ≤ L)
    (hem : Em (q.bytes ++ rest) futuro k r) (hk : k < q.fim L) :
    Falha r.leituras (mqttMessageReceive L r).1 ∨
      Pausa (q.bytes ++ rest) futuro k (q.fim L) r.leituras (mqttMessageReceive L r).1
        (mqttMessageReceive L r).2 ∨
      (mqttMessageReceive L r).1 = .mensagem ∧
        Em (q.bytes ++ rest) futuro (q.fim L) (mqttMessageReceive L r).2 := by
  have hchega : Chega (q.bytes ++ rest) futuro k (q.fim L) r.leituras (fun k' => k' = q.fim L)
      (((lePrimeiro { r with messageLength := 0 }).entao leComprimento).entao (leCorpo L)) := by
    apply (cabeca_em hq hL hem hk).entao
    rintro k' r' - hfim hcab hem'
    exact leCorpo_em hcabe hem' hcab hfim
  unfold mqttMessageReceive
  dsimp only
  rcases hchega with ⟨x, hx, hstop⟩ | ⟨hnone, -, k', -, -, rfl, hem', -⟩
  · rw [hx]
    exact hstop.imp_right Or.inl
  · rw [hnone]
    exact Or.inr (Or.inr ⟨rfl, hem'⟩)

/-! ### The length the call leaves -/

/-- Behind the remaining length no part of a call changes it. -/
theorem leEntao_length {len n : ℕ} {mid : Bool} {f : Receptor → Parte}
    (h : r.messageLength = n)
    (hf : ∀ r' : Receptor, r'.messageLength = n → (f r').2.messageLength = n) :
    (leEntao len mid f r).2.messageLength = n := by
  have hread := (espTransportRead_frame len r).2.trans h
  unfold leEntao
  dsimp only
  split
  · exact hread
  · exact hf _ hread

theorem entao_length {n : ℕ} {res : Parte} {f : Receptor → Parte}
    (h : res.2.messageLength = n)
    (hf : ∀ r' : Receptor, r'.messageLength = n → (f r').2.messageLength = n) :
    (res.entao f).2.messageLength = n := by
  unfold Parte.entao
  split
  · exact h
  · exact hf _ h

theorem leTopico_length (L totalLen fixedHeaderLen : ℕ) (r : Receptor) :
    (leTopico L totalLen fixedHeaderLen r).2.messageLength = r.messageLength := by
  have htamanho : (leTamanhoTopico fixedHeaderLen r).2.messageLength = r.messageLength := by
    unfold leTamanhoTopico
    split
    · apply leEntao_length rfl
      intro r' hr'
      split <;> exact hr'
    · rfl
  unfold leTopico
  split
  · rfl
  · split
    · apply entao_length htamanho
      intro r' hr'
      dsimp only
      split_ifs <;> exact hr'
    · rfl

theorem leCorpo_length (L : ℕ) (r : Receptor) :
    (leCorpo L r).2.messageLength = (mqttGetTotalLength r.inBuffer r.inBuffer.length).1 := by
  unfold leCorpo
  apply entao_length (leTopico_length _ _ _ _)
  intro r' hr'
  unfold leResto
  split
  · apply leEntao_length hr'
    intro r'' hr''
    dsimp only
    split <;> exact hr''
  · exact hr'

/-- A call that has the packet knows its length. -/
theorem mqttMessageReceive_length (hq : ¬ q.Roubavel) (hL : 6 ≤ L)
    (hem : Em (q.bytes ++ rest) futuro k r) (hk : k < q.fim L)
    (h : (mqttMessageReceive L r).1 = .mensagem) :
    (mqttMessageReceive L r).2.messageLength = q.bytes.length := by
  unfold mqttMessageReceive at h ⊢
  dsimp only at h ⊢
  rcases cabeca_em hq hL hem hk with ⟨x, hx, hstop⟩ | ⟨hnone, -, k', -, -, hcab, hem', -⟩
  · rw [Parte.entao, hx] at h
    dsimp only at h
    rw [hx, Option.getD_some] at h
    rcases hstop with ⟨rfl, -⟩ | ⟨rfl | rfl, -⟩ <;> cases h
  · rw [Parte.entao, hnone]
    dsimp only
    rw [leCorpo_length, totalLength_eq hem' hcab]

end Chamada

/-! ## Runs -/

/-- Calls of `mqtt_message_receive`, each with what the transport will answer, by a
client that empties its buffer behind every packet, as `mqtt_process_receive` does. The
packets, and the client unless a call has failed. -/
def recebe (L : ℕ) : List (List ℤ) → Receptor → List (List UInt8) × Option Receptor
  | [], r => ([], some r)
  | leituras :: calls, r =>
      let res := mqttMessageReceive L { r with leituras }
      match res.1 with
      | .erro => ([], none)
      | .mensagem =>
          let t := recebe L calls { res.2 with inBuffer := [] }
          (res.2.inBuffer :: t.1, t.2)
      | .nada | .meio => recebe L calls res.2

def fluxoDe (qs : List Quadro) : List UInt8 := (qs.map Quadro.bytes).flatten

/-- A packet that comes out of the stream whole: it fits into the buffer, and a call
does not run behind its end. -/
def Quadro.Inteiro (q : Quadro) (L : ℕ) : Prop := ¬ q.Roubavel ∧ q.bytes.length ≤ L

instance (q : Quadro) (L : ℕ) : Decidable (q.Inteiro L) := inferInstanceAs (Decidable (_ ∧ _))

/-- Behind a packet that is taken out of the buffer, the stream goes on. -/
theorem Em.proximo {q : Quadro} {rest : List UInt8}
    (h : Em (q.bytes ++ rest) futuro q.bytes.length r) :
    Em rest futuro 0 { r with inBuffer := [] } := by
  refine ⟨rfl, ?_, Nat.zero_le _⟩
  dsimp only
  rw [h.entrada, List.drop_left]
  rfl

/-- **One call of a run.** It fails; or it gets on with the packet at the front of
the stream; or it hands that packet over, and the next one is now at the front. -/
theorem recebe_passo {L : ℕ} (hL : 6 ≤ L) {q : Quadro} (hq : q.Inteiro L) {rest : List UInt8}
    {k : ℕ} {r : Receptor} (hem : Em (q.bytes ++ rest) futuro k r) (hk : k < q.bytes.length)
    (leituras : List ℤ) (calls : List (List ℤ)) :
    (recebe L (leituras :: calls) r = ([], none) ∧ ∃ e ∈ leituras, e < 0) ∨
      (∃ k' r', k ≤ k' ∧ k' < q.bytes.length ∧ Em (q.bytes ++ rest) futuro k' r' ∧
        (k' = k → Parado (q.bytes ++ rest) futuro k leituras) ∧
        recebe L (leituras :: calls) r = recebe L calls r') ∨
      ∃ r', Em rest futuro 0 r' ∧
        recebe L (leituras :: calls) r =
          (q.bytes :: (recebe L calls r').1, (recebe L calls r').2) := by
  have hfim : q.fim L = q.bytes.length := min_eq_left hq.2
  have hem' : Em (q.bytes ++ rest) futuro k { r with leituras } := ⟨hem.buffer, hem.entrada, hem.le⟩
  have hcall := mqttMessageReceive_em hq.1 (Or.inl hq.2) hL hem' (by rwa [hfim])
  rw [hfim] at hcall
  rw [recebe]
  generalize mqttMessageReceive L { r with leituras } = res at hcall
  obtain ⟨x, r'⟩ := res
  dsimp only at hcall ⊢
  rcases hcall with ⟨rfl, hbad⟩ | ⟨rfl | rfl, k', hk', hlt, hem₁, hp⟩ | ⟨rfl, hem₁⟩
  · exact Or.inl ⟨rfl, hbad⟩
  · exact Or.inr (Or.inl ⟨k', r', hk', hlt, hem₁, hp, rfl⟩)
  · exact Or.inr (Or.inl ⟨k', r', hk', hlt, hem₁, hp, rfl⟩)
  · refine Or.inr (Or.inr ⟨{ r' with inBuffer := [] }, hem₁.proximo, ?_⟩)
    · rw [hem₁.buffer, List.take_left]

/-- At the end of the stream a call waits, or fails. -/
theorem mqttMessageReceive_vazio (L : ℕ) (hem : Em [] futuro 0 r) :
    Falha r.leituras (mqttMessageReceive L r).1 ∨
      ((mqttMessageReceive L r).1 = .nada ∨ (mqttMessageReceive L r).1 = .meio) ∧
        Em [] futuro 0 (mqttMessageReceive L r).2 := by
  have hem' : Em [] futuro 0 { r with messageLength := 0 } := ⟨hem.buffer, hem.entrada, hem.le⟩
  have hchega : Chega [] futuro 0 1 r.leituras (fun _ => False)
      (((lePrimeiro { r with messageLength := 0 }).entao leComprimento).entao (leCorpo L)) := by
    apply Chega.entao (P := fun _ => False)
    · apply Chega.entao (P := fun _ => False)
      · unfold lePrimeiro
        rw [hem'.length, if_pos rfl]
        apply chega_leEntao hem' Nat.one_pos Nat.one_pos
        intro j r' hj hj1 hj' hls
        exact absurd hj'.le (by simp; omega)
      · exact fun _ _ _ _ h => absurd h id
    · exact fun _ _ _ _ h => absurd h id
  unfold mqttMessageReceive
  dsimp only
  rcases hchega with ⟨x, hx, hbad | ⟨hpause, k', -, hlt, hem₁, -⟩⟩ | ⟨-, -, k', -, -, hP, -⟩
  · rw [hx]
    exact Or.inl hbad
  · obtain rfl : k' = 0 := by omega
    rw [hx]
    exact Or.inr ⟨hpause, hem₁⟩
  · exact absurd hP id

theorem recebe_vazio (L : ℕ) {r : Receptor} (hem : Em [] futuro 0 r) (leituras : List ℤ)
    (calls : List (List ℤ)) :
    (recebe L (leituras :: calls) r = ([], none) ∧ ∃ e ∈ leituras, e < 0) ∨
      ∃ r', Em [] futuro 0 r' ∧ recebe L (leituras :: calls) r = recebe L calls r' := by
  have hem' : Em [] futuro 0 { r with leituras } := ⟨hem.buffer, hem.entrada, hem.le⟩
  have hcall := mqttMessageReceive_vazio L hem'
  rw [recebe]
  generalize mqttMessageReceive L { r with leituras } = res at hcall
  obtain ⟨x, r'⟩ := res
  dsimp only at hcall ⊢
  rcases hcall with ⟨rfl, hbad⟩ | ⟨rfl | rfl, hem₁⟩
  · exact Or.inl ⟨rfl, hbad⟩
  · exact Or.inr ⟨r', hem₁, rfl⟩
  · exact Or.inr ⟨r', hem₁, rfl⟩

/-- The client is in the first of the packets still to come. -/
structure Antes (qs : List Quadro) (futuro : List UInt8) (r : Receptor) : Prop where
  em : ∃ k, Em (fluxoDe qs) futuro k r ∧ ∀ q ∈ qs.head?, k < q.bytes.length
  fim : qs = [] → Em [] futuro 0 r

theorem antes_zero {qs : List Quadro} {r : Receptor} (h : Em (fluxoDe qs) futuro 0 r) :
    Antes qs futuro r := by
  refine ⟨⟨0, h, fun q _ => q.length_bytes_pos⟩, ?_⟩
  rintro rfl
  exact h

/-- More of the stream arrives. -/
theorem Antes.chega {qs : List Quadro} {r : Receptor} {mais : List UInt8}
    (h : Antes qs (mais ++ futuro) r) : Antes qs futuro { r with entrada := r.entrada ++ mais } := by
  obtain ⟨⟨k, hem, hk⟩, hfim⟩ := h
  refine ⟨⟨k, ⟨hem.buffer, ?_, hem.le⟩, hk⟩, fun hqs => ⟨(hfim hqs).buffer, ?_, (hfim hqs).le⟩⟩
  · rw [← hem.entrada, List.append_assoc]
  · rw [← (hfim hqs).entrada, List.append_assoc]

theorem Antes.congr {qs : List Quadro} {r r' : Receptor} (h : Antes qs futuro r)
    (hbuffer : r'.inBuffer = r.inBuffer) (hentrada : r'.entrada = r.entrada) :
    Antes qs futuro r' := by
  obtain ⟨⟨k, hem, hk⟩, hfim⟩ := h
  refine ⟨⟨k, ⟨hbuffer.trans hem.buffer, by rw [hentrada, hem.entrada], hem.le⟩, hk⟩,
    fun hqs => ⟨hbuffer.trans (hfim hqs).buffer, by rw [hentrada, (hfim hqs).entrada],
      (hfim hqs).le⟩⟩

/-- **One call of the client**: it fails; or it gets on with the packet at the front of the
stream; or it has that packet, and knows its length. -/
theorem mqttMessageReceive_antes {L : ℕ} (hL : 6 ≤ L) {qs : List Quadro}
    (hqs : ∀ q ∈ qs, q.Inteiro L) (h : Antes qs futuro r) :
    (mqttMessageReceive L r).1 = .erro ∨
      ((mqttMessageReceive L r).1 = .nada ∨ (mqttMessageReceive L r).1 = .meio) ∧
        Antes qs futuro (mqttMessageReceive L r).2 ∨
      (mqttMessageReceive L r).1 = .mensagem ∧ ∃ q qs', qs = q :: qs' ∧
        Em (q.bytes ++ fluxoDe qs') futuro q.bytes.length (mqttMessageReceive L r).2 ∧
        (mqttMessageReceive L r).2.messageLength = q.bytes.length := by
  cases qs with
  | nil =>
      rcases mqttMessageReceive_vazio L (h.fim rfl) with ⟨hbad, -⟩ | ⟨hwait, hem⟩
      · exact Or.inl hbad
      · exact Or.inr (Or.inl ⟨hwait, antes_zero hem⟩)
  | cons q qs =>
      obtain ⟨k, hem, hk⟩ := h.em
      have hq := hqs q List.mem_cons_self
      have hfim : q.fim L = q.bytes.length := min_eq_left hq.2
      have hstream : fluxoDe (q :: qs) = q.bytes ++ fluxoDe qs := by simp [fluxoDe]
      have hlt := hk q rfl
      rw [hstream] at hem
      rw [← hfim] at hlt
      rcases mqttMessageReceive_em hq.1 (Or.inl hq.2) hL hem hlt with
        ⟨hbad, -⟩ | ⟨hwait, k', -, hk', hem', -⟩ | ⟨hmsg, hem'⟩
      · exact Or.inl hbad
      · refine Or.inr (Or.inl ⟨hwait, ⟨k', hstream ▸ hem', ?_⟩, by simp⟩)
        intro q' hq'
        rw [← Option.some.inj hq', ← hfim]
        exact hk'
      · rw [hfim] at hem'
        exact Or.inr (Or.inr ⟨hmsg, q, qs, rfl, hem',
          mqttMessageReceive_length hq.1 hL hem hlt hmsg⟩)

/-- **Packets out of a stream.** A client that empties its buffer behind every packet
hands over packets of the stream, whole, each once and in their order, however the
transport cuts the stream; what it has not handed over is in its buffer and still to
come. -/
theorem recebe_antes {L : ℕ} (hL : 6 ≤ L) (calls : List (List ℤ)) {qs : List Quadro}
    (hqs : ∀ q ∈ qs, q.Inteiro L) {r : Receptor} (h : Antes qs futuro r) :
    ∃ n, (recebe L calls r).1 = (qs.take n).map Quadro.bytes ∧
      ∀ r', (recebe L calls r).2 = some r' → Antes (qs.drop n) futuro r' := by
  induction calls generalizing qs r with
  | nil => exact ⟨0, rfl, fun r' hr' => by rwa [← Option.some.inj hr']⟩
  | cons leituras calls ih =>
      cases qs with
      | nil =>
          rcases recebe_vazio L (h.fim rfl) leituras calls with ⟨heq, -⟩ | ⟨r', hem', heq⟩
          · rw [heq]
            exact ⟨0, rfl, fun r' hr' => absurd hr' (by simp)⟩
          · rw [heq]
            exact ih hqs (antes_zero hem')
      | cons q qs =>
          obtain ⟨k, hem, hk⟩ := h.em
          have hstream : fluxoDe (q :: qs) = q.bytes ++ fluxoDe qs := by simp [fluxoDe]
          rw [hstream] at hem
          rcases recebe_passo hL (hqs q List.mem_cons_self) hem (hk q rfl) leituras calls with
            ⟨heq, -⟩ | ⟨k', r', -, hk', hem', -, heq⟩ | ⟨r', hem', heq⟩
          · rw [heq]
            exact ⟨0, rfl, fun r' hr' => absurd hr' (by simp)⟩
          · rw [heq]
            apply ih hqs
            refine ⟨⟨k', hstream ▸ hem', ?_⟩, by simp⟩
            intro q' hq'
            rwa [← Option.some.inj hq']
          · obtain ⟨n, hmsgs, hrest⟩ :=
              ih (fun q' hq' => hqs q' (List.mem_cons_of_mem q hq')) (antes_zero hem')
            rw [heq]
            refine ⟨n + 1, ?_, hrest⟩
            dsimp only
            rw [hmsgs, List.take_succ_cons, List.map_cons]

/-- A transport that has no error, and something to give first in every call. -/
def Fornece (calls : List (List ℤ)) : Prop :=
  ∀ leituras ∈ calls, (∀ e ∈ leituras, 0 ≤ e) ∧ ∃ e ∈ leituras.head?, 0 < e

/-- A call for every byte is always enough. -/
theorem recebe_completo {L : ℕ} (hL : 6 ≤ L) {calls : List (List ℤ)} (hcalls : Fornece calls)
    {qs : List Quadro} (hqs : ∀ q ∈ qs, q.Inteiro L) {k : ℕ} {r : Receptor}
    (hem : Em (fluxoDe qs) [] k r) (hk : ∀ q ∈ qs.head?, k < q.bytes.length)
    (hmany : (fluxoDe qs).length ≤ calls.length + k) :
    (recebe L calls r).1 = qs.map Quadro.bytes := by
  induction calls generalizing qs k r with
  | nil =>
      cases qs with
      | nil => rfl
      | cons q qs =>
          have hlt := hk q rfl
          simp only [fluxoDe, List.map_cons, List.flatten_cons, List.length_append,
            List.length_nil] at hmany
          omega
  | cons leituras calls ih =>
      obtain ⟨hgood, e, he, hpos⟩ := hcalls leituras List.mem_cons_self
      have hrest : Fornece calls := fun ls hls => hcalls ls (List.mem_cons_of_mem _ hls)
      have hnoerr : ¬ ∃ e ∈ leituras, e < 0 := by
        rintro ⟨e, he, hneg⟩
        exact absurd (hgood e he) (not_le.mpr hneg)
      cases qs with
      | nil =>
          obtain rfl : k = 0 := by
            have := hem.le
            simp only [fluxoDe, List.map_nil, List.flatten_nil, List.length_nil] at this
            omega
          rcases recebe_vazio L hem leituras calls with ⟨-, hbad⟩ | ⟨r', hem', heq⟩
          · exact absurd hbad hnoerr
          · rw [heq]
            exact ih hrest hqs hem' hk (Nat.zero_le _)
      | cons q qs =>
          have hstream : fluxoDe (q :: qs) = q.bytes ++ fluxoDe qs := by simp [fluxoDe]
          have hlt := hk q rfl
          rw [hstream] at hem hmany
          have hlen : (q.bytes ++ fluxoDe qs).length = q.bytes.length + (fluxoDe qs).length :=
            List.length_append
          rw [List.length_cons] at hmany
          rcases recebe_passo hL (hqs q List.mem_cons_self) hem hlt leituras calls with
            ⟨-, hbad⟩ | ⟨k', r', hle, hk', hem', hp, heq⟩ | ⟨r', hem', heq⟩
          · exact absurd hbad hnoerr
          · have hmoved : k < k' := by
              rcases Nat.lt_or_eq_of_le hle with h | rfl
              · exact h
              · rcases hp rfl with hhead | hend
                · exact absurd (hhead e he) (not_le.mpr hpos)
                · rw [List.length_nil] at hend
                  omega
            rw [heq]
            refine ih hrest hqs (hstream ▸ hem') ?_ (by rw [hstream]; omega)
            intro q' hq'
            rwa [← Option.some.inj hq']
          · have hqs' : ∀ q' ∈ qs, q'.Inteiro L :=
              fun q' hq' => hqs q' (List.mem_cons_of_mem q hq')
            rw [heq]
            dsimp only
            rw [ih hrest hqs' hem' (fun q' _ => q'.length_bytes_pos) (by omega), List.map_cons]

/-- **Packets out of a stream.** The client hands over the packets of the stream, whole,
each once and in their order, however the transport cuts the stream; what it has not
handed over yet is in its buffer and still to come. If the transport keeps giving, it
hands over all of them. -/
theorem montagem {L : ℕ} (hL : 6 ≤ L) {qs : List Quadro} (hqs : ∀ q ∈ qs, q.Inteiro L)
    (calls : List (List ℤ)) :
    let res := recebe L calls { entrada := fluxoDe qs }
    (∃ n, res.1 = (qs.take n).map Quadro.bytes ∧
      ∀ r, res.2 = some r → r.inBuffer ++ r.entrada = fluxoDe (qs.drop n)) ∧
    (Fornece calls → (fluxoDe qs).length ≤ calls.length → res.1 = qs.map Quadro.bytes) := by
  have hem : Em (fluxoDe qs) [] 0 { entrada := fluxoDe qs } :=
    ⟨rfl, List.append_nil _, Nat.zero_le _⟩
  constructor
  · obtain ⟨n, hmsgs, hrest⟩ := recebe_antes hL calls hqs (antes_zero hem)
    refine ⟨n, hmsgs, fun r hr => ?_⟩
    obtain ⟨k, hem', -⟩ := (hrest r hr).em
    have hentrada := hem'.entrada
    rw [List.append_nil] at hentrada
    rw [hem'.buffer, hentrada, List.take_append_drop]
  · intro hcalls hmany
    exact recebe_completo hL hcalls hqs hem (fun q _ => q.length_bytes_pos) (by omega)

theorem connackDeTeste_valido : mqttHasValidMsgHdr [32] 1 = true := by decide

theorem connackDeTeste_curto : (encode [(0 : UInt8), 0].length).length ≤ 4 := by decide

/-- A CONNACK that accepts. -/
def connackDeTeste : Quadro := .de 32 [0, 0] connackDeTeste_valido connackDeTeste_curto

theorem pubackDeTeste_valido : mqttHasValidMsgHdr [64] 1 = true := by decide

theorem pubackDeTeste_curto : (encode [(0 : UInt8), 8].length).length ≤ 4 := by decide

def pubackDeTeste : Quadro := .de 64 [0, 8] pubackDeTeste_valido pubackDeTeste_curto

/-- Three bytes of the one packet come, then the last of it and two of the next, and the
rest byte by byte. -/
def leiturasDeTeste : List (List ℤ) := [[1, 1, 1], [9], [1, 1], [1], [1], [1], [1], [1]]

theorem connackDeTeste_montagem :
    let qs := [connackDeTeste, pubackDeTeste]
    let res := recebe 16 leiturasDeTeste { entrada := fluxoDe qs }
    (∃ n, res.1 = (qs.take n).map Quadro.bytes ∧
      ∀ r, res.2 = some r → r.inBuffer ++ r.entrada = fluxoDe (qs.drop n)) ∧
    res.1 = [[32, 2, 0, 0], [64, 2, 0, 8]] := by
  have hqs : ∀ q ∈ [connackDeTeste, pubackDeTeste], q.Inteiro 16 := by decide
  have hgives : Fornece leiturasDeTeste := by simp [Fornece, leiturasDeTeste]
  obtain ⟨hsome, hall⟩ := montagem (by decide) hqs leiturasDeTeste
  exact ⟨hsome, hall hgives (by decide)⟩

/-! ## Packets that are not whole -/

theorem recebe_head {L : ℕ} (hL : 6 ≤ L) {q : Quadro} (hq : q.Inteiro L) {rest : List UInt8}
    (calls : List (List ℤ)) {k : ℕ} {r : Receptor} (hem : Em (q.bytes ++ rest) futuro k r)
    (hk : k < q.bytes.length) : ∀ m ∈ (recebe L calls r).1.head?, m = q.bytes := by
  induction calls generalizing k r with
  | nil => simp [recebe]
  | cons leituras calls ih =>
      rcases recebe_passo hL hq hem hk leituras calls with
        ⟨heq, -⟩ | ⟨k', r', -, hk', hem', -, heq⟩ | ⟨r', -, heq⟩
      · rw [heq]
        simp
      · rw [heq]
        exact ih hem' hk'
      · rw [heq]
        intro m hm
        exact (Option.some.inj hm).symm

/-- The fields of one or two bytes, of a value that fits into one. -/
theorem campo_curto {f : List UInt8} {n : ℕ} (hf : IsField f) (hvalue : (decode f).1 = n)
    (hn : n < 128) (hlen : f.length ≤ 2) :
    f = [UInt8.ofNat n] ∨ f = [UInt8.ofNat (n + 128), 0] := by
  rcases f with _ | ⟨a, _ | ⟨b, _ | ⟨c, f⟩⟩⟩
  · exact absurd rfl hf.ne_nil
  · rcases isField_cons_iff.mp hf with ⟨ha, -⟩ | ⟨-, hnil⟩
    · simp only [decode, ha] at hvalue
      left
      rw [← hvalue]
      simp
    · exact absurd rfl hnil.ne_nil
  · rcases isField_cons_iff.mp hf with ⟨-, hnil⟩ | ⟨ha, hb⟩
    · cases hnil
    · rcases isField_cons_iff.mp hb with ⟨hb, -⟩ | ⟨-, hnil⟩
      · have hbig := (goesOn_iff a).mp ha
        have hlt := a.toNat_lt
        simp only [decode, ha, hb, if_true] at hvalue
        right
        have hb0 : b = 0 := UInt8.toNat_inj.mp (by simp only [UInt8.toNat_zero]; simp at hvalue; omega)
        have ha0 : a.toNat = n + 128 := by simp at hvalue; omega
        rw [hb0, ← ha0, UInt8.ofNat_toNat]
      · exact absurd rfl hnil.ne_nil
  · simp at hlen

/-- Two calls: one that stops in front of the last byte, one that goes on. -/
def doisCalls (q : Quadro) : List (List ℤ) :=
  [List.replicate q.cabeca 1 ++ [(q.body.length : ℤ) - 1], [1, 1]]

/-- **How a byte is lost.** The second call takes the last byte for one of the length,
and the first of the next packet for the end of it, unless that has bit 7 set. -/
theorem recebe_roubado {L : ℕ} {q : Quadro} (hq : q.Roubavel) (hL : q.bytes.length ≤ L)
    {b : UInt8} (hb : goesOn b = false) (rest : List UInt8) :
    (recebe L (doisCalls q) { entrada := q.bytes ++ b :: rest }).1 = [q.bytes ++ [b]] := by
  obtain ⟨h6, h2, hprev, hlast⟩ := hq
  have hlen := q.length_bytes
  have hpos := List.length_pos_iff.mpr q.isField.ne_nil
  obtain ⟨h, f, body, hvalid, hfield, hcurto, hvalor⟩ := q
  simp only [Quadro.bytes, Quadro.cabeca] at *
  have hv : ∀ bs, mqttHasValidMsgHdr (h :: bs) 1 = true := fun bs => hvalid
  have g2 : goesOn 2 = false := by decide
  have g3 : goesOn 3 = false := by decide
  have g130 : goesOn 130 = true := by decide
  have g0 : goesOn 0 = false := by decide
  -- both calls run on the bytes: four or five of them, and the one behind
  rcases body with _ | ⟨b0, _ | ⟨b1, _ | ⟨b2, _ | ⟨b3, body⟩⟩⟩⟩
  · simp at h2
  · simp at h2
  · rcases campo_curto hfield hvalor (by simp) (by omega) with rfl | rfl
    · have h0 : goesOn b0 = true := hprev
      have h1 : goesOn b1 = true := hlast
      have hL : 4 ≤ L := hL
      simp [doisCalls, Quadro.cabeca, recebe, mqttMessageReceive, lePrimeiro, leEntao,
        espTransportRead, Parte.entao, leComprimento, leComprimentoLoop, naoAcabou, byteAt,
        leCorpo, mqttGetTotalLength, cabecalho, somaComprimento, leTopico, leResto,
        List.replicate, hv, h0, h1, g2, hb, hL]
    · have h0 : goesOn b0 = true := hprev
      have h1 : goesOn b1 = true := hlast
      have hL : 5 ≤ L := hL
      simp [doisCalls, Quadro.cabeca, recebe, mqttMessageReceive, lePrimeiro, leEntao,
        espTransportRead, Parte.entao, leComprimento, leComprimentoLoop, naoAcabou, byteAt,
        leCorpo, mqttGetTotalLength, cabecalho, somaComprimento, leTopico, leResto,
        List.replicate, hv, h0, h1, g130, g0, hb, hL]
  · rcases campo_curto hfield hvalor (by simp) (by omega) with rfl | rfl
    · have h1 : goesOn b1 = true := hprev
      have h2 : goesOn b2 = true := hlast
      have hL : 5 ≤ L := hL
      simp [doisCalls, Quadro.cabeca, recebe, mqttMessageReceive, lePrimeiro, leEntao,
        espTransportRead, Parte.entao, leComprimento, leComprimentoLoop, naoAcabou, byteAt,
        leCorpo, mqttGetTotalLength, cabecalho, somaComprimento, leTopico, leResto,
        List.replicate, hv, h1, h2, g3, hb, hL]
    · simp at h6
  · simp only [List.length_cons, List.length_append] at h6
    omega

/-- **Which packets come out whole.** However the stream behind a packet goes on and is
cut, the first thing handed over is the packet, if and only if it does not end in two
bytes with bit 7 set within its first five. If it does, it can come out with a byte that
is the next packet's. -/
theorem inteiro_iff_not_roubavel {L : ℕ} (hL : 6 ≤ L) {q : Quadro}
    (hq : q.bytes.length ≤ L) :
    ((∀ rest calls, ∀ m ∈ (recebe L calls { entrada := q.bytes ++ rest }).1.head?,
      m = q.bytes) ↔ ¬ q.Roubavel) ∧
    (q.Roubavel → ∀ b rest, goesOn b = false →
      (recebe L (doisCalls q) { entrada := q.bytes ++ b :: rest }).1 = [q.bytes ++ [b]]) := by
  refine ⟨⟨fun hall hbad => ?_, fun hgood rest calls => ?_⟩,
    fun hbad b rest hb => recebe_roubado hbad hq hb rest⟩
  · have hm := hall [0] (doisCalls q) (q.bytes ++ [0])
      (by rw [recebe_roubado hbad hq (by decide)]; rfl)
    have hlen := congrArg List.length hm
    rw [List.length_append, List.length_singleton] at hlen
    omega
  · have hem : Em (q.bytes ++ rest) [] 0 { entrada := q.bytes ++ rest } :=
      ⟨rfl, List.append_nil _, Nat.zero_le _⟩
    exact recebe_head hL ⟨hgood, hq⟩ calls hem q.length_bytes_pos

theorem pubackRoubavel_curto : (encode [(255 : UInt8), 254].length).length ≤ 4 := by decide

/-- The PUBACK of the id 65534. -/
def pubackRoubavel : Quadro := .de 64 [255, 254] pubackDeTeste_valido pubackRoubavel_curto

/-- It comes out with the first byte of the packet behind it. -/
theorem pubackRoubavel_inteiro :
    ((∀ rest calls, ∀ m ∈ (recebe 16 calls { entrada := pubackRoubavel.bytes ++ rest }).1.head?,
      m = pubackRoubavel.bytes) ↔ ¬ pubackRoubavel.Roubavel) ∧
    (recebe 16 (doisCalls pubackRoubavel)
      { entrada := pubackRoubavel.bytes ++ pubackDeTeste.bytes }).1 = [[64, 2, 255, 254, 64]] := by
  obtain ⟨hiff, hbad⟩ := inteiro_iff_not_roubavel (q := pubackRoubavel) (L := 16) (by decide)
    (by decide)
  exact ⟨hiff, hbad (by decide) 64 [2, 0, 8] (by decide)⟩

end HidroControl.EspMqtt
