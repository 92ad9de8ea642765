import HidroControl.EspMqtt.Codec
import HidroControl.Base.ListStore

/-!
# `mqtt_outbox.c` — messages that wait for an answer

A list with its latest message last, and beside it the number of bytes it holds.
A handle to an item is its place in the list: the client keeps none across a call
that removes one. Every operation either leaves the messages and their order alone
(`chave` is what identifies one), or appends one, or removes some (`Encolhe`), and
the byte count goes along with all of them (`Coerente`).
-/

namespace HidroControl.EspMqtt

open ListStore

inductive PendingState where
  | queued
  | transmitted
  | acknowledged
  | confirmed
deriving DecidableEq

/-- `len` is the length of `buffer`. -/
structure OutboxItem where
  buffer : List UInt8
  msgId : UInt16
  msgType : Option MqttMessageType
  msgQos : ℕ
  tick : ℕ
  pending : PendingState
deriving DecidableEq

structure Outbox where
  size : ℕ := 0
  list : List OutboxItem := []
deriving DecidableEq

structure OutboxMessage where
  data : List UInt8
  msgId : UInt16
  msgQos : ℕ
  msgType : Option MqttMessageType
  remainingData : List UInt8

/-! ## Operations -/

def OutboxMessage.item (m : OutboxMessage) (tick : ℕ) : OutboxItem where
  buffer := m.data ++ m.remainingData
  msgId := m.msgId
  msgType := m.msgType
  msgQos := m.msgQos
  tick := tick
  pending := .queued

/-- `STAILQ_INSERT_TAIL`, and the size. -/
def Outbox.insere (x : OutboxItem) (o : Outbox) : Outbox where
  list := o.list ++ [x]
  size := o.size + x.buffer.length

/-- `memoria` is what the two allocations come to. -/
def outboxEnqueue (memoria : Bool) (m : OutboxMessage) (tick : ℕ) (o : Outbox) :
    Option Outbox :=
  if memoria then some (o.insere (m.item tick)) else none

/-- The handle of the first item in a state. -/
def outboxDequeue (o : Outbox) (pending : PendingState) : Option ℕ :=
  o.list.findIdx? fun x => x.pending == pending

def outboxDeleteItem (o : Outbox) (item : ℕ) : Option Outbox :=
  (o.list[item]?).map fun x =>
    { list := o.list.eraseIdx item, size := o.size - x.buffer.length }

def daResposta (msgId : UInt16) (msgType : MqttMessageType) (x : OutboxItem) : Bool :=
  x.msgId == msgId && x.msgType == some msgType

def outboxDelete (o : Outbox) (msgId : UInt16) (msgType : MqttMessageType) : Option Outbox :=
  (o.list.find? (daResposta msgId msgType)).map fun x =>
    { list := o.list.eraseP (daResposta msgId msgType), size := o.size - x.buffer.length }

/-- Rewrites the item that `outbox_get` finds. -/
def reescreve (msgId : UInt16) (f : OutboxItem → OutboxItem) (o : Outbox) : Outbox :=
  { o with list := o.list.replaceF fun x => if x.msgId == msgId then some (f x) else none }

def outboxSetPending (o : Outbox) (msgId : UInt16) (pending : PendingState) : Outbox :=
  reescreve msgId (fun x => { x with pending }) o

def outboxSetTick (o : Outbox) (msgId : UInt16) (tick : ℕ) : Outbox :=
  reescreve msgId (fun x => { x with tick }) o

def expirou (currentTick timeout : ℕ) (x : OutboxItem) : Bool := x.tick + timeout < currentTick

/-- The loop of `outbox_delete_expired`: what is left of a list, the size, and how
many it has deleted. -/
def apagaExpiradas (currentTick timeout : ℕ) :
    List OutboxItem → ℕ → List OutboxItem × ℕ × ℕ
  | [], size => ([], size, 0)
  | x :: xs, size =>
      if expirou currentTick timeout x then
        let r := apagaExpiradas currentTick timeout xs (size - x.buffer.length)
        (r.1, r.2.1, r.2.2 + 1)
      else
        let r := apagaExpiradas currentTick timeout xs size
        (x :: r.1, r.2.1, r.2.2)

def outboxDeleteExpired (o : Outbox) (currentTick timeout : ℕ) : ℕ × Outbox :=
  let r := apagaExpiradas currentTick timeout o.list o.size
  (r.2.2, { list := r.1, size := r.2.1 })

def outboxGetSize (o : Outbox) : ℕ := o.size

/-- `mqtt_set_dup` on the bytes of an item. -/
def marcaDup (o : Outbox) (item : ℕ) : Outbox :=
  { o with list := o.list.modify item fun x => { x with buffer := mqttSetDup x.buffer } }

/-! ## What identifies a message -/

/-- A message without its place in the protocol: what no operation changes of it. Its
bytes are taken with the DUP flag set. -/
structure Chave where
  buffer : List UInt8
  msgId : UInt16
  msgType : Option MqttMessageType
  msgQos : ℕ
deriving DecidableEq

def OutboxItem.chave (x : OutboxItem) : Chave where
  buffer := mqttSetDup x.buffer
  msgId := x.msgId
  msgType := x.msgType
  msgQos := x.msgQos

def Outbox.chaves (o : Outbox) : List Chave := o.list.map OutboxItem.chave

theorem mqttSetDup_idem (b : List UInt8) : mqttSetDup (mqttSetDup b) = mqttSetDup b := by
  cases b with
  | nil => rfl
  | cons h bs =>
      have hor : h ||| 0x08 ||| 0x08 = h ||| 0x08 := by rw [UInt8.or_assoc, UInt8.or_self]
      exact congrArg (· :: bs) hor

theorem length_mqttSetDup (b : List UInt8) : (mqttSetDup b).length = b.length :=
  List.length_modifyHead

@[simp] theorem length_chave (x : OutboxItem) : x.chave.buffer.length = x.buffer.length :=
  length_mqttSetDup x.buffer

/-! ## The byte count -/

/-- What an item adds to the size, which its key already says. -/
def peso (x : OutboxItem) : ℕ := x.buffer.length

/-- `size` is what the buffers hold together. -/
def Outbox.Coerente (o : Outbox) : Prop := o.size = (o.list.map peso).sum

/-- The same messages, in the same order, and the same size. -/
structure Mantem (o o' : Outbox) : Prop where
  chaves : o'.chaves = o.chaves
  size : o'.size = o.size

theorem sum_peso_of_chaves {l l' : List OutboxItem}
    (h : l'.map OutboxItem.chave = l.map OutboxItem.chave) :
    (l'.map peso).sum = (l.map peso).sum := by
  have hpeso : ∀ l : List OutboxItem,
      l.map peso = (l.map OutboxItem.chave).map fun k => k.buffer.length := by
    intro l
    rw [List.map_map]
    exact List.map_congr_left fun x _ => (length_chave x).symm
  rw [hpeso, hpeso, h]

theorem Mantem.coerente {o o' : Outbox} (h : Mantem o o') (hc : o.Coerente) : o'.Coerente := by
  rw [Outbox.Coerente, h.size, sum_peso_of_chaves h.chaves]
  exact hc

/-! ## One lemma for each operation -/

theorem reescreve_mantem (msgId : UInt16) {f : OutboxItem → OutboxItem}
    (hf : ∀ x, (f x).chave = x.chave) (o : Outbox) : Mantem o (reescreve msgId f o) := by
  refine ⟨map_replaceF ?_ o.list, rfl⟩
  intro a b hab
  split at hab
  · rw [← Option.some.inj hab, hf]
  · cases hab

theorem reescreve_cases (msgId : UInt16) (f : OutboxItem → OutboxItem) (o : Outbox) :
    reescreve msgId f o = o ∨
      ∃ l₁ x l₂, o.list = l₁ ++ x :: l₂ ∧ x.msgId = msgId ∧
        reescreve msgId f o = { o with list := l₁ ++ f x :: l₂ } := by
  rcases replaceF_cases (fun x => if x.msgId == msgId then some (f x) else none) o.list with
    heq | ⟨l₁, x, y, l₂, hl, hxy, heq⟩
  · rw [reescreve, heq]
    exact Or.inl rfl
  · split at hxy
    next hid =>
        rw [reescreve, heq, ← Option.some.inj hxy]
        exact Or.inr ⟨l₁, x, l₂, hl, eq_of_beq hid, rfl⟩
    next => cases hxy

theorem outboxSetPending_mantem (o : Outbox) (msgId : UInt16) (pending : PendingState) :
    Mantem o (outboxSetPending o msgId pending) :=
  reescreve_mantem msgId (f := fun x => { x with pending }) (fun _ => rfl) o

theorem outboxSetTick_mantem (o : Outbox) (msgId : UInt16) (tick : ℕ) :
    Mantem o (outboxSetTick o msgId tick) :=
  reescreve_mantem msgId (f := fun x => { x with tick }) (fun _ => rfl) o

/-- One item is taken out, and its bytes with it. -/
structure Tira (x : OutboxItem) (o o' : Outbox) : Prop where
  lista : ∃ l₁ l₂, o.list = l₁ ++ x :: l₂ ∧ o'.list = l₁ ++ l₂
  size : o'.size = o.size - x.buffer.length

theorem Tira.coerente {x : OutboxItem} {o o' : Outbox} (h : Tira x o o') (hc : o.Coerente) :
    o'.Coerente := by
  obtain ⟨⟨l₁, l₂, hl, hl'⟩, hsize⟩ := h
  rw [Outbox.Coerente, hsize, hc, hl', sum_map_remove peso hl]
  rfl

theorem Tira.mem {x : OutboxItem} {o o' : Outbox} (h : Tira x o o') {y : OutboxItem}
    (hy : y ∈ o.list) : y = x ∨ y ∈ o'.list := by
  obtain ⟨⟨l₁, l₂, hl, hl'⟩, -⟩ := h
  rw [hl] at hy
  rw [hl']
  simp only [List.mem_append, List.mem_cons] at hy ⊢
  tauto

theorem Tira.sublist {x : OutboxItem} {o o' : Outbox} (h : Tira x o o') :
    o'.list.Sublist o.list := by
  obtain ⟨⟨l₁, l₂, hl, hl'⟩, -⟩ := h
  rw [hl, hl']
  exact (List.Sublist.refl l₁).append (List.sublist_cons_self x l₂)

theorem outboxDeleteItem_tira {o o' : Outbox} {item : ℕ}
    (h : outboxDeleteItem o item = some o') :
    ∃ x, o.list[item]? = some x ∧ Tira x o o' := by
  obtain ⟨x, hx, rfl⟩ := Option.map_eq_some_iff.mp h
  obtain ⟨l₁, l₂, hl, herase⟩ := exists_split_of_getElem? hx
  exact ⟨x, hx, ⟨l₁, l₂, hl, herase⟩, rfl⟩

/-- The first message of that id and type. -/
theorem outboxDelete_tira {o o' : Outbox} {msgId : UInt16} {msgType : MqttMessageType}
    (h : outboxDelete o msgId msgType = some o') :
    ∃ x, x.msgId = msgId ∧ x.msgType = some msgType ∧ Tira x o o' := by
  obtain ⟨x, hx, rfl⟩ := Option.map_eq_some_iff.mp h
  obtain ⟨l₁, l₂, hl, herase, -⟩ := exists_split_of_find? hx
  have hfound := List.find?_some hx
  simp only [daResposta, Bool.and_eq_true, beq_iff_eq] at hfound
  exact ⟨x, hfound.1, hfound.2, ⟨l₁, l₂, hl, herase⟩, rfl⟩

theorem insere_coerente {o : Outbox} (hc : o.Coerente) (x : OutboxItem) :
    (o.insere x).Coerente := by
  rw [Outbox.Coerente] at hc ⊢
  simp [Outbox.insere, hc, peso]

/-! ## Expiry -/

theorem apagaExpiradas_eq (t timeout : ℕ) (l : List OutboxItem) (size : ℕ) :
    apagaExpiradas t timeout l size =
      (l.filter fun x => !expirou t timeout x,
        size - ((l.filter (expirou t timeout)).map peso).sum,
        l.countP (expirou t timeout)) := by
  induction l generalizing size with
  | nil => rfl
  | cons x l ih =>
      unfold apagaExpiradas
      cases hx : expirou t timeout x with
      | true => simp [ih, hx, peso, Nat.sub_sub]
      | false => simp [ih, hx]

/-- Exactly the expired ones go, wherever they are. -/
theorem outboxDeleteExpired_list (o : Outbox) (t timeout : ℕ) :
    (outboxDeleteExpired o t timeout).2.list = o.list.filter fun x => !expirou t timeout x := by
  rw [outboxDeleteExpired, apagaExpiradas_eq]

theorem outboxDeleteExpired_coerente {o : Outbox} (hc : o.Coerente) (t timeout : ℕ) :
    (outboxDeleteExpired o t timeout).2.Coerente := by
  have htotal : ((o.list.filter (expirou t timeout)).map peso).sum +
      ((o.list.filter fun x => !expirou t timeout x).map peso).sum = (o.list.map peso).sum := by
    simpa using List.sum_map_filter_add_sum_map_filter_not
      (fun x => expirou t timeout x = true) peso o.list
  rw [outboxDeleteExpired, apagaExpiradas_eq, Outbox.Coerente, hc]
  dsimp only
  omega

end HidroControl.EspMqtt
