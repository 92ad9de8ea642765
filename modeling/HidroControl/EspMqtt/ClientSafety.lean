import HidroControl.EspMqtt.Rounds

/-!
# What holds in every run of the client

The firmware's flag never outlives the connection, and the outbox holds whole packets
and counts their bytes (`Ordem`). A message leaves it by its answer or by its age, and
stays in its place until then (`Destino`, `Fila`). Attempts to connect keep their
distance (`Espacado`), and a broker that has gone silent is given up (`silencio`).

Each of these is kept by one small step, and `corre_induz` does the rest.
-/

namespace HidroControl.EspMqtt

open Wire

variable {cfg : Config} {le : Bool} {c c' : Cliente}

theorem oito_ne_zero : (8 : UInt16) ≠ 0 := by decide

/-- A session: the broker accepts, a publication goes out in two writes, the poll ends
and a PUBACK comes. -/
def sessaoCom (respondida : UInt8) : List Acao :=
  [.tarefa
      { mundoQuieto with
        avancos := [100, 100, 100, 100]
        escritas := [1000, 1000]
        chega := [32, 2, 0, 0]
        connack := [[1, 1, 2]] },
    .publica { avancos := [100, 100], escritas := [5, 1000], sorteio := ⟨8, oito_ne_zero⟩ }
      { topic := [116], data := .bytes [123, 125], qos := 1, retain := 0 },
    .poll mundoQuieto false,
    .tarefa
      { mundoQuieto with
        avancos := [100, 100, 100]
        chega := [64, 2, 0, respondida]
        leituras := [1, 1, 2] }]

/-- The acknowledgement is that of the publication. -/
def sessao : List Acao := sessaoCom 8

theorem sessaoCom_segura (respondida : UInt8) : ∀ a ∈ sessaoCom respondida, a.Segura := by
  simp only [sessaoCom, List.forall_mem_cons]
  exact ⟨trivial, ⟨⟨by decide, by decide⟩, Or.inl rfl⟩, trivial, trivial, nofun⟩

/-- What small steps keep, chains keep. -/
theorem Faz.induz {P : Cliente → Prop} (hP : ∀ {c c'}, Micro cfg le c c' → P c → P c')
    (h : Faz cfg le c c') (hc : P c) : P c' := by
  induction h with
  | refl => exact hc
  | tail _ hstep ih => exact hP hstep ih

/-- What small steps and the parts of an attempt to connect keep, a round keeps. -/
theorem Rodada.induz {P : Cliente → Prop} (hP : ∀ {c c'}, Micro cfg true c c' → P c → P c')
    (htenta : ∀ c d, P c → P (c.tenta d)) (hliga : ∀ c, P c → P (c.liga cfg))
    (hmarca : ∀ c t, P c → P (c.marca t)) (h : Rodada cfg c c') (hc : P c) : P c' := by
  cases h with
  | faz h => exact h.induz hP hc
  | falha c₁ d antes init depois fim =>
      exact depois.induz hP (htenta c₁ d (antes.induz hP hc))
  | liga c₁ c₂ c₃ d refresh antes init tentativa init' inscreve depois fim =>
      exact depois.induz hP (hmarca c₃ refresh (inscreve.induz hP
        (hliga c₂ (tentativa.induz hP (htenta c₁ d (antes.induz hP hc))))))

/-! ## The flag and the outbox -/

structure Cliente.Ordem (c : Cliente) : Prop where
  conexao : c.aplicacao.sConnected = true → c.state = .connected
  tamanho : c.outbox.Coerente
  cartas : ∀ x ∈ c.outbox.list, Carta x
  ticks : ∀ x ∈ c.outbox.list, x.tick ≤ c.relogio

/-- Only `MQTT_EVENT_CONNECTED` sets the firmware's flag. -/
theorem sConnected_of_evento {e : EventoMqtt} (he : e ≠ .connected)
    (h : (espMqttDispatchEvent cfg e c).aplicacao.sConnected = true) :
    c.aplicacao.sConnected = true := by
  cases e with
  | connected => exact absurd rfl he
  | disconnected => cases h
  | error => cases h
  | _ => exact h

theorem Micro.conexao (h : Micro cfg le c c')
    (hc : c.aplicacao.sConnected = true → c.state = .connected) :
    c'.aplicacao.sConnected = true → c'.state = .connected := by
  cases h with
  | evento e he => exact fun hflag => hc (sConnected_of_evento he hflag)
  | aborta => exact fun hflag => by cases hflag
  | recomeca _ hwait =>
      intro hflag
      rw [hc hflag] at hwait
      cases hwait
  | renova _ hwait =>
      intro hflag
      rw [hc hflag] at hwait
      cases hwait
  | _ => exact hc

theorem Micro.tamanho (h : Micro cfg le c c') (hc : c.outbox.Coerente) : c'.outbox.Coerente := by
  cases h with
  | poe x mqttState carta => exact insere_coerente hc x
  | retoca l₁ l₂ x y hl hxy =>
      have hpeso : peso y = peso x := by
        cases hxy with
        | repetida => exact length_mqttSetDup x.buffer
        | _ => rfl
      rw [Outbox.Coerente, hl] at hc
      rw [Outbox.Coerente]
      dsimp only
      simp only [List.map_append, List.map_cons, List.sum_append, List.sum_cons] at hc ⊢
      rw [hc, hpeso]
  | responde _ x outbox tipo htira => exact htira.coerente hc
  | expira => exact outboxDeleteExpired_coerente hc _ _
  | descarta x outbox htira => exact htira.coerente hc
  | _ => exact hc

theorem Retoca.carta {t : ℕ} {x y : OutboxItem} (h : Retoca t x y) (hx : Carta x) : Carta y := by
  have hsame : ∀ y : OutboxItem, y.buffer = x.buffer → y.msgType = x.msgType →
      y.msgQos = x.msgQos → y.msgId = x.msgId → Carta y := by
    intro y hbuffer htype hqos hid
    cases hx with
    | publish pk hb ht hq hi =>
        exact .publish pk (hbuffer.trans hb) (htype.trans ht) (hq.trans hqos.symm)
          (hi.trans hid.symm)
    | subscribe q hb ht hf hi =>
        exact .subscribe q (hbuffer.trans hb) (htype.trans ht) hf (hid ▸ hi)
  cases h with
  | repetida htype hqos =>
      cases hx with
      | publish pk hb ht hq hi =>
          refine .publish pk.repetido ?_ ht (pk.qos_repetido.trans hq) hi
          rw [PacotePublish.bytes_repetido, ← hb]
      | subscribe q hb ht =>
          rw [ht] at htype
          cases htype
  | _ => exact hsame _ rfl rfl rfl rfl

theorem Micro.cartas (h : Micro cfg le c c') (hc : ∀ x ∈ c.outbox.list, Carta x) :
    ∀ x ∈ c'.outbox.list, Carta x := by
  cases h with
  | poe x mqttState carta =>
      intro y hy
      rcases List.mem_append.mp hy with hold | hnew
      · exact hc y hold
      · rw [List.mem_singleton.mp hnew]
        exact carta
  | retoca l₁ l₂ x y hl hxy =>
      rw [hl] at hc
      intro z hz
      rcases List.mem_append.mp hz with hz₁ | hz₂
      · exact hc z (List.mem_append_left _ hz₁)
      · rcases List.mem_cons.mp hz₂ with rfl | hz₃
        · exact hxy.carta (hc x (by simp))
        · exact hc z (by simp [hz₃])
  | responde _ x outbox tipo htira => exact fun y hy => hc y (htira.sublist.subset hy)
  | expira =>
      intro y hy
      rw [outboxDeleteExpired_list] at hy
      exact hc y (List.mem_of_mem_filter hy)
  | descarta x outbox htira => exact fun y hy => hc y (htira.sublist.subset hy)
  | _ => exact hc

theorem Micro.relogio (h : Micro cfg le c c') : c.relogio ≤ c'.relogio := by
  cases h with
  | tempo d => exact Nat.le_add_right _ _
  | recomeca d => exact Nat.le_add_right _ _
  | pong _ id d => exact Nat.le_add_right _ _
  | _ => exact le_rfl

theorem Retoca.tick_le {t : ℕ} {x y : OutboxItem} (h : Retoca t x y) (hx : x.tick ≤ t) :
    x.tick ≤ y.tick ∧ y.tick ≤ t := by
  cases h with
  | tick => exact ⟨hx, le_rfl⟩
  | _ => exact ⟨le_rfl, hx⟩

theorem Micro.ticks (h : Micro cfg le c c') (hc : ∀ x ∈ c.outbox.list, x.tick ≤ c.relogio) :
    ∀ x ∈ c'.outbox.list, x.tick ≤ c'.relogio := by
  have hle := h.relogio
  cases h with
  | poe x mqttState carta htick =>
      intro y hy
      rcases List.mem_append.mp hy with hold | hnew
      · exact hc y hold
      · rw [List.mem_singleton.mp hnew]
        exact htick.le
  | retoca l₁ l₂ x y hl hxy =>
      rw [hl] at hc
      intro z hz
      rcases List.mem_append.mp hz with hz₁ | hz₂
      · exact hc z (List.mem_append_left _ hz₁)
      · rcases List.mem_cons.mp hz₂ with rfl | hz₃
        · exact (hxy.tick_le (hc x (by simp))).2
        · exact hc z (by simp [hz₃])
  | responde _ x outbox tipo htira => exact fun y hy => hc y (htira.sublist.subset hy)
  | expira =>
      intro y hy
      rw [outboxDeleteExpired_list] at hy
      exact hc y (List.mem_of_mem_filter hy)
  | descarta x outbox htira => exact fun y hy => hc y (htira.sublist.subset hy)
  | _ => exact fun x hx => (hc x hx).trans hle

theorem Micro.ordem (h : Micro cfg le c c') (hc : c.Ordem) : c'.Ordem where
  conexao := h.conexao hc.conexao
  tamanho := h.tamanho hc.tamanho
  cartas := h.cartas hc.cartas
  ticks := h.ticks hc.ticks

theorem ordem_tenta (c : Cliente) (d : ℕ) (hc : c.Ordem) : (c.tenta d).Ordem :=
  ⟨hc.conexao, hc.tamanho, hc.cartas, fun x hx => (hc.ticks x hx).trans (Nat.le_add_right _ _)⟩

theorem Rodada.ordem (h : Rodada cfg c c') (hc : c.Ordem) : c'.Ordem :=
  h.induz Micro.ordem ordem_tenta
    (fun _ hc => ⟨fun _ => rfl, hc.tamanho, hc.cartas, hc.ticks⟩)
    (fun _ _ hc => ⟨hc.conexao, hc.tamanho, hc.cartas, hc.ticks⟩) hc

theorem ordem_novo (n : ℕ) (mundo : Mundo) : (Cliente.novo n mundo).Ordem where
  conexao := fun h => by cases h
  tamanho := rfl
  cartas := fun x hx => by cases hx
  ticks := fun x hx => by cases hx

/-- **The firmware publishes only on a connection, and the outbox is in order**: in every
state that a run can reach, `s_connected` says no more than that the client is
connected, the size of the outbox is that of the bytes in it, and each of these messages
is one whole packet that carries its type, its id and its quality of service. -/
theorem corre_ordem {n : ℕ} (hn : mqttBufferSizeByte ≤ n) (hn' : n ≤ 65536) (mundo : Mundo)
    {as : List Acao} (has : ∀ a ∈ as, a.Segura) :
    (corre cfg as (Cliente.novo n mundo)).Ordem :=
  corre_induz Rodada.ordem has (limpa_novo hn hn' mundo) (ordem_novo n mundo)

theorem sessao_ordem :
    (corre cfgDeSessao sessao (Cliente.novo mqttBufferSizeByte mundoQuieto)).Ordem :=
  corre_ordem le_rfl (by decide) mundoQuieto (sessaoCom_segura 8)

/-! ## No message is lost without a reason -/

/-- What has become of a message of key `k` that was in the outbox at time `t`, when
`novos` are the packets that have come since. -/
inductive Fim (k : Chave) (t : ℕ) (novos : List (Option MqttMessageType × UInt16))
    (c : Cliente) : Prop
  | espera (x : OutboxItem) (mem : x ∈ c.outbox.list) (chave : x.chave = k) (tick : t ≤ x.tick)
  | respondida (tipo : Option MqttMessageType) (responde : Responde tipo k.msgType)
      (veio : (tipo, k.msgId) ∈ novos)
  | velha (idade : t + outboxExpiredTimeoutMs < c.relogio)
  | semResposta (tipo : k.msgType = some .publish) (qos : k.msgQos = 0)

/-- The same, from the packets `antes` on. -/
def Destino (k : Chave) (t : ℕ) (antes : List (Option MqttMessageType × UInt16))
    (c : Cliente) : Prop :=
  ∃ novos, c.recebidos = novos ++ antes ∧ Fim k t novos c

/-- Only the message that still waits has anything before it. -/
theorem Fim.passa {k : Chave} {t : ℕ} {novos novos' : List (Option MqttMessageType × UInt16)}
    (h : Fim k t novos c) (hclock : c.relogio ≤ c'.relogio) (hnew : novos ⊆ novos')
    (hitem : ∀ x ∈ c.outbox.list, x.chave = k → t ≤ x.tick → Fim k t novos' c') :
    Fim k t novos' c' := by
  cases h with
  | espera x hx hkey htick => exact hitem x hx hkey htick
  | respondida tipo hresp hmem => exact .respondida tipo hresp (hnew hmem)
  | velha hage => exact .velha (by omega)
  | semResposta htype hqos => exact .semResposta htype hqos

/-- A step that leaves the outbox alone. -/
theorem Destino.mono {k : Chave} {t : ℕ} {antes : List (Option MqttMessageType × UInt16)}
    (h : Destino k t antes c) (hout : c'.outbox = c.outbox) (hclock : c.relogio ≤ c'.relogio)
    (veio : List (Option MqttMessageType × UInt16))
    (hnew : c'.recebidos = veio ++ c.recebidos) : Destino k t antes c' := by
  obtain ⟨novos, hc, hfim⟩ := h
  refine ⟨veio ++ novos, by rw [hnew, hc, List.append_assoc], ?_⟩
  exact hfim.passa hclock (List.subset_append_right _ _) fun x hx hkey htick =>
    .espera x (hout ▸ hx) hkey htick

theorem Retoca.chave {t : ℕ} {x y : OutboxItem} (h : Retoca t x y) : y.chave = x.chave := by
  cases h with
  | repetida => simp only [OutboxItem.chave, mqttSetDup_idem]
  | _ => rfl

theorem Micro.destino {k : Chave} {t : ℕ} {antes : List (Option MqttMessageType × UInt16)}
    (h : Micro cfg le c c') (hticks : ∀ x ∈ c.outbox.list, x.tick ≤ c.relogio)
    (hc : Destino k t antes c) : Destino k t antes c' := by
  have hclock := h.relogio
  obtain ⟨novos, hrec, hfim⟩ := hc
  cases h with
  | poe x mqttState carta =>
      refine ⟨novos, hrec, hfim.passa hclock (List.Subset.refl _) fun y hy hkey htick => ?_⟩
      exact .espera y (List.mem_append_left _ hy) hkey htick
  | retoca l₁ l₂ x y hl hxy =>
      refine ⟨novos, hrec, hfim.passa hclock (List.Subset.refl _) fun z hz hkey htick => ?_⟩
      rw [hl] at hticks
      rw [hl, List.mem_append, List.mem_cons] at hz
      rcases hz with hz | rfl | hz
      · exact .espera z (by simp [hz]) hkey htick
      · exact .espera y (by simp) (hxy.chave.trans hkey)
          (htick.trans (hxy.tick_le (hticks z (by simp))).1)
      · exact .espera z (by simp [hz]) hkey htick
  | responde _ x outbox tipo htira hresp =>
      refine ⟨(tipo, x.msgId) :: novos, by rw [hrec, List.cons_append],
        hfim.passa hclock (List.subset_cons_self _ _) fun y hy hkey htick => ?_⟩
      rcases htira.mem hy with rfl | hleft
      · rw [← hkey]
        exact .respondida tipo hresp List.mem_cons_self
      · exact .espera y hleft hkey htick
  | expira =>
      refine ⟨novos, hrec, hfim.passa hclock (List.Subset.refl _) fun y hy hkey htick => ?_⟩
      by_cases hold : expirou c.relogio outboxExpiredTimeoutMs y = true
      · have hage : y.tick + outboxExpiredTimeoutMs < c.relogio := of_decide_eq_true hold
        exact .velha (show t + outboxExpiredTimeoutMs < c.relogio by omega)
      · refine .espera y ?_ hkey htick
        rw [outboxDeleteExpired_list]
        exact List.mem_filter.mpr ⟨hy, by simpa using hold⟩
  | descarta x outbox htira htype hqos =>
      refine ⟨novos, hrec, hfim.passa hclock (List.Subset.refl _) fun y hy hkey htick => ?_⟩
      rcases htira.mem hy with rfl | hleft
      · rw [← hkey]
        exact .semResposta htype hqos
      · exact .espera y hleft hkey htick
  | recebe _ tipo id => exact Destino.mono ⟨novos, hrec, hfim⟩ rfl hclock [(tipo, id)] rfl
  | pong _ id d => exact Destino.mono ⟨novos, hrec, hfim⟩ rfl hclock [(some .pingresp, id)] rfl
  | _ => exact Destino.mono ⟨novos, hrec, hfim⟩ rfl hclock [] rfl

/-- **A message that waits is not lost without a reason**: from any state in order, in
which it is in the outbox, a run leads to one in which it still is, with its bytes up
to the DUP flag, its id, its type and its quality of service; or a packet of the type
that answers it has come with its id; or more than `OUTBOX_EXPIRED_TIMEOUT_MS` have gone
since it was last sent; or it is a publication that waits for no answer. -/
theorem corre_destino {as : List Acao} (has : ∀ a ∈ as, a.Segura)
    (hc : Limpa c.mqttState.connection) (hordem : c.Ordem) {x : OutboxItem}
    (hx : x ∈ c.outbox.list) : Destino x.chave x.tick c.recebidos (corre cfg as c) := by
  have hstart : c.Ordem ∧ Destino x.chave x.tick c.recebidos c :=
    ⟨hordem, [], rfl, .espera x hx rfl le_rfl⟩
  refine (corre_induz (P := fun c' => c'.Ordem ∧ Destino x.chave x.tick c.recebidos c')
    (fun hround hstep => ?_) has hc hstart).2
  refine hround.induz (P := fun c' => c'.Ordem ∧ Destino x.chave x.tick c.recebidos c')
    (fun hmicro h => ⟨hmicro.ordem h.1, hmicro.destino h.1.ticks h.2⟩) ?_ ?_ ?_ hstep
  · exact fun c₁ d h => ⟨ordem_tenta c₁ d h.1, h.2.mono rfl (Nat.le_add_right _ _) [] rfl⟩
  · exact fun c₁ h =>
      ⟨⟨fun _ => rfl, h.1.tamanho, h.1.cartas, h.1.ticks⟩, h.2.mono rfl le_rfl [] rfl⟩
  · exact fun c₁ _ h =>
      ⟨⟨h.1.conexao, h.1.tamanho, h.1.cartas, h.1.ticks⟩, h.2.mono rfl le_rfl [] rfl⟩

theorem topicoDeTeste_curto : [(116 : UInt8)].length < 65536 := by decide

def pacoteDeTeste (id : UInt16) : PacotePublish :=
  .novo [116] id [120] (Nat.lt_succ_of_lt Nat.one_lt_two) 0 (List.cons_ne_nil _ _)
    topicoDeTeste_curto

/-- A publication that waits from before the session. -/
def cartaDeTeste (id : UInt16) : OutboxItem where
  buffer := (pacoteDeTeste id).bytes
  msgId := id
  msgType := some .publish
  msgQos := 1
  tick := 0
  pending := .transmitted

def comCartaDeTeste : Cliente :=
  { Cliente.novo mqttBufferSizeByte mundoQuieto with outbox := Outbox.insere (cartaDeTeste 5) {} }

theorem carta_cartaDeTeste (id : UInt16) : Carta (cartaDeTeste id) :=
  .publish (pacoteDeTeste id) rfl rfl (PacotePublish.qos_novo [120] _ 0 _ _ id) rfl

theorem limpa_comCartaDeTeste : Limpa comCartaDeTeste.mqttState.connection :=
  limpa_novo le_rfl (by decide) mundoQuieto

theorem ordem_comCartaDeTeste : comCartaDeTeste.Ordem := by
  constructor
  · exact nofun
  · rfl
  · rintro x (_ | ⟨_, hx⟩)
    · exact carta_cartaDeTeste 5
    · cases hx
  · rintro x (_ | ⟨_, hx⟩)
    · exact Nat.zero_le _
    · cases hx

theorem sessao_destino :
    Destino (cartaDeTeste 5).chave (cartaDeTeste 5).tick comCartaDeTeste.recebidos
      (corre cfgDeSessao sessao comCartaDeTeste) :=
  corre_destino (sessaoCom_segura 8) limpa_comCartaDeTeste ordem_comCartaDeTeste List.mem_cons_self

/-! ## The outbox is a queue -/

/-- Since `c`, the messages `novas` have been put into the outbox. What is in it are old
messages and behind them new ones, with some gone. -/
def Fila (c c' : Cliente) : Prop :=
  ∃ novas, c'.postas = novas.reverse ++ c.postas ∧
    c'.outbox.chaves.Sublist (c.outbox.chaves ++ novas)

/-- Nothing has been put in. -/
theorem fila_of_sublist (hpostas : c'.postas = c.postas)
    (hsub : c'.outbox.chaves.Sublist c.outbox.chaves) : Fila c c' :=
  ⟨[], hpostas, by rwa [List.append_nil]⟩

theorem Fila.refl (c : Cliente) : Fila c c := fila_of_sublist rfl (List.Sublist.refl _)

theorem Fila.trans {c'' : Cliente} (h : Fila c c') (h' : Fila c' c'') : Fila c c'' := by
  obtain ⟨novas, hpostas, hsub⟩ := h
  obtain ⟨novas', hpostas', hsub'⟩ := h'
  refine ⟨novas ++ novas', ?_, ?_⟩
  · rw [hpostas', hpostas, List.reverse_append, List.append_assoc]
  · rw [← List.append_assoc]
    exact hsub'.trans (hsub.append (List.Sublist.refl novas'))

theorem Micro.fila (h : Micro cfg le c c') : Fila c c' := by
  cases h with
  | poe x mqttState =>
      have hkeys : (c.outbox.insere x).chaves = c.outbox.chaves ++ [x.chave] := List.map_append
      exact ⟨[x.chave], rfl, hkeys ▸ List.Sublist.refl _⟩
  | retoca l₁ l₂ x y hl hxy =>
      have hsame : (l₁ ++ y :: l₂).map OutboxItem.chave = c.outbox.chaves := by
        simp [Outbox.chaves, hl, hxy.chave]
      exact fila_of_sublist rfl (hsame ▸ List.Sublist.refl _)
  | responde _ x outbox tipo htira => exact fila_of_sublist rfl (htira.sublist.map _)
  | expira =>
      refine fila_of_sublist rfl ?_
      rw [Outbox.chaves, outboxDeleteExpired_list]
      exact List.filter_sublist.map _
  | descarta x outbox htira => exact fila_of_sublist rfl (htira.sublist.map _)
  | _ => exact .refl c

/-- **Messages never overtake one another**: whatever a run does, the outbox is in the
order in which it was filled. In front are messages of those it began with (`restam`), in
their order, and behind them messages of those that `mqtt_enqueue` has put in since
(`chegaram`), in theirs. -/
theorem corre_fila {as : List Acao} (has : ∀ a ∈ as, a.Segura)
    (hc : Limpa c.mqttState.connection) :
    ∃ restam chegaram novas,
      (corre cfg as c).outbox.chaves = restam ++ chegaram ∧
      restam.Sublist c.outbox.chaves ∧ chegaram.Sublist novas ∧
      (corre cfg as c).postas = novas.reverse ++ c.postas := by
  have hfila : Fila c (corre cfg as c) := by
    refine corre_induz (P := Fila c) (fun hround h => ?_) has hc (.refl c)
    exact hround.induz (P := Fila c) (fun hstep h => h.trans hstep.fila) (fun _ _ h => h)
      (fun _ h => h) (fun _ _ h => h) h
  obtain ⟨novas, hpostas, hsub⟩ := hfila
  obtain ⟨restam, chegaram, heq, hold, hnew⟩ := List.sublist_append_iff.mp hsub
  exact ⟨restam, chegaram, novas, heq, hold, hnew, hpostas⟩

/-- Two publications that wait from before the session. -/
def comDuasCartas : Cliente :=
  { Cliente.novo mqttBufferSizeByte mundoQuieto with
    outbox := Outbox.insere (cartaDeTeste 6) (Outbox.insere (cartaDeTeste 5) {}) }

/-- The PUBACK is for the first of the two. Behind the other are the SUBSCRIBE of the
session and its publication. -/
theorem sessao_fila :
    let fim := corre cfgDeSessao (sessaoCom 5) comDuasCartas
    (∃ restam chegaram novas,
      fim.outbox.chaves = restam ++ chegaram ∧
      restam.Sublist comDuasCartas.outbox.chaves ∧ chegaram.Sublist novas ∧
      fim.postas = novas.reverse ++ comDuasCartas.postas) ∧
    comDuasCartas.outbox.chaves.map (·.msgId) = [5, 6] ∧
      fim.outbox.chaves.map (·.msgId) = [6, 7, 8] :=
  ⟨corre_fila (sessaoCom_segura 5) (limpa_novo le_rfl (by decide) mundoQuieto), by decide,
    by decide⟩

/-! ## Attempts to connect -/

/-- The attempts so far, each more than `reconnect_timeout_ms` behind the one before it;
and what the client knows of the last one while it waits. -/
structure Espacado (cfg : Config) (c : Cliente) : Prop where
  longe : c.tentativas.Pairwise fun t' t => t + cfg.reconnectTimeoutMs < t'
  passadas : ∀ t ∈ c.tentativas, t ≤ c.relogio
  espera : c.state = .waitReconnect →
    c.waitTimeoutMs = cfg.reconnectTimeoutMs ∧ ∀ t ∈ c.tentativas, t ≤ c.reconnectTick

/-- Before an attempt, the wait is over. -/
def Pronto (cfg : Config) (c : Cliente) : Prop :=
  c.state = .init → ∀ t ∈ c.tentativas, t + cfg.reconnectTimeoutMs < c.relogio

theorem Micro.espacado (h : Micro cfg le c c') (hc : Espacado cfg c) : Espacado cfg c' := by
  have hclock := h.relogio
  have hpast : ∀ t ∈ c.tentativas, t ≤ c'.relogio := fun t ht =>
    (hc.passadas t ht).trans hclock
  cases h with
  | aborta => exact ⟨hc.longe, hpast, fun _ => ⟨rfl, hc.passadas⟩⟩
  | recomeca => exact ⟨hc.longe, hpast, fun hwait => by cases hwait⟩
  | renova => exact ⟨hc.longe, hpast, fun hwait => by cases hwait⟩
  | _ => exact ⟨hc.longe, hpast, hc.espera⟩

theorem Micro.pronto (hcfg : cfg.refreshConnectionAfterMs = 0) (h : Micro cfg le c c')
    (hc : Espacado cfg c) (hp : Pronto cfg c) : Pronto cfg c' := by
  have hclock := h.relogio
  cases h with
  | aborta => exact fun hinit => by cases hinit
  | recomeca d hwait hlate =>
      intro _ t ht
      obtain ⟨htimeout, hlast⟩ := hc.espera hwait
      have := hlast t ht
      rw [htimeout] at hlate
      change t + cfg.reconnectTimeoutMs < c.relogio + d
      omega
  | renova hrefresh => exact absurd hcfg hrefresh
  | _ => exact fun hinit t ht => (hp hinit t ht).trans_le hclock

theorem Faz.espacado (h : Faz cfg le c c') (hc : Espacado cfg c) : Espacado cfg c' :=
  h.induz Micro.espacado hc

theorem Faz.pronto (hcfg : cfg.refreshConnectionAfterMs = 0) (h : Faz cfg le c c')
    (hc : Espacado cfg c) (hp : Pronto cfg c) : Pronto cfg c' :=
  (h.induz (P := fun c => Espacado cfg c ∧ Pronto cfg c)
    (fun hm h => ⟨hm.espacado h.1, hm.pronto hcfg h.1 h.2⟩) ⟨hc, hp⟩).2

theorem espacado_tenta (d : ℕ) (hinit : c.state = .init) (hc : Espacado cfg c)
    (hp : Pronto cfg c) : Espacado cfg (c.tenta d) where
  longe := List.Pairwise.cons
    (fun t ht => (hp hinit t ht).trans_le (Nat.le_add_right _ _)) hc.longe
  passadas := by
    rintro t (_ | ⟨_, ht⟩)
    · exact le_rfl
    · exact (hc.passadas t ht).trans (Nat.le_add_right _ _)
  espera := fun hwait => by
    have hsame : c.state = .waitReconnect := hwait
    rw [hinit] at hsame
    cases hsame

theorem Rodada.espacado (hcfg : cfg.refreshConnectionAfterMs = 0) (h : Rodada cfg c c')
    (hc : Espacado cfg c ∧ Pronto cfg c) : Espacado cfg c' ∧ Pronto cfg c' := by
  obtain ⟨hs, hp⟩ := hc
  cases h with
  | faz h => exact ⟨h.espacado hs, h.pronto hcfg hs hp⟩
  | falha c₁ d antes init depois fim =>
      have htry := espacado_tenta d init (antes.espacado hs) (antes.pronto hcfg hs hp)
      exact ⟨depois.espacado htry, fun hinit => absurd hinit fim⟩
  | liga c₁ c₂ c₃ d refresh antes init tentativa init' inscreve depois fim =>
      have htry := espacado_tenta d init (antes.espacado hs) (antes.pronto hcfg hs hp)
      have h₂ := tentativa.espacado htry
      have hon : Espacado cfg (c₂.liga cfg) := ⟨h₂.longe, h₂.passadas, fun hwait => by cases hwait⟩
      have h₃ := inscreve.espacado hon
      have hmark : Espacado cfg (c₃.marca refresh) := ⟨h₃.longe, h₃.passadas, h₃.espera⟩
      exact ⟨depois.espacado hmark, fun hinit => by rw [fim] at hinit; cases hinit⟩

/-- **The broker is not stormed**: in every run of a client that does not refresh its
connections, any two calls of `esp_transport_connect` are more than
`reconnect_timeout_ms` apart, whatever makes the connections fail. -/
theorem corre_tentativas (hcfg : cfg.refreshConnectionAfterMs = 0) {n : ℕ}
    (hn : mqttBufferSizeByte ≤ n) (hn' : n ≤ 65536) (mundo : Mundo) {as : List Acao}
    (has : ∀ a ∈ as, a.Segura) :
    (corre cfg as (Cliente.novo n mundo)).tentativas.Pairwise
      fun t' t => t + cfg.reconnectTimeoutMs < t' := by
  have hnone : ∀ t, t ∉ (Cliente.novo n mundo).tentativas := fun _ => List.not_mem_nil
  have hstart : Espacado cfg (Cliente.novo n mundo) :=
    ⟨List.Pairwise.nil, fun t ht => absurd ht (hnone t), fun hwait => by cases hwait⟩
  exact (corre_induz (Rodada.espacado hcfg) has (limpa_novo hn hn' mundo)
    ⟨hstart, fun _ t ht => absurd ht (hnone t)⟩).1.longe

/-- The transport does not connect, and does not connect again after the wait. -/
def semTransporte : List Acao :=
  let falha : Acao := .tarefa { mundoQuieto with avancos := [100, 100, 100], conecta := false }
  [falha, .tarefa { mundoQuieto with avancos := [100, 6000] }, falha]

theorem semTransporte_tentativas :
    ((corre cfgDeSessao semTransporte (Cliente.novo mqttBufferSizeByte mundoQuieto)).tentativas.Pairwise
      fun t' t => t + cfgDeSessao.reconnectTimeoutMs < t') ∧
    (corre cfgDeSessao semTransporte (Cliente.novo mqttBufferSizeByte mundoQuieto)).tentativas =
      [6600, 200] := by
  refine ⟨corre_tentativas rfl le_rfl (by decide) mundoQuieto ?_, by decide⟩
  simp only [semTransporte, List.forall_mem_cons]
  exact ⟨trivial, trivial, trivial, nofun⟩

/-! ## A broker that has gone silent -/

/-- The PINGRESPs that have come and the attempts to connect that were made. -/
def Cliente.sinais (c : Cliente) : ℕ :=
  c.tentativas.length + c.recebidos.countP fun r => r.1 == some .pingresp

/-- Unless there has been a sign, a connection is the one there was: its clock runs, and
a PINGRESP that was waited for still is. -/
structure Calado (c c' : Cliente) : Prop where
  sinais : c.sinais ≤ c'.sinais
  ligado : c'.sinais = c.sinais → c'.state = .connected →
    c.state = .connected ∧ c'.keepaliveTick = c.keepaliveTick ∧
      (c.waitForPingResp = true → c'.waitForPingResp = true)

theorem Calado.refl (c : Cliente) : Calado c c := ⟨le_rfl, fun _ h => ⟨h, rfl, id⟩⟩

theorem Calado.trans {c'' : Cliente} (h : Calado c c') (h' : Calado c' c'') : Calado c c'' := by
  refine ⟨h.sinais.trans h'.sinais, fun hsigns hstate => ?_⟩
  have h₁ := h.sinais
  have h₂ := h'.sinais
  obtain ⟨hstate', htick', hwait'⟩ := h'.ligado (by omega) hstate
  obtain ⟨hstate₀, htick₀, hwait₀⟩ := h.ligado (by omega) hstate'
  exact ⟨hstate₀, htick'.trans htick₀, fun hw => hwait' (hwait₀ hw)⟩

theorem Micro.calado (h : Micro cfg le c c') : Calado c c' := by
  have hmore : ∀ r, c.sinais ≤ c.tentativas.length +
      (r :: c.recebidos).countP fun r => r.1 == some .pingresp := fun r =>
    Nat.add_le_add_left ((List.sublist_cons_self _ _).countP_le) _
  cases h with
  | espera w hw =>
      refine ⟨le_rfl, fun _ hstate => ⟨hstate, rfl, fun _ => ?_⟩⟩
      exact hw.resolve_right fun hoff => hoff hstate
  | aborta => exact ⟨le_rfl, fun _ hstate => by cases hstate⟩
  | recomeca => exact ⟨le_rfl, fun _ hstate => by cases hstate⟩
  | renova => exact ⟨le_rfl, fun _ hstate => by cases hstate⟩
  | recebe _ tipo msgId => exact ⟨hmore _, fun _ hstate => ⟨hstate, rfl, id⟩⟩
  | pong _ id d =>
      have hone : c.sinais + 1 = c.tentativas.length +
          ((some .pingresp, id) :: c.recebidos).countP fun r => r.1 == some .pingresp := by
        rw [List.countP_cons_of_pos (by rfl), Cliente.sinais]
        omega
      refine ⟨hmore _, fun hsigns => ?_⟩
      have hsame : c.tentativas.length +
          ((some .pingresp, id) :: c.recebidos).countP (fun r => r.1 == some .pingresp) =
            c.sinais := hsigns
      omega
  | responde _ x outbox tipo => exact ⟨hmore _, fun _ hstate => ⟨hstate, rfl, id⟩⟩
  | _ => exact ⟨le_rfl, fun _ hstate => ⟨hstate, rfl, id⟩⟩

theorem Faz.calado (h : Faz cfg le c c') : Calado c c' := by
  induction h with
  | refl => exact .refl c
  | tail _ hstep ih => exact ih.trans hstep.calado

theorem Faz.relogio (h : Faz cfg le c c') : c.relogio ≤ c'.relogio := by
  induction h with
  | refl => exact le_rfl
  | tail _ hstep ih => exact ih.trans hstep.relogio

/-- An attempt to connect is a sign. -/
theorem sinais_tenta (c : Cliente) (d : ℕ) : (c.tenta d).sinais = c.sinais + 1 := by
  simp only [Cliente.sinais, Cliente.tenta, List.length_cons]
  omega

theorem calado_of_lt (h : c.sinais < c'.sinais) : Calado c c' :=
  ⟨h.le, fun hsigns => by omega⟩

theorem Rodada.calado (h : Rodada cfg c c') : Calado c c' := by
  cases h with
  | faz h => exact h.calado
  | falha c₁ d antes init depois fim =>
      have h₁ := antes.calado.sinais
      have h₂ := depois.calado.sinais
      rw [sinais_tenta] at h₂
      exact calado_of_lt (by omega)
  | liga c₁ c₂ c₃ d refresh antes init tentativa init' inscreve depois fim =>
      have h₁ := antes.calado.sinais
      have h₂ := tentativa.calado.sinais
      rw [sinais_tenta] at h₂
      have h₃ : c₂.sinais ≤ c₃.sinais := inscreve.calado.sinais
      have h₄ : c₃.sinais ≤ c'.sinais := depois.calado.sinais
      exact calado_of_lt (by omega)

theorem processKeepalive_ligado (hk : 0 < cfg.information.keepalive)
    (hlate : c.keepaliveTick + cfg.keepaliveMs / 2 ≤ c.relogio)
    (hstate : (processKeepalive cfg c).2.state = .connected) :
    (processKeepalive cfg c).2.waitForPingResp = true ∧
      (c.waitForPingResp = true → c.relogio < c.keepaliveTick + cfg.keepaliveMs) := by
  have hclock : c.relogio ≤ (platformTickGetMs c).1 := Nat.le_add_right _ _
  have htime : ∀ t, t ≤ c.relogio → decide (t ≤ (platformTickGetMs c).1) = true := fun t ht =>
    decide_eq_true (ht.trans hclock)
  unfold processKeepalive hasTimedOut at hstate ⊢
  rw [if_pos hk] at hstate ⊢
  dsimp only at hstate ⊢
  by_cases hwait : c.waitForPingResp = true
  · rw [if_pos hwait] at hstate ⊢
    by_cases hlong : c.relogio < c.keepaliveTick + cfg.keepaliveMs
    · split at hstate
      · cases hstate
      · rw [if_neg ‹_›]
        exact ⟨hwait, fun _ => hlong⟩
    · rw [if_pos (htime _ (not_lt.mp hlong))] at hstate
      cases hstate
  · rw [if_neg hwait, if_pos (htime _ hlate)] at hstate ⊢
    split at hstate
    · cases hstate
    · rw [if_neg ‹_›]
      exact ⟨rfl, fun h => absurd h hwait⟩

/-- A round in which the broker is silent for half of the keepalive time, or longer. -/
theorem espMqttTask_calado (hk : 0 < cfg.information.keepalive)
    (hstate : c.state = .connected)
    (hlate : c.keepaliveTick + cfg.keepaliveMs / 2 ≤ c.relogio)
    (hsigns : (espMqttTask cfg c).sinais = c.sinais)
    (hend : (espMqttTask cfg c).state = .connected) :
    (espMqttTask cfg c).waitForPingResp = true ∧
      (c.waitForPingResp = true → c.relogio < c.keepaliveTick + cfg.keepaliveMs) := by
  have hexpired : Faz cfg true c (mqttDeleteExpiredMessages c) := mqttDeleteExpiredMessages_faz
  have hstate₀ : (mqttDeleteExpiredMessages c).state = .connected := hstate
  unfold espMqttTask at hsigns hend ⊢
  dsimp only at hsigns hend ⊢
  rw [hstate₀] at hsigns hend ⊢
  dsimp only at hsigns hend ⊢
  generalize mqttDeleteExpiredMessages c = c₀ at *
  have hreceive : Faz cfg true c (mqttProcessReceive cfg (c₀.comReceptor
      { c₀.mqttState.receptor with
        entrada := c₀.mqttState.receptor.entrada ++ c₀.mundo.chega })).2 :=
    (hexpired.trans (comReceptor_faz _)).trans mqttProcessReceive_faz
  generalize mqttProcessReceive cfg (c₀.comReceptor
    { c₀.mqttState.receptor with
      entrada := c₀.mqttState.receptor.entrada ++ c₀.mundo.chega }) = r at *
  split at hend
  · cases hend
  next hok =>
    rw [if_neg hok] at hsigns ⊢
    have hreach : Faz cfg true c (reenvia cfg (primeiraVez r.2)) := hreceive.trans ateKeepalive_faz
    have hclock := Faz.relogio hreach
    have hkeepalive : Faz cfg true (reenvia cfg (primeiraVez r.2))
        (processKeepalive cfg (reenvia cfg (primeiraVez r.2))).2 := processKeepalive_faz
    have hrefresh : Faz cfg true (processKeepalive cfg (reenvia cfg (primeiraVez r.2))).2
        (voltaConectada cfg r.2) := depoisKeepalive_faz
    have hbefore := Faz.calado hreach
    have hkeep := Faz.calado hkeepalive
    have hafter := Faz.calado hrefresh
    have hvolta : (voltaConectada cfg r.2).sinais = c.sinais := hsigns
    have h₁ := hbefore.sinais
    have h₂ := hkeep.sinais
    have h₃ := hafter.sinais
    obtain ⟨hstate₃, -, hwait₃⟩ := hafter.ligado (by omega) hend
    obtain ⟨hstate₂, -, -⟩ := hkeep.ligado (by omega) hstate₃
    obtain ⟨-, htick, hwait⟩ := hbefore.ligado (by omega) hstate₂
    obtain ⟨hping, hlong⟩ := processKeepalive_ligado hk (by omega) hstate₃
    exact ⟨hwait₃ hping, fun hw => by have := hlong (hwait hw); omega⟩

theorem corre_calado (cfg : Config) {as : List Acao} (has : ∀ a ∈ as, a.Segura)
    (hc : Limpa c.mqttState.connection) : Calado c (corre cfg as c) :=
  corre_induz (fun hround h => h.trans hround.calado) has hc (.refl c)

/-- **A broker that has gone silent is given up**: if half of the keepalive time has gone
when one round begins, and all of it when a later one does, and no PINGRESP has come
and no attempt to connect was made, then the client is not connected after that later
round, whatever it was called for in between. -/
theorem silencio (hk : 0 < cfg.information.keepalive) {as : List Acao}
    (has : ∀ a ∈ as, a.Segura) (m m' : Mundo) (hc : Limpa c.mqttState.connection)
    (hpoll : c.poll = false) (hmeia : c.keepaliveTick + cfg.keepaliveMs / 2 ≤ c.relogio)
    (hpoll' : (corre cfg (.tarefa m :: as) c).poll = false)
    (hinteira : c.keepaliveTick + cfg.keepaliveMs ≤ (corre cfg (.tarefa m :: as) c).relogio)
    (hsinais : (corre cfg (.tarefa m :: as ++ [.tarefa m']) c).sinais = c.sinais) :
    (corre cfg (.tarefa m :: as ++ [.tarefa m']) c).state ≠ .connected := by
  intro hend
  have hlast : corre cfg (.tarefa m :: as ++ [.tarefa m']) c =
      passo cfg (.tarefa m') (corre cfg (.tarefa m :: as) c) := List.foldl_append
  have hfirst : corre cfg (.tarefa m :: as) c = corre cfg as (passo cfg (.tarefa m) c) := rfl
  have hround : Rodada cfg c (passo cfg (.tarefa m) c) := passo_rodada trivial hc
  have hrest := corre_calado cfg has (hround.limpa hc)
  rw [hlast] at hsinais hend
  rw [hfirst] at hsinais hend hpoll' hinteira
  have hclean : Limpa (corre cfg as (passo cfg (.tarefa m) c)).mqttState.connection :=
    corre_induz Rodada.limpa has (hround.limpa hc) (hround.limpa hc)
  generalize corre cfg as (passo cfg (.tarefa m) c) = c₂ at *
  have hround₂ : Rodada cfg c₂ (passo cfg (.tarefa m') c₂) := passo_rodada trivial hclean
  have h₁ := hround.calado.sinais
  have h₂ := hrest.sinais
  have h₃ := hround₂.calado.sinais
  -- the client is connected all the way, and waits for its PINGRESP since the first round
  obtain ⟨hstate₂, -, -⟩ := hround₂.calado.ligado (by omega) hend
  obtain ⟨hstate₁, htick₂, hwait₂⟩ := hrest.ligado (by omega) hstate₂
  obtain ⟨hstate, htick₁, -⟩ := hround.calado.ligado (by omega) hstate₁
  have hsigns₁ : (passo cfg (.tarefa m) c).sinais = c.sinais := by omega
  have hsigns₂ : (passo cfg (.tarefa m') c₂).sinais = c₂.sinais := by omega
  rw [passo_tarefa hpoll] at hstate₁ hsigns₁ hwait₂
  rw [passo_tarefa hpoll'] at hsigns₂ hend
  have hping := (espMqttTask_calado (c := c.comMundo m) hk hstate hmeia hsigns₁ hstate₁).1
  have hlong := (espMqttTask_calado (c := c₂.comMundo m') hk hstate₂
    (show c₂.keepaliveTick + cfg.keepaliveMs / 2 ≤ c₂.relogio by omega) hsigns₂ hend).2
  have := hlong (hwait₂ hping)
  change c₂.relogio < c₂.keepaliveTick + cfg.keepaliveMs at this
  omega

/-- The PINGREQ goes out after half a minute; the second round is half a minute later. -/
theorem silencio_minuto :
    let c : Cliente :=
      { Cliente.novo mqttBufferSizeByte mundoQuieto with state := .connected, relogio := 30000 }
    let m : Mundo := { mundoQuieto with avancos := [30000], escritas := [2] }
    (corre cfgDeSessao (.tarefa m :: [.poll mundoQuieto false] ++ [.tarefa mundoQuieto]) c).state ≠
      .connected := by
  refine silencio (by decide) ?_ _ _ (limpa_novo le_rfl (by decide) mundoQuieto) rfl ?_ ?_ ?_ ?_
  · rintro a (_ | ⟨_, ha⟩)
    · trivial
    · cases ha
  · decide
  · decide
  · decide
  · decide

end HidroControl.EspMqtt
