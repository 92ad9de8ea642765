import HidroControl.Base.Json
import HidroControl.Mqttclient

/-!
# The telemetry payload

Every frame that `mqttclient_publish_telemetry` can put together fits the buffer of
384 bytes, with more than a third of it to spare, and is one JSON object that a reader
takes apart into the ten members that went in (`payload_decodifica`). The values that
can occur are a `QuadroPossivel`: device ids, time stamps and modes have no character
that JSON would want escaped, and the numbers print as JSON numbers.
-/

namespace HidroControl

open CText Json

/-- The number that `%.2f` shows. -/
def duasCasas (q : ℚ) : ℚ := (Rounding.nearestEven (q * 100) : ℚ) / 100

/-- `b ? 1 : 0`. -/
def valorBit (b : Bool) : ℚ := if b then 1 else 0

/-- What a reader should get out of a frame. -/
def Quadro.json (q : Quadro) : Value :=
  .object
    [("deviceId".toList, .string q.deviceId), ("timestamp".toList, .string q.timestamp),
      ("epoch".toList, .number q.epoch), ("modo".toList, .string q.modo.toList),
      ("flowFrio".toList, .number (duasCasas q.flowFrio)),
      ("flowQuente".toList, .number (duasCasas q.flowQuente)),
      ("releFrio".toList, .number (valorBit q.releFrio)),
      ("releQuente".toList, .number (valorBit q.releQuente)),
      ("wifi".toList, .number (valorBit q.wifi)), ("mqtt".toList, .number (valorBit q.mqtt))]

/-- The arguments that the `snprintf` can get. -/
structure QuadroPossivel (A : Rounding) (q : Quadro) : Prop where
  deviceId : ∃ dev, q.deviceId = deviceidGet (.de dev)
  /-- `unsynced`, or a `struct tm` in the one format. -/
  timestamp : q.timestamp = unsynced ∨ ∃ tm, q.timestamp = strftime 40 tm
  epoch : 0 ≤ q.epoch
  epoch_lt : q.epoch < 2 ^ 63
  modo : ∃ m, q.modo = modosNome m
  flowFrio : TaxaPossivel A q.flowFrio
  flowQuente : TaxaPossivel A q.flowQuente

/-! ## Texts without anything to escape -/

theorem plain_of_isAlphanum {c : Char} (h : c.isAlphanum = true) :
    32 ≤ c.toNat ∧ c ≠ '"' ∧ c ≠ '\\' := by
  refine ⟨?_, ?_, ?_⟩
  · -- no control character is a letter or a digit
    have hall : ∀ n < 32, (Char.ofNat n).isAlphanum = false := by decide
    by_contra hlt
    have hfalse := hall c.toNat (by omega)
    rw [Char.ofNat_toNat, h] at hfalse
    cases hfalse
  · rintro rfl
    exact absurd h (by decide)
  · rintro rfl
    exact absurd h (by decide)

theorem plain_padded (w n : ℕ) : Plain (padded w n) := by
  intro c hc
  have hdigit := isDigit_of_mem_padded hc
  exact plain_of_isAlphanum (by simp [Char.isAlphanum, hdigit])

theorem plain_deviceid (dev : Option Mac) : Plain (deviceidGet (.de dev)) := by
  intro c hc
  have hnome := charDeNome_of_mem_deviceid hc
  rw [charDeNome, Bool.or_eq_true, beq_iff_eq] at hnome
  rcases hnome with h | rfl
  · exact plain_of_isAlphanum h
  · decide

theorem plain_modosNome (m : ModoOperacao) : Plain (modosNome m).toList := by
  cases m with
  | normal => decide
  | duo => decide
  | mix => decide

theorem plain_renderYear (y : ℤ) : Plain (Iso8601.renderYear y) := by
  unfold Iso8601.renderYear
  split
  · exact Plain.cons (by decide) (plain_padded _ _)
  · exact plain_padded _ _

theorem plain_strftime (len : ℕ) (tm : Tm) : Plain (strftime len tm) := by
  unfold strftime
  dsimp only
  split
  · refine Plain.append (plain_renderYear _) (Plain.cons (by decide) ?_)
    refine Plain.append (plain_padded _ _) (Plain.cons (by decide) ?_)
    refine Plain.append (plain_padded _ _) (Plain.cons (by decide) ?_)
    refine Plain.append (plain_padded _ _) (Plain.cons (by decide) ?_)
    refine Plain.append (plain_padded _ _) (Plain.cons (by decide) ?_)
    exact Plain.append (plain_padded _ _) (by decide)
  · intro c hc
    cases hc

theorem length_strftime_le {len : ℕ} (hlen : 0 < len) (tm : Tm) :
    (strftime len tm).length ≤ len - 1 := by
  unfold strftime
  dsimp only
  split
  · next h => omega
  · exact Nat.zero_le _

variable {A : Rounding} {q : Quadro}

theorem QuadroPossivel.plain_timestamp (h : QuadroPossivel A q) : Plain q.timestamp := by
  rcases h.timestamp with ht | ⟨tm, ht⟩
  · rw [ht]
    decide
  · rw [ht]
    exact plain_strftime 40 tm

theorem QuadroPossivel.length_timestamp_le (h : QuadroPossivel A q) :
    q.timestamp.length ≤ 39 := by
  rcases h.timestamp with ht | ⟨tm, ht⟩
  · rw [ht]
    decide
  · rw [ht]
    exact length_strftime_le (by omega) tm

/-! ## The numbers -/

theorem prints_bit (b : Bool) : Prints (bit b) (.number (valorBit b)) := by
  cases b with
  | false => exact_mod_cast Prints.decimal 0
  | true => exact_mod_cast Prints.decimal 1

theorem prints_decimalInt {z : ℤ} (hz : 0 ≤ z) : Prints (decimalInt z) (.number z) := by
  obtain ⟨n, rfl⟩ := Int.eq_ofNat_of_zero_le hz
  have hneg : ¬ ((n : ℤ) < 0) := by omega
  rw [decimalInt, if_neg hneg]
  exact_mod_cast Prints.decimal n

theorem prints_fixo2 {x : ℚ} (h : TaxaPossivel A x) :
    Prints (fixo2 x) (.number (duasCasas x)) := by
  have hnonneg : 0 ≤ Rounding.nearestEven (x * 100) := by
    have hnear := abs_le.mp (Rounding.nearestEven_err (x * 100))
    have hx := h.nonneg
    have hlower : (-1 : ℚ) < Rounding.nearestEven (x * 100) := by linarith
    have hlower' : -1 < Rounding.nearestEven (x * 100) := by exact_mod_cast hlower
    omega
  have hvalue : duasCasas x = (centesimos x : ℚ) / 100 := by
    rw [duasCasas, centesimos, Nat.cast_natAbs, abs_of_nonneg hnonneg]
  rw [fixo2_of_nonneg h.nonneg, hvalue]
  exact Prints.hundredths (centesimos x)

/-! ## The frame -/

/-- The ten members with their texts. -/
def Quadro.membros (q : Quadro) : List Member :=
  [⟨"deviceId".toList, '"' :: (q.deviceId ++ ['"']), .string q.deviceId⟩,
    ⟨"timestamp".toList, '"' :: (q.timestamp ++ ['"']), .string q.timestamp⟩,
    ⟨"epoch".toList, decimalInt q.epoch, .number q.epoch⟩,
    ⟨"modo".toList, '"' :: (q.modo.toList ++ ['"']), .string q.modo.toList⟩,
    ⟨"flowFrio".toList, fixo2 q.flowFrio, .number (duasCasas q.flowFrio)⟩,
    ⟨"flowQuente".toList, fixo2 q.flowQuente, .number (duasCasas q.flowQuente)⟩,
    ⟨"releFrio".toList, bit q.releFrio, .number (valorBit q.releFrio)⟩,
    ⟨"releQuente".toList, bit q.releQuente, .number (valorBit q.releQuente)⟩,
    ⟨"wifi".toList, bit q.wifi, .number (valorBit q.wifi)⟩,
    ⟨"mqtt".toList, bit q.mqtt, .number (valorBit q.mqtt)⟩]

def chaves : List Text :=
  ["deviceId".toList, "timestamp".toList, "epoch".toList, "modo".toList, "flowFrio".toList,
    "flowQuente".toList, "releFrio".toList, "releQuente".toList, "wifi".toList, "mqtt".toList]

theorem Quadro.membros_key (q : Quadro) : q.membros.map Member.key = chaves := rfl

theorem plain_chaves : ∀ k ∈ chaves, Plain k := by
  decide

theorem QuadroPossivel.membros_good (h : QuadroPossivel A q) : ∀ m ∈ q.membros, m.Good := by
  obtain ⟨dev, hdev⟩ := h.deviceId
  obtain ⟨modo, hmodo⟩ := h.modo
  have hid : Plain q.deviceId := hdev ▸ plain_deviceid dev
  have hnome : Plain q.modo.toList := hmodo ▸ plain_modosNome modo
  intro m hm
  refine ⟨plain_chaves m.key (q.membros_key ▸ List.mem_map_of_mem hm), ?_⟩
  simp only [Quadro.membros, List.mem_cons, List.not_mem_nil, or_false] at hm
  rcases hm with rfl | rfl | rfl | rfl | rfl | rfl | rfl | rfl | rfl | rfl
  · exact Prints.string hid
  · exact Prints.string h.plain_timestamp
  · exact prints_decimalInt h.epoch
  · exact Prints.string hnome
  · exact prints_fixo2 h.flowFrio
  · exact prints_fixo2 h.flowQuente
  · exact prints_bit q.releFrio
  · exact prints_bit q.releQuente
  · exact prints_bit q.wifi
  · exact prints_bit q.mqtt

/-- The `snprintf` prints the object of these members. -/
theorem payload_eq_renderObject (q : Quadro) : q.payload = renderObject q.membros := by
  unfold Quadro.payload
  -- both sides as one concatenation, then the texts of the format letter by letter
  simp only [renderObject, Quadro.membros, renderMembers, Member.render, List.append_assoc,
    List.cons_append, List.nil_append]
  rfl

theorem length_bit (b : Bool) : (bit b).length = 1 := by
  cases b <;> rfl

/-- **The longest frame** has 222 characters. -/
theorem QuadroPossivel.length_payload_le (h : QuadroPossivel A q) : q.payload.length ≤ 222 := by
  obtain ⟨dev, hdev⟩ := h.deviceId
  obtain ⟨m, hm⟩ := h.modo
  have hid : q.deviceId.length ≤ 13 := hdev ▸ length_deviceid_le dev
  have htimestamp := h.length_timestamp_le
  have hmodo : q.modo.toList.length ≤ 6 := by
    rw [hm]
    cases m <;> decide
  have hepoch : (decimalInt q.epoch).length ≤ 19 := by
    have hge := h.epoch
    have hlt := h.epoch_lt
    rw [decimalInt, if_neg (not_lt.mpr h.epoch)]
    exact (Nat.length_toDigits_le_iff (by omega) (by omega)).mpr (by omega)
  have hfrio := h.flowFrio.length_fixo2_le
  have hquente := h.flowQuente.length_fixo2_le
  -- all but the keys and the punctuation is bounded now
  have hchaves : chaves.map List.length = [8, 9, 5, 4, 8, 10, 8, 10, 4, 4] := by decide
  simp only [chaves, List.map_cons, List.map_nil, List.cons.injEq, and_true] at hchaves
  simp only [payload_eq_renderObject, renderObject, Quadro.membros, renderMembers,
    Member.render, List.length_append, List.length_cons, List.length_nil, length_bit]
  omega

/-- **Every frame** is read as its ten members. -/
theorem QuadroPossivel.parse_payload (h : QuadroPossivel A q) :
    parse q.payload = some q.json := by
  rw [payload_eq_renderObject]
  exact parse_of_prints (Prints.object h.membros_good)

/-! ## What `mqttclient_publish_telemetry` sends -/

theorem timekeeperGetTimestamp_cases (l₁ l₂ : LeituraHora) (k : Timekeeper) :
    (timekeeperGetTimestamp 40 l₁ l₂ k).1 = unsynced ∨
      ∃ tm, (timekeeperGetTimestamp 40 l₁ l₂ k).1 = strftime 40 tm := by
  have hfit : snprintf 40 unsynced = unsynced := snprintf_of_lt (by decide)
  unfold timekeeperGetTimestamp
  rw [if_neg (by decide)]
  dsimp only
  split
  · exact Or.inl hfit
  · exact Or.inr ⟨_, rfl⟩

theorem timekeeperGetEpoch_cases (l₁ l₂ : LeituraHora) (k : Timekeeper) :
    (timekeeperGetEpoch l₁ l₂ k).1 = 0 ∨ (timekeeperGetEpoch l₁ l₂ k).1 = l₂.now.s := by
  unfold timekeeperGetEpoch
  dsimp only
  split
  · exact Or.inl rfl
  · exact Or.inr rfl

theorem timekeeperGetEpoch_nonneg {l₁ l₂ : LeituraHora} (k : Timekeeper)
    (h : 0 ≤ l₂.now.s) : 0 ≤ (timekeeperGetEpoch l₁ l₂ k).1 := by
  rcases timekeeperGetEpoch_cases l₁ l₂ k with heq | heq
  · exact heq.ge
  · rwa [heq]

theorem timekeeperGetEpoch_lt (l₁ l₂ : LeituraHora) (k : Timekeeper) :
    (timekeeperGetEpoch l₁ l₂ k).1 < 2 ^ 63 := by
  rcases timekeeperGetEpoch_cases l₁ l₂ k with heq | heq
  · rw [heq]
    decide
  · rw [heq]
    exact l₂.now.lt

/-- The frame of a call whose clock does not show a time before 1970. -/
theorem montaQuadro_possivel (dev : Option Mac) {t : Telemetria} {l : LeiturasTempo}
    (conectado : Bool) (k : Timekeeper) (hmodo : ∃ m, t.modo = modosNome m)
    (hfrio : TaxaPossivel A t.fluxoFrio) (hquente : TaxaPossivel A t.fluxoQuente)
    (hepoch : 0 ≤ (timekeeperGetEpoch l.l3 l.l4 (timekeeperGetTimestamp 40 l.l1 l.l2 k).2).1) :
    QuadroPossivel A (montaQuadro (.de dev) t (timekeeperGetTimestamp 40 l.l1 l.l2 k).1
      (timekeeperGetEpoch l.l3 l.l4 (timekeeperGetTimestamp 40 l.l1 l.l2 k).2).1
      conectado) where
  deviceId := ⟨dev, rfl⟩
  timestamp := timekeeperGetTimestamp_cases l.l1 l.l2 k
  epoch := hepoch
  epoch_lt := timekeeperGetEpoch_lt l.l3 l.l4 _
  modo := hmodo
  flowFrio := hfrio
  flowQuente := hquente

/-- **The payload fits and decodes.** Every frame there can be is shorter than the
buffer and is read back as its ten members, and a connected client sends the frame of
every call. -/
theorem payload_decodifica (A : Rounding) :
    (∀ q, QuadroPossivel A q → q.payload.length < 384 ∧ parse q.payload = some q.json) ∧
    ∀ (dev : Option Mac) (m : ModoOperacao) (t : Telemetria) (l : LeiturasTempo)
      (conectado : Bool) (s : Mqttclient) (k : Timekeeper), t.modo = modosNome m →
      TaxaPossivel A t.fluxoFrio → TaxaPossivel A t.fluxoQuente → 0 ≤ l.l4.now.s →
      s.sClient = true → s.sConnected = true →
      ∃ p, (mqttclientPublishTelemetry (.de dev) t l conectado s k).1 = some p ∧
        p.quadro = montaQuadro (.de dev) t (timekeeperGetTimestamp 40 l.l1 l.l2 k).1
          (timekeeperGetEpoch l.l3 l.l4 (timekeeperGetTimestamp 40 l.l1 l.l2 k).2).1 conectado ∧
        p.quadro.payload.length < 384 ∧ parse p.quadro.payload = some p.quadro.json := by
  have hfits {q : Quadro} (h : QuadroPossivel A q) : q.payload.length < 384 :=
    h.length_payload_le.trans_lt (by decide)
  constructor
  · intro q h
    exact ⟨hfits h, h.parse_payload⟩
  · intro dev m t l conectado s k hmodo hfrio hquente hepoch hclient hconnected
    have hquadro := montaQuadro_possivel dev conectado k ⟨m, hmodo⟩ hfrio hquente
      (timekeeperGetEpoch_nonneg _ hepoch)
    have hfit := hfits hquadro
    refine ⟨⟨buildTelemetryTopic topicBufferSize (.de dev), _⟩, ?_, rfl, hfit,
      hquadro.parse_payload⟩
    unfold mqttclientPublishTelemetry
    simp only [hclient, hconnected, Bool.not_true, Bool.or_self]
    rw [if_neg (by decide)]
    exact congrArg Prod.fst (if_neg (not_le.mpr hfit))

/-- The last epoch, and the most pulses a window can show. -/
def quadroCheio : Quadro where
  deviceId := deviceidGet (.de none)
  timestamp := strftime 40 (localtimeR 1700000001)
  epoch := 9223372036854775807
  modo := modosNome .normal
  flowFrio := lmin .binary32 4294967295 1000000
  flowQuente := 0
  releFrio := true
  releQuente := false
  wifi := true
  mqtt := true

theorem quadroCheio_decodifica :
    quadroCheio.payload.length < 384 ∧ parse quadroCheio.payload = some quadroCheio.json := by
  apply (payload_decodifica .binary32).1
  constructor
  · exact ⟨none, rfl⟩
  · exact Or.inr ⟨localtimeR 1700000001, rfl⟩
  · decide
  · decide
  · exact ⟨.normal, rfl⟩
  · exact Or.inr ⟨4294967295, 1000000, le_rfl, rfl⟩
  · exact taxaPossivel_zero .binary32

end HidroControl
