import HidroControl.Mqttclient

/-!
# The two times of a frame

A telemetry frame gives its time twice, as text and as a number, and takes each
from a function of its own that checks the synchronisation and then reads the
clock. `Quadro.TempoCoerente` asks that the two agree. A second that ends
between the two reads breaks it (`secondBoundary_torn`), and so does a clock
that is first found synchronised by the second check; `frameTimes_iff` says that
nothing else does.
-/

namespace HidroControl

open CText Iso8601

/-- The frame says that it has no time, or its text denotes its number. -/
def Quadro.TempoCoerente (q : Quadro) : Prop :=
  (q.timestamp = unsynced ∧ q.epoch = 0) ∨
    parse q.timestamp = some q.epoch

/-- Every frame the program can publish, under every schedule of the reads. -/
def FrameTimesAgree : Prop :=
  ∀ dev t l conectado s k p,
    (mqttclientPublishTelemetry dev t l conectado s k).1 = some p →
      p.quadro.TempoCoerente

/-! ## A second that ends between the reads -/

def LeituraHora.em (s : ℤ) (ge : -2 ^ 63 ≤ s) (lt : s < 2 ^ 63) : LeituraHora :=
  { antes := false, now := { s, ge, lt }, depois := false }

/-- The clock goes from 1700000001 to 1700000002 after the second read. -/
def boundaryReads : LeiturasTempo where
  l1 := .em 1700000001 (by decide) (by decide)
  l2 := .em 1700000001 (by decide) (by decide)
  l3 := .em 1700000002 (by decide) (by decide)
  l4 := .em 1700000002 (by decide) (by decide)

def idleTelemetry : Telemetria where
  modo := "NORMAL"
  fluxoFrio := 0
  fluxoQuente := 0
  releFrio := false
  releQuente := false
  wifiConnected := true

theorem secondBoundary_torn : ¬ FrameTimesAgree := by
  intro h
  have hpub : ∃ p, (mqttclientPublishTelemetry {} idleTelemetry boundaryReads true
      { sClient := true, sConnected := true } {}).1 = some p := by
    rw [← Option.isSome_iff_exists]
    decide +kernel
  obtain ⟨p, hp⟩ := hpub
  have htorn := h _ _ _ _ _ _ p hp
  rw [Quadro.TempoCoerente, publicacao_quadro hp] at htorn
  revert htorn
  decide +kernel

/-! ## The fields of a frame -/

/-- This access of the clock finds it synchronised, or is told so. -/
def LeituraHora.sincroniza (l : LeituraHora) : Bool :=
  l.antes || decide (1700000000 < l.now.s) || l.depois

theorem timekeeperIsSynced_eq (l : LeituraHora) (k : Timekeeper) :
    timekeeperIsSynced l k =
      (k.sSynced || l.sincroniza, { sSynced := k.sSynced || l.sincroniza }) := by
  obtain ⟨antes, now, depois⟩ := l
  obtain ⟨synced⟩ := k
  unfold timekeeperIsSynced LeituraHora.sincroniza
  by_cases h : 1700000000 < now.s <;> cases antes <;> cases depois <;>
    cases synced <;> simp [avisa, timeSyncCb, h]

theorem avisa_synced (b : Bool) : avisa b { sSynced := true } = { sSynced := true } := by
  cases b <;> rfl

theorem timekeeperGetTimestamp_eq (l₁ l₂ : LeituraHora) (k : Timekeeper) :
    timekeeperGetTimestamp 40 l₁ l₂ k =
      (if k.sSynced || l₁.sincroniza then strftime 40 (localtimeR l₂.now.s)
        else unsynced,
      { sSynced := k.sSynced || l₁.sincroniza }) := by
  unfold timekeeperGetTimestamp
  rw [timekeeperIsSynced_eq]
  cases k.sSynced || l₁.sincroniza
  · rfl
  · simp only [Bool.not_true, avisa_synced]
    rfl

theorem timekeeperGetEpoch_eq (l₃ l₄ : LeituraHora) (k : Timekeeper) :
    timekeeperGetEpoch l₃ l₄ k =
      (if k.sSynced || l₃.sincroniza then l₄.now.s else 0,
      { sSynced := k.sSynced || l₃.sincroniza }) := by
  unfold timekeeperGetEpoch
  rw [timekeeperIsSynced_eq]
  cases k.sSynced || l₃.sincroniza
  · rfl
  · simp only [Bool.not_true, avisa_synced]
    rfl

theorem tempo_of_publicacao {dev : Deviceid} {t : Telemetria} {l : LeiturasTempo}
    {conectado : Bool} {s : Mqttclient} {k : Timekeeper} {p : Publicacao}
    (h : (mqttclientPublishTelemetry dev t l conectado s k).1 = some p) :
    p.quadro.timestamp =
        (if k.sSynced || l.l1.sincroniza then strftime 40 (localtimeR l.l2.now.s)
          else unsynced) ∧
      p.quadro.epoch =
        if k.sSynced || l.l1.sincroniza || l.l3.sincroniza then l.l4.now.s
        else 0 := by
  rw [publicacao_quadro h, timekeeperGetTimestamp_eq, timekeeperGetEpoch_eq]
  exact ⟨rfl, rfl⟩

/-! ## When the two agree -/

/-- The clock is found synchronised at the first check and shows the same second
at both readings, or it is found unsynchronised at the first check and then also
at the second, or shows 0 there. -/
def ReadsAgree (l : LeiturasTempo) (k : Timekeeper) : Prop :=
  if k.sSynced || l.l1.sincroniza then l.l2.now.s = l.l4.now.s
  else l.l3.sincroniza = true → l.l4.now.s = 0

theorem parse_unsynced : parse unsynced = none := by decide +kernel

/-- **The times of a published frame agree exactly when its reads do.** -/
theorem frameTimes_iff {dev : Deviceid} {t : Telemetria} {l : LeiturasTempo}
    {conectado : Bool} {s : Mqttclient} {k : Timekeeper} {p : Publicacao}
    (h : (mqttclientPublishTelemetry dev t l conectado s k).1 = some p) :
    p.quadro.TempoCoerente ↔ ReadsAgree l k := by
  obtain ⟨hts, hep⟩ := tempo_of_publicacao h
  unfold Quadro.TempoCoerente ReadsAgree
  rw [hts, hep]
  cases k.sSynced || l.l1.sincroniza with
  | false =>
      -- no text, so only the number can be wrong
      cases l.l3.sincroniza <;> simp [parse_unsynced]
  | true =>
      have hparse := parse_strftime l.l2.now
      have hne : strftime 40 (localtimeR l.l2.now.s) ≠ unsynced := by
        intro heq
        rw [heq, parse_unsynced] at hparse
        cases hparse
      simp [hne, hparse]

/-- The same four reads within one second. -/
def quietReads : LeiturasTempo where
  l1 := .em 1700000001 (by decide) (by decide)
  l2 := .em 1700000001 (by decide) (by decide)
  l3 := .em 1700000001 (by decide) (by decide)
  l4 := .em 1700000001 (by decide) (by decide)

theorem quietReads_agree :
    ∃ p, (mqttclientPublishTelemetry {} idleTelemetry quietReads true
      { sClient := true, sConnected := true } {}).1 = some p ∧
        p.quadro.TempoCoerente := by
  have hpub : ((mqttclientPublishTelemetry {} idleTelemetry quietReads true
      { sClient := true, sConnected := true } {}).1).isSome = true := by
    decide +kernel
  obtain ⟨p, hp⟩ := Option.isSome_iff_exists.mp hpub
  exact ⟨p, hp, (frameTimes_iff hp).mpr rfl⟩

end HidroControl
