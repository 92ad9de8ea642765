import HidroControl.Base.Trajectory
import HidroControl.StatusScreen

/-!
# Does the display recover from bus errors?

`oled_init` leaves the controller in horizontal addressing, where the position
commands of `oled_flush` do nothing: each data byte goes where the one before left
the pointer. A flush of which nothing is lost is then one round of the ring, turned
by what was lost before, and the next such flush is turned by just as much
(`recupera_iff`): nothing ever brings the picture back to its place. The pointer is a
count: of the bytes of data that have arrived (`execucaoOled_ponteiro`).

`Entrega` is what one piece of the driver does to the bus: how many transfers it
tries, and which of its bytes arrive.
-/

namespace HidroControl

open RingMemory Ssd1306

/-- No transfer between the two states of the bus has failed. -/
def SemErro (erros : ℕ → Bool) (s s' : Barramento) : Prop :=
  ∀ k, s.transferencias ≤ k → k < s'.transferencias → erros k = false

/-- From `s` to `s'` the driver has sent `xs` in `n` transfers, fewer if it gave
up. -/
structure Entrega (erros : ℕ → Bool) (n : ℕ) (xs : List UInt8) (s s' : Barramento) :
    Prop where
  ge : s.transferencias ≤ s'.transferencias
  le : s'.transferencias ≤ s.transferencias + n
  eq : SemErro erros s s' → s'.transferencias = s.transferencias + n
  horizontal : s.display.Horizontal → s'.display.Horizontal
  /-- What has arrived is part of `xs`, and all of it if no transfer failed. -/
  dados : s.display.Horizontal → ∃ ys, ys.Sublist xs ∧
    s'.display.anel = writes 1024 s.display.anel ys ∧
    s'.entregues = s.entregues + ys.length ∧ (SemErro erros s s' → ys = xs)

variable {erros : ℕ → Bool} {m n : ℕ} {xs ys : List UInt8} {s s' s'' : Barramento}

/-! ## The pieces of a flush -/

theorem Entrega.nada (erros : ℕ → Bool) (s : Barramento) : Entrega erros 0 [] s s where
  ge := le_rfl
  le := le_rfl
  eq _ := rfl
  horizontal h := h
  dados _ := ⟨[], .slnil, rfl, rfl, fun _ => rfl⟩

theorem Entrega.trans (h : Entrega erros m xs s s') (h' : Entrega erros n ys s' s'') :
    Entrega erros (m + n) (xs ++ ys) s s'' := by
  have hsplit : SemErro erros s s'' → SemErro erros s s' ∧ SemErro erros s' s'' := by
    intro hsem
    constructor
    · intro k hk hk'
      exact hsem k hk (hk'.trans_le h'.ge)
    · intro k hk hk'
      exact hsem k (h.ge.trans hk) hk'
  constructor
  · exact h.ge.trans h'.ge
  · -- the numbers of transfers add up
    have hle := h.le
    have hle' := h'.le
    omega
  · intro hsem
    obtain ⟨hsem, hsem'⟩ := hsplit hsem
    rw [h'.eq hsem', h.eq hsem, Nat.add_assoc]
  · intro hhor
    exact h'.horizontal (h.horizontal hhor)
  · intro hhor
    obtain ⟨zs, hzs, hanel, hcount, hall⟩ := h.dados hhor
    obtain ⟨zs', hzs', hanel', hcount', hall'⟩ := h'.dados (h.horizontal hhor)
    refine ⟨zs ++ zs', hzs.append hzs', ?_, ?_, ?_⟩
    · rw [hanel', hanel, writes_append]
    · rw [hcount', hcount, List.length_append, Nat.add_assoc]
    · intro hsem
      obtain ⟨hsem, hsem'⟩ := hsplit hsem
      rw [hall hsem, hall' hsem']

theorem transmite_cases {tx : List UInt8} {ok : Bool}
    (h : transmite erros tx s = (ok, s')) :
    (ok = true ∧ s' = { display := s.display.recebe tx
                        transferencias := s.transferencias + 1
                        entregues := s.entregues + (dadosDe tx).length }) ∨
      (ok = false ∧ erros s.transferencias = true ∧
        s' = { s with transferencias := s.transferencias + 1 }) := by
  unfold transmite at h
  split at h
  · next herro =>
      cases h
      exact Or.inr ⟨rfl, herro, rfl⟩
  · cases h
    exact Or.inl ⟨rfl, rfl⟩

/-- A transfer that failed has delivered nothing, and is an error seen. -/
theorem Entrega.falha (xs : List UInt8) (hn : 0 < n)
    (h : erros s.transferencias = true) :
    Entrega erros n xs s { s with transferencias := s.transferencias + 1 } := by
  have hsem : ¬ SemErro erros s { s with transferencias := s.transferencias + 1 } := by
    intro hsem
    have hok := hsem s.transferencias le_rfl (Nat.lt_succ_self _)
    rw [h] at hok
    cases hok
  constructor
  · exact Nat.le_succ _
  · show s.transferencias + 1 ≤ s.transferencias + n
    omega
  · intro h
    exact absurd h hsem
  · intro hhor
    exact hhor
  · intro _
    exact ⟨[], List.nil_sublist xs, rfl, rfl, fun h => absurd h hsem⟩

/-- A transfer of data that was answered. -/
theorem Entrega.chega (xs : List UInt8) (s : Barramento) :
    Entrega erros 1 xs s
      { display := s.display.recebe (0x40 :: xs)
        transferencias := s.transferencias + 1
        entregues := s.entregues + xs.length } where
  ge := Nat.le_succ _
  le := le_rfl
  eq _ := rfl
  horizontal h := (h.recebeDados xs).1
  dados h := ⟨xs, List.Sublist.refl xs, (h.recebeDados xs).2, rfl, fun _ => rfl⟩

/-- **A command of one byte** leaves the controller as it was. -/
theorem oledWriteCmd_parado {cmd : UInt8} (hcmd : cmd ∉ deDoisBytes)
    (h : s.display.Horizontal) :
    (oledWriteCmd erros cmd s).2 = { s with transferencias := s.transferencias + 1 } := by
  have hkept : s.display.recebe [0x00, cmd] = s.display := h.recebeComando hcmd
  unfold oledWriteCmd transmite
  split
  · rfl
  · rw [hkept]
    rfl

theorem oledWriteCmd_transferencias (erros : ℕ → Bool) (cmd : UInt8) (s : Barramento) :
    (oledWriteCmd erros cmd s).2.transferencias = s.transferencias + 1 := by
  unfold oledWriteCmd transmite
  split
  · rfl
  · rfl

theorem oledWriteCmd_entregues (erros : ℕ → Bool) (cmd : UInt8) (s : Barramento) :
    (oledWriteCmd erros cmd s).2.entregues = s.entregues := by
  unfold oledWriteCmd transmite
  split
  · rfl
  · rfl

theorem oledWriteCmd_entrega (erros : ℕ → Bool) {cmd : UInt8} (hcmd : cmd ∉ deDoisBytes)
    (s : Barramento) : Entrega erros 1 [] s (oledWriteCmd erros cmd s).2 := by
  have hcount := oledWriteCmd_transferencias erros cmd s
  constructor
  · exact hcount ▸ Nat.le_succ _
  · exact hcount.le
  · intro _
    exact hcount
  · intro h
    rwa [oledWriteCmd_parado hcmd h]
  · intro h
    rw [oledWriteCmd_parado hcmd h]
    exact ⟨[], .slnil, rfl, rfl, fun _ => rfl⟩

theorem oledWriteDataLoop_of_lt {data : List UInt8} {offset chunk : ℕ} {ok : Bool}
    (hlt : offset < data.length) (hchunk : chunk = min (data.length - offset) 16)
    (htx : transmite erros (0x40 :: (data.drop offset).take chunk) s = (ok, s')) :
    oledWriteDataLoop erros data offset s =
      if ok then oledWriteDataLoop erros data (offset + chunk) s' else (false, s') := by
  subst hchunk
  rw [oledWriteDataLoop, if_pos hlt]
  simp only [htx]

/-- **The data loop**, in as many transfers as there are chunks of 16. -/
theorem oledWriteDataLoop_entrega (erros : ℕ → Bool) (data : List UInt8) (offset : ℕ)
    (s : Barramento) :
    Entrega erros ((data.length - offset + 15) / 16) (data.drop offset) s
      (oledWriteDataLoop erros data offset s).2 := by
  induction offset, s using oledWriteDataLoop.induct erros data with
  | case1 offset s hlt chunk s' htx ih =>
      rw [oledWriteDataLoop_of_lt hlt rfl htx, if_pos rfl]
      have hcount : (data.length - offset + 15) / 16 =
          1 + (data.length - (offset + chunk) + 15) / 16 := by omega
      rcases transmite_cases htx with ⟨-, rfl⟩ | ⟨hfalse, -, -⟩
      · -- this chunk and those behind it
        have hchunk := (Entrega.chega _ s).trans ih
        rw [← List.drop_drop, List.take_append_drop] at hchunk
        rwa [hcount]
      · cases hfalse
  | case2 offset s hlt chunk ok s' htx hok =>
      rw [oledWriteDataLoop_of_lt hlt rfl htx, if_neg hok]
      -- `return err`: the chunks behind a lost one are not tried
      rcases transmite_cases htx with ⟨htrue, -⟩ | ⟨-, herro, rfl⟩
      · exact absurd htrue hok
      · exact .falha _ (by omega) herro
  | case3 offset s hle =>
      rw [oledWriteDataLoop, if_neg hle, List.drop_eq_nil_of_le (by omega),
        show (data.length - offset + 15) / 16 = 0 by omega]
      exact .nada erros s

theorem length_pagina (buf : SBuffer) {page : ℕ} (h : page < 8) :
    (buf.pagina page).length = 128 := by
  simp only [SBuffer.pagina, oledWidth, List.length_take, List.length_drop,
    Vector.length_toList]
  omega

theorem posiciona_notMem {page : ℕ} (hpage : page < 8) :
    0xB0 + UInt8.ofNat page ∉ deDoisBytes := by
  have hall : ∀ p < 8, 0xB0 + UInt8.ofNat p ∉ deDoisBytes := by decide
  exact hall page hpage

/-- **A page**: three commands without effect and eight chunks. -/
theorem oledFlushPage_entrega (erros : ℕ → Bool) (buf : SBuffer) {page : ℕ} (hpage : page < 8)
    (s : Barramento) :
    Entrega erros 11 (buf.pagina page) s (oledFlushPage erros buf page s) := by
  have hdata := oledWriteDataLoop_entrega erros (buf.pagina page) 0
    (oledWriteCmd erros 0x10 (oledWriteCmd erros 0x00
      (oledWriteCmd erros (0xB0 + UInt8.ofNat page) s).2).2).2
  rw [length_pagina buf hpage, List.drop_zero] at hdata
  have hlow := (oledWriteCmd_entrega erros (show 0x10 ∉ deDoisBytes by decide) _).trans hdata
  have hhigh := (oledWriteCmd_entrega erros (show 0x00 ∉ deDoisBytes by decide) _).trans hlow
  exact (oledWriteCmd_entrega erros (posiciona_notMem hpage) s).trans hhigh

theorem oledFlushPages_entrega (erros : ℕ → Bool) (buf : SBuffer) {pages : List ℕ}
    (h : ∀ p ∈ pages, p < 8) (s : Barramento) :
    Entrega erros (pages.length * 11) (pages.flatMap buf.pagina) s
      (pages.foldl (fun s page => oledFlushPage erros buf page s) s) := by
  induction pages generalizing s with
  | nil => exact .nada erros s
  | cons page pages ih =>
      have hpage := h page List.mem_cons_self
      have hrest := ih (fun p hp => h p (List.mem_cons_of_mem page hp))
        (oledFlushPage erros buf page s)
      have hall := (oledFlushPage_entrega erros buf hpage s).trans hrest
      rw [List.length_cons, Nat.succ_mul, Nat.add_comm]
      exact hall

/-- The pages one after the other are the buffer. -/
theorem flatMap_pagina (buf : SBuffer) {k : ℕ} :
    (List.range k).flatMap buf.pagina = buf.toList.take (oledWidth * k) := by
  induction k with
  | zero => rfl
  | succ k ih =>
      rw [List.range_succ, List.flatMap_append, ih, Nat.mul_succ, List.take_add]
      simp [SBuffer.pagina]

/-- **A flush**: 88 transfers for the whole buffer. -/
theorem oledFlush_entrega (erros : ℕ → Bool) (buf : SBuffer) (s : Barramento) :
    Entrega erros 88 buf.toList s (oledFlush erros buf s) := by
  have hflush := oledFlushPages_entrega erros buf
    (fun p (hp : p ∈ List.range 8) => List.mem_range.mp hp) s
  rwa [flatMap_pagina, List.take_of_length_le (by simp [oledWidth])] at hflush

/-! ## Runs -/

/-- The program has just booted. The controller, which the driver does not reset, may be
in any state. -/
def Oled.ligado (d : Ssd1306) : Oled where
  sBuffer := oledClearBuffer
  barramento := { display := d }

/-- Something has been drawn, and a flush. -/
def passoFlush (erros : ℕ → Bool) (buf : SBuffer) (s : Oled) : Oled :=
  { s with sBuffer := buf, barramento := oledFlush erros buf s.barramento }

/-- `oled_init`, then one flush after the other: the driver before flush `n`. -/
def execucaoOled (erros : ℕ → Bool) (d : Ssd1306) (bufs : ℕ → SBuffer) : ℕ → Oled :=
  Trajectory.state (passoFlush erros) (oledInit erros true true (.ligado d)) bufs

def IniciaSemErro (erros : ℕ → Bool) (d : Ssd1306) : Prop :=
  SemErro erros (Oled.ligado d).barramento
    (oledInit erros true true (.ligado d)).barramento

/-- The display shows the buffer, byte for byte. -/
def Oled.Mostra (s : Oled) : Prop :=
  ∀ p < 8, ∀ c < 128, s.sBuffer[p * 128 + c]? = some (s.barramento.display.ram p c)

/-- Turned by `p` places, the buffer is the same. -/
def SBuffer.IgualGirado (p : ℕ) (buf : SBuffer) : Prop :=
  ∀ i < 1024, buf[(p + i) % 1024]? = buf[i]?

/-- The commands of `oled_init` count as transfers whatever becomes of them. -/
theorem oledWriteCmds_transferencias (erros : ℕ → Bool) (cmds : List UInt8) (b : Barramento) :
    (cmds.foldl (fun b cmd => (oledWriteCmd erros cmd b).2) b).transferencias =
      b.transferencias + cmds.length := by
  induction cmds generalizing b with
  | nil => rfl
  | cons cmd cmds ih =>
      rw [List.foldl_cons, ih, oledWriteCmd_transferencias, List.length_cons]
      omega

theorem oledWriteCmds_entregues (erros : ℕ → Bool) (cmds : List UInt8) (b : Barramento) :
    (cmds.foldl (fun b cmd => (oledWriteCmd erros cmd b).2) b).entregues = b.entregues := by
  induction cmds generalizing b with
  | nil => rfl
  | cons cmd cmds ih =>
      rw [List.foldl_cons, ih, oledWriteCmd_entregues]

theorem oledWriteCmds_display (erros : ℕ → Bool) (cmds : List UInt8) (b : Barramento)
    (h : ∀ k, b.transferencias ≤ k → k < b.transferencias + cmds.length →
      erros k = false) :
    (cmds.foldl (fun b cmd => (oledWriteCmd erros cmd b).2) b).display =
      cmds.foldl recebeComando b.display := by
  induction cmds generalizing b with
  | nil => rfl
  | cons cmd cmds ih =>
      rw [List.length_cons] at h
      have hok : erros b.transferencias = false := h _ le_rfl (by omega)
      have hone : (oledWriteCmd erros cmd b).2 =
          { display := b.display.recebeComando cmd
            transferencias := b.transferencias + 1
            entregues := b.entregues } := by
        simp [oledWriteCmd, transmite, hok, recebe, dadosDe]
      rw [List.foldl_cons, List.foldl_cons, hone]
      apply ih
      intro k hk hk'
      dsimp only at hk hk'
      exact h k (by omega) (by omega)

/-- Whatever the controller was waiting for, the commands of `oled_init` leave it in
horizontal addressing, its pointer where it was. -/
theorem initCmds_display (d : Ssd1306) :
    initCmds.foldl recebeComando d = { d with modo := .horizontal, pendente := none } := by
  obtain ⟨modo, coluna, pagina, pendente, ram⟩ := d
  cases pendente with
  | none =>
      cases modo <;>
        simp [initCmds, recebeComando, deDoisBytes, argumento, enderecamento, posiciona]
  | some cmd =>
      -- the first command is taken for the argument
      by_cases hcmd : cmd = 0x20
      · subst hcmd
        simp [initCmds, recebeComando, deDoisBytes, argumento, enderecamento]
      · cases modo <;>
          simp [initCmds, recebeComando, deDoisBytes, argumento, enderecamento, hcmd]

/-- **A flush of which nothing is lost** delivers the whole buffer. -/
theorem oledFlush_entregues {buf : SBuffer} (hhor : s.display.Horizontal)
    (hsem : SemErro erros s (oledFlush erros buf s)) :
    (oledFlush erros buf s).entregues = s.entregues + 1024 := by
  obtain ⟨ys, -, -, hcount, hall⟩ := (oledFlush_entrega erros buf s).dados hhor
  rw [hcount, hall hsem, Vector.length_toList]

/-- **The pointer** has gone as far as data has arrived. -/
theorem Entrega.ponteiro (h : Entrega erros n xs s s') (hhor : s.display.Horizontal)
    {p : ℕ} (hptr : s.display.anel.ptr = (p + s.entregues) % 1024) :
    s'.display.anel.ptr = (p + s'.entregues) % 1024 := by
  obtain ⟨ys, -, hanel, hcount, -⟩ := h.dados hhor
  rw [hanel, writes_ptr hhor.ptr_lt, hptr, hcount, Nat.mod_add_mod, Nat.add_assoc]

/-- **The initialisation** ends in horizontal addressing, the whole empty buffer sent. -/
theorem oledInit_spec {d : Ssd1306} (hd : d.Dentro) (h : IniciaSemErro erros d) :
    (oledInit erros true true (.ligado d)).barramento.transferencias = 116 ∧
      (oledInit erros true true (.ligado d)).barramento.display.Horizontal ∧
      (oledInit erros true true (.ligado d)).barramento.entregues = 1024 ∧
      (oledInit erros true true (.ligado d)).barramento.display.anel.ptr =
        (d.anel.ptr + 1024) % 1024 := by
  have hcount := oledWriteCmds_transferencias erros initCmds
    (Oled.ligado d).barramento
  have hdisplay := oledWriteCmds_display erros initCmds
    (Oled.ligado d).barramento
  have hentregues := oledWriteCmds_entregues erros initCmds
    (Oled.ligado d).barramento
  change SemErro erros _ (oledFlush erros oledClearBuffer _) at h
  show (oledFlush erros oledClearBuffer _).transferencias = 116 ∧
    (oledFlush erros oledClearBuffer _).display.Horizontal ∧
    (oledFlush erros oledClearBuffer _).entregues = 1024 ∧
    (oledFlush erros oledClearBuffer _).display.anel.ptr = _
  -- `b` is the bus between the commands and the flush
  generalize initCmds.foldl (fun b cmd => (oledWriteCmd erros cmd b).2)
    (Oled.ligado d).barramento = b at *
  have hflush := oledFlush_entrega erros oledClearBuffer b
  have hge := hflush.ge
  have hsem : SemErro erros b (oledFlush erros oledClearBuffer b) := by
    intro k hk hk'
    exact h k (Nat.zero_le k) hk'
  have hb := hdisplay fun k _ hk' => h k (Nat.zero_le k) (by omega)
  rw [show (Oled.ligado d).barramento.display = d from rfl, initCmds_display] at hb
  have hhor : b.display.Horizontal := by
    rw [hb]
    exact ⟨rfl, rfl, hd.coluna, hd.pagina⟩
  have hptr : b.display.anel.ptr = (d.anel.ptr + b.entregues) % 1024 := by
    have hlt := hhor.ptr_lt
    rw [hb] at hlt ⊢
    rw [hentregues]
    exact (Nat.mod_eq_of_lt hlt).symm
  have hcheia := oledFlush_entregues hhor hsem
  rw [hentregues] at hcheia
  refine ⟨?_, hflush.horizontal hhor, hcheia, ?_⟩
  · rw [hflush.eq hsem, hcount]
    rfl
  · rw [hflush.ponteiro hhor hptr, hcheia]
    rfl

/-- **The pointer of a run.** The controller stays in horizontal addressing, and its
pointer is as far from where the boot found it as bytes of data have been delivered. -/
theorem execucaoOled_ponteiro {d : Ssd1306} (bufs : ℕ → SBuffer) (hd : d.Dentro)
    (h : IniciaSemErro erros d) (n : ℕ) :
    (execucaoOled erros d bufs n).barramento.display.Horizontal ∧
      (execucaoOled erros d bufs n).barramento.display.anel.ptr =
        (d.anel.ptr + (execucaoOled erros d bufs n).barramento.entregues) % 1024 := by
  refine Trajectory.invariant (fun _ (o : Oled) => o.barramento.display.Horizontal ∧
    o.barramento.display.anel.ptr = (d.anel.ptr + o.barramento.entregues) % 1024) ?_ ?_ n
  · obtain ⟨-, hhor, hcount, hptr⟩ := oledInit_spec hd h
    refine ⟨hhor, hptr.trans ?_⟩
    rw [hcount]
  · intro n o ⟨hhor, hptr⟩
    have hflush := oledFlush_entrega erros (bufs n) o.barramento
    exact ⟨hflush.horizontal hhor, hflush.ponteiro hhor hptr⟩

theorem execucaoOled_sOk (erros : ℕ → Bool) (d : Ssd1306) (bufs : ℕ → SBuffer) (n : ℕ) :
    (execucaoOled erros d bufs n).sOk = true := by
  refine Trajectory.invariant (fun _ (o : Oled) => o.sOk = true) rfl ?_ n
  intro n o hok
  exact hok

/-- **A status screen is one step of a run.** -/
theorem oledShowStatus_execucao (d : Ssd1306) {bufs : ℕ → SBuffer} {n : ℕ}
    {wifi mqtt : Bool} {modo : String} {frio quente : ℚ}
    (hbuf : desenhaStatus wifi mqtt modo.toList (fixo2 frio) (fixo2 quente)
      oledClearBuffer = some (bufs n)) :
    oledShowStatus erros wifi mqtt modo frio quente (execucaoOled erros d bufs n) =
      some (execucaoOled erros d bufs (n + 1)) := by
  have hok := execucaoOled_sOk erros d bufs n
  show _ = some (passoFlush erros (bufs n) (execucaoOled erros d bufs n))
  generalize execucaoOled erros d bufs n = o at hok
  simp [oledShowStatus, passoFlush, hok, hbuf]

theorem Oled.mostra_iff {o : Oled} :
    o.Mostra ↔ ∀ a < 1024, o.sBuffer.toList[a]? = some (o.barramento.display.anel.cell a) := by
  simp only [Oled.Mostra, anel, Vector.getElem?_toList]
  constructor
  · intro h a ha
    have hcell := h (a / 128) (by omega) (a % 128) (by omega)
    rwa [Nat.div_add_mod'] at hcell
  · intro h p hp c hc
    have hcell := h (p * 128 + c) (by omega)
    rwa [show (p * 128 + c) / 128 = p by omega, show (p * 128 + c) % 128 = c by omega]
      at hcell

/-- **The step.** A flush of which nothing is lost shows the buffer exactly when
the buffer does not change under a turn by the pointer. -/
theorem passoFlush_mostra_iff {buf : SBuffer} {o : Oled}
    (hhor : o.barramento.display.Horizontal)
    (hsem : SemErro erros o.barramento (passoFlush erros buf o).barramento) :
    (passoFlush erros buf o).Mostra ↔ buf.IgualGirado o.barramento.display.anel.ptr := by
  obtain ⟨ys, -, hanel, -, hall⟩ := (oledFlush_entrega erros buf o.barramento).dados hhor
  have hanel' : (passoFlush erros buf o).barramento.display.anel =
      writes 1024 o.barramento.display.anel buf.toList := by
    rw [← hall hsem]
    exact hanel
  have hlen : buf.toList.length = 1024 := Vector.length_toList
  have hround := writes_full_eq_iff hhor.ptr_lt hlen
  simp only [Vector.getElem?_toList] at hround
  rw [Oled.mostra_iff, hanel']
  simp only [Vector.getElem?_toList]
  exact hround

/-- One flush of a run. -/
theorem execucaoOled_mostra_iff {d : Ssd1306} {bufs : ℕ → SBuffer} {n : ℕ} (hd : d.Dentro)
    (h : IniciaSemErro erros d)
    (hsem : SemErro erros (execucaoOled erros d bufs n).barramento
      (execucaoOled erros d bufs (n + 1)).barramento) :
    (execucaoOled erros d bufs (n + 1)).Mostra ↔ (bufs n).IgualGirado
      ((d.anel.ptr + (execucaoOled erros d bufs n).barramento.entregues) % 1024) := by
  obtain ⟨hhor, hptr⟩ := execucaoOled_ponteiro bufs hd h n
  rw [← hptr]
  exact passoFlush_mostra_iff hhor hsem

/-- **Recovery.** Whatever state the boot finds the controller in, in a run every flush
of which nothing is lost shows its buffer if and only if each of them finds the pointer
where it does not matter. The pointer is the number of bytes delivered since the boot,
from where it was then, modulo the 1024 of the memory; it does not matter at the first
cell, or with a buffer that a turn by it leaves the same. -/
theorem recupera_iff (erros : ℕ → Bool) (d : Ssd1306) (bufs : ℕ → SBuffer)
    (hd : d.Dentro) (h : IniciaSemErro erros d) :
    (∀ n, SemErro erros (execucaoOled erros d bufs n).barramento
        (execucaoOled erros d bufs (n + 1)).barramento →
      (execucaoOled erros d bufs (n + 1)).Mostra) ↔
    ∀ n, SemErro erros (execucaoOled erros d bufs n).barramento
        (execucaoOled erros d bufs (n + 1)).barramento →
      (bufs n).IgualGirado
        ((d.anel.ptr + (execucaoOled erros d bufs n).barramento.entregues) % 1024) := by
  apply forall_congr'
  intro n
  apply imp_congr_right
  intro hsem
  exact execucaoOled_mostra_iff hd h hsem

/-! ## One lost chunk -/

/-- The first chunk of a page fails: `oled_write_data` gives the page up. -/
theorem oledFlushPage_perdida (buf : SBuffer) {page : ℕ} (hpage : page < 8)
    (hhor : s.display.Horizontal) (herro : erros (s.transferencias + 3) = true) :
    oledFlushPage erros buf page s = { s with transferencias := s.transferencias + 4 } := by
  have hlt : 0 < (buf.pagina page).length := by
    rw [length_pagina buf hpage]
    exact Nat.zero_lt_succ _
  have hfalha : oledWriteDataLoop erros (buf.pagina page) 0
      { s with transferencias := s.transferencias + 3 } =
      (false, { s with transferencias := s.transferencias + 4 }) := by
    have htx (tx : List UInt8) :
        transmite erros tx { s with transferencias := s.transferencias + 3 } =
          (false, { s with transferencias := s.transferencias + 4 }) := if_pos herro
    exact oledWriteDataLoop_of_lt hlt rfl (htx _)
  unfold oledFlushPage
  dsimp only
  rw [oledWriteCmd_parado (posiciona_notMem hpage) hhor,
    oledWriteCmd_parado (s := ⟨s.display, s.transferencias + 1, s.entregues⟩) (by decide) hhor,
    oledWriteCmd_parado (s := ⟨s.display, s.transferencias + 1 + 1, s.entregues⟩) (by decide)
      hhor]
  exact congrArg Prod.snd hfalha

/-- A flush that loses page 0 and nothing else delivers 128 bytes too few. -/
theorem oledFlush_perdida (erros : ℕ → Bool) (buf : SBuffer) (hhor : s.display.Horizontal)
    (herro : erros (s.transferencias + 3) = true)
    (hok : ∀ k, s.transferencias + 4 ≤ k → erros k = false) :
    (oledFlush erros buf s).transferencias = s.transferencias + 81 ∧
      (oledFlush erros buf s).entregues = s.entregues + 896 := by
  have hflush : oledFlush erros buf s =
      [1, 2, 3, 4, 5, 6, 7].foldl (fun s page => oledFlushPage erros buf page s)
        { s with transferencias := s.transferencias + 4 } := by
    rw [← oledFlushPage_perdida buf (Nat.zero_lt_succ 7) hhor herro]
    rfl
  have hrest := oledFlushPages_entrega erros buf
    (show ∀ p ∈ [1, 2, 3, 4, 5, 6, 7], p < 8 by decide)
    { s with transferencias := s.transferencias + 4 }
  rw [← hflush] at hrest
  have hsem : SemErro erros { s with transferencias := s.transferencias + 4 }
      (oledFlush erros buf s) := fun k hk _ => hok k hk
  obtain ⟨ys, -, -, hcount, hall⟩ := hrest.dados hhor
  have hlen : ([1, 2, 3, 4, 5, 6, 7].flatMap buf.pagina).length = 896 := by
    simp [length_pagina]
  refine ⟨hrest.eq hsem, ?_⟩
  rw [hcount, hall hsem, hlen]

theorem iniciaSemErro_of {d : Ssd1306} (h : ∀ k < 116, erros k = false) :
    IniciaSemErro erros d := by
  have hcount := oledWriteCmds_transferencias erros initCmds
    (Oled.ligado d).barramento
  have hle := (oledFlush_entrega erros oledClearBuffer
    (initCmds.foldl (fun b cmd => (oledWriteCmd erros cmd b).2)
      (Oled.ligado d).barramento)).le
  rw [hcount] at hle
  intro k _ hk
  exact h k (hk.trans_le hle)

/-- The first data transfer after the initialisation fails, and none behind it: every
flush but the first is whole, and finds 128 bytes missing. -/
theorem execucaoOled_perdida {d : Ssd1306} (bufs : ℕ → SBuffer) (hd : d.Dentro)
    (hinicia : IniciaSemErro erros d) (herro : erros 119 = true)
    (hok : ∀ k, 120 ≤ k → erros k = false) (n : ℕ) :
    SemErro erros (execucaoOled erros d bufs (n + 1)).barramento
        (execucaoOled erros d bufs (n + 2)).barramento ∧
      (execucaoOled erros d bufs (n + 1)).barramento.entregues = 1920 + 1024 * n := by
  have hinteira {s s' : Barramento} (hs : 120 ≤ s.transferencias) : SemErro erros s s' :=
    fun k hk _ => hok k (hs.trans hk)
  have hrun : 120 ≤ (execucaoOled erros d bufs (n + 1)).barramento.transferencias ∧
      (execucaoOled erros d bufs (n + 1)).barramento.entregues = 1920 + 1024 * n := by
    induction n with
    | zero =>
        obtain ⟨hcount, hhor, hentregues, -⟩ := oledInit_spec hd hinicia
        obtain ⟨hcount₁, hentregues₁⟩ := oledFlush_perdida erros (bufs 0) hhor
          (by rwa [hcount]) (by rwa [hcount])
        rw [hcount] at hcount₁
        rw [hentregues] at hentregues₁
        exact ⟨hcount₁ ▸ by decide, hentregues₁⟩
    | succ n ih =>
        obtain ⟨hge, hentregues⟩ := ih
        have hflush := oledFlush_entrega erros (bufs (n + 1))
          (execucaoOled erros d bufs (n + 1)).barramento
        have hhor := (execucaoOled_ponteiro bufs hd hinicia (n + 1)).1
        refine ⟨hge.trans hflush.ge, ?_⟩
        rw [Nat.mul_succ, ← Nat.add_assoc, ← hentregues]
        exact oledFlush_entregues hhor (hinteira hge)
  exact ⟨hinteira hrun.1, hrun.2⟩

/-- The first data transfer after the initialisation fails, and no other. -/
def perdeUma (k : ℕ) : Bool := k == 119

theorem perdeUma_depois (k : ℕ) (hk : 120 ≤ k) : perdeUma k = false := by
  simp [perdeUma]
  omega

theorem perdeUma_inicia (d : Ssd1306) : IniciaSemErro perdeUma d := by
  apply iniciaSemErro_of
  intro k hk
  simp [perdeUma]
  omega

/-- Every page the same, no two bytes of a page alike. -/
def listras : SBuffer := Vector.ofFn fun i => UInt8.ofNat (i % 128)

theorem igualGirado_listras {p : ℕ} (hp : 128 ∣ p) : listras.IgualGirado p := by
  intro i hi
  have hlt : (p + i) % 1024 < 1024 := Nat.mod_lt _ (Nat.zero_lt_succ _)
  have hcoluna : (p + i) % 1024 % 128 = i % 128 := by omega
  unfold listras
  rw [Vector.getElem?_eq_getElem hlt, Vector.getElem?_eq_getElem hi, Vector.getElem_ofFn,
    Vector.getElem_ofFn, hcoluna]

/-- A controller left at the fourth page, in another way of addressing, by the program
that ran before. -/
def deOutraVez : Ssd1306 :=
  { modo := .vertical, pagina := 3, pendente := some 0x81, ram := fun _ _ => 0xFF }

/-- Such a picture does not show that it is turned by whole pages. -/
theorem perdeUma_listras_recupera :
    (execucaoOled perdeUma deOutraVez (fun _ => listras) 2).Mostra := by
  have hd : deOutraVez.Dentro := ⟨by decide, by decide⟩
  have hinicia := perdeUma_inicia deOutraVez
  have hperdida := execucaoOled_perdida (fun _ => listras) hd hinicia rfl perdeUma_depois
  refine (recupera_iff perdeUma deOutraVez (fun _ => listras) hd hinicia).mpr ?_ 1
    (hperdida 0).1
  intro n _
  apply igualGirado_listras
  have hptr : deOutraVez.anel.ptr = 384 := rfl
  cases n with
  | zero =>
      obtain ⟨-, -, hentregues, -⟩ := oledInit_spec hd hinicia
      show 128 ∣ (_ + (oledInit perdeUma true true (.ligado deOutraVez)).barramento.entregues)
        % 1024
      rw [hentregues, hptr]
      decide
  | succ n =>
      rw [(hperdida n).2, hptr]
      omega

/-- The screen with no flow and no network. -/
def paradaSemRede : Status .exact :=
  ⟨false, false, .normal, 0, 0, taxaPossivel_zero .exact, taxaPossivel_zero .exact⟩

def telaStatus : SBuffer :=
  (desenhaStatus false false "NORMAL".toList (fixo2 0) (fixo2 0) oledClearBuffer).getD
    oledClearBuffer

theorem telaStatus_spec :
    desenhaStatus false false "NORMAL".toList (fixo2 0) (fixo2 0) oledClearBuffer =
      some telaStatus ∧ paradaSemRede.Mostra telaStatus := by
  obtain ⟨buf, hbuf, hmostra⟩ := paradaSemRede.desenhaStatus_pagina
  change desenhaStatus false false "NORMAL".toList (fixo2 0) (fixo2 0) oledClearBuffer =
    some buf at hbuf
  have htela : telaStatus = buf := by rw [telaStatus, hbuf]; rfl
  rw [htela]
  exact ⟨hbuf, hmostra⟩

/-- The cross in the corner of the screen has a byte of its own; seven pages below it
stands the foot of a letter, which is blank there. -/
theorem telaStatus_gira : ¬ telaStatus.IgualGirado 896 := by
  intro hgiro
  obtain ⟨-, hmostra⟩ := telaStatus_spec
  have hcanto : aceso telaStatus 0 0 = true := hmostra.wifi
  have hletra := hmostra.inteira.celulas paradaSemRede.rotuloQuente
    (by simp [Status.rotulos]) 0 'Q' rfl 0 (by decide) 6 (by decide)
  have hbranco : aceso telaStatus 0 56 = false := hletra.trans (by decide)
  -- both pixels are the lowest bit of their bytes
  have hbyte : telaStatus[896]? = telaStatus[0]? := hgiro 0 (by decide)
  have hsame : aceso telaStatus 0 56 = aceso telaStatus 0 0 := by
    unfold aceso
    rw [show pixelIndex 0 56 = 896 from by decide, show pixelIndex 0 0 = 0 from by decide, hbyte]
    rfl
  rw [hcanto, hbranco] at hsame
  cases hsame

/-- The controller after its own reset. -/
def aposReset : Ssd1306 := { ram := fun _ _ => 0 }

/-- One chunk of the first screen is lost. The second screen arrives whole, and 128
bytes behind its place. -/
theorem perdeUma_nao_recupera :
    IniciaSemErro perdeUma aposReset ∧
      (∀ n, oledShowStatus perdeUma false false "NORMAL" 0 0
          (execucaoOled perdeUma aposReset (fun _ => telaStatus) n) =
        some (execucaoOled perdeUma aposReset (fun _ => telaStatus) (n + 1))) ∧
      SemErro perdeUma (execucaoOled perdeUma aposReset (fun _ => telaStatus) 1).barramento
        (execucaoOled perdeUma aposReset (fun _ => telaStatus) 2).barramento ∧
      ¬ (execucaoOled perdeUma aposReset (fun _ => telaStatus) 2).Mostra := by
  have hd : aposReset.Dentro := ⟨by decide, by decide⟩
  have hinicia := perdeUma_inicia aposReset
  obtain ⟨hsem, hentregues⟩ := execucaoOled_perdida (fun _ => telaStatus) hd hinicia rfl
    perdeUma_depois 0
  refine ⟨hinicia, fun n => oledShowStatus_execucao _ telaStatus_spec.1, hsem, ?_⟩
  intro hmostra
  have hgiro := (execucaoOled_mostra_iff hd hinicia hsem).mp hmostra
  rw [hentregues, show aposReset.anel.ptr = 0 from rfl] at hgiro
  exact telaStatus_gira hgiro

end HidroControl
