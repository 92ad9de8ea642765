import HidroControl.Base.Ring
import Mathlib.Data.UInt

/-!
# The display controller

What the driver relies on of the SSD1306: display RAM of 8 pages of 128 columns,
an address pointer, three ways of moving it on after a data byte, and the
commands that place it. In page addressing mode a command sets the page and two
set the halves of the column; in the other two modes these commands do nothing.
Commands with an argument take it from the next command byte, whichever transfer
brings it.
-/

namespace HidroControl

open RingMemory

inductive Enderecamento where
  | horizontal
  | vertical
  | pagina
deriving DecidableEq

/-- The controller after its reset, its RAM holding anything. -/
structure Ssd1306 where
  modo : Enderecamento := .pagina
  coluna : ℕ := 0
  pagina : ℕ := 0
  /-- A command that waits for its argument. -/
  pendente : Option UInt8 := none
  ram : ℕ → ℕ → UInt8

namespace Ssd1306

/-- The commands of two bytes that the driver sends. -/
def deDoisBytes : List UInt8 := [0x20, 0x81, 0xA8, 0xD3, 0xD5, 0xD9, 0xDA, 0xDB, 0x8D]

/-- The argument of `0x20`. -/
def enderecamento (b : UInt8) : Enderecamento :=
  if b % 4 = 0 then .horizontal else if b % 4 = 1 then .vertical else .pagina

def argumento (cmd b : UInt8) (d : Ssd1306) : Ssd1306 :=
  if cmd = 0x20 then { d with modo := enderecamento b, pendente := none }
  else { d with pendente := none }

/-- The commands that place the pointer. -/
def posiciona (b : UInt8) (d : Ssd1306) : Ssd1306 :=
  if b < 0x10 then { d with coluna := d.coluna / 16 * 16 + b.toNat }
  else if b < 0x20 then
    { d with coluna := (b.toNat - 0x10) % 8 * 16 + d.coluna % 16 }
  else if 0xB0 ≤ b ∧ b ≤ 0xB7 then { d with pagina := b.toNat - 0xB0 }
  else d

def recebeComando (d : Ssd1306) (b : UInt8) : Ssd1306 :=
  match d.pendente with
  | some cmd => d.argumento cmd b
  | none =>
      if b ∈ deDoisBytes then { d with pendente := some b }
      else if d.modo = .pagina then d.posiciona b
      else d

/-- The pointer after a data byte. -/
def avanca (d : Ssd1306) : Ssd1306 :=
  match d.modo with
  | .horizontal =>
      if d.coluna = 127 then { d with coluna := 0, pagina := (d.pagina + 1) % 8 }
      else { d with coluna := d.coluna + 1 }
  | .vertical =>
      if d.pagina = 7 then { d with pagina := 0, coluna := (d.coluna + 1) % 128 }
      else { d with pagina := d.pagina + 1 }
  | .pagina => { d with coluna := (d.coluna + 1) % 128 }

def recebeDado (d : Ssd1306) (b : UInt8) : Ssd1306 :=
  { d with
    ram := fun p c => if p = d.pagina ∧ c = d.coluna then b else d.ram p c }.avanca

/-- A transfer: a control byte, then commands or data. -/
def recebe (d : Ssd1306) : List UInt8 → Ssd1306
  | 0x00 :: cmds => cmds.foldl recebeComando d
  | 0x40 :: dados => dados.foldl recebeDado d
  | _ => d

/-! ## Horizontal addressing is a ring of 1024 cells -/

/-- The controller is in horizontal addressing and expects a command. -/
structure Horizontal (d : Ssd1306) : Prop where
  modo : d.modo = .horizontal
  pendente : d.pendente = none
  coluna : d.coluna < 128
  pagina : d.pagina < 8

/-- The RAM in the order in which horizontal addressing goes through it. -/
def anel (d : Ssd1306) : State UInt8 where
  ptr := d.pagina * 128 + d.coluna
  cell := fun a => d.ram (a / 128) (a % 128)

/-- The pointer is inside the RAM. -/
structure Dentro (d : Ssd1306) : Prop where
  coluna : d.coluna < 128
  pagina : d.pagina < 8

theorem Horizontal.ptr_lt {d : Ssd1306} (h : d.Horizontal) : d.anel.ptr < 1024 := by
  have hcoluna := h.coluna
  have hpagina := h.pagina
  show d.pagina * 128 + d.coluna < 1024
  omega

/-- **A data byte** is one write round the ring. -/
theorem Horizontal.recebeDado {d : Ssd1306} (h : d.Horizontal) (b : UInt8) :
    (d.recebeDado b).Horizontal ∧ (d.recebeDado b).anel = write 1024 d.anel b := by
  obtain ⟨modo, coluna, pagina, pendente, ram⟩ := d
  obtain ⟨hmodo, hpendente, hcoluna, hpagina⟩ := h
  dsimp only at hmodo hpendente hcoluna hpagina
  subst hmodo
  subst hpendente
  have hcell : (fun a => if a / 128 = pagina ∧ a % 128 = coluna then b
      else ram (a / 128) (a % 128)) =
      Function.update (fun a => ram (a / 128) (a % 128)) (pagina * 128 + coluna) b := by
    funext a
    by_cases ha : a = pagina * 128 + coluna
    · subst ha
      rw [if_pos (by omega), Function.update_self]
    · rw [if_neg (by omega), Function.update_of_ne ha]
  by_cases hlast : coluna = 127
  · subst hlast
    refine ⟨⟨rfl, rfl, Nat.zero_lt_succ _, Nat.mod_lt _ (Nat.zero_lt_succ _)⟩, ?_⟩
    simp only [Ssd1306.recebeDado, avanca, anel, write, if_true, hcell]
    congr 1
    omega
  · simp only [Ssd1306.recebeDado, avanca, anel, write, if_neg hlast, hcell]
    refine ⟨⟨rfl, rfl, ?_, hpagina⟩, ?_⟩
    · show coluna + 1 < 128
      omega
    · congr 1
      omega

theorem Horizontal.recebeDados {d : Ssd1306} (h : d.Horizontal) (dados : List UInt8) :
    (dados.foldl Ssd1306.recebeDado d).Horizontal ∧
      (dados.foldl Ssd1306.recebeDado d).anel = writes 1024 d.anel dados := by
  induction dados generalizing d with
  | nil => exact ⟨h, rfl⟩
  | cons b dados ih =>
      obtain ⟨hb, hanel⟩ := h.recebeDado b
      obtain ⟨hdados, hanel'⟩ := ih hb
      refine ⟨hdados, ?_⟩
      rw [List.foldl_cons, hanel', hanel]
      rfl

/-- **A command of one byte** does nothing: the pointer cannot be placed. -/
theorem Horizontal.recebeComando {d : Ssd1306} (h : d.Horizontal) {b : UInt8}
    (hb : b ∉ deDoisBytes) : d.recebeComando b = d := by
  unfold Ssd1306.recebeComando
  rw [h.pendente, h.modo]
  simp [hb]

end Ssd1306

end HidroControl
