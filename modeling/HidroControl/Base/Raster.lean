import Mathlib.Data.List.Basic
import Mathlib.Data.List.Pairwise
import Mathlib.Data.List.DropRight
import Mathlib.Logic.Function.Basic

/-!
# Pages of figures and monospaced text

A page is a list of figures, each inside a box of its own. Where the boxes are apart
nothing covers anything (`Figure.lit_page`): inside the box of a figure the page
shows that figure. A text in a font of fixed pitch is such a figure (`Label.figure`), and
a reader that compares each cell with the glyphs of an alphabet gets the text back
(`Legible.read_eq`) when the glyphs of the alphabet are all different and the text does
not end in a blank.
-/

namespace Raster

/-! ## Boxes and figures -/

structure Box where
  x : ℕ
  y : ℕ
  w : ℕ
  h : ℕ
deriving DecidableEq

namespace Box

def Has (b : Box) (x y : ℕ) : Prop :=
  (b.x ≤ x ∧ x < b.x + b.w) ∧ (b.y ≤ y ∧ y < b.y + b.h)

instance (b : Box) (x y : ℕ) : Decidable (b.Has x y) := inferInstanceAs (Decidable (_ ∧ _))

/-- No point in common, told from the sides. -/
def Apart (a b : Box) : Prop :=
  (a.x + a.w ≤ b.x ∨ b.x + b.w ≤ a.x) ∨ (a.y + a.h ≤ b.y ∨ b.y + b.h ≤ a.y)

instance (a b : Box) : Decidable (a.Apart b) := inferInstanceAs (Decidable (_ ∨ _))

def Inside (a b : Box) : Prop :=
  (b.x ≤ a.x ∧ a.x + a.w ≤ b.x + b.w) ∧ (b.y ≤ a.y ∧ a.y + a.h ≤ b.y + b.h)

instance (a b : Box) : Decidable (a.Inside b) := inferInstanceAs (Decidable (_ ∧ _))

variable {a b c d : Box} {x y : ℕ}

theorem Apart.symm (h : a.Apart b) : b.Apart a := by
  unfold Apart at *
  omega

theorem Apart.not_has (h : a.Apart b) (ha : a.Has x y) : ¬ b.Has x y := by
  unfold Apart at h
  unfold Has at *
  omega

theorem Inside.refl (b : Box) : b.Inside b :=
  ⟨⟨le_rfl, le_rfl⟩, le_rfl, le_rfl⟩

theorem Inside.has (h : a.Inside b) (ha : a.Has x y) : b.Has x y := by
  unfold Inside at h
  unfold Has at *
  omega

theorem Inside.trans (h : a.Inside b) (h' : b.Inside c) : a.Inside c := by
  unfold Inside at *
  omega

/-- What lies inside boxes that are apart is apart. -/
theorem Apart.mono (h : a.Apart b) (hc : c.Inside a) (hd : d.Inside b) : c.Apart d := by
  unfold Apart at *
  unfold Inside at *
  omega

end Box

/-- Some points, all of them in a box. -/
structure Figure where
  box : Box
  Lit : ℕ → ℕ → Prop
  inside : ∀ x y, Lit x y → box.Has x y

/-- **Nothing covers anything.** In a page whose boxes are apart, a point in the box
of a figure is lit exactly when the figure lights it. -/
theorem Figure.lit_page {page : List Figure}
    (hapart : page.Pairwise fun f g => f.box.Apart g.box) {f : Figure} (hf : f ∈ page)
    {x y : ℕ} (hxy : f.box.Has x y) : (∃ g ∈ page, g.Lit x y) ↔ f.Lit x y := by
  constructor
  · rintro ⟨g, hg, hlit⟩
    by_cases hfg : f = g
    · subst hfg
      exact hlit
    · -- another figure would have the point in its own box
      have hsymm : Std.Symm fun f g : Figure => f.box.Apart g.box :=
        ⟨fun _ _ h => h.symm⟩
      have h := hapart.forall hf hg hfg
      exact absurd (g.inside x y hlit) (h.not_has hxy)
  · intro hlit
    exact ⟨f, hf, hlit⟩

/-! ## Fonts -/

/-- Glyphs of `w` by `h` points, one every `pitch` points. -/
structure Font (α : Type*) where
  w : ℕ
  h : ℕ
  pitch : ℕ
  w_le : w ≤ pitch
  glyph : α → ℕ → ℕ → Bool

variable {α : Type*}

/-- A text and room for it: `n` cells from `(x, y)` on. -/
structure Label (α : Type*) where
  x : ℕ
  y : ℕ
  n : ℕ
  text : List α
  fits : text.length ≤ n

namespace Font

variable (F : Font α)

/-- The point `(x, y)` is lit when `text` is written from `(x₀, y₀)` on. -/
def Writes (text : List α) (x₀ y₀ x y : ℕ) : Prop :=
  ∃ i c, text[i]? = some c ∧ ∃ col < F.w, ∃ row < F.h,
    x = x₀ + F.pitch * i + col ∧ y = y₀ + row ∧ F.glyph c col row = true

/-- The cell of character number `i`. -/
def cell (x₀ y₀ i : ℕ) : Box := ⟨x₀ + F.pitch * i, y₀, F.w, F.h⟩

/-- The room of `n` cells. -/
def room (x₀ y₀ n : ℕ) : Box := ⟨x₀, y₀, F.pitch * n, F.h⟩

theorem cell_inside_room {i n : ℕ} (h : i < n) (x₀ y₀ : ℕ) :
    (F.cell x₀ y₀ i).Inside (F.room x₀ y₀ n) := by
  have hmul : F.pitch * (i + 1) ≤ F.pitch * n := Nat.mul_le_mul_left _ h
  have hw := F.w_le
  rw [Nat.mul_succ] at hmul
  unfold Box.Inside cell room
  dsimp only
  omega

/-- The cells of a text are apart. -/
theorem cells_pairwise (x₀ y₀ n : ℕ) :
    ((List.range n).map (F.cell x₀ y₀)).Pairwise Box.Apart := by
  rw [List.pairwise_map]
  refine List.pairwise_lt_range.imp ?_
  intro i j hij
  have hmul : F.pitch * (i + 1) ≤ F.pitch * j := Nat.mul_le_mul_left _ hij
  have hw := F.w_le
  rw [Nat.mul_succ] at hmul
  unfold Box.Apart cell
  dsimp only
  omega

/-- Inside cell `i` stands the glyph of character `i`. -/
theorem writes_cell (text : List α) (x₀ y₀ : ℕ) {i col row : ℕ} (hcol : col < F.w)
    (hrow : row < F.h) :
    F.Writes text x₀ y₀ (x₀ + F.pitch * i + col) (y₀ + row) ↔
      ∃ c, text[i]? = some c ∧ F.glyph c col row = true := by
  have hw := F.w_le
  constructor
  · rintro ⟨j, c, hc, col', hcol', row', -, hx, hy, hlit⟩
    -- columns and cells are the rest and the quotient by the pitch
    have hdiv (k m : ℕ) (hm : m < F.w) : (F.pitch * k + m) / F.pitch = k := by
      rw [Nat.mul_add_div (by omega), Nat.div_eq_of_lt (by omega), Nat.add_zero]
    have hij : i = j := by
      rw [← hdiv i col hcol, ← hdiv j col' hcol']
      congr 1
      omega
    subst hij
    obtain rfl : col = col' := by omega
    obtain rfl : row = row' := by omega
    exact ⟨c, hc, hlit⟩
  · rintro ⟨c, hc, hlit⟩
    exact ⟨i, c, hc, col, hcol, row, hrow, rfl, rfl, hlit⟩

end Font

/-- A text is a figure in its room. -/
def Label.figure (F : Font α) (l : Label α) : Figure where
  box := F.room l.x l.y l.n
  Lit := F.Writes l.text l.x l.y
  inside := by
    rintro x y ⟨i, c, hc, col, hcol, row, hrow, rfl, rfl, -⟩
    have hi : i < l.n := (List.getElem?_eq_some_iff.mp hc).1.trans_le l.fits
    apply (F.cell_inside_room hi l.x l.y).has
    unfold Box.Has Font.cell
    dsimp only
    omega

/-- The cells that the characters of a text take. -/
def Label.cells (F : Font α) (l : Label α) : List Box :=
  (List.range l.text.length).map (F.cell l.x l.y)

theorem Label.cell_inside {F : Font α} {l : Label α} {b : Box} (hb : b ∈ l.cells F) :
    b.Inside (l.figure F).box := by
  obtain ⟨i, hi, rfl⟩ := List.mem_map.mp hb
  exact F.cell_inside_room ((List.mem_range.mp hi).trans_le l.fits) l.x l.y

/-- **No two characters overlap** where the rooms of the texts are apart. -/
theorem Label.cells_pairwise {F : Font α} {labels : List (Label α)}
    (h : labels.Pairwise fun l m => (l.figure F).box.Apart (m.figure F).box) :
    (labels.flatMap (Label.cells F)).Pairwise Box.Apart := by
  rw [List.pairwise_flatMap]
  constructor
  · intro l _
    exact F.cells_pairwise l.x l.y l.text.length
  · refine h.imp ?_
    intro l m hlm b hb d hd
    exact hlm.mono (cell_inside hb) (cell_inside hd)

theorem Label.has_cell {F : Font α} (l : Label α) {i col row : ℕ} (hi : i < l.n)
    (hcol : col < F.w) (hrow : row < F.h) :
    (l.figure F).box.Has (l.x + F.pitch * i + col) (l.y + row) := by
  apply (F.cell_inside_room hi l.x l.y).has
  unfold Box.Has Font.cell
  dsimp only
  omega

/-- **A cell of a page** shows the glyph of its character and nothing else. -/
theorem Label.lit_cell {F : Font α} {page : List Figure}
    (hapart : page.Pairwise fun f g => f.box.Apart g.box) {l : Label α}
    (hl : l.figure F ∈ page) {i col row : ℕ} (hi : i < l.n) (hcol : col < F.w)
    (hrow : row < F.h) :
    (∃ g ∈ page, g.Lit (l.x + F.pitch * i + col) (l.y + row)) ↔
      ∃ c, l.text[i]? = some c ∧ F.glyph c col row = true := by
  rw [Figure.lit_page hapart hl (l.has_cell hi hcol hrow)]
  exact F.writes_cell l.text l.x l.y hcol hrow

/-! ## Reading -/

namespace Font

variable (F : Font α) (blank : α) (alphabet : List α)

/-- What a page shows in cell `i`: the letter with the same points. -/
def readCell (pic : ℕ → ℕ → Bool) (x₀ y₀ i : ℕ) : α :=
  (alphabet.find? fun c => decide (∀ col < F.w, ∀ row < F.h,
    pic (x₀ + F.pitch * i + col) (y₀ + row) = F.glyph c col row)).getD blank

/-- The text in `n` cells, without the blanks at its end. -/
def read [BEq α] (pic : ℕ → ℕ → Bool) (x₀ y₀ n : ℕ) : List α :=
  ((List.range n).map (F.readCell blank alphabet pic x₀ y₀)).rdropWhile (· == blank)

/-- The same points. -/
def SameGlyph (a b : α) : Prop :=
  ∀ col < F.w, ∀ row < F.h, F.glyph a col row = F.glyph b col row

instance (a b : α) : Decidable (F.SameGlyph a b) :=
  inferInstanceAs (Decidable (∀ col < F.w, ∀ row < F.h, _ = _))

/-- The letters of an alphabet can be told apart by their points, and its blank has
none. -/
structure Legible : Prop where
  blank_mem : blank ∈ alphabet
  blank_glyph : ∀ col < F.w, ∀ row < F.h, F.glyph blank col row = false
  distinct : ∀ a ∈ alphabet, ∀ b ∈ alphabet, F.SameGlyph a b → a = b

variable {F blank alphabet} {pic : ℕ → ℕ → Bool} {x₀ y₀ : ℕ}

theorem Legible.readCell_eq (hF : F.Legible blank alphabet) {i : ℕ} {c : α}
    (hc : c ∈ alphabet)
    (hpic : ∀ col < F.w, ∀ row < F.h,
      pic (x₀ + F.pitch * i + col) (y₀ + row) = F.glyph c col row) :
    F.readCell blank alphabet pic x₀ y₀ i = c := by
  unfold readCell
  cases hfind : alphabet.find? fun c => decide (∀ col < F.w, ∀ row < F.h,
      pic (x₀ + F.pitch * i + col) (y₀ + row) = F.glyph c col row) with
  | none =>
      have hnone := List.find?_eq_none.mp hfind c hc
      exact absurd (decide_eq_true hpic) hnone
  | some a =>
      -- a letter found before `c` shows the same points
      have hsome := List.find?_some hfind
      have ha := of_decide_eq_true hsome
      apply hF.distinct a (List.mem_of_find?_eq_some hfind) c hc
      intro col hcol row hrow
      rw [← ha col hcol row hrow, hpic col hcol row hrow]

theorem rdropWhile_append_replicate [BEq α] [LawfulBEq α] {text : List α} (k : ℕ)
    (hlast : text.getLast? ≠ some blank) :
    (text ++ List.replicate k blank).rdropWhile (· == blank) = text := by
  induction k with
  | zero =>
      rw [List.replicate_zero, List.append_nil, List.rdropWhile_eq_self_iff]
      intro hne heq
      rw [beq_iff_eq] at heq
      apply hlast
      rw [List.getLast?_eq_some_getLast hne, heq]
  | succ k ih =>
      rw [List.replicate_succ', ← List.append_assoc, List.rdropWhile_concat_pos _ _ _ (by simp),
        ih]

/-- **Reading.** On a page whose boxes are apart the reader gets each text back. -/
theorem Legible.read_eq [BEq α] [LawfulBEq α] (hF : F.Legible blank alphabet)
    {page : List Figure} (hapart : page.Pairwise fun f g => f.box.Apart g.box)
    {l : Label α} (hl : l.figure F ∈ page)
    (hpic : ∀ x y, (l.figure F).box.Has x y → (pic x y = true ↔ ∃ g ∈ page, g.Lit x y))
    (htext : ∀ c ∈ l.text, c ∈ alphabet) (hlast : l.text.getLast? ≠ some blank) :
    F.read blank alphabet pic l.x l.y l.n = l.text := by
  have hcell : ∀ i < l.n, F.readCell blank alphabet pic l.x l.y i =
      (l.text[i]?).getD blank := by
    intro i hi
    apply hF.readCell_eq
    · cases hc : l.text[i]? with
      | none => exact hF.blank_mem
      | some c => exact htext c (List.mem_of_getElem? hc)
    · intro col hcol row hrow
      rw [Bool.eq_iff_iff, hpic _ _ (l.has_cell hi hcol hrow),
        Label.lit_cell hapart hl hi hcol hrow]
      cases l.text[i]? with
      | none => simp [hF.blank_glyph col hcol row hrow]
      | some c => simp
  have hcells : (List.range l.n).map (F.readCell blank alphabet pic l.x l.y) =
      l.text ++ List.replicate (l.n - l.text.length) blank := by
    apply List.ext_getElem?
    intro i
    have hfits := l.fits
    rw [List.getElem?_map, List.getElem?_append, List.getElem?_replicate]
    by_cases hi : i < l.n
    · rw [List.getElem?_range hi, Option.map_some, hcell i hi]
      split
      · next hlen => simp [List.getElem?_eq_getElem hlen]
      · next hlen =>
          -- a cell behind the text reads as a blank
          rw [List.getElem?_eq_none (by omega), if_pos (by omega)]
          rfl
    · rw [List.getElem?_eq_none (by simpa using hi), if_neg (by omega), if_neg (by omega)]
      rfl
  rw [read, hcells]
  exact rdropWhile_append_replicate _ hlast

end Font

end Raster
