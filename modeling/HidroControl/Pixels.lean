import HidroControl.Oled

/-!
# What the drawing functions light

Every drawing function of `oled.cpp` only ever lights pixels. The file says which:
one lemma for `oled_pixel`, and from it, by the shape of the loops, one for a
character, a text, and a line. A pixel outside the screen is never lit, so clipping
is one condition at the end of each of them.
-/

namespace HidroControl

open CText

/-- The pixel is on the screen and its bit is set. -/
def aceso (s : SBuffer) (x y : ℤ) : Bool :=
  !decide (foraDaTela x y) && (s[pixelIndex x y]?.getD 0).toNat.testBit (y % 8).toNat

variable {s : SBuffer} {x y px py : ℤ}

theorem aceso_of_fora (h : foraDaTela px py) : aceso s px py = false := by
  simp [aceso, h]

theorem aceso_clear (x y : ℤ) : aceso oledClearBuffer x y = false := by
  unfold aceso oledClearBuffer
  rw [Vector.getElem?_replicate]
  split <;> simp

/-! ## One pixel -/

theorem pixelIndex_eq_iff (h : ¬ foraDaTela x y) (hp : ¬ foraDaTela px py) :
    pixelIndex x y = pixelIndex px py ↔ px = x ∧ py / 8 = y / 8 := by
  unfold foraDaTela oledWidth oledHeight at *
  unfold pixelIndex oledWidth
  omega

theorem pixelBit_testBit (y : ℤ) (k : ℕ) :
    (pixelBit y).toNat.testBit k = decide ((y % 8).toNat = k) := by
  have hbit : ∀ m < 8, ((1 : UInt8) <<< UInt8.ofNat m).toNat = 2 ^ m := by decide
  rw [pixelBit, hbit _ (by omega), Nat.testBit_two_pow]

theorem aceso_oledPixel (x y : ℤ) (s : SBuffer) (px py : ℤ) :
    aceso (oledPixel x y true s) px py = true ↔
      aceso s px py = true ∨ (¬ foraDaTela px py ∧ px = x ∧ py = y) := by
  by_cases hp : foraDaTela px py
  · simp [aceso_of_fora hp, hp]
  by_cases h : foraDaTela x y
  · -- nothing is drawn, and the pixel asked about is another one
    have hne : ¬ (px = x ∧ py = y) := by
      rintro ⟨rfl, rfl⟩
      exact hp h
    simp [oledPixel, h, hne]
  · have hi := pixelIndex_lt h
    simp only [oledPixel, dif_neg h, aceso, Vector.getElem?_set hi]
    by_cases hindex : pixelIndex x y = pixelIndex px py
    · obtain ⟨rfl, hpage⟩ := (pixelIndex_eq_iff h hp).mp hindex
      have hrow : (y % 8).toNat = (py % 8).toNat ↔ py = y := by omega
      rw [← hindex, Vector.getElem?_eq_getElem hi]
      simp [hp, pixelBit_testBit, hrow]
    · have hne : ¬ (px = x ∧ py = y) := by
        rintro ⟨rfl, rfl⟩
        exact hindex rfl
      simp [hindex, hne]

/-! ## Points -/

/-- The points of a list, one after the other. -/
def desenha (pontos : List (ℤ × ℤ)) (s : SBuffer) : SBuffer :=
  pontos.foldl (fun s p => oledPixel p.1 p.2 true s) s

theorem desenha_append (p q : List (ℤ × ℤ)) (s : SBuffer) :
    desenha (p ++ q) s = desenha q (desenha p s) := List.foldl_append

theorem aceso_desenha (pontos : List (ℤ × ℤ)) (s : SBuffer) (px py : ℤ) :
    aceso (desenha pontos s) px py = true ↔
      aceso s px py = true ∨ (¬ foraDaTela px py ∧ (px, py) ∈ pontos) := by
  induction pontos generalizing s with
  | nil => simp [desenha]
  | cons p pontos ih =>
      have hstep : desenha (p :: pontos) s = desenha pontos (oledPixel p.1 p.2 true s) := rfl
      rw [hstep, ih, aceso_oledPixel, or_assoc, ← and_or_left, List.mem_cons, Prod.ext_iff]

/-! ## Text -/

/-- Row `row` of column `col` of a character's glyph. -/
def glifo (c : Char) (col row : ℕ) : Bool := linhaAcesa ((font5x7 c).getD col 0) row

/-- The points of a character, column by column. -/
def pontosChar (x y : ℤ) (c : Char) : List (ℤ × ℤ) :=
  (List.range 5).flatMap fun col =>
    ((List.range 7).filter (glifo c col)).map fun row : ℕ => (x + (col : ℕ), y + row)

/-- The points of a text, 6 pixels to the right for each character. -/
def pontosTexto (x y : ℤ) : Text → List (ℤ × ℤ)
  | [] => []
  | c :: txt => pontosChar x y c ++ pontosTexto (x + 6) y txt

/-- The two loops of `oled_char` go through the points of the character. -/
theorem oledChar_eq (x y : ℤ) (c : Char) (s : SBuffer) :
    oledChar x y c s = desenha (pontosChar x y c) s := by
  unfold desenha pontosChar
  rw [List.foldl_flatMap]
  simp only [List.foldl_map, List.foldl_filter]
  rfl

/-- A text is its points. -/
theorem oledText_eq (x y : ℤ) (txt : Text) (s : SBuffer) :
    oledText x y txt s = desenha (pontosTexto x y txt) s := by
  induction txt generalizing x s with
  | nil => rfl
  | cons c txt ih => rw [oledText, pontosTexto, desenha_append, ih, oledChar_eq]

variable {c : Char} {txt : Text}

theorem mem_pontosChar :
    (px, py) ∈ pontosChar x y c ↔ ∃ col < 5, ∃ row < 7,
      px = x + (col : ℕ) ∧ py = y + (row : ℕ) ∧ glifo c col row = true := by
  simp only [pontosChar, List.mem_flatMap, List.mem_range, List.mem_map, List.mem_filter,
    Prod.mk.injEq]
  constructor
  · rintro ⟨col, hcol, row, ⟨hrow, h⟩, rfl, rfl⟩
    exact ⟨col, hcol, row, hrow, rfl, rfl, h⟩
  · rintro ⟨col, hcol, row, hrow, rfl, rfl, h⟩
    exact ⟨col, hcol, row, ⟨hrow, h⟩, rfl, rfl⟩

theorem mem_pontosTexto :
    (px, py) ∈ pontosTexto x y txt ↔ ∃ i c, txt[i]? = some c ∧
      ∃ col < 5, ∃ row < 7, px = x + 6 * (i : ℕ) + (col : ℕ) ∧ py = y + (row : ℕ) ∧
        glifo c col row = true := by
  induction txt generalizing x with
  | nil => simp [pontosTexto]
  | cons c txt ih =>
      rw [pontosTexto, List.mem_append, mem_pontosChar, ih]
      constructor
      · rintro (⟨col, hcol, row, hrow, rfl, h⟩ | ⟨i, d, hd, col, hcol, row, hrow, rfl, h⟩)
        · exact ⟨0, c, rfl, col, hcol, row, hrow, by simp, h⟩
        · exact ⟨i + 1, d, hd, col, hcol, row, hrow, by push_cast; ring, h⟩
      · rintro ⟨_ | i, d, hd, col, hcol, row, hrow, rfl, h⟩
        · obtain rfl : c = d := Option.some.inj hd
          exact Or.inl ⟨col, hcol, row, hrow, by simp, h⟩
        · exact Or.inr ⟨i, d, hd, col, hcol, row, hrow, by push_cast; ring, h⟩

/-- **Text.** Character `i` stands 6 pixels to the right of the one before, and
what falls outside the screen changes nothing. -/
theorem aceso_oledText (x y : ℤ) (txt : Text) (s : SBuffer) (px py : ℤ) :
    aceso (oledText x y txt s) px py = true ↔
      aceso s px py = true ∨ (¬ foraDaTela px py ∧ ∃ i c, txt[i]? = some c ∧
        ∃ col < 5, ∃ row < 7, px = x + 6 * (i : ℕ) + (col : ℕ) ∧ py = y + (row : ℕ) ∧
          glifo c col row = true) := by
  rw [oledText_eq, aceso_desenha, mem_pontosTexto]

/-! ## Clipping -/

/-- The byte of the buffer that a call of `oled_pixel` reads and writes. -/
def acesso (p : ℤ × ℤ) : Option ℕ :=
  if foraDaTela p.1 p.2 then none else some (pixelIndex p.1 p.2)

theorem acesso_lt {p : ℤ × ℤ} {i : ℕ} (h : acesso p = some i) : i < 1024 := by
  unfold acesso at h
  split at h
  · cases h
  · next hp =>
      cases h
      exact pixelIndex_lt hp

theorem oledPixel_fora (h : foraDaTela x y) (on : Bool) (s : SBuffer) :
    oledPixel x y on s = s := dif_pos h

/-- A byte that the call does not access stays as it was. -/
theorem oledPixel_frame {i : ℕ} (h : acesso (x, y) ≠ some i) (on : Bool) (s : SBuffer) :
    (oledPixel x y on s)[i]? = s[i]? := by
  by_cases hp : foraDaTela x y
  · rw [oledPixel_fora hp]
  · have hne : pixelIndex x y ≠ i := by
      rintro rfl
      exact h (if_neg hp)
    rw [oledPixel, dif_neg hp]
    exact Vector.getElem?_set_ne (pixelIndex_lt hp) hne

theorem desenha_frame {i : ℕ} {pontos : List (ℤ × ℤ)} (h : ∀ p ∈ pontos, acesso p ≠ some i)
    (s : SBuffer) : (desenha pontos s)[i]? = s[i]? := by
  induction pontos generalizing s with
  | nil => rfl
  | cons p pontos ih =>
      have hstep : desenha (p :: pontos) s = desenha pontos (oledPixel p.1 p.2 true s) := rfl
      rw [hstep, ih fun q hq => h q (List.mem_cons_of_mem p hq)]
      exact oledPixel_frame (h p List.mem_cons_self) true s

/-- The points on the screen. -/
def visiveis (pontos : List (ℤ × ℤ)) : List (ℤ × ℤ) :=
  pontos.filter fun p => !decide (foraDaTela p.1 p.2)

/-- Points outside the screen might as well not be drawn. -/
theorem desenha_visiveis (pontos : List (ℤ × ℤ)) (s : SBuffer) :
    desenha (visiveis pontos) s = desenha pontos s := by
  unfold desenha visiveis
  rw [List.foldl_filter]
  congr 1
  funext s p
  by_cases hp : foraDaTela p.1 p.2
  · simp [hp, oledPixel_fora]
  · simp [hp]

/-- **Text is exact and clipped.** The calls of `oled_pixel` that a text makes access
bytes of the buffer only; a pixel of the screen is lit afterwards if it was before or
the glyph of a character has it there; the bytes that are not accessed stay, and the
points outside the screen change nothing. -/
theorem oledText_recorte (x y : ℤ) (txt : Text) (s : SBuffer) :
    (∀ i ∈ (pontosTexto x y txt).filterMap acesso, i < 1024) ∧
    (∀ px py : ℤ, 0 ≤ px → px < 128 → 0 ≤ py → py < 64 →
      (aceso (oledText x y txt s) px py = true ↔
        aceso s px py = true ∨ ∃ i c, txt[i]? = some c ∧ ∃ col < 5, ∃ row < 7,
          px = x + 6 * (i : ℕ) + (col : ℕ) ∧ py = y + (row : ℕ) ∧ glifo c col row = true)) ∧
    oledText x y txt s = desenha (pontosTexto x y txt) s ∧
    (∀ i, i ∉ (pontosTexto x y txt).filterMap acesso →
      (oledText x y txt s)[i]? = s[i]?) ∧
    oledText x y txt s = desenha (visiveis (pontosTexto x y txt)) s := by
  refine ⟨?_, ?_, oledText_eq x y txt s, ?_, ?_⟩
  · intro i hi
    obtain ⟨p, -, hp⟩ := List.mem_filterMap.mp hi
    exact acesso_lt hp
  · intro px py hx hx' hy hy'
    have hdentro : ¬ foraDaTela px py := by
      unfold foraDaTela oledWidth oledHeight
      omega
    rw [aceso_oledText, and_iff_right hdentro]
  · intro i hi
    rw [oledText_eq]
    apply desenha_frame
    intro p hp hacesso
    exact hi (List.mem_filterMap.mpr ⟨p, hp, hacesso⟩)
  · rw [desenha_visiveis, oledText_eq]

/-- Half of an equals sign, in the lower left corner of the screen: one bar is above
the edge, and nothing of it comes back on the right. -/
theorem oledText_canto :
    aceso (oledText (-3) 60 ['='] oledClearBuffer) 0 62 = true ∧
      aceso (oledText (-3) 60 ['='] oledClearBuffer) 127 62 = false := by
  have h := (oledText_recorte (-3) 60 ['='] oledClearBuffer).2.1
  constructor
  · rw [h 0 62 (by decide) (by decide) (by decide) (by decide)]
    exact Or.inr ⟨0, '=', rfl, 3, by decide, 2, by decide, by decide, by decide, by decide⟩
  · rw [← Bool.not_eq_true, h 127 62 (by decide) (by decide) (by decide) (by decide),
      aceso_clear]
    rintro (h | ⟨i, c, hi, col, hcol, row, hrow, hx, -⟩)
    · cases h
    · have hlt : i < 1 := (List.getElem?_eq_some_iff.mp hi).1
      omega

/-! ## Lines -/

/-- The points that the loop of `oled_line` goes through. -/
def pontosLoop (x1 y1 dx dy sx sy : ℤ) : ℕ → ℤ → ℤ → ℤ → Option (List (ℤ × ℤ))
  | 0, _, _, _ => none
  | fuel + 1, x0, y0, err =>
      if x0 = x1 ∧ y0 = y1 then some [(x0, y0)]
      else
        let e2 := 2 * err
        let (err, x0') := if dy ≤ e2 then (err + dy, x0 + sx) else (err, x0)
        let (err, y0') := if e2 ≤ dx then (err + dx, y0 + sy) else (err, y0)
        (pontosLoop x1 y1 dx dy sx sy fuel x0' y0' err).map ((x0, y0) :: ·)

def pontosLinha (x0 y0 x1 y1 : ℤ) : Option (List (ℤ × ℤ)) :=
  let dx : ℤ := |x1 - x0|
  let sx : ℤ := if x0 < x1 then 1 else -1
  let dy : ℤ := -|y1 - y0|
  let sy : ℤ := if y0 < y1 then 1 else -1
  pontosLoop x1 y1 dx dy sx sy ((dx - dy).toNat + 1) x0 y0 (dx + dy)

theorem oledLineLoop_eq (x1 y1 dx dy sx sy : ℤ) (fuel : ℕ) (x0 y0 err : ℤ)
    (s : SBuffer) :
    oledLineLoop x1 y1 dx dy sx sy fuel x0 y0 err s =
      (pontosLoop x1 y1 dx dy sx sy fuel x0 y0 err).map (desenha · s) := by
  induction fuel generalizing x0 y0 err s with
  | zero => rfl
  | succ fuel ih =>
      simp only [oledLineLoop, pontosLoop]
      split
      · rfl
      · rw [ih, Option.map_map]
        rfl

/-- A line is its points. -/
theorem oledLine_eq (x0 y0 x1 y1 : ℤ) (s : SBuffer) :
    oledLine x0 y0 x1 y1 s = (pontosLinha x0 y0 x1 y1).map (desenha · s) :=
  oledLineLoop_eq ..

end HidroControl
