import HidroControl.Base.DigitalLine
import HidroControl.Pixels
import Mathlib.Data.List.Range
import Mathlib.Data.Rat.Cast.Order
import Mathlib.Tactic.FieldSimp

/-!
# What `oled_line` draws

The loop of `oled_line` keeps one error term and leaves only when both coordinates
have arrived. Seen from its first point, and from the side on which the last one
lies, it is the walk of a digital line (`lacoEm_passeio`), so it arrives in both
coordinates at once, after as many steps as the longer side has. That it needs this
many turns, no more and no fewer, holds of the loop with any fuel, and the fuel of
`oledLine` is enough (`oledLine_reta`).
-/

namespace HidroControl

open DigitalLine

/-- `u0 < u1 ? 1 : -1`. -/
def sentido (u0 u1 : ℤ) : ℤ := if u0 < u1 then 1 else -1

/-! ## The statement -/

/-- `u'` is one unit from `u`, on the side of `u1`. -/
def Aproxima (u1 u u' : ℤ) : Prop := |u' - u| = 1 ∧ |u1 - u'| + 1 = |u1 - u|

/-- From `p` to `q` a line to `(x1, y1)` makes one unit on its longer axis and one or
none on the other. -/
def Passo (x0 y0 x1 y1 : ℤ) (p q : ℤ × ℤ) : Prop :=
  (|y1 - y0| ≤ |x1 - x0| → Aproxima x1 p.1 q.1 ∧ (q.2 = p.2 ∨ Aproxima y1 p.2 q.2)) ∧
    (|x1 - x0| ≤ |y1 - y0| → Aproxima y1 p.2 q.2 ∧ (q.1 = p.1 ∨ Aproxima x1 p.1 q.1))

/-- At `u` the segment from `(u0, v0)` to `(u1, v1)` passes within half a pixel of
`v`. -/
def MeioPixel (u0 v0 u1 v1 u v : ℤ) : Prop :=
  |(v : ℚ) - (v0 + (u - u0) * (v1 - v0) / (u1 - u0))| ≤ 1 / 2

/-- Between two coordinates, whichever is the larger. -/
def Entre (u0 u1 u : ℤ) : Prop := min u0 u1 ≤ u ∧ u ≤ max u0 u1

/-- The points of a line, in the order in which they are drawn. -/
structure Reta (x0 y0 x1 y1 : ℤ) (pontos : List (ℤ × ℤ)) : Prop where
  comprimento : (pontos.length : ℤ) = max |x1 - x0| |y1 - y0| + 1
  primeiro : pontos.head? = some (x0, y0)
  ultimo : pontos.getLast? = some (x1, y1)
  passos : pontos.IsChain (Passo x0 y0 x1 y1)
  dentro : ∀ p ∈ pontos, Entre x0 x1 p.1 ∧ Entre y0 y1 p.2
  perto : ∀ p ∈ pontos,
    (|y1 - y0| ≤ |x1 - x0| → MeioPixel x0 y0 x1 y1 p.1 p.2) ∧
      (|x1 - x0| ≤ |y1 - y0| → MeioPixel y0 x0 y1 x1 p.2 p.1)

/-! ## One axis -/

section Eixo

variable {u0 u1 i i' : ℤ}

theorem sentido_mul_abs (u0 u1 : ℤ) : sentido u0 u1 * |u1 - u0| = u1 - u0 := by
  unfold sentido
  split
  · rw [abs_of_pos (by omega), one_mul]
  · rw [abs_of_nonpos (by omega)]
    ring

theorem abs_sentido (u0 u1 : ℤ) : |sentido u0 u1| = 1 := by
  unfold sentido
  split <;> rfl

theorem sentido_mul_inj {j : ℤ} : sentido u0 u1 * i = sentido u0 u1 * j ↔ i = j := by
  unfold sentido
  split <;> omega

/-- What is left to go after `i` units. -/
theorem falta_eq (hi : i ≤ |u1 - u0|) : |u1 - (u0 + sentido u0 u1 * i)| = |u1 - u0| - i := by
  have hrest : u1 - (u0 + sentido u0 u1 * i) = sentido u0 u1 * (|u1 - u0| - i) := by
    rw [mul_sub, sentido_mul_abs]
    ring
  rw [hrest, abs_mul, abs_sentido, one_mul, abs_of_nonneg (by omega)]

theorem aproxima_of_succ (h : i' = i + 1) (hi : i' ≤ |u1 - u0|) :
    Aproxima u1 (u0 + sentido u0 u1 * i) (u0 + sentido u0 u1 * i') := by
  subst h
  constructor
  · rw [show u0 + sentido u0 u1 * (i + 1) - (u0 + sentido u0 u1 * i) = sentido u0 u1 by ring]
    exact abs_sentido u0 u1
  · rw [falta_eq hi, falta_eq (by omega)]
    ring

theorem entre_of_le (hi : 0 ≤ i) (hle : i ≤ |u1 - u0|) :
    Entre u0 u1 (u0 + sentido u0 u1 * i) := by
  unfold Entre sentido
  rcases lt_or_ge u0 u1 with hlt | hge
  · rw [abs_of_pos (by omega)] at hle
    rw [if_pos hlt, min_eq_left hlt.le, max_eq_right hlt.le]
    omega
  · rw [abs_of_nonpos (by omega)] at hle
    rw [if_neg hge.not_gt, min_eq_right hge, max_eq_left hge]
    omega

theorem sentido_mul_self (u0 u1 : ℤ) : sentido u0 u1 * sentido u0 u1 = 1 := by
  unfold sentido
  split <;> rfl

/-- Measured from the first point the segment is a line of its own. -/
theorem desvio_eq {v0 v1 j : ℤ} (hpos : 0 < |u1 - u0|) :
    ((v0 + sentido v0 v1 * j : ℤ) : ℚ) -
        (v0 + ((u0 + sentido u0 u1 * i : ℤ) - u0) * (v1 - v0) / (u1 - u0)) =
      sentido v0 v1 * ((|u1 - u0| * j - |v1 - v0| * i : ℤ) / (|u1 - u0| : ℤ)) := by
  have hu : (u1 : ℚ) - u0 = sentido u0 u1 * (|u1 - u0| : ℤ) := by
    exact_mod_cast (sentido_mul_abs u0 u1).symm
  have hv : (v1 : ℚ) - v0 = sentido v0 v1 * (|v1 - v0| : ℤ) := by
    exact_mod_cast (sentido_mul_abs v0 v1).symm
  have hsq : (sentido u0 u1 : ℚ) * sentido u0 u1 = 1 := by
    exact_mod_cast sentido_mul_self u0 u1
  have hs : (sentido u0 u1 : ℚ) ≠ 0 := left_ne_zero_of_mul_eq_one hsq
  have ha : ((|u1 - u0| : ℤ) : ℚ) ≠ 0 := by exact_mod_cast hpos.ne'
  rw [hu, hv]
  generalize |u1 - u0| = a at *
  generalize |v1 - v0| = b at *
  push_cast
  field_simp
  ring

/-- A point within half a unit of a flat line is half a pixel from the segment. -/
theorem meioPixel_of_onLine {v0 v1 : ℤ} {p : ℤ × ℤ} (h : OnLine |u1 - u0| |v1 - v0| p)
    (hflat : |v1 - v0| ≤ |u1 - u0|) :
    MeioPixel u0 v0 u1 v1 (u0 + sentido u0 u1 * p.1) (v0 + sentido v0 v1 * p.2) := by
  unfold MeioPixel
  rcases (abs_nonneg (u1 - u0)).eq_or_lt with hzero | hpos
  · -- a line of one point
    have hfst : p.1 = 0 := le_antisymm (h.fst_le.trans hzero.ge) h.fst_nonneg
    have hsnd : p.2 = 0 := by
      have hle := h.snd_le
      have hge := h.snd_nonneg
      omega
    simp [hfst, hsnd]
  · have hnear := h.near
    rw [max_eq_left hflat] at hnear
    have ha : (0 : ℚ) < (|u1 - u0| : ℤ) := by exact_mod_cast hpos
    have hnear' : 2 * |((|u1 - u0| * p.2 - |v1 - v0| * p.1 : ℤ) : ℚ)| ≤ (|u1 - u0| : ℤ) := by
      exact_mod_cast hnear
    have hs : |(sentido v0 v1 : ℚ)| = 1 := by exact_mod_cast abs_sentido v0 v1
    rw [desvio_eq hpos, abs_mul, hs, one_mul, abs_div, abs_of_pos ha, div_le_iff₀ ha]
    linarith

end Eixo

/-! ## The loop is a walk -/

section Laco

variable (x0 y0 x1 y1 : ℤ)

/-- A point of the walk on the screen. -/
def pontoDe (p : ℤ × ℤ) : ℤ × ℤ := (x0 + sentido x0 x1 * p.1, y0 + sentido y0 y1 * p.2)

/-- The walk from the first point to the last. -/
def passeio (k : ℕ) : ℤ × ℤ := walk |x1 - x0| |y1 - y0| k

/-- The steps of the walk: the longer side. -/
def lado : ℕ := (max |x1 - x0| |y1 - y0|).toNat

/-- The loop with the constants of `oled_line`, at the point `p` of the walk. -/
def lacoEm (fuel : ℕ) (p : ℤ × ℤ) : Option (List (ℤ × ℤ)) :=
  pontosLoop x1 y1 |x1 - x0| (-|y1 - y0|) (sentido x0 x1) (sentido y0 y1) fuel
    (pontoDe x0 y0 x1 y1 p).1 (pontoDe x0 y0 x1 y1 p).2 (err |x1 - x0| |y1 - y0| p)

variable {x0 y0 x1 y1} {k n fuel : ℕ}

theorem lado_eq : ((lado x0 y0 x1 y1 : ℕ) : ℤ) = max |x1 - x0| |y1 - y0| :=
  Int.toNat_of_nonneg ((abs_nonneg _).trans (le_max_left _ _))

theorem pontoDe_zero : pontoDe x0 y0 x1 y1 (0, 0) = (x0, y0) := by
  simp [pontoDe]

theorem pontoDe_end : pontoDe x0 y0 x1 y1 (|x1 - x0|, |y1 - y0|) = (x1, y1) := by
  simp only [pontoDe, sentido_mul_abs, add_sub_cancel]

theorem pontoDe_inj {p q : ℤ × ℤ} :
    pontoDe x0 y0 x1 y1 p = pontoDe x0 y0 x1 y1 q ↔ p = q := by
  simp only [pontoDe, Prod.ext_iff, add_right_inj, sentido_mul_inj]

theorem passeio_end : passeio x0 y0 x1 y1 (lado x0 y0 x1 y1) = (|x1 - x0|, |y1 - y0|) :=
  walk_end (abs_nonneg _) (abs_nonneg _)

/-- One turn: a point, and on with the step of the walk unless it is the last. -/
theorem lacoEm_succ (fuel : ℕ) (p : ℤ × ℤ) :
    lacoEm x0 y0 x1 y1 (fuel + 1) p =
      if pontoDe x0 y0 x1 y1 p = (x1, y1) then some [pontoDe x0 y0 x1 y1 p]
      else (lacoEm x0 y0 x1 y1 fuel (step |x1 - x0| |y1 - y0| p)).map
        (pontoDe x0 y0 x1 y1 p :: ·) := by
  obtain ⟨i, j⟩ := p
  unfold lacoEm
  by_cases hend : pontoDe x0 y0 x1 y1 (i, j) = (x1, y1)
  · rw [pontosLoop, if_pos (Prod.ext_iff.mp hend), if_pos hend]
  · rw [pontosLoop, if_neg fun h => hend (Prod.ext h.1 h.2), if_neg hend]
    dsimp only [step, pontoDe]
    -- the four turns there are
    split_ifs
    · rw [err_snd_succ, err_fst_succ, mul_add_one, mul_add_one, ← add_assoc, ← add_assoc]
    · rw [err_fst_succ, mul_add_one, ← add_assoc]
    · rw [err_snd_succ, mul_add_one, ← add_assoc]
    · rfl

/-- **The loop**, from step `k` of the walk with `n` steps to go: it needs `n + 1`
turns. -/
theorem lacoEm_passeio (hkn : k + n = lado x0 y0 x1 y1) :
    lacoEm x0 y0 x1 y1 fuel (passeio x0 y0 x1 y1 k) =
      if n < fuel then
        some ((List.range' k (n + 1)).map fun k => pontoDe x0 y0 x1 y1 (passeio x0 y0 x1 y1 k))
      else none := by
  induction fuel generalizing k n with
  | zero => rfl
  | succ fuel ih =>
      rw [lacoEm_succ]
      cases n with
      | zero =>
          obtain rfl : k = lado x0 y0 x1 y1 := hkn
          rw [passeio_end, if_pos pontoDe_end, if_pos (Nat.zero_lt_succ fuel)]
          simp [passeio_end]
      | succ n =>
          have hne : passeio x0 y0 x1 y1 k ≠ (|x1 - x0|, |y1 - y0|) := by
            apply walk_ne_end (abs_nonneg _) (abs_nonneg _)
            rw [← lado_eq]
            omega
          have hnext : step |x1 - x0| |y1 - y0| (passeio x0 y0 x1 y1 k) =
              passeio x0 y0 x1 y1 (k + 1) := (walk_succ _ _ k).symm
          rw [← pontoDe_end, if_neg fun h => hne (pontoDe_inj.mp h), hnext,
            ih (show k + 1 + n = _ by omega), List.range'_succ]
          by_cases hfuel : n < fuel
          · rw [if_pos hfuel, if_pos (Nat.succ_lt_succ hfuel)]
            rfl
          · rw [if_neg hfuel, if_neg fun h => hfuel (Nat.lt_of_succ_lt_succ h)]
            rfl

end Laco

/-! ## The line -/

/-- The points of the walk on the screen. -/
def pontosReta (x0 y0 x1 y1 : ℤ) : List (ℤ × ℤ) :=
  (List.range (lado x0 y0 x1 y1 + 1)).map fun k =>
    pontoDe x0 y0 x1 y1 (passeio x0 y0 x1 y1 k)

variable {x0 y0 x1 y1 : ℤ}

theorem length_pontosReta : (pontosReta x0 y0 x1 y1).length = lado x0 y0 x1 y1 + 1 := by
  rw [pontosReta, List.length_map, List.length_range]

theorem pontosLoop_eq (x0 y0 x1 y1 : ℤ) (fuel : ℕ) :
    pontosLoop x1 y1 |x1 - x0| (-|y1 - y0|) (sentido x0 x1) (sentido y0 y1) fuel x0 y0
        (|x1 - x0| + -|y1 - y0|) =
      if (pontosReta x0 y0 x1 y1).length ≤ fuel then some (pontosReta x0 y0 x1 y1)
      else none := by
  have hlaco := @lacoEm_passeio x0 y0 x1 y1 0 _ fuel (Nat.zero_add (lado x0 y0 x1 y1))
  have hzero : passeio x0 y0 x1 y1 0 = (0, 0) := rfl
  have herr : err |x1 - x0| |y1 - y0| (0, 0) = |x1 - x0| + -|y1 - y0| := by
    simp only [err]
    ring
  rw [hzero, lacoEm, pontoDe_zero, herr, ← List.range_eq_range'] at hlaco
  rw [length_pontosReta]
  exact hlaco

theorem exists_passeio {p : ℤ × ℤ} (hp : p ∈ pontosReta x0 y0 x1 y1) :
    ∃ q, OnLine |x1 - x0| |y1 - y0| q ∧ p = pontoDe x0 y0 x1 y1 q := by
  obtain ⟨k, hk, rfl⟩ := List.mem_map.mp hp
  refine ⟨passeio x0 y0 x1 y1 k, walk_onLine (abs_nonneg _) (abs_nonneg _) ?_, rfl⟩
  rw [← lado_eq]
  have hlt := List.mem_range.mp hk
  omega

/-- **Half a pixel**, along whichever side is the longer. -/
theorem pontosReta_perto {p : ℤ × ℤ} (hp : p ∈ pontosReta x0 y0 x1 y1) :
    (|y1 - y0| ≤ |x1 - x0| → MeioPixel x0 y0 x1 y1 p.1 p.2) ∧
      (|x1 - x0| ≤ |y1 - y0| → MeioPixel y0 x0 y1 x1 p.2 p.1) := by
  obtain ⟨q, hq, rfl⟩ := exists_passeio hp
  constructor
  · intro hflat
    exact meioPixel_of_onLine hq hflat
  · intro hflat
    have hswap := meioPixel_of_onLine hq.swap hflat
    rwa [Prod.fst_swap, Prod.snd_swap] at hswap

theorem pontosReta_dentro {p : ℤ × ℤ} (hp : p ∈ pontosReta x0 y0 x1 y1) :
    Entre x0 x1 p.1 ∧ Entre y0 y1 p.2 := by
  obtain ⟨q, hq, rfl⟩ := exists_passeio hp
  exact ⟨entre_of_le hq.fst_nonneg hq.fst_le, entre_of_le hq.snd_nonneg hq.snd_le⟩

/-- A step of the walk along its longer side is one on the screen. -/
theorem passo_de_walk {u0 u1 v0 v1 : ℤ} {k : ℕ} (hflat : |v1 - v0| ≤ |u1 - u0|)
    (hk : (k : ℤ) < |u1 - u0|) :
    let p := passeio u0 v0 u1 v1 k
    let q := passeio u0 v0 u1 v1 (k + 1)
    Aproxima u1 (u0 + sentido u0 u1 * p.1) (u0 + sentido u0 u1 * q.1) ∧
      (v0 + sentido v0 v1 * q.2 = v0 + sentido v0 v1 * p.2 ∨
        Aproxima v1 (v0 + sentido v0 v1 * p.2) (v0 + sentido v0 v1 * q.2)) := by
  intro p q
  have hq : OnLine |u1 - u0| |v1 - v0| q := by
    apply walk_onLine (abs_nonneg _) (abs_nonneg _)
    rw [max_eq_left hflat]
    push_cast
    omega
  obtain ⟨hlong, hshort⟩ := walk_step (abs_nonneg (v1 - v0)) hflat hk
  refine ⟨aproxima_of_succ hlong hq.fst_le, ?_⟩
  rcases hshort with hsame | hsucc
  · exact Or.inl (congrArg (v0 + sentido v0 v1 * ·) hsame)
  · exact Or.inr (aproxima_of_succ hsucc hq.snd_le)

theorem pontosReta_passos : (pontosReta x0 y0 x1 y1).IsChain (Passo x0 y0 x1 y1) := by
  rw [pontosReta, List.isChain_map, List.isChain_range_succ]
  intro k hk
  have hlt : (k : ℤ) < max |x1 - x0| |y1 - y0| := by
    rw [← lado_eq]
    exact_mod_cast hk
  constructor
  · intro hflat
    rw [max_eq_left hflat] at hlt
    exact passo_de_walk hflat hlt
  · intro hflat
    rw [max_eq_right hflat] at hlt
    have hpasso := passo_de_walk hflat hlt
    -- the walk of the mirrored line is the mirrored walk
    have hswap (k : ℕ) : passeio y0 x0 y1 x1 k = (passeio x0 y0 x1 y1 k).swap :=
      walk_swap _ _ k
    dsimp only at hpasso
    rw [hswap, hswap] at hpasso
    exact hpasso

theorem reta_pontosReta (x0 y0 x1 y1 : ℤ) : Reta x0 y0 x1 y1 (pontosReta x0 y0 x1 y1) where
  comprimento := by
    rw [length_pontosReta, ← lado_eq]
    rfl
  primeiro := by
    rw [pontosReta, List.head?_map, List.head?_range, if_neg (Nat.succ_ne_zero _)]
    exact congrArg some pontoDe_zero
  ultimo := by
    rw [pontosReta, List.getLast?_map, List.getLast?_range, if_neg (Nat.succ_ne_zero _)]
    exact congrArg some ((congrArg (pontoDe x0 y0 x1 y1) passeio_end).trans pontoDe_end)
  passos := pontosReta_passos
  dentro _ hp := pontosReta_dentro hp
  perto _ hp := pontosReta_perto hp

/-- **No line hangs**: the fuel of `oled_line` lasts for the longer side, which is no
longer than both together. -/
theorem pontosLinha_eq (x0 y0 x1 y1 : ℤ) :
    pontosLinha x0 y0 x1 y1 = some (pontosReta x0 y0 x1 y1) := by
  have hfuel : (pontosReta x0 y0 x1 y1).length ≤ (|x1 - x0| - -|y1 - y0|).toNat + 1 := by
    have hx := abs_nonneg (x1 - x0)
    have hy := abs_nonneg (y1 - y0)
    rw [length_pontosReta, lado]
    omega
  exact (pontosLoop_eq x0 y0 x1 y1 _).trans (if_pos hfuel)

/-- **`oled_line` draws the line.** The points its loop visits, in their order and
wherever they lie, are a line from the first to the last; the loop leaves after as many
turns as there are points, whatever the fuel, and each turn draws one of them. -/
theorem oledLine_reta (x0 y0 x1 y1 : ℤ) :
    ∃ pontos, Reta x0 y0 x1 y1 pontos ∧ pontosLinha x0 y0 x1 y1 = some pontos ∧
      (∀ s, oledLine x0 y0 x1 y1 s = some (desenha pontos s)) ∧
      ∀ fuel s,
        oledLineLoop x1 y1 |x1 - x0| (-|y1 - y0|) (sentido x0 x1) (sentido y0 y1) fuel x0 y0
            (|x1 - x0| + -|y1 - y0|) s =
          if pontos.length ≤ fuel then some (desenha pontos s) else none := by
  refine ⟨pontosReta x0 y0 x1 y1, reta_pontosReta x0 y0 x1 y1,
    pontosLinha_eq x0 y0 x1 y1, ?_, ?_⟩
  · intro s
    rw [oledLine_eq, pontosLinha_eq]
    rfl
  · intro fuel s
    rw [oledLineLoop_eq, pontosLoop_eq]
    split <;> rfl

end HidroControl
