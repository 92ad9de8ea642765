import HidroControl.Base.CText
import HidroControl.Fluxo

/-!
# Printed rates

The telemetry frame and the status screen print a rate with `%.2f`. The rates there
can be are the initial zero and what `fluxo_update` computes from a difference of two
32-bit counters over a window of at least a second. They stay below `7 * 10^8`
litres a minute under any rounding, so their text has at most twelve characters.
-/

namespace HidroControl

open CText

/-- `%.2f`, rounded to the nearest hundredth. -/
def fixo2 (q : ℚ) : Text :=
  hundredths (decide (q < 0)) (Rounding.nearestEven (|q| * 100)).natAbs

/-- A rate that `fluxo.cpp` can hold. -/
def TaxaPossivel (A : Rounding) (q : ℚ) : Prop :=
  q = 0 ∨ ∃ (d : UInt32) (dtUs : ℤ), 1000000 ≤ dtUs ∧ q = lmin A d dtUs

theorem taxaPossivel_zero (A : Rounding) : TaxaPossivel A 0 := Or.inl rfl

/-- **`fluxo_update` computes no other.** -/
theorem fluxoUpdate_taxaPossivel {A : Rounding} {e : LeituraFluxo} {s : Fluxo}
    (h : ∀ c, TaxaPossivel A (s.canal c).lmin) (c : Canal) :
    TaxaPossivel A ((fluxoUpdate A e s).canal c).lmin := by
  by_cases hcompleta : s.completa e
  · rw [fluxoUpdate_canal hcompleta]
    refine Or.inr ⟨_, _, ?_, rfl⟩
    unfold Fluxo.completa at hcompleta
    omega
  · rw [fluxoUpdate_of_not_completa hcompleta]
    exact h c

theorem taxaPossivel_inicial (A : Rounding) (c : Canal) :
    TaxaPossivel A (({} : Fluxo).canal c).lmin := by
  cases c with
  | frio => exact taxaPossivel_zero A
  | quente => exact taxaPossivel_zero A

variable {A : Rounding} {q : ℚ}

/-- Over a second the largest difference makes less than `7 * 10^8` litres a minute:
the seven roundings on the way stay far below the difference. -/
theorem lmin_lt (A : Rounding) (d : UInt32) {dtUs : ℤ} (hdt : 1000000 ≤ dtUs) :
    lmin A d dtUs < 700000000 := by
  have hpos : 0 < dtUs := by omega
  have hdt' : (1000000 : ℚ) ≤ (dtUs : ℚ) := by exact_mod_cast hdt
  have hd : (d.toNat : ℚ) ≤ 4294967296 := by exact_mod_cast d.toNat_lt.le
  have hnear := (lmin_near A d hpos).le
  have hexact : lmin .exact d dtUs ≤ 651000000 := by
    rw [lmin_exact_eq hpos, div_le_iff₀ (by linarith)]
    linarith
  generalize lmin .exact d dtUs = q at *
  norm_num at hnear
  linarith

theorem lmin_nonneg (A : Rounding) (d : UInt32) {dtUs : ℤ} (hdt : 0 ≤ dtUs) :
    0 ≤ lmin A d dtUs := by
  have hdt' : (0 : ℚ) ≤ (dtUs : ℚ) := by exact_mod_cast hdt
  have hK : (0 : ℚ) ≤ flowKFactor := by norm_num [flowKFactor]
  have ha := A.rnd_nonneg (q := (d.toNat : ℚ)) (Nat.cast_nonneg _)
  have hs := A.rnd_nonneg (div_nonneg (A.rnd_nonneg hdt')
    (A.rnd_nonneg (q := 1000000) (by norm_num)))
  exact A.rnd_nonneg (div_nonneg (A.rnd_nonneg (div_nonneg ha hs)) (A.rnd_nonneg hK))

theorem TaxaPossivel.nonneg (h : TaxaPossivel A q) : 0 ≤ q := by
  rcases h with rfl | ⟨d, dtUs, hdt, rfl⟩
  · exact le_rfl
  · exact lmin_nonneg A d (by omega)

theorem TaxaPossivel.lt (h : TaxaPossivel A q) : q < 700000000 := by
  rcases h with rfl | ⟨d, dtUs, hdt, rfl⟩
  · norm_num
  · exact lmin_lt A d hdt

/-! ## Their text -/

/-- A rate in hundredths, as it is printed. -/
def centesimos (q : ℚ) : ℕ := (Rounding.nearestEven (q * 100)).natAbs

theorem fixo2_of_nonneg (h : 0 ≤ q) :
    fixo2 q = decimal (centesimos q / 100) ++ '.' :: padded 2 (centesimos q % 100) := by
  have hneg : ¬ q < 0 := not_lt.mpr h
  simp [fixo2, hundredths, centesimos, hneg, abs_of_nonneg h]

theorem TaxaPossivel.centesimos_lt (h : TaxaPossivel A q) :
    centesimos q < 100000000000 := by
  have hnear := abs_le.mp (Rounding.nearestEven_err (q * 100))
  have hlt := h.lt
  have hle := h.nonneg
  -- rounding moves it by half a hundredth at most
  have hupper : (Rounding.nearestEven (q * 100) : ℚ) < 100000000000 := by linarith
  have hlower : (-1 : ℚ) < Rounding.nearestEven (q * 100) := by linarith
  have hupper' : Rounding.nearestEven (q * 100) < 100000000000 := by exact_mod_cast hupper
  have hlower' : -1 < Rounding.nearestEven (q * 100) := by exact_mod_cast hlower
  unfold centesimos
  omega

/-- At most nine digits, the point, and two digits. -/
theorem TaxaPossivel.length_fixo2_le (h : TaxaPossivel A q) : (fixo2 q).length ≤ 12 := by
  have hlt := h.centesimos_lt
  have hint : (decimal (centesimos q / 100)).length ≤ 9 :=
    (Nat.length_toDigits_le_iff (by omega) (by omega)).mpr (by omega)
  have hfrac : (padded 2 (centesimos q % 100)).length = 2 :=
    length_padded (by omega) (by omega)
  rw [fixo2_of_nonneg h.nonneg, List.length_append, List.length_cons, hfrac]
  omega

/-- Digits and the point. -/
theorem TaxaPossivel.mem_fixo2 (h : TaxaPossivel A q) {c : Char} (hc : c ∈ fixo2 q) :
    c.isDigit = true ∨ c = '.' := by
  rw [fixo2_of_nonneg h.nonneg, List.mem_append, List.mem_cons] at hc
  rcases hc with hc | rfl | hc
  · exact Or.inl (Nat.isDigit_of_mem_toDigits (by omega) (by omega) hc)
  · exact Or.inr rfl
  · exact Or.inl (isDigit_of_mem_padded hc)

end HidroControl
