import HidroControl.Base.CText
import Mathlib.Order.Basic

/-!
# `deviceid.cpp` — the device's names

The chip id is the last three bytes of the station MAC address in hexadecimal,
the device id the chip id behind `ac220-`. Before `deviceid_init` both hold
their initializers.
-/

namespace HidroControl

open CText

abbrev Mac : Type := Fin 6 → UInt8

structure Deviceid where
  sDeviceId : Text := "ac220-unknown".toList
  sChipId : Text := "unknown".toList

/-- `%02X` of a byte. -/
def hex2 (b : UInt8) : Text :=
  [(Nat.digitChar (b.toNat / 16)).toUpper, (Nat.digitChar (b.toNat % 16)).toUpper]

def deviceidInit (mac : Mac) (_ : Deviceid) : Deviceid :=
  let chip := snprintf 16 (hex2 (mac 3) ++ hex2 (mac 4) ++ hex2 (mac 5))
  { sChipId := chip
    sDeviceId := snprintf 32 ("ac220-".toList ++ chip) }

def deviceidGet (s : Deviceid) : Text := s.sDeviceId

/-- Neither buffer cuts a name. -/
theorem deviceidInit_sDeviceId (mac : Mac) (s : Deviceid) :
    (deviceidInit mac s).sDeviceId =
      "ac220-".toList ++ (hex2 (mac 3) ++ hex2 (mac 4) ++ hex2 (mac 5)) := by
  have hchip : (hex2 (mac 3) ++ hex2 (mac 4) ++ hex2 (mac 5)).length = 6 := rfl
  have hfit := snprintf_of_lt (lt_of_eq_of_lt hchip (show 6 < 16 by omega))
  unfold deviceidInit
  rw [hfit]
  apply snprintf_of_lt
  rw [List.length_append, hchip]
  decide

/-- The names in force: the initializers until `deviceid_init` has read the MAC
address. -/
def Deviceid.de : Option Mac → Deviceid
  | none => {}
  | some mac => deviceidInit mac {}

/-! ## What a device id looks like -/

theorem hexDigit_injOn : ∀ m < 16, ∀ n < 16,
    (Nat.digitChar m).toUpper = (Nat.digitChar n).toUpper → m = n := by
  decide

theorem hex2_injective : Function.Injective hex2 := by
  intro a b h
  have ha := a.toNat_lt
  have hb := b.toNat_lt
  simp only [hex2, List.cons.injEq, and_true] at h
  have hhigh := hexDigit_injOn _ (by omega) _ (by omega) h.1
  have hlow := hexDigit_injOn _ (by omega) _ (by omega) h.2
  apply UInt8.toNat_inj.mp
  omega

/-- The two addresses end in the same three bytes. -/
def Mac.mesmoFinal (m₁ m₂ : Mac) : Prop :=
  m₁ 3 = m₂ 3 ∧ m₁ 4 = m₂ 4 ∧ m₁ 5 = m₂ 5

instance (m₁ m₂ : Mac) : Decidable (m₁.mesmoFinal m₂) :=
  inferInstanceAs (Decidable (_ ∧ _))

def chipDe (mac : Mac) : Text := hex2 (mac 3) ++ hex2 (mac 4) ++ hex2 (mac 5)

theorem chipDe_eq_iff {m₁ m₂ : Mac} : chipDe m₁ = chipDe m₂ ↔ m₁.mesmoFinal m₂ := by
  constructor
  · intro h
    -- three fields of two digits each, peeled off from the right
    obtain ⟨h, h5⟩ := List.append_inj' h rfl
    obtain ⟨h3, h4⟩ := List.append_inj' h rfl
    exact ⟨hex2_injective h3, hex2_injective h4, hex2_injective h5⟩
  · rintro ⟨h3, h4, h5⟩
    rw [chipDe, chipDe, h3, h4, h5]

theorem hexDigit_isAlphanum :
    ∀ n < 16, ((Nat.digitChar n).toUpper).isAlphanum = true := by
  decide

theorem hex2_isAlphanum {b : UInt8} {c : Char} (h : c ∈ hex2 b) :
    c.isAlphanum = true := by
  have hb := b.toNat_lt
  simp only [hex2, List.mem_cons, List.not_mem_nil, or_false] at h
  rcases h with rfl | rfl
  · exact hexDigit_isAlphanum _ (by omega)
  · exact hexDigit_isAlphanum _ (by omega)

/-- Letters, digits and the hyphen. -/
def charDeNome (c : Char) : Bool := c.isAlphanum || c == '-'

theorem all_charDeNome_inicial :
    "ac220-unknown".toList.all charDeNome = true ∧
      "ac220-".toList.all charDeNome = true := by
  decide +kernel

theorem deviceidGet_none :
    deviceidGet (.de none) = "ac220-unknown".toList := rfl

theorem deviceidGet_some (mac : Mac) :
    deviceidGet (.de (some mac)) =
      "ac220-".toList ++ (hex2 (mac 3) ++ hex2 (mac 4) ++ hex2 (mac 5)) :=
  deviceidInit_sDeviceId mac {}

theorem charDeNome_of_mem_deviceid {dev : Option Mac} {c : Char}
    (h : c ∈ deviceidGet (.de dev)) : charDeNome c = true := by
  cases dev with
  | none =>
      rw [deviceidGet_none] at h
      exact List.all_eq_true.mp all_charDeNome_inicial.1 c h
  | some mac =>
      rw [deviceidGet_some] at h
      rcases List.mem_append.mp h with h | h
      · exact List.all_eq_true.mp all_charDeNome_inicial.2 c h
      · simp only [List.append_assoc, List.mem_append] at h
        rcases h with h | h | h <;> simp [charDeNome, hex2_isAlphanum h]

theorem length_deviceid_le (dev : Option Mac) :
    (deviceidGet (.de dev)).length ≤ 13 := by
  cases dev with
  | none =>
      rw [deviceidGet_none]
      decide
  | some mac =>
      rw [deviceidGet_some]
      simp [hex2]

end HidroControl
