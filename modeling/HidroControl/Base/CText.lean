import Mathlib.Algebra.Order.Ring.Nat
import Mathlib.Data.Int.Notation
import Mathlib.Data.List.TakeWhile

/-!
# C strings and decimal text

A C `char` is the `Char` of the same code and a C string is the list of its
characters, terminator not included. Numbers are printed as `printf` prints them
(`decimal`, `padded`) on top of the digits of core, and read back by the two
readers a parser needs: as many digits as there are (`readNat`) and exactly so
many (`readFixed`). Each reader undoes its printer in front of any text that
does not go on with a digit.
-/

namespace CText

abbrev Text := List Char

/-! ## Buffers -/

/-- The string a character buffer holds: everything before the first NUL. -/
def ofBuffer (buf : Text) : Text := buf.takeWhile (fun c => c.toNat != 0)

/-- The characters of a byte range. -/
def ofBytes (b : List UInt8) : Text := b.map Char.ofUInt8

/-- The bytes of a text of characters below 256. -/
def toBytes (s : Text) : List UInt8 := s.map fun c => UInt8.ofNat c.toNat

theorem ofBuffer_of_no_nul {s : Text} (h : Char.ofNat 0 ∉ s) : ofBuffer s = s := by
  rw [ofBuffer, List.takeWhile_eq_self_iff]
  intro c hc
  simp only [bne_iff_ne, ne_eq]
  intro hzero
  apply h
  rw [← hzero, Char.ofNat_toNat]
  exact hc

/-- A cut behind the end of the string goes unnoticed. -/
theorem ofBuffer_take_eq_iff {n : ℕ} {s w : Text} (h : w.length < n) :
    ofBuffer (s.take n) = w ↔ ofBuffer s = w := by
  unfold ofBuffer
  rw [← List.take_takeWhile]
  constructor
  · intro hw
    have hlen := congrArg List.length hw
    rw [List.length_take] at hlen
    rw [← hw, List.take_of_length_le (by omega)]
  · rintro rfl
    exact List.take_of_length_le h.le

theorem nul_mem_ofBytes {b : List UInt8} : Char.ofNat 0 ∈ ofBytes b ↔ 0 ∈ b := by
  simp only [ofBytes, List.mem_map]
  constructor
  · rintro ⟨a, ha, hchar⟩
    have hzero : a = 0 := UInt8.toNat_inj.mp (congrArg Char.toNat hchar)
    rwa [← hzero]
  · intro h
    exact ⟨0, h, rfl⟩

/-- A text that a C string can hold. -/
def CString (s : Text) : Prop := ∀ c ∈ s, 0 < c.toNat ∧ c.toNat < 256

instance (s : Text) : Decidable (CString s) := List.decidableBAll _ s

@[simp] theorem cString_append {s t : Text} : CString (s ++ t) ↔ CString s ∧ CString t :=
  List.forall_mem_append

@[simp] theorem cString_cons {c : Char} {s : Text} :
    CString (c :: s) ↔ (0 < c.toNat ∧ c.toNat < 256) ∧ CString s :=
  List.forall_mem_cons

/-- **Its characters are its bytes.** -/
theorem CString.ofBytes_toBytes {s : Text} (h : CString s) : ofBytes (toBytes s) = s := by
  induction s with
  | nil => rfl
  | cons c s ih =>
      obtain ⟨hc, hs⟩ := List.forall_mem_cons.mp h
      have hbyte : Char.ofUInt8 (UInt8.ofNat c.toNat) = c := by
        rw [← Char.toNat_inj]
        change (UInt8.ofNat c.toNat).toNat = c.toNat
        rw [UInt8.toNat_ofNat', Nat.mod_eq_of_lt hc.2]
      exact congrArg₂ List.cons hbyte (ih hs)

/-- And none of them ends it. -/
theorem CString.nul_notMem {s : Text} (h : CString s) : 0 ∉ toBytes s := by
  intro hzero
  rw [← nul_mem_ofBytes, h.ofBytes_toBytes] at hzero
  exact absurd (h _ hzero).1 (by decide)

theorem cString_of_isDigit {s : Text} (h : ∀ c ∈ s, c.isDigit = true) : CString s := by
  intro c hc
  have hlow : 48 ≤ c.toNat := (Char.isDigit_iff_toNat.mp (h c hc)).1
  have hhigh : c.toNat ≤ 57 := (Char.isDigit_iff_toNat.mp (h c hc)).2
  omega

/-- What `snprintf` leaves in a buffer of `size` bytes of the text it was asked
for. Its result is the length of the whole text. -/
def snprintf (size : ℕ) (s : Text) : Text := s.take (size - 1)

theorem snprintf_of_lt {size : ℕ} {s : Text} (h : s.length < size) :
    snprintf size s = s :=
  List.take_of_length_le (by omega)

/-- `strcasecmp(a, b) == 0`: equal up to the case of ASCII letters. -/
def equalIgnoreCase (a b : Text) : Bool :=
  a.map Char.toLower == b.map Char.toLower

/-! ## Printing -/

/-- `%d` of a number that is not negative. -/
def decimal (n : ℕ) : Text := Nat.toDigits 10 n

/-- `%0wd`: `decimal`, filled up with zeros to at least `w` digits. -/
def padded (w n : ℕ) : Text :=
  List.replicate (w - (decimal n).length) '0' ++ decimal n

def decimalInt (z : ℤ) : Text :=
  if z < 0 then '-' :: decimal z.natAbs else decimal z.natAbs

/-- `%.2f` of a number that is `n` hundredths after rounding. -/
def hundredths (negative : Bool) (n : ℕ) : Text :=
  let s := decimal (n / 100) ++ '.' :: padded 2 (n % 100)
  if negative then '-' :: s else s

theorem isDigit_of_mem_padded {w n : ℕ} {c : Char} (h : c ∈ padded w n) :
    c.isDigit = true := by
  rcases List.mem_append.mp h with h | h
  · rw [List.eq_of_mem_replicate h]
    rfl
  · exact Nat.isDigit_of_mem_toDigits (by omega) (by omega) h

theorem padded_ne_nil (w n : ℕ) : padded w n ≠ [] := by
  simp [padded, decimal]

theorem ofDigitChars_padded (w n : ℕ) :
    Nat.ofDigitChars 10 (padded w n) 0 = n := by
  simp [padded, decimal, Nat.ofDigitChars_append]

@[simp] theorem padded_zero (n : ℕ) : padded 0 n = decimal n := by
  simp [padded]

theorem length_padded {w n : ℕ} (hw : 0 < w) (h : n < 10 ^ w) :
    (padded w n).length = w := by
  have hle : (decimal n).length ≤ w :=
    (Nat.length_toDigits_le_iff (by omega) hw).mpr h
  rw [padded, List.length_append, List.length_replicate]
  omega

theorem length_padded_le {w v n : ℕ} (hv : 0 < v) (h : n < 10 ^ v) :
    (padded w n).length ≤ max w v := by
  have hle : (decimal n).length ≤ v :=
    (Nat.length_toDigits_le_iff (by omega) hv).mpr h
  rw [padded, List.length_append, List.length_replicate]
  omega

/-! ## Reading -/

/-- The number at the front, all its digits, and what follows. -/
def readNat (s : Text) : Option (ℕ × Text) :=
  if s.takeWhile Char.isDigit = [] then none
  else
    some (Nat.ofDigitChars 10 (s.takeWhile Char.isDigit) 0,
      s.dropWhile Char.isDigit)

/-- The number that exactly `k` digits at the front make, and what follows. -/
def readFixed (k : ℕ) (s : Text) : Option (ℕ × Text) :=
  if (s.take k).length = k ∧ (s.take k).all Char.isDigit = true then
    some (Nat.ofDigitChars 10 (s.take k) 0, s.drop k)
  else none

def expect (c : Char) : Text → Option Text
  | [] => none
  | d :: s => if d = c then some s else none

@[simp] theorem expect_cons (c : Char) (s : Text) : expect c (c :: s) = some s :=
  if_pos rfl

theorem readNat_padded_append {w n : ℕ} {s : Text} (hs : ∀ c ∈ s.head?, c.isDigit = false) :
    readNat (padded w n ++ s) = some (n, s) := by
  have hall : ∀ d ∈ padded w n, d.isDigit = true := fun _ => isDigit_of_mem_padded
  have htake : (padded w n ++ s).takeWhile Char.isDigit = padded w n := by
    rw [List.takeWhile_append_of_pos hall]
    cases s with
    | nil => simp
    | cons c s => simp [hs c rfl]
  have hdrop : (padded w n ++ s).dropWhile Char.isDigit = s := by
    rw [List.dropWhile_append_of_pos hall]
    cases s with
    | nil => rfl
    | cons c s => simp [hs c rfl]
  rw [readNat, htake, hdrop, if_neg (padded_ne_nil w n), ofDigitChars_padded]

theorem readNat_padded {w n : ℕ} {c : Char} {s : Text} (hc : c.isDigit = false) :
    readNat (padded w n ++ c :: s) = some (n, c :: s) := by
  apply readNat_padded_append
  intro d hd
  obtain rfl : c = d := Option.some.inj hd
  exact hc

theorem readFixed_padded {w n : ℕ} (hw : 0 < w) (h : n < 10 ^ w) (s : Text) :
    readFixed w (padded w n ++ s) = some (n, s) := by
  have hlen := length_padded hw h
  have htake : (padded w n ++ s).take w = padded w n := List.take_left' hlen
  have hdrop : (padded w n ++ s).drop w = s := List.drop_left' hlen
  have hall : (padded w n).all Char.isDigit = true :=
    List.all_eq_true.mpr fun _ => isDigit_of_mem_padded
  rw [readFixed, htake, hdrop, if_pos ⟨hlen, hall⟩, ofDigitChars_padded]

end CText
