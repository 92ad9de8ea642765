import Mathlib.Algebra.Order.Ring.Nat
import Mathlib.Data.List.GetD

/-!
# Numbers on the wire

A *base-128 field* is a number as bytes of seven bits each, lowest first, every
byte but the last with bit 7 set. `encode` writes the shortest one. A reader has
to take any (`IsField`): `decode` gives the value and the number of bytes it took,
and does not look at what follows the field. The other kind of number is two
bytes, the high one first (`be16`).
-/

namespace Wire

/-! ## Bytes -/

/-- Bit 7 of a byte: the number goes on. -/
def goesOn (b : UInt8) : Bool := b &&& 0x80 != 0

theorem and_128 (n : ℕ) (h : n < 256) : n &&& 128 = n / 128 * 128 := by
  have hall : ∀ i : Fin 256, i.val &&& 128 = i.val / 128 * 128 := by decide +kernel
  exact hall ⟨n, h⟩

theorem goesOn_iff (b : UInt8) : goesOn b = true ↔ 128 ≤ b.toNat := by
  have hand : (b &&& 0x80).toNat = b.toNat / 128 * 128 := by
    rw [UInt8.toNat_and]
    exact and_128 _ b.toNat_lt
  rw [goesOn, bne_iff_ne, ne_eq, ← UInt8.toNat_inj, hand]
  have hlt := b.toNat_lt
  simp only [UInt8.toNat_zero]
  omega

@[simp] theorem goesOn_eq_false_iff (b : UInt8) : goesOn b = false ↔ b.toNat < 128 := by
  rw [← Bool.not_eq_true, goesOn_iff, not_le]

/-- The seven bits of a byte. -/
theorem toNat_and_127 (b : UInt8) : (b &&& 0x7f).toNat = b.toNat % 128 := by
  rw [UInt8.toNat_and]
  exact Nat.and_two_pow_sub_one_eq_mod _ 7

/-- The bit is put on top of the seven. -/
theorem or_128 {n : ℕ} (h : n < 128) : n ||| 0x80 = n + 128 := by
  have := Nat.two_pow_add_eq_or_of_lt (i := 7) h 1
  simpa [Nat.or_comm, Nat.add_comm] using this.symm

/-! ## Writing -/

/-- The loop that writes a number, for at most `fuel` bytes. -/
def encodeAux : ℕ → ℕ → List UInt8
  | 0, _ => []
  | fuel + 1, n =>
      if 0 < n / 128 then UInt8.ofNat (n % 128 ||| 0x80) :: encodeAux fuel (n / 128)
      else [UInt8.ofNat (n % 128)]

/-- A number of `n` never takes more than `n + 1` bytes. -/
def encode (n : ℕ) : List UInt8 := encodeAux (n + 1) n

/-! ## Reading -/

/-- The value of the field at the front, and its length. Where the bytes end
before the field does, what there was of it. -/
def decode : List UInt8 → ℕ × ℕ
  | [] => (0, 0)
  | b :: bs =>
      if goesOn b then ((decode bs).1 * 128 + b.toNat % 128, (decode bs).2 + 1)
      else (b.toNat, 1)

/-- The bytes of one number: all but the last go on. -/
def IsField (f : List UInt8) : Prop :=
  ∃ init last, f = init ++ [last] ∧ (∀ b ∈ init, goesOn b = true) ∧ goesOn last = false

theorem IsField.ne_nil {f : List UInt8} (h : IsField f) : f ≠ [] := by
  obtain ⟨init, last, rfl, -, -⟩ := h
  simp

theorem IsField.cons {f : List UInt8} (h : IsField f) {b : UInt8} (hb : goesOn b = true) :
    IsField (b :: f) := by
  obtain ⟨init, last, rfl, hinit, hlast⟩ := h
  refine ⟨b :: init, last, rfl, ?_, hlast⟩
  rintro c (_ | ⟨_, hc⟩)
  · exact hb
  · exact hinit c hc

/-- A field is a last byte, or a byte that goes on in front of a field. -/
theorem isField_cons_iff {b : UInt8} {f : List UInt8} :
    IsField (b :: f) ↔ goesOn b = false ∧ f = [] ∨ goesOn b = true ∧ IsField f := by
  constructor
  · rintro ⟨init, last, heq, hinit, hlast⟩
    rcases init with _ | ⟨c, init⟩
    · obtain ⟨rfl, rfl⟩ := List.cons.inj heq
      exact Or.inl ⟨hlast, rfl⟩
    · obtain ⟨rfl, rfl⟩ := List.cons.inj heq
      exact Or.inr ⟨hinit b (by simp), init, last, rfl,
        fun c hc => hinit c (List.mem_cons_of_mem b hc), hlast⟩
  · rintro (⟨hb, rfl⟩ | ⟨hb, hf⟩)
    · exact ⟨[], b, rfl, by simp, hb⟩
    · exact hf.cons hb

/-- **A field is read as it stands**, whatever comes behind it. -/
theorem decode_append {f : List UInt8} (h : IsField f) (rest : List UInt8) :
    decode (f ++ rest) = ((decode f).1, f.length) := by
  induction f with
  | nil => exact absurd rfl h.ne_nil
  | cons b f ih =>
      rcases isField_cons_iff.mp h with ⟨hb, rfl⟩ | ⟨hb, hf⟩
      · simp [decode, hb]
      · simp [decode, hb, ih hf]

/-! ## Reading what was written -/

theorem encodeAux_spec {fuel n : ℕ} (h : n < fuel) :
    IsField (encodeAux fuel n) ∧ (decode (encodeAux fuel n)).1 = n := by
  induction fuel generalizing n with
  | zero => omega
  | succ fuel ih =>
      unfold encodeAux
      by_cases hmore : 0 < n / 128
      · have hbyte : (UInt8.ofNat (n % 128 ||| 0x80)).toNat = n % 128 + 128 := by
          rw [or_128 (by omega), UInt8.toNat_ofNat']
          omega
        have hgoes : goesOn (UInt8.ofNat (n % 128 ||| 0x80)) = true := by
          rw [goesOn_iff, hbyte]
          omega
        obtain ⟨hfield, hvalue⟩ := ih (n := n / 128) (by omega)
        rw [if_pos hmore]
        refine ⟨hfield.cons hgoes, ?_⟩
        simp only [decode, hgoes, if_true, hvalue, hbyte]
        omega
      · have hbyte : (UInt8.ofNat (n % 128)).toNat = n := by
          rw [UInt8.toNat_ofNat']
          omega
        have hends : goesOn (UInt8.ofNat (n % 128)) = false := by
          rw [goesOn_eq_false_iff, hbyte]
          omega
        rw [if_neg hmore]
        exact ⟨⟨[], _, rfl, by simp, hends⟩, by simp [decode, hends, hbyte]⟩

theorem isField_encode (n : ℕ) : IsField (encode n) :=
  (encodeAux_spec (Nat.lt_succ_self n)).1

/-- **Round trip.** -/
theorem decode_encode (n : ℕ) : (decode (encode n)).1 = n :=
  (encodeAux_spec (Nat.lt_succ_self n)).2

/-! ## Lengths -/

theorem length_encodeAux_le {k fuel n : ℕ} (hk : 0 < k) (h : n < 128 ^ k) :
    (encodeAux fuel n).length ≤ k := by
  induction fuel generalizing k n with
  | zero => simp [encodeAux]
  | succ fuel ih =>
      unfold encodeAux
      split
      next hmore =>
        -- a number with a second byte is at least 128, so `k` is at least two
        obtain ⟨k, rfl⟩ : ∃ j, k = j + 1 := ⟨k - 1, by omega⟩
        rcases Nat.eq_zero_or_pos k with rfl | hpos
        · omega
        · have hrest : n / 128 < 128 ^ k := by
            rw [Nat.div_lt_iff_lt_mul (by decide)]
            rwa [pow_succ] at h
          simpa using ih hpos hrest
      next => exact hk

/-- Seven bits a byte. -/
theorem length_encode_le {k n : ℕ} (hk : 0 < k) (h : n < 128 ^ k) : (encode n).length ≤ k :=
  length_encodeAux_le hk h

theorem length_encode_pos (n : ℕ) : 0 < (encode n).length :=
  List.length_pos_iff.mpr (isField_encode n).ne_nil

/-! ## Two bytes -/

def be16 (n : ℕ) : List UInt8 := [UInt8.ofNat (n >>> 8), UInt8.ofNat (n &&& 0xff)]

def readBe16 (b : List UInt8) (i : ℕ) : ℕ :=
  (b.getD i 0).toNat <<< 8 ||| (b.getD (i + 1) 0).toNat

@[simp] theorem length_be16 (n : ℕ) : (be16 n).length = 2 := rfl

theorem be16_value {hi lo : ℕ} (h : lo < 256) : hi <<< 8 ||| lo = hi * 256 + lo := by
  rw [← Nat.shiftLeft_add_eq_or_of_lt (i := 8) h, Nat.shiftLeft_eq]

/-- **Round trip**, between anything and anything. -/
theorem readBe16_append {n : ℕ} (h : n < 65536) (front rest : List UInt8) :
    readBe16 (front ++ (be16 n ++ rest)) front.length = n := by
  have hhi : (UInt8.ofNat (n >>> 8)).toNat = n / 256 := by
    rw [UInt8.toNat_ofNat', Nat.shiftRight_eq_div_pow]
    omega
  have hlo : (UInt8.ofNat (n &&& 0xff)).toNat = n % 256 := by
    rw [UInt8.toNat_ofNat', show n &&& 0xff = n % 256 from Nat.and_two_pow_sub_one_eq_mod n 8]
    omega
  have hget : ∀ k, (front ++ (be16 n ++ rest)).getD (front.length + k) 0
      = (be16 n ++ rest).getD k 0 := by
    intro k
    rw [List.getD_append_right _ _ _ _ (Nat.le_add_right _ k), Nat.add_sub_cancel_left]
  have h0 := hget 0
  have h1 := hget 1
  simp only [Nat.add_zero, be16, List.cons_append, List.nil_append, List.getD_cons_zero] at h0
  simp only [be16, List.cons_append, List.nil_append, List.getD_cons_succ,
    List.getD_cons_zero] at h1
  rw [readBe16, be16, List.cons_append, List.cons_append, List.nil_append, h0, h1, hhi, hlo,
    be16_value (by omega)]
  omega

end Wire
