import HidroControl.Base.CText
import Mathlib.Data.Rat.Defs
import Mathlib.Algebra.Order.Field.Rat
import Mathlib.Tactic.FieldSimp
import Mathlib.Tactic.Ring

/-!
# JSON

`parse` reads one JSON value: the whole grammar, with white space, escapes and
exponents; a number is the rational it denotes. Only an escaped surrogate is refused.

`Prints t v` says that the text `t` in front of a comma, a brace or a bracket is read
as `v`. There is one rule for each way of printing: a string without characters to
escape, a natural number, a number of hundredths, and an object of printed members
(`Prints.object`); at the end of the text it is what `parse` reads
(`parse_of_prints`).
-/

namespace Json

open CText

inductive Value where
  | null
  | bool (b : Bool)
  | number (q : ℚ)
  | string (s : Text)
  | array (vs : List Value)
  | object (ms : List (Text × Value))

/-! ## Scanning -/

def isSpace (c : Char) : Bool := c == ' ' || c == '\t' || c == '\n' || c == '\r'

def skipSpace (s : Text) : Text := s.dropWhile isSpace

/-- The character that a letter behind a backslash stands for. -/
def unescape (c : Char) : Option Char :=
  if c = '"' ∨ c = '\\' ∨ c = '/' then some c
  else if c = 'b' then some (Char.ofNat 8)
  else if c = 'f' then some (Char.ofNat 12)
  else if c = 'n' then some '\n'
  else if c = 'r' then some '\r'
  else if c = 't' then some '\t'
  else none

def hexValue (c : Char) : Option ℕ :=
  if c.isDigit then some (c.toNat - 48)
  else if 'a' ≤ c ∧ c ≤ 'f' then some (c.toNat - 87)
  else if 'A' ≤ c ∧ c ≤ 'F' then some (c.toNat - 55)
  else none

/-- The character with this code in four hexadecimal digits. -/
def unicode (a b c d : Char) : Option Char := do
  let n := 4096 * (← hexValue a) + 256 * (← hexValue b) + 16 * (← hexValue c) + (← hexValue d)
  if 0xD800 ≤ n ∧ n < 0xE000 then none else some (Char.ofNat n)

/-- The rest of a string, its opening quote gone. -/
def scanString : Text → Option (Text × Text)
  | [] => none
  | '"' :: s => some ([], s)
  | '\\' :: 'u' :: a :: b :: c :: d :: s => do
      let x ← unicode a b c d
      let (t, s) ← scanString s
      some (x :: t, s)
  | '\\' :: e :: s => do
      let x ← unescape e
      let (t, s) ← scanString s
      some (x :: t, s)
  | c :: s =>
      if c.toNat < 32 ∨ c = '\\' then none
      else (scanString s).map fun (t, s) => (c :: t, s)

/-- The digits before the point: no zero in front of others. -/
def scanInt : Text → Option (ℕ × Text)
  | '0' :: s => some (0, s)
  | s => readNat s

def scanFrac : Text → Option (ℚ × Text)
  | '.' :: s =>
      (readNat s).map fun (n, s') => (n / 10 ^ (s.length - s'.length), s')
  | s => some (0, s)

def scanExp : Text → Option (ℤ × Text)
  | c :: s =>
      if c = 'e' ∨ c = 'E' then
        match s with
        | '-' :: s => (readNat s).map fun (n, s) => (-(n : ℤ), s)
        | '+' :: s => (readNat s).map fun (n, s) => ((n : ℤ), s)
        | s => (readNat s).map fun (n, s) => ((n : ℤ), s)
      else some (0, c :: s)
  | [] => some (0, [])

def scanUnsigned (s : Text) : Option (ℚ × Text) := do
  let (n, s) ← scanInt s
  let (f, s) ← scanFrac s
  let (e, s) ← scanExp s
  some ((n + f) * 10 ^ e, s)

def scanNumber : Text → Option (ℚ × Text)
  | '-' :: s => (scanUnsigned s).map fun (q, s) => (-q, s)
  | s => scanUnsigned s

def scanLiteral (s : Text) : Option (Value × Text) :=
  if "null".toList.isPrefixOf s then some (.null, s.drop 4)
  else if "true".toList.isPrefixOf s then some (.bool true, s.drop 4)
  else if "false".toList.isPrefixOf s then some (.bool false, s.drop 5)
  else none

/-! ## Values

The fuel bounds the nesting and the members; a text has fewer of both than
characters. -/

mutual

def scanValue : ℕ → Text → Option (Value × Text)
  | 0, _ => none
  | fuel + 1, s =>
      match skipSpace s with
      | [] => none
      | c :: s =>
          if c = '"' then (scanString s).map fun (t, s) => (.string t, s)
          else if c = '-' ∨ c.isDigit then
            (scanNumber (c :: s)).map fun (q, s) => (.number q, s)
          else if c = '\x7b' then
            match skipSpace s with
            | '\x7d' :: s => some (.object [], s)
            | s => (scanMembers fuel s).map fun (ms, s) => (.object ms, s)
          else if c = '[' then
            match skipSpace s with
            | ']' :: s => some (.array [], s)
            | s => (scanElements fuel s).map fun (vs, s) => (.array vs, s)
          else scanLiteral (c :: s)

def scanMembers : ℕ → Text → Option (List (Text × Value) × Text)
  | 0, _ => none
  | fuel + 1, s => do
      let s ← expect '"' (skipSpace s)
      let (k, s) ← scanString s
      let s ← expect ':' (skipSpace s)
      let (v, s) ← scanValue fuel s
      match skipSpace s with
      | ',' :: s =>
          let (ms, s) ← scanMembers fuel s
          some ((k, v) :: ms, s)
      | '\x7d' :: s => some ([(k, v)], s)
      | _ => none

def scanElements : ℕ → Text → Option (List Value × Text)
  | 0, _ => none
  | fuel + 1, s => do
      let (v, s) ← scanValue fuel s
      match skipSpace s with
      | ',' :: s =>
          let (vs, s) ← scanElements fuel s
          some (v :: vs, s)
      | ']' :: s => some ([v], s)
      | _ => none

end

/-- One value and nothing else. -/
def parse (s : Text) : Option Value := do
  let (v, s) ← scanValue (s.length + 1) s
  if skipSpace s = [] then some v else none

/-! ## Strings -/

/-- No character that a string would have to escape. -/
def Plain (t : Text) : Prop := ∀ c ∈ t, 32 ≤ c.toNat ∧ c ≠ '"' ∧ c ≠ '\\'

instance (t : Text) : Decidable (Plain t) := List.decidableBAll _ t

theorem Plain.append {s t : Text} (hs : Plain s) (ht : Plain t) : Plain (s ++ t) := by
  intro c hc
  rcases List.mem_append.mp hc with hc | hc
  · exact hs c hc
  · exact ht c hc

theorem Plain.cons {c : Char} {t : Text} (hc : 32 ≤ c.toNat ∧ c ≠ '"' ∧ c ≠ '\\')
    (ht : Plain t) : Plain (c :: t) := by
  intro d hd
  rcases List.mem_cons.mp hd with rfl | hd
  · exact hc
  · exact ht d hd

theorem scanString_plain {t : Text} (h : Plain t) (r : Text) :
    scanString (t ++ '"' :: r) = some (t, r) := by
  induction t with
  | nil => rfl
  | cons c t ih =>
      obtain ⟨hc, hquote, hback⟩ := h c List.mem_cons_self
      have hlow : ¬ (c.toNat < 32 ∨ c = '\\') := by
        rintro (hlt | heq)
        · omega
        · exact hback heq
      have ht := ih fun d hd => h d (List.mem_cons_of_mem c hd)
      -- the last equation of `scanString`; the others are for a quote and an escape
      rw [List.cons_append, scanString]
      · rw [if_neg hlow, ht]
        rfl
      · intro heq
        exact hquote heq
      · intro a b d e s heq
        exact absurd heq hback
      · intro e s heq
        exact absurd heq hback

/-! ## Numbers -/

/-- A text that does not go on with a number. -/
def Stops (r : Text) : Prop :=
  ∀ c ∈ r.head?, c.isDigit = false ∧ c ≠ '.' ∧ c ≠ 'e' ∧ c ≠ 'E'

theorem decimal_ne_nil (n : ℕ) : decimal n ≠ [] := Nat.toDigits_ne_nil

theorem decimal_head {n : ℕ} (hn : 0 < n) : (decimal n).head? ≠ some '0' := by
  induction n using Nat.strongRecOn with
  | ind n ih =>
      by_cases hlt : n < 10
      · have hall : ∀ m < 10, 0 < m → (decimal m).head? ≠ some '0' := by decide
        exact hall n hlt hn
      · -- the first digit is that of a tenth of it
        have hdiv : n / 10 < n := Nat.div_lt_self hn (by omega)
        have hpos : 0 < n / 10 := Nat.div_pos (by omega) (by omega)
        have hhead := ih (n / 10) hdiv hpos
        rw [decimal, Nat.toDigits_of_base_le (by omega) (by omega)]
        show (decimal (n / 10) ++ _).head? ≠ _
        rwa [List.head?_append_of_ne_nil _ (decimal_ne_nil _)]

variable {n : ℕ} {r : Text}

theorem readNat_decimal (hr : ∀ c ∈ r.head?, c.isDigit = false) :
    readNat (decimal n ++ r) = some (n, r) := by
  rw [← padded_zero]
  exact readNat_padded_append hr

theorem scanInt_decimal (hr : ∀ c ∈ r.head?, c.isDigit = false) :
    scanInt (decimal n ++ r) = some (n, r) := by
  rcases Nat.eq_zero_or_pos n with rfl | hn
  · rfl
  · obtain ⟨c, cs, hcs⟩ := List.exists_cons_of_ne_nil (decimal_ne_nil n)
    have hzero : c ≠ '0' := by
      rintro rfl
      exact decimal_head hn (by rw [hcs]; rfl)
    have hread := readNat_decimal (n := n) hr
    rw [hcs, List.cons_append] at hread ⊢
    rw [scanInt]
    · exact hread
    · intro s heq
      exact hzero (List.cons.inj heq).1

theorem scanFrac_none (hr : Stops r) : scanFrac r = some (0, r) := by
  rw [scanFrac]
  rintro s rfl
  exact (hr '.' rfl).2.1 rfl

theorem scanFrac_padded {w : ℕ} (hw : 0 < w) (hn : n < 10 ^ w) (hr : Stops r) :
    scanFrac ('.' :: (padded w n ++ r)) = some ((n : ℚ) / 10 ^ w, r) := by
  have hlen := length_padded hw hn
  rw [scanFrac, readNat_padded_append fun c hc => (hr c hc).1]
  simp [hlen]

theorem scanExp_none (hr : Stops r) : scanExp r = some (0, r) := by
  cases r with
  | nil => rfl
  | cons c s =>
      obtain ⟨-, -, he, hE⟩ := hr c rfl
      simp [scanExp, he, hE]

theorem scanUnsigned_decimal (hr : Stops r) :
    scanUnsigned (decimal n ++ r) = some ((n : ℚ), r) := by
  unfold scanUnsigned
  rw [scanInt_decimal fun c hc => (hr c hc).1]
  simp [scanFrac_none hr, scanExp_none hr]

/-- Hundredths behind a point. -/
theorem scanUnsigned_hundredths (hr : Stops r) :
    scanUnsigned (decimal (n / 100) ++ '.' :: (padded 2 (n % 100) ++ r)) =
      some ((n : ℚ) / 100, r) := by
  have hint : scanInt (decimal (n / 100) ++ '.' :: (padded 2 (n % 100) ++ r)) =
      some (n / 100, '.' :: (padded 2 (n % 100) ++ r)) := by
    apply scanInt_decimal
    intro c hc
    obtain rfl : '.' = c := Option.some.inj hc
    rfl
  have hfrac := scanFrac_padded (w := 2) (n := n % 100) (by omega) (by omega) hr
  have hvalue : ((n / 100 : ℕ) : ℚ) + ((n % 100 : ℕ) : ℚ) / 10 ^ 2 = (n : ℚ) / 100 := by
    have hsplit : ((n / 100 : ℕ) : ℚ) * 100 + ((n % 100 : ℕ) : ℚ) = (n : ℚ) := by
      exact_mod_cast Nat.div_add_mod' n 100
    rw [← hsplit]
    ring
  unfold scanUnsigned
  rw [hint]
  simp [hfrac, scanExp_none hr, hvalue]

/-! ## Printed values -/

/-- The text `t` is read as `v`, whatever stands behind it, unless it goes on with a
number. -/
def Prints (t : Text) (v : Value) : Prop :=
  ∀ fuel r, t.length < fuel → Stops r → scanValue fuel (t ++ r) = some (v, r)

theorem parse_of_prints {t : Text} {v : Value} (h : Prints t v) : parse t = some v := by
  have hstops : Stops [] := by
    intro c hc
    cases hc
  have hscan := h (t.length + 1) [] (Nat.lt_succ_self _) hstops
  rw [List.append_nil] at hscan
  rw [parse, hscan]
  rfl

theorem skipSpace_cons {c : Char} {s : Text} (h : isSpace c = false) :
    skipSpace (c :: s) = c :: s :=
  List.dropWhile_cons_of_neg (by simp [h])

theorem isSpace_of_isDigit {c : Char} (h : c.isDigit = true) : isSpace c = false := by
  have hrange : 48 ≤ c.toNat ∧ c.toNat ≤ 57 := Char.isDigit_iff_toNat.mp h
  have hne (d : Char) (hd : d.toNat < 48) : (c == d) = false := by
    rw [beq_eq_false_iff_ne]
    rintro rfl
    omega
  simp [isSpace, hne ' ' (by decide), hne '\t' (by decide), hne '\n' (by decide),
    hne '\r' (by decide)]

/-- A string without anything to escape. -/
theorem Prints.string {t : Text} (h : Plain t) : Prints ('"' :: (t ++ ['"'])) (.string t) := by
  rintro (_ | fuel) r hfuel -
  · cases hfuel
  · have hscan := scanString_plain h r
    have happend : '"' :: (t ++ ['"']) ++ r = '"' :: (t ++ '"' :: r) := by simp
    rw [happend, scanValue, skipSpace_cons (by decide)]
    simp [hscan]

/-- A text that begins with a digit is read as a number. -/
theorem scanValue_digit {fuel : ℕ} {c : Char} {s : Text} (hc : c.isDigit = true) :
    scanValue (fuel + 1) (c :: s) =
      (scanUnsigned (c :: s)).map fun (q, s) => (.number q, s) := by
  have hquote : c ≠ '"' := by
    rintro rfl
    cases hc
  have hminus : c ≠ '-' := by
    rintro rfl
    cases hc
  have hnumber : scanNumber (c :: s) = scanUnsigned (c :: s) := by
    rw [scanNumber]
    intro t heq
    exact hminus (List.cons.inj heq).1
  rw [scanValue, skipSpace_cons (isSpace_of_isDigit hc)]
  simp [hquote, hc, hnumber]

theorem Prints.of_scanUnsigned {t : Text} {q : ℚ} (hdigit : ∀ c ∈ t.head?, c.isDigit = true)
    (hne : t ≠ []) (hscan : ∀ r, Stops r → scanUnsigned (t ++ r) = some (q, r)) :
    Prints t (.number q) := by
  rintro (_ | fuel) r hfuel hr
  · exact absurd hfuel (Nat.not_lt_zero _)
  · obtain ⟨c, cs, rfl⟩ := List.exists_cons_of_ne_nil hne
    have h := hscan r hr
    rw [List.cons_append] at h ⊢
    rw [scanValue_digit (hdigit c rfl), h]
    rfl

theorem isDigit_head_decimal (n : ℕ) (s : Text) :
    ∀ c ∈ (decimal n ++ s).head?, c.isDigit = true := by
  intro c hc
  rw [List.head?_append_of_ne_nil _ (decimal_ne_nil n)] at hc
  exact Nat.isDigit_of_mem_toDigits (by omega) (by omega) (List.mem_of_mem_head? hc)

/-- A natural number. -/
theorem Prints.decimal (n : ℕ) : Prints (decimal n) (.number n) := by
  apply Prints.of_scanUnsigned
  · have hhead := isDigit_head_decimal n []
    rwa [List.append_nil] at hhead
  · exact decimal_ne_nil n
  · intro r hr
    exact scanUnsigned_decimal hr

/-- A number of hundredths, two digits behind the point. -/
theorem Prints.hundredths (n : ℕ) :
    Prints (CText.decimal (n / 100) ++ '.' :: padded 2 (n % 100)) (.number ((n : ℚ) / 100)) := by
  apply Prints.of_scanUnsigned
  · exact isDigit_head_decimal _ _
  · simp
  · intro r hr
    rw [List.append_assoc, List.cons_append]
    exact scanUnsigned_hundredths hr

/-! ## Printed objects -/

/-- A member with the text of its value. -/
structure Member where
  key : Text
  text : Text
  value : Value

def Member.Good (m : Member) : Prop := Plain m.key ∧ Prints m.text m.value

def Member.render (m : Member) : Text := '"' :: (m.key ++ '"' :: ':' :: m.text)

/-- The members with commas between them. -/
def renderMembers : List Member → Text
  | [] => []
  | [m] => m.render
  | m :: ms => m.render ++ ',' :: renderMembers ms

def renderObject (ms : List Member) : Text := '\x7b' :: (renderMembers ms ++ ['\x7d'])

def Member.pair (m : Member) : Text × Value := (m.key, m.value)

/-- One member, up to the character behind it. -/
theorem Member.Good.scan {m : Member} (h : m.Good) {fuel : ℕ} (hfuel : m.render.length < fuel)
    {c : Char} (hc : c = ',' ∨ c = '\x7d') (s : Text) :
    scanMembers (fuel + 1) (m.render ++ c :: s) =
      if c = ',' then (scanMembers fuel s).map fun (ms, s) => (m.pair :: ms, s)
      else some ([m.pair], s) := by
  obtain ⟨hkey, hvalue⟩ := h
  have hstops : Stops (c :: s) := by
    intro d hd
    obtain rfl : c = d := Option.some.inj hd
    rcases hc with rfl | rfl
    · decide
    · decide
  have hlen : m.text.length < fuel := by
    simp [Member.render] at hfuel
    omega
  have hscan := hvalue fuel (c :: s) hlen hstops
  have htext : m.render ++ c :: s = '"' :: (m.key ++ '"' :: (':' :: (m.text ++ c :: s))) := by
    simp [Member.render]
  rw [htext, scanMembers, skipSpace_cons (by decide), expect_cons]
  simp only [Option.bind_eq_bind, Option.bind_some, scanString_plain hkey,
    skipSpace_cons (show isSpace ':' = false by decide), expect_cons, hscan]
  rcases hc with rfl | rfl
  · rw [skipSpace_cons (by decide), if_pos rfl]
    show (scanMembers fuel s).bind _ = _
    cases scanMembers fuel s with
    | none => rfl
    | some r => rfl
  · rw [skipSpace_cons (by decide), if_neg (by decide)]
    rfl

theorem renderMembers_cons (m : Member) {ms : List Member} (h : ms ≠ []) :
    renderMembers (m :: ms) = m.render ++ ',' :: renderMembers ms := by
  rw [renderMembers]
  exact h

theorem exists_renderMembers {ms : List Member} (h : ms ≠ []) :
    ∃ s, renderMembers ms = '"' :: s := by
  match ms, h with
  | [m], _ => exact ⟨_, rfl⟩
  | m :: k :: ms, _ => exact ⟨_, rfl⟩

theorem scanMembers_render {ms : List Member} (hne : ms ≠ []) (h : ∀ m ∈ ms, m.Good)
    {fuel : ℕ} (hfuel : (renderMembers ms).length + 1 < fuel) (r : Text) :
    scanMembers fuel (renderMembers ms ++ '\x7d' :: r) = some (ms.map Member.pair, r) := by
  induction ms using renderMembers.induct generalizing fuel with
  | case1 => exact absurd rfl hne
  | case2 m =>
      obtain ⟨fuel, rfl⟩ := Nat.exists_eq_add_one_of_ne_zero (Nat.ne_zero_of_lt hfuel)
      have hm := h m List.mem_cons_self
      rw [renderMembers] at hfuel ⊢
      rw [hm.scan (by omega) (Or.inr rfl), if_neg (by decide)]
      rfl
  | case3 m ms hms ih =>
      obtain ⟨fuel, rfl⟩ := Nat.exists_eq_add_one_of_ne_zero (Nat.ne_zero_of_lt hfuel)
      have hm := h m List.mem_cons_self
      have hrest := fun k hk => h k (List.mem_cons_of_mem m hk)
      have hrender := renderMembers_cons m hms
      rw [hrender, List.length_append, List.length_cons] at hfuel
      rw [hrender, List.append_assoc, List.cons_append, hm.scan (by omega) (Or.inl rfl),
        if_pos rfl, ih hms hrest (by omega)]
      rfl

theorem scanValue_object (fuel : ℕ) (s : Text) :
    scanValue (fuel + 1) ('\x7b' :: '"' :: s) =
      (scanMembers fuel ('"' :: s)).map fun (ms, s) => (.object ms, s) := by
  rw [scanValue, skipSpace_cons (by decide)]
  simp [skipSpace_cons (show isSpace '"' = false by decide)]

/-- **An object of printed members is read as these members, in order.** -/
theorem Prints.object {ms : List Member} (h : ∀ m ∈ ms, m.Good) :
    Prints (renderObject ms) (.object (ms.map Member.pair)) := by
  rintro (_ | fuel) r hfuel -
  · exact absurd hfuel (Nat.not_lt_zero _)
  · have happend : renderObject ms ++ r = '\x7b' :: (renderMembers ms ++ '\x7d' :: r) := by
      simp [renderObject]
    simp only [renderObject, List.length_cons, List.length_append, List.length_nil] at hfuel
    rw [happend]
    by_cases hms : ms = []
    · subst hms
      rfl
    · have hscan := scanMembers_render hms h (show _ < fuel by omega) r
      obtain ⟨s, hs⟩ := exists_renderMembers hms
      rw [hs, List.cons_append] at hscan ⊢
      rw [scanValue_object, hscan]
      rfl

end Json
