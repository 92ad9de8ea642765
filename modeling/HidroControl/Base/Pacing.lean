import HidroControl.Base.WrapClock
import HidroControl.Base.Trajectory

/-!
# A gate on a 32-bit clock

A loop that does something "every `P` ticks" keeps the reading of the turn in
which it last did it, and opens the gate when the 32-bit age of that stamp has
reached `P`. The age is exact only modulo `2^32`, which can make it too small
and never too large: two openings are always `P` true ticks apart (`apart`).
The other bound needs a loop that looks often enough, less than `2^32 - P` ticks
apart: then nothing is missed, across however many turns of the register
(`soon`, `again`).
-/

namespace Pacing

open WrapClock Trajectory

/-- The 32-bit age of `stamp` has reached `P`. -/
def due (P stamp now : UInt32) : Prop := P ≤ now - stamp

instance (P stamp now : UInt32) : Decidable (due P stamp now) :=
  inferInstanceAs (Decidable (_ ≤ _))

def next (P now stamp : UInt32) : UInt32 := if due P stamp now then now else stamp

/-- The stamp before turn `n`, the turns reading the clock at the true ticks
`t 0`, `t 1`, … -/
def stamp (P s₀ : UInt32) (t : ℕ → ℕ) (n : ℕ) : UInt32 :=
  state (next P) s₀ (fun n => reading (t n)) n

/-- The gate opens in turn `n`. -/
def opens (P s₀ : UInt32) (t : ℕ → ℕ) (n : ℕ) : Prop :=
  due P (stamp P s₀ t n) (reading (t n))

variable {P s₀ : UInt32} {t : ℕ → ℕ}

theorem stamp_succ_of_opens {n : ℕ} (h : opens P s₀ t n) :
    stamp P s₀ t (n + 1) = reading (t n) := if_pos h

theorem stamp_succ_of_not_opens {n : ℕ} (h : ¬ opens P s₀ t n) :
    stamp P s₀ t (n + 1) = stamp P s₀ t n := if_neg h

/-- The stamp is the reading of the last turn in which the gate was open. -/
theorem stamp_of_lastBefore {n m : ℕ} (h : LastBefore (opens P s₀ t) n m) :
    stamp P s₀ t n = reading (t m) := by
  rcases latch (stamp P s₀ t) (fun n => reading (t n))
      (fun _ => stamp_succ_of_opens) (fun _ => stamp_succ_of_not_opens) n with
    ⟨hnone, -⟩ | ⟨m', hm', hreg⟩
  · exact absurd h.holds (hnone m h.lt)
  · rw [hreg, h.unique hm']

theorem exists_lastBefore {i n : ℕ} (hi : opens P s₀ t i) (h : i < n) :
    ∃ m, LastBefore (opens P s₀ t) n m := by
  rcases latch (stamp P s₀ t) (fun n => reading (t n))
      (fun _ => stamp_succ_of_opens) (fun _ => stamp_succ_of_not_opens) n with
    ⟨hnone, -⟩ | ⟨m, hm, -⟩
  · exact absurd hi (hnone i h)
  · exact ⟨m, hm⟩

/-- **Not too often.** Any two openings are at least `P` true ticks apart. -/
theorem apart (hmono : Monotone t) {i j : ℕ} (h : i < j) (hi : opens P s₀ t i)
    (hj : opens P s₀ t j) : t i + P.toNat ≤ t j := by
  obtain ⟨m, hm⟩ := exists_lastBefore hi h
  have him : t i ≤ t m := hmono (hm.le h hi)
  have hmj : t m ≤ t j := hmono hm.lt.le
  have hage : P.toNat ≤ (reading (t j) - reading (t m)).toNat := by
    rw [← stamp_of_lastBefore hm]
    exact UInt32.le_iff_toNat_le.mp hj
  rw [sub_toNat_of_le hmj] at hage
  have hmod := Nat.mod_le (t j - t m) (2 ^ 32)
  omega

/-- With turns at most `G` ticks apart, a gate that stays shut since turn `i` has
done so for less than `P` ticks: the age is read before the register can turn. -/
theorem shut_lt {G : ℕ} (hmono : Monotone t) (hG : G + P.toNat < 2 ^ 32)
    (hgap : ∀ n, t (n + 1) ≤ t n + G) {i : ℕ} (hi : opens P s₀ t i) {n : ℕ}
    (h : i ≤ n) (hshut : ∀ k, i < k → k ≤ n → ¬ opens P s₀ t k) (hP : 0 < P.toNat) :
    t n < t i + P.toNat := by
  induction n, h using Nat.le_induction with
  | base => omega
  | succ n hin ih =>
      have hn := ih (fun k h1 h2 => hshut k h1 (Nat.le_succ_of_le h2))
      have hlast : LastBefore (opens P s₀ t) (n + 1) i :=
        ⟨Nat.lt_succ_of_le hin, hi,
          fun k h1 h2 => hshut k h1 (Nat.le_of_lt h2)⟩
      have hshut' := hshut (n + 1) (Nat.lt_succ_of_le hin) le_rfl
      have hle : t i ≤ t (n + 1) := hmono (Nat.le_succ_of_le hin)
      have hstep := hgap n
      -- the age has not turned, so it is below `P` because the gate is shut
      unfold opens due at hshut'
      rw [stamp_of_lastBefore hlast, UInt32.le_iff_toNat_le,
        sub_toNat_of_lt hle (by omega)] at hshut'
      omega

/-- **Not too late.** Two openings with none in between are at most `P + G` ticks
apart. -/
theorem soon {G : ℕ} (hmono : Monotone t) (hG : G + P.toNat < 2 ^ 32)
    (hgap : ∀ n, t (n + 1) ≤ t n + G) (hP : 0 < P.toNat) {i j : ℕ} (h : i < j)
    (hi : opens P s₀ t i) (hshut : ∀ k, i < k → k < j → ¬ opens P s₀ t k) :
    t j ≤ t i + P.toNat + G := by
  obtain ⟨n, rfl⟩ := Nat.exists_eq_succ_of_ne_zero (Nat.ne_zero_of_lt h)
  have hn := shut_lt hmono hG hgap hi (Nat.le_of_lt_succ h)
    (fun k h1 h2 => hshut k h1 (Nat.lt_succ_of_le h2)) hP
  have hstep := hgap n
  show t (n + 1) ≤ _
  omega

/-- **Again.** Once `P` ticks have gone by since an opening, the gate has opened
again, and no later than `P + G` ticks after it. -/
theorem again {G : ℕ} (hmono : Monotone t) (hG : G + P.toNat < 2 ^ 32)
    (hgap : ∀ n, t (n + 1) ≤ t n + G) (hP : 0 < P.toNat) {i n : ℕ}
    (hi : opens P s₀ t i) (hlate : t i + P.toNat ≤ t n) :
    ∃ j, i < j ∧ j ≤ n ∧ opens P s₀ t j ∧ t j ≤ t i + P.toNat + G := by
  classical
  have hin : i ≤ n := by
    by_contra hlt
    have := hmono (not_le.mp hlt).le
    omega
  have hopen : ∃ j, i < j ∧ j ≤ n ∧ opens P s₀ t j := by
    by_contra hshut
    push Not at hshut
    have := shut_lt hmono hG hgap hi hin hshut hP
    omega
  obtain ⟨hij, hjn, hj⟩ := Nat.find_spec hopen
  refine ⟨Nat.find hopen, hij, hjn, hj, soon hmono hG hgap hP hij hi fun k h1 h2 hk => ?_⟩
  exact Nat.find_min hopen h2 ⟨h1, h2.le.trans hjn, hk⟩

end Pacing
