import Mathlib.Data.List.Induction
import Overdub.Text.Numeral

/-!
Numerals as they are printed: the decimal digits of a number, padded with zeros. Reading one gives
the number back. What else is read as a machine word has a plus sign before it.
-/

namespace Overdub.Text

def Numeral (n : Nat) (s : List Char) : Prop :=
  ∃ zeros, s = List.replicate zeros '0' ++ Nat.toDigits 10 n

/-- The first digits of a fraction of `places` places, of which `n` is the numerator; only zeros
may be left out. -/
def Fraction (places n : Nat) (digits : List Char) : Prop :=
  ∃ zeros, digits.length + zeros = places ∧ Numeral n (digits ++ List.replicate zeros '0')

def Word (bits n : Nat) (s : List Char) : Prop :=
  ∃ sign digits, s = sign ++ digits ∧ (sign = [] ∨ sign = ['+']) ∧ digits ≠ [] ∧
    (∀ c ∈ digits, isDigit c) ∧ Nat.ofDigitChars 10 digits 0 = n ∧ n < 2 ^ bits

theorem ofDigits_eq (s : List Char) : ofDigits s = Nat.ofDigitChars 10 s 0 := by
  simp only [ofDigits, Nat.ofDigitChars, digit, Nat.mul_comm]

theorem ofDigits_append_zeros (s : List Char) (n : Nat) :
    ofDigits (s ++ List.replicate n '0') = ofDigits s * 10 ^ n := by
  induction n generalizing s with
  | zero => simp
  | succ n ih =>
    have one : ofDigits (s ++ ['0']) = ofDigits s * 10 := by simp [ofDigits, digit]
    rw [List.replicate_succ, List.append_cons, ih, one, Nat.pow_succ', Nat.mul_assoc]

theorem isDigit_of_mem_toDigits {n : Nat} {c : Char} (mem : c ∈ Nat.toDigits 10 n) : isDigit c := by
  have digit := Nat.isDigit_of_mem_toDigits (by decide) (by decide) mem
  rw [Char.isDigit, Bool.and_eq_true, decide_eq_true_eq, decide_eq_true_eq] at digit
  rw [isDigit, Bool.and_eq_true, decide_eq_true_eq, decide_eq_true_eq]
  exact digit

section Word

variable {bits n : Nat} {c : Char} {s : List Char}

theorem head?_ne_plus (all : ∀ c ∈ s, isDigit c) : s.head? ≠ some '+' := by
  intro plus
  exact absurd (all '+' (List.mem_of_head? plus)) (by decide)

theorem word?_of_digits (some_digit : s ≠ []) (all : ∀ c ∈ s, isDigit c)
    (fits : ofDigits s < 2 ^ bits) : word? bits s = some (ofDigits s) := by
  obtain ⟨c, t, rfl⟩ := List.exists_cons_of_ne_nil some_digit
  unfold word?
  rw [if_neg (head?_ne_plus all)]
  dsimp only
  rw [List.all_eq_true.mpr all, if_pos fits]
  rfl

theorem word?_plus (all : ∀ c ∈ s, isDigit c) : word? bits ('+' :: s) = word? bits s := by
  unfold word?
  rw [if_neg (head?_ne_plus all)]
  rfl

theorem exists_sign (s : List Char) : ∃ sign digits, s = sign ++ digits ∧
    (sign = [] ∨ sign = ['+']) ∧ digits = if s.head? = some '+' then s.tail else s := by
  split
  · next plus =>
    obtain ⟨t, rfl⟩ := List.head?_eq_some_iff.mp plus
    exact ⟨['+'], t, rfl, .inr rfl, rfl⟩
  · exact ⟨[], s, rfl, .inl rfl, rfl⟩

theorem word?_eq_some_iff : word? bits s = some n ↔ Word bits n s := by
  constructor
  · intro read
    obtain ⟨sign, digits, split, signed, rest⟩ := exists_sign s
    unfold word? at read
    rw [← rest] at read
    dsimp only at read
    split at read
    · cases read
    · next plain =>
      simp only [Bool.or_eq_true, not_or, Bool.not_eq_true, List.isEmpty_eq_false_iff,
        Bool.not_eq_false', List.all_eq_true] at plain
      split at read
      · next fits =>
        cases read
        exact ⟨sign, digits, split, signed, plain.1, plain.2, (ofDigits_eq digits).symm, fits⟩
      · cases read
  · rintro ⟨sign, digits, rfl, signed, some_digit, all, rfl, fits⟩
    rw [← ofDigits_eq] at fits ⊢
    have unsigned := word?_of_digits some_digit all fits
    rcases signed with rfl | rfl
    · exact unsigned
    · exact (word?_plus all).trans unsigned

theorem toNat_le_of_isDigit (h : isDigit c) : c.toNat ≤ 57 := by
  simp only [isDigit, Bool.and_eq_true, decide_eq_true_eq, Char.le_def, UInt32.le_iff_toNat_le] at h
  exact h.2

theorem digit_lt (h : isDigit c) : digit c < 10 := by
  have high := toNat_le_of_isDigit h
  change c.toNat - 48 < 10
  omega

theorem utf8Size_of_isDigit (h : isDigit c) : c.utf8Size = 1 := by
  rw [Char.utf8Size_eq_one_iff, UInt32.le_iff_toNat_le]
  exact Nat.le_trans (toNat_le_of_isDigit h) (by decide)

theorem ofDigits_lt (all : ∀ c ∈ s, isDigit c) : ofDigits s < 10 ^ s.length := by
  induction s using List.reverseRecOn with
  | nil => decide
  | append_singleton s c ih =>
    have front := ih fun d mem => all d (List.mem_append_left _ mem)
    have last := digit_lt (all c (List.mem_append_right _ List.mem_cons_self))
    have whole : ofDigits (s ++ [c]) = ofDigits s * 10 + digit c := by simp [ofDigits]
    rw [whole, List.length_append, List.length_singleton, Nat.pow_succ]
    omega

end Word

namespace Numeral

variable {n : Nat} {s : List Char}

theorem ofDigits_eq (h : Numeral n s) : ofDigits s = n := by
  obtain ⟨zeros, rfl⟩ := h
  have front : Nat.ofDigitChars 10 (List.replicate zeros '0') 0 = 0 := by
    rw [← Text.ofDigits_eq, ← List.nil_append (List.replicate _ _), ofDigits_append_zeros]
    exact Nat.zero_mul _
  rw [Text.ofDigits_eq, Nat.ofDigitChars_append, front,
    Nat.ofDigitChars_toDigits (by decide) (by decide)]

theorem isDigit (h : Numeral n s) : ∀ c ∈ s, isDigit c := by
  obtain ⟨zeros, rfl⟩ := h
  intro c mem
  rcases List.mem_append.mp mem with mem | mem
  · rw [List.eq_of_mem_replicate mem]
    rfl
  · exact isDigit_of_mem_toDigits mem

theorem ne_nil (h : Numeral n s) : s ≠ [] := by
  obtain ⟨zeros, rfl⟩ := h
  exact List.append_ne_nil_of_right_ne_nil _ Nat.toDigits_ne_nil

theorem word?_eq (h : Numeral n s) {bits : Nat} (fits : n < 2 ^ bits) : word? bits s = some n := by
  rw [← h.ofDigits_eq] at fits ⊢
  exact word?_of_digits h.ne_nil h.isDigit fits

end Numeral

namespace Fraction

variable {places n : Nat} {digits : List Char}

theorem isDigit (h : Fraction places n digits) : ∀ c ∈ digits, isDigit c := by
  obtain ⟨zeros, -, numeral⟩ := h
  exact fun c mem => numeral.isDigit c (List.mem_append_left _ mem)

theorem length_le (h : Fraction places n digits) : digits.length ≤ places := by
  obtain ⟨zeros, length, -⟩ := h
  exact Nat.le.intro length

theorem ofDigits_eq (h : Fraction places n digits) :
    ofDigits digits * 10 ^ (places - digits.length) = n := by
  obtain ⟨zeros, rfl, numeral⟩ := h
  rw [Nat.add_sub_cancel_left, ← ofDigits_append_zeros]
  exact numeral.ofDigits_eq

end Fraction

end Overdub.Text
