import Overdub.Proofs.Text.Blank
import Overdub.Proofs.Text.Numeral
import Overdub.Proofs.Text.Split
import Overdub.Subtitle.Clock

/-!
Timestamps as they are written. However a moment is padded and whatever white space stands around
it, reading it gives the moment back to the nanosecond.
-/

namespace Overdub

open Text (Blank Tight Numeral Fraction isBlank isDigit)

theorem Text.not_isBlank_of_isDigit {c : Char} (digit : isDigit c) : ¬ isBlank c := by
  simp only [isDigit, Bool.and_eq_true, decide_eq_true_eq, Char.le_def, UInt32.le_iff_toNat_le]
    at digit
  obtain ⟨low, high⟩ := digit
  change 48 ≤ c.toNat at low
  change c.toNat ≤ 57 at high
  simp [isBlank]
  omega

namespace Subtitle

variable {d : Duration} {s a b : List Char}

def Hands (d : Duration) (s : List Char) : Prop :=
  ∃ hour minute second, s = [':'].intercalate [hour, minute, second] ∧
    Numeral (d.seconds / 3600) hour ∧ Numeral (d.seconds / 60 % 60) minute ∧
    Numeral (d.seconds % 60) second

def IsMark (c : Char) : Prop := c = ',' ∨ c = '.'

inductive Stamp (d : Duration) : List Char → Prop
  | whole {hands : List Char} : Hands d hands → d.subsecond = 0 → Stamp d hands
  | fraction {hands digits : List Char} {mark : Char} :
      Hands d hands → IsMark mark → Fraction 9 d.subsecond digits →
      Stamp d (hands ++ mark :: digits)

theorem Hands.forall_mem (hands : Hands d s) : ∀ c ∈ s, isDigit c ∨ c = ':' := by
  obtain ⟨hour, minute, second, rfl, h, m, s⟩ := hands
  intro c mem
  simp only [List.intercalate_cons_cons, List.intercalate_singleton, List.mem_append,
    List.mem_singleton] at mem
  rcases mem with (mem | mem) | (mem | mem) | mem
  · exact .inl (h.isDigit c mem)
  · exact .inr mem
  · exact .inl (m.isDigit c mem)
  · exact .inr mem
  · exact .inl (s.isDigit c mem)

theorem seconds_lt (fits : d ≤ .longest) : d.seconds < 2 ^ 64 := by
  change d.nanos ≤ 2 ^ 64 * 1000000000 - 1 at fits
  change d.nanos / 1000000000 < 2 ^ 64
  omega

theorem word?_trim {n : Nat} (h : Numeral n s) (fits : n < 2 ^ 64) :
    Text.word? 64 (Text.trim s) = some n := by
  have tight := Text.tight_of_forall fun c mem => Text.not_isBlank_of_isDigit (h.isDigit c mem)
  rw [tight.trim_eq, h.word?_eq fits]

theorem Hands.split_eq (hands : Hands d s) (fits : d ≤ .longest) :
    (Text.split ':' s).map (Text.word? 64 <| Text.trim ·) =
      [some (d.seconds / 3600), some (d.seconds / 60 % 60), some (d.seconds % 60)] := by
  obtain ⟨hour, minute, second, rfl, h, m, s⟩ := hands
  have most := seconds_lt fits
  have colonless : ∀ p ∈ [hour, minute, second], ':' ∉ p := by
    intro p mem colon
    have digit : isDigit ':' := by
      simp only [List.mem_cons, List.not_mem_nil, or_false] at mem
      rcases mem with rfl | rfl | rfl
      · exact h.isDigit _ colon
      · exact m.isDigit _ colon
      · exact s.isDigit _ colon
    exact absurd digit (by decide)
  rw [Text.split_intercalate (List.cons_ne_nil _ _) colonless]
  simp only [List.map_cons, List.map_nil, word?_trim h (by omega), word?_trim m (by omega),
    word?_trim s (by omega)]

theorem cutFraction_append {digits : List Char} {mark : Char} (cut : IsMark mark)
    (plain : ∀ c ∈ digits, ¬ IsMark c) : cutFraction (s ++ mark :: digits) = (s, digits) := by
  have back : ((s ++ mark :: digits).reverse.takeWhile fun c => ¬ (c = ',' ∨ c = '.')) =
      digits.reverse := by
    have stop : (mark :: s.reverse).takeWhile (fun c => ¬ (c = ',' ∨ c = '.')) = [] :=
      List.takeWhile_cons_of_neg fun plain => of_decide_eq_true plain cut
    rw [List.reverse_append, List.reverse_cons, List.append_assoc, List.takeWhile_append_of_pos,
      List.singleton_append, stop, List.append_nil]
    intro c mem
    exact decide_eq_true (plain c (List.mem_reverse.mp mem))
  have longer : digits.length ≠ (s ++ mark :: digits).length := by
    rw [List.length_append, List.length_cons]
    omega
  have front : (s ++ mark :: digits).length - digits.length - 1 = s.length := by
    rw [List.length_append, List.length_cons]
    omega
  unfold cutFraction
  dsimp only
  rw [back, List.reverse_reverse, if_neg longer, front, List.take_left]

theorem cutFraction_of_forall (plain : ∀ c ∈ s, ¬ IsMark c) : cutFraction s = (s, []) := by
  have back : (s.reverse.takeWhile fun c => ¬ (c = ',' ∨ c = '.')) = s.reverse := by
    rw [← List.append_nil s.reverse, List.takeWhile_append_of_pos]
    · rfl
    · intro c mem
      exact decide_eq_true (plain c (List.mem_reverse.mp mem))
  unfold cutFraction
  dsimp only
  rw [back, List.reverse_reverse, if_pos rfl]

theorem fraction?_eq {n : Nat} {digits : List Char} (h : Fraction 9 n digits) :
    fraction? digits = some n := by
  have all : digits.all isDigit := List.all_eq_true.mpr h.isDigit
  rw [fraction?, if_pos ⟨h.length_le, all⟩, h.ofDigits_eq]

theorem Hands.ne_nil (hands : Hands d s) : s ≠ [] := by
  obtain ⟨hour, minute, second, rfl, -, -, -⟩ := hands
  simp [List.intercalate_cons_cons]

theorem Stamp.ne_nil (stamp : Stamp d s) : s ≠ [] := by
  cases stamp with
  | whole hands => exact hands.ne_nil
  | fraction hands => exact List.append_ne_nil_of_left_ne_nil hands.ne_nil _

theorem Stamp.forall_mem (stamp : Stamp d s) : ∀ c ∈ s, isDigit c ∨ c = ':' ∨ IsMark c := by
  cases stamp with
  | whole hands => exact fun c mem => (hands.forall_mem c mem).imp_right .inl
  | fraction hands cut digits =>
    intro c mem
    rcases List.mem_append.mp mem with mem | mem
    · exact (hands.forall_mem c mem).imp_right .inl
    · rcases List.mem_cons.mp mem with rfl | mem
      · exact .inr (.inr cut)
      · exact .inl (digits.isDigit c mem)

theorem Stamp.not_isBlank (stamp : Stamp d s) : ∀ c ∈ s, ¬ isBlank c := by
  intro c mem
  rcases stamp.forall_mem c mem with digit | rfl | rfl | rfl
  · exact Text.not_isBlank_of_isDigit digit
  · decide
  · decide
  · decide

theorem not_isMark_of_isDigit {c : Char} (digit : isDigit c) : ¬ IsMark c := by
  rintro (rfl | rfl) <;> exact absurd digit (by decide)

theorem Hands.not_isMark (hands : Hands d s) : ∀ c ∈ s, ¬ IsMark c := by
  intro c mem
  rcases hands.forall_mem c mem with digit | rfl
  · exact not_isMark_of_isDigit digit
  · rintro (colon | colon) <;> cases colon

theorem Stamp.cut_eq (stamp : Stamp d s) : ∃ hands digits, Hands d hands ∧
    cutFraction s = (hands, digits) ∧ fraction? digits = some d.subsecond := by
  cases stamp with
  | whole hands none =>
    refine ⟨s, [], hands, cutFraction_of_forall hands.not_isMark, ?_⟩
    rw [none]
    rfl
  | fraction hands cut digits =>
    exact ⟨_, _, hands, cutFraction_append cut fun c mem => not_isMark_of_isDigit (digits.isDigit c mem),
      fraction?_eq digits⟩

theorem clock_stamp (stamp : Stamp d s) (fits : d ≤ .longest) (ha : Blank a) (hb : Blank b)
    (line : Nat) : clock line (a ++ s ++ b) = .ok d := by
  obtain ⟨hands, digits, written, cut, rest⟩ := stamp.cut_eq
  have tight := Text.tight_of_forall stamp.not_isBlank
  have most := seconds_lt fits
  have total : d.seconds / 3600 * 3600 + d.seconds / 60 % 60 * 60 + d.seconds % 60 = d.seconds := by
    omega
  have low : ¬ (60 ≤ d.seconds / 60 % 60 ∨ 60 ≤ d.seconds % 60) := by omega
  unfold clock
  rw [Text.trim_append ha s hb, tight.trim_eq, cut]
  dsimp only
  rw [written.split_eq fits, rest]
  dsimp only
  rw [if_neg low, total, if_neg (Nat.not_le.mpr most)]
  exact congrArg (Except.ok ∘ Duration.mk) (Nat.div_add_mod' ..)

end Subtitle

end Overdub
