import Mathlib.Tactic.Ring
import Overdub.Proofs.Subtitle.Clock

/-!
Every way to spell a timestamp. What is spelled is read as exactly the time that its digits tell,
unless its seconds are more than a machine word holds; whatever else is written is refused.
-/

namespace Overdub

namespace Subtitle

open Text (Word isDigit ofDigits)

variable {seconds n : Nat} {raw s digits hands : List Char} {d : Duration}

theorem plain_or_marked (s : List Char) : (∀ c ∈ s, ¬ IsMark c) ∨
    ∃ hands mark digits, s = hands ++ mark :: digits ∧ IsMark mark ∧ ∀ c ∈ digits, ¬ IsMark c := by
  induction s with
  | nil => exact .inl nofun
  | cons c s ih =>
    rcases ih with plain | ⟨hands, mark, digits, rfl, cut, plain⟩
    · by_cases cut : IsMark c
      · exact .inr ⟨[], c, s, rfl, cut, plain⟩
      · exact .inl (List.forall_mem_cons.mpr ⟨cut, plain⟩)
    · exact .inr ⟨c :: hands, mark, digits, rfl, cut, plain⟩

def Counts (seconds : Nat) (s : List Char) : Prop :=
  ∃ hour minute second h m n, s = [':'].intercalate [hour, minute, second] ∧
    Word 64 h (Text.trim hour) ∧ Word 64 m (Text.trim minute) ∧ Word 64 n (Text.trim second) ∧
    m < 60 ∧ n < 60 ∧ seconds = h * 3600 + m * 60 + n

inductive Spells (seconds : Nat) : List Char → List Char → Prop
  | whole {hands : List Char} : Counts seconds hands → Spells seconds hands []
  | fraction {hands digits : List Char} {mark : Char} :
      Counts seconds hands → IsMark mark → digits.length ≤ 9 → (∀ c ∈ digits, isDigit c) →
      Spells seconds (hands ++ mark :: digits) digits

structure Reading where
  line : Nat
  raw : List Char
  deriving DecidableEq, Repr

namespace Reading

/-- The time is exactly what the digits say: whole seconds, and a decimal fraction of one. -/
def Tells (t : Reading) (d : Duration) : Prop :=
  ∃ seconds digits, Spells seconds (Text.trim t.raw) digits ∧ seconds < 2 ^ 64 ∧
    d.nanos * 10 ^ digits.length =
      (seconds * 10 ^ digits.length + Nat.ofDigitChars 10 digits 0) * Duration.perSecond

/-- The digits are well, but their seconds are more than a machine word holds. -/
def Exceeds (t : Reading) : Prop :=
  ∃ seconds digits, Spells seconds (Text.trim t.raw) digits ∧ 2 ^ 64 ≤ seconds

end Reading

theorem not_mem_of_word {c : Char} (word : Word 64 n (Text.trim s)) (solid : ¬ Text.isBlank c)
    (other : ¬ isDigit c) (unsigned : c ≠ '+') : c ∉ s := by
  obtain ⟨a, b, split, ha, hb⟩ := Text.exists_eq_append_trim s
  obtain ⟨sign, digits, trimmed, signed, -, all, -⟩ := word
  rw [split, trimmed]
  simp only [List.mem_append, not_or]
  refine ⟨⟨mt (ha c) solid, ?_, mt (all c) other⟩, mt (hb c) solid⟩
  rcases signed with rfl | rfl
  · exact List.not_mem_nil
  · exact mt List.mem_singleton.mp unsigned

theorem Counts.split_eq (counts : Counts seconds s) : ∃ h m n,
    (Text.split ':' s).map (Text.word? 64 <| Text.trim ·) = [some h, some m, some n] ∧
      m < 60 ∧ n < 60 ∧ seconds = h * 3600 + m * 60 + n := by
  obtain ⟨hour, minute, second, h, m, n, rfl, hw, mw, nw, rest⟩ := counts
  have colonless : ∀ p ∈ [hour, minute, second], ':' ∉ p := by
    have apart {n : Nat} {p : List Char} (word : Word 64 n (Text.trim p)) : ':' ∉ p :=
      not_mem_of_word word (by decide) (by decide) (by decide)
    simpa using ⟨apart hw, apart mw, apart nw⟩
  refine ⟨h, m, n, ?_, rest⟩
  rw [Text.split_intercalate (List.cons_ne_nil _ _) colonless]
  simp only [List.map_cons, List.map_nil, Text.word?_eq_some_iff.mpr hw,
    Text.word?_eq_some_iff.mpr mw, Text.word?_eq_some_iff.mpr nw]

theorem counts_of_split {h m n : Nat}
    (pieces : (Text.split ':' s).map (Text.word? 64 <| Text.trim ·) = [some h, some m, some n])
    (minute : m < 60) (second : n < 60) : Counts (h * 3600 + m * 60 + n) s := by
  obtain ⟨p, ps, split, hw, rest⟩ := List.map_eq_cons_iff.mp pieces
  obtain ⟨q, qs, rfl, mw, rest⟩ := List.map_eq_cons_iff.mp rest
  obtain ⟨r, rs, rfl, nw, rest⟩ := List.map_eq_cons_iff.mp rest
  cases List.map_eq_nil_iff.mp rest
  have joined := Text.intercalate_split ':' s
  rw [split] at joined
  exact ⟨p, q, r, h, m, n, joined.symm, Text.word?_eq_some_iff.mp hw,
    Text.word?_eq_some_iff.mp mw, Text.word?_eq_some_iff.mp nw, minute, second, rfl⟩

theorem Counts.not_isMark (counts : Counts seconds s) : ∀ c ∈ s, ¬ IsMark c := by
  obtain ⟨hour, minute, second, h, m, n, rfl, hw, mw, nw, -⟩ := counts
  have apart {n : Nat} {p : List Char} (word : Word 64 n (Text.trim p)) : ',' ∉ p ∧ '.' ∉ p :=
    ⟨not_mem_of_word word (by decide) (by decide) (by decide),
      not_mem_of_word word (by decide) (by decide) (by decide)⟩
  obtain ⟨⟨hc, hp⟩, ⟨mc, mp⟩, nc, np⟩ := And.intro (apart hw) (And.intro (apart mw) (apart nw))
  rintro c mem (rfl | rfl) <;>
    simp only [List.intercalate_cons_cons, List.intercalate_singleton, List.mem_append,
      List.mem_singleton] at mem
  · simp [hc, mc, nc] at mem
  · simp [hp, mp, np] at mem

theorem fraction?_eq_some (few : digits.length ≤ 9) (all : ∀ c ∈ digits, isDigit c) :
    fraction? digits = some (ofDigits digits * 10 ^ (9 - digits.length)) :=
  if_pos ⟨few, List.all_eq_true.mpr all⟩

theorem Spells.cut_eq (spells : Spells seconds s digits) : ∃ hands,
    cutFraction s = (hands, digits) ∧ Counts seconds hands ∧
      fraction? digits = some (ofDigits digits * 10 ^ (9 - digits.length)) := by
  cases spells with
  | whole counts => exact ⟨s, cutFraction_of_forall counts.not_isMark, counts, rfl⟩
  | fraction counts cut few all =>
    exact ⟨_, cutFraction_append cut fun c mem => not_isMark_of_isDigit (all c mem), counts,
      fraction?_eq_some few all⟩

theorem spells_of_cut (cut : cutFraction s = (hands, digits)) (counts : Counts seconds hands)
    (told : (fraction? digits).isSome) : Spells seconds s digits := by
  rcases plain_or_marked s with plain | ⟨hands', mark, digits', rfl, marked, plain⟩
  · cases (cutFraction_of_forall plain).symm.trans cut
    exact .whole counts
  · cases (cutFraction_append marked plain).symm.trans cut
    unfold fraction? at told
    split at told
    · next all => exact .fraction counts marked all.1 (List.all_eq_true.mp all.2)
    · cases told

theorem clock_of_spells (spells : Spells seconds (Text.trim raw) digits) (line : Nat) :
    clock line raw = if 2 ^ 64 ≤ seconds then .error (.overflow line)
      else .ok (.ofParts seconds (ofDigits digits * 10 ^ (9 - digits.length))) := by
  obtain ⟨hands, cut, counts, told⟩ := spells.cut_eq
  obtain ⟨h, m, n, pieces, minute, second, rfl⟩ := counts.split_eq
  unfold clock
  rw [cut]
  dsimp only
  rw [pieces, told]
  exact if_neg (by omega)

theorem clock_eq_or_spells (line : Nat) (raw : List Char) :
    clock line raw = .error (.parse line (.timestamp raw)) ∨
      ∃ seconds digits, Spells seconds (Text.trim raw) digits := by
  cases cut : cutFraction (Text.trim raw) with
  | mk hands digits =>
  unfold clock
  rw [cut]
  dsimp only
  split
  · next h m n nanos pieces told =>
    split
    · exact .inl rfl
    · next low =>
      have counts := counts_of_split pieces (by omega) (by omega)
      exact .inr ⟨_, digits, spells_of_cut cut counts (told ▸ rfl)⟩
  · exact .inl rfl

theorem nanos_eq_iff (few : digits.length ≤ 9) : d.nanos * 10 ^ digits.length =
      (seconds * 10 ^ digits.length + Nat.ofDigitChars 10 digits 0) * Duration.perSecond ↔
    d = .ofParts seconds (ofDigits digits * 10 ^ (9 - digits.length)) := by
  have power : Duration.perSecond = 10 ^ (9 - digits.length) * 10 ^ digits.length := by
    rw [← Nat.pow_add, Nat.sub_add_cancel few]
    rfl
  have total : (seconds * 10 ^ digits.length + Nat.ofDigitChars 10 digits 0) * Duration.perSecond =
      (Duration.ofParts seconds (ofDigits digits * 10 ^ (9 - digits.length))).nanos *
        10 ^ digits.length := by
    rw [Duration.ofParts, Text.ofDigits_eq]
    conv_lhs => rw [Nat.add_mul]
    conv_rhs => rw [Nat.add_mul]
    rw [power]
    ring
  rw [total, Nat.mul_left_inj (Nat.pow_pos (by decide)).ne']
  exact ⟨congrArg Duration.mk, congrArg Duration.nanos⟩

theorem Spells.length_le (spells : Spells seconds s digits) : digits.length ≤ 9 := by
  cases spells with
  | whole => exact Nat.zero_le 9
  | fraction _ _ few => exact few

namespace Reading

variable {t : Reading}

/-- A timestamp is accepted just for the time that it tells. -/
theorem clock_eq_ok_iff : clock t.line t.raw = .ok d ↔ t.Tells d := by
  constructor
  · intro accepted
    rcases clock_eq_or_spells t.line t.raw with refused | ⟨seconds, digits, spells⟩
    · cases refused.symm.trans accepted
    · rw [clock_of_spells spells] at accepted
      split at accepted
      · cases accepted
      · next fits =>
        cases accepted
        exact ⟨seconds, digits, spells, Nat.not_le.mp fits, (nanos_eq_iff spells.length_le).mpr rfl⟩
  · rintro ⟨seconds, digits, spells, fits, exactly⟩
    rw [clock_of_spells spells, if_neg (Nat.not_le.mpr fits),
      (nanos_eq_iff spells.length_le).mp exactly]

theorem clock_eq_overflow_iff :
    (∃ line, clock t.line t.raw = .error (.overflow line)) ↔ t.Exceeds := by
  constructor
  · rintro ⟨line, exceeded⟩
    rcases clock_eq_or_spells t.line t.raw with refused | ⟨seconds, digits, spells⟩
    · cases refused.symm.trans exceeded
    · rw [clock_of_spells spells] at exceeded
      split at exceeded
      · next exceeds => exact ⟨seconds, digits, spells, exceeds⟩
      · cases exceeded
  · rintro ⟨seconds, digits, spells, exceeds⟩
    exact ⟨t.line, (clock_of_spells spells t.line).trans (if_pos exceeds)⟩

end Reading

end Subtitle

end Overdub
