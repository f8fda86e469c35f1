import Overdub.Proofs.Text.Blank
import Overdub.Text.Split

/-!
Lines with a key. Neither the case of the key's letters counts nor white space around the line.
-/

namespace Overdub.Text

variable {key k s l rest q : List Char}

def Heads (key s : List Char) : Prop := ∃ k rest, s = k ++ rest ∧ lower k = lower key

theorem length_lower (s : List Char) : (lower s).length = s.length := List.length_map _

theorem take_of_lower_eq (same : lower k = lower key) (rest : List Char) :
    (k ++ rest).take key.length = k := by
  rw [← length_lower key, ← same, length_lower, List.take_left]

theorem heads_iff : Heads key s ↔ lower (s.take key.length) = lower key := by
  constructor
  · rintro ⟨k, rest, rfl, same⟩
    rw [take_of_lower_eq same, same]
  · intro same
    exact ⟨_, _, (List.take_append_drop _ s).symm, same⟩

instance : Decidable (Heads key s) := decidable_of_iff _ heads_iff.symm

theorem afterKey?_append (same : lower k = lower key) (rest : List Char) :
    afterKey? key (k ++ rest) = some rest := by
  have length : key.length = k.length := by rw [← length_lower key, ← same, length_lower]
  rw [afterKey?, take_of_lower_eq same, if_pos same, length, List.drop_left]

theorem afterKey?_eq_none (other : ¬ Heads key s) : afterKey? key s = none :=
  if_neg (mt heads_iff.mpr other)

theorem Heads.isPrefix (heads : Heads key s) : lower key <+: lower s := by
  obtain ⟨k, rest, rfl, same⟩ := heads
  refine ⟨lower rest, ?_⟩
  rw [← same]
  exact List.map_append.symm

theorem Heads.not_heads {key' : List Char} (heads : Heads key s) (le : key'.length ≤ key.length)
    (other : ¬ lower key' <+: lower key) : ¬ Heads key' s := by
  intro heads'
  rw [← length_lower key', ← length_lower key] at le
  exact other (List.prefix_of_prefix_length_le heads'.isPrefix heads.isPrefix le)

theorem toLower_eq (c : Char) :
    c.toLower = c ∨ 65 ≤ c.toNat ∧ c.toNat ≤ 90 ∧ c.toLower.toNat = c.toNat + 32 := by
  unfold Char.toLower
  split
  · next capital =>
    obtain ⟨low, high⟩ := capital
    rw [ge_iff_le, UInt32.le_iff_toNat_le] at low
    rw [UInt32.le_iff_toNat_le] at high
    change 65 ≤ c.toNat at low
    change c.toNat ≤ 90 at high
    refine .inr ⟨low, high, ?_⟩
    change (c.val.toNat + 32) % 2 ^ 32 = c.val.toNat + 32
    change c.val.toNat ≤ 90 at high
    omega
  · exact .inl rfl

theorem utf8Size_toLower {c : Char} : c.toLower.utf8Size = 1 ↔ c.utf8Size = 1 := by
  rw [Char.utf8Size_eq_one_iff, Char.utf8Size_eq_one_iff, UInt32.le_iff_toNat_le,
    UInt32.le_iff_toNat_le]
  change c.toLower.toNat ≤ 127 ↔ c.toNat ≤ 127
  rcases toLower_eq c with same | ⟨low, high, shift⟩
  · rw [same]
  · omega

theorem eq_bracket_of_toLower {c : Char} (lower : c.toLower = '[') : c = '[' := by
  rcases toLower_eq c with same | ⟨low, high, shift⟩
  · exact same.symm.trans lower
  · have code : c.toLower.toNat = 91 := congrArg Char.toNat lower
    omega

theorem isBlank_toLower {c : Char} (blank : isBlank c) : isBlank c.toLower := by
  rcases toLower_eq c with same | ⟨low, high, -⟩
  · rwa [same]
  · simp [isBlank] at blank
    omega

def Keyed (key rest l : List Char) : Prop :=
  ∃ a k b, l = a ++ (k ++ rest) ++ b ∧ Blank a ∧ lower k = lower key ∧ Blank b

theorem Keyed.trim_eq (keyed : Keyed key (rest ++ q) l) (blank : Blank q)
    (first : ∃ c ∈ (lower key).head?, ¬ isBlank c) (last : ∃ c ∈ rest.getLast?, ¬ isBlank c) :
    ∃ k, lower k = lower key ∧ trim l = k ++ rest := by
  obtain ⟨a, k, b, rfl, ha, same, hb⟩ := keyed
  have tight : Tight (k ++ rest) := by
    constructor
    · intro c head blank
      obtain ⟨d, mem, solid⟩ := first
      cases k with
      | nil => cases same ▸ mem
      | cons e k =>
        cases head
        cases same ▸ mem
        exact solid (isBlank_toLower blank)
    · intro c tail
      obtain ⟨d, mem, solid⟩ := last
      rw [List.getLast?_append, Option.mem_def.mp mem] at tail
      cases tail
      exact solid
  refine ⟨k, same, ?_⟩
  calc trim (a ++ (k ++ (rest ++ q)) ++ b)
    _ = trim (k ++ (rest ++ q)) := trim_append ha _ hb
    _ = trim ([] ++ (k ++ rest) ++ q) := by rw [List.nil_append, List.append_assoc]
    _ = trim (k ++ rest) := trim_append blank_nil _ blank
    _ = k ++ rest := tight.trim_eq

end Overdub.Text
