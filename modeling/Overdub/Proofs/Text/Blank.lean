import Mathlib.Data.List.TakeWhile
import Overdub.Text.Blank

/-!
Trimming. White space around a text does not count, and a text whose first and last characters are
not white space is trimmed already.
-/

namespace Overdub.Text

def Blank (s : List Char) : Prop := ∀ c ∈ s, isBlank c

instance : DecidablePred Blank := fun s => List.decidableBAll (fun c => isBlank c) s

structure Tight (s : List Char) : Prop where
  head : ∀ c ∈ s.head?, ¬ isBlank c
  last : ∀ c ∈ s.getLast?, ¬ isBlank c

variable {s a b : List Char}

theorem tight_of_forall (h : ∀ c ∈ s, ¬ isBlank c) : Tight s where
  head c mem := h c (List.mem_of_mem_head? mem)
  last c mem := h c (List.mem_of_getLast? mem)

theorem blank_nil : Blank [] := nofun

theorem Blank.append (ha : Blank a) (hb : Blank b) : Blank (a ++ b) := by
  intro c mem
  exact (List.mem_append.mp mem).elim (ha c) (hb c)

theorem trimStart_append (blank : Blank a) (s : List Char) :
    trimStart (a ++ s) = trimStart s :=
  List.dropWhile_append_of_pos blank

theorem trimStart_eq_nil (blank : Blank a) : trimStart a = [] := by
  have gone := trimStart_append blank []
  rwa [List.append_nil] at gone

theorem trimEnd_append (s : List Char) (blank : Blank b) : trimEnd (s ++ b) = trimEnd s := by
  have reversed : ∀ c ∈ b.reverse, isBlank c := fun c mem => blank c (List.mem_reverse.mp mem)
  unfold trimEnd
  rw [List.reverse_append, List.dropWhile_append_of_pos reversed]

theorem trim_eq_nil (blank : Blank s) : trim s = [] := by
  rw [trim, trimStart_eq_nil blank]
  rfl

theorem trim_append (ha : Blank a) (s : List Char) (hb : Blank b) : trim (a ++ s ++ b) = trim s := by
  have tail : trim (s ++ b) = trim s := by
    unfold trim trimStart
    rw [List.dropWhile_append]
    split
    · next none =>
      rw [List.isEmpty_iff.mp none]
      exact congrArg trimEnd (trimStart_eq_nil hb)
    · exact trimEnd_append _ hb
  rw [List.append_assoc, ← tail, trim, trimStart_append ha, trim]

theorem Tight.trim_eq (tight : Tight s) : trim s = s := by
  have front : trimStart s = s := by
    cases s with
    | nil => rfl
    | cons c s => exact List.dropWhile_cons_of_neg (tight.head c rfl)
  have back : trimEnd s = s := by
    rcases List.eq_nil_or_concat s with rfl | ⟨s, c, rfl⟩
    · rfl
    · have last := tight.last c (by simp)
      simp [trimEnd, last]
  rw [trim, front, back]

theorem exists_eq_append_trim (s : List Char) : ∃ a b, s = a ++ trim s ++ b ∧ Blank a ∧ Blank b := by
  let back := (trimStart s).reverse
  refine ⟨s.takeWhile isBlank, (back.takeWhile isBlank).reverse, ?_, ?_, ?_⟩
  · have front : trim s ++ (back.takeWhile isBlank).reverse = trimStart s := by
      rw [trim, trimEnd, ← List.reverse_append, List.takeWhile_append_dropWhile,
        List.reverse_reverse]
    rw [List.append_assoc, front]
    exact List.takeWhile_append_dropWhile.symm
  · exact fun c mem => List.mem_takeWhile_imp mem
  · exact fun c mem => List.mem_takeWhile_imp (List.mem_reverse.mp mem)

theorem length_trim_le (s : List Char) : (trim s).length ≤ s.length := by
  obtain ⟨a, b, split, -, -⟩ := exists_eq_append_trim s
  have total := congrArg List.length split
  rw [List.length_append, List.length_append] at total
  omega

theorem tight_of_trim_eq (trimmed : trim s = s) : Tight s where
  head := by
    intro c first blank
    cases s with
    | nil => cases first
    | cons d s =>
      cases first
      have shorter : trim (c :: s) = trim s := by
        have one : Blank [c] := List.forall_mem_singleton.mpr blank
        simpa using trim_append one s blank_nil
      have less := length_trim_le s
      rw [← shorter, trimmed, List.length_cons] at less
      omega
  last := by
    intro c last
    have stop := List.head?_dropWhile_not isBlank (trimStart s).reverse
    rw [← trimmed, trim, trimEnd, List.getLast?_reverse] at last
    rw [Option.mem_def.mp last] at stop
    simpa using stop

theorem not_blank_of_trim_eq (some : s ≠ []) (trimmed : trim s = s) : ¬ Blank s := by
  intro blank
  rw [trim_eq_nil blank] at trimmed
  exact some trimmed.symm

theorem tight_trim (s : List Char) : Tight (trim s) := by
  obtain ⟨a, b, split, ha, hb⟩ := exists_eq_append_trim s
  apply tight_of_trim_eq
  rw [← trim_append ha (trim s) hb, ← split]

end Overdub.Text
