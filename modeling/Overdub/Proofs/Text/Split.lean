import Mathlib.Data.List.Forall2
import Overdub.Text.Split

/-!
Cutting text where it was put together. Pieces without the separator are given back as they were,
and so are lines that each have an end of their own.
-/

namespace Overdub.Text

variable {c : Char} {a l s : List Char}

theorem ne_of_not_mem (h : c ∉ a) : ∀ x ∈ a, decide (x ≠ c) :=
  fun _ mem => decide_eq_true fun same => h (same ▸ mem)

theorem takeWhile_ne_append (h : c ∉ a) (s : List Char) : (a ++ c :: s).takeWhile (· ≠ c) = a := by
  rw [List.takeWhile_append_of_pos (ne_of_not_mem h), List.takeWhile_cons_of_neg (by simp),
    List.append_nil]

theorem dropWhile_ne_append (h : c ∉ a) (s : List Char) :
    (a ++ c :: s).dropWhile (· ≠ c) = c :: s := by
  rw [List.dropWhile_append_of_pos (ne_of_not_mem h), List.dropWhile_cons_of_neg (by simp)]

theorem dropWhile_ne_of_not_mem (h : c ∉ a) : a.dropWhile (· ≠ c) = [] := by
  rw [← List.append_nil a, List.dropWhile_append_of_pos (ne_of_not_mem h), List.dropWhile_nil]

theorem split_of_not_mem (h : c ∉ a) : split c a = [a] := by
  rw [split]
  split
  · rfl
  · next some => cases (dropWhile_ne_of_not_mem h).symm.trans some

theorem split_append (h : c ∉ a) (s : List Char) : split c (a ++ c :: s) = a :: split c s := by
  have back := dropWhile_ne_append h s
  rw [split]
  split
  · next none => cases back.symm.trans none
  · next some =>
    cases back.symm.trans some
    rw [takeWhile_ne_append h]

/-- A text is one piece, or a piece before a separator and what follows it. -/
@[elab_as_elim]
theorem pieces_induction (c : Char) {P : List Char → Prop} (piece : ∀ s, c ∉ s → P s)
    (append : ∀ p s, c ∉ p → P s → P (p ++ c :: s)) (s : List Char) : P s := by
  by_cases mem : c ∈ s
  · obtain ⟨p, rest, whole, out⟩ := List.eq_append_cons_of_mem mem
    have shorter : rest.length < s.length := by
      rw [whole, List.length_append, List.length_cons]
      omega
    rw [whole]
    exact append p rest out (pieces_induction c piece append rest)
  · exact piece s mem
termination_by s.length

theorem length_split (c : Char) (s : List Char) : (split c s).length = s.count c + 1 := by
  induction s using pieces_induction c with
  | piece s out =>
    rw [split_of_not_mem out, List.count_eq_zero_of_not_mem out, List.length_singleton]
  | append p rest out ih =>
    rw [split_append out, List.length_cons, ih, List.count_append,
      List.count_eq_zero_of_not_mem out, List.count_cons_self, Nat.zero_add]

theorem intercalate_cons (c : Char) (p : List Char) {ps : List (List Char)} (some : ps ≠ []) :
    [c].intercalate (p :: ps) = p ++ c :: [c].intercalate ps := by
  obtain ⟨q, ps, rfl⟩ := List.exists_cons_of_ne_nil some
  simp [List.intercalate_cons_cons]

theorem intercalate_concat (sep : List Char) {ps : List (List Char)} (some : ps ≠ [])
    (s : List Char) : sep.intercalate (ps ++ [s]) = sep.intercalate ps ++ sep ++ s := by
  induction ps with
  | nil => exact absurd rfl some
  | cons p ps ih =>
    cases ps with
    | nil => simp
    | cons q ps =>
      have rest := ih (List.cons_ne_nil _ _)
      rw [List.cons_append] at rest
      rw [List.cons_append, List.cons_append, List.intercalate_cons_cons, rest,
        List.intercalate_cons_cons]
      simp only [List.append_assoc]

theorem exists_intercalate_concat (sep : List Char) (ps : List (List Char)) :
    ∃ front, ∀ s, sep.intercalate (ps ++ [s]) = front ++ s := by
  by_cases none : ps = []
  · subst none
    exact ⟨[], fun s => List.intercalate_singleton⟩
  · exact ⟨_, intercalate_concat sep none⟩

theorem toList_join (ls : List (List Char)) :
    ("\n".intercalate (ls.map .ofList)).toList = ['\n'].intercalate ls := by
  rw [String.toList_intercalate, List.map_map]
  simp [Function.comp_def]

theorem split_intercalate {ps : List (List Char)} (some : ps ≠ []) (h : ∀ p ∈ ps, c ∉ p) :
    split c ([c].intercalate ps) = ps := by
  induction ps with
  | nil => exact absurd rfl some
  | cons p ps ih =>
    have first := h p List.mem_cons_self
    by_cases more : ps = []
    · subst more
      rw [List.intercalate_singleton]
      exact split_of_not_mem first
    · rw [intercalate_cons c p more, split_append first,
        ih more fun p mem => h p (List.mem_cons_of_mem _ mem)]

theorem intercalate_split (c : Char) (s : List Char) : [c].intercalate (split c s) = s := by
  induction s using pieces_induction c with
  | piece s out => rw [split_of_not_mem out, List.intercalate_singleton]
  | append p rest out ih =>
    rw [split_append out, intercalate_cons c p (split_ne_nil c rest), ih]

theorem splitAtMost_intercalate {ps : List (List Char)} (h : ∀ p ∈ ps, c ∉ p) (s : List Char) :
    splitAtMost (ps.length + 1) c ([c].intercalate (ps ++ [s])) = ps ++ [s] := by
  induction ps with
  | nil => simp [splitAtMost]
  | cons p ps ih =>
    have first := h p List.mem_cons_self
    rw [List.cons_append, intercalate_cons c p (by simp), List.length_cons, splitAtMost,
      dropWhile_ne_append first, takeWhile_ne_append first]
    exact congrArg (p :: ·) (ih fun p mem => h p (List.mem_cons_of_mem _ mem))

/-- The text of some lines, each of which is ended by a line feed, with or without a carriage return
before it. -/
inductive Written : List (List Char) → List Char → Prop
  | nil : Written [] []
  | feed {l : List Char} {ls : List (List Char)} {s : List Char} :
      '\n' ∉ l → Written ls s → Written (l :: ls) (l ++ '\n' :: s)
  | returned {l : List Char} {ls : List (List Char)} {s : List Char} :
      '\n' ∉ l → Written ls s → Written (l :: ls) (l ++ '\r' :: '\n' :: s)

theorem lines_nil : lines [] = [] := by
  rw [lines, split_of_not_mem List.not_mem_nil]
  rfl

theorem lines_append (h : '\n' ∉ l) (s : List Char) : lines (l ++ '\n' :: s) = l :: lines s := by
  obtain ⟨p, ps, pieces⟩ := List.exists_cons_of_ne_nil (split_ne_nil '\n' s)
  unfold lines
  rw [split_append h, pieces]
  dsimp only
  rw [List.getLast?_cons_cons, List.dropLast_cons_of_ne_nil (List.cons_ne_nil _ _)]
  split <;> rfl

theorem lines_append_lines (a s : List Char) :
    lines (a ++ '\n' :: s) = split '\n' a ++ lines s := by
  induction a using pieces_induction '\n' with
  | piece a out => rw [lines_append out, split_of_not_mem out, List.singleton_append]
  | append p rest out ih =>
    rw [List.append_assoc, List.cons_append, lines_append out, ih, split_append out,
      List.cons_append]

theorem split_eq_lines_or (s : List Char) :
    split '\n' s = lines s ∨ split '\n' s = lines s ++ [[]] := by
  unfold lines
  dsimp only
  split
  · next last =>
    obtain ⟨front, whole⟩ := List.getLast?_eq_some_iff.mp last
    right
    rw [whole, List.dropLast_concat]
  · exact .inl rfl

theorem lines_of_written {ls : List (List Char)} (written : Written ls s) :
    List.Forall₂ (fun l l' => l' = l ∨ l' = l ++ ['\r']) ls (lines s) := by
  induction written with
  | nil =>
    rw [lines_nil]
    exact .nil
  | feed line _ ih =>
    rw [lines_append line]
    exact .cons (.inl rfl) ih
  | @returned l _ s line _ ih =>
    have line' : '\n' ∉ l ++ ['\r'] := by simpa using line
    rw [List.append_cons, lines_append line']
    exact .cons (.inr rfl) ih

theorem Written.unmark {ls : List (List Char)} (written : Written ls ('\uFEFF' :: s)) :
    ∃ l ls', ls = ('\uFEFF' :: l) :: ls' ∧ Written (l :: ls') s := by
  generalize whole : '\uFEFF' :: s = t at written
  cases written with
  | nil => cases whole
  | @feed l _ _ line rest =>
    cases l with
    | nil => cases whole
    | cons c l =>
      cases whole
      exact ⟨l, _, rfl, .feed (fun mem => line (List.mem_cons_of_mem _ mem)) rest⟩
  | @returned l _ _ line rest =>
    cases l with
    | nil => cases whole
    | cons c l =>
      cases whole
      exact ⟨l, _, rfl, .returned (fun mem => line (List.mem_cons_of_mem _ mem)) rest⟩

theorem cutAt?_append {mark : List Char} {c : Char} (h : c ∉ a) (s : List Char) :
    cutAt? (c :: mark) (a ++ (c :: mark ++ s)) = some (a, s) := by
  induction a with
  | nil =>
    simp [cutAt?]
  | cons d a ih =>
    obtain ⟨other, rest⟩ := not_or.mp (mt List.mem_cons.mpr h)
    have past : ¬ (c :: mark).isPrefixOf (d :: (a ++ (c :: mark ++ s))) := by
      simp [other]
    rw [List.cons_append, cutAt?, if_neg past, ih rest]
    rfl

theorem cutAt?_eq_none {mark : List Char} (some : mark ≠ []) (h : ¬ mark <:+: s) :
    cutAt? mark s = none := by
  induction s with
  | nil =>
    rw [cutAt?, if_neg]
    simpa using some
  | cons c s ih =>
    have past : ¬ mark.isPrefixOf (c :: s) :=
      fun front => h (List.isPrefixOf_iff_prefix.mp front).isInfix
    rw [cutAt?, if_neg past, ih fun inner => h (inner.trans (List.suffix_cons c s).isInfix)]
    rfl

theorem exists_cutAt? {mark : List Char} (inside : mark <:+: s) : ∃ a b, cutAt? mark s = some (a, b) := by
  induction s with
  | nil =>
    rw [List.eq_nil_of_infix_nil inside]
    exact ⟨[], [], rfl⟩
  | cons c s ih =>
    rw [cutAt?]
    split
    · exact ⟨_, _, rfl⟩
    · next past =>
      rw [List.isPrefixOf_iff_prefix] at past
      obtain ⟨a, b, cut⟩ := ih ((List.infix_cons_iff.mp inside).resolve_left past)
      rw [cut]
      exact ⟨c :: a, b, rfl⟩

end Overdub.Text
