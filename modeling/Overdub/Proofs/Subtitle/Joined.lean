import Overdub.Proofs.Subtitle.SubRip

/-!
SubRip files put together at a blank line. What comes of each does not depend on the other: the
cues follow one another, the first fault counts, and lines are told by where they stand in the
whole file.
-/

namespace Overdub.Subtitle

def Error.later (n : Nat) : Error → Error
  | io path cause => io path cause
  | unsupported extension => unsupported extension
  | parse line flaw => parse (line + n) flaw
  | overflow line => overflow (line + n)

theorem clock_later (line n : Nat) (raw : List Char) :
    clock (line + n) raw = (clock line raw).mapError (.later n) := by
  unfold clock
  obtain ⟨hands, digits⟩ := cutFraction (Text.trim raw)
  dsimp only
  split
  · split
    · rfl
    · split <;> rfl
  · rfl

namespace SubRip

def Line.later (n : Nat) (l : Line) : Line := (l.1 + n, l.2)

section Cue

variable {n : Nat}

theorem spoken_later (ls : List Line) : spoken (ls.map (.later n)) = spoken ls := by
  rw [spoken, List.map_map]
  rfl

theorem cue_later (first : Nat) (ls : List Line) :
    cue (first + n) (ls.map (.later n)) = (cue first ls).mapError (.later n) := by
  induction ls with
  | nil => rfl
  | cons l ls ih =>
    obtain ⟨line, l⟩ := l
    rw [List.map_cons, Line.later, cue, cue]
    cases Text.cutAt? ['-', '-', '>'] l with
    | none => exact ih
    | some p =>
      obtain ⟨start, finish⟩ := p
      dsimp only
      rw [clock_later, clock_later, spoken_later]
      cases clock line start with
      | error e => rfl
      | ok start => cases clock line (firstWord finish) <;> rfl

def cueOf (b : List Line) : Except Error Cue := cue ((b.head?.map (·.1)).getD 0) b

theorem cueOf_later {b : List Line} (some : b ≠ []) :
    cueOf (b.map (.later n)) = (cueOf b).mapError (.later n) := by
  obtain ⟨l, ls, rfl⟩ := List.exists_cons_of_ne_nil some
  exact cue_later l.1 (l :: ls)

theorem mapM_cueOf_later {bs : List (List Line)} (some : ∀ b ∈ bs, b ≠ []) :
    (bs.map (·.map (.later n))).mapM cueOf = (bs.mapM cueOf).mapError (.later n) := by
  induction bs with
  | nil => rfl
  | cons b bs ih =>
    have rest := ih fun b mem => some b (List.mem_cons_of_mem _ mem)
    rw [List.map_cons, List.mapM_cons, List.mapM_cons, cueOf_later (some b List.mem_cons_self),
      rest]
    cases cueOf b with
    | error e => rfl
    | ok c => cases bs.mapM cueOf <;> rfl

end Cue

section Blocks

theorem blocks_gap {g : Line} (gap : isGap g) (ls : List Line) : blocks (g :: ls) = blocks ls := by
  rw [blocks, if_pos gap]

/-- Lines are blank ones and blocks of others, each of which ends at a blank line or with the
lines. -/
@[elab_as_elim]
theorem blocks_induction {P : List Line → Prop} (nil : P [])
    (gap : ∀ g ls, isGap g → P ls → P (g :: ls))
    (block : ∀ b ls, b ≠ [] → (∀ l ∈ b, ¬ isGap l) → (∀ l ∈ ls.head?, isGap l) → P ls →
      P (b ++ ls)) (ls : List Line) : P ls := by
  cases ls with
  | nil => exact nil
  | cons l ls =>
    by_cases blank : isGap l
    · exact gap l ls blank (blocks_induction nil gap block ls)
    · let b := l :: ls.takeWhile (!isGap ·)
      let rest := ls.dropWhile (!isGap ·)
      have shorter : rest.length < (l :: ls).length :=
        Nat.lt_succ_of_le (List.dropWhile_sublist _).length_le
      have whole : l :: ls = b ++ rest := by
        rw [List.cons_append, List.takeWhile_append_dropWhile]
      have solid : ∀ l ∈ b, ¬ isGap l := by
        rw [List.forall_mem_cons]
        refine ⟨blank, fun l mem => ?_⟩
        simpa using List.mem_takeWhile_imp mem
      have stop : ∀ l ∈ rest.head?, isGap l := by
        intro l first
        have fails := List.head?_dropWhile_not (!isGap ·) ls
        rw [Option.mem_def.mp first] at fails
        simpa using fails
      rw [whole]
      exact block b rest (List.cons_ne_nil _ _) solid stop (blocks_induction nil gap block rest)
termination_by ls.length
decreasing_by
  · exact Nat.lt_succ_self _
  · exact shorter

theorem ne_nil_of_mem_blocks (ls : List Line) : ∀ b ∈ blocks ls, b ≠ [] := by
  induction ls using blocks_induction with
  | nil => nofun
  | gap g ls gap ih => rwa [blocks_gap gap]
  | block b ls some solid stop ih =>
    rw [blocks_append some solid stop, List.forall_mem_cons]
    exact ⟨some, ih⟩

theorem blocks_later (n : Nat) (ls : List Line) :
    blocks (ls.map (.later n)) = (blocks ls).map (·.map (.later n)) := by
  induction ls using blocks_induction with
  | nil => rfl
  | gap g ls gap ih => rw [List.map_cons, blocks_gap gap, blocks_gap (g := .later n g) gap, ih]
  | block b ls some solid stop ih =>
    have solid' : ∀ l ∈ b.map (.later n), ¬ isGap l := List.forall_mem_map.mpr solid
    have stop' : ∀ l ∈ (ls.map (.later n)).head?, isGap l := by
      rw [List.head?_map]
      intro _ mem
      obtain ⟨l, first, rfl⟩ := Option.map_eq_some_iff.mp mem
      exact stop l first
    rw [List.map_append, blocks_append (by simpa using some) solid' stop',
      blocks_append some solid stop, ih, List.map_cons]

theorem blocks_append_gap {g : Line} (gap : isGap g) (xs ys : List Line) :
    blocks (xs ++ g :: ys) = blocks xs ++ blocks ys := by
  induction xs using blocks_induction with
  | nil => exact blocks_gap gap ys
  | gap g' xs gap' ih => rw [List.cons_append, blocks_gap gap', blocks_gap gap', ih]
  | block b xs some solid stop ih =>
    have stop' : ∀ l ∈ (xs ++ g :: ys).head?, isGap l := by
      cases xs with
      | nil => exact fun l first => Option.some.inj first ▸ gap
      | cons l xs => exact stop
    rw [List.append_assoc, blocks_append some solid stop', blocks_append some solid stop, ih,
      List.cons_append]

end Blocks

section Lines

theorem isGap_empty (n : Nat) : isGap (n, []) := rfl

def number (n : Nat) (ls : List (List Char)) : List Line := ls.mapIdx fun i l => (n + i, bare l)

theorem numbered_eq (n : Nat) (s : List Char) : numbered n s = number n (Text.lines s) := rfl

theorem number_append (n : Nat) (ls ms : List (List Char)) :
    number n (ls ++ ms) = number n ls ++ (number n ms).map (.later ls.length) := by
  rw [number, number, number, List.mapIdx_append]
  congr 1
  apply List.ext_getElem <;> simp [Line.later, Nat.add_assoc]

theorem blocks_number_split (n : Nat) (s : List Char) :
    blocks (number n (Text.split '\n' s)) = blocks (numbered n s) := by
  rcases Text.split_eq_lines_or s with same | more
  · rw [same, numbered_eq]
  · have last : number n [[]] = [(n, [])] := rfl
    rw [more, number_append, last, List.map_singleton, Line.later,
      blocks_append_gap (isGap_empty _), numbered_eq]
    exact List.append_nil _

theorem blocks_blank_line (a b : List Char) :
    blocks (numbered 1 (a ++ '\n' :: '\n' :: b)) =
      blocks (numbered 1 a) ++ (blocks (numbered 1 b)).map (·.map (.later (a.count '\n' + 2))) := by
  have apart : Text.lines (a ++ '\n' :: '\n' :: b) =
      (Text.split '\n' a ++ [[]]) ++ Text.lines b := by
    have gap := Text.lines_append List.not_mem_nil b
    rw [List.nil_append] at gap
    rw [Text.lines_append_lines, gap, List.append_assoc, List.singleton_append]
  have above : (Text.split '\n' a ++ [[]]).length = a.count '\n' + 2 := by
    rw [List.length_append, Text.length_split, List.length_singleton]
  have blank : (number 1 [[]]).map (Line.later (Text.split '\n' a).length) =
      [(1 + (Text.split '\n' a).length, [])] := rfl
  rw [numbered_eq, apart, number_append, above, number_append, blank, List.append_assoc,
    List.singleton_append, blocks_append_gap (isGap_empty _), blocks_number_split, blocks_later,
    numbered_eq 1 b]

end Lines

/-- A file that ends before a blank line and one that starts after it are read as they are on their
own, and the first fault of the two is told. -/
theorem parse_blank_line (a b : String) :
    parse (a ++ "\n\n" ++ b).toList = do
      let xs ← parse a.toList
      let ys ← (parse b.toList).mapError (.later (a.toList.count '\n' + 2))
      return xs ++ ys := by
  have whole : (a ++ "\n\n" ++ b).toList = a.toList ++ '\n' :: '\n' :: b.toList := by
    simp
  have first (s : List Char) : parse s = (blocks (numbered 1 s)).mapM cueOf := rfl
  rw [whole, first, blocks_blank_line, List.mapM_append,
    mapM_cueOf_later (ne_nil_of_mem_blocks _)]
  rfl

end SubRip

end Overdub.Subtitle
