import Mathlib.Data.List.TakeWhile
import Overdub.Proofs.Subtitle.Clock
import Overdub.Proofs.Subtitle.Order

/-!
SubRip files as they are written. Whatever the lines above a timing line, the hints after it, the
padding of its timestamps and the ends of lines, parsing gives back the cues that were written.
-/

namespace Overdub.Subtitle.SubRip

open Text (Blank Written isBlank)

/-- The line of two timestamps with an arrow between them. After white space anything may follow. -/
inductive Timing (start finish : Duration) : List Char → Prop
  | intro {s f hints : List Char} : Stamp start s → Stamp finish f →
      (∀ c ∈ hints.head?, isBlank c) → Timing start finish (s ++ " --> ".toList ++ f ++ hints)

structure Block where
  above : List (List Char)
  timing : List Char
  start : Duration
  finish : Duration
  speech : List (List Char)
  timing_tells : Timing start finish timing
  start_le : start ≤ .longest
  finish_le : finish ≤ .longest
  above_some : ∀ l ∈ above, ¬ Blank l
  above_plain : ∀ l ∈ above, ¬ ['-', '-', '>'] <:+: l
  speech_some : ∀ l ∈ speech, l ≠ []
  speech_trim : ∀ l ∈ speech, Text.trim l = l
  speech_plain : ∀ l ∈ speech, '<' ∉ l ∧ '\x7b' ∉ l ∧ '\r' ∉ l

namespace Block

def lines (b : Block) : List (List Char) := b.above ++ b.timing :: b.speech

def cue (b : Block) : Cue :=
  ⟨"\n".intercalate (b.speech.map .ofList), b.start, b.finish.sub b.start⟩

end Block

/-- The lines of blocks between which there is at least one blank line. -/
inductive Laid : List Block → List (List Char) → Prop
  | nil : Laid [] []
  | gap {bs : List Block} {l : List Char} {ls : List (List Char)} :
      Blank l → Laid bs ls → Laid bs (l :: ls)
  | last (b : Block) : Laid [b] b.lines
  | next (b : Block) {bs : List Block} {l : List Char} {ls : List (List Char)} :
      Blank l → Laid bs ls → Laid (b :: bs) (b.lines ++ l :: ls)

def bare (l : List Char) : List Char := (l.reverse.dropWhile (· = '\r')).reverse

section Bare

variable {l : List Char}

theorem exists_eq_bare_append (l : List Char) :
    ∃ returns, l = bare l ++ returns ∧ ∀ c ∈ returns, c = '\r' := by
  refine ⟨(l.reverse.takeWhile (· = '\r')).reverse, ?_, ?_⟩
  · rw [bare, ← List.reverse_append, List.takeWhile_append_dropWhile, List.reverse_reverse]
  · intro c mem
    have returned := List.mem_takeWhile_imp (List.mem_reverse.mp mem)
    exact of_decide_eq_true returned

theorem bare_append {a : List Char} (stop : ∀ c ∈ a.getLast?, c ≠ '\r') (l : List Char) :
    bare (a ++ l) = a ++ bare l := by
  have kept : a.reverse.dropWhile (· = '\r') = a.reverse := by
    rcases List.eq_nil_or_concat a with rfl | ⟨a, c, rfl⟩
    · rfl
    · have last : c ≠ '\r' := stop c (by simp)
      simp [last]
  unfold bare
  rw [List.reverse_append, List.dropWhile_append, kept]
  split
  · next none =>
    rw [List.isEmpty_iff.mp none]
    simp
  · rw [List.reverse_append, List.reverse_reverse]

theorem bare_return (l : List Char) : bare (l ++ ['\r']) = bare l := by
  simp [bare]

theorem bare_of_not_mem (h : '\r' ∉ l) : bare l = l := by
  have stop : ∀ c ∈ l.getLast?, c ≠ '\r' :=
    fun c mem same => h (same ▸ List.mem_of_getLast? mem)
  have whole := bare_append stop []
  simpa [bare] using whole

theorem blank_bare_iff : Blank (bare l) ↔ Blank l := by
  obtain ⟨returns, split, all⟩ := exists_eq_bare_append l
  have blank : Blank returns := fun c mem => all c mem ▸ by decide
  constructor
  · intro h
    rw [split]
    exact h.append blank
  · intro h c mem
    exact h c (split ▸ List.mem_append_left _ mem)

end Bare

theorem numbered_of_written {ls : List (List Char)} {s : List Char} (written : Written ls s)
    (n : Nat) : (numbered n s).map Prod.snd = ls.map bare := by
  have unnumbered : (numbered n s).map Prod.snd = (Text.lines s).map bare := by
    apply List.ext_getElem <;> simp [numbered, bare]
  have ends : List.Forall₂ (· = ·) (ls.map bare) ((Text.lines s).map bare) := by
    rw [List.forall₂_map_left_iff, List.forall₂_map_right_iff]
    refine (Text.lines_of_written written).imp ?_
    rintro l _ (rfl | rfl)
    · rfl
    · exact (bare_return l).symm
  rw [unnumbered]
  exact (List.forall₂_eq_eq_eq ▸ ends).symm

theorem isGap_iff {l : Line} : isGap l ↔ Blank l.2 := List.all_eq_true

theorem blocks_append {b ls : List Line} (some : b ≠ []) (solid : ∀ l ∈ b, ¬ isGap l)
    (stop : ∀ l ∈ ls.head?, isGap l) : blocks (b ++ ls) = b :: blocks ls := by
  induction b with
  | nil => exact absurd rfl some
  | cons l b ih =>
    have text := solid l List.mem_cons_self
    cases b with
    | nil =>
      rw [List.singleton_append, blocks, if_neg text]
      cases ls with
      | nil => rfl
      | cons g ls => exact if_pos (stop g rfl)
    | cons next b =>
      have rest := ih (List.cons_ne_nil _ _) fun l mem => solid l (List.mem_cons_of_mem _ mem)
      have more := solid next (List.mem_cons_of_mem _ List.mem_cons_self)
      rw [List.cons_append, blocks, if_neg text, rest]
      exact if_neg more

theorem Timing.not_blank {start finish : Duration} {l : List Char} (timing : Timing start finish l) :
    ¬ Blank l := by
  intro blank
  obtain @⟨s, f, hints, written, -, -⟩ := timing
  obtain ⟨c, t, rfl⟩ := List.exists_cons_of_ne_nil written.ne_nil
  exact written.not_isBlank c List.mem_cons_self (blank c List.mem_cons_self)

theorem firstWord_append {word hints : List Char} (some : word ≠ [])
    (whole : ∀ c ∈ word, ¬ isBlank c) (apart : ∀ c ∈ hints.head?, isBlank c) :
    firstWord (' ' :: (word ++ hints)) = word := by
  obtain ⟨c, word, rfl⟩ := List.exists_cons_of_ne_nil some
  have space : Blank [' '] := List.forall_mem_singleton.mpr rfl
  have front : Text.trimStart (c :: word ++ hints) = c :: word ++ hints :=
    List.dropWhile_cons_of_neg (whole c List.mem_cons_self)
  have stop : hints.takeWhile (!isBlank ·) = [] := by
    cases hints with
    | nil => rfl
    | cons d hints => exact List.takeWhile_cons_of_neg (by simpa using apart d rfl)
  have word_whole : ∀ d ∈ c :: word, !isBlank d := fun d mem => by simpa using whole d mem
  unfold firstWord
  rw [← List.singleton_append, Text.trimStart_append space, front,
    List.takeWhile_append_of_pos word_whole, stop, List.append_nil]

theorem Timing.cut {start finish : Duration} {l : List Char} (timing : Timing start finish l)
    (le : start ≤ .longest) (le' : finish ≤ .longest) (n : Nat) : ∃ s f,
      Text.cutAt? ['-', '-', '>'] (bare l) = some (s, f) ∧ clock n s = .ok start ∧
        clock n (firstWord f) = .ok finish := by
  obtain @⟨s, f, hints, written, written', apart⟩ := timing
  have space : Blank [' '] := List.forall_mem_singleton.mpr rfl
  have returnless : ∀ c ∈ s ++ " --> ".toList ++ f, c ≠ '\r' := by
    rintro _ mem rfl
    rcases List.mem_append.mp mem with mem | mem
    · rcases List.mem_append.mp mem with mem | mem
      · exact written.not_isBlank _ mem rfl
      · exact absurd mem (by decide)
    · exact written'.not_isBlank _ mem rfl
  have arrowless : '-' ∉ s ++ [' '] := by
    intro mem
    rcases List.mem_append.mp mem with mem | mem
    · rcases written.forall_mem _ mem with h | h | h | h <;> exact absurd h (by decide)
    · exact absurd mem (by decide)
  refine ⟨s ++ [' '], ' ' :: (f ++ bare hints), ?_, ?_, ?_⟩
  · rw [bare_append fun c mem => returnless c (List.mem_of_getLast? mem)]
    have cut : Text.cutAt? ['-', '-', '>'] _ = _ :=
      Text.cutAt?_append arrowless (' ' :: (f ++ bare hints))
    simpa using cut
  · exact clock_stamp written le Text.blank_nil space n
  · have apart' : ∀ c ∈ (bare hints).head?, isBlank c := by
      obtain ⟨returns, split, -⟩ := exists_eq_bare_append hints
      intro c first
      apply apart
      rw [split, List.head?_append, Option.mem_def.mp first]
      rfl
    rw [firstWord_append written'.ne_nil written'.not_isBlank apart']
    simpa using clock_stamp written' le' Text.blank_nil Text.blank_nil n

theorem strip_of_not_mem {l : List Char} (tag : '<' ∉ l) (override : '\x7b' ∉ l) :
    strip none l = l := by
  induction l with
  | nil => rfl
  | cons c l ih =>
    have rest := ih (List.not_mem_of_not_mem_cons tag) (List.not_mem_of_not_mem_cons override)
    rw [strip, if_neg (List.ne_of_not_mem_cons tag).symm,
      if_neg (List.ne_of_not_mem_cons override).symm, rest]

theorem cue_append {above : List Line} (plain : ∀ l ∈ above, ¬ ['-', '-', '>'] <:+: l.2)
    (first : Nat) (ls : List Line) : SubRip.cue first (above ++ ls) = SubRip.cue first ls := by
  induction above with
  | nil => rfl
  | cons l above ih =>
    have arrowless := Text.cutAt?_eq_none (List.cons_ne_nil _ _) (plain l List.mem_cons_self)
    rw [List.cons_append, SubRip.cue, arrowless]
    exact ih fun l mem => plain l (List.mem_cons_of_mem _ mem)

namespace Block

variable (b : Block)

theorem not_blank : ∀ l ∈ b.lines, ¬ Blank l := by
  intro l mem blank
  rcases List.mem_append.mp mem with mem | mem
  · exact b.above_some l mem blank
  · rcases List.mem_cons.mp mem with rfl | mem
    · exact b.timing_tells.not_blank blank
    · exact Text.not_blank_of_trim_eq (b.speech_some l mem) (b.speech_trim l mem) blank

theorem spoken_eq {ls : List Line} (lines : ls.map Prod.snd = b.speech.map bare) :
    spoken ls = b.speech.map .ofList := by
  have said : ls.map (fun l => Text.trim (strip none l.2)) = b.speech := by
    have bared : ls.map (fun l => Text.trim (strip none l.2)) =
        (ls.map Prod.snd).map fun l => Text.trim (strip none l) := by
      rw [List.map_map]
      rfl
    rw [bared, lines, List.map_map]
    refine (List.map_congr_left ?_).trans (List.map_id _)
    intro l mem
    obtain ⟨tag, override, returned⟩ := b.speech_plain l mem
    rw [Function.comp_apply, bare_of_not_mem returned, strip_of_not_mem tag override]
    exact b.speech_trim l mem
  have all : b.speech.filter (· ≠ []) = b.speech :=
    List.filter_eq_self.mpr fun l mem => decide_eq_true (b.speech_some l mem)
  rw [spoken, said, all]

theorem cue_eq {ls : List Line} (lines : ls.map Prod.snd = b.lines.map bare) (first : Nat) :
    SubRip.cue first ls = .ok b.cue := by
  rw [Block.lines, List.map_append, List.map_cons, List.map_eq_append_iff] at lines
  obtain ⟨above, rest, rfl, above_eq, rest_eq⟩ := lines
  obtain ⟨⟨n, timing⟩, speech, rfl, timing_eq, speech_eq⟩ := List.map_eq_cons_iff.mp rest_eq
  have plain : ∀ l ∈ above, ¬ ['-', '-', '>'] <:+: l.2 := by
    intro l mem arrow
    have mem' : l.2 ∈ b.above.map bare := above_eq ▸ List.mem_map_of_mem mem
    obtain ⟨l', mem', bared⟩ := List.mem_map.mp mem'
    obtain ⟨returns, split, -⟩ := exists_eq_bare_append l'
    rw [← bared] at arrow
    exact b.above_plain l' mem' (arrow.trans (split ▸ List.prefix_append _ _).isInfix)
  obtain rfl : timing = bare b.timing := timing_eq
  obtain ⟨s, f, cut, start, finish⟩ := b.timing_tells.cut b.start_le b.finish_le n
  rw [cue_append plain, SubRip.cue, cut]
  dsimp only
  rw [start, finish, b.spoken_eq speech_eq]
  rfl

theorem solid {ls : List Line} (lines : ls.map Prod.snd = b.lines.map bare) :
    ls ≠ [] ∧ ∀ l ∈ ls, ¬ isGap l := by
  constructor
  · rintro rfl
    have count := congrArg List.length lines
    simp [Block.lines] at count
  · intro l mem gap
    have mem' : l.2 ∈ b.lines.map bare := lines ▸ List.mem_map_of_mem mem
    obtain ⟨l', mem', bared⟩ := List.mem_map.mp mem'
    have blank := isGap_iff.mp gap
    rw [← bared, blank_bare_iff] at blank
    exact b.not_blank l' mem' blank

end Block

theorem blocks_of_laid {bs : List Block} {ls : List (List Char)} (laid : Laid bs ls)
    {ns : List Line} (lines : ns.map Prod.snd = ls.map bare) :
    List.Forall₂ (fun n b => n.map Prod.snd = b.lines.map bare) (blocks ns) bs := by
  induction laid generalizing ns with
  | nil =>
    rw [List.map_eq_nil_iff.mp lines]
    exact .nil
  | gap blank _ ih =>
    obtain ⟨g, ns, rfl, gap, lines⟩ := List.map_eq_cons_iff.mp lines
    have gap : isGap g := isGap_iff.mpr (gap ▸ blank_bare_iff.mpr blank)
    rw [blocks, if_pos gap]
    exact ih lines
  | last b =>
    obtain ⟨some, solid⟩ := b.solid lines
    have whole : blocks (ns ++ []) = [ns] := blocks_append some solid nofun
    rw [List.append_nil] at whole
    rw [whole]
    exact .cons lines .nil
  | next b blank _ ih =>
    rw [List.map_append, List.map_cons, List.map_eq_append_iff] at lines
    obtain ⟨above, rest, rfl, above_eq, rest_eq⟩ := lines
    obtain ⟨g, ns, rfl, gap, lines⟩ := List.map_eq_cons_iff.mp rest_eq
    have gap : isGap g := isGap_iff.mpr (gap ▸ blank_bare_iff.mpr blank)
    obtain ⟨some, solid⟩ := b.solid above_eq
    have stop : ∀ l ∈ (g :: ns).head?, isGap l := by
      intro l first
      cases first
      exact gap
    rw [blocks_append some solid stop, blocks, if_pos gap]
    exact .cons above_eq (ih lines)

theorem mapM_of_forall₂ {α β ε : Type} {f : α → Except ε β} {xs : List α} {ys : List β}
    (h : List.Forall₂ (fun x y => f x = .ok y) xs ys) : xs.mapM f = .ok ys := by
  induction h with
  | nil => rfl
  | cons first _ ih =>
    rw [List.mapM_cons, first, ih]
    rfl

theorem parse_of_laid {bs : List Block} {ls : List (List Char)} {s : List Char} (laid : Laid bs ls)
    (written : Written ls s) : parse s = .ok (bs.map Block.cue) := by
  apply mapM_of_forall₂
  rw [List.forall₂_map_right_iff]
  exact (blocks_of_laid laid (numbered_of_written written 1)).imp fun _ b lines => b.cue_eq lines _

theorem Block.isBlank_cue_iff (b : Block) : b.cue.isBlank ↔ b.speech = [] := by
  rw [Cue.isBlank, cue, Text.toList_join, List.all_eq_true]
  constructor
  · intro blank
    cases speech : b.speech with
    | nil => rfl
    | cons l speech' =>
      have mem : l ∈ b.lines := by simp [Block.lines, speech]
      refine absurd (fun c hc => blank c ?_) (b.not_blank l mem)
      rw [speech]
      cases speech' with
      | nil => simpa using hc
      | cons => exact Text.intercalate_cons '\n' l (List.cons_ne_nil _ _) ▸ List.mem_append_left _ hc
  · intro none
    rw [none]
    exact nofun

theorem Timing.not_marked {start finish : Duration} {l : List Char}
    (timing : Timing start finish l) : l.head? ≠ some '\uFEFF' := by
  obtain @⟨s, f, hints, written, -, -⟩ := timing
  obtain ⟨c, t, rfl⟩ := List.exists_cons_of_ne_nil written.ne_nil
  intro first
  cases first
  rcases written.forall_mem _ List.mem_cons_self with h | h | h | h <;> exact absurd h (by decide)

/-- A mark at the head of a block belongs to a line above the timing line, and these do not count. -/
theorem Block.unmark (b : Block) {l : List Char} {ls : List (List Char)}
    (lines : b.lines = ('\uFEFF' :: l) :: ls) :
    ∃ b' : Block, b'.cue = b.cue ∧ (b'.lines = l :: ls ∨ Blank l ∧ b'.lines = ls) := by
  cases front : b.above with
  | nil =>
    rw [Block.lines, front] at lines
    have first := b.timing_tells.not_marked
    rw [(List.cons.inj lines).1] at first
    exact absurd rfl first
  | cons x above =>
    rw [Block.lines, front] at lines
    obtain ⟨rfl, rfl⟩ := List.cons.inj lines
    have kept (y) (mem : y ∈ above) : y ∈ b.above := front ▸ List.mem_cons_of_mem _ mem
    by_cases blank : Blank l
    · exact ⟨{ b with
        above := above
        above_some := fun y mem => b.above_some y (kept y mem)
        above_plain := fun y mem => b.above_plain y (kept y mem) }, rfl, .inr ⟨blank, rfl⟩⟩
    · have plain : ¬ ['-', '-', '>'] <:+: l := fun arrow =>
        b.above_plain _ (front ▸ List.mem_cons_self) (arrow.trans (List.suffix_cons _ l).isInfix)
      exact ⟨{ b with
        above := l :: above
        above_some := List.forall_mem_cons.mpr ⟨blank, fun y mem => b.above_some y (kept y mem)⟩
        above_plain := List.forall_mem_cons.mpr ⟨plain, fun y mem => b.above_plain y (kept y mem)⟩ },
        rfl, .inl rfl⟩

theorem Laid.unmark {bs : List Block} {l : List Char} {ls : List (List Char)}
    (laid : Laid bs (('\uFEFF' :: l) :: ls)) :
    ∃ bs', Laid bs' (l :: ls) ∧ bs'.map Block.cue = bs.map Block.cue := by
  generalize whole : ('\uFEFF' :: l) :: ls = lines at laid
  cases laid with
  | nil => cases whole
  | gap blank =>
    cases whole
    exact absurd (blank _ List.mem_cons_self) (by decide)
  | last b =>
    obtain ⟨b', cue, lines | ⟨blank, lines⟩⟩ := b.unmark whole.symm
    · exact ⟨[b'], lines ▸ .last b', congrArg (· :: []) cue⟩
    · exact ⟨[b'], lines ▸ .gap blank (.last b'), congrArg (· :: []) cue⟩
  | @next b bs g ls' blank laid =>
    obtain ⟨x, xs, front⟩ := List.exists_cons_of_ne_nil (l := b.lines) (by simp [Block.lines])
    rw [front] at whole
    cases whole
    obtain ⟨b', cue, lines | ⟨blank', lines⟩⟩ := b.unmark front
    · refine ⟨b' :: bs, ?_, congrArg (· :: _) cue⟩
      have next := Laid.next b' blank laid
      rwa [lines] at next
    · refine ⟨b' :: bs, .gap blank' ?_, congrArg (· :: _) cue⟩
      have next := Laid.next b' blank laid
      rwa [lines] at next

/-- Parsing gives back what was written, with or without a byte order mark: the cues that have a text,
in order of time. -/
theorem parses_written_blocks {bs : List Block} {ls : List (List Char)} {s : List Char}
    (laid : Laid bs ls) (written : Written ls s) {text : String}
    (marked : text.toList = s ∨ text.toList = '\uFEFF' :: s) :
    ∃ track, Track.parseSubRip text = .ok track ∧
      Cue.InOrder ((bs.filter (·.speech ≠ [])).map Block.cue) track.cues := by
  have parsed : parse (Track.withoutMark text.toList) = .ok (bs.map Block.cue) := by
    rcases marked with plain | marked
    · rw [plain]
      by_cases first : s.head? = some '\uFEFF'
      · -- Such a mark is part of the first line, and taken off it all the same.
        obtain ⟨s, rfl⟩ : ∃ t, s = '\uFEFF' :: t := List.head?_eq_some_iff.mp first
        obtain ⟨l, ls, rfl, rest⟩ := written.unmark
        obtain ⟨bs', laid', same⟩ := laid.unmark
        rw [← same]
        exact parse_of_laid laid' rest
      · rw [Track.withoutMark, if_neg first]
        exact parse_of_laid laid written
    · rw [marked]
      exact parse_of_laid laid written
  refine ⟨Track.ofCues (bs.map Block.cue), ?_, ?_⟩
  · rw [Track.parseSubRip, parsed]
    rfl
  · have kept : (bs.map Block.cue).filter (!·.isBlank) =
        (bs.filter (·.speech ≠ [])).map Block.cue := by
      rw [List.filter_map]
      congr 1
      apply List.filter_congr
      intro b _
      rw [Bool.eq_iff_iff]
      simpa using not_congr b.isBlank_cue_iff
    rw [← kept]
    exact Track.ofCues_inOrder _

theorem parses_written_blocks_out_of_order :
    let text := "\uFEFF1\r\n00:00:03,25 --> 0:0:5. X1:10 X2:20\nTwo\n--> lines\r\n \t\n\n" ++
      "00:00:01.5 --> 00:00:01,000\r\nHi\n\n7\r\n00:00:01,5 --> 00:00:01,5\n"
    ∃ track, Track.parseSubRip text = .ok track ∧
      Cue.InOrder [⟨"Two\n--> lines", ⟨3250000000⟩, ⟨1750000000⟩⟩, ⟨"Hi", ⟨1500000000⟩, ⟨0⟩⟩]
        track.cues := by
  intro text
  have three : Stamp ⟨3250000000⟩ "00:00:03,25".toList :=
    .fraction ⟨"00".toList, "00".toList, "03".toList, rfl, ⟨1, rfl⟩, ⟨1, rfl⟩, ⟨1, rfl⟩⟩ (.inl rfl)
      ⟨7, rfl, 0, rfl⟩
  have five : Stamp ⟨5000000000⟩ "0:0:5.".toList :=
    .fraction ⟨"0".toList, "0".toList, "5".toList, rfl, ⟨0, rfl⟩, ⟨0, rfl⟩, ⟨0, rfl⟩⟩ (.inr rfl)
      ⟨9, rfl, 8, rfl⟩
  have one {d : Duration} (within : d.seconds = 1) : Hands d "00:00:01".toList := by
    refine ⟨"00".toList, "00".toList, "01".toList, rfl, ?_, ?_, ?_⟩ <;> rw [within]
    · exact ⟨1, rfl⟩
    · exact ⟨1, rfl⟩
    · exact ⟨1, rfl⟩
  have half : Stamp ⟨1500000000⟩ "00:00:01.5".toList :=
    .fraction (one rfl) (.inr rfl) ⟨8, rfl, 0, rfl⟩
  have half' : Stamp ⟨1500000000⟩ "00:00:01,5".toList :=
    .fraction (one rfl) (.inl rfl) ⟨8, rfl, 0, rfl⟩
  have whole : Stamp ⟨1000000000⟩ "00:00:01,000".toList :=
    .fraction (one rfl) (.inl rfl) ⟨6, rfl, 8, rfl⟩
  let later : Block := {
    above := ["1".toList], speech := ["Two".toList, "--> lines".toList]
    timing := "00:00:03,25 --> 0:0:5. X1:10 X2:20".toList, start := _, finish := _
    timing_tells := @Timing.intro _ _ _ _ " X1:10 X2:20".toList three five (by simp [isBlank])
    start_le := by decide, finish_le := by decide, above_some := by decide
    above_plain := by decide, speech_some := by decide, speech_trim := by decide
    speech_plain := by decide }
  let first : Block := {
    above := [], speech := ["Hi".toList]
    timing := "00:00:01.5 --> 00:00:01,000".toList, start := _, finish := _
    timing_tells := @Timing.intro _ _ _ _ [] half whole (by simp)
    start_le := by decide, finish_le := by decide, above_some := by decide
    above_plain := by decide, speech_some := by decide, speech_trim := by decide
    speech_plain := by decide }
  let silent : Block := {
    above := ["7".toList], speech := []
    timing := "00:00:01,5 --> 00:00:01,5".toList, start := _, finish := _
    timing_tells := @Timing.intro _ _ _ _ [] half' half' (by simp)
    start_le := by decide, finish_le := by decide, above_some := by decide
    above_plain := by decide, speech_some := by decide, speech_trim := by decide
    speech_plain := by decide }
  let ls := ["1", "00:00:03,25 --> 0:0:5. X1:10 X2:20", "Two", "--> lines", " \t", "",
    "00:00:01.5 --> 00:00:01,000", "Hi", "", "7", "00:00:01,5 --> 00:00:01,5"].map String.toList
  have laid : Laid [later, first, silent] ls :=
    .next later (l := " \t".toList) (by decide) <| .gap (l := []) (by decide) <|
      .next first (l := []) (by decide) (.last silent)
  obtain ⟨s, marked, written⟩ : ∃ s, text.toList = '\uFEFF' :: s ∧ Written ls s := by
    refine ⟨_, ?_, .returned (by decide) <| .feed (by decide) <| .feed (by decide) <|
      .returned (by decide) <| .feed (by decide) <| .feed (by decide) <| .returned (by decide) <|
      .feed (by decide) <| .feed (by decide) <| .returned (by decide) <| .feed (by decide) .nil⟩
    rw [String.toList_append]
    decide +kernel
  have two : later.cue = ⟨"Two\n--> lines", ⟨3250000000⟩, ⟨1750000000⟩⟩ := by
    have text : "\n".intercalate (["Two".toList, "--> lines".toList].map .ofList) =
        "Two\n--> lines" := by decide +kernel
    have long : (Duration.mk 5000000000).sub ⟨3250000000⟩ = ⟨1750000000⟩ := by decide
    exact congrArg₂ (Cue.mk · _ ·) text long
  have hi : first.cue = ⟨"Hi", ⟨1500000000⟩, ⟨0⟩⟩ := by
    have text : "\n".intercalate (["Hi".toList].map .ofList) = "Hi" := by decide +kernel
    have long : (Duration.mk 1000000000).sub ⟨1500000000⟩ = ⟨0⟩ := by decide
    exact congrArg₂ (Cue.mk · _ ·) text long
  have cues : ([later, first, silent].filter (·.speech ≠ [])).map Block.cue = [
      ⟨"Two\n--> lines", ⟨3250000000⟩, ⟨1750000000⟩⟩, ⟨"Hi", ⟨1500000000⟩, ⟨0⟩⟩] := by
    change [later.cue, first.cue] = _
    rw [two, hi]
  obtain ⟨track, parsed, order⟩ := parses_written_blocks laid written (.inr marked)
  exact ⟨track, parsed, cues ▸ order⟩

end Overdub.Subtitle.SubRip
