import Overdub.Proofs.Subtitle.Clock
import Overdub.Proofs.Subtitle.Order
import Overdub.Proofs.Text.Key

/-!
SubStation files as they are written. Whatever fields the events have, whatever lines stand between
them and whatever other sections there are, parsing gives back the dialogues that were written.
-/

namespace Overdub.Subtitle.SubStation

open Text (Blank Heads Keyed Written isBlank)

def named (n : List Char) : String := .ofList (Text.lower (Text.trim n))

structure Columns where
  names : List (List Char)
  text : List Char
  comma : ∀ n ∈ names ++ [text], ',' ∉ n
  start_mem : "start" ∈ names.map named
  end_mem : "end" ∈ names.map named
  text_not_mem : "text" ∉ names.map named
  text_last : named text = "text"

namespace Columns

def all (cols : Columns) : List (List Char) := cols.names ++ [cols.text]

def standard : Columns where
  names := ["Layer", "Start", "End", "Style", "Name", "MarginL", "MarginR", "MarginV", "Effect"].map
    String.toList
  text := "Text".toList
  comma := by decide
  start_mem := by decide +kernel
  end_mem := by decide +kernel
  text_not_mem := by decide +kernel
  text_last := by decide +kernel

end Columns

def Padded (d : Duration) (s : List Char) : Prop :=
  ∃ a stamp b, s = a ++ stamp ++ b ∧ Blank a ∧ Stamp d stamp ∧ Blank b

structure Dialogue (cols : Columns) where
  start : Duration
  finish : Duration
  values : List (List Char)
  speech : List (List Char)
  start_le : start ≤ .longest
  finish_le : finish ≤ .longest
  length_eq : values.length = cols.names.length
  comma : ∀ v ∈ values, ',' ∉ v
  start_tells : ∀ p ∈ cols.names.zip values, named p.1 = "start" → Padded start p.2
  end_tells : ∀ p ∈ cols.names.zip values, named p.1 = "end" → Padded finish p.2
  speech_plain : ∀ l ∈ speech, '\x7b' ∉ l ∧ '\\' ∉ l
  speech_some : ['\n'].intercalate speech ≠ []
  speech_trim : Text.trim (['\n'].intercalate speech) = ['\n'].intercalate speech

namespace Dialogue

variable {cols : Columns} (d : Dialogue cols)

def said : List Char := ['\\', 'N'].intercalate d.speech

def event : List Char := [','].intercalate (d.values ++ [d.said])

def cue : Cue := ⟨"\n".intercalate (d.speech.map .ofList), d.start, d.finish.sub d.start⟩

end Dialogue

def IsHeader (l : List Char) : Prop := (Text.trim l).head? = some '['

def IsEvents (l : List Char) : Prop := Text.lower (Text.trim l) = "[events]".toList

instance : DecidablePred IsHeader := fun _ => inferInstanceAs (Decidable (_ = _))

instance : DecidablePred IsEvents := fun _ => inferInstanceAs (Decidable (_ = _))

structure Note (l : List Char) : Prop where
  not_header : ¬ IsHeader l
  not_format : ¬ Heads "Format:".toList (Text.trim l)
  not_dialogue : ¬ Heads "Dialogue:".toList (Text.trim l)

/-- The lines of some dialogues, with notes between them. -/
inductive Events (cols : Columns) : List (Dialogue cols) → List (List Char) → Prop
  | nil : Events cols [] []
  | note {ds : List (Dialogue cols)} {l : List Char} {ls : List (List Char)} :
      Note l → Events cols ds ls → Events cols ds (l :: ls)
  | dialogue (d : Dialogue cols) {ds : List (Dialogue cols)} {l : List Char}
      {ls : List (List Char)} :
      Keyed "Dialogue:".toList d.event l → Events cols ds ls → Events cols (d :: ds) (l :: ls)

/-- The lines of a section of events. Without a format line the fields are the standard ones. -/
inductive Section : (cols : Columns) → List (Dialogue cols) → List (List Char) → Prop
  | standard {ds : List (Dialogue .standard)} {ls : List (List Char)} :
      Events .standard ds ls → Section .standard ds ls
  | format {cols : Columns} {ds : List (Dialogue cols)} {notes ls : List (List Char)}
      {l : List Char} : (∀ n ∈ notes, Note n) →
      Keyed "Format:".toList ([','].intercalate cols.all) l → Events cols ds ls →
      Section cols ds (notes ++ l :: ls)

/-- The lines of a file with one section of events. What the other sections hold does not matter. -/
inductive Laid {cols : Columns} (ds : List (Dialogue cols)) : List (List Char) → Prop
  | intro {before ls after : List (List Char)} {h : List Char} :
      (∀ l ∈ before, ¬ IsEvents l) → IsEvents h → Section cols ds ls →
      (∀ l ∈ after.head?, IsHeader l) → (∀ l ∈ after, ¬ IsEvents l) →
      Laid ds (before ++ h :: ls ++ after)

section Lines

variable {fields : Fields} {l : List Char} {ls : List (List Char)}

theorem IsEvents.isHeader (events : IsEvents l) : IsHeader l := by
  unfold IsEvents at events
  cases front : Text.trim l with
  | nil => exact absurd (front ▸ events) (by decide)
  | cons c s =>
    rw [front] at events
    have first : c.toLower = '[' := (List.cons.inj events).1
    rw [IsHeader, front, Text.eq_bracket_of_toLower first]
    rfl

theorem parseFrom_congr {ls' : List (List Char)}
    (same : List.Forall₂ (fun l l' => Text.trim l' = Text.trim l) ls ls') (n : Nat)
    (inEvents : Bool) (fields : Fields) :
    parseFrom n inEvents fields ls' = parseFrom n inEvents fields ls := by
  induction same generalizing n inEvents fields with
  | nil => rfl
  | cons head _ ih => simp only [parseFrom, head, ih]

theorem parseFrom_header (header : IsHeader l) (n : Nat) (inEvents : Bool) :
    parseFrom n inEvents fields (l :: ls) = parseFrom (n + 1) (IsEvents l) fields ls := by
  rw [parseFrom]
  exact if_pos header

theorem parseFrom_outside (other : ¬ IsEvents l) (n : Nat) (ls : List (List Char)) :
    parseFrom n false fields (l :: ls) = parseFrom (n + 1) false fields ls := by
  by_cases header : IsHeader l
  · rw [parseFrom_header header, decide_eq_false other]
  · rw [parseFrom]
    exact if_neg header

theorem parseFrom_skip {skipped : List (List Char)} {inEvents : Bool}
    (skip : ∀ l ∈ skipped, ∀ n ls,
      parseFrom n inEvents fields (l :: ls) = parseFrom (n + 1) inEvents fields ls)
    (n : Nat) (ls : List (List Char)) : parseFrom n inEvents fields (skipped ++ ls) =
      parseFrom (n + skipped.length) inEvents fields ls := by
  induction skipped generalizing n with
  | nil => rfl
  | cons l skipped ih =>
    have rest := ih (fun l mem => skip l (List.mem_cons_of_mem _ mem)) (n + 1)
    rw [List.cons_append, skip l List.mem_cons_self, rest, Nat.add_assoc, Nat.add_comm 1,
      List.length_cons]

theorem parseFrom_after {after : List (List Char)} (first : ∀ l ∈ after.head?, IsHeader l)
    (other : ∀ l ∈ after, ¬ IsEvents l) (n : Nat) : parseFrom n true fields after = .ok [] := by
  cases after with
  | nil => rfl
  | cons l after =>
    have outside : ∀ l ∈ after, ∀ n ls,
        parseFrom n false fields (l :: ls) = parseFrom (n + 1) false fields ls :=
      fun l mem => parseFrom_outside (other l (List.mem_cons_of_mem _ mem))
    have rest := parseFrom_skip outside (n + 1) []
    rw [List.append_nil] at rest
    rw [parseFrom_header (first l rfl), decide_eq_false (other l List.mem_cons_self), rest]
    rfl

theorem parseFrom_note (note : Note l) (n : Nat) (ls : List (List Char)) :
    parseFrom n true fields (l :: ls) = parseFrom (n + 1) true fields ls := by
  rw [parseFrom, Text.afterKey?_eq_none note.not_format, Text.afterKey?_eq_none note.not_dialogue]
  exact if_neg note.not_header

theorem IsHeader.heads (header : IsHeader l) : Heads ['['] (Text.trim l) := by
  obtain ⟨s, front⟩ := List.head?_eq_some_iff.mp header
  exact ⟨['['], s, front, rfl⟩

theorem parseFrom_format {k rest : List Char} (trimmed : Text.trim l = k ++ rest)
    (key : Text.lower k = Text.lower "Format:".toList) (n : Nat) :
    parseFrom n true fields (l :: ls) =
      (Fields.ofNames n (Text.split ',' rest) >>= (parseFrom (n + 1) true · ls)) := by
  have heads : Heads "Format:".toList (Text.trim l) := ⟨k, rest, trimmed, key⟩
  have found : Text.afterKey? "Format:".toList (Text.trim l) = some rest :=
    trimmed ▸ Text.afterKey?_append key rest
  rw [parseFrom, found]
  exact if_neg fun header => heads.not_heads (by decide) (by decide) (IsHeader.heads header)

theorem parseFrom_dialogue {k rest : List Char} (trimmed : Text.trim l = k ++ rest)
    (key : Text.lower k = Text.lower "Dialogue:".toList) (n : Nat) :
    parseFrom n true fields (l :: ls) = do
      return (← SubStation.cue n fields rest) :: (← parseFrom (n + 1) true fields ls) := by
  have heads : Heads "Dialogue:".toList (Text.trim l) := ⟨k, rest, trimmed, key⟩
  have found : Text.afterKey? "Dialogue:".toList (Text.trim l) = some rest :=
    trimmed ▸ Text.afterKey?_append key rest
  have other : Text.afterKey? "Format:".toList (Text.trim l) = none :=
    Text.afterKey?_eq_none (heads.not_heads (by decide) (by decide))
  rw [parseFrom, found, other]
  exact if_neg fun header => heads.not_heads (by decide) (by decide) (IsHeader.heads header)

end Lines

structure Fits (cols : Columns) (fields : Fields) : Prop where
  count : fields.count = cols.names.length + 1
  start : (cols.names.map named)[fields.start]? = some "start"
  finish : (cols.names.map named)[fields.finish]? = some "end"

theorem fits_standard : Fits .standard .standard :=
  ⟨rfl, by decide +kernel, by decide +kernel⟩

theorem idxOf?_append_of_mem {name : String} {names : List String} (mem : name ∈ names)
    (more : List String) : ∃ i, (names ++ more).idxOf? name = some i ∧ names[i]? = some name := by
  obtain ⟨i, found⟩ := Option.isSome_iff_exists.mp (List.isSome_idxOf?.mpr mem)
  obtain ⟨lt, named, -⟩ := List.idxOf?_eq_some_iff.mp found
  refine ⟨i, ?_, List.getElem?_eq_some_iff.mpr ⟨lt, named⟩⟩
  rw [List.idxOf?] at found
  rw [List.idxOf?, List.findIdx?_append, found]
  rfl

theorem idxOf?_concat_self {name : String} {names : List String} (new : name ∉ names) :
    (names ++ [name]).idxOf? name = some names.length := by
  have none := List.idxOf?_eq_none_iff.mpr new
  rw [List.idxOf?] at none
  rw [List.idxOf?, List.findIdx?_append, none]
  simp

theorem named_append_trim {a : List Char} (blank : Blank a) (n : List Char) :
    named (a ++ Text.trim n) = named n := by
  have padded := Text.trim_append blank (Text.trim n) Text.blank_nil
  rw [List.append_nil, (Text.tight_trim n).trim_eq] at padded
  rw [named, padded, named]

theorem Columns.exists_last (cols : Columns) :
    ∃ c, (Text.trim cols.text).getLast? = some c ∧ ¬ isBlank c := by
  cases last : (Text.trim cols.text).getLast? with
  | none =>
    have text := cols.text_last
    rw [named, List.getLast?_eq_none_iff.mp last] at text
    exact absurd text (by decide)
  | some c => exact ⟨c, rfl, (Text.tight_trim cols.text).last c last⟩

theorem Columns.named_all (cols : Columns) :
    cols.all.map named = cols.names.map named ++ ["text"] := by
  rw [Columns.all, List.map_append, List.map_singleton, cols.text_last]

theorem Columns.exists_fits (cols : Columns) : ∃ fields, Fits cols fields ∧
    ∀ n, ∀ names : List (List Char), names.map named = cols.all.map named →
      Fields.ofNames n names = .ok fields := by
  obtain ⟨i, start, start_name⟩ := idxOf?_append_of_mem cols.start_mem ["text"]
  obtain ⟨j, finish, finish_name⟩ := idxOf?_append_of_mem cols.end_mem ["text"]
  have text := idxOf?_concat_self cols.text_not_mem
  have length : (cols.names.map named ++ ["text"]).length = cols.names.length + 1 := by simp
  refine ⟨⟨cols.names.length + 1, i, j⟩, ⟨rfl, start_name, finish_name⟩, ?_⟩
  intro n names same
  have all : names.map (fun n => String.ofList (Text.lower (Text.trim n))) =
      cols.names.map named ++ ["text"] := same.trans cols.named_all
  unfold Fields.ofNames
  dsimp only
  rw [all, start, finish, text, List.length_map, length]
  exact if_pos rfl

section Plain

variable {l : List Char}

theorem plain_append (override : '\x7b' ∉ l) (escape : '\\' ∉ l) (s : List Char) :
    plain (l ++ s) = l ++ plain s := by
  induction l with
  | nil => rfl
  | cons c l ih =>
    have rest := ih (List.not_mem_of_not_mem_cons override) (List.not_mem_of_not_mem_cons escape)
    rw [List.cons_append, plain, if_neg (List.ne_of_not_mem_cons override).symm, rest,
      List.cons_append]
    all_goals exact fun _ same => absurd same.symm (List.ne_of_not_mem_cons escape)

theorem plain_intercalate {ls : List (List Char)} (chars : ∀ l ∈ ls, '\x7b' ∉ l ∧ '\\' ∉ l) :
    plain (['\\', 'N'].intercalate ls) = ['\n'].intercalate ls := by
  induction ls with
  | nil => rw [List.intercalate_nil, List.intercalate_nil, plain]
  | cons l ls ih =>
    obtain ⟨override, escape⟩ := chars l List.mem_cons_self
    have first := plain_append override escape
    cases ls with
    | nil =>
      have whole := first []
      rw [plain, List.append_nil] at whole
      rw [List.intercalate_singleton, List.intercalate_singleton, whole]
    | cons next ls =>
      have rest := ih fun l mem => chars l (List.mem_cons_of_mem _ mem)
      rw [List.intercalate_cons_cons, List.append_assoc, first, List.cons_append, List.cons_append,
        plain, List.nil_append, rest, List.intercalate_cons_cons, List.append_assoc]
      rfl

end Plain

namespace Dialogue

variable {cols : Columns} (d : Dialogue cols)

theorem isBlank_cue : d.cue.isBlank = false := by
  rw [Cue.isBlank, cue, Text.toList_join, ← Bool.not_eq_true, List.all_eq_true]
  exact Text.not_blank_of_trim_eq d.speech_some d.speech_trim

theorem exists_last : ∃ ss l c, d.speech = ss ++ [l] ∧ l.getLast? = some c ∧ ¬ isBlank c := by
  have tight := Text.tight_of_trim_eq d.speech_trim
  rcases List.eq_nil_or_concat d.speech with none | ⟨ss, l, speech⟩
  · rw [none] at tight
    exact absurd (none ▸ List.intercalate_nil) d.speech_some
  · rw [List.concat_eq_append] at speech
    rw [speech] at tight
    obtain ⟨front, join⟩ := Text.exists_intercalate_concat ['\n'] ss
    cases last : l.getLast? with
    | none =>
      -- An empty last line would leave the text with a line feed at its end.
      have empty := List.getLast?_eq_none_iff.mp last
      subst empty
      by_cases none : ss = []
      · subst none
        exact absurd (speech ▸ rfl) d.speech_some
      · rw [Text.intercalate_concat _ none, List.append_nil] at tight
        exact absurd rfl (tight.last '\n' (by simp))
    | some c =>
      refine ⟨ss, l, c, speech, last, tight.last c ?_⟩
      rw [join, List.getLast?_append, last]
      rfl

theorem getLast?_event : ∃ c ∈ d.event.getLast?, ¬ isBlank c := by
  obtain ⟨ss, l, c, speech, last, solid⟩ := d.exists_last
  obtain ⟨front, join⟩ := Text.exists_intercalate_concat ['\\', 'N'] ss
  obtain ⟨front', join'⟩ := Text.exists_intercalate_concat [','] d.values
  refine ⟨c, ?_, solid⟩
  rw [event, join', said, speech, join, List.getLast?_append, List.getLast?_append, last]
  rfl

theorem clock_eq {name : String} {i : Nat} {t : Duration} (fits : t ≤ .longest)
    (place : (cols.names.map named)[i]? = some name)
    (tells : ∀ p ∈ cols.names.zip d.values, named p.1 = name → Padded t p.2) (n : Nat) :
    clock n ((d.values ++ [d.said]).getD i []) = .ok t := by
  rw [List.getElem?_map, Option.map_eq_some_iff] at place
  obtain ⟨column, found, goes_by⟩ := place
  obtain ⟨lt, column_eq⟩ := List.getElem?_eq_some_iff.mp found
  have lt' : i < d.values.length := d.length_eq ▸ lt
  have mem : (column, d.values[i]) ∈ cols.names.zip d.values := by
    have both : i < (cols.names.zip d.values).length := List.length_zip ▸ Nat.lt_min.mpr ⟨lt, lt'⟩
    have pair : (cols.names.zip d.values)[i] = (column, d.values[i]) := by
      rw [List.getElem_zip, column_eq]
    exact pair ▸ List.getElem_mem both
  obtain ⟨a, stamp, b, value, ha, written, hb⟩ := tells _ mem goes_by
  have part : (d.values ++ [d.said]).getD i [] = a ++ stamp ++ b := by
    rw [List.getD_eq_getElem?_getD, List.getElem?_append_left lt', List.getElem?_eq_getElem lt']
    exact value
  rw [part]
  exact clock_stamp written fits ha hb n

theorem cue_eq {fields : Fields} (fits : Fits cols fields) (n : Nat) :
    SubStation.cue n fields d.event = .ok d.cue := by
  have parts : Text.splitAtMost fields.count ',' d.event = d.values ++ [d.said] := by
    rw [fits.count, ← d.length_eq]
    exact Text.splitAtMost_intercalate d.comma d.said
  have count : (d.values ++ [d.said]).length = fields.count := by
    rw [fits.count, ← d.length_eq, List.length_append, List.length_singleton]
  have text : String.ofList (Text.trim (plain d.said)) = "\n".intercalate (d.speech.map .ofList) := by
    rw [said, plain_intercalate d.speech_plain, d.speech_trim, ← Text.toList_join,
      String.ofList_toList]
  unfold SubStation.cue
  dsimp only
  rw [parts, if_neg (not_not.mpr count), d.clock_eq d.start_le fits.start d.start_tells,
    d.clock_eq d.finish_le fits.finish d.end_tells, List.getLastD_concat, text]
  rfl

end Dialogue

section Parse

variable {cols : Columns} {ds : List (Dialogue cols)} {ls after : List (List Char)}

theorem parseFrom_of_events (events : Events cols ds ls) {fields : Fields} (fits : Fits cols fields)
    (rest : ∀ n, parseFrom n true fields after = .ok []) (n : Nat) :
    parseFrom n true fields (ls ++ after) = .ok (ds.map Dialogue.cue) := by
  induction events generalizing n with
  | nil => exact rest n
  | note note _ ih =>
    rw [List.cons_append, parseFrom_note note]
    exact ih (n + 1)
  | dialogue d keyed _ ih =>
    rw [← List.append_nil d.event] at keyed
    obtain ⟨k, key, trimmed⟩ := keyed.trim_eq Text.blank_nil ⟨'d', rfl, by decide⟩ d.getLast?_event
    rw [List.cons_append, parseFrom_dialogue trimmed key, d.cue_eq fits, ih (n + 1)]
    rfl

theorem Columns.split_eq {l : List Char}
    (keyed : Keyed "Format:".toList ([','].intercalate cols.all) l) :
    ∃ k rest, Text.lower k = Text.lower "Format:".toList ∧ Text.trim l = k ++ rest ∧
      (Text.split ',' rest).map named = cols.all.map named := by
  obtain ⟨a, b, text, ha, hb⟩ := Text.exists_eq_append_trim cols.text
  obtain ⟨front, join⟩ := Text.exists_intercalate_concat [','] cols.names
  have last : ∃ c ∈ (front ++ (a ++ Text.trim cols.text)).getLast?, ¬ isBlank c := by
    obtain ⟨c, last, solid⟩ := cols.exists_last
    refine ⟨c, ?_, solid⟩
    rw [List.getLast?_append, List.getLast?_append, last]
    rfl
  rw [Columns.all, join, text, ← List.append_assoc front] at keyed
  obtain ⟨k, key, trimmed⟩ := keyed.trim_eq hb ⟨'f', rfl, by decide⟩ last
  refine ⟨k, _, key, trimmed, ?_⟩
  have comma : ∀ n ∈ cols.names ++ [a ++ Text.trim cols.text], ',' ∉ n := by
    intro n mem
    rcases List.mem_append.mp mem with mem | mem
    · exact cols.comma n (List.mem_append_left _ mem)
    · cases List.mem_singleton.mp mem
      have whole := cols.comma cols.text (List.mem_append_right _ List.mem_cons_self)
      rw [text] at whole
      exact fun mem => whole (List.mem_append_left _ mem)
  rw [← join, Text.split_intercalate (by simp) comma, Columns.all, List.map_append, List.map_append,
    List.map_singleton, List.map_singleton, named_append_trim ha]

theorem parseFrom_of_section (written : Section cols ds ls)
    (rest : ∀ fields n, parseFrom n true fields after = .ok []) (n : Nat) :
    parseFrom n true .standard (ls ++ after) = .ok (ds.map Dialogue.cue) := by
  cases written with
  | standard events => exact parseFrom_of_events events fits_standard (rest _) n
  | @format _ _ notes ls l all keyed events =>
    obtain ⟨fields, fits, read⟩ := cols.exists_fits
    obtain ⟨k, names, key, trimmed, same⟩ := Columns.split_eq keyed
    rw [List.append_assoc, parseFrom_skip fun l mem => parseFrom_note (all l mem), List.cons_append,
      parseFrom_format trimmed key, read _ _ same]
    exact parseFrom_of_events events fits (rest fields) _

theorem parseFrom_of_laid (laid : Laid ds ls) (n : Nat) :
    parseFrom n false .standard ls = .ok (ds.map Dialogue.cue) := by
  obtain ⟨before, header, written, first, other⟩ := laid
  rw [List.append_assoc, parseFrom_skip fun l mem => parseFrom_outside (before l mem),
    List.cons_append, parseFrom_header header.isHeader, decide_eq_true header]
  exact parseFrom_of_section written (fun _ => parseFrom_after first other) _

/-- Parsing gives back what was written, with or without a byte order mark: each dialogue, in order
of time. -/
theorem parses_written_events (laid : Laid ds ls) {s : List Char} (written : Written ls s)
    {text : String}
    (marked : text.toList = '\uFEFF' :: s ∨ text.toList = s ∧ s.head? ≠ some '\uFEFF') :
    ∃ track, Track.parseSubStation text = .ok track ∧
      Cue.InOrder (ds.map Dialogue.cue) track.cues := by
  have unmarked : Track.withoutMark text.toList = s := by
    rcases marked with marked | ⟨plain, first⟩
    · rw [marked]
      rfl
    · rw [plain, Track.withoutMark, if_neg first]
  have ends : List.Forall₂ (fun l l' => Text.trim l' = Text.trim l) ls (Text.lines s) := by
    refine (Text.lines_of_written written).imp ?_
    rintro l _ (rfl | rfl)
    · rfl
    · exact Text.trim_append Text.blank_nil l (by decide)
  have parsed : parse s = .ok (ds.map Dialogue.cue) :=
    (parseFrom_congr ends 1 false .standard).trans (parseFrom_of_laid laid 1)
  refine ⟨Track.ofCues (ds.map Dialogue.cue), ?_, ?_⟩
  · rw [Track.parseSubStation, unmarked, parsed]
    rfl
  · have kept : (ds.map Dialogue.cue).filter (!·.isBlank) = ds.map Dialogue.cue := by
      apply List.filter_eq_self.mpr
      intro c mem
      obtain ⟨d, -, rfl⟩ := List.mem_map.mp mem
      rw [d.isBlank_cue]
      rfl
    have order := Track.ofCues_inOrder (ds.map Dialogue.cue)
    rwa [kept] at order

theorem parses_written_events_out_of_order :
    let text := "\uFEFF[Script Info]\r\nDialogue: elsewhere\n[EVENTS]\n; note\n" ++
      "format:End , START,Text \r\ndialogue: 0:00:04.00, 0:00:03.25 ,Two, with commas\\Nlines \n" ++
      "Comment: x\n\nDIALOGUE:0:0:1,0:00:01.5,Hi\r\n [Fonts]\nFormat: nonsense\n"
    ∃ track, Track.parseSubStation text = .ok track ∧
      Cue.InOrder [⟨"Two, with commas\nlines", ⟨3250000000⟩, ⟨750000000⟩⟩,
        ⟨"Hi", ⟨1500000000⟩, ⟨0⟩⟩] track.cues := by
  intro text
  have three : Stamp ⟨3250000000⟩ "0:00:03.25".toList :=
    .fraction ⟨"0".toList, "00".toList, "03".toList, rfl, ⟨0, rfl⟩, ⟨1, rfl⟩, ⟨1, rfl⟩⟩ (.inr rfl)
      ⟨7, rfl, 0, rfl⟩
  have four : Stamp ⟨4000000000⟩ "0:00:04.00".toList :=
    .fraction ⟨"0".toList, "00".toList, "04".toList, rfl, ⟨0, rfl⟩, ⟨1, rfl⟩, ⟨1, rfl⟩⟩ (.inr rfl)
      ⟨7, rfl, 8, rfl⟩
  have one : Stamp ⟨1000000000⟩ "0:0:1".toList :=
    .whole ⟨"0".toList, "0".toList, "1".toList, rfl, ⟨0, rfl⟩, ⟨0, rfl⟩, ⟨0, rfl⟩⟩ rfl
  have half : Stamp ⟨1500000000⟩ "0:00:01.5".toList :=
    .fraction ⟨"0".toList, "00".toList, "01".toList, rfl, ⟨0, rfl⟩, ⟨1, rfl⟩, ⟨1, rfl⟩⟩ (.inr rfl)
      ⟨8, rfl, 0, rfl⟩
  let cols : Columns := {
    names := ["End ".toList, " START".toList], text := "Text ".toList, comma := by decide
    start_mem := by decide +kernel, end_mem := by decide +kernel
    text_not_mem := by decide +kernel, text_last := by decide +kernel }
  let later : Dialogue cols := {
    start := _, finish := _, speech := ["Two, with commas".toList, "lines".toList]
    values := [" 0:00:04.00".toList, " 0:00:03.25 ".toList]
    start_le := by decide, finish_le := by decide, length_eq := rfl, comma := by decide
    start_tells := List.forall_mem_cons.mpr ⟨fun name => absurd name (by decide +kernel),
      List.forall_mem_singleton.mpr fun _ => ⟨[' '], _, [' '], rfl, by decide, three, by decide⟩⟩
    end_tells := List.forall_mem_cons.mpr ⟨fun _ => ⟨[' '], _, [], rfl, by decide, four, by decide⟩,
      List.forall_mem_singleton.mpr fun name => absurd name (by decide +kernel)⟩
    speech_plain := by decide, speech_some := by decide, speech_trim := by decide }
  let first : Dialogue cols := {
    start := _, finish := _, speech := ["Hi".toList]
    values := ["0:0:1".toList, "0:00:01.5".toList]
    start_le := by decide, finish_le := by decide, length_eq := rfl, comma := by decide
    start_tells := List.forall_mem_cons.mpr ⟨fun name => absurd name (by decide +kernel),
      List.forall_mem_singleton.mpr fun _ => ⟨[], _, [], rfl, by decide, half, by decide⟩⟩
    end_tells := List.forall_mem_cons.mpr ⟨fun _ => ⟨[], _, [], rfl, by decide, one, by decide⟩,
      List.forall_mem_singleton.mpr fun name => absurd name (by decide +kernel)⟩
    speech_plain := by decide, speech_some := by decide, speech_trim := by decide }
  let ls := ["[Script Info]", "Dialogue: elsewhere", "[EVENTS]", "; note", "format:End , START,Text ",
    "dialogue: 0:00:04.00, 0:00:03.25 ,Two, with commas\\Nlines ", "Comment: x", "",
    "DIALOGUE:0:0:1,0:00:01.5,Hi", " [Fonts]", "Format: nonsense"].map String.toList
  have note {l : List Char} (h : ¬ IsHeader l ∧ ¬ Heads "Format:".toList (Text.trim l) ∧
      ¬ Heads "Dialogue:".toList (Text.trim l)) : Note l := ⟨h.1, h.2.1, h.2.2⟩
  have events : Events cols [later, first] _ :=
    .dialogue later (l := "dialogue: 0:00:04.00, 0:00:03.25 ,Two, with commas\\Nlines ".toList)
      ⟨[], "dialogue:".toList, [' '], rfl, by decide, by decide, by decide⟩ <|
    .note (note (l := "Comment: x".toList) (by decide)) <| .note (note (l := []) (by decide)) <|
    .dialogue first (l := "DIALOGUE:0:0:1,0:00:01.5,Hi".toList)
      ⟨[], "DIALOGUE:".toList, [], rfl, by decide, by decide, by decide⟩ .nil
  have notes : ∀ l ∈ ["; note".toList], Note l :=
    List.forall_mem_singleton.mpr (note (by decide))
  have format : Keyed "Format:".toList ([','].intercalate cols.all)
      "format:End , START,Text ".toList :=
    ⟨[], "format:".toList, [], rfl, by decide, by decide, by decide⟩
  have before : ∀ l ∈ ["[Script Info]", "Dialogue: elsewhere"].map String.toList,
      ¬ IsEvents l := by decide
  have header : IsEvents "[EVENTS]".toList := by decide
  have next : ∀ l ∈ ([" [Fonts]", "Format: nonsense"].map String.toList).head?, IsHeader l := by
    decide
  have after : ∀ l ∈ [" [Fonts]", "Format: nonsense"].map String.toList, ¬ IsEvents l := by decide
  have laid : Laid [later, first] ls :=
    .intro before header (.format notes format events) next after
  obtain ⟨s, marked, written⟩ : ∃ s, text.toList = '\uFEFF' :: s ∧ Written ls s := by
    refine ⟨_, ?_, .returned (by decide) <| .feed (by decide) <| .feed (by decide) <|
      .feed (by decide) <| .returned (by decide) <| .feed (by decide) <| .feed (by decide) <|
      .feed (by decide) <| .returned (by decide) <| .feed (by decide) <| .feed (by decide) .nil⟩
    rw [String.toList_append, String.toList_append]
    decide +kernel
  have two : later.cue = ⟨"Two, with commas\nlines", ⟨3250000000⟩, ⟨750000000⟩⟩ := by
    have text : "\n".intercalate (["Two, with commas".toList, "lines".toList].map .ofList) =
        "Two, with commas\nlines" := by decide +kernel
    have long : (Duration.mk 4000000000).sub ⟨3250000000⟩ = ⟨750000000⟩ := by decide
    exact congrArg₂ (Cue.mk · _ ·) text long
  have hi : first.cue = ⟨"Hi", ⟨1500000000⟩, ⟨0⟩⟩ := by
    have text : "\n".intercalate (["Hi".toList].map .ofList) = "Hi" := by decide +kernel
    have long : (Duration.mk 1000000000).sub ⟨1500000000⟩ = ⟨0⟩ := by decide
    exact congrArg₂ (Cue.mk · _ ·) text long
  have cues : [later, first].map Dialogue.cue = [
      ⟨"Two, with commas\nlines", ⟨3250000000⟩, ⟨750000000⟩⟩, ⟨"Hi", ⟨1500000000⟩, ⟨0⟩⟩] := by
    change [later.cue, first.cue] = _
    rw [two, hi]
  obtain ⟨track, parsed, order⟩ := parses_written_events laid written (.inl marked)
  exact ⟨track, parsed, cues ▸ order⟩

/-- A dialogue counts as one with a blank before its key, too, and so do its faults. -/
theorem indented_dialogue_counts :
    " Dialogue: x".toList.head? ≠ some '[' ∧ ¬ Heads "Format:".toList " Dialogue: x".toList ∧
      ¬ Heads "Dialogue:".toList " Dialogue: x".toList ∧
      Track.parseSubStation "[Events]\n Dialogue: x\n" = .error (.parse 2 (.fieldCount 10 1)) := by
  have plain : Track.withoutMark "[Events]\n Dialogue: x\n".toList =
      "[Events]".toList ++ '\n' :: (" Dialogue: x".toList ++ '\n' :: []) := by decide +kernel
  have lines : Text.lines (Track.withoutMark "[Events]\n Dialogue: x\n".toList) =
      ["[Events]".toList, " Dialogue: x".toList] := by
    rw [plain, Text.lines_append (by decide), Text.lines_append (by decide), Text.lines_nil]
  refine ⟨by decide, by decide, by decide, ?_⟩
  rw [Track.parseSubStation, parse, lines]
  rfl

end Parse

end Overdub.Subtitle.SubStation
