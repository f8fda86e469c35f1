import Mathlib.Data.List.Infix
import Overdub.Proofs.Subtitle.Run
import Overdub.Proofs.Subtitle.SubRip
import Overdub.Proofs.Subtitle.SubStation

/-!
Parsing is never at fault but for one thing. Whatever the text, no place that is looked up is
missing and no cut goes through a character; a timestamp of more seconds than a machine word holds
is the only way to an overflow, and every timestamp that is accepted tells its time exactly.
-/

namespace Overdub

namespace Subtitle

open Run (refuse)

namespace SubRip

def arrow : List Char := ['-', '-', '>']

def runCue (b : List Line) : Run Cue :=
  match b.findIdx? fun l => arrow <:+: l.2 with
  | none => do
    let (first, _) ← Checked.item b 0
    refuse first "cue block without a timing line"
  | some i => do
    let (n, timing) ← Checked.item b i
    match Text.cutAt? arrow timing with
    | none => refuse n "missing -->"
    | some (start, finish) =>
      let start ← Run.clock n start
      let finish ← Run.clock n (firstWord finish)
      let below ← Checked.onward b (i + 1)
      return .ofLines (spoken below) start (finish.sub start)

def runFrom (b : List Line) : List Line → Run (List Cue)
  | [] => if b.isEmpty then return [] else return [← runCue b]
  | l :: ls =>
    if isGap l then
      if b.isEmpty then runFrom b ls
      else do
        let c ← runCue b
        let cs ← runFrom [] ls
        return c :: cs
    else runFrom (b ++ [l]) ls

def run (s : List Char) : Run (List Cue) := runFrom [] (numbered 1 s)

section Mirrors

variable {b ls : List Line}

theorem exists_of_findIdx? {p : Line → Bool} {i : Nat} (found : b.findIdx? p = some i) :
    ∃ above l below, b = above ++ l :: below ∧ i = above.length ∧ p l ∧ ∀ l ∈ above, ¬ p l := by
  obtain ⟨lt, meets, first⟩ := List.findIdx?_eq_some_iff_getElem.mp found
  refine ⟨b.take i, b[i], b.drop (i + 1), ?_, ?_, meets, ?_⟩
  · rw [← List.drop_eq_getElem_cons lt, List.take_append_drop]
  · rw [List.length_take, Nat.min_eq_left lt.le]
  · intro l mem
    obtain ⟨j, lt', rfl⟩ := List.mem_iff_getElem.mp mem
    rw [List.getElem_take]
    exact first j (by rw [List.length_take] at lt'; omega)

theorem runCue_mirrors (filled : b ≠ []) :
    (runCue b).Mirrors (cue ((b.head?.map (·.1)).getD 0) b) TellsCue := by
  unfold runCue
  cases found : b.findIdx? fun l => arrow <:+: l.2 with
  | none =>
    obtain ⟨⟨first, l⟩, rest, rfl⟩ := List.exists_cons_of_ne_nil filled
    have plain : ∀ m ∈ (first, l) :: rest, ¬ arrow <:+: Prod.snd m := by
      simpa using List.findIdx?_eq_none_iff.mp found
    have refused := cue_append plain first []
    rw [List.append_nil] at refused
    change Run.Mirrors _ (cue first _) _
    rw [refused]
    exact Run.mirrors_refuse rfl
  | some i =>
    obtain ⟨above, ⟨n, timing⟩, below, rfl, rfl, inside, plain⟩ := exists_of_findIdx? found
    have item : Checked.item (above ++ (n, timing) :: below) above.length = .ok (n, timing) :=
      Checked.item_eq (by simp)
    have onward : Checked.onward (above ++ (n, timing) :: below) (above.length + 1) = .ok below :=
      by simp [Checked.onward]
    obtain ⟨start, finish, cut⟩ := Text.exists_cutAt? (of_decide_eq_true inside)
    have arrowless : ∀ l ∈ above, ¬ arrow <:+: l.2 := by simpa using plain
    rw [cue_append arrowless, cue, show ['-', '-', '>'] = arrow from rfl, cut]
    dsimp only
    rw [item, Run.run_lift_ok_bind, cut]
    apply Run.cue_mirrors n start (firstWord finish)
    intro start finish
    rw [onward]
    rfl

theorem runFrom_mirrors (solid : ∀ l ∈ b, ¬ isGap l) :
    (runFrom b ls).Mirrors ((blocks (b ++ ls)).mapM fun b => cue ((b.head?.map (·.1)).getD 0) b)
      Told := by
  induction ls generalizing b with
  | nil =>
    rw [runFrom]
    split
    · next none =>
      rw [List.isEmpty_iff.mp none]
      exact Run.mirrors_pure .nil
    · next filled =>
      rw [List.isEmpty_iff] at filled
      have last : blocks (b ++ []) = [b] := blocks_append filled solid (by simp)
      rw [last, List.mapM_cons]
      refine (runCue_mirrors filled).bind fun rs c tells => Run.mirrors_pure ?_
      exact .cons tells .nil
  | cons l ls ih =>
    rw [runFrom]
    split
    · next gap =>
      split
      · next none =>
        rw [List.isEmpty_iff.mp none, List.nil_append, blocks, if_pos gap]
        exact ih (List.forall_mem_nil _)
      · next filled =>
        rw [List.isEmpty_iff] at filled
        have stop : ∀ l' ∈ (l :: ls).head?, isGap l' := by
          rintro _ ⟨⟩
          exact gap
        rw [blocks_append filled solid stop, blocks, if_pos gap, List.mapM_cons]
        refine (runCue_mirrors filled).bind fun rs c tells => ?_
        refine (ih (List.forall_mem_nil _)).bind fun rs' cs told => Run.mirrors_pure ?_
        rw [List.append_nil]
        exact .cons tells told
    · next text =>
      rw [List.append_cons b l ls]
      refine ih fun l' mem => ?_
      rcases List.mem_append.mp mem with mem | mem
      · exact solid l' mem
      · rwa [List.mem_singleton.mp mem]

theorem run_mirrors (s : List Char) : (run s).Mirrors (parse s) Told :=
  runFrom_mirrors (List.forall_mem_nil _)

end Mirrors

end SubRip

namespace SubStation

def standardNames : List (List Char) :=
  ["layer", "start", "end", "style", "name", "marginl", "marginr", "marginv", "effect",
    "text"].map String.toList

def runFields (n : Nat) (names : List (List Char)) : Except Stop Fields := do
  let names := names.map fun n => String.ofList (Text.lower (Text.trim n))
  let find := fun (key : String) =>
    match names.idxOf? key with
    | some i => Except.ok i
    | none => refuse n s!"Format line lacks {key}"
  let start ← find "start"
  let finish ← find "end"
  let text ← find "text"
  if text ≠ (← Checked.sub names.length 1) then refuse n "Text must be the last field"
  else return ⟨names.length, start, finish⟩

def fieldsFor (n : Nat) : Option Fields → Except Stop Fields
  | some fields => .ok fields
  | none => runFields n standardNames

def stripKey (key l : List Char) : Except Checked.Fault (Option (List Char)) :=
  match Checked.cut (Checked.bytes key) l with
  | .error _ => return none
  | .ok (head, _) => do
    if Text.lower head = Text.lower key then
      let (_, rest) ← Checked.cut (Checked.bytes key) l
      return some rest
    else return none

def runEvent (n : Nat) (fields : Fields) (s : List Char) : Run Cue := do
  let parts := Text.splitAtMost fields.count ',' s
  if parts.length ≠ fields.count then
    refuse n s!"expected {fields.count} fields, found {parts.length}"
  else
    let start ← Run.clock n (← Checked.item parts fields.start)
    let finish ← Run.clock n (← Checked.item parts fields.finish)
    let said ← Checked.item parts (← Checked.sub fields.count 1)
    return ⟨.ofList (Text.trim (plain said)), start, finish.sub start⟩

def runFrom (n : Nat) (inEvents : Bool) (format : Option Fields) :
    List (List Char) → Run (List Cue)
  | [] => return []
  | raw :: ls =>
    let l := Text.trim raw
    if l.head? = some '[' then
      runFrom (n + 1) (Text.lower l = "[events]".toList) format ls
    else if !inEvents then runFrom (n + 1) inEvents format ls
    else do
      match ← stripKey "Format:".toList l with
      | some names => runFrom (n + 1) inEvents (← runFields n (Text.split ',' names)) ls
      | none =>
        match ← stripKey "Dialogue:".toList l with
        | some event =>
          let fields ← fieldsFor n format
          let c ← runEvent n fields event
          let cs ← runFrom (n + 1) inEvents fields ls
          return c :: cs
        | none => runFrom (n + 1) inEvents format ls

def run (s : List Char) : Run (List Cue) := runFrom 1 false none (Text.lines s)

structure Fields.Within (f : Fields) : Prop where
  start : f.start < f.count
  finish : f.finish < f.count

variable {key : List Char} {fields : Fields}

theorem lt_of_idxOf? {names : List String} {key : String} {i : Nat}
    (found : names.idxOf? key = some i) : i < names.length :=
  (List.findIdx?_eq_some_iff_getElem.mp found).1

theorem fields_mirrors (n : Nat) (names : List (List Char)) :
    (liftM (runFields n names) : Run Fields).Mirrors (Fields.ofNames n names)
      fun rs fields => rs = [] ∧ fields.Within := by
  unfold runFields Fields.ofNames
  generalize (names.map fun n => String.ofList (Text.lower (Text.trim n))) = names
  dsimp only
  cases start : names.idxOf? "start" with
  | none => exact Run.mirrors_refuse rfl
  | some i =>
  cases finish : names.idxOf? "end" with
  | none => exact Run.mirrors_refuse rfl
  | some j =>
  cases text : names.idxOf? "text" with
  | none => exact Run.mirrors_refuse rfl
  | some k =>
    have lt := lt_of_idxOf? text
    rw [Run.ok_bind, Run.ok_bind, Run.ok_bind, Checked.sub_eq (by omega), Run.lift_ok_bind]
    change Run.Mirrors _ (if k + 1 = names.length then Except.ok (Fields.mk names.length i j)
      else Except.error (Error.parse n .textNotLast)) _
    by_cases last : k + 1 = names.length
    · rw [if_neg (by omega), if_pos last]
      exact Run.mirrors_pure ⟨rfl, lt_of_idxOf? start, lt_of_idxOf? finish⟩
    · rw [if_pos (by omega), if_neg last]
      exact Run.mirrors_refuse rfl

theorem stripKey_eq (narrow : Checked.Narrow key) (l : List Char) :
    stripKey key l = .ok (Text.afterKey? key l) := by
  have width := Checked.bytes_eq_length narrow
  unfold stripKey Text.afterKey?
  rw [width]
  by_cases same : Text.lower (l.take key.length) = Text.lower key
  · have narrow' : Checked.Narrow (l.take key.length) := by
      intro c mem
      have mem' : c.toLower ∈ Text.lower key := same ▸ List.mem_map_of_mem mem
      obtain ⟨d, mem', alike⟩ := List.mem_map.mp mem'
      rw [← Text.utf8Size_toLower, ← alike, Text.utf8Size_toLower]
      exact narrow d mem'
    have length : (l.take key.length).length = key.length := by
      rw [← Text.length_lower, same, Text.length_lower]
    have cut := Checked.cut_append (l.take key.length) (l.drop key.length)
    rw [Checked.bytes_eq_length narrow', length, List.take_append_drop] at cut
    rw [cut, if_pos same]
    dsimp only
    rw [if_pos same]
    rfl
  · rw [if_neg same]
    cases cut : Checked.cut key.length l with
    | error fault => rfl
    | ok p =>
      obtain ⟨head, rest⟩ := p
      have other : Text.lower head ≠ Text.lower key := by
        intro alike
        obtain ⟨rfl, -⟩ := Checked.cut_eq_ok cut
        exact same (by rw [Text.take_of_lower_eq alike, alike])
      exact if_neg other

theorem runEvent_mirrors (within : fields.Within) (n : Nat) (s : List Char) :
    (runEvent n fields s).Mirrors (cue n fields s) TellsCue := by
  unfold runEvent cue
  dsimp only
  generalize Text.splitAtMost fields.count ',' s = parts
  split
  · exact Run.mirrors_refuse rfl
  · next count =>
    rw [not_not] at count
    have item {i : Nat} (lt : i < fields.count) : Checked.item parts i = .ok (parts.getD i []) := by
      apply Checked.item_eq
      rw [List.getD_eq_getElem?_getD, List.getElem?_eq_getElem (count ▸ lt)]
      rfl
    have last : Checked.item parts (fields.count - 1) = .ok (parts.getLastD []) := by
      have some_field := within.start
      rw [item (by omega), ← count, List.getLastD_eq_getLast?, List.getLast?_eq_getElem?,
        List.getD_eq_getElem?_getD]
    rw [item within.start, Run.run_lift_ok_bind]
    simp only [item within.finish, Run.run_lift_ok_bind]
    apply Run.cue_mirrors n
    intro start finish
    rw [Checked.sub_eq (Nat.zero_lt_of_lt within.start), Run.run_lift_ok_bind, last]
    rfl

theorem within_standard : Fields.standard.Within := ⟨by decide, by decide⟩

theorem fieldsFor_eq (n : Nat) (format : Option Fields) :
    fieldsFor n format = .ok (format.getD .standard) := by
  cases format with
  | some fields => rfl
  | none =>
    have names : standardNames.map (fun n => String.ofList (Text.lower (Text.trim n))) =
        ["layer", "start", "end", "style", "name", "marginl", "marginr", "marginv", "effect",
          "text"] := by decide +kernel
    rw [fieldsFor, runFields, names]
    rfl

theorem runFrom_mirrors {format : Option Fields} (within : ∀ fields ∈ format, fields.Within)
    (n : Nat) (inEvents : Bool) (ls : List (List Char)) :
    (runFrom n inEvents format ls).Mirrors (parseFrom n inEvents (format.getD .standard) ls)
      Told := by
  induction ls generalizing n inEvents format with
  | nil => exact Run.mirrors_pure .nil
  | cons raw ls ih =>
    rw [runFrom, parseFrom]
    split
    · exact ih within _ _
    split
    · exact ih within _ _
    rw [stripKey_eq (by decide), stripKey_eq (by decide), Run.run_lift_ok_bind]
    cases Text.afterKey? "Format:".toList (Text.trim raw) with
    | some names =>
      refine (fields_mirrors n _).bind fun rs fields read => ?_
      obtain ⟨rfl, within⟩ := read
      exact ih (by rintro _ ⟨⟩; exact within) _ _
    | none =>
    dsimp only
    rw [Run.run_lift_ok_bind]
    cases Text.afterKey? "Dialogue:".toList (Text.trim raw) with
    | none => exact ih within _ _
    | some event =>
      have within' : (format.getD .standard).Within := by
        cases format with
        | some fields => exact within fields rfl
        | none => exact within_standard
      dsimp only
      rw [fieldsFor_eq, Run.run_ok_bind]
      refine (runEvent_mirrors within' n event).bind fun rs c tells => ?_
      refine (ih (by rintro _ ⟨⟩; exact within') _ _).bind fun rs' cs told => ?_
      refine Run.mirrors_pure ?_
      rw [List.append_nil]
      exact .cons tells told

theorem run_mirrors (s : List Char) : (run s).Mirrors (parse s) Told :=
  runFrom_mirrors (by simp) 1 false _

end SubStation

/-- A checked run that comes to what a parser gives. It is at no fault but for timestamps of more
seconds than a machine word holds, and for these it always is. Every timestamp that is accepted
tells its time exactly, and if all are, they tell the times of the cues. -/
structure Run.Faultless (r : Run (List Cue)) (parsed : Except Error Track) : Prop where
  result_eq : r.result.map Track.ofCues = parsed.mapError Stop.ofError
  fault_eq : ∀ fault, r.result = .error (.fault fault) → fault = .overflow
  overflow_iff : r.result = .error (.fault .overflow) ↔ ∃ t ∈ r.read, t.Exceeds
  accepted : ∀ t ∈ r.read, ∀ d, Subtitle.clock t.line t.raw = .ok d → t.Tells d
  told : ∀ cues, r.result = .ok cues → Told r.read cues

theorem Stop.ofError_eq_fault_iff {e : Error} {fault : Checked.Fault} :
    Stop.ofError e = .fault fault ↔ fault = .overflow ∧ ∃ line, e = .overflow line := by
  cases e with
  | overflow line =>
    constructor
    · rintro ⟨⟩
      exact ⟨rfl, line, rfl⟩
    · rintro ⟨rfl, -⟩
      rfl
  | io | unsupported | parse =>
    constructor
    · rintro ⟨⟩
    · rintro ⟨-, line, ⟨⟩⟩

theorem Run.Mirrors.faultless {r : Run (List Cue)} {x : Except Error (List Cue)}
    (mirrors : r.Mirrors x Told) : r.Faultless (x.map Track.ofCues) := by
  obtain ⟨read, result⟩ := r
  obtain ⟨same, exceeded, told⟩ := mirrors
  obtain rfl : result = x.mapError Stop.ofError := same
  have fault_iff (fault : Checked.Fault) : x.mapError Stop.ofError = .error (.fault fault) ↔
      fault = .overflow ∧ ∃ line, x = .error (.overflow line) := by
    cases x with
    | error e => simpa [Except.mapError] using Stop.ofError_eq_fault_iff
    | ok cues => simp [Except.mapError]
  refine ⟨?_, ?_, ?_, ?_, ?_⟩
  · cases x <;> rfl
  · intro fault stop
    exact ((fault_iff fault).mp stop).1
  · rw [← exceeded]
    simpa using fault_iff .overflow
  · intro t _ d
    exact Reading.clock_eq_ok_iff.mp
  · intro cues all
    cases x with
    | error e => cases all
    | ok cues' =>
      cases all
      exact told cues rfl

/-- Whatever the text, no parser is at fault but for seconds beyond a machine word. -/
theorem parsers_are_faultless (text : String) :
    (SubRip.run (Track.withoutMark text.toList)).Faultless (Track.parseSubRip text) ∧
      (SubStation.run (Track.withoutMark text.toList)).Faultless (Track.parseSubStation text) :=
  ⟨(SubRip.run_mirrors _).faultless, (SubStation.run_mirrors _).faultless⟩

/-- The least number of full hours whose seconds overflow. -/
theorem hours_overflow :
    let text := "5124095576030432:0:0-->0:0:0\n"
    Track.parseSubRip text = .error (.overflow 1) ∧
      (SubRip.run (Track.withoutMark text.toList)).result = .error (.fault .overflow) := by
  intro text
  have spells : Spells (5124095576030432 * 3600) (Text.trim "5124095576030432:0:0".toList) [] :=
    .whole ⟨"5124095576030432".toList, ['0'], ['0'], 5124095576030432, 0, 0, by decide,
      ⟨[], _, rfl, .inl rfl, by decide, List.all_eq_true.mp rfl, by decide, by decide⟩,
      ⟨[], _, rfl, .inl rfl, by decide, List.all_eq_true.mp rfl, by decide, by decide⟩,
      ⟨[], _, rfl, .inl rfl, by decide, List.all_eq_true.mp rfl, by decide, by decide⟩,
      by decide, by decide, rfl⟩
  have exceeded := (clock_of_spells spells 1).trans (if_pos (by decide))
  let timing := "5124095576030432:0:0-->0:0:0".toList
  have line : Track.withoutMark text.toList = timing ++ '\n' :: [] := by decide +kernel
  have numbered : SubRip.numbered 1 (Track.withoutMark text.toList) = [(1, timing)] := by
    rw [SubRip.numbered, line, Text.lines_append (by decide), Text.lines_nil]
    decide
  have cut : Text.cutAt? ['-', '-', '>'] timing =
      some ("5124095576030432:0:0".toList, "0:0:0".toList) := by decide
  have cue : SubRip.cue 1 [(1, timing)] = .error (.overflow 1) := by
    rw [SubRip.cue, cut]
    dsimp only
    rw [exceeded]
    rfl
  have parsed : SubRip.parse (Track.withoutMark text.toList) = .error (.overflow 1) := by
    rw [SubRip.parse, numbered]
    change (SubRip.cue 1 _ >>= _) = _
    rw [cue]
    rfl
  constructor
  · rw [Track.parseSubRip, parsed]
    rfl
  · rw [(SubRip.run_mirrors _).result_eq, parsed]
    rfl

end Subtitle

end Overdub
