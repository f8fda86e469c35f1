import Overdub.Proofs.Checked
import Overdub.Proofs.Subtitle.Spelling

/-!
Parsers with every step checked. A run remembers the timestamps it looked at, and it stops at a
fault or with a message. Reading a timestamp comes to what the clock says of it: of all the steps
on its digits only those towards the seconds in all can be at fault.
-/

namespace Overdub.Subtitle

open Checked (Fault)

inductive Stop
  | fault (fault : Fault)
  | rejected (message : String)
  deriving DecidableEq, Repr

def Stop.ofError : Error → Stop
  | .overflow _ => .fault .overflow
  | e => .rejected e.message

structure Run (α : Type) where
  read : List Reading
  result : Except Stop α

namespace Run

variable {α β : Type}

instance : MonadLift (Except Fault) (Except Stop) := ⟨Except.mapError .fault⟩

instance : Monad Run where
  pure a := ⟨[], .ok a⟩
  bind r f :=
    match r.result with
    | .ok a => ⟨r.read ++ (f a).read, (f a).result⟩
    | .error e => ⟨r.read, .error e⟩

instance : MonadLift (Except Stop) Run := ⟨Run.mk []⟩

section Lift

variable {f : α → Except Stop β} {g : α → Run β}

theorem ok_bind (a : α) : (Except.ok a >>= f) = f a := rfl

theorem lift_ok_bind (a : α) :
    ((liftM (Except.ok a : Except Fault α) : Except Stop α) >>= f) = f a := rfl

theorem run_ok_bind (a : α) : ((liftM (Except.ok a : Except Stop α) : Run α) >>= g) = g a := rfl

theorem run_lift_ok_bind (a : α) :
    ((liftM (Except.ok a : Except Fault α) : Run α) >>= g) = g a := rfl

end Lift

def refuse (line : Nat) (what : String) : Except Stop α := .error (.rejected s!"line {line}: {what}")

/-- A run comes to what a parser gives, which tells of an overflow just if a timestamp that was read
exceeds, and `told` holds of what was read and given. -/
structure Mirrors (r : Run α) (x : Except Error α) (told : List Reading → α → Prop) : Prop where
  result_eq : r.result = x.mapError Stop.ofError
  overflow_iff : (∃ line, x = .error (.overflow line)) ↔ ∃ t ∈ r.read, t.Exceeds
  told : ∀ a, x = .ok a → told r.read a

section Mirrors

variable {r : Run α} {x : Except Error α} {told : List Reading → α → Prop}

theorem mirrors_unread (plain : ∀ line, x ≠ .error (.overflow line))
    (h : ∀ a, x = .ok a → told [] a) : (Run.mk [] (x.mapError Stop.ofError)).Mirrors x told where
  result_eq := rfl
  overflow_iff := by
    constructor
    · rintro ⟨line, exceeded⟩
      exact absurd exceeded (plain line)
    · rintro ⟨t, mem, -⟩
      cases mem
  told := h

theorem mirrors_pure {a : α} (h : told [] a) : (pure a : Run α).Mirrors (.ok a) told := by
  apply mirrors_unread (x := .ok a)
  · nofun
  · rintro _ ⟨⟩
    exact h

theorem mirrors_refuse {line : Nat} {flaw : Flaw} {what : String} (same : what = flaw.message) :
    (Run.mk [] (refuse line what)).Mirrors (.error (.parse line flaw)) told := by
  subst same
  exact mirrors_unread (x := .error (.parse line flaw)) nofun nofun

/-- What is read first exceeds nowhere if the parser goes on. -/
theorem Mirrors.bind {f : α → Run β} {g : α → Except Error β} {told' : List Reading → β → Prop}
    (first : r.Mirrors x told) (next : ∀ rs a, told rs a →
      (f a).Mirrors (g a) fun rs' => told' (rs ++ rs')) : (r >>= f).Mirrors (x >>= g) told' := by
  obtain ⟨read, result⟩ := r
  obtain ⟨same, exceeded, all⟩ := first
  obtain rfl : result = x.mapError Stop.ofError := same
  cases x with
  | error e =>
    refine ⟨rfl, ⟨?_, ?_⟩, nofun⟩
    · rintro ⟨line, ⟨⟩⟩
      exact exceeded.mp ⟨line, rfl⟩
    · intro exceeds
      obtain ⟨line, ⟨⟩⟩ := exceeded.mpr exceeds
      exact ⟨line, rfl⟩
  | ok a =>
    obtain ⟨same, exceeded', all'⟩ := next read a (all a rfl)
    refine ⟨same, exceeded'.trans ?_, all'⟩
    have none : ¬ ∃ t ∈ read, t.Exceeds := by
      intro exceeds
      obtain ⟨line, ⟨⟩⟩ := exceeded.mpr exceeds
    constructor
    · rintro ⟨t, mem, exceeds⟩
      exact ⟨t, List.mem_append_right _ mem, exceeds⟩
    · rintro ⟨t, mem, exceeds⟩
      rcases List.mem_append.mp mem with mem | mem
      · exact absurd ⟨t, mem, exceeds⟩ none
      · exact ⟨t, mem, exceeds⟩

end Mirrors

section Clock

variable {s raw digits : List Char} {line : Nat}

instance : DecidablePred IsMark := fun c => inferInstanceAs (Decidable (c = ',' ∨ c = '.'))

def cutMark (s : List Char) : Except Fault (List Char × List Char) :=
  match Checked.findLast? (IsMark ·) s with
  | some i => do
    let (hands, _) ← Checked.cut i s
    let (_, digits) ← Checked.cut (i + 1) s
    return (hands, digits)
  | none => return (s, [])

def badClock (line : Nat) (raw : List Char) : Except Stop α :=
  refuse line s!"invalid timestamp {Text.quote raw}"

def number (line : Nat) (raw s : List Char) : Except Stop Nat :=
  match Text.word? 64 (Text.trim s) with
  | some n => .ok n
  | none => badClock line raw

def nanos (line : Nat) (raw digits : List Char) : Except Stop Nat := do
  if digits.isEmpty then return 0
  else if 9 < Checked.bytes digits ∨ !digits.all Text.isDigit then badClock line raw
  else
    let n ← number line raw digits
    let places ← Checked.sub 9 (Checked.bytes digits)
    Checked.mul n (← Checked.pow 10 places)

def sum (a b : Duration) : Except Fault Duration :=
  if a.nanos + b.nanos ≤ Duration.longest.nanos then .ok ⟨a.nanos + b.nanos⟩ else .error .overflow

def total (h m s : Nat) : Except Fault Nat := do
  let hours ← Checked.mul h 3600
  let minutes ← Checked.mul m 60
  Checked.add (← Checked.add hours minutes) s

def clockOfWords (line : Nat) (raw digits : List Char) (h m s : Nat) : Except Stop Duration := do
  if 60 ≤ m ∨ 60 ≤ s then badClock line raw
  else
    let nanos ← nanos line raw digits
    sum (.ofParts (← total h m s) 0) ⟨nanos⟩

def clockOf (line : Nat) (raw digits : List Char) : List (List Char) → Except Stop Duration
  | [hour, minute, second] => do
    let h ← number line raw hour
    let m ← number line raw minute
    let s ← number line raw second
    clockOfWords line raw digits h m s
  | _ => badClock line raw

def clockSteps (line : Nat) (raw : List Char) : Except Stop Duration := do
  let (hands, digits) ← cutMark (Text.trim raw)
  clockOf line raw digits (Text.split ':' hands)

def clock (line : Nat) (raw : List Char) : Run Duration := ⟨[⟨line, raw⟩], clockSteps line raw⟩

theorem utf8Size_of_isMark {c : Char} (h : IsMark c) : c.utf8Size = 1 := by
  rcases h with rfl | rfl <;> rfl

theorem cutMark_eq (s : List Char) : cutMark s = .ok (cutFraction s) := by
  unfold cutMark
  rcases plain_or_marked s with plain | ⟨hands, mark, digits, rfl, marked, plain⟩
  · have missing : Checked.findLast? (IsMark ·) s = none :=
      Checked.findLast?_of_forall fun c mem => by simpa using plain c mem
    rw [missing, cutFraction_of_forall plain]
    rfl
  · have place : Checked.findLast? (IsMark ·) (hands ++ mark :: digits) =
        some (Checked.bytes hands) :=
      Checked.findLast?_append hands (by simpa using marked) fun c mem => by simpa using plain c mem
    have behind : Checked.cut (Checked.bytes hands + 1) (hands ++ mark :: digits) =
        .ok (hands ++ [mark], digits) := by
      have offset : Checked.bytes hands + 1 = Checked.bytes (hands ++ [mark]) := by
        rw [Checked.bytes_append, Checked.bytes_cons, utf8Size_of_isMark marked, Checked.bytes_nil]
      rw [offset, List.append_cons hands mark digits, Checked.cut_append]
    rw [place, cutFraction_append marked plain]
    dsimp only
    rw [Checked.cut_append, behind]
    rfl

theorem word?_digits (few : digits.length ≤ 9) (all : ∀ c ∈ digits, Text.isDigit c)
    (some_digit : digits ≠ []) : Text.word? 64 (Text.trim digits) = some (Text.ofDigits digits) := by
  have tight := Text.tight_of_forall fun c mem => Text.not_isBlank_of_isDigit (all c mem)
  have below := Text.ofDigits_lt all
  have small : 10 ^ digits.length ≤ 10 ^ 9 := Nat.pow_le_pow_right (by decide) few
  rw [tight.trim_eq, Text.word?_of_digits some_digit all (by omega)]

theorem nanos_lt (few : digits.length ≤ 9) (all : ∀ c ∈ digits, Text.isDigit c) :
    Text.ofDigits digits * 10 ^ (9 - digits.length) < Duration.perSecond := by
  have power : Duration.perSecond = 10 ^ digits.length * 10 ^ (9 - digits.length) := by
    rw [← Nat.pow_add, Nat.add_sub_cancel' few]
    rfl
  rw [power]
  exact Nat.mul_lt_mul_of_pos_right (Text.ofDigits_lt all) (Nat.pow_pos (by decide))

theorem nanos_of_digits (few : digits.length ≤ 9) (all : ∀ c ∈ digits, Text.isDigit c) :
    nanos line raw digits = .ok (Text.ofDigits digits * 10 ^ (9 - digits.length)) := by
  by_cases empty : digits = []
  · subst empty
    rfl
  have width : Checked.bytes digits = digits.length :=
    Checked.bytes_eq_length fun c mem => Text.utf8Size_of_isDigit (all c mem)
  have digital : ¬ (9 < digits.length ∨ !digits.all Text.isDigit) := by
    simpa [Nat.not_lt.mpr few] using all
  have small : 10 ^ (9 - digits.length) ≤ 10 ^ 9 := Nat.pow_le_pow_right (by decide) (Nat.sub_le 9 _)
  have product := Checked.mul_eq ((nanos_lt few all).trans (by decide))
  unfold nanos
  rw [if_neg (mt List.isEmpty_iff.mp empty), width, if_neg digital, number,
    word?_digits few all empty, Checked.sub_eq few]
  change (liftM (Checked.pow 10 (9 - digits.length)) >>= fun scale =>
    liftM (Checked.mul (Text.ofDigits digits) scale) : Except Stop Nat) = _
  rw [Checked.pow_eq (by omega)]
  exact congrArg (Except.mapError Stop.fault) product

theorem nanos_eq (line : Nat) (raw digits : List Char) :
    nanos line raw digits = match fraction? digits with
      | some n => .ok n
      | none => badClock line raw := by
  by_cases well : digits.length ≤ 9 ∧ digits.all Text.isDigit
  · rw [fraction?, if_pos well, nanos_of_digits well.1 (List.all_eq_true.mp well.2)]
  · have some_digit : ¬ digits.isEmpty := by
      rw [List.isEmpty_iff]
      rintro rfl
      exact well (by decide)
    have bad : 9 < Checked.bytes digits ∨ !digits.all Text.isDigit := by
      by_cases all : digits.all Text.isDigit
      · have width : Checked.bytes digits = digits.length := Checked.bytes_eq_length fun c mem =>
          Text.utf8Size_of_isDigit (List.all_eq_true.mp all c mem)
        rw [width]
        exact .inl (Nat.not_le.mp fun few => well ⟨few, all⟩)
      · exact .inr (by simpa using all)
    unfold nanos
    rw [fraction?, if_neg well, if_neg some_digit, if_pos bad]

theorem total_eq {h m s : Nat} (minute : m < 60) :
    total h m s = Checked.word (h * 3600 + m * 60 + s) := by
  unfold total
  rw [Checked.mul_eq (a := m) (by omega)]
  by_cases fits : h * 3600 < 2 ^ 64
  · rw [Checked.mul_eq fits]
    change (Checked.add (h * 3600) (m * 60) >>= fun n => Checked.add n s) = _
    by_cases fits' : h * 3600 + m * 60 < 2 ^ 64
    · rw [Checked.add_eq fits']
      rfl
    · rw [Checked.add, Checked.word_eq_overflow (by omega), Checked.word_eq_overflow (by omega)]
      rfl
  · rw [Checked.mul, Checked.word_eq_overflow (by omega), Checked.word_eq_overflow (by omega)]
    rfl

theorem sum_eq {seconds n : Nat} (fits : seconds < 2 ^ 64) (below : n < Duration.perSecond) :
    sum (.ofParts seconds 0) ⟨n⟩ = .ok (.ofParts seconds n) := by
  have le : (Duration.ofParts seconds 0).nanos + n ≤ Duration.longest.nanos := by
    change seconds * 1000000000 + 0 + n ≤ 2 ^ 64 * 1000000000 - 1
    change n < 1000000000 at below
    omega
  have whole : (Duration.ofParts seconds 0).nanos = seconds * Duration.perSecond := Nat.add_zero _
  unfold sum
  rw [if_pos le, whole, Duration.ofParts]

theorem lt_of_fraction? {n : Nat} (told : fraction? digits = some n) : n < Duration.perSecond := by
  unfold fraction? at told
  split at told
  · next all =>
    cases told
    exact nanos_lt all.1 (List.all_eq_true.mp all.2)
  · cases told

theorem number_eq_or (line : Nat) (raw s : List Char) :
    (∃ n, Text.word? 64 (Text.trim s) = some n ∧ number line raw s = .ok n) ∨
      Text.word? 64 (Text.trim s) = none ∧ number line raw s = badClock line raw := by
  unfold number
  cases Text.word? 64 (Text.trim s) with
  | some n => exact .inl ⟨n, rfl, rfl⟩
  | none => exact .inr ⟨rfl, rfl⟩

theorem clockOf_of_words {h m s : Nat} {pieces : List (List Char)}
    (words : pieces.map (Text.word? 64 <| Text.trim ·) = [some h, some m, some s]) :
    clockOf line raw digits pieces = clockOfWords line raw digits h m s := by
  obtain ⟨hour, rest, rfl, hw, words⟩ := List.map_eq_cons_iff.mp words
  obtain ⟨minute, rest, rfl, mw, words⟩ := List.map_eq_cons_iff.mp words
  obtain ⟨second, rest, rfl, sw, words⟩ := List.map_eq_cons_iff.mp words
  cases List.map_eq_nil_iff.mp words
  rw [clockOf, number, number, number, hw, mw, sw]
  rfl

theorem clockOf_eq_bad {pieces : List (List Char)}
    (other : ∀ h m s, pieces.map (Text.word? 64 <| Text.trim ·) ≠ [some h, some m, some s]) :
    clockOf line raw digits pieces = badClock line raw := by
  unfold clockOf
  split
  · next hour minute second =>
    rcases number_eq_or line raw hour with ⟨h, hw, read⟩ | ⟨-, refused⟩
    · rw [read]
      rcases number_eq_or line raw minute with ⟨m, mw, read⟩ | ⟨-, refused⟩
      · rw [read]
        rcases number_eq_or line raw second with ⟨s, sw, -⟩ | ⟨-, refused⟩
        · exact absurd (by simp [hw, mw, sw]) (other h m s)
        · rw [refused]
          rfl
      · rw [refused]
        rfl
    · rw [refused]
      rfl
  · rfl

theorem clockSteps_eq (line : Nat) (raw : List Char) :
    clockSteps line raw = (Subtitle.clock line raw).mapError Stop.ofError := by
  unfold clockSteps Subtitle.clock
  rw [cutMark_eq]
  obtain ⟨hands, digits⟩ := cutFraction (Text.trim raw)
  change clockOf line raw digits (Text.split ':' hands) = _
  dsimp only
  split
  · next h m s n words told =>
    rw [clockOf_of_words words, clockOfWords, nanos_eq, told]
    dsimp only
    split
    · rfl
    · next low =>
      rw [total_eq (by omega)]
      generalize h * 3600 + m * 60 + s = seconds
      split
      · next exceeds =>
        rw [Checked.word_eq_overflow exceeds]
        rfl
      · next fits =>
        rw [Checked.word_eq (Nat.not_le.mp fits), ok_bind, lift_ok_bind,
          sum_eq (Nat.not_le.mp fits) (lt_of_fraction? told)]
        rfl
  · next other =>
    by_cases words : ∃ h m s,
        (Text.split ':' hands).map (Text.word? 64 <| Text.trim ·) = [some h, some m, some s]
    · obtain ⟨h, m, s, words⟩ := words
      have none : fraction? digits = none :=
        Option.eq_none_iff_forall_ne_some.mpr fun n told => other h m s n words told
      rw [clockOf_of_words words, clockOfWords, nanos_eq, none]
      split <;> rfl
    · exact clockOf_eq_bad fun h m s pieces => words ⟨h, m, s, pieces⟩

theorem clock_mirrors (line : Nat) (raw : List Char) :
    (clock line raw).Mirrors (Subtitle.clock line raw) fun rs d => ∃ t, rs = [t] ∧ t.Tells d where
  result_eq := clockSteps_eq line raw
  overflow_iff := by
    have exceeded : _ ↔ Reading.Exceeds ⟨line, raw⟩ := Reading.clock_eq_overflow_iff
    rw [exceeded]
    simp only [clock, List.mem_singleton, exists_eq_left]
  told d accepted := ⟨⟨line, raw⟩, rfl, Reading.clock_eq_ok_iff.mp accepted⟩

end Clock

end Run

def TellsCue (rs : List Reading) (c : Cue) : Prop :=
  ∃ start finish d, rs = [start, finish] ∧ start.Tells c.start ∧ finish.Tells d ∧
    c.duration = d.sub c.start

theorem Run.cue_mirrors (n : Nat) (a b : List Char) {text : String}
    {rest : Duration → Duration → Run Cue}
    (rest_eq : ∀ start finish, rest start finish = pure ⟨text, start, finish.sub start⟩) :
    (clock n a >>= fun start => clock n b >>= rest start).Mirrors
      (Subtitle.clock n a >>= fun start => Subtitle.clock n b >>= fun finish =>
        .ok ⟨text, start, finish.sub start⟩) TellsCue := by
  refine (clock_mirrors n a).bind fun _ start ⟨s, read, tells⟩ => ?_
  refine (clock_mirrors n b).bind fun _ finish ⟨f, read', tells'⟩ => ?_
  rw [rest_eq]
  exact mirrors_pure ⟨s, f, finish, by rw [read, read']; rfl, tells, tells', rfl⟩

/-- What was read tells the times of the cues, one after another. -/
inductive Told : List Reading → List Cue → Prop
  | nil : Told [] []
  | cons {rs rs' : List Reading} {c : Cue} {cs : List Cue} :
      TellsCue rs c → Told rs' cs → Told (rs ++ rs') (c :: cs)

end Overdub.Subtitle
