import Overdub.Proofs.Checked
import Overdub.Proofs.Speech.Stretch

/-!
Stretching with every place in a list and every difference checked, and with the sums over what the
pace gives: where a window belongs, and how long the output gets. As long as these sums are clear of
a machine word nothing fails, every loop ends, and the checked stretch gives what the other gives.
-/

namespace Overdub

open Checked (Fault Loop)

/-- Clear of the words: the places of all windows that an output of `most` samples begins, and its
length. -/
structure Pace.Clear (p : Pace) (most : Nat) : Prop where
  place_lt : ∀ k, k * hop ≤ most → p.place k + seek + window < 2 ^ 64
  length_lt : most + hop < 2 ^ 64

theorem Pace.Clear.of_le {p : Pace} {m n : Nat} (h : p.Clear n) (le : m ≤ n) : p.Clear m where
  place_lt k low := h.place_lt k (Nat.le_trans low le)
  length_lt := Nat.lt_of_le_of_lt (Nat.add_le_add_right le hop) h.length_lt

namespace Stretch

open Pace (window hop seek)

def weights : List Float32 := (List.range window).map Window.weight

namespace Guarded

def windowAt (s : Stretch) (p : Nat) : Except Fault (List Float32) := do
  let offset ← Checked.sub p s.base
  Checked.slice s.input offset window

def score (s : Stretch) (follow : List Float32) (p : Nat) : Except Fault Float32 := do
  let candidate ← windowAt s p
  return similarity 0 candidate follow

def better (s : Stretch) (follow : List Float32) (best : Nat × Float32) (p : Nat) :
    Except Fault (Nat × Float32) := do
  let x ← score s follow p
  return if best.2 < x then (p, x) else best

def bestStart (s : Stretch) (last : Nat) : Except Fault Nat := do
  let follow ← windowAt s (last + hop)
  let place := s.pace.place s.taken
  let x ← score s follow place
  let first := max (place - seek) s.base
  let best ← (List.range' first (place + seek + 1 - first)).foldlM (better s follow) (place, x)
  return best.1

def rise (s : Stretch) (i : Nat) (x : Float32) : Except Fault Float32 :=
  if s.taken = 0 then .ok x
  else do
    let w ← Checked.item weights i
    return x * w

def lay (s : Stretch) (segment : List Float32) (i : Nat) : Except Fault (Float32 × Float32) := do
  let x ← Checked.item segment i
  let head ← rise s i x
  let y ← Checked.item s.overlap i
  let tail ← Checked.item segment (hop + i)
  let w ← Checked.item weights (hop + i)
  return (y + head, tail * w)

def gone (s : Stretch) (keep : Nat) : Except Fault Nat :=
  if s.base < keep then Checked.sub keep s.base else .ok 0

def step (s : Stretch) : Except Fault (List Float32 × Stretch) := do
  let start ← s.last.elim (pure 0) (bestStart s)
  let segment ← windowAt s start
  let laid ← (List.range hop).mapM (lay s segment)
  let emitted ← Checked.add s.emitted hop
  let keep := min (s.pace.place (s.taken + 1) - seek) (start + hop)
  let gone ← gone s keep
  let input ← Checked.onward s.input gone
  return (laid.map (·.1),
    { s with
      input
      base := max s.base keep
      taken := s.taken + 1
      last := some start
      overlap := laid.map (·.2)
      emitted })

def ready (s : Stretch) (live : Bool) : Except Fault Bool := do
  let near ← Checked.add (s.pace.place s.taken) seek
  let ending ← Checked.add near window
  if s.reach < max ending (s.last.elim 0 (· + hop + window)) then return false
  else if live then
    let emitted ← Checked.add s.emitted hop
    return emitted ≤ s.expected
  else return true

def runBody (s : Stretch) : Except Fault (Option (List Float32 × Stretch)) := do
  if ← ready s true then return some (← step s) else return none

def exhaustBody (target : Nat) (s : Stretch) : Except Fault (Option (List Float32 × Stretch)) := do
  if s.emitted < target then
    if ← ready s false then return some (← step s)
    else return some ([], { s with input := s.input ++ .replicate (window + seek) 0 })
  else return none

def trim (target : Nat) (out : List Float32) (s : Stretch) :
    Except Fault (List Float32 × Stretch) := do
  if target < s.emitted then
    let excess ← Checked.sub s.emitted target
    return (out.take (out.length - excess), { s with emitted := target })
  else return (out, s)

def Pushes (s : Stretch) (samples : List Float32) (result : List Float32 × Stretch) : Prop :=
  Loop runBody (s.feed samples) result.1 result.2

def Flushes (s : Stretch) (result : List Float32 × Stretch) : Prop :=
  ∃ out t, Loop (exhaustBody s.expected) s out t ∧ trim s.expected out t = .ok result

section Step

variable {s : Stretch}

theorem similarity_take {xs ys : List Float32} (n : Nat) (le : ys.length ≤ (xs.take n).length) :
    similarity 0 (xs.take n) ys = similarity 0 xs ys := by
  rw [← similarity_append 0 le (xs.drop n), List.take_append_drop]

theorem windowAt_eq {p : Nat} (low : s.base ≤ p) (high : p + window ≤ s.reach) :
    windowAt s p = .ok ((s.onward p).take window) := by
  have inside : p - s.base + window ≤ s.input.length := by
    unfold reach at high
    omega
  rw [windowAt, Checked.sub_eq low, Checked.ok_bind, Checked.slice_eq inside]
  rfl

theorem score_eq {last p : Nat} (low : s.base ≤ p) (high : p + window ≤ s.reach) :
    score s ((s.onward (last + hop)).take window) p = .ok (s.score last p) := by
  have enough : ((s.onward (last + hop)).take window).length ≤ ((s.onward p).take window).length := by
    rw [List.length_take, List.length_take, length_onward s p]
    unfold reach at high
    omega
  rw [score, windowAt_eq low high, Checked.ok_bind]
  exact congrArg Except.ok (similarity_take window enough)

theorem bestStart_eq (h : s.Steady) {last : Nat} (mem : last ∈ s.last) (enough : s.need ≤ s.reach) :
    bestStart s last = .ok (s.bestStart last) := by
  rw [need, mem, Option.elim_some, Nat.max_le] at enough
  have scored : ∀ p, s.base ≤ p → p ≤ s.pace.place s.taken + seek →
      score s ((s.onward (last + hop)).take window) p = .ok (s.score last p) :=
    fun p low high => score_eq low (by omega)
  have betters : ∀ best, ∀ p ∈ s.candidates,
      better s ((s.onward (last + hop)).take window) best p = .ok (s.better last best p) := by
    intro best p mem
    obtain ⟨low, high⟩ := mem_candidates mem
    rw [better, scored p low high]
    rfl
  rw [bestStart, windowAt_eq (h.base_le_last last mem) enough.2, Checked.ok_bind]
  change (score s ((s.onward (last + hop)).take window) _ >>= _) = _
  rw [scored _ h.base_le_place (Nat.le_add_right _ _), Checked.ok_bind]
  change (s.candidates.foldlM (better s ((s.onward (last + hop)).take window)) _ >>= _) = _
  rw [Checked.foldlM_eq betters]
  rfl

theorem start_eq (h : s.Steady) (enough : s.need ≤ s.reach) :
    s.last.elim (pure 0) (bestStart s) = .ok s.start := by
  rw [Stretch.start]
  cases e : s.last with
  | none => rfl
  | some last => exact bestStart_eq h e enough

theorem gone_eq (s : Stretch) (keep : Nat) : gone s keep = .ok (keep - s.base) := by
  unfold gone
  split
  · next less => exact Checked.sub_eq (Nat.le_of_lt less)
  · next more => rw [Nat.sub_eq_zero_of_le (Nat.not_lt.mp more)]

section Item

variable {xs ys : List Float32} {i n : Nat}

theorem item_eq_getD (lt : i < xs.length) : Checked.item xs i = .ok (xs.getD i 0) := by
  apply Checked.item_eq
  rw [List.getD_eq_getElem?_getD, List.getElem?_eq_getElem lt, Option.getD_some]

theorem map_getD_range (h : xs.length = n) : (List.range n).map (xs.getD · 0) = xs := by
  apply List.ext_getElem
  · rw [List.length_map, List.length_range, h]
  · intro i _ lt
    rw [List.getElem_map, List.getElem_range, List.getD_eq_getElem?_getD,
      List.getElem?_eq_getElem lt, Option.getD_some]

theorem getD_zipWith (f : Float32 → Float32 → Float32) (hx : i < xs.length) (hy : i < ys.length) :
    (xs.zipWith f ys).getD i 0 = f (xs.getD i 0) (ys.getD i 0) := by
  simp [hx, hy]

theorem getD_map_range (f : Nat → Float32) (lt : i < n) : ((List.range n).map f).getD i 0 = f i := by
  simp [lt]

end Item

theorem item_weights {i : Nat} (lt : i < window) : Checked.item weights i = .ok (Window.weight i) := by
  have long : i < weights.length := by
    rw [weights, List.length_map, List.length_range]
    exact lt
  rw [item_eq_getD long, weights, getD_map_range _ lt]

def tail (s : Stretch) : List Float32 := (s.segment.drop hop).zipWith (· * ·) Window.falling

theorem rise_eq (h : s.Steady) (enough : s.need ≤ s.reach) {i : Nat} (lt : i < hop) :
    rise s i (s.segment.getD i 0) = .ok (s.head.getD i 0) := by
  have long := length_segment h enough
  have half : i < (s.segment.take hop).length := by
    rw [List.length_take, long]
    exact lt
  have first : (s.segment.take hop).getD i 0 = s.segment.getD i 0 := by simp [lt]
  unfold rise head
  split
  · rw [first]
  · have rising : i < Window.rising.length := by simpa [Window.rising] using lt
    rw [item_weights (Nat.lt_trans lt (by decide)), Checked.ok_bind, getD_zipWith _ half rising,
      first, Window.rising, getD_map_range _ lt]
    rfl

theorem lay_eq (h : s.Steady) (enough : s.need ≤ s.reach) {i : Nat} (lt : i < hop) :
    lay s s.segment i =
      .ok ((s.overlap.zipWith (· + ·) s.head).getD i 0, (tail s).getD i 0) := by
  have long := length_segment h enough
  have overlap : i < s.overlap.length := h.length_overlap ▸ lt
  have near : i < s.segment.length := by
    rw [long]
    exact Nat.lt_trans lt (by decide)
  have far : hop + i < window := Nat.add_lt_add_left lt hop
  have kept : (tail s).getD i 0 = s.segment.getD (hop + i) 0 * Window.weight (hop + i) := by
    have behind : i < (s.segment.drop hop).length := by
      rw [List.length_drop, long]
      exact lt
    have falling : i < Window.falling.length := by simpa [Window.falling] using lt
    have half : (s.segment.drop hop).getD i 0 = s.segment.getD (hop + i) 0 := by simp
    rw [tail, getD_zipWith _ behind falling, half, Window.falling, getD_map_range _ lt]
  rw [lay, item_eq_getD near, Checked.ok_bind, rise_eq h enough lt, Checked.ok_bind,
    item_eq_getD overlap, Checked.ok_bind, item_eq_getD (long ▸ far), Checked.ok_bind,
    item_weights far, Checked.ok_bind, kept,
    getD_zipWith _ overlap ((length_head h enough).symm ▸ lt)]
  rfl

theorem step_eq (h : s.Steady) (enough : s.need ≤ s.reach) (room : s.emitted + hop < 2 ^ 64) :
    step s = .ok s.step := by
  obtain ⟨low, high⟩ := start_mem h enough
  have rest : s.keep - s.base ≤ s.input.length := by
    have := Nat.min_le_right (s.pace.place (s.taken + 1) - seek) (s.start + hop)
    unfold reach window at high
    unfold keep hop at *
    omega
  have laid : (List.range hop).mapM (lay s s.segment) = .ok _ :=
    Checked.mapM_eq fun i mem => lay_eq h enough (List.mem_range.mp mem)
  rw [step, start_eq h enough, Checked.ok_bind, windowAt_eq low high, Checked.ok_bind]
  change ((List.range hop).mapM (lay s s.segment) >>= _) = _
  rw [laid, Checked.ok_bind, Checked.add_eq room, Checked.ok_bind]
  change (gone s s.keep >>= _) = _
  rw [gone_eq, Checked.ok_bind, Checked.onward_eq rest, Checked.ok_bind, List.map_map, List.map_map]
  have out : (s.overlap.zipWith (· + ·) s.head).length = hop := length_step h enough
  have kept : (tail s).length = hop := (h.step enough).length_overlap
  change Except.ok ((List.range hop).map ((s.overlap.zipWith (· + ·) s.head).getD · 0),
    { s with
      input := s.input.drop (s.keep - s.base)
      base := max s.base s.keep
      taken := s.taken + 1
      last := some s.start
      overlap := (List.range hop).map ((tail s).getD · 0)
      emitted := s.emitted + hop }) = .ok s.step
  rw [map_getD_range out, map_getD_range kept]
  rfl

end Step

section Run

variable {s : Stretch}

theorem emitted_lt (clear : s.pace.Clear s.expected) (ahead : s.emitted ≤ s.expected) :
    s.emitted + hop < 2 ^ 64 :=
  Nat.lt_of_le_of_lt (Nat.add_le_add_right ahead hop) clear.length_lt

theorem ready_eq (clear : s.pace.Clear s.expected) (even : s.emitted = s.taken * hop)
    (ahead : s.emitted ≤ s.expected) (live : Bool) :
    ready s live =
      .ok (decide (s.need ≤ s.reach ∧ (live → s.emitted + hop ≤ s.expected))) := by
  have place := clear.place_lt s.taken (even ▸ ahead)
  have near := Nat.lt_of_le_of_lt (Nat.le_add_right _ _) place
  rw [ready, Checked.add_eq near, Checked.ok_bind, Checked.add_eq place, Checked.ok_bind]
  change (if s.reach < s.need then _ else _) = _
  split
  · next few =>
    simp only [Nat.not_le.mpr few, false_and, decide_false]
    rfl
  · next enough =>
    rw [Nat.not_lt] at enough
    cases live with
    | false =>
      simp only [enough, true_and]
      rfl
    | true =>
      rw [if_pos rfl, Checked.add_eq (emitted_lt clear ahead), Checked.ok_bind]
      simp only [enough, true_and, forall_const]
      rfl

theorem runBody_eq (h : s.Steady) (clear : s.pace.Clear s.expected)
    (even : s.emitted = s.taken * hop) (ahead : s.emitted ≤ s.expected) :
    runBody s =
      .ok (if s.need ≤ s.reach ∧ s.emitted + hop ≤ s.expected then some s.step else none) := by
  rw [runBody, ready_eq clear even ahead, Checked.ok_bind]
  split
  · next can =>
    have can : s.need ≤ s.reach ∧ s.emitted + hop ≤ s.expected := by simpa using can
    rw [step_eq h can.1 (emitted_lt clear ahead), if_pos can]
    rfl
  · next not =>
    have not : ¬ (s.need ≤ s.reach ∧ s.emitted + hop ≤ s.expected) := by simpa using not
    rw [if_neg not]
    rfl

theorem even_step (even : s.emitted = s.taken * hop) : s.step.2.emitted = s.step.2.taken * hop := by
  change s.emitted + hop = (s.taken + 1) * hop
  rw [even, Nat.succ_mul]

theorem loop_run (h : s.Steady) (clear : s.pace.Clear s.expected)
    (even : s.emitted = s.taken * hop) (ahead : s.emitted ≤ s.expected) :
    Loop runBody s s.run.1 s.run.2 ∧ s.run.2.emitted = s.run.2.taken * hop := by
  fun_induction Stretch.run s with
  | case1 s can next rest ih =>
    -- A step changes neither the pace nor what was fed, so the sums stay clear.
    obtain ⟨loop, even'⟩ := ih (h.step can.1) clear (even_step even) can.2
    have body := runBody_eq h clear even ahead
    rw [if_pos can] at body
    exact ⟨.next body loop, even'⟩
  | case2 s not =>
    have body := runBody_eq h clear even ahead
    rw [if_neg not] at body
    exact ⟨.done body, even⟩

theorem exhaustBody_eq (h : s.Steady) (clear : s.pace.Clear s.expected)
    (even : s.emitted = s.taken * hop) (short : s.emitted < s.expected) :
    exhaustBody s.expected s = .ok (some (if s.need ≤ s.reach then s.step
      else ([], { s with input := s.input ++ .replicate (window + seek) 0 }))) := by
  have ahead := Nat.le_of_lt short
  rw [exhaustBody, if_pos short, ready_eq clear even ahead, Checked.ok_bind]
  split
  · next can =>
    have can : s.need ≤ s.reach := by simpa using can
    rw [step_eq h can (emitted_lt clear ahead), if_pos can]
    rfl
  · next not =>
    have not : ¬ s.need ≤ s.reach := by simpa using not
    rw [if_neg not]
    rfl

theorem loop_exhaust (h : s.Steady) (clear : s.pace.Clear s.expected)
    (even : s.emitted = s.taken * hop) :
    Loop (exhaustBody s.expected) s s.exhaust.1 s.exhaust.2 := by
  fun_induction Stretch.exhaust s with
  | case1 s short enough next rest ih =>
    have body := exhaustBody_eq h clear even short
    rw [if_pos enough] at body
    exact .next body (ih (h.step enough) clear (even_step even))
  | case2 s short few ih =>
    have body := exhaustBody_eq h clear even short
    rw [if_neg few] at body
    exact .next body (ih (h.withInput _) clear even)
  | case3 s whole => exact .done (by rw [exhaustBody, if_neg whole]; rfl)

theorem trim_eq {target : Nat} {out : List Float32} (same : s.expected = target)
    (all : target ≤ s.emitted) :
    trim target out s = .ok (out.take (out.length - (s.emitted - s.expected)),
      { s with emitted := s.emitted - (s.emitted - s.expected) }) := by
  subst same
  unfold trim
  split
  · next more =>
    rw [Checked.sub_eq all, Nat.sub_sub_self all]
    rfl
  · next done =>
    have none : s.emitted - s.expected = 0 := Nat.sub_eq_zero_of_le (Nat.not_lt.mp done)
    rw [none, Nat.sub_zero, Nat.sub_zero, List.take_length]
    rfl

theorem pushes_iff {xs : List Float32} (loop : Loop runBody (s.feed xs) (s.push xs).1 (s.push xs).2)
    (r : List Float32 × Stretch) : Pushes s xs r ↔ r = s.push xs := by
  constructor
  · intro pushes
    obtain ⟨out, state⟩ := Loop.unique pushes loop
    exact Prod.ext out state
  · rintro rfl
    exact loop

theorem flushes_iff (h : s.Steady) (clear : s.pace.Clear s.expected)
    (even : s.emitted = s.taken * hop) (r : List Float32 × Stretch) :
    Flushes s r ↔ r = s.flush := by
  obtain ⟨-, all, same⟩ := exhaust_counts h
  have loop := loop_exhaust h clear even
  have trimmed : trim s.expected s.exhaust.1 s.exhaust.2 = .ok s.flush := trim_eq same all
  constructor
  · rintro ⟨out, t, loop', trimmed'⟩
    obtain ⟨rfl, rfl⟩ := loop.unique loop'
    rw [trimmed] at trimmed'
    exact (Except.ok.inj trimmed').symm
  · rintro rfl
    exact ⟨_, _, loop, trimmed⟩

end Run

end Guarded

def pushAll (s : Stretch) : List (List Float32) → List Float32 × Stretch
  | [] => ([], s)
  | xs :: xss =>
    let next := s.push xs
    let rest := pushAll next.2 xss
    (next.1 ++ rest.1, rest.2)

/-- What holds after pushes: `fed` samples went in, and `out` came out. -/
structure Flows (pace : Pace) (fed out : Nat) (s : Stretch) : Prop where
  steady : s.Steady
  pace_eq : s.pace = pace
  fed_eq : s.fed = fed
  emitted_eq : s.emitted = out
  even : s.emitted = s.taken * hop
  out_le : out ≤ pace.output fed

section Flows

variable {pace : Pace} {fed out total : Nat} {s : Stretch}

theorem Flows.push (h : Flows pace fed out s) (xs : List Float32) (le : fed + xs.length ≤ total)
    (clear : pace.Clear (pace.output total)) :
    (∀ r, Guarded.Pushes s xs r ↔ r = s.push xs) ∧
      Flows pace (fed + xs.length) (out + (s.push xs).1.length) (s.push xs).2 := by
  obtain ⟨steady, rfl, rfl, rfl, even, ahead⟩ := h
  have ahead' : (s.feed xs).emitted ≤ (s.feed xs).expected :=
    Nat.le_trans ahead (expected_le_feed steady xs)
  have clear' := clear.of_le (Pace.output_mono steady.speed_pos le)
  obtain ⟨loop, even'⟩ := Guarded.loop_run (steady.feed xs) clear' even ahead'
  obtain ⟨count, below, pace, fed⟩ := run_counts (steady.feed xs) ahead'
  refine ⟨Guarded.pushes_iff loop, steady.push xs, pace, fed, count, even', ?_⟩
  rw [Stretch.expected, pace, fed, count] at below
  exact below

theorem Flows.pushAll (h : Flows pace fed out s) (xss : List (List Float32))
    (le : fed + xss.flatten.length ≤ total) (clear : pace.Clear (pace.output total)) :
    Flows pace (fed + xss.flatten.length) (out + (s.pushAll xss).1.length) (s.pushAll xss).2 := by
  induction xss generalizing s fed out with
  | nil => exact h
  | cons xs xss ih =>
    rw [List.flatten_cons, List.length_append, ← Nat.add_assoc] at le ⊢
    obtain ⟨-, first⟩ := h.push xs (Nat.le_trans (Nat.le_add_right _ _) le) clear
    have all := ih first le
    rw [Nat.add_assoc out, ← List.length_append] at all
    exact all

theorem Flows.flush (h : Flows pace fed out s) (clear : pace.Clear (pace.output fed)) :
    (∀ r, Guarded.Flushes s r ↔ r = s.flush) ∧
      out + s.flush.1.length = pace.output fed := by
  obtain ⟨steady, rfl, rfl, rfl, even, ahead⟩ := h
  refine ⟨Guarded.flushes_iff steady clear even, ?_⟩
  rw [length_flush steady ahead]
  exact Nat.add_sub_of_le ahead

theorem flows_start {speed : Float} (h : start? speed = .ok s) : Flows ⟨.ofFloat speed⟩ 0 0 s := by
  have steady := steady_start h
  unfold start? at h
  split at h
  · cases h
    exact ⟨steady, rfl, rfl, rfl, (Nat.zero_mul _).symm, Nat.zero_le _⟩
  · cases h

end Flows

/-- At any speed, as long as places and lengths are clear of a machine word: chunk after chunk can
be pushed and then the rest be flushed, with no item or slice outside of the input that is held, no
difference below zero and no loop that does not end. The output never gets ahead of the input, and
in the end it has just the length that the input asks for. -/
theorem stretches_in_full (speed : Float) (usable : Speed.usable speed)
    (chunks : List (List Float32))
    (clear : Pace.Clear ⟨.ofFloat speed⟩ (Pace.output ⟨.ofFloat speed⟩ chunks.flatten.length)) :
    ∃ s, start? speed = .ok s ∧
      (∀ before chunk after, chunks = before ++ chunk :: after →
        let t := (s.pushAll before).2
        (∀ r, Guarded.Pushes t chunk r ↔ r = t.push chunk) ∧
          (s.pushAll (before ++ [chunk])).1.length ≤
            Pace.output ⟨.ofFloat speed⟩ (before ++ [chunk]).flatten.length) ∧
      let t := (s.pushAll chunks).2
      (∀ r, Guarded.Flushes t r ↔ r = t.flush) ∧
        ((s.pushAll chunks).1 ++ t.flush.1).length =
          Pace.output ⟨.ofFloat speed⟩ chunks.flatten.length := by
  have started : start? speed = .ok { pace := ⟨.ofFloat speed⟩ } := if_pos usable
  have flows (xss) (le : (xss : List (List Float32)).flatten.length ≤ chunks.flatten.length) :=
    (flows_start started).pushAll xss (by omega) clear
  simp only [Nat.zero_add] at flows
  refine ⟨_, started, ?_, ?_⟩
  · rintro before chunk after rfl
    have part : (before ++ [chunk]).flatten.length = before.flatten.length + chunk.length := by simp
    have whole : (before ++ chunk :: after).flatten.length =
        before.flatten.length + (chunk.length + after.flatten.length) := by simp
    have past := flows before (by omega)
    obtain ⟨pushes, -⟩ := past.push chunk (by omega) clear
    exact ⟨pushes, (flows (before ++ [chunk]) (by omega)).out_le⟩
  · dsimp only
    rw [List.length_append]
    exact (flows chunks (Nat.le_refl _)).flush clear

theorem stretches_in_full_two_chunks :
    let chunks := [List.replicate 600 (0 : Float32), List.replicate 100 0]
    let pace : Pace := ⟨.ofFloat 1.25⟩
    Speed.usable 1.25 ∧ pace.Clear (pace.output chunks.flatten.length) ∧
      ∃ s, start? 1.25 = .ok s ∧
        ((s.pushAll chunks).1 ++ (s.pushAll chunks).2.flush.1).length = 560 := by
  intro chunks pace
  have usable : Speed.usable 1.25 := by decide +kernel
  have fed : chunks.flatten.length = 700 := by
    rw [List.length_flatten, List.map_cons, List.map_singleton, List.length_replicate,
      List.length_replicate]
    rfl
  have output : pace.output 700 = 560 := by decide +kernel
  have clear : pace.Clear (pace.output chunks.flatten.length) := by
    rw [fed, output]
    refine ⟨?_, by decide⟩
    intro k low
    obtain rfl | rfl : k = 0 ∨ k = 1 := by
      unfold hop at low
      omega
    all_goals decide +kernel
  obtain ⟨s, started, -, -, length⟩ := stretches_in_full 1.25 usable chunks clear
  rw [fed] at length
  exact ⟨usable, clear, s, started, length.trans output⟩

end Stretch

end Overdub
