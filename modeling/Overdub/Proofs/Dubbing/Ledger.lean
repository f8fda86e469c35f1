import Overdub.Dubbing.Record

/-!
The ledger as a map from cues to states. Each operation is told by what it makes of the state of
every cue, and keeps the totals in step with the records.
-/

namespace Overdub

namespace Ledger

variable {l m : Ledger} {id x : CueId} {r : Record} {f : Record → Record}

theorem state_of_find? (h : l.find? x = some r) : l.state x = r.state := by
  rw [state, h]

theorem state_of_find?_none (h : l.find? x = none) : l.state x = .awaiting := by
  rw [state, h]

theorem exists_find? (h : l.state x ≠ .awaiting) : ∃ r, l.find? x = some r ∧ l.state x = r.state := by
  cases hr : l.find? x with
  | none => exact absurd (state_of_find?_none hr) h
  | some r => exact ⟨r, rfl, state_of_find? hr⟩

theorem id_of_find? (h : l.find? x = some r) : r.id = x := by
  simpa using List.find?_some h

theorem find?_update (hf : ∀ r, (f r).id = r.id) (x : CueId) :
    (l.update id f).find? x = (l.find? x).map fun r => if x = id then f r else r := by
  have keeps : ((fun r : Record => decide (r.id = x)) ∘ fun r => if r.id = id then f r else r) =
      fun r => decide (r.id = x) := by
    funext r
    by_cases h : r.id = id <;> simp [h, hf]
  rw [find?, update, List.find?_map, keeps]
  change (l.find? x).map _ = _
  cases h : l.find? x with
  | none => rfl
  | some r => rw [Option.map_some, Option.map_some, id_of_find? h]

theorem map_update_of_ne {rs : List Record} (h : ∀ r ∈ rs, r.id ≠ id) :
    (rs.map fun r => if r.id = id then f r else r) = rs := by
  induction rs with
  | nil => rfl
  | cons r rs ih =>
    rw [List.map_cons, if_neg (h r List.mem_cons_self),
      ih fun r mem => h r (List.mem_cons_of_mem _ mem)]

theorem countP_update (nodup : (l.records.map (·.id)).Nodup) (hr : l.find? id = some r)
    (p : Record → Bool) :
    (l.update id f).records.countP p + (if p r then 1 else 0) =
      l.records.countP p + if p (f r) then 1 else 0 := by
  obtain ⟨_, before, after, split, early⟩ := List.find?_eq_some_iff_append.mp hr
  have same := id_of_find? hr
  rw [split, List.map_append, List.map_cons, same] at nodup
  have late := (List.nodup_cons.mp (List.nodup_append.mp nodup).2.1).1
  -- Numbers differ, so no record before or after `r` is changed.
  have change : (l.update id f).records = before ++ f r :: after := by
    rw [update, split, List.map_append, List.map_cons, if_pos same, map_update_of_ne,
      map_update_of_ne]
    · intro r mem e
      exact late (e ▸ List.mem_map_of_mem mem)
    · intro r mem
      simpa using early r mem
  rw [change, split]
  simp only [List.countP_append, List.countP_cons]
  omega

/-- Cues are numbered in order and the totals agree with the records. -/
structure Tallied (l : Ledger) : Prop where
  ids : l.records.map (·.id) = List.range l.nextId
  pulled : l.totals.pulled = l.nextId
  retired : l.totals.retired = l.records.countP (·.state = .retired)
  discarded : l.totals.discarded = l.records.countP (·.state = .discarded)

namespace Tallied

theorem nodup (h : l.Tallied) : (l.records.map (·.id)).Nodup := by
  rw [h.ids]
  exact List.nodup_range

theorem lt_of_mem (h : l.Tallied) (mem : r ∈ l.records) : r.id < l.nextId := by
  have mem := List.mem_map_of_mem (f := (·.id)) mem
  rwa [h.ids, List.mem_range] at mem

theorem find?_eq_none (h : l.Tallied) (hx : l.nextId ≤ x) : l.find? x = none := by
  rw [find?, List.find?_eq_none]
  intro r mem e
  have below := h.lt_of_mem mem
  rw [of_decide_eq_true e] at below
  exact Nat.not_le.mpr below hx

theorem find?_of_mem (h : l.Tallied) (mem : r ∈ l.records) : l.find? r.id = some r := by
  obtain ⟨before, after, split⟩ := List.append_of_mem mem
  have nodup := h.nodup
  rw [split, List.map_append, List.nodup_append] at nodup
  rw [find?, List.find?_eq_some_iff_append]
  refine ⟨decide_eq_true rfl, before, after, split, ?_⟩
  intro r' mem
  have other := nodup.2.2 r'.id (List.mem_map_of_mem mem) r.id (by simp)
  simpa using other

end Tallied

theorem Tallied.withTotals (h : l.Tallied) {t : Totals} (pulled : t.pulled = l.totals.pulled)
    (retired : t.retired = l.totals.retired) (discarded : t.discarded = l.totals.discarded) :
    { l with totals := t }.Tallied :=
  ⟨h.ids, pulled.trans h.pulled, retired.trans h.retired, discarded.trans h.discarded⟩

/-- From `l` to `m` cues were taken up `n` times and nothing was mixed; `next` tells the states
in `m`. -/
structure Moves (l : Ledger) (n : Nat) (next : CueId → CueState) (m : Ledger) : Prop where
  tallied : m.Tallied
  nextId_eq : m.nextId = l.nextId + n
  mixed_eq : m.totals.mixed = l.totals.mixed
  state_eq : ∀ x, m.state x = next x

namespace Moves

variable {n n' : Nat} {next next' : CueId → CueState}

theorem congr (h : Moves l n next m) (e : ∀ x, next x = next' x) : Moves l n next' m :=
  ⟨h.tallied, h.nextId_eq, h.mixed_eq, fun x => (h.state_eq x).trans (e x)⟩

theorem trans {k : Ledger} (h : Moves l n next m) (h' : Moves m n' next' k) :
    Moves l (n + n') next' k where
  tallied := h'.tallied
  nextId_eq := by rw [h'.nextId_eq, h.nextId_eq, Nat.add_assoc]
  mixed_eq := h'.mixed_eq.trans h.mixed_eq
  state_eq := h'.state_eq

end Moves

namespace Tallied

theorem stay (h : l.Tallied) : Moves l 0 l.state l := ⟨h, rfl, rfl, fun _ => rfl⟩

theorem update (h : l.Tallied) (hf : ∀ r, (f r).id = r.id) (hr : l.find? id = some r)
    {t : Totals} (pulled : t.pulled = l.totals.pulled) (mixed : t.mixed = l.totals.mixed)
    (retired : t.retired + (if r.state = .retired then 1 else 0) =
      l.totals.retired + if (f r).state = .retired then 1 else 0)
    (discarded : t.discarded + (if r.state = .discarded then 1 else 0) =
      l.totals.discarded + if (f r).state = .discarded then 1 else 0) :
    Moves l 0 (fun x => if x = id then (f r).state else l.state x)
      { l.update id f with totals := t } where
  nextId_eq := rfl
  mixed_eq := mixed
  tallied := by
    refine ⟨?_, pulled.trans h.pulled, ?_, ?_⟩
    · refine Eq.trans ?_ h.ids
      change (l.records.map _).map _ = _
      rw [List.map_map]
      congr 1
      funext r
      by_cases e : r.id = id <;> simp [e, hf]
    · have count := countP_update h.nodup hr (f := f) (·.state = .retired)
      simp only [decide_eq_true_eq] at count
      rw [h.retired] at retired
      change t.retired = (l.update id f).records.countP _
      omega
    · have count := countP_update h.nodup hr (f := f) (·.state = .discarded)
      simp only [decide_eq_true_eq] at count
      rw [h.discarded] at discarded
      change t.discarded = (l.update id f).records.countP _
      omega
  state_eq := by
    intro x
    change (l.update id f).state x = _
    have found : (l.update id f).find? x = _ := find?_update hf x
    split
    · next e =>
      subst e
      rw [hr, Option.map_some, if_pos rfl] at found
      rw [state_of_find? found]
    · next e =>
      simp only [if_neg e, Option.map_id'] at found
      rw [state, found, state]

theorem add (h : l.Tallied) (cue : Cue) :
    Moves l 1 (fun x => if x = l.nextId then .generating else l.state x) (l.add cue) where
  nextId_eq := rfl
  mixed_eq := rfl
  tallied := by
    refine ⟨?_, congrArg (· + 1) h.pulled, ?_, ?_⟩
    · change (l.records ++ [_]).map _ = List.range (l.nextId + 1)
      rw [List.map_append, h.ids, List.range_succ]
      rfl
    · change l.totals.retired = (l.records ++ [_]).countP _
      rw [List.countP_append, ← h.retired]
      rfl
    · change l.totals.discarded = (l.records ++ [_]).countP _
      rw [List.countP_append, ← h.discarded]
      rfl
  state_eq := by
    intro x
    have found : (l.add cue).find? x =
        (l.find? x).or ([{ id := l.nextId, cue }].find? (·.id = x)) := List.find?_append
    split
    · next e =>
      subst e
      rw [h.find?_eq_none (Nat.le_refl _), Option.none_or, List.find?_cons_of_pos (by simp)] at found
      rw [state_of_find? found]
    · next e =>
      have other : ¬ l.nextId = x := fun same => e same.symm
      rw [List.find?_cons_of_neg (by simpa using other), List.find?_nil, Option.or_none] at found
      rw [state, found, state]

theorem add_trans (h : l.Tallied) {cue : Cue} {s : CueState}
    (on : Moves (l.add cue) 0 (fun x => if x = l.nextId then s else (l.add cue).state x) m) :
    Moves l 1 (fun x => if x = l.nextId then s else l.state x) m := by
  have added := h.add cue
  apply (added.trans on).congr
  intro x
  rw [added.state_eq]
  split <;> rfl

theorem touch (h : l.Tallied) (id : CueId) :
    Moves l 0 (fun x => if x = id ∧ l.state x = .queued then .mixing else l.state x)
      (l.touch id) := by
  unfold Ledger.touch
  split
  · next queued =>
    obtain ⟨r, hr, now⟩ := exists_find? (by rw [queued]; nofun)
    rw [now] at queued
    refine (h.update ?_ hr rfl rfl ?_ ?_).congr ?_
    · intro r
      split <;> rfl
    · simp [queued]
    · simp [queued]
    · intro x
      by_cases e : x = id <;> simp [e, queued, now]
  · next other =>
    apply h.stay.congr
    intro x
    by_cases e : x = id <;> simp [e, other]

theorem retire (h : l.Tallied) (live : l.state id = .queued ∨ l.state id = .mixing) :
    Moves l 0 (fun x => if x = id then .retired else l.state x) (l.retire id) := by
  obtain ⟨r, hr, now⟩ := exists_find? (l := l) (x := id) (by rcases live with e | e <;> simp [e])
  rw [now] at live
  unfold Ledger.retire
  rw [hr, Option.any_some, if_pos (by rcases live with e | e <;> simp [e])]
  refine (h.update (t := { l.totals with retired := l.totals.retired + 1 }) ?_ hr rfl rfl
    ?_ ?_).congr ?_
  · intro r
    split <;> rfl
  · rcases live with e | e <;> simp [e]
  · rcases live with e | e <;> simp [e]
  · intro x
    rcases live with e | e <;> simp [e]

theorem discard (h : l.Tallied) (fresh : l.state id = .generating) (why : Failure) :
    Moves l 0 (fun x => if x = id then .discarded else l.state x) (l.discard id why) := by
  obtain ⟨r, hr, now⟩ := exists_find? (by rw [fresh]; nofun)
  rw [now] at fresh
  unfold Ledger.discard
  rw [hr, Option.any_some, if_pos (by simp [fresh])]
  refine h.update (f := fun r => { r with state := .discarded, failure := some why })
    (t := { l.totals with discarded := l.totals.discarded + 1 }) ?_ hr rfl rfl ?_ ?_
  · exact fun _ => rfl
  · simp [fresh]
  · simp [fresh]

theorem setState_queued (h : l.Tallied) (fresh : l.state id = .generating) :
    Moves l 0 (fun x => if x = id then .queued else l.state x) (l.setState id .queued) := by
  obtain ⟨r, hr, now⟩ := exists_find? (by rw [fresh]; nofun)
  rw [now] at fresh
  refine (h.update ?_ hr rfl rfl ?_ ?_).congr ?_
  · intro r
    split <;> rfl
  · simp [fresh]
  · simp [fresh]
  · intro x
    simp [fresh]

end Tallied

def settled : Except GenerationError Report → CueState
  | .ok report => if report.frames = 0 then .discarded else .queued
  | .error _ => .discarded

namespace Tallied

theorem settle (h : l.Tallied) (fresh : l.state id = .generating)
    (result : Except GenerationError Report) :
    Moves l 0 (fun x => if x = id then settled result else l.state x) (l.settle id result) := by
  cases result with
  | error e => exact h.discard fresh _
  | ok report =>
    obtain ⟨r, hr, now⟩ := exists_find? (by rw [fresh]; nofun)
    have told : Moves l 0 l.state (l.update id fun r =>
        { r with speed := some report.speed, frames := report.frames
                 failure := report.fault.map Failure.decode }) := by
      refine (h.update ?_ hr rfl rfl ?_ ?_).congr ?_
      · exact fun _ => rfl
      · rfl
      · rfl
      · intro x
        by_cases e : x = id <;> simp [e, now]
    have still := (told.state_eq id).trans fresh
    rw [Ledger.settle, settled]
    split
    · apply (told.trans (told.tallied.discard still _)).congr
      intro x
      rw [told.state_eq]
    · apply (told.trans (told.tallied.setState_queued still)).congr
      intro x
      rw [told.state_eq]

theorem touchAll (h : l.Tallied) (ids : List CueId) :
    Moves l 0 (fun x => if x ∈ ids ∧ l.state x = .queued then .mixing else l.state x)
      (ids.foldl Ledger.touch l) := by
  induction ids generalizing l with
  | nil => exact h.stay.congr fun x => by simp
  | cons id ids ih =>
    -- A cue told again is mixing by now and stays so.
    have one := h.touch id
    apply (one.trans (ih one.tallied)).congr
    intro x
    rw [one.state_eq]
    by_cases e : x = id <;> by_cases q : l.state x = .queued <;> simp_all

theorem retireAll (h : l.Tallied) {ids : List CueId} (nodup : ids.Nodup)
    (live : ∀ x ∈ ids, l.state x = .queued ∨ l.state x = .mixing) :
    Moves l 0 (fun x => if x ∈ ids then .retired else l.state x) (ids.foldl Ledger.retire l) := by
  induction ids generalizing l with
  | nil => exact h.stay.congr fun x => by simp
  | cons id ids ih =>
    obtain ⟨once, nodup⟩ := List.nodup_cons.mp nodup
    have one := h.retire (live id List.mem_cons_self)
    have rest := ih one.tallied nodup fun x mem => by
      have other : x ≠ id := fun e => once (e ▸ mem)
      rw [one.state_eq, if_neg other]
      exact live x (List.mem_cons_of_mem _ mem)
    apply (one.trans rest).congr
    intro x
    rw [one.state_eq]
    by_cases e : x = id <;> simp [e]

end Tallied

section Blind

variable {α : Type} {g : Record → α}

def Blind (g : Record → α) : Prop := ∀ r state failure, g { r with state, failure } = g r

theorem map_update (h : ∀ r, g (f r) = g r) (l : Ledger) (id : CueId) :
    (l.update id f).records.map g = l.records.map g := by
  refine (List.map_map).trans (List.map_congr_left ?_)
  intro r _
  dsimp only [Function.comp_apply]
  split
  · exact h r
  · rfl

namespace Blind

theorem discard (h : Blind g) (l : Ledger) (id : CueId) (why : Failure) :
    (l.discard id why).records.map g = l.records.map g := by
  unfold Ledger.discard
  split
  · exact map_update (fun r => h r .discarded (some why)) l id
  · rfl

theorem setState (h : Blind g) (l : Ledger) (id : CueId) (s : CueState) :
    (l.setState id s).records.map g = l.records.map g := by
  apply map_update
  intro r
  split
  · rfl
  · exact h r s r.failure

theorem touch (h : Blind g) (l : Ledger) (id : CueId) :
    (l.touch id).records.map g = l.records.map g := by
  unfold Ledger.touch
  split
  · exact h.setState ..
  · rfl

theorem retire (h : Blind g) (l : Ledger) (id : CueId) :
    (l.retire id).records.map g = l.records.map g := by
  unfold Ledger.retire
  split
  · exact h.setState ..
  · rfl

theorem foldl (step : Ledger → CueId → Ledger)
    (h : ∀ l id, (step l id).records.map g = l.records.map g) (ids : List CueId) (l : Ledger) :
    (ids.foldl step l).records.map g = l.records.map g := by
  induction ids generalizing l with
  | nil => rfl
  | cons id ids ih => exact (ih (step l id)).trans (h l id)

end Blind

end Blind

end Ledger

end Overdub
