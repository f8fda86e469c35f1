import Overdub.Proofs.Dubbing.Ledger
import Overdub.Proofs.Playback.Renumber

/-!
Ledgers that tell the same of the same cues under other numbers. One of them may know further cues
that were given up; every operation on a cue of the other keeps the match.
-/

namespace Overdub

def Record.renumber (ρ : CueId → CueId) (r : Record) : Record := { r with id := ρ r.id }

namespace Ledger

variable {l m : Ledger} {id x : CueId} {f : Record → Record} {ρ : CueId → CueId}

theorem find?_update_of_ne (hf : ∀ r, (f r).id = r.id) (other : x ≠ id) :
    (l.update id f).find? x = l.find? x := by
  rw [find?_update hf]
  simp [other]

theorem Tallied.find?_add (h : l.Tallied) (cue : Cue) (x : CueId) :
    (l.add cue).find? x = if x = l.nextId then some { id := l.nextId, cue } else l.find? x := by
  have found : (l.add cue).find? x =
      (l.find? x).or ([{ id := l.nextId, cue }].find? (·.id = x)) := List.find?_append
  rw [found]
  split
  · next e =>
    rw [e, h.find?_eq_none (Nat.le_refl _), Option.none_or, List.find?_cons_of_pos (by simp)]
  · next e =>
    rw [List.find?_cons_of_neg (by simpa using Ne.symm e), List.find?_nil, Option.or_none]

structure Matches (ρ : CueId → CueId) (l m : Ledger) : Prop where
  renumbers : Renumbers ρ l.nextId m.nextId
  find?_eq : ∀ x < l.nextId, m.find? (ρ x) = (l.find? x).map (·.renumber ρ)
  mixed_eq : m.totals.mixed = l.totals.mixed
  retired_eq : m.totals.retired = l.totals.retired
  frames_eq : m.totals.frames = l.totals.frames

structure Apart (l : Ledger) (id : CueId) (m : Ledger) : Prop where
  nextId_eq : m.nextId = l.nextId
  find?_eq : ∀ x, x ≠ id → m.find? x = l.find? x
  mixed_eq : m.totals.mixed = l.totals.mixed
  retired_eq : m.totals.retired = l.totals.retired
  frames_eq : m.totals.frames = l.totals.frames

namespace Apart

theorem trans {k : Ledger} (a : Apart l id m) (b : Apart m id k) : Apart l id k where
  nextId_eq := b.nextId_eq.trans a.nextId_eq
  find?_eq x other := (b.find?_eq x other).trans (a.find?_eq x other)
  mixed_eq := b.mixed_eq.trans a.mixed_eq
  retired_eq := b.retired_eq.trans a.retired_eq
  frames_eq := b.frames_eq.trans a.frames_eq

theorem update (l : Ledger) (id : CueId) (hf : ∀ r, (f r).id = r.id) : Apart l id (l.update id f) where
  nextId_eq := rfl
  find?_eq _ other := find?_update_of_ne hf other
  mixed_eq := rfl
  retired_eq := rfl
  frames_eq := rfl

theorem discard (l : Ledger) (id : CueId) (why : Failure) : Apart l id (l.discard id why) := by
  unfold Ledger.discard
  split
  · have change := update l id (f := fun r => { r with state := .discarded, failure := some why })
      fun _ => rfl
    exact ⟨rfl, change.find?_eq, rfl, rfl, rfl⟩
  · exact ⟨rfl, fun _ _ => rfl, rfl, rfl, rfl⟩

theorem setState (l : Ledger) (id : CueId) (s : CueState) : Apart l id (l.setState id s) :=
  update l id fun r => by split <;> rfl

theorem settle (l : Ledger) (id : CueId) (result : Except GenerationError Report) :
    Apart l id (l.settle id result) := by
  unfold Ledger.settle
  split
  · exact discard l id _
  · next report =>
    have told := update l id (f := fun r => { r with
      speed := some report.speed, frames := report.frames, failure := report.fault.map .decode })
      fun _ => rfl
    dsimp only
    split
    · exact told.trans (discard _ id _)
    · exact told.trans (setState _ id _)

end Apart

namespace Matches

theorem update (h : Matches ρ l m) (hx : x < l.nextId) (hid : ∀ r, (f r).id = r.id)
    (hf : ∀ r, f (r.renumber ρ) = (f r).renumber ρ) :
    Matches ρ (l.update x f) (m.update (ρ x) f) where
  renumbers := h.renumbers
  find?_eq y hy := by
    rw [find?_update hid, find?_update hid, h.find?_eq y hy, Option.map_map, Option.map_map]
    congr 1
    funext r
    have same := h.renumbers.eq_iff hy hx
    by_cases e : y = x
    · simp [e, hf]
    · simp [e, same]
  mixed_eq := h.mixed_eq
  retired_eq := h.retired_eq
  frames_eq := h.frames_eq

theorem withTotals (h : Matches ρ l m) {t u : Totals} (mixed : u.mixed = t.mixed)
    (retired : u.retired = t.retired) (frames : u.frames = t.frames) :
    Matches ρ { l with totals := t } { m with totals := u } :=
  ⟨h.renumbers, h.find?_eq, mixed, retired, frames⟩

theorem any_eq (h : Matches ρ l m) (hx : x < l.nextId) {p : Record → Bool}
    (hp : ∀ r, p (r.renumber ρ) = p r) : (m.find? (ρ x)).any p = (l.find? x).any p := by
  rw [h.find?_eq x hx, Option.any_map]
  congr 1
  funext r
  exact hp r

theorem state_eq (h : Matches ρ l m) (hx : x < l.nextId) : m.state (ρ x) = l.state x := by
  unfold state
  rw [h.find?_eq x hx]
  cases l.find? x <;> rfl

theorem discard (h : Matches ρ l m) (hx : x < l.nextId) (why : Failure) :
    Matches ρ (l.discard x why) (m.discard (ρ x) why) := by
  unfold Ledger.discard
  rw [h.any_eq hx fun _ => rfl]
  split
  · have given := h.update (f := fun r => { r with state := .discarded, failure := some why }) hx
      (fun _ => rfl) fun _ => rfl
    exact given.withTotals h.mixed_eq h.retired_eq h.frames_eq
  · exact h

theorem setState (h : Matches ρ l m) (hx : x < l.nextId) (s : CueState) :
    Matches ρ (l.setState x s) (m.setState (ρ x) s) := by
  refine h.update hx ?_ ?_
  · intro r
    split <;> rfl
  · intro r
    by_cases e : r.state = .discarded <;> simp [Record.renumber, e]

theorem touch (h : Matches ρ l m) (hx : x < l.nextId) : Matches ρ (l.touch x) (m.touch (ρ x)) := by
  unfold Ledger.touch
  rw [h.state_eq hx]
  split
  · exact h.setState hx _
  · exact h

theorem retire (h : Matches ρ l m) (hx : x < l.nextId) :
    Matches ρ (l.retire x) (m.retire (ρ x)) := by
  unfold Ledger.retire
  rw [h.any_eq hx fun _ => rfl]
  split
  · exact (h.setState hx _).withTotals h.mixed_eq (congrArg (· + 1) h.retired_eq) h.frames_eq
  · exact h

theorem settle (h : Matches ρ l m) (hx : x < l.nextId) (result : Except GenerationError Report) :
    Matches ρ (l.settle x result) (m.settle (ρ x) result) := by
  unfold Ledger.settle
  split
  · exact h.discard hx _
  · next report =>
    have told := h.update (f := fun r => { r with
      speed := some report.speed, frames := report.frames, failure := report.fault.map .decode })
      hx (fun _ => rfl) fun _ => rfl
    dsimp only
    split
    · exact told.discard hx _
    · exact told.setState hx _

theorem foldl {op : Ledger → CueId → Ledger} (nextId : ∀ l x, (op l x).nextId = l.nextId)
    (step : ∀ {l m : Ledger} {x : CueId}, Matches ρ l m → x < l.nextId →
      Matches ρ (op l x) (op m (ρ x)))
    (h : Matches ρ l m) {xs : List CueId} (hx : ∀ x ∈ xs, x < l.nextId) :
    Matches ρ (xs.foldl op l) ((xs.map ρ).foldl op m) ∧ (xs.foldl op l).nextId = l.nextId := by
  induction xs generalizing l m with
  | nil => exact ⟨h, rfl⟩
  | cons x xs ih =>
    have rest : ∀ y ∈ xs, y < (op l x).nextId := by
      intro y mem
      rw [nextId]
      exact hx y (List.mem_cons_of_mem _ mem)
    obtain ⟨matched, same⟩ := ih (step h (hx x List.mem_cons_self)) rest
    exact ⟨matched, same.trans (nextId l x)⟩

theorem nextId_touch (l : Ledger) (x : CueId) : (l.touch x).nextId = l.nextId := by
  unfold Ledger.touch
  split <;> rfl

theorem nextId_retire (l : Ledger) (x : CueId) : (l.retire x).nextId = l.nextId := by
  unfold Ledger.retire
  split <;> rfl

theorem add (h : Matches ρ l m) (hl : l.Tallied) (hm : m.Tallied) (e : ρ l.nextId = m.nextId)
    (cue : Cue) : Matches ρ (l.add cue) (m.add cue) where
  renumbers := h.renumbers.next e
  find?_eq x hx := by
    rw [hl.find?_add, hm.find?_add]
    rcases Nat.lt_succ_iff_lt_or_eq.mp hx with below | rfl
    · rw [if_neg (Nat.ne_of_lt below), if_neg (Nat.ne_of_lt (h.renumbers.lt x below)),
        h.find?_eq x below]
    · rw [if_pos rfl, if_pos e, ← e]
      rfl
  mixed_eq := h.mixed_eq
  retired_eq := h.retired_eq
  frames_eq := h.frames_eq

theorem addApart (h : Matches ρ l m) (hm : m.Tallied) {cue : Cue} {k : Ledger}
    (a : Apart (m.add cue) m.nextId k) : Matches ρ l k where
  renumbers := by
    rw [a.nextId_eq]
    exact h.renumbers.skip
  find?_eq x hx := by
    have below := h.renumbers.lt x hx
    rw [a.find?_eq _ (Nat.ne_of_lt below), hm.find?_add, if_neg (Nat.ne_of_lt below), h.find?_eq x hx]
  mixed_eq := a.mixed_eq.trans h.mixed_eq
  retired_eq := a.retired_eq.trans h.retired_eq
  frames_eq := a.frames_eq.trans h.frames_eq

end Matches

end Ledger

end Overdub
