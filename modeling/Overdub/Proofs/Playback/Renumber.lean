import Overdub.Proofs.Playback.Mix

/-!
Other numbers for the same cues. As long as different cues keep different numbers, a mixer lays the
same speech whatever its cues are called.
-/

namespace Overdub

/-- `ρ` gives the cues below `n` different numbers below `m`. -/
structure Renumbers (ρ : CueId → CueId) (n m : CueId) : Prop where
  lt : ∀ x < n, ρ x < m
  inj : ∀ x < n, ∀ y < n, ρ x = ρ y → x = y

namespace Renumbers

variable {ρ : CueId → CueId} {n m : CueId}

theorem zero (ρ : CueId → CueId) : Renumbers ρ 0 0 := ⟨nofun, nofun⟩

theorem eq_iff (h : Renumbers ρ n m) {x y : CueId} (hx : x < n) (hy : y < n) :
    ρ x = ρ y ↔ x = y :=
  ⟨h.inj x hx y hy, congrArg ρ⟩

theorem map_eq_some_iff (h : Renumbers ρ n m) {o : Option CueId} (ho : ∀ x ∈ o, x < n) {y : CueId}
    (hy : y < n) : o.map ρ = some (ρ y) ↔ o = some y := by
  cases o with
  | none => simp
  | some x => simpa using h.eq_iff (ho x rfl) hy

theorem skip (h : Renumbers ρ n m) : Renumbers ρ n (m + 1) :=
  ⟨fun x hx => Nat.lt_succ_of_lt (h.lt x hx), h.inj⟩

theorem next (h : Renumbers ρ n m) (e : ρ n = m) : Renumbers ρ (n + 1) (m + 1) where
  lt x hx := by
    rcases Nat.lt_succ_iff_lt_or_eq.mp hx with below | rfl
    · exact Nat.lt_succ_of_lt (h.lt x below)
    · exact e ▸ Nat.lt_succ_self _
  inj x hx y hy same := by
    rcases Nat.lt_succ_iff_lt_or_eq.mp hx with below | rfl <;>
      rcases Nat.lt_succ_iff_lt_or_eq.mp hy with below' | rfl
    · exact h.inj x below y below' same
    · exact absurd (same.trans e) (Nat.ne_of_lt (h.lt x below))
    · exact absurd (same.symm.trans e) (Nat.ne_of_lt (h.lt y below'))
    · rfl

end Renumbers

def QueuedFrame.renumber (ρ : CueId → CueId) (f : QueuedFrame) : QueuedFrame :=
  { f with cue := ρ f.cue }

namespace Queue

def renumber (ρ : CueId → CueId) (q : Queue) : Queue :=
  { q with frames := q.frames.map (·.renumber ρ) }

variable {ρ : CueId → CueId}

theorem renumber_popMany (q : Queue) (n : Nat) :
    (q.renumber ρ).popMany n = (q.popMany n).renumber ρ :=
  map_popMany (·.renumber ρ) (fun _ => rfl) q n

theorem renumber_pushAll (id : CueId) (made : List Frame) (q : Queue) :
    (made.foldl (fun q x => q.push ⟨id, x⟩) q).renumber ρ =
      made.foldl (fun q x => q.push ⟨ρ id, x⟩) (q.renumber ρ) :=
  map_pushAll (·.renumber ρ) (fun _ => rfl) (⟨id, ·⟩) made q

end Queue

def MixError.renumber (ρ : CueId → CueId) : MixError → MixError
  | .formatMismatch cue expected channels found foundChannels =>
    .formatMismatch (ρ cue) expected channels found foundChannels
  | e => e

namespace Mixer

def Outcome.renumber (ρ : CueId → CueId) (o : Outcome) : Outcome :=
  { o with touched := o.touched.map ρ, retired := o.retired.map ρ }

def renumberResult (ρ : CueId → CueId) (r : Except MixError Outcome) : Except MixError Outcome :=
  (r.map (·.renumber ρ)).mapError (·.renumber ρ)

theorem renumberResult_ok (ρ : CueId → CueId) (o : Outcome) :
    renumberResult ρ (.ok o) = .ok (o.renumber ρ) := rfl

def Pass.renumber {k : Kind} {c : Nat} (ρ : CueId → CueId) (p : Pass k c) : Pass k c :=
  { p with frames := p.frames.map (·.renumber ρ), outcome := renumberResult ρ p.outcome }

variable {ρ : CueId → CueId} {n m : CueId}

theorem renumber_after {k : Kind} {c : Nat} (head : List (Slice k c)) (touched retired : List CueId)
    (p : Pass k c) : (p.after head touched retired).renumber ρ =
      (p.renumber ρ).after head (touched.map ρ) (retired.map ρ) := by
  obtain ⟨slices, frames, offset, _ | o⟩ := p
  · rfl
  · simp [Pass.after, Pass.renumber, renumberResult_ok, Outcome.renumber, Except.map]

theorem overlay_renumber (h : Renumbers ρ n m) (g : Gains) (fmt : Format) (c : Nat)
    (slices : List (Slice fmt.kind c)) (offset : Nat) {last : Option CueId} (hl : ∀ x ∈ last, x < n)
    {frames : List QueuedFrame} (hf : ∀ f ∈ frames, f.cue < n) :
    overlay g fmt c slices offset (last.map ρ) (frames.map (·.renumber ρ)) =
      (overlay g fmt c slices offset last frames).renumber ρ := by
  induction frames generalizing slices offset last with
  | nil => rfl
  | cons f frames ih =>
    have below := hf f List.mem_cons_self
    have same := h.map_eq_some_iff hl below
    have cue : (frames.map (·.renumber ρ)).head?.map (·.cue) = (frames.head?.map (·.cue)).map ρ := by
      cases frames <;> rfl
    have first : ∀ x ∈ frames.head?.map (·.cue), x < n := by
      intro x mem
      obtain ⟨g, front, rfl⟩ := Option.map_eq_some_iff.mp mem
      exact hf g (List.mem_cons_of_mem _ (List.mem_of_mem_head? front))
    have next := h.map_eq_some_iff first below
    rw [← cue] at next
    rw [List.map_cons, overlay, overlay]
    dsimp only [QueuedFrame.renumber]
    cases f.frame.slicesAs? fmt c with
    | none => rfl
    | some speech =>
      dsimp only
      generalize slices.zipWith (Slice.mix g) (speech.drop offset) = head
      have heard : (if head.isEmpty ∨ last.map ρ = some (ρ f.cue) then [] else [ρ f.cue]) =
          (if head.isEmpty ∨ last = some f.cue then [] else [f.cue]).map ρ := by
        simp only [same]
        split <;> rfl
      have after : (if head.isEmpty then last.map ρ else some (ρ f.cue)) =
          (if head.isEmpty then last else some f.cue).map ρ := by
        split <;> rfl
      have ended : (if (frames.map (·.renumber ρ)).head?.map (·.cue) = some (ρ f.cue) then []
          else [ρ f.cue]) = (if frames.head?.map (·.cue) = some f.cue then [] else [f.cue]).map ρ := by
        simp only [next]
        split <;> rfl
      have known : ∀ x ∈ (if head.isEmpty then last else some f.cue), x < n := by
        intro x mem
        split at mem
        · exact hl x mem
        · cases mem
          exact below
      have rest := ih (slices.drop head.length) 0 known fun f mem => hf f (List.mem_cons_of_mem _ mem)
      by_cases past : speech.length < offset
      · rw [if_pos past, if_pos past]
        rfl
      · rw [if_neg past, if_neg past]
        by_cases more : offset + head.length < speech.length
        · rw [if_pos more, if_pos more]
          change Pass.mk _ _ _ (.ok ⟨_, if head.isEmpty ∨ last.map ρ = some (ρ f.cue) then [] else [ρ f.cue], _⟩) = _
          rw [heard]
          rfl
        · rw [if_neg more, if_neg more, renumber_after, ← heard, ← ended]
          change Pass.after head _ _ (if _ then _ else _) = _
          congr 1
          split
          · rfl
          · rw [← rest, ← after]
            rfl

theorem due_renumber (ρ : CueId → CueId) (q : Queue) (tb : TimeBase) (now : Int) :
    due (q.renumber ρ) tb now = due q tb now := by
  obtain ⟨_ | ⟨f, frames⟩, samples⟩ := q <;> rfl

theorem mix_renumber (h : Renumbers ρ n m) (mixer : Mixer) (frame : Frame) (now : Int) {q : Queue}
    (hq : ∀ f ∈ q.frames, f.cue < n) :
    let r := mixer.mix frame now q
    mixer.mix frame now (q.renumber ρ) =
      (renumberResult ρ r.1, r.2.1, r.2.2.1, r.2.2.2.renumber ρ) := by
  unfold mix
  rw [due_renumber]
  split
  · split
    · have unheard : ∀ x ∈ (none : Option CueId), x < n := nofun
      have pass := overlay_renumber h mixer.gains frame.stream.format frame.stream.channels
        frame.slices mixer.offset unheard hq
      have frames : (q.renumber ρ).frames = q.frames.map (·.renumber ρ) := rfl
      rw [Option.map_none] at pass
      rw [frames, pass]
      dsimp only [Pass.renumber]
      rw [List.length_map, List.length_map, Queue.renumber_popMany]
    · rfl
  · rfl

end Mixer

end Overdub
