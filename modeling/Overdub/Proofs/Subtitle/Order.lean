import Mathlib.Data.List.TakeDrop
import Overdub.Subtitle.Track

/-!
The order of a track. Cues stand in order of time, those of one moment in the order in which they
were given, so the cues that are due at a moment are the first ones; pulling one cue after another
ends and hands out just these.
-/

namespace Overdub

namespace Duration

theorem le_trans {a b c : Duration} (h : a ≤ b) (h' : b ≤ c) : a ≤ c := Nat.le_trans h h'

theorem le_total (a b : Duration) : a ≤ b ∨ b ≤ a := Nat.le_total a.nanos b.nanos

theorem exists_latest {times : List Duration} (some : times ≠ []) :
    ∃ latest ∈ times, ∀ t ∈ times, t ≤ latest := by
  induction times with
  | nil => exact absurd rfl some
  | cons t times ih =>
    by_cases none : times = []
    · subst none
      refine ⟨t, List.mem_cons_self, ?_⟩
      intro s mem
      cases List.mem_singleton.mp mem
      exact Nat.le_refl _
    · obtain ⟨latest, mem, last⟩ := ih none
      rcases le_total t latest with le | le
      · exact ⟨latest, List.mem_cons_of_mem _ mem, List.forall_mem_cons.mpr ⟨le, last⟩⟩
      · refine ⟨t, List.mem_cons_self, List.forall_mem_cons.mpr ⟨Nat.le_refl _, ?_⟩⟩
        exact fun s mem => le_trans (last s mem) le

end Duration

namespace Cue

abbrev Sorted (cues : List Cue) : Prop := cues.Pairwise (·.start ≤ ·.start)

/-- `track` holds the cues of `cues` in order of time; cues of one moment stay in the order that
they have in `cues`. -/
structure InOrder (cues track : List Cue) : Prop where
  sorted : Sorted track
  stable : ∀ t, track.filter (·.start = t) = cues.filter (·.start = t)

namespace InOrder

variable {cues track : List Cue}

theorem filter (h : InOrder cues track) (p : Cue → Bool) :
    InOrder (cues.filter p) (track.filter p) where
  sorted := h.sorted.filter p
  stable t := by
    have swap : ∀ l : List Cue,
        (l.filter p).filter (·.start = t) = (l.filter (·.start = t)).filter p := by
      intro l
      simp only [List.filter_filter, Bool.and_comm]
    rw [swap, h.stable, swap]

theorem perm (h : InOrder cues track) : track.Perm cues := by
  rw [List.perm_iff_count]
  intro c
  have own : ∀ l : List Cue, (l.filter (·.start = c.start)).count c = l.count c :=
    fun l => List.count_filter (decide_eq_true rfl)
  rw [← own track, h.stable, own]

end InOrder

end Cue

namespace Subtitle.Track

open Cue (Sorted InOrder)

theorem ofCues_inOrder (cues : List Cue) :
    InOrder (cues.filter (!·.isBlank)) (ofCues cues).cues := by
  have trans : ∀ a b c : Cue, decide (a.start ≤ b.start) = true → decide (b.start ≤ c.start) = true →
      decide (a.start ≤ c.start) = true := by
    intro a b c h h'
    exact decide_eq_true (Duration.le_trans (of_decide_eq_true h) (of_decide_eq_true h'))
  have total : ∀ a b : Cue, (decide (a.start ≤ b.start) || decide (b.start ≤ a.start)) = true := by
    intro a b
    simpa using Duration.le_total a.start b.start
  unfold ofCues
  generalize cues.filter (!·.isBlank) = given
  have perm := List.mergeSort_perm given fun a b => a.start ≤ b.start
  refine ⟨(List.pairwise_mergeSort trans total given).imp of_decide_eq_true, ?_⟩
  intro t
  -- What is given for `t` is in order as it stands, so sorting keeps it as a sublist.
  have level : (given.filter (·.start = t)).Pairwise fun a b => decide (a.start ≤ b.start) = true := by
    rw [List.pairwise_filter]
    refine List.pairwise_of_forall ?_
    intro a b ha hb
    simp only [decide_eq_true_eq] at ha hb ⊢
    rw [ha, hb]
    exact Nat.le_refl _
  have kept := (List.sublist_mergeSort trans total level List.filter_sublist).filter (·.start = t)
  rw [List.filter_filter] at kept
  simp only [Bool.and_self] at kept
  exact (kept.eq_of_length (perm.filter _).length_eq.symm).symm

theorem span_due {cues : List Cue} (sorted : Sorted cues) (now : Duration) :
    cues.span (·.isDue now) = (cues.filter (·.isDue now), cues.filter (!·.isDue now)) := by
  rw [List.span_eq_takeWhile_dropWhile]
  induction cues with
  | nil => rfl
  | cons c cues ih =>
    obtain ⟨first, sorted⟩ := List.pairwise_cons.mp sorted
    obtain ⟨take, drop⟩ := Prod.mk.inj (ih sorted)
    by_cases due : c.isDue now
    · simp [due, take, drop]
    · have late : ∀ d ∈ cues, ¬ d.isDue now := by
        intro d mem now_due
        exact due (decide_eq_true (Duration.le_trans (first d mem) (of_decide_eq_true now_due)))
      have none : cues.filter (·.isDue now) = [] := List.filter_eq_nil_iff.mpr late
      have all : cues.filter (!·.isDue now) = cues := by simpa using late
      simp [due, none, all]

theorem length_pull_lt {t u : Track} {now : Duration} {c : Cue} (h : t.pull now = (some c, u)) :
    u.cues.length < t.cues.length := by
  obtain ⟨_ | ⟨d, cues⟩⟩ := t
  · cases h
  · unfold pull at h
    dsimp only at h
    split at h <;> cases h
    exact Nat.lt_succ_self _

def pullAll (t : Track) (now : Duration) : List Cue × Track :=
  match _h : t.pull now with
  | (none, t) => ([], t)
  | (some c, t) => (c :: (t.pullAll now).1, (t.pullAll now).2)
termination_by t.cues.length
decreasing_by all_goals exact length_pull_lt _h

theorem pullAll_of_none {t u : Track} {now : Duration} (h : t.pull now = (none, u)) :
    t.pullAll now = ([], u) := by
  rw [pullAll]
  split <;> simp_all

theorem pullAll_of_some {t u : Track} {now : Duration} {c : Cue} (h : t.pull now = (some c, u)) :
    t.pullAll now = (c :: (u.pullAll now).1, (u.pullAll now).2) := by
  rw [pullAll]
  split <;> simp_all

theorem pullAll_eq (t : Track) (now : Duration) :
    t.pullAll now = ((t.cues.span (·.isDue now)).1, ⟨(t.cues.span (·.isDue now)).2⟩) := by
  obtain ⟨cues⟩ := t
  rw [List.span_eq_takeWhile_dropWhile]
  induction cues with
  | nil => exact pullAll_of_none rfl
  | cons c cues ih =>
    by_cases due : c.isDue now
    · have pulled : pull ⟨c :: cues⟩ now = (some c, ⟨cues⟩) := if_pos due
      rw [pullAll_of_some pulled, ih]
      simp [due]
    · have pulled : pull ⟨c :: cues⟩ now = (none, ⟨c :: cues⟩) := if_neg due
      rw [pullAll_of_none pulled]
      simp [due]

end Subtitle.Track

end Overdub
