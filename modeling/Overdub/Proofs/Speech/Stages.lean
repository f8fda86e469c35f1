import Overdub.Proofs.Speech.Converter
import Overdub.Proofs.Speech.Stretch

/-!
The stages of a fitter in a row: to the working rate, through the stretch if there is one, to the
rate of the stream. Pushing a stream bit by bit and flushing it gives what each stage makes of the
whole output of the one before.
-/

namespace Overdub

def RateConverter.whole (c : RateConverter) (xs : List Float32) : List Float32 :=
  (c.push xs).1 ++ (c.push xs).2.flush.1

namespace Stretch

def whole (s : Stretch) (xs : List Float32) : List Float32 :=
  (s.push xs).1 ++ (s.push xs).2.flush.1

def push? : Option Stretch → List Float32 → List Float32 × Option Stretch
  | none, xs => (xs, none)
  | some s, xs => ((s.push xs).1, some (s.push xs).2)

def flush? : Option Stretch → List Float32
  | none => []
  | some s => s.flush.1

def whole? : Option Stretch → List Float32 → List Float32
  | none, xs => xs
  | some s, xs => s.whole xs

theorem push?_append {s : Option Stretch} (h : ∀ t ∈ s, t.Steady) (xs ys : List Float32) :
    push? s (xs ++ ys) =
      ((push? s xs).1 ++ (push? (push? s xs).2 ys).1, (push? (push? s xs).2 ys).2) := by
  cases s with
  | none => rfl
  | some t => simp only [push?, push_append (h t rfl)]

theorem steady_push? {s : Option Stretch} (h : ∀ t ∈ s, t.Steady) (xs : List Float32) :
    ∀ t ∈ (push? s xs).2, t.Steady := by
  cases s with
  | none => exact h
  | some s =>
    intro t mem
    cases mem
    exact (h s rfl).push xs

theorem whole?_eq (s : Option Stretch) (xs : List Float32) :
    whole? s xs = (push? s xs).1 ++ flush? (push? s xs).2 := by
  cases s with
  | none => exact (List.append_nil xs).symm
  | some s => rfl

end Stretch

structure Stages where
  inward : RateConverter
  stretch : Option Stretch
  outward : RateConverter

namespace Stages

open Stretch (push? flush? whole?)

def push (c : Stages) (xs : List Float32) : List Float32 × Stages :=
  let inward := c.inward.push xs
  let stretch := push? c.stretch inward.1
  let outward := c.outward.push stretch.1
  (outward.1, ⟨inward.2, stretch.2, outward.2⟩)

def flush (c : Stages) : List Float32 :=
  let stretch := push? c.stretch c.inward.flush.1
  let outward := c.outward.push (stretch.1 ++ flush? stretch.2)
  outward.1 ++ outward.2.flush.1

def flushed (c : Stages) : Stages :=
  let stretch := push? c.stretch c.inward.flush.1
  let outward := c.outward.push (stretch.1 ++ flush? stretch.2)
  ⟨c.inward.flush.2, stretch.2.map (·.flush.2), outward.2.flush.2⟩

def whole (c : Stages) (xs : List Float32) : List Float32 := (c.push xs).1 ++ (c.push xs).2.flush

def Steady (c : Stages) : Prop := ∀ s ∈ c.stretch, s.Steady

variable {c : Stages}

theorem Steady.push (h : c.Steady) (xs : List Float32) : (c.push xs).2.Steady :=
  Stretch.steady_push? h _

theorem push_append (h : c.Steady) (xs ys : List Float32) :
    c.push (xs ++ ys) = ((c.push xs).1 ++ ((c.push xs).2.push ys).1, ((c.push xs).2.push ys).2) := by
  simp only [Stages.push, RateConverter.push_append, Stretch.push?_append h]

def Still (c : Stages) : Prop := c.push [] = ([], c)

theorem still_push (h : c.Steady) (xs : List Float32) : (c.push xs).2.Still := by
  have twice := push_append h xs []
  rw [List.append_nil] at twice
  have out := congrArg Prod.fst twice
  have rest := congrArg Prod.snd twice
  exact Prod.ext (List.append_right_eq_self.mp out.symm) rest.symm

theorem whole_eq (h : c.Steady) (xs : List Float32) :
    c.whole xs = c.outward.whole (whole? c.stretch (c.inward.whole xs)) := by
  simp only [Stretch.whole?_eq, RateConverter.whole]
  rw [Stretch.push?_append h, List.append_assoc, RateConverter.push_append]
  simp only [whole, Stages.push, Stages.flush, List.append_assoc]

end Stages

end Overdub
