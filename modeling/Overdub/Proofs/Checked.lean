import Overdub.Number

/-!
Operations that are not defined everywhere. Each tells what it fails at: a place that is not there,
a cut inside a character, or a number that no machine word holds. Offsets into text count the bytes
of its characters.
-/

namespace Overdub.Checked

inductive Fault
  | place
  | boundary
  | overflow
  deriving DecidableEq, Repr

section Item

variable {α : Type} {xs : List α} {x : α} {i : Nat}

def item (xs : List α) (i : Nat) : Except Fault α :=
  match xs[i]? with
  | some x => .ok x
  | none => .error .place

def onward (xs : List α) (i : Nat) : Except Fault (List α) :=
  if i ≤ xs.length then .ok (xs.drop i) else .error .place

def slice (xs : List α) (i n : Nat) : Except Fault (List α) :=
  if i + n ≤ xs.length then .ok ((xs.drop i).take n) else .error .place

def part (xs : List α) (a b : Nat) : Except Fault (List α) :=
  if a ≤ b ∧ b ≤ xs.length then .ok ((xs.drop a).take (b - a)) else .error .place

theorem item_eq (found : xs[i]? = some x) : item xs i = .ok x := by
  rw [item, found]

theorem onward_eq (le : i ≤ xs.length) : onward xs i = .ok (xs.drop i) := if_pos le

theorem slice_eq {n : Nat} (le : i + n ≤ xs.length) : slice xs i n = .ok ((xs.drop i).take n) :=
  if_pos le

theorem part_eq {a n : Nat} (le : a + n ≤ xs.length) :
    part xs a (a + n) = .ok ((xs.drop a).take n) := by
  rw [part, if_pos ⟨Nat.le_add_right a n, le⟩, Nat.add_sub_cancel_left]

end Item

section Walk

variable {α β : Type} {xs : List α}

theorem ok_bind {f : α → Except Fault β} (a : α) : (Except.ok a >>= f) = f a := rfl

theorem mapM_eq {f : α → Except Fault β} {g : α → β} (h : ∀ x ∈ xs, f x = .ok (g x)) :
    xs.mapM f = .ok (xs.map g) := by
  induction xs with
  | nil => rfl
  | cons x xs ih =>
    rw [List.mapM_cons, h x List.mem_cons_self, ih fun x mem => h x (List.mem_cons_of_mem _ mem)]
    rfl

theorem mapM_eq_ok {f : α → Except Fault β} {ys : List β} (length : xs.length = ys.length)
    (h : ∀ (i : Nat) x y, xs[i]? = some x → ys[i]? = some y → f x = .ok y) :
    xs.mapM f = .ok ys := by
  induction xs generalizing ys with
  | nil =>
    cases ys with
    | nil => rfl
    | cons y ys => cases length
  | cons x xs ih =>
    cases ys with
    | nil => cases length
    | cons y ys =>
      rw [List.mapM_cons, h 0 x y rfl rfl, ih (Nat.succ.inj length) fun i => h (i + 1)]
      rfl

theorem foldlM_eq {f : β → α → Except Fault β} {g : β → α → β}
    (h : ∀ b, ∀ x ∈ xs, f b x = .ok (g b x)) (b : β) : xs.foldlM f b = .ok (xs.foldl g b) := by
  induction xs generalizing b with
  | nil => rfl
  | cons x xs ih =>
    rw [List.foldlM_cons, h b x List.mem_cons_self]
    exact ih (fun b x mem => h b x (List.mem_cons_of_mem _ mem)) (g b x)

/-- A loop that ends, and fails nowhere on the way. -/
inductive Loop {σ : Type} (body : σ → Except Fault (Option (List α × σ))) : σ → List α → σ → Prop
  | done {s} : body s = .ok none → Loop body s [] s
  | next {s t u xs ys} : body s = .ok (some (xs, t)) → Loop body t ys u → Loop body s (xs ++ ys) u

theorem Loop.unique {σ : Type} {body : σ → Except Fault (Option (List α × σ))} {s t u : σ}
    {ys : List α} (h : Loop body s xs t) (h' : Loop body s ys u) : xs = ys ∧ t = u := by
  induction h generalizing ys with
  | done stops =>
    cases h' with
    | done => exact ⟨rfl, rfl⟩
    | next goes =>
      rw [stops] at goes
      cases goes
  | next goes _ ih =>
    cases h' with
    | done stops =>
      rw [goes] at stops
      cases stops
    | next goes' rest =>
      rw [goes] at goes'
      cases goes'
      obtain ⟨rfl, rfl⟩ := ih rest
      exact ⟨rfl, rfl⟩

end Walk

section Word

def word (n : Nat) : Except Fault Nat := if n < 2 ^ 64 then .ok n else .error .overflow

def add (a b : Nat) : Except Fault Nat := word (a + b)

def mul (a b : Nat) : Except Fault Nat := word (a * b)

def pow (a b : Nat) : Except Fault Nat := word (a ^ b)

def sub (a b : Nat) : Except Fault Nat := if b ≤ a then .ok (a - b) else .error .overflow

variable {a b n : Nat}

theorem word_eq (fits : n < 2 ^ 64) : word n = .ok n := if_pos fits

theorem word_eq_overflow (exceeds : 2 ^ 64 ≤ n) : word n = .error .overflow :=
  if_neg (Nat.not_lt.mpr exceeds)

theorem add_eq (fits : a + b < 2 ^ 64) : add a b = .ok (a + b) := word_eq fits

theorem mul_eq (fits : a * b < 2 ^ 64) : mul a b = .ok (a * b) := word_eq fits

theorem pow_eq (fits : a ^ b < 2 ^ 64) : pow a b = .ok (a ^ b) := word_eq fits

theorem sub_eq (le : b ≤ a) : sub a b = .ok (a - b) := if_pos le

end Word

section Wide

def wide (n : Int) : Except Fault Int :=
  if -2 ^ 127 ≤ n ∧ n < 2 ^ 127 then .ok n else .error .overflow

def wideAdd (a b : Int) : Except Fault Int := wide (a + b)

def wideSub (a b : Int) : Except Fault Int := wide (a - b)

def wideMul (a b : Int) : Except Fault Int := wide (a * b)

def wideDiv (a b : Int) : Except Fault Int :=
  if b = 0 then .error .overflow else wide (a.tdiv b)

def wideRound (a b : Int) : Except Fault Int := do
  let half ← wideDiv b 2
  if 0 ≤ a then wideDiv (← wideAdd a half) b else wideDiv (← wideSub a half) b

variable {a b n : Int}

theorem wide_eq (fits : n.natAbs < 2 ^ 127) : wide n = .ok n := if_pos (by omega)

theorem wideAdd_eq (fits : (a + b).natAbs < 2 ^ 127) : wideAdd a b = .ok (a + b) := wide_eq fits

theorem wideSub_eq (fits : (a - b).natAbs < 2 ^ 127) : wideSub a b = .ok (a - b) := wide_eq fits

theorem wideMul_eq (fits : (a * b).natAbs < 2 ^ 127) : wideMul a b = .ok (a * b) := wide_eq fits

theorem wideDiv_eq (ne : b ≠ 0) (fits : a.natAbs < 2 ^ 127) : wideDiv a b = .ok (a.tdiv b) := by
  rw [wideDiv, if_neg ne, wide_eq (Nat.lt_of_le_of_lt (Int.natAbs_tdiv_le_natAbs a b) fits)]

theorem wideRound_eq {d : Nat} (pos : 0 < d) (fits : n.natAbs + d < 2 ^ 127) :
    wideRound n d = .ok (roundAway n d) := by
  have half : (d : Int).tdiv 2 = d / 2 := Int.tdiv_eq_ediv_of_nonneg (Int.natCast_nonneg d)
  rw [wideRound, wideDiv_eq (by decide) (by omega), ok_bind, half, roundAway]
  split
  · rw [wideAdd_eq (by omega), ok_bind, wideDiv_eq (by omega) (by omega),
      Int.tdiv_eq_ediv_of_nonneg (by omega)]
  · have flipped : n - d / 2 = -(-n + d / 2) := by omega
    rw [wideSub_eq (by omega), ok_bind, wideDiv_eq (by omega) (by omega), flipped, Int.neg_tdiv,
      Int.tdiv_eq_ediv_of_nonneg (by omega)]

end Wide

section Cut

variable {a b : List Char} {c : Char} {p : Char → Bool}

def bytes : List Char → Nat
  | [] => 0
  | c :: s => c.utf8Size + bytes s

def Narrow (s : List Char) : Prop := ∀ c ∈ s, c.utf8Size = 1

instance : DecidablePred Narrow := fun s =>
  List.decidableBAll (fun c : Char => c.utf8Size = 1) s

def cut : Nat → List Char → Except Fault (List Char × List Char)
  | 0, s => .ok ([], s)
  | _ + 1, [] => .error .place
  | n + 1, c :: s =>
    if c.utf8Size ≤ n + 1 then (cut (n + 1 - c.utf8Size) s).map fun p => (c :: p.1, p.2)
    else .error .boundary

def findLast? (p : Char → Bool) : List Char → Option Nat
  | [] => none
  | c :: s =>
    match findLast? p s with
    | some n => some (c.utf8Size + n)
    | none => if p c then some 0 else none

@[simp] theorem bytes_nil : bytes [] = 0 := rfl

@[simp] theorem bytes_cons (c : Char) (s : List Char) : bytes (c :: s) = c.utf8Size + bytes s := rfl

@[simp] theorem bytes_append (a b : List Char) : bytes (a ++ b) = bytes a + bytes b := by
  induction a with
  | nil => exact (Nat.zero_add _).symm
  | cons c a ih => rw [List.cons_append, bytes_cons, bytes_cons, ih, Nat.add_assoc]

theorem bytes_eq_length (narrow : Narrow a) : bytes a = a.length := by
  induction a with
  | nil => rfl
  | cons c a ih =>
    have rest := ih fun c mem => narrow c (List.mem_cons_of_mem _ mem)
    rw [bytes_cons, narrow c List.mem_cons_self, rest, List.length_cons, Nat.add_comm]

theorem cut_append (a b : List Char) : cut (bytes a) (a ++ b) = .ok (a, b) := by
  induction a with
  | nil => rw [bytes_nil, List.nil_append, cut]
  | cons c a ih =>
    obtain ⟨n, size⟩ := Nat.exists_eq_add_one.mpr c.utf8Size_pos
    have offset : bytes (c :: a) = n + bytes a + 1 := by
      rw [bytes_cons, size]
      omega
    have rest : n + bytes a + 1 - c.utf8Size = bytes a := by omega
    rw [offset, List.cons_append, cut, if_pos (by omega), rest, ih]
    rfl

theorem cut_eq_ok {n : Nat} {s : List Char} (h : cut n s = .ok (a, b)) :
    s = a ++ b ∧ n = bytes a := by
  induction s generalizing n a with
  | nil =>
    cases n with
    | zero =>
      rw [cut] at h
      cases h
      exact ⟨rfl, rfl⟩
    | succ n =>
      rw [cut] at h
      cases h
  | cons c s ih =>
    cases n with
    | zero =>
      rw [cut] at h
      cases h
      exact ⟨rfl, rfl⟩
    | succ n =>
      rw [cut] at h
      split at h
      · next fits =>
        cases rest : cut (n + 1 - c.utf8Size) s with
        | error fault =>
          rw [rest] at h
          cases h
        | ok p =>
          rw [rest] at h
          cases h
          obtain ⟨rfl, size⟩ := ih rest
          refine ⟨rfl, ?_⟩
          rw [bytes_cons, ← size]
          omega
      · cases h

theorem findLast?_of_forall (fails : ∀ c ∈ b, ¬ p c) : findLast? p b = none := by
  induction b with
  | nil => rfl
  | cons c b ih =>
    rw [findLast?, ih fun c mem => fails c (List.mem_cons_of_mem _ mem)]
    exact if_neg (fails c List.mem_cons_self)

theorem findLast?_append (a : List Char) (meets : p c) (last : ∀ c ∈ b, ¬ p c) :
    findLast? p (a ++ c :: b) = some (bytes a) := by
  induction a with
  | nil =>
    rw [List.nil_append, findLast?, findLast?_of_forall last]
    exact if_pos meets
  | cons d a ih =>
    rw [List.cons_append, findLast?, ih]
    rfl

end Cut

end Overdub.Checked
