import Overdub.Proofs.Bytes
import Overdub.Wave.Coding

/-!
Scalars of a wave file there and back. What was decoded is encoded to bytes that decode to the same
scalars, one by one and for a whole run of them.
-/

namespace Overdub

namespace Wave

abbrev Content := (k : Kind) × List k.Scalar

namespace Coding

def bare : Coding → Coding
  | .s24 _ => .s24 false
  | c => c

@[simp] theorem kind_bare (c : Coding) : c.bare.kind = c.kind := by
  cases c <;> rfl

/-- The scalar keeps its place under the coding: its low bits are zero where they are cut. -/
def Holds : (c : Coding) → c.kind.Scalar → Prop
  | .s24 _, x => Int32.toInt x % 256 = 0
  | _, _ => True

theorem holds_decode (c : Coding) (bs : List UInt8) : c.Holds (c.decode bs) := by
  cases c with
  | s24 padded =>
    change (Int32.ofInt (Bytes.signed (bs.take 3) * 256)).toInt % 256 = 0
    have size : Int32.size = 4294967296 := rfl
    rw [Int32.toInt_ofInt, size]
    unfold Int.bmod
    dsimp only
    split <;> omega
  | _ => trivial

theorem length_encode (c : Coding) (x : c.kind.Scalar) : (c.encode x).length = c.width := by
  cases c with
  | u8 => rfl
  | s24 padded => cases padded <;> exact Bytes.length_ofWord ..
  | _ => exact Bytes.length_ofWord ..

theorem decode_encode {c : Coding} (plain : c ≠ .s24 true) {x : c.kind.Scalar} (h : c.Holds x) :
    c.decode (c.encode x) = x := by
  cases c with
  | u8 => exact UInt8.ofNat_toNat
  | s16 =>
    have low := Int16.le_toInt x
    have high := Int16.toInt_lt x
    exact Bytes.ofInt_signed Int16.toInt .ofInt (Int16.ofInt_toInt x) (by omega) (by omega)
  | s24 padded =>
    cases padded with
    | true => exact absurd rfl plain
    | false => exact Bytes.ofInt_signed_24 h
  | s32 =>
    have low := Int32.le_toInt x
    have high := Int32.toInt_lt x
    exact Bytes.ofInt_signed Int32.toInt .ofInt (Int32.ofInt_toInt x) (by omega) (by omega)
  | f32 =>
    have below : (Single.bits x).toNat < 256 ^ 4 := (Single.bits x).toNat_lt
    exact congrArg Single.mk
      ((congrArg UInt32.ofNat (Bytes.word_ofWord below)).trans UInt32.ofNat_toNat)
  | f64 =>
    have below : (Double.bits x).toNat < 256 ^ 8 := (Double.bits x).toNat_lt
    exact congrArg Double.mk
      ((congrArg UInt64.ofNat (Bytes.word_ofWord below)).trans UInt64.ofNat_toNat)

theorem encode_decode {c : Coding} (plain : c ≠ .s24 true) {bs : List UInt8}
    (h : bs.length = c.width) : c.encode (c.decode bs) = bs := by
  have word := Bytes.ofWord_word bs
  have below := Bytes.word_lt bs
  rw [h] at word below
  cases c with
  | u8 =>
    obtain ⟨b, rfl⟩ := List.length_eq_one_iff.mp h
    exact congrArg (fun b => [b]) UInt8.ofNat_toNat
  | s16 =>
    refine Bytes.ofSigned_ofInt Int16.toInt .ofInt h fun low high => ?_
    exact Int16.toInt_ofInt_of_le (by omega) (by omega)
  | s24 padded =>
    cases padded with
    | true => exact absurd rfl plain
    | false =>
      change Bytes.ofSigned 3 ((Int32.ofInt (Bytes.signed (bs.take 3) * 256)).toInt / 256) = bs
      have all : bs.take 3 = bs := List.take_of_length_le (Nat.le_of_eq h)
      rw [all, Bytes.ofSigned_ofInt_24 h]
  | s32 =>
    refine Bytes.ofSigned_ofInt Int32.toInt .ofInt h fun low high => ?_
    exact Int32.toInt_ofInt_of_le (by omega) (by omega)
  | f32 =>
    have whole := UInt32.toNat_ofNat_of_lt' below
    exact (congrArg (Bytes.ofWord 4) whole).trans word
  | f64 =>
    have whole := UInt64.toNat_ofNat_of_lt' below
    exact (congrArg (Bytes.ofWord 8) whole).trans word

theorem decodeAll_append (c : Coding) {as : List UInt8} (h : as.length = c.width) (bs : List UInt8) :
    c.decodeAll (as ++ bs) = c.decode as :: c.decodeAll bs := by
  rw [decodeAll, List.take_left' h, if_pos h, List.drop_left' h]

@[simp] theorem decodeAll_nil (c : Coding) : c.decodeAll [] = [] := by
  have := c.width_pos
  rw [decodeAll, if_neg]
  simp
  omega

theorem whole_induction (c : Coding) {P : Nat → List UInt8 → Prop} (nil : P 0 [])
    (cons : ∀ {n as bs}, as.length = c.width → P n bs → P (n + 1) (as ++ bs)) {n : Nat}
    {bs : List UInt8} (h : bs.length = n * c.width) : P n bs := by
  induction n generalizing bs with
  | zero =>
    rw [Nat.zero_mul, List.length_eq_zero_iff] at h
    exact h ▸ nil
  | succ n ih =>
    rw [Nat.succ_mul] at h
    have head : (bs.take c.width).length = c.width := by simp; omega
    have tail : (bs.drop c.width).length = n * c.width := by simp; omega
    exact List.take_append_drop c.width bs ▸ cons head (ih tail)

theorem decodeAll_append_of_length (c : Coding) {as : List UInt8} {n : Nat}
    (h : as.length = n * c.width) (bs : List UInt8) :
    c.decodeAll (as ++ bs) = c.decodeAll as ++ c.decodeAll bs := by
  refine c.whole_induction (P := fun _ as =>
    c.decodeAll (as ++ bs) = c.decodeAll as ++ c.decodeAll bs) ?nil ?cons h
  case nil =>
    rw [decodeAll_nil]
    rfl
  case cons =>
    intro _ a as head ih
    rw [List.append_assoc, decodeAll_append c head, decodeAll_append c head, ih]
    rfl

theorem length_decodeAll (c : Coding) {bs : List UInt8} {n : Nat} (h : bs.length = n * c.width) :
    (c.decodeAll bs).length = n := by
  refine c.whole_induction (P := fun n bs => (c.decodeAll bs).length = n) ?nil ?cons h
  case nil =>
    rw [decodeAll_nil]
    rfl
  case cons =>
    intro n a bs head ih
    rw [decodeAll_append c head, List.length_cons, ih]

theorem holds_decodeAll (c : Coding) (bs : List UInt8) : ∀ x ∈ c.decodeAll bs, c.Holds x := by
  fun_induction c.decodeAll bs with
  | case1 bs whole ih =>
    intro x mem
    rcases List.mem_cons.mp mem with rfl | mem
    · exact c.holds_decode _
    · exact ih x mem
  | case2 => exact nofun

theorem decodeAll_flatMap {c : Coding} (plain : c ≠ .s24 true) {xs : List c.kind.Scalar}
    (h : ∀ x ∈ xs, c.Holds x) : c.decodeAll (xs.flatMap c.encode) = xs := by
  induction xs with
  | nil => exact c.decodeAll_nil
  | cons x xs ih =>
    rw [List.flatMap_cons, decodeAll_append c (c.length_encode x),
      decode_encode plain (h x List.mem_cons_self), ih fun x mem => h x (List.mem_cons_of_mem _ mem)]

theorem length_flatMap_encode (c : Coding) (xs : List c.kind.Scalar) :
    (xs.flatMap c.encode).length = xs.length * c.width := by
  induction xs with
  | nil => exact (Nat.zero_mul _).symm
  | cons x xs ih =>
    rw [List.flatMap_cons, List.length_append, length_encode, ih, List.length_cons, Nat.succ_mul,
      Nat.add_comm]

def scalars (c : Coding) (bs : List UInt8) : List c.bare.kind.Scalar :=
  c.kind_bare.symm ▸ c.decodeAll bs

theorem content_eq (c : Coding) (bs : List UInt8) :
    (⟨c.kind, c.decodeAll bs⟩ : Content) = ⟨c.bare.kind, c.scalars bs⟩ := by
  cases c <;> rfl

theorem scalars_append_of_length (c : Coding) {as : List UInt8} {n : Nat}
    (h : as.length = n * c.width) (bs : List UInt8) :
    c.scalars (as ++ bs) = c.scalars as ++ c.scalars bs := by
  have whole := c.decodeAll_append_of_length h bs
  cases c <;> exact whole

theorem length_scalars (c : Coding) {bs : List UInt8} {n : Nat} (h : bs.length = n * c.width) :
    (c.scalars bs).length = n := by
  have whole := c.length_decodeAll h
  cases c <;> exact whole

theorem scalars_nil (c : Coding) : c.scalars [] = [] :=
  List.length_eq_zero_iff.mp (c.length_scalars (Nat.zero_mul _).symm)

theorem decodeAll_scalars (c : Coding) (bs : List UInt8) :
    c.bare.decodeAll ((c.scalars bs).flatMap c.bare.encode) = c.scalars bs := by
  have plain : c.bare ≠ .s24 true := by cases c <;> exact nofun
  have holds : ∀ x ∈ c.scalars bs, c.bare.Holds x := by
    have decoded := c.holds_decodeAll bs
    cases c <;> exact decoded
  exact decodeAll_flatMap plain holds

/-- The bytes of a run of scalars, less those that pad them. -/
def packed (c : Coding) (bs : List UInt8) : List UInt8 :=
  if (bs.take c.width).length = c.width then
    (bs.take c.width).take c.bare.width ++ packed c (bs.drop c.width)
  else []
termination_by bs.length
decreasing_by
  have := c.width_pos
  simp only [List.length_take, List.length_drop] at *; omega

theorem encode_bare_decode (c : Coding) {bs : List UInt8} (h : bs.length = c.width) :
    c.bare.encode (c.kind_bare.symm ▸ c.decode bs) = bs.take c.bare.width := by
  by_cases padded : c = .s24 true
  · subst padded
    have cut : (bs.take 3).length = 3 := List.length_take_of_le (h ▸ by decide)
    exact Bytes.ofSigned_ofInt_24 cut
  · have same := (encode_decode padded h).trans (List.take_of_length_le (Nat.le_of_eq h)).symm
    rcases c with _ | _ | ⟨_ | _⟩ | _ | _ | _
    case s24.true => exact absurd rfl padded
    all_goals exact same

theorem flatMap_scalars (c : Coding) (bs : List UInt8) :
    (c.scalars bs).flatMap c.bare.encode = c.packed bs := by
  have each : (c.scalars bs).flatMap c.bare.encode =
      (c.decodeAll bs).flatMap fun x => c.bare.encode (c.kind_bare.symm ▸ x) := by
    cases c <;> rfl
  rw [each]
  clear each
  fun_induction c.decodeAll bs with
  | case1 bs whole ih =>
    rw [packed.eq_def c bs, if_pos whole, List.flatMap_cons, c.encode_bare_decode whole, ih]
  | case2 bs rest => rw [packed, if_neg rest, List.flatMap_nil]

theorem of?_bare {bits : Nat} {float : Bool} {width : Nat} {c : Coding}
    (h : of? bits float width = some c) : of? bits float ((bits + 7) / 8) = some c.bare := by
  unfold of? at h
  split at h <;> cases h <;> rfl

theorem width_of? {bits : Nat} {float : Bool} {width : Nat} {c : Coding}
    (h : of? bits float width = some c) : c.width = width := by
  unfold of? at h
  split at h <;> cases h <;> rfl

theorem width_bare_le (c : Coding) : c.bare.width ≤ c.width := by
  rcases c with _ | _ | ⟨_ | _⟩ | _ | _ | _ <;> decide

end Coding

namespace Spec

theorem kind_of_kind? {s : Spec} {k : Kind} (known : s.kind? = some k) {width : Nat} {c : Coding}
    (h : Coding.of? s.bits s.float width = some c) : c.kind = k := by
  unfold kind? at known
  unfold Coding.of? at h
  grind [Coding.kind]

end Spec

end Wave

end Overdub
