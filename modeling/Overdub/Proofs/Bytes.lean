import Overdub.Bytes

/-!
Numbers and byte strings there and back: signed words, and taking apart what was put together. A
scan that gives a value is taken apart step by step; none of its guards was up.
-/

namespace Overdub

namespace Bytes

theorem signed_ofSigned {size : Nat} {n : Int} (low : -(256 ^ size : Nat) ≤ 2 * n)
    (high : 2 * n < (256 ^ size : Nat)) : signed (ofSigned size n) = n := by
  have pos : (0 : Int) < (256 ^ size : Nat) := by exact_mod_cast Nat.pow_pos (by decide)
  have word : word (ofSigned size n) = (n % (256 ^ size : Nat)).toNat := by
    apply word_ofWord
    have := Int.emod_lt_of_pos n pos
    omega
  have length : (ofSigned size n).length = size := length_ofWord ..
  unfold signed
  dsimp only
  rw [word, length]
  generalize 256 ^ size = m at *
  rcases Int.lt_or_le n 0 with neg | nonneg
  · have wrapped : n % m = n + m := by
      rw [← Int.add_emod_right, Int.emod_eq_of_lt (by omega) (by omega)]
    rw [wrapped]
    split <;> omega
  · rw [Int.emod_eq_of_lt nonneg (by omega)]
    split <;> omega

@[simp] theorem length_ofSigned (size : Nat) (n : Int) : (ofSigned size n).length = size :=
  length_ofWord ..

theorem ofInt_signed {α : Type} {size : Nat} (toInt : α → Int) (ofInt : Int → α) {x : α}
    (told : ofInt (toInt x) = x) (low : -(256 ^ size : Nat) ≤ 2 * toInt x)
    (high : 2 * toInt x < (256 ^ size : Nat)) : ofInt (signed (ofSigned size (toInt x))) = x := by
  rw [signed_ofSigned low high, told]

theorem ofInt_signed_24 {x : Int32} (h : x.toInt % 256 = 0) :
    Int32.ofInt (signed ((ofSigned 3 (x.toInt / 256)).take 3) * 256) = x := by
  have low := x.le_toInt
  have high := x.toInt_lt
  have told : Int32.ofInt (x.toInt / 256 * 256) = x := by
    rw [Int.ediv_mul_cancel (Int.dvd_of_emod_eq_zero h), Int32.ofInt_toInt]
  rw [List.take_of_length_le (Nat.le_of_eq (length_ofSigned ..))]
  exact ofInt_signed (Int32.toInt · / 256) (fun n => .ofInt (n * 256)) told (by omega) (by omega)

theorem word_lt (bs : List UInt8) : word bs < 256 ^ bs.length := by
  induction bs with
  | nil => exact Nat.one_pos
  | cons b bs ih =>
    have := b.toNat_lt
    rw [word, List.length_cons, Nat.pow_succ]
    omega

theorem ofWord_word (bs : List UInt8) : ofWord bs.length (word bs) = bs := by
  induction bs with
  | nil => rfl
  | cons b bs ih =>
    have := b.toNat_lt
    have low : UInt8.ofNat (b.toNat + 256 * word bs) = b := by
      apply UInt8.toNat_inj.mp
      rw [UInt8.toNat_ofNat']
      omega
    have high : (b.toNat + 256 * word bs) / 256 = word bs := by omega
    rw [List.length_cons, word, ofWord, low, high, ih]

theorem signed_bounds (bs : List UInt8) :
    -(256 ^ bs.length : Nat) ≤ 2 * signed bs ∧ 2 * signed bs < (256 ^ bs.length : Nat) := by
  have := word_lt bs
  unfold signed
  dsimp only
  split <;> omega

theorem ofSigned_signed (bs : List UInt8) : ofSigned bs.length (signed bs) = bs := by
  have below := word_lt bs
  have wrapped : (signed bs % (256 ^ bs.length : Nat)).toNat = word bs := by
    unfold signed
    dsimp only
    split
    · rw [Int.emod_eq_of_lt (by omega) (by omega), Int.toNat_natCast]
    · rw [Int.sub_emod_right, Int.emod_eq_of_lt (by omega) (by omega), Int.toNat_natCast]
  rw [ofSigned, wrapped, ofWord_word]

theorem ofSigned_ofInt {α : Type} {size : Nat} (toInt : α → Int) (ofInt : Int → α)
    {bs : List UInt8} (h : bs.length = size)
    (told : -(256 ^ size : Nat) ≤ 2 * signed bs → 2 * signed bs < (256 ^ size : Nat) →
      toInt (ofInt (signed bs)) = signed bs) : ofSigned size (toInt (ofInt (signed bs))) = bs := by
  subst h
  obtain ⟨low, high⟩ := signed_bounds bs
  rw [told low high, ofSigned_signed]

theorem ofSigned_ofInt_24 {bs : List UInt8} (h : bs.length = 3) :
    ofSigned 3 ((Int32.ofInt (signed bs * 256)).toInt / 256) = bs := by
  refine ofSigned_ofInt (Int32.toInt · / 256) (fun n => .ofInt (n * 256)) h fun low high => ?_
  rw [Int32.toInt_ofInt_of_le (by omega) (by omega), Int.mul_ediv_cancel _ (by decide)]

theorem toList_eq_data (bs : ByteArray) : bs.toList = bs.data.toList := by
  have loop (i : Nat) (seen : List UInt8) :
      ByteArray.toList.loop bs i seen = seen.reverse ++ bs.data.toList.drop i := by
    induction i, seen using ByteArray.toList.loop.induct bs with
    | case1 i seen more ih =>
      have more' : i < bs.data.toList.length := more
      have item : bs.get! i = bs.data.toList[i] := getElem!_pos bs.data i more
      rw [ByteArray.toList.loop, if_pos more, ih, List.drop_eq_getElem_cons more', item,
        List.reverse_cons, List.append_assoc, List.singleton_append]
    | case2 i seen done =>
      rw [ByteArray.toList.loop, if_neg done, List.drop_eq_nil_of_le (Nat.le_of_not_lt done),
        List.append_nil]
  exact loop 0 []

theorem utf8_injective {s t : String} (same : s.toUTF8.toList = t.toUTF8.toList) : s = t := by
  rw [toList_eq_data, toList_eq_data, Array.toList_inj, ← ByteArray.ext_iff] at same
  exact String.toByteArray_inj.mp same

namespace Scan

variable {ε α β : Type} {short e : ε} {s s' : List UInt8} {n : Nat}

theorem take_append {as : List UInt8} (h : as.length = n) (s : List UInt8) :
    (take short n).run (as ++ s) = .ok (as, s) := by
  subst h
  change (if _ then _ else _) = _
  rw [List.take_left, if_neg (Nat.lt_irrefl _), List.drop_left]

theorem word_append {as : List UInt8} (h : as.length = n) (s : List UInt8) :
    (word short n).run (as ++ s) = .ok (Bytes.word as, s) := by
  unfold word
  rw [StateT.run_map, take_append h]
  rfl

theorem word_ofWord_append {x : Nat} (h : x < 256 ^ n) (s : List UInt8) :
    (word short n).run (ofWord n x ++ s) = .ok (x, s) := by
  rw [word_append (length_ofWord n x), word_ofWord h]

theorem lt_of_word {x : Nat} (h : (word short n).run s = .ok (x, s')) : x < 256 ^ n := by
  unfold word at h
  rw [StateT.run_map] at h
  change Except.map _ (if _ then _ else _) = _ at h
  split at h
  · cases h
  · next whole =>
    cases h
    have := word_lt (s.take n)
    rwa [Nat.le_antisymm (List.length_take_le n s) (Nat.le_of_not_lt whole)] at this

theorem run_bind {m : Scan ε α} {f : α → Scan ε β} {a : α} (h : m.run s = .ok (a, s')) :
    (m >>= f).run s = (f a).run s' := by
  rw [StateT.run_bind, h]
  rfl

theorem run_guard {c : Prop} [Decidable c] {k : PUnit → Scan ε β} (down : ¬ c) :
    (if c then (throw e : Scan ε PUnit) >>= k else k ⟨⟩).run s = (k ⟨⟩).run s := by
  rw [if_neg down]

structure Yields (m : Scan ε α) (P : α → Prop) : Prop where
  of_run : ∀ {s a s'}, m.run s = .ok (a, s') → P a

namespace Yields

variable {m m' : Scan ε α} {f : α → Scan ε β} {k : PUnit → Scan ε β} {P : α → Prop} {Q : β → Prop}

theorem any : m.Yields fun _ => True := ⟨fun _ => trivial⟩

theorem word : (word short n).Yields (· < 256 ^ n) := ⟨lt_of_word⟩

theorem pure {a : α} (h : P a) : Yields (Pure.pure a : Scan ε α) P where
  of_run run := by
    cases run
    exact h

theorem throw : Yields (MonadExcept.throw e : Scan ε α) P where
  of_run run := by cases run

theorem bind (first : m.Yields P) (rest : ∀ a, P a → (f a).Yields Q) : (m >>= f).Yields Q where
  of_run := by
    intro s b s' run
    rw [StateT.run_bind] at run
    cases h : m.run s with
    | error e =>
      rw [h] at run
      cases run
    | ok p =>
      rw [h] at run
      exact (rest p.1 (first.of_run h)).of_run run

theorem ite {c : Prop} [Decidable c] (yes : c → m.Yields P) (no : ¬ c → m'.Yields P) :
    Yields (if c then m else m') P := by
  split
  · next h => exact yes h
  · next h => exact no h

theorem guard {c : Prop} [Decidable c] (rest : ¬ c → (k ⟨⟩).Yields Q) :
    Yields (if c then (MonadExcept.throw e : Scan ε PUnit) >>= k else k ⟨⟩) Q :=
  ite (fun _ => throw.bind (P := fun _ => False) fun _ => nofun) rest

end Yields

end Scan

end Bytes

end Overdub
