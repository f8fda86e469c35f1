import Overdub.Proofs.Bytes
import Overdub.Text.Blank
import Overdub.Voice.Answer

/-!
Requests carry their text. What is encoded has letters, digits, four marks and escapes in it and
nothing else, and it is decoded to the same bytes, also where these spell an escape themselves.
-/

namespace Overdub

namespace Percent

def plain : List Char := "ABCDEFGHIJKLMNOPQRSTUVWXYZabcdefghijklmnopqrstuvwxyz0123456789-._~".toList

def capitalDigits : List Char := "0123456789ABCDEF".toList

def allDigits : List Char := "0123456789ABCDEFabcdef".toList

/-- A part of a query ends here, or the query, or the address. -/
def separates (c : Char) : Bool := "&;=?#+".toList.contains c || Text.isBlank c

inductive Escaped : List Char → Prop
  | nil : Escaped []
  | plain {c : Char} {s : List Char} : c ∈ plain → Escaped s → Escaped (c :: s)
  | escape {x y : Char} {s : List Char} :
    x ∈ capitalDigits → y ∈ capitalDigits → Escaped s → Escaped ('%' :: x :: y :: s)

section Byte

variable {b : UInt8} {c : Char} {n : Nat}

theorem plain_of_isUnreserved (h : isUnreserved b) :
    Char.ofNat b.toNat ∈ plain ∧ String.utf8EncodeChar (Char.ofNat b.toNat) = [b] := by
  have all : ∀ n < 256, isUnreserved (UInt8.ofNat n) → Char.ofNat (UInt8.ofNat n).toNat ∈ plain ∧
      String.utf8EncodeChar (Char.ofNat (UInt8.ofNat n).toNat) = [UInt8.ofNat n] := by
    decide +kernel
  have one := all b.toNat b.toNat_lt
  rw [UInt8.ofNat_toNat] at one
  exact one h

theorem digit_spec (h : n < 16) : digit n ∈ capitalDigits ∧ digit? (digit n) = some n := by
  revert n
  decide

theorem ne_percent_of_mem_plain (h : c ∈ plain) : c ≠ '%' := by
  rintro rfl
  revert h
  decide

theorem not_separates_of_mem_plain (h : c ∈ plain) : ¬ separates c := by
  have none : plain.all (!separates ·) := by decide
  simpa using List.all_eq_true.mp none c h

theorem mem_plain_of_mem_capitalDigits (h : c ∈ capitalDigits) : c ∈ plain := by
  have all : capitalDigits.all plain.contains := by decide
  exact List.contains_iff_mem.mp (List.all_eq_true.mp all c h)

theorem mem_allDigits_of_digit? (h : digit? c = some n) : c ∈ allDigits := by
  have all : ∀ n < 128, (digit? (Char.ofNat n)).isSome → Char.ofNat n ∈ allDigits := by
    decide +kernel
  have ascii : c.toNat < 128 := by
    have below (d : Char) (le : c ≤ d) : c.toNat ≤ d.toNat := UInt32.le_iff_toNat_le.mp le
    unfold digit? at h
    split at h
    · next range => exact Nat.lt_of_le_of_lt (below '9' range.2) (by decide)
    · split at h
      · next range => exact Nat.lt_of_le_of_lt (below 'f' range.2) (by decide)
      · split at h
        · next range => exact Nat.lt_of_le_of_lt (below 'F' range.2) (by decide)
        · cases h
  have one := all c.toNat ascii
  rw [Char.ofNat_toNat, h] at one
  exact one rfl

end Byte

section Decode

variable {b : UInt8} {c x y : Char} {m n : Nat} {s : List Char}

theorem decode_cons (h : c ≠ '%') (s : List Char) :
    decode (c :: s) = String.utf8EncodeChar c ++ decode s := by
  rw [decode]
  rintro _ _ _ rfl _
  exact h rfl

theorem decode_escape (hx : digit? x = some m) (hy : digit? y = some n) (s : List Char) :
    decode ('%' :: x :: y :: s) = UInt8.ofNat (16 * m + n) :: decode s := by
  rw [decode, hx, hy]

theorem decode_percent (h : ∀ x y rest, s = x :: y :: rest → x ∉ allDigits ∨ y ∉ allDigits) :
    decode ('%' :: s) = 37 :: decode s := by
  match s with
  | [] => rfl
  | [x] => rfl
  | x :: y :: rest =>
    rw [decode]
    split
    · next hx hy =>
      rcases h x y rest rfl with none | none
      · exact absurd (mem_allDigits_of_digit? hx) none
      · exact absurd (mem_allDigits_of_digit? hy) none
    · rfl

theorem decode_encodeByte_append (b : UInt8) (s : List Char) :
    decode (encodeByte b ++ s) = b :: decode s := by
  unfold encodeByte
  split
  · next free =>
    obtain ⟨plain, byte⟩ := plain_of_isUnreserved free
    rw [List.singleton_append, decode_cons (ne_percent_of_mem_plain plain), byte,
      List.singleton_append]
  · have size := b.toNat_lt
    obtain ⟨-, high⟩ := digit_spec (n := b.toNat / 16) (by omega)
    obtain ⟨-, low⟩ := digit_spec (n := b.toNat % 16) (by omega)
    rw [escape, List.cons_append, List.cons_append, List.singleton_append, decode_escape high low,
      Nat.div_add_mod, UInt8.ofNat_toNat]

theorem decode_encode (bs : List UInt8) : decode (encode bs) = bs := by
  induction bs with
  | nil => rfl
  | cons b bs ih =>
    change decode (encodeByte b ++ encode bs) = b :: bs
    rw [decode_encodeByte_append, ih]

theorem escaped_encode (bs : List UInt8) : Escaped (encode bs) := by
  induction bs with
  | nil => exact .nil
  | cons b bs ih =>
    change Escaped (encodeByte b ++ encode bs)
    unfold encodeByte
    split
    · next free => exact .plain (plain_of_isUnreserved free).1 ih
    · have size := b.toNat_lt
      exact .escape (digit_spec (by omega)).1 (digit_spec (by omega)).1 ih

end Decode

namespace Escaped

variable {s : List Char}

theorem mem_plain_or (h : Escaped s) : ∀ c ∈ s, c ∈ Percent.plain ∨ c = '%' := by
  induction h with
  | nil => nofun
  | plain mem _ ih => exact List.forall_mem_cons.mpr ⟨.inl mem, ih⟩
  | escape hx hy _ ih =>
    rw [List.forall_mem_cons, List.forall_mem_cons, List.forall_mem_cons]
    exact ⟨.inr rfl, .inl (mem_plain_of_mem_capitalDigits hx), .inl (mem_plain_of_mem_capitalDigits hy), ih⟩

theorem digits_after (h : Escaped s) : ∀ before after, s = before ++ '%' :: after →
    ∃ x ∈ capitalDigits, ∃ y ∈ capitalDigits, ∃ rest, after = x :: y :: rest := by
  induction h with
  | nil =>
    intro before after split
    cases before <;> cases split
  | plain mem _ ih =>
    intro before after split
    cases before with
    | nil =>
      cases split
      exact absurd rfl (ne_percent_of_mem_plain mem)
    | cons c before =>
      cases split
      exact ih before after rfl
  | @escape x y s hx hy _ ih =>
    intro before after split
    match before with
    | [] =>
      cases split
      exact ⟨x, hx, y, hy, s, rfl⟩
    | [_] =>
      cases split
      exact absurd rfl (ne_percent_of_mem_plain (mem_plain_of_mem_capitalDigits hx))
    | [_, _] =>
      cases split
      exact absurd rfl (ne_percent_of_mem_plain (mem_plain_of_mem_capitalDigits hy))
    | _ :: _ :: _ :: before =>
      cases split
      exact ih before after rfl

theorem not_mem_of_separates (h : Escaped s) {c : Char} (sep : separates c) : c ∉ s := by
  intro mem
  rcases h.mem_plain_or c mem with plain | rfl
  · exact not_separates_of_mem_plain plain sep
  · revert sep
    decide

end Escaped

end Percent

theorem toList_requestUrl (server text : String) : (requestUrl server text).toList =
    (server ++ "text=").toList ++ Percent.encode text.toUTF8.toList := by
  rw [requestUrl, String.toList_append, String.toList_ofList]

/-- A text comes through a request as it is: byte by byte it is decoded again, two texts do not make
one request, and none adds to what separates the parts of an address. -/
theorem request_carries_text (server text : String) :
    (∃ e, requestUrl server text = server ++ "text=" ++ .ofList e ∧
      (∀ c ∈ e, c ∈ Percent.plain ∨ c = '%') ∧
      (∀ before after, e = before ++ '%' :: after → ∃ x ∈ Percent.capitalDigits,
        ∃ y ∈ Percent.capitalDigits, ∃ rest, after = x :: y :: rest) ∧
      Percent.decode e = text.toUTF8.toList) ∧
    Function.Injective (requestUrl server) ∧
    (∀ c, Percent.separates c →
      (requestUrl server text).toList.count c = (server ++ "text=").toList.count c) ∧
    (∀ bs, Percent.decode (Percent.encode bs) = bs) ∧
    ∀ s, (∀ x y rest, s = x :: y :: rest → x ∉ Percent.allDigits ∨ y ∉ Percent.allDigits) →
      Percent.decode ('%' :: s) = 37 :: Percent.decode s := by
  have escaped := Percent.escaped_encode text.toUTF8.toList
  refine ⟨⟨_, rfl, escaped.mem_plain_or, escaped.digits_after, Percent.decode_encode _⟩, ?_, ?_,
    Percent.decode_encode, fun s => Percent.decode_percent⟩
  · intro text other same
    have lists := congrArg String.toList same
    rw [toList_requestUrl, toList_requestUrl, List.append_cancel_left_eq] at lists
    have bytes := congrArg Percent.decode lists
    rw [Percent.decode_encode, Percent.decode_encode] at bytes
    exact Bytes.utf8_injective bytes
  · intro c sep
    rw [toList_requestUrl, List.count_append,
      List.count_eq_zero_of_not_mem (escaped.not_mem_of_separates sep), Nat.add_zero]

example : Percent.encode [37, 52, 49] = "%2541".toList := by decide

end Overdub
