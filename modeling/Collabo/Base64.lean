import Collabo.CString
import Mathlib.Data.List.DropRight
import Mathlib.Tactic.Common

/-!
# Base64

`Base64::decode` regroups six-bit values into bytes. A character outside the
alphabet throws, `=` stands for zero, bits left over at the end are dropped, and
a last group of one character makes the iterator read past the end, where the
terminating zero byte throws. Zero bytes at the end of the result are trimmed.

`Base64::encode` fills a last group of one or two bytes up with zero bits and
appends the padding, which the decoder turns into zero bytes and trims with those
that the text ended in.
-/

namespace Collabo.Base64

open Collabo.CString

set_option autoImplicit false

def sextet (char : UInt8) : Option Nat :=
  if 65 ≤ char ∧ char ≤ 90 then some (char.toNat - 65)
  else if 97 ≤ char ∧ char ≤ 122 then some (char.toNat - 71)
  else if 48 ≤ char ∧ char ≤ 57 then some (char.toNat + 4)
  else if char = 43 then some 62
  else if char = 47 then some 63
  else if char = 61 then some 0
  else none

def firstByte (a b : Nat) : UInt8 := UInt8.ofNat (a * 4 + b / 16)

def secondByte (b c : Nat) : UInt8 := UInt8.ofNat (b % 16 * 16 + c / 4)

def thirdByte (c d : Nat) : UInt8 := UInt8.ofNat (c % 4 * 64 + d)

def regroup : ByteString → Option ByteString
  | [] => some []
  | [_] => none
  | [a, b] => do
      let a ← sextet a
      let b ← sextet b
      some [firstByte a b]
  | [a, b, c] => do
      let a ← sextet a
      let b ← sextet b
      let c ← sextet c
      some [firstByte a b, secondByte b c]
  | a :: b :: c :: d :: rest => do
      let a ← sextet a
      let b ← sextet b
      let c ← sextet c
      let d ← sextet d
      let decoded ← regroup rest
      some (firstByte a b :: secondByte b c :: thirdByte c d :: decoded)

/-- Nothing stands for the exception of the iterators. -/
def decode (val : ByteString) : Option ByteString :=
  (regroup val).map fun bytes => (bytes.reverse.dropWhile (· = 0)).reverse

-- The member code of the message quoted in `onMsgPtr`.
example : decode (ascii "dGVzdDFAdW5pd2lzLmNvbQ") = some (ascii "test1@uniwis.com") := by decide

/-- The character of a six-bit value, as `base64_from_binary` looks it up. -/
def character (value : Nat) : UInt8 :=
  if value < 26 then UInt8.ofNat (value + 65)
  else if value < 52 then UInt8.ofNat (value + 71)
  else if value < 62 then UInt8.ofNat (value - 4)
  else if value = 62 then 43
  else 47

/-- Six bits at a time, with zero bits behind the last byte. -/
def sextets : ByteString → List Nat
  | [] => []
  | [a] => [a.toNat / 4, a.toNat % 4 * 16]
  | [a, b] => [a.toNat / 4, a.toNat % 4 * 16 + b.toNat / 16, b.toNat % 16 * 4]
  | a :: b :: c :: rest =>
      a.toNat / 4 :: (a.toNat % 4 * 16 + b.toNat / 16) :: (b.toNat % 16 * 4 + c.toNat / 64) ::
        c.toNat % 64 :: sextets rest

def padding (val : ByteString) : Nat := (3 - val.length % 3) % 3

def encode (val : ByteString) : ByteString :=
  (sextets val).map character ++ List.replicate (padding val) 61

section RoundTrip

theorem sextet_character : ∀ value < 64, sextet (character value) = some value := by decide

theorem character_ne_padding : ∀ value < 64, character value ≠ 61 := by decide

theorem sextet_padding : sextet 61 = some 0 := by decide

theorem first_byte_eq (a : UInt8) {low : Nat} (small : low < 16) :
    firstByte (a.toNat / 4) (a.toNat % 4 * 16 + low) = a := by
  unfold firstByte
  rw [show a.toNat / 4 * 4 + (a.toNat % 4 * 16 + low) / 16 = a.toNat by omega]
  exact UInt8.ofNat_toNat

theorem second_byte_eq (b : UInt8) (high : Nat) {low : Nat} (small : low < 4) :
    secondByte (high * 16 + b.toNat / 16) (b.toNat % 16 * 4 + low) = b := by
  have below := b.toNat_lt
  unfold secondByte
  rw [show (high * 16 + b.toNat / 16) % 16 * 16 + (b.toNat % 16 * 4 + low) / 4 = b.toNat by omega]
  exact UInt8.ofNat_toNat

theorem third_byte_eq (c : UInt8) (high : Nat) :
    thirdByte (high * 4 + c.toNat / 64) (c.toNat % 64) = c := by
  have below := c.toNat_lt
  unfold thirdByte
  rw [show (high * 4 + c.toNat / 64) % 4 * 64 + c.toNat % 64 = c.toNat by omega]
  exact UInt8.ofNat_toNat

theorem sextets_lt (val : ByteString) : ∀ value ∈ sextets val, value < 64 := by
  induction val using sextets.induct with
  | case1 => intro value member; cases member
  | case2 a =>
      have below := a.toNat_lt
      simp only [sextets, List.forall_mem_cons]
      exact ⟨by omega, by omega, fun _ member => nomatch member⟩
  | case3 a b =>
      have aBelow := a.toNat_lt
      have bBelow := b.toNat_lt
      simp only [sextets, List.forall_mem_cons]
      exact ⟨by omega, by omega, by omega, fun _ member => nomatch member⟩
  | case4 a b c rest induction =>
      have aBelow := a.toNat_lt
      have bBelow := b.toNat_lt
      have cBelow := c.toNat_lt
      simp only [sextets, List.forall_mem_cons]
      exact ⟨by omega, by omega, by omega, by omega, induction⟩

theorem sextets_length (val : ByteString) :
    (sextets val).length + padding val = 4 * ((val.length + 2) / 3) := by
  unfold padding
  induction val using sextets.induct with
  | case1 => rfl
  | case2 a => simp only [sextets, List.length_cons, List.length_nil]
  | case3 a b => simp only [sextets, List.length_cons, List.length_nil]
  | case4 a b c rest induction =>
      simp only [sextets, List.length_cons]
      omega

theorem encode_length (val : ByteString) : (encode val).length = 4 * ((val.length + 2) / 3) := by
  rw [← sextets_length val]
  simp only [encode, List.length_append, List.length_map, List.length_replicate]

theorem encode_padding (val : ByteString) (index : Nat) :
    (encode val)[index]? = some 61 ↔
      index < (encode val).length ∧ (encode val).length ≤ index + padding val := by
  have length : (encode val).length = (sextets val).length + padding val := by
    rw [encode_length, sextets_length]
  rw [length]
  by_cases before : index < (sextets val).length
  · have lookup : (encode val)[index]? = some (character (sextets val)[index]) := by
      unfold encode
      rw [List.getElem?_append_left (by rw [List.length_map]; exact before), List.getElem?_map,
        List.getElem?_eq_getElem before]
      rfl
    rw [lookup]
    constructor
    · intro same
      have small := sextets_lt val _ (List.getElem_mem before)
      exact absurd (Option.some.inj same) (character_ne_padding _ small)
    · rintro ⟨_, behind⟩
      omega
  · have lookup : (encode val)[index]? =
        if index - (sextets val).length < padding val then some 61 else none := by
      unfold encode
      rw [List.getElem?_append_right (by rw [List.length_map]; omega), List.length_map,
        List.getElem?_replicate]
    rw [lookup]
    split_ifs with inside
    · exact ⟨fun _ => by omega, fun _ => rfl⟩
    · constructor
      · intro absent
        cases absent
      · rintro ⟨_, behind⟩
        omega

/-- The decoder reads the padding as zero bytes. -/
theorem regroup_encode (val : ByteString) :
    regroup (encode val) = some (val ++ List.replicate (padding val) 0) := by
  unfold encode padding
  induction val using sextets.induct with
  | case1 => rfl
  | case2 a =>
      have small := sextets_lt [a]
      simp only [sextets, List.forall_mem_cons] at small
      have first := @first_byte_eq a 0 (by decide)
      have second : secondByte (a.toNat % 4 * 16) 0 = 0 := by
        unfold secondByte
        rw [Nat.mul_mod_left]
        rfl
      rw [Nat.add_zero] at first
      simp only [sextets, List.map_cons, List.map_nil, List.length_cons, List.length_nil]
      simp only [show (3 - (0 + 1) % 3) % 3 = 2 from rfl, List.replicate, List.cons_append,
        List.nil_append, regroup, sextet_character _ small.1, sextet_character _ small.2.1,
        sextet_padding, Option.bind_eq_bind, Option.bind_some, first, second]
      rfl
  | case3 a b =>
      have small := sextets_lt [a, b]
      simp only [sextets, List.forall_mem_cons] at small
      have second := @second_byte_eq b (a.toNat % 4) 0 (by decide)
      have third : thirdByte (b.toNat % 16 * 4) 0 = 0 := by
        unfold thirdByte
        rw [Nat.mul_mod_left]
        rfl
      rw [Nat.add_zero] at second
      have bBelow := b.toNat_lt
      simp only [sextets, List.map_cons, List.map_nil, List.length_cons, List.length_nil]
      simp only [show (3 - (0 + 1 + 1) % 3) % 3 = 1 from rfl, List.replicate, List.cons_append,
        List.nil_append, regroup, sextet_character _ small.1, sextet_character _ small.2.1,
        sextet_character _ small.2.2.1, sextet_padding, Option.bind_eq_bind, Option.bind_some,
        first_byte_eq a (show b.toNat / 16 < 16 by omega), second, third]
  | case4 a b c rest induction =>
      have small := sextets_lt (a :: b :: c :: rest)
      simp only [sextets, List.forall_mem_cons] at small
      rcases small with ⟨firstSmall, secondSmall, thirdSmall, fourthSmall, _⟩
      have bBelow := b.toNat_lt
      have cBelow := c.toNat_lt
      have samePadding :
          (3 - (a :: b :: c :: rest).length % 3) % 3 = (3 - rest.length % 3) % 3 := by
        simp only [List.length_cons]
        omega
      rw [samePadding]
      simp only [sextets, List.map_cons, List.cons_append, regroup, induction,
        sextet_character _ firstSmall, sextet_character _ secondSmall,
        sextet_character _ thirdSmall, sextet_character _ fourthSmall,
        Option.bind_eq_bind, Option.bind_some,
        first_byte_eq a (show b.toNat / 16 < 16 by omega),
        second_byte_eq b (a.toNat % 4) (show c.toNat / 64 < 4 by omega), third_byte_eq]

theorem rdrop_while_replicate (val : ByteString) (count : Nat) :
    (val ++ List.replicate count 0).rdropWhile (· = 0) = val.rdropWhile (· = 0) := by
  induction count with
  | zero => rw [List.replicate_zero, List.append_nil]
  | succ count induction =>
      rw [List.replicate_succ', ← List.append_assoc, List.rdropWhile_concat_pos _ _ _ (by rfl)]
      exact induction

theorem rdrop_while_of_last {val : ByteString} (last : val.getLast? ≠ some 0) :
    val.rdropWhile (· = 0) = val := by
  apply List.rdropWhile_eq_self_iff.mpr
  intro nonempty zero
  apply last
  rw [List.getLast?_eq_some_getLast nonempty, of_decide_eq_true zero]

/-- An encoded text is read back without the zero bytes it ended in. Its length
is that of whole groups of four, and the padding stands at its end only. -/
theorem decode_encode (val : ByteString) :
    decode (encode val) = some (val.rdropWhile (· = 0)) ∧
      (val.getLast? ≠ some 0 → decode (encode val) = some val) ∧
      (encode val).length = 4 * ((val.length + 2) / 3) ∧
      ∀ index, (encode val)[index]? = some 61 ↔
        index < (encode val).length ∧ (encode val).length ≤ index + padding val := by
  have decoded : decode (encode val) = some (val.rdropWhile (· = 0)) := by
    unfold decode
    rw [regroup_encode, Option.map_some]
    exact congrArg some (rdrop_while_replicate val (padding val))
  refine ⟨decoded, ?_, encode_length val, encode_padding val⟩
  intro last
  rw [decoded, rdrop_while_of_last last]

end RoundTrip

end Collabo.Base64
