import Mathlib.Data.List.Basic

/-! Bytes written in lowercase hexadecimal, as digests are. -/

namespace ContextVm

/-- The digits a byte is written with. -/
def lowerHexDigits : List Char :=
  ['0', '1', '2', '3', '4', '5', '6', '7', '8', '9', 'a', 'b', 'c', 'd', 'e', 'f']

/-- The two digits one byte is written as, high half first. -/
def hexOctet (byte : UInt8) : List Char :=
  [lowerHexDigits.getD (byte.toNat / 16) '0', lowerHexDigits.getD (byte.toNat % 16) '0']

/-- Bytes written in lowercase hexadecimal. -/
def hexEncode (bytes : List UInt8) : String := String.ofList (bytes.flatMap hexOctet)

/-- Text made of lowercase hexadecimal digits alone. -/
def LowerHex (text : String) : Prop := ∀ digit ∈ text.toList, digit ∈ lowerHexDigits

/-- Text of 64 such digits, the form of public keys and of event ids. -/
def isHex64 (text : String) : Bool :=
  text.toList.length = 64 && text.toList.all (lowerHexDigits.contains ·)

/-- Two public keys and two event ids, for runs on fixed inputs. -/
def aliceKey : String := "79be667ef9dcbbac55a06295ce870b07029bfcdb2dce28d959f2815b16f81798"

@[inherit_doc aliceKey]
def bobKey : String := "c6047f9441ed7d6d3045406e95c07cd85c778e4b8cef3ca7abac09b95c709ee5"

@[inherit_doc aliceKey]
def firstEvent : String := "e3b0c44298fc1c149afbf4c8996fb92427ae41e4649b934ca495991b7852b855"

@[inherit_doc aliceKey]
def secondEvent : String := "ba7816bf8f01cfea414140de5dae2223b00361a396177a9cb410ff61f20015ad"

/-- No key and no event id has the separator of the tables in it. -/
theorem separator_of_isHex64 {text : String} (valid : isHex64 text = true) : ':' ∉ text.toList := by
  intro member
  have digits := (Bool.and_eq_true_iff.mp valid).2
  have digit := List.all_eq_true.mp digits _ member
  revert digit
  decide

/-- What is written in hexadecimal has no other characters. -/
theorem hexEncode_lowerHex (bytes : List UInt8) : LowerHex (hexEncode bytes) := by
  -- Both halves of a byte index the alphabet, and the fallback digit belongs to it as well.
  have digit (index : Nat) : lowerHexDigits.getD index '0' ∈ lowerHexDigits := by
    rw [List.getD_eq_getElem?_getD]
    cases found : lowerHexDigits[index]? with
    | none => decide
    | some value => exact List.mem_of_getElem? found
  -- Every digit written is one of the two of some byte.
  intro written member
  simp only [hexEncode, String.toList_ofList, List.mem_flatMap, hexOctet, List.mem_cons,
    List.not_mem_nil, or_false] at member
  obtain ⟨byte, -, rfl | rfl⟩ := member
  · exact digit _
  · exact digit _

end ContextVm
