import RamShield.Foundation.Delimiter
import RamShield.Protocol.Auth

/-! # What the code of a frame is computed over

The timestamp ends at the first dot, but nothing ends the key id. Two frames are told apart
by their codes when neither key id is a beginning of the other.
-/

namespace RamShield

open Foundation List

/-! ## Bytes of a text -/

private lemma toList_loop (bytes : ByteArray) (index : Nat) (seen : List UInt8) :
    ByteArray.toList.loop bytes index seen = seen.reverse ++ bytes.data.toList.drop index := by
  unfold ByteArray.toList.loop
  split
  next hin =>
    have hlength : index < bytes.data.toList.length := hin
    rw [toList_loop bytes (index + 1), drop_eq_getElem_cons hlength, reverse_cons,
      append_assoc, singleton_append]
    congr 2
    exact getElem!_pos bytes.data index hin
  next hout =>
    have hlength : bytes.data.toList.length ≤ index := Nat.le_of_not_lt hout
    rw [drop_eq_nil_of_le hlength, append_nil]
termination_by bytes.size - index

lemma textBytes_eq (text : String) : textBytes text = text.toByteArray.data.toList := by
  rw [textBytes, String.toUTF8_eq_toByteArray, ByteArray.toList, toList_loop]
  rfl

lemma textBytes_injective : Function.Injective textBytes := by
  intro left right heq
  rw [textBytes_eq, textBytes_eq] at heq
  exact String.toByteArray_inj.mp (ByteArray.ext (Array.toList_inj.mp heq))

lemma toString_injective : Function.Injective (toString : Nat → String) := by
  intro left right heq
  rw [Nat.toString_eq_ofList_toDigits, Nat.toString_eq_ofList_toDigits, String.ofList_inj] at heq
  rw [← @Nat.ofDigitChars_toDigits 10 left (by decide) le_rfl, heq,
    Nat.ofDigitChars_toDigits (by decide) le_rfl]

lemma not_mem_textBytes_toString (number : Nat) : 0x2e ∉ textBytes (toString number) := by
  rw [textBytes_eq, Nat.toString_eq_ofList_toDigits, String.toByteArray_ofList,
    List.utf8Encode, data_toByteArray]
  intro hmem
  obtain ⟨digit, hdigit, hbyte⟩ := mem_flatMap.mp hmem
  have hrange := Nat.isDigit_of_mem_toDigits (by decide) le_rfl hdigit
  simp only [Char.isDigit, Bool.and_eq_true, decide_eq_true_eq, UInt32.le_iff_toNat_le] at hrange
  have hsmall : digit.val ≤ 127 := by
    rw [UInt32.le_iff_toNat_le]
    exact hrange.2.trans (by decide)
  rw [String.utf8EncodeChar_eq_singleton (Char.utf8Size_eq_one_iff.mpr hsmall),
    mem_singleton] at hbyte
  have hvalue : 46 = digit.val.toNat % 256 := congrArg UInt8.toNat hbyte
  have hrange : 48 ≤ digit.val.toNat ∧ digit.val.toNat ≤ 57 := hrange
  omega

/-! ## Splitting the input -/

lemma macInput_eq_iff {tsMs tsMs' : Nat} {keyId keyId' : String} {payload payload' : List UInt8} :
    macInput tsMs keyId payload = macInput tsMs' keyId' payload' ↔
      tsMs = tsMs' ∧ textBytes keyId ++ payload = textBytes keyId' ++ payload' := by
  constructor
  · intro heq
    simp only [macInput, append_assoc, singleton_append] at heq
    obtain ⟨hstamp, hrest⟩ := first_unique (not_mem_textBytes_toString tsMs)
      (not_mem_textBytes_toString tsMs') heq
    exact ⟨toString_injective (textBytes_injective hstamp), hrest⟩
  · rintro ⟨rfl, hrest⟩
    simp only [macInput, append_assoc, hrest]

lemma eq_of_append_eq {left right before after : List UInt8}
    (hleft : left <+: right → left = right) (hright : right <+: left → right = left)
    (heq : left ++ before = right ++ after) : left = right := by
  have hprefix : left <+: right ++ after := ⟨before, heq⟩
  rcases prefix_or_prefix_of_prefix hprefix (prefix_append right after) with
    hbegins | hbegins
  · exact hleft hbegins
  · exact (hright hbegins).symm

/-- The input determines timestamp, key id and payload of the frames under two key ids,
unless one of the two ids continues the other. -/
theorem macInput_unambiguous_iff (keyId keyId' : String) : (∀ tsMs tsMs' payload payload',
        macInput tsMs keyId payload = macInput tsMs' keyId' payload' →
          tsMs = tsMs' ∧ keyId = keyId' ∧ payload = payload') ↔
      (textBytes keyId <+: textBytes keyId' → keyId = keyId') ∧
        (textBytes keyId' <+: textBytes keyId → keyId' = keyId) := by
  constructor
  · intro hunique
    refine ⟨?_, ?_⟩
    · rintro ⟨rest, hrest⟩
      exact (hunique 0 0 rest [] (macInput_eq_iff.mpr ⟨rfl, by simpa using hrest⟩)).2.1
    · rintro ⟨rest, hrest⟩
      exact (hunique 0 0 [] rest (macInput_eq_iff.mpr ⟨rfl, by simpa using hrest.symm⟩)).2.1.symm
  · rintro ⟨hleft, hright⟩ tsMs tsMs' payload payload' heq
    obtain ⟨rfl, hrest⟩ := macInput_eq_iff.mp heq
    have hkeys : textBytes keyId = textBytes keyId' :=
      eq_of_append_eq (fun hbegins => congrArg textBytes (hleft hbegins))
        (fun hbegins => congrArg textBytes (hright hbegins)) hrest
    obtain rfl := textBytes_injective hkeys
    exact ⟨rfl, rfl, append_cancel_left hrest⟩

/-- A byte moves from the payload to the key id. -/
theorem macInput_ambiguous :
    macInput 0 "k" (textBytes "1x") = macInput 0 "k1" (textBytes "x") ∧ "k" ≠ "k1" := by
  decide +kernel

end RamShield
