import Mathlib.Data.BitVec

/-! # Steps of a bit mixer

The finalizers of multiplicative hashes are built of two steps that lose nothing: a word is
combined with itself shifted to the right, or multiplied by an odd constant.
-/

namespace Foundation

variable {width : Nat}

lemma eq_zero_of_ushiftRight_eq_self {word : BitVec width} {shift : Nat} (hshift : 0 < shift)
    (hself : word >>> shift = word) : word = 0 := by
  have hnat := congrArg BitVec.toNat hself
  rw [BitVec.toNat_ushiftRight, Nat.shiftRight_eq_div_pow] at hnat
  refine BitVec.eq_of_toNat_eq ?_
  by_contra hne
  have hlt := Nat.div_lt_self (Nat.pos_of_ne_zero hne) (Nat.one_lt_two_pow hshift.ne')
  omega

lemma xor_ushiftRight_injective {shift : Nat} (hshift : 0 < shift) :
    Function.Injective fun word : BitVec width => word ^^^ word >>> shift := by
  intro first second heq
  -- The difference of the two words is its own shift.
  have hself : (first ^^^ second) >>> shift = first ^^^ second := by
    rw [BitVec.ushiftRight_xor_distrib]
    dsimp only at heq
    calc first >>> shift ^^^ second >>> shift
        = first ^^^ (first ^^^ first >>> shift) ^^^ second >>> shift := by
          rw [← BitVec.xor_assoc, BitVec.xor_self, BitVec.zero_xor]
      _ = first ^^^ second := by
          rw [heq, BitVec.xor_assoc, BitVec.xor_assoc, BitVec.xor_self, BitVec.xor_zero]
  exact BitVec.xor_eq_zero_iff.mp (eq_zero_of_ushiftRight_eq_self hshift hself)

lemma mul_injective_of_inverse {factor inverse : BitVec width}
    (hinverse : factor * inverse = 1#(width)) :
    Function.Injective fun word : BitVec width => word * factor := by
  intro first second heq
  have hboth := congrArg (· * inverse) heq
  simpa only [BitVec.mul_assoc, hinverse, BitVec.mul_one] using hboth

end Foundation
