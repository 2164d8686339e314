import RamShield.Foundation.Table

/-! # Prefixes of bit strings

The bits of a word in the order in which its bytes lie in memory, most significant
first, the masks that keep a prefix of them, and tables that are searched for the
longest prefix of a key.
-/

namespace Foundation

open List BitVec

/-! ## Bytes of a word -/

/-- The bytes of a word, the highest first. -/
def octets {count : Nat} (word : BitVec (8 * count)) : List UInt8 :=
  List.ofFn fun index : Fin count => ⟨word.extractLsb' (8 * (count - 1 - index)) 8⟩

def bitsOf (bytes : List UInt8) : List Bool :=
  bytes.flatMap fun byte => List.ofFn fun index : Fin 8 => byte.toBitVec.getMsbD index

def msbBits {width : Nat} (word : BitVec width) : List Bool :=
  List.ofFn fun index : Fin width => word.getMsbD index

@[simp] lemma length_octets {count : Nat} (word : BitVec (8 * count)) :
    (octets word).length = count := length_ofFn

variable {width : Nat}
variable {high length count low : Nat} (word : BitVec width)

@[simp] lemma length_msbBits : (msbBits word).length = width := length_ofFn

lemma bitsOf_append (first second : List UInt8) :
    bitsOf (first ++ second) = bitsOf first ++ bitsOf second := flatMap_append

/-- The bytes of a word carry its bits in order. -/
lemma bitsOf_octets (word : BitVec (8 * count)) : bitsOf (octets word) = msbBits word := by
  rw [bitsOf, octets, msbBits, ofFn_mul', flatMap_def, map_ofFn]
  congr 2
  funext index
  have hindex := index.isLt
  rw [Function.comp_apply]
  congr 1
  funext bit
  have hbit := bit.isLt
  have hposition : 8 * count - (8 * (count - 1 - index) + 8 - bit) = 8 * index + bit := by omega
  rw [getMsbD_extractLsb', hposition, decide_eq_true hbit,
    decide_eq_true (show 8 * (count - 1 - (index : Nat)) + 8 - bit ≤ 8 * count by omega)]
  rfl

lemma msbBits_injective : Function.Injective (@msbBits width) := by
  intro left right hbits
  exact eq_of_getMsbD_eq fun index hindex => congrFun (ofFn_injective hbits) ⟨index, hindex⟩

lemma octets_injective : Function.Injective (@octets count) := by
  intro left right hoctets
  apply msbBits_injective
  rw [← bitsOf_octets, ← bitsOf_octets, hoctets]

/-! ## Masks -/

def prefixMask (width length : Nat) : BitVec width :=
  if length = 0 then 0 else BitVec.allOnes width <<< (width - length)

lemma getMsbD_prefixMask {index : Nat} (hlength : length ≤ width) :
    (prefixMask width length).getMsbD index = decide (index < length) := by
  rw [prefixMask]
  split
  next hzero =>
    rw [hzero]
    simp
  next hpos =>
    rw [getMsbD_shiftLeft, getMsbD_allOnes, decide_eq_decide]
    omega

lemma and_prefixMask_eq_iff (hlength : length ≤ width) (left right : BitVec width) :
    left &&& prefixMask width length = right &&& prefixMask width length ↔
      (msbBits left).take length = (msbBits right).take length := by
  have hget : ∀ (word : BitVec width) (index : Nat),
      ((msbBits word).take length)[index]? =
        if index < length then some (word.getMsbD index) else none := by
    intro word index
    rw [List.getElem?_take, msbBits, List.getElem?_ofFn]
    split
    next hindex => rw [dif_pos (Nat.lt_of_lt_of_le hindex hlength)]
    · rfl
  constructor
  · intro hmasked
    refine ext_getElem? fun index => ?_
    rw [hget, hget]
    split
    next hindex =>
      have hbit := congrArg (BitVec.getMsbD · index) hmasked
      simpa [getMsbD_prefixMask hlength, hindex] using hbit
    · rfl
  · intro hbegins
    refine eq_of_getMsbD_eq fun index _ => ?_
    rw [getMsbD_and, getMsbD_and, getMsbD_prefixMask hlength]
    by_cases hindex : index < length
    · have hbit := congrArg (·[index]?) hbegins
      rw [hget, hget, if_pos hindex, if_pos hindex] at hbit
      rw [Option.some.inj hbit]
    · rw [decide_eq_false hindex, Bool.and_false, Bool.and_false]

lemma and_prefixMask_idem (length : Nat) :
    word &&& prefixMask width length &&& prefixMask width length =
      word &&& prefixMask width length := by
  rw [BitVec.and_assoc, BitVec.and_self]

lemma extractLsb'_append_zero (word : BitVec (high + low)) :
    word.extractLsb' low high ++ 0#(low) = word &&& prefixMask (high + low) high := by
  refine eq_of_getMsbD_eq fun index hindex => ?_
  rw [getMsbD_append, getMsbD_and, getMsbD_prefixMask (Nat.le_add_right high low)]
  by_cases hhigh : index < high
  · have hposition : high + low - (low + high - index) = index := by omega
    rw [if_neg (Nat.not_le.mpr hhigh), getMsbD_extractLsb', hposition]
    simp [hhigh]
    omega
  · simp [hhigh]

lemma toNat_and_prefixMask (word : BitVec (high + low)) :
    (word &&& prefixMask (high + low) high).toNat =
      (word.extractLsb' low high).toNat * 2 ^ low := by
  rw [← extractLsb'_append_zero, toNat_append, toNat_ofNat, Nat.zero_mod,
    Nat.or_zero, Nat.shiftLeft_eq]

lemma toNat_and_prefixMask_lt_iff (word : BitVec (high + low)) :
    (word &&& prefixMask (high + low) high).toNat < 2 ^ low ↔
      word &&& prefixMask (high + low) high = 0 := by
  rw [← toNat_inj, toNat_and_prefixMask, ofNat_eq_ofNat, toNat_ofNat, Nat.zero_mod]
  constructor
  · intro hsmall
    rw [Nat.lt_one_iff.mp (Nat.lt_of_mul_lt_mul_right (hsmall.trans_eq (Nat.one_mul _).symm)),
      Nat.zero_mul]
  · intro hzero
    rw [hzero]
    exact Nat.two_pow_pos low

/-! ## Longest prefixes -/

abbrev PrefixTable (V : Type) := Table (List Bool) V

namespace PrefixTable

variable {V : Type}

def longest (table : PrefixTable V) (bits : List Bool) : Nat → Option V
  | 0 => table.lookup []
  | length + 1 => (table.lookup (bits.take (length + 1))).or (table.longest bits length)

lemma isSome_longest_iff (table : PrefixTable V) (bits : List Bool) (length : Nat) :
    (table.longest bits length).isSome ↔
      ∃ count ≤ length, (table.lookup (bits.take count)).isSome := by
  induction length with
  | zero =>
    constructor
    · intro hsome
      exact ⟨0, Nat.le_refl 0, hsome⟩
    · rintro ⟨count, hcount, hsome⟩
      obtain rfl : count = 0 := Nat.le_zero.mp hcount
      exact hsome
  | succ length ih =>
    rw [longest, Option.isSome_or, Bool.or_eq_true, ih]
    constructor
    · rintro (hsome | ⟨count, hcount, hsome⟩)
      · exact ⟨length + 1, Nat.le_refl _, hsome⟩
      · exact ⟨count, Nat.le_succ_of_le hcount, hsome⟩
    · rintro ⟨count, hcount, hsome⟩
      rcases Nat.lt_or_eq_of_le hcount with hshort | rfl
      · exact .inr ⟨count, Nat.le_of_lt_succ hshort, hsome⟩
      · exact .inl hsome

end PrefixTable

end Foundation
