import Mathlib.Data.List.DropRight
import RamShield.Types.Network

/-! # Three tests of membership

The types crate, the native engine and the configuration each test whether a network
contains an address, the last one on the text of the network.
-/

namespace RamShield

open Foundation

namespace IpNetwork

/-- `network_contains` of the native engine. -/
def networkContains (network : IpNetwork) (ip : IpAddr) : Bool :=
  match network.addr, ip with
  | .v4 net, .v4 host => sameNetwork network.prefixLen net host
  | .v6 net, .v6 host => sameNetwork network.prefixLen net host
  | _, _ => false
where
  sameNetwork {width : Nat} (bits : Nat) (net host : BitVec width) : Bool :=
    if bits = 0 then true
    else net &&& BitVec.allOnes width <<< (width - bits) ==
      host &&& BitVec.allOnes width <<< (width - bits)

lemma contains_eq (network : IpNetwork) (ip : IpAddr) :
    network.contains ip =
      match network.addr, ip with
      | .v4 net, .v4 host =>
        net &&& prefixMask 32 network.prefixLen == host &&& prefixMask 32 network.prefixLen
      | .v6 net, .v6 host =>
        net &&& prefixMask 128 network.prefixLen == host &&& prefixMask 128 network.prefixLen
      | _, _ => false := by
  obtain ⟨addr, prefixLen⟩ := network
  cases addr <;> cases ip <;> simp [contains, IpAddr.family, IpAddr.masked, beq_eq_decide]

lemma networkContains_eq (network : IpNetwork) (ip : IpAddr) :
    network.networkContains ip = network.contains ip := by
  have hsame {width : Nat} (bits : Nat) (net host : BitVec width) :
      networkContains.sameNetwork bits net host =
        (net &&& prefixMask width bits == host &&& prefixMask width bits) := by
    unfold networkContains.sameNetwork prefixMask
    split
    · simp
    · rfl
  rw [contains_eq]
  unfold networkContains
  simp only [hsame]

end IpNetwork

/-! ## Texts -/

def isWhitespace (char : Char) : Bool :=
  let code := char.toNat
  decide (9 ≤ code ∧ code ≤ 13 ∨ 0x2000 ≤ code ∧ code ≤ 0x200a) ||
    [0x20, 0x85, 0xa0, 0x1680, 0x2028, 0x2029, 0x202f, 0x205f, 0x3000].contains code

/-- `str::trim`. -/
def trim (text : List Char) : List Char := (text.dropWhile isWhitespace).rdropWhile isWhitespace

/-- `str::parse::<u32>`, which takes a plus sign in front. -/
def parseU32 (text : List Char) : Option Nat :=
  let digits := if text.head? = some '+' then text.tail else text
  let value := Nat.ofDigitChars 10 digits 0
  if digits ≠ [] ∧ digits.all Char.isDigit ∧ value < 2 ^ 32 then some value else none

def AddrChar (char : Char) : Prop :=
  46 ≤ char.toNat ∧ char.toNat ≤ 58 ∧ char.toNat ≠ 47 ∨ 97 ≤ char.toNat ∧ char.toNat ≤ 102

/-! ### Dotted decimal -/

def octets (bits : BitVec 32) : List Nat :=
  [bits.toNat / 2 ^ 24, bits.toNat / 2 ^ 16 % 256, bits.toNat / 2 ^ 8 % 256, bits.toNat % 256]

/-- `Display` of `Ipv4Addr`. -/
def writeV4 (bits : BitVec 32) : List Char :=
  ['.'].intercalate ((octets bits).map (Nat.toDigits 10))

def readOctet (part : List Char) : Option Nat :=
  let value := Nat.ofDigitChars 10 part 0
  if value < 256 ∧ part = Nat.toDigits 10 value then some value else none

/-- `Ipv4Addr::from_str`. -/
def parseV4 (text : List Char) : Option (BitVec 32) :=
  match text.splitOn '.' with
  | [first, second, third, fourth] => do
    let first ← readOctet first
    let second ← readOctet second
    let third ← readOctet third
    let fourth ← readOctet fourth
    some (.ofNat 32 (((first * 256 + second) * 256 + third) * 256 + fourth))
  | _ => none

/-! ### Both families -/

/-- How the standard library writes and reads IPv6 addresses. -/
structure AddrText where
  writeV6 : BitVec 128 → List Char
  parseV6 : List Char → Option (BitVec 128)
  parseV6_writeV6 (bits : BitVec 128) : parseV6 (writeV6 bits) = some bits
  addrChar_writeV6 (bits : BitVec 128) : ∀ char ∈ writeV6 bits, AddrChar char
  colon_mem {entry : List Char} (haddr : (parseV6 entry).isSome) : ':' ∈ entry

namespace AddrText

variable (text : AddrText)

def write : IpAddr → List Char
  | .v4 bits => writeV4 bits
  | .v6 bits => text.writeV6 bits

/-- `IpAddr::from_str`. -/
def parse (entry : List Char) : Option IpAddr :=
  match parseV4 entry with
  | some bits => some (.v4 bits)
  | none => (text.parseV6 entry).map .v6

/-- `Display` of a network. -/
def display (network : IpNetwork) : List Char :=
  text.write network.addr ++ '/' :: Nat.toDigits 10 network.prefixLen

def cidrContains (entry : List Char) (peer : IpAddr) : Bool :=
  let entry := trim entry
  if '/' ∉ entry then decide (text.parse entry = some peer)
  else
    match parseU32 (trim (entry.dropWhile (· != '/')).tail) with
    | none => false
    | some bits =>
      match text.parse (trim (entry.takeWhile (· != '/'))), peer with
      | some (.v4 net), .v4 peer =>
        decide (bits ≤ 32) && (net &&& prefixMask 32 bits == peer &&& prefixMask 32 bits)
      | some (.v6 net), .v6 peer =>
        decide (bits ≤ 128) && (net &&& prefixMask 128 bits == peer &&& prefixMask 128 bits)
      | _, _ => false

end AddrText

lemma trim_eq_self {text : List Char} (hplain : ∀ char ∈ text, isWhitespace char = false) :
    trim text = text := by
  have hfront : text.dropWhile isWhitespace = text := by
    cases text with
    | nil => rfl
    | cons char text => rw [List.dropWhile_cons, hplain char List.mem_cons_self]; rfl
  rw [trim, hfront, List.rdropWhile_eq_self_iff]
  intro hne
  rw [hplain _ (List.getLast_mem hne)]
  exact Bool.false_ne_true

lemma AddrChar.plain {char : Char} (hchar : AddrChar char) :
    char ≠ '/' ∧ char ≠ ',' ∧ isWhitespace char = false := by
  unfold AddrChar at hchar
  refine ⟨?_, ?_, ?_⟩
  · rintro rfl
    exact absurd hchar (by decide)
  · rintro rfl
    exact absurd hchar (by decide)
  · simp only [isWhitespace, List.contains_eq_mem, Bool.or_eq_false_iff, decide_eq_false_iff_not,
      List.mem_cons, List.not_mem_nil, or_false]
    omega

/-! ### The texts of numbers and addresses -/

section Decimal

variable {number : Nat} {char : Char}

lemma digit_of_mem_decimal (hchar : char ∈ Nat.toDigits 10 number) :
    48 ≤ char.toNat ∧ char.toNat ≤ 57 := by
  have hdigit := Nat.isDigit_of_mem_toDigits (by decide) le_rfl hchar
  simpa [Char.isDigit, UInt32.le_iff_toNat_le] using hdigit

lemma addrChar_decimal (hchar : char ∈ Nat.toDigits 10 number) : AddrChar char := by
  have hdigit := digit_of_mem_decimal hchar
  unfold AddrChar
  omega

lemma parseU32_decimal (hword : number < 2 ^ 32) :
    parseU32 (Nat.toDigits 10 number) = some number := by
  have hsign : (Nat.toDigits 10 number).head? ≠ some '+' := by
    intro hhead
    exact absurd (digit_of_mem_decimal (List.mem_of_mem_head? hhead)) (by decide)
  have hdigits : (Nat.toDigits 10 number).all Char.isDigit := List.all_eq_true.mpr fun char hchar =>
    Nat.isDigit_of_mem_toDigits (by decide) le_rfl hchar
  simpa [parseU32, hsign, hdigits, Nat.ofDigitChars_toDigits] using hword

end Decimal

lemma readOctet_eq_some {part : List Char} {value : Nat} :
    readOctet part = some value ↔ value < 256 ∧ part = Nat.toDigits 10 value := by
  simp only [readOctet, Option.ite_none_right_eq_some, Option.some.injEq]
  constructor
  · rintro ⟨hread, rfl⟩
    exact hread
  · rintro ⟨hbyte, rfl⟩
    simp [Nat.ofDigitChars_toDigits, hbyte]

lemma mem_writeV4 {bits : BitVec 32} {char : Char} (hchar : char ∈ writeV4 bits) :
    char = '.' ∨ 48 ≤ char.toNat ∧ char.toNat ≤ 57 := by
  simp only [writeV4, octets, List.intercalate, List.map_cons, List.map_nil, List.intersperse,
    List.flatten_cons, List.flatten_nil, List.mem_append, List.mem_singleton] at hchar
  rcases hchar with hdigit | hdot | hdigit | hdot | hdigit | hdot | hdigit | hnone
  all_goals first | exact .inl ‹_› | exact .inr (digit_of_mem_decimal ‹_›) | cases hnone

lemma splitOn_writeV4 (bits : BitVec 32) :
    (writeV4 bits).splitOn '.' = (octets bits).map (Nat.toDigits 10) := by
  refine List.splitOn_intercalate '.' ?_ (by simp [octets])
  simp only [List.mem_map, forall_exists_index, and_imp, forall_apply_eq_imp_iff₂]
  intro value _ hdot
  exact absurd (digit_of_mem_decimal hdot) (by decide)

/-- Exactly the dotted text of an address is read as that address. -/
lemma parseV4_eq_some {entry : List Char} {bits : BitVec 32} :
    parseV4 entry = some bits ↔ entry = writeV4 bits := by
  unfold parseV4
  constructor
  · intro hparse
    split at hparse
    next hsplit =>
      simp only [bind, Option.bind_eq_some_iff, readOctet_eq_some, Option.some.injEq] at hparse
      obtain ⟨first, ⟨_, rfl⟩, second, ⟨_, rfl⟩, third, ⟨_, rfl⟩, fourth, ⟨_, rfl⟩, rfl⟩ := hparse
      have hoctets : octets (.ofNat 32 (((first * 256 + second) * 256 + third) * 256 + fourth)) =
          [first, second, third, fourth] := by
        simp only [octets, BitVec.toNat_ofNat, List.cons.injEq, and_true]
        omega
      have hjoined : ['.'].intercalate (entry.splitOn '.') = entry := List.intercalate_splitOn '.'
      rw [writeV4, hoctets, ← hjoined, hsplit]
      rfl
    next => cases hparse
  · rintro rfl
    have hbits := bits.isLt
    have hread (value : Nat) (hbyte : value < 256) :
        readOctet (Nat.toDigits 10 value) = some value := readOctet_eq_some.mpr ⟨hbyte, rfl⟩
    rw [splitOn_writeV4]
    simp only [octets, List.map_cons, List.map_nil]
    rw [hread _ (by omega), hread _ (by omega), hread _ (by omega), hread _ (by omega)]
    simp only [bind, Option.bind_some, Option.some.injEq]
    apply BitVec.eq_of_toNat_eq
    rw [BitVec.toNat_ofNat]
    omega

namespace AddrText

variable (text : AddrText)

lemma addrChar_write (ip : IpAddr) : ∀ char ∈ text.write ip, AddrChar char := by
  cases ip with
  | v4 bits =>
    intro char hchar
    rcases mem_writeV4 hchar with rfl | hdigit <;> unfold AddrChar
    · decide
    · omega
  | v6 bits => exact text.addrChar_writeV6 bits

variable {text} {entry : List Char}

lemma parse_eq_v4 {bits : BitVec 32} :
    text.parse entry = some (.v4 bits) ↔ entry = writeV4 bits := by
  rw [← parseV4_eq_some, parse]
  cases parseV4 entry with
  | some found => simp
  | none => simp

lemma parse_eq_v6 {bits : BitVec 128} :
    text.parse entry = some (.v6 bits) ↔ text.parseV6 entry = some bits := by
  unfold parse
  cases hdotted : parseV4 entry with
  | none => simp
  | some found =>
    refine iff_of_false (by simp) fun hparse => ?_
    have hcolon := text.colon_mem (Option.isSome_of_eq_some hparse)
    rw [parseV4_eq_some.mp hdotted] at hcolon
    exact absurd (mem_writeV4 hcolon) (by decide)

variable (text)

lemma parse_write (ip : IpAddr) : text.parse (text.write ip) = some ip := by
  cases ip with
  | v4 bits => exact parse_eq_v4.mpr rfl
  | v6 bits => exact parse_eq_v6.mpr (text.parseV6_writeV6 bits)

variable (network : IpNetwork)

lemma trim_display : trim (text.display network) = text.display network := by
  apply trim_eq_self
  intro char hchar
  rcases List.mem_append.mp hchar with haddr | hrest
  · exact (text.addrChar_write _ char haddr).plain.2.2
  · rcases List.mem_cons.mp hrest with rfl | hdigit
    · decide
    · exact (addrChar_decimal hdigit).plain.2.2

lemma split_display :
    (text.display network).takeWhile (· != '/') = text.write network.addr ∧
      (text.display network).dropWhile (· != '/') = '/' :: Nat.toDigits 10 network.prefixLen := by
  have hnone : ∀ char ∈ text.write network.addr, (char != '/') :=
    fun char hchar => bne_iff_ne.mpr (text.addrChar_write _ char hchar).plain.1
  rw [display, List.takeWhile_append_of_pos hnone, List.dropWhile_append_of_pos hnone]
  simp

/-- The three tests agree. -/
theorem contains_agree (hvalid : network.Valid) (ip : IpAddr) :
    network.networkContains ip = network.contains ip ∧
      text.cidrContains (text.display network) ip = network.contains ip := by
  refine ⟨network.networkContains_eq ip, ?_⟩
  have hmember : '/' ∈ text.display network := List.mem_append_right _ List.mem_cons_self
  have hlen := (IpNetwork.valid_iff.mp hvalid).1
  obtain ⟨hnet, hrest⟩ := text.split_display network
  rw [cidrContains, trim_display, if_neg (not_not.mpr hmember), hnet, hrest, List.tail_cons,
    trim_eq_self (fun _ hchar => (addrChar_decimal hchar).plain.2.2),
    parseU32_decimal ((hlen.trans network.addr.maxPrefix_le).trans_lt (by decide)),
    trim_eq_self (fun char hchar => (text.addrChar_write _ char hchar).plain.2.2),
    text.parse_write, IpNetwork.contains_eq]
  obtain ⟨addr, prefixLen⟩ := network
  cases addr <;> cases ip <;> simp_all [IpAddr.maxPrefix]

/-! ### Full IPv6 texts -/

/-- The digits of an address in groups of four, the form that abbreviates nothing. -/
def groups : Nat → Nat → List Char
  | 0, _ => []
  | count + 1, value =>
    groups count (value / 16) ++ (if 0 < count ∧ count % 4 = 0 then [':'] else []) ++
      [Nat.digitChar (value % 16)]

def readDigit (value : Nat) (char : Char) : Nat :=
  if char = ':' then value
  else 16 * value + if char.isDigit then char.toNat - 48 else char.toNat - 87

lemma digitChar_spec {digit : Nat} (hdigit : digit < 16) :
    AddrChar (Nat.digitChar digit) ∧
      ∀ value, readDigit value (Nat.digitChar digit) = 16 * value + digit := by
  have hall : ∀ digit < 16, AddrChar (Nat.digitChar digit) ∧ Nat.digitChar digit ≠ ':' ∧
      (if (Nat.digitChar digit).isDigit then (Nat.digitChar digit).toNat - 48
        else (Nat.digitChar digit).toNat - 87) = digit := by
    unfold AddrChar
    decide
  obtain ⟨haddr, hcolon, hdigit⟩ := hall digit hdigit
  exact ⟨haddr, fun value => by rw [readDigit, if_neg hcolon, hdigit]⟩

lemma addrChar_groups (count value : Nat) : ∀ char ∈ groups count value, AddrChar char := by
  induction count generalizing value with
  | zero => simp [groups]
  | succ count ih =>
    intro char hchar
    rcases List.mem_append.mp hchar with hfront | hlast
    · rcases List.mem_append.mp hfront with hfront | hcolon
      · exact ih _ char hfront
      · split at hcolon <;> simp_all [AddrChar]
    · rw [List.mem_singleton.mp hlast]
      exact (digitChar_spec (Nat.mod_lt _ (by decide))).1

lemma foldl_groups (count value : Nat) (hfits : value < 16 ^ count) :
    (groups count value).foldl readDigit 0 = value := by
  induction count generalizing value with
  | zero => simpa [groups, eq_comm] using hfits
  | succ count ih =>
    have hfront := ih (value / 16) (by rw [pow_succ] at hfits; omega)
    have hcolon : (if 0 < count ∧ count % 4 = 0 then [':'] else []).foldl readDigit (value / 16) =
        value / 16 := by
      split <;> rfl
    rw [groups, List.foldl_append, List.foldl_append, hfront, hcolon, List.foldl_cons,
      (digitChar_spec (Nat.mod_lt _ (by decide))).2, List.foldl_nil]
    omega

/-- The texts without abbreviation. -/
def full : AddrText where
  writeV6 bits := groups 32 bits.toNat
  parseV6 entry :=
    let bits := BitVec.ofNat 128 (entry.foldl readDigit 0)
    if entry = groups 32 bits.toNat then some bits else none
  parseV6_writeV6 bits := by
    have hread := foldl_groups 32 bits.toNat (lt_of_lt_of_eq bits.isLt (by decide))
    simp [hread]
  addrChar_writeV6 bits := addrChar_groups 32 bits.toNat
  colon_mem {entry} haddr := by
    have htext := (Option.isSome_ite.mp haddr)
    rw [htext]
    simp [groups]

theorem contains_agree_subnet :
    full.cidrContains "10.1.0.0/16".toList (.v4 0x0a010203#32) =
      IpNetwork.contains ⟨.v4 0x0a010000#32, 16⟩ (.v4 0x0a010203#32) :=
  (full.contains_agree ⟨.v4 0x0a010000#32, 16⟩ (by decide) _).2

end AddrText

end RamShield
