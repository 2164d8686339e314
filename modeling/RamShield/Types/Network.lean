import RamShield.Foundation.Prefix
import RamShield.Types.Basic

/-! # Networks

`IpNetwork::new` and `IpNetwork::contains` work on masks. A network that `new` has
built is determined by its family and the first bits of its address, and contains the
addresses of its family that begin with them. Packing a network into a word, or sending it
over the wire, loses nothing, and what comes in over the wire is built by `new`.
-/

namespace RamShield

open Foundation List

namespace IpAddr

def family : IpAddr → Nat
  | .v4 _ => 4
  | .v6 _ => 6

def maxPrefix : IpAddr → Nat
  | .v4 _ => 32
  | .v6 _ => 128

def masked (prefixLen : Nat) : IpAddr → IpAddr
  | .v4 bits => .v4 (bits &&& prefixMask 32 prefixLen)
  | .v6 bits => .v6 (bits &&& prefixMask 128 prefixLen)

/-- `octets`: the address as it stands on the wire. -/
def octets : IpAddr → List UInt8
  | .v4 bits => @Foundation.octets 4 bits
  | .v6 bits => @Foundation.octets 16 bits

def bits : IpAddr → List Bool
  | .v4 bits => msbBits bits
  | .v6 bits => msbBits bits

lemma bitsOf_octets (addr : IpAddr) : bitsOf addr.octets = addr.bits := by
  cases addr with
  | v4 bits => exact @Foundation.bitsOf_octets 4 bits
  | v6 bits => exact @Foundation.bitsOf_octets 16 bits

variable (addr : IpAddr) (prefixLen : Nat)

@[simp] lemma length_bits : addr.bits.length = addr.maxPrefix := by
  cases addr with
  | v4 bits => exact length_msbBits bits
  | v6 bits => exact length_msbBits bits

lemma maxPrefix_congr {left right : IpAddr} (hfamily : left.family = right.family) :
    left.maxPrefix = right.maxPrefix := by
  cases left <;> cases right <;> first | rfl | cases hfamily

lemma maxPrefix_le : addr.maxPrefix ≤ 128 := by
  cases addr with
  | v4 bits => exact show 32 ≤ 128 by decide
  | v6 bits => exact le_rfl

@[simp] lemma family_masked :
    (addr.masked prefixLen).family = addr.family := by
  cases addr <;> rfl

@[simp] lemma maxPrefix_masked :
    (addr.masked prefixLen).maxPrefix = addr.maxPrefix := by
  cases addr <;> rfl

@[simp] lemma masked_masked :
    (addr.masked prefixLen).masked prefixLen = addr.masked prefixLen := by
  cases addr with
  | v4 bits => exact congrArg v4 (and_prefixMask_idem bits prefixLen)
  | v6 bits => exact congrArg v6 (and_prefixMask_idem bits prefixLen)

/-- Masked addresses are equal exactly if they begin alike. -/
lemma masked_eq_iff {left right : IpAddr} (hfamily : left.family = right.family)
    {prefixLen : Nat} (hbegins : prefixLen ≤ left.maxPrefix) :
    left.masked prefixLen = right.masked prefixLen ↔
      left.bits.take prefixLen = right.bits.take prefixLen := by
  cases left with
  | v4 left =>
    cases right with
    | v4 right =>
      rw [masked, masked, v4.injEq]
      exact and_prefixMask_eq_iff hbegins left right
    | v6 right => cases hfamily
  | v6 left =>
    cases right with
    | v4 right => cases hfamily
    | v6 right =>
      rw [masked, masked, v6.injEq]
      exact and_prefixMask_eq_iff hbegins left right

lemma take_bits_masked {prefixLen : Nat} (hbegins : prefixLen ≤ addr.maxPrefix) :
    (addr.masked prefixLen).bits.take prefixLen = addr.bits.take prefixLen := by
  rw [← masked_eq_iff (family_masked addr prefixLen) (by rwa [maxPrefix_masked]), masked_masked]

end IpAddr

namespace IpNetwork

def new (addr : IpAddr) (prefixLen : Nat) : Except String IpNetwork :=
  if addr.maxPrefix < prefixLen then .error "prefix length exceeds address family maximum"
  else .ok ⟨addr.masked prefixLen, prefixLen⟩

def contains (network : IpNetwork) (ip : IpAddr) : Bool :=
  if network.addr.family ≠ ip.family then false
  else network.addr.masked network.prefixLen == ip.masked network.prefixLen

def prefixBits (network : IpNetwork) : List Bool := network.addr.bits.take network.prefixLen

/-- The networks that `new` builds. -/
def Valid (network : IpNetwork) : Prop := new network.addr network.prefixLen = .ok network

instance (network : IpNetwork) : Decidable network.Valid := inferInstanceAs (Decidable (_ = _))

variable {network : IpNetwork} {Wire : Type}

lemma valid_iff :
    network.Valid ↔ network.prefixLen ≤ network.addr.maxPrefix ∧
      network.addr.masked network.prefixLen = network.addr := by
  obtain ⟨addr, prefixLen⟩ := network
  rw [Valid, new]
  split
  next hlong => exact ⟨nofun, fun hvalid => absurd hvalid.1 (Nat.not_le.mpr hlong)⟩
  next hshort =>
    rw [Except.ok.injEq, mk.injEq]
    exact ⟨fun hsame => ⟨Nat.not_lt.mp hshort, hsame.1⟩, fun hvalid => ⟨hvalid.2, rfl⟩⟩

lemma exists_valid (ip : IpAddr) {prefixLen : Nat} (hbegins : prefixLen ≤ ip.maxPrefix) :
    ∃ network : IpNetwork, network.Valid ∧ network.addr.family = ip.family ∧
      network.prefixLen = prefixLen ∧ network.prefixBits = ip.bits.take prefixLen := by
  refine ⟨⟨ip.masked prefixLen, prefixLen⟩, ?_, ip.family_masked prefixLen, rfl,
    ip.take_bits_masked hbegins⟩
  rw [valid_iff]
  exact ⟨by rwa [IpAddr.maxPrefix_masked], ip.masked_masked prefixLen⟩

lemma Valid.contains_iff (hvalid : network.Valid) (ip : IpAddr) :
    network.contains ip ↔
      network.addr.family = ip.family ∧ network.prefixBits = ip.bits.take network.prefixLen := by
  rw [contains]
  by_cases hfamily : network.addr.family = ip.family
  · rw [if_neg (not_not.mpr hfamily), beq_iff_eq,
      IpAddr.masked_eq_iff hfamily (valid_iff.mp hvalid).1, prefixBits]
    exact ⟨fun hbegins => ⟨hfamily, hbegins⟩, fun hboth => hboth.2⟩
  · rw [if_pos hfamily]
    exact ⟨fun hfalse => absurd hfalse Bool.false_ne_true, fun hboth => absurd hboth.1 hfamily⟩

lemma Valid.eq_of_prefixBits {left right : IpNetwork} (hleft : left.Valid) (hright : right.Valid)
    (hfamily : left.addr.family = right.addr.family) (hbits : left.prefixBits = right.prefixBits) :
    left = right := by
  obtain ⟨hleftLen, hleftAddr⟩ := valid_iff.mp hleft
  obtain ⟨hrightLen, hrightAddr⟩ := valid_iff.mp hright
  obtain ⟨leftAddr, leftLen⟩ := left
  obtain ⟨rightAddr, rightLen⟩ := right
  dsimp only at hleftLen hleftAddr hrightLen hrightAddr hfamily
  obtain rfl : leftLen = rightLen := by
    have hlength := congrArg List.length hbits
    rw [prefixBits, prefixBits, length_take, length_take, IpAddr.length_bits,
      IpAddr.length_bits] at hlength
    dsimp only at hlength
    omega
  rw [← hleftAddr, ← hrightAddr, (IpAddr.masked_eq_iff hfamily hleftLen).mpr hbits]

/-! ## Words and the wire -/

def family (network : IpNetwork) : Nat := network.addr.family

def pack (network : IpNetwork) : BitVec 128 :=
  match network.addr with
  | .v4 bits => bits.setWidth 128
  | .v6 bits => bits

def unpack (packed : BitVec 128) (family prefixLen : Nat) : Except String IpNetwork :=
  if family = 4 then new (.v4 (packed.setWidth 32)) prefixLen
  else if family = 6 then new (.v6 packed) prefixLen
  else .error "invalid address family"

/-- The fields of a network on the wire. -/
structure Raw where
  addr : IpAddr
  prefixLen : Nat
  deriving DecidableEq

/-- How the fields are written and read. The prefix length is a byte. -/
structure RawFormat (Wire : Type) where
  write : Raw → Wire
  read : Wire → Except String Raw
  read_write {raw : Raw} (hbyte : raw.prefixLen < 256) : read (write raw) = .ok raw

section Wire

variable (format : RawFormat Wire)

/-- The derived `Serialize`. -/
def serialize (network : IpNetwork) : Wire := format.write ⟨network.addr, network.prefixLen⟩

def deserialize (wire : Wire) : Except String IpNetwork := do
  let raw ← format.read wire
  new raw.addr raw.prefixLen

end Wire

/-! ## Laws -/

lemma valid_of_new {addr : IpAddr} {prefixLen : Nat} (hnew : new addr prefixLen = .ok network) :
    network.Valid := by
  unfold new at hnew
  split at hnew
  · cases hnew
  next hshort =>
    cases hnew
    rw [valid_iff, IpAddr.maxPrefix_masked]
    exact ⟨Nat.not_lt.mp hshort, addr.masked_masked prefixLen⟩

lemma Valid.contains_iff_new (hvalid : network.Valid) (ip : IpAddr) :
    network.contains ip ↔ new ip network.prefixLen = .ok network := by
  obtain ⟨hshort, hmasked⟩ := valid_iff.mp hvalid
  obtain ⟨addr, prefixLen⟩ := network
  dsimp only at hshort hmasked
  rw [contains, new]
  by_cases hfamily : addr.family = ip.family
  · rw [if_neg (not_not.mpr hfamily), beq_iff_eq, hmasked,
      if_neg (Nat.not_lt.mpr (IpAddr.maxPrefix_congr hfamily ▸ hshort)), Except.ok.injEq, mk.injEq]
    exact ⟨fun hsame => ⟨hsame.symm, rfl⟩, fun hsame => hsame.1.symm⟩
  · rw [if_pos hfamily]
    refine ⟨fun hfalse => absurd hfalse Bool.false_ne_true, fun hnew => absurd ?_ hfamily⟩
    split at hnew
    · cases hnew
    rw [← (mk.inj (Except.ok.inj hnew)).1]
    exact ip.family_masked prefixLen

lemma Valid.contains_of_contains {outer inner : IpNetwork} (houter : outer.Valid)
    (hinner : inner.Valid) (hlen : outer.prefixLen ≤ inner.prefixLen)
    (haddr : outer.contains inner.addr) {ip : IpAddr} (hip : inner.contains ip) :
    outer.contains ip := by
  obtain ⟨houterFamily, houterBits⟩ := (houter.contains_iff inner.addr).mp haddr
  obtain ⟨hinnerFamily, hinnerBits⟩ := (hinner.contains_iff ip).mp hip
  rw [houter.contains_iff]
  refine ⟨houterFamily.trans hinnerFamily, houterBits.trans ?_⟩
  have htake := congrArg (List.take outer.prefixLen) hinnerBits
  rwa [prefixBits, take_take, take_take, Nat.min_eq_left hlen] at htake

lemma Valid.unpack_pack (hvalid : network.Valid) :
    unpack network.pack network.family network.prefixLen = .ok network := by
  obtain ⟨addr, prefixLen⟩ := network
  cases addr with
  | v4 bits =>
    have hbits : (bits.setWidth 128).setWidth 32 = bits := by
      rw [BitVec.setWidth_setWidth_of_le bits (by decide), BitVec.setWidth_eq]
    change new (.v4 ((bits.setWidth 128).setWidth 32)) prefixLen = _
    rw [hbits]
    exact hvalid
  | v6 bits => exact hvalid

lemma Valid.deserialize_serialize (format : RawFormat Wire) (hvalid : network.Valid) :
    deserialize format (network.serialize format) = .ok network := by
  have hbyte : network.prefixLen < 256 :=
    Nat.lt_of_le_of_lt ((valid_iff.mp hvalid).1.trans network.addr.maxPrefix_le) (by decide)
  rw [deserialize, serialize, format.read_write hbyte]
  exact hvalid

lemma valid_of_deserialize {format : RawFormat Wire} {wire : Wire}
    (hread : deserialize format wire = .ok network) : network.Valid := by
  unfold deserialize at hread
  cases hraw : format.read wire with
  | error error =>
    rw [hraw] at hread
    cases hread
  | ok raw =>
    rw [hraw] at hread
    exact valid_of_new hread

structure Lawful {Wire : Type} (format : RawFormat Wire) (network : IpNetwork) : Prop where
  renew : new network.addr network.prefixLen = .ok network
  contains_iff_new (ip : IpAddr) :
    network.contains ip = true ↔ new ip network.prefixLen = .ok network
  contains_addr : network.contains network.addr = true
  contains_iff_bits (ip : IpAddr) :
    network.contains ip = true ↔ ip.family = network.addr.family ∧
      ip.bits.take network.prefixLen = network.addr.bits.take network.prefixLen
  contains_of_inner (inner : IpNetwork) :
    inner.Valid → network.prefixLen ≤ inner.prefixLen → network.contains inner.addr = true →
      ∀ ip, inner.contains ip = true → network.contains ip = true
  unpack_pack : unpack network.pack network.family network.prefixLen = .ok network
  deserialize_serialize : deserialize format (network.serialize format) = .ok network

lemma Valid.lawful (format : RawFormat Wire) (hvalid : network.Valid) : network.Lawful format where
  renew := hvalid
  contains_iff_new := hvalid.contains_iff_new
  contains_addr := (hvalid.contains_iff_new network.addr).mpr hvalid
  contains_iff_bits ip := by
    rw [hvalid.contains_iff]
    exact and_congr eq_comm eq_comm
  contains_of_inner _ hinner hlen haddr _ hip := hvalid.contains_of_contains hinner hlen haddr hip
  unpack_pack := hvalid.unpack_pack
  deserialize_serialize := hvalid.deserialize_serialize format

/-- For every address and every prefix length of its family `new` gives a network, which
obeys the laws; and what is read from any wire is such a network. -/
theorem network_laws {Wire : Type} (format : RawFormat Wire) :
    (∀ (addr : IpAddr) (prefixLen : Nat), prefixLen ≤ addr.maxPrefix →
      ∃ network, new addr prefixLen = .ok network ∧ network.Lawful format) ∧
    ∀ (wire : Wire) (network : IpNetwork), deserialize format wire = .ok network →
      new network.addr network.prefixLen = .ok network ∧
        network.prefixLen ≤ network.addr.maxPrefix := by
  constructor
  · intro addr prefixLen hlen
    have hnew : new addr prefixLen = .ok ⟨addr.masked prefixLen, prefixLen⟩ := by
      rw [new, if_neg (Nat.not_lt.mpr hlen)]
    exact ⟨_, hnew, (valid_of_new hnew).lawful format⟩
  · intro wire network hread
    have hvalid := valid_of_deserialize hread
    exact ⟨hvalid, (valid_iff.mp hvalid).1⟩

/-- The fields themselves as the wire, and the network 10.1.2.0/23. -/
theorem network_laws_fields :
    ∃ network, new (.v4 0x0A010304#32) 23 = .ok network ∧ network.Lawful ⟨id, .ok, fun _ => rfl⟩ :=
  (network_laws ⟨id, .ok, fun _ => rfl⟩).1 _ 23 (by decide)

end IpNetwork

end RamShield
