import RamShield.Storage.Store
import RamShield.Types.Network

/-! # Subnet keys

Counters per subnet are kept under a word: the /24 of an IPv4 address in the low 32 bits,
the /64 of an IPv6 address in the high 64. The batch flush reads the network back from the
word and takes a word of at most 32 bits for an IPv4 key.
-/

namespace RamShield

open Foundation Store IpNetwork

/-! ## Networks of addresses -/

namespace IpNetwork

/-- `IpNetwork::ipv4_subnet`: the first three octets and a zero. -/
def ipv4Subnet (bits : BitVec 32) : IpNetwork := ⟨.v4 (bits.extractLsb' 8 24 ++ 0#8), 24⟩

/-- `IpNetwork::ipv6_subnet`: the first eight octets and zeros. -/
def ipv6Subnet (bits : BitVec 128) : IpNetwork := ⟨.v6 (bits.extractLsb' 64 64 ++ 0#64), 64⟩

def ofIp : IpAddr → IpNetwork
  | .v4 bits => ipv4Subnet bits
  | .v6 bits => ipv6Subnet bits

end IpNetwork

/-! ## Keys in the detector -/

def batchSubnetKeyV4 (bits : BitVec 32) : BitVec 32 :=
  (bits.extractLsb' 24 8).setWidth 32 <<< 24 ||| (bits.extractLsb' 16 8).setWidth 32 <<< 16 |||
    (bits.extractLsb' 8 8).setWidth 32 <<< 8

def batchSubnetKeyV6 (bits : BitVec 128) : BitVec 128 :=
  bits &&& 0xFFFFFFFFFFFFFFFF0000000000000000#128

/-- `batch::subnet_key`. -/
def batchSubnetKey : IpAddr → Option (BitVec 128 × IpNetwork)
  | .v4 bits => some ((batchSubnetKeyV4 bits).setWidth 128, .ipv4Subnet bits)
  | .v6 bits => some (batchSubnetKeyV6 bits, .ipv6Subnet bits)

/-- The network that `flush_batch` reconstructs from a key. -/
def networkOfKey (key : BitVec 128) : IpNetwork :=
  if key ≤ 0xFFFFFFFF#128 then .ipv4Subnet (key.setWidth 32) else .ipv6Subnet key

/-! ## Keys and networks -/

variable (bits : BitVec 32)

lemma batchSubnetKeyV4_eq : batchSubnetKeyV4 bits = bits.extractLsb' 8 24 ++ 0#8 := by
  apply BitVec.eq_of_getLsbD_eq
  intro index hindex
  simp only [batchSubnetKeyV4, BitVec.getLsbD_or, BitVec.getLsbD_shiftLeft,
    BitVec.getLsbD_setWidth, BitVec.getLsbD_extractLsb', BitVec.getLsbD_append, hindex]
  grind

def IpAddr.subnetLen : IpAddr → Nat
  | .v4 _ => 24
  | .v6 _ => 64

lemma IpAddr.subnetLen_congr {left right : IpAddr} (hfamily : left.family = right.family) :
    left.subnetLen = right.subnetLen := by
  cases left <;> cases right <;> first | rfl | cases hfamily

section

variable (ip : IpAddr)

lemma IpNetwork.family_ofIp : (ofIp ip).family = ip.family := by cases ip <;> rfl

lemma IpNetwork.prefixLen_ofIp : (ofIp ip).prefixLen = ip.subnetLen := by cases ip <;> rfl

lemma IpNetwork.ofIp_eq : ofIp ip = ⟨ip.masked ip.subnetLen, ip.subnetLen⟩ := by
  cases ip with
  | v4 bits => exact congrArg (mk · 24) (congrArg _ (@extractLsb'_append_zero 24 8 bits))
  | v6 bits => exact congrArg (mk · 64) (congrArg _ (@extractLsb'_append_zero 64 64 bits))

lemma IpNetwork.new_subnetLen : new ip ip.subnetLen = .ok (ofIp ip) := by
  rw [ofIp_eq]
  cases ip with
  | v4 bits => rfl
  | v6 bits => rfl

lemma IpNetwork.valid_ofIp : (ofIp ip).Valid := valid_of_new (new_subnetLen ip)

/-- The network address of a canonical subnet lies in it. -/
lemma IpNetwork.ofIp_addr : ofIp (ofIp ip).addr = ofIp ip := by
  rw [ofIp_eq ip, ofIp_eq]
  cases ip with
  | v4 bits => exact congrArg (mk · 24) (IpAddr.masked_masked (.v4 bits) 24)
  | v6 bits => exact congrArg (mk · 64) (IpAddr.masked_masked (.v6 bits) 64)

lemma subnetKeyU128_eq : subnetKeyU128 ip = some (ofIp ip).pack := by
  rw [ofIp_eq]
  cases ip with
  | v4 bits =>
    have hmask : 0xFFFFFF00#32 = prefixMask 32 24 := by decide
    rw [subnetKeyU128, hmask]
    rfl
  | v6 bits =>
    have hmask : 0xFFFFFFFFFFFFFFFF0000000000000000#128 = prefixMask 128 64 := by decide
    rw [subnetKeyU128, hmask]
    rfl

lemma batchSubnetKey_eq : batchSubnetKey ip = (subnetKeyU128 ip).map fun key => (key, ofIp ip) := by
  cases ip with
  | v4 bits =>
    rw [subnetKeyU128_eq, batchSubnetKey, batchSubnetKeyV4_eq]
    rfl
  | v6 bits => rfl

end

/-- The subnet of the unspecified IPv4 address, 0.0.0.0/24. -/
def zeroSubnetV4 : IpNetwork := ⟨.v4 0, 24⟩

/-- The subnet ::/64, which holds the loopback and the IPv4-mapped addresses. -/
def zeroSubnetV6 : IpNetwork := ⟨.v6 0, 64⟩

lemma contains_zeroSubnetV4_iff (ip : IpAddr) :
    zeroSubnetV4.contains ip ↔ ofIp ip = zeroSubnetV4 := by
  rw [IpNetwork.Valid.contains_iff_new (by decide)]
  cases ip with
  | v4 bits =>
    change IpNetwork.new (.v4 bits) (IpAddr.v4 bits).subnetLen = _ ↔ _
    rw [new_subnetLen, Except.ok.injEq]
  | v6 bits =>
    refine iff_of_false (fun hnew => ?_) nofun
    cases hnew

lemma contains_zeroSubnetV6_iff (ip : IpAddr) :
    zeroSubnetV6.contains ip ↔ ofIp ip = zeroSubnetV6 := by
  rw [IpNetwork.Valid.contains_iff_new (by decide)]
  cases ip with
  | v4 bits =>
    refine iff_of_false (fun hnew => ?_) nofun
    cases hnew
  | v6 bits =>
    change IpNetwork.new (.v6 bits) (IpAddr.v6 bits).subnetLen = _ ↔ _
    rw [new_subnetLen, Except.ok.injEq]

/-! ## What a key denotes -/

lemma pack_ofIp_v4_lt : (ofIp (.v4 bits)).pack.toNat < 2 ^ 32 := by
  rw [ofIp_eq]
  change (BitVec.setWidth 128 (bits &&& prefixMask 32 24)).toNat < 2 ^ 32
  rw [BitVec.toNat_setWidth]
  exact (Nat.mod_le _ _).trans_lt (BitVec.isLt _)

lemma pack_ofIp_v6_lt_iff (bits : BitVec 128) :
    (ofIp (.v6 bits)).pack.toNat < 2 ^ 32 ↔ ofIp (.v6 bits) = zeroSubnetV6 := by
  rw [ofIp_eq, zeroSubnetV6, IpNetwork.mk.injEq]
  change (bits &&& prefixMask 128 64).toNat < 2 ^ 32 ↔
    IpAddr.v6 (bits &&& prefixMask 128 64) = .v6 0 ∧ 64 = 64
  rw [IpAddr.v6.injEq]
  constructor
  · intro hsmall
    have hlow : (bits &&& prefixMask 128 64).toNat < 2 ^ 64 := hsmall.trans (by decide)
    exact ⟨(@toNat_and_prefixMask_lt_iff 64 64 bits).mp hlow, rfl⟩
  · rintro ⟨hzero, -⟩
    rw [hzero]
    decide

lemma le_low_iff (key : BitVec 128) : key ≤ 0xFFFFFFFF#128 ↔ key.toNat < 2 ^ 32 := by
  rw [BitVec.le_def]
  exact Nat.lt_succ_iff.symm

/-- The flush reads back the subnet of an IPv4 address. -/
lemma networkOfKey_v4 : networkOfKey (ofIp (.v4 bits)).pack = ofIp (.v4 bits) := by
  have haddr : IpAddr.v4 (BitVec.setWidth 32 (ofIp (.v4 bits)).pack) = (ofIp (.v4 bits)).addr := by
    change IpAddr.v4 (BitVec.setWidth 32 (BitVec.setWidth 128 _)) = .v4 _
    rw [BitVec.setWidth_setWidth_of_le _ (by decide), BitVec.setWidth_eq]
  rw [networkOfKey, if_pos ((le_low_iff _).mpr (pack_ofIp_v4_lt bits))]
  change ofIp (.v4 (BitVec.setWidth 32 (ofIp (.v4 bits)).pack)) = _
  rw [haddr, ofIp_addr]

lemma networkOfKey_v6_iff (bits : BitVec 128) :
    networkOfKey (ofIp (.v6 bits)).pack = ofIp (.v6 bits) ↔ ofIp (.v6 bits) ≠ zeroSubnetV6 := by
  rw [networkOfKey]
  split
  next hlow =>
    rw [le_low_iff, pack_ofIp_v6_lt_iff] at hlow
    exact iff_of_false nofun (not_not.mpr hlow)
  next hhigh =>
    rw [le_low_iff, pack_ofIp_v6_lt_iff] at hhigh
    exact iff_of_true (ofIp_addr (.v6 bits)) hhigh

lemma ofIp_eq_of_pack {ip other : IpAddr} (hfamily : ip.family = other.family)
    (hpack : (ofIp ip).pack = (ofIp other).pack) : ofIp ip = ofIp other := by
  have hip := (valid_ofIp ip).unpack_pack
  have hother := (valid_ofIp other).unpack_pack
  rw [family_ofIp, prefixLen_ofIp] at hip hother
  rw [hpack, hfamily, IpAddr.subnetLen_congr hfamily, hother] at hip
  exact (Except.ok.inj hip).symm

/-- The addresses that share the key zero across the families. -/
def ShareZeroKey (ip other : IpAddr) : Prop :=
  zeroSubnetV4.contains ip ∧ zeroSubnetV6.contains other ∨
    zeroSubnetV6.contains ip ∧ zeroSubnetV4.contains other

lemma pack_v4_eq_pack_v6_iff (others : BitVec 128) :
    (ofIp (.v4 bits)).pack = (ofIp (.v6 others)).pack ↔
      ofIp (.v4 bits) = zeroSubnetV4 ∧ ofIp (.v6 others) = zeroSubnetV6 := by
  constructor
  · intro hpack
    have hzero : ofIp (.v6 others) = zeroSubnetV6 := by
      rw [← pack_ofIp_v6_lt_iff, ← hpack]
      exact pack_ofIp_v4_lt bits
    refine ⟨?_, hzero⟩
    rw [← networkOfKey_v4, hpack, hzero]
    decide
  · rintro ⟨hleft, hright⟩
    rw [hleft, hright]
    rfl

/-- The store and the detector give an address the same key, the network read back from it
is the address's own, and equal keys mean one subnet: the last two exactly outside ::/64,
whose key is that of 0.0.0.0/24. -/
theorem subnet_keys_denote_iff (ip other : IpAddr) :
    (batchSubnetKey ip).map Prod.fst = subnetKeyU128 ip ∧
    ((subnetKeyU128 ip).map networkOfKey = some (IpNetwork.ofIp ip) ↔ ¬zeroSubnetV6.contains ip) ∧
    ((subnetKeyU128 ip = subnetKeyU128 other → IpNetwork.ofIp ip = IpNetwork.ofIp other) ↔
      ¬ShareZeroKey ip other) := by
  refine ⟨?_, ?_, ?_⟩
  · rw [batchSubnetKey_eq, Option.map_map]
    exact Option.map_id'
  · rw [subnetKeyU128_eq, Option.map_some, Option.some.injEq, contains_zeroSubnetV6_iff]
    cases ip with
    | v4 bits => exact iff_of_true (networkOfKey_v4 bits) nofun
    | v6 bits => exact networkOfKey_v6_iff bits
  · rw [subnetKeyU128_eq, subnetKeyU128_eq, Option.some.injEq, ShareZeroKey,
      contains_zeroSubnetV4_iff, contains_zeroSubnetV4_iff, contains_zeroSubnetV6_iff,
      contains_zeroSubnetV6_iff]
    cases ip with
    | v4 bits =>
      cases other with
      | v4 others =>
        refine iff_of_true (ofIp_eq_of_pack rfl) ?_
        rintro (⟨-, hzero⟩ | ⟨hzero, -⟩) <;> cases hzero
      | v6 others =>
        -- Across the families no two subnets are equal, so equal keys are the zero key.
        rw [pack_v4_eq_pack_v6_iff, or_iff_left (fun hzero => by cases hzero.1)]
        constructor
        · intro himp hzero
          cases himp hzero
        · intro hnot hzero
          exact absurd hzero hnot
    | v6 bits =>
      cases other with
      | v4 others =>
        rw [eq_comm, pack_v4_eq_pack_v6_iff, or_iff_right (fun hzero => by cases hzero.1), and_comm]
        constructor
        · intro himp hzero
          cases himp hzero
        · intro hnot hzero
          exact absurd hzero hnot
      | v6 others =>
        refine iff_of_true (ofIp_eq_of_pack rfl) ?_
        rintro (⟨hzero, -⟩ | ⟨-, hzero⟩) <;> cases hzero

/-- The loopback addresses: ::1 has the key of 0.0.0.1, and the flush takes its subnet for
0.0.0.0/24. -/
theorem loopback_key_of_v4 :
    subnetKeyU128 (.v6 1) = subnetKeyU128 (.v4 1) ∧
      (subnetKeyU128 (.v6 1)).map networkOfKey = some zeroSubnetV4 ∧
      IpNetwork.ofIp (.v6 1) = zeroSubnetV6 := by
  decide

end RamShield
