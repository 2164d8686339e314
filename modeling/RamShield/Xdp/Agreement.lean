import RamShield.Foundation.Run
import RamShield.Xdp.Dataplane

/-! # The dataplane agrees with the control plane

The control plane as it is meant: when and for how long each address was blocked, and the
set of blocked networks. After any calls the maps refine it, and the program drops a frame
exactly if the control plane blocks its source.
-/

namespace RamShield

open Foundation Foundation.Machine List Finset

/-! ## The control plane -/

/-- A network that `IpNetwork::new` has built. -/
abbrev Cidr := { network : IpNetwork // network.Valid }

/-- Blocked addresses with time and TTL of the last call, and blocked networks. -/
structure ControlPlane where
  blocks : Table IpAddr (Nat × Nat)
  networks : Finset Cidr

def ControlPlane.empty : ControlPlane := ⟨∅, ∅⟩

/-- Blocked for good, for a time that is not over, or in a blocked network. -/
def ControlPlane.Blocks (control : ControlPlane) (now : Nat) (ip : IpAddr) : Prop :=
  (∃ block ∈ control.blocks.lookup ip, block.2 = 0 ∨ now < block.1 + block.2 * secNs) ∨
    ∃ network ∈ control.networks, network.1.contains ip = true

/-- A call of the control plane. A block comes with the reading of the clock. -/
inductive XdpOp
  | block (nowNs : Nat) (ip : IpAddr) (ttlSeconds : Nat)
  | unblock (ip : IpAddr)
  | cidrBlock (network : Cidr)
  | cidrUnblock (network : Cidr)

def XdpOp.apply (maps : XdpMaps) : XdpOp → XdpMaps
  | .block nowNs ip ttlSeconds => (maps.applyBlock nowNs ip ttlSeconds).2
  | .unblock ip => (maps.applyUnblock ip).2
  | .cidrBlock network => (maps.applyCidrBlock network.1).2
  | .cidrUnblock network => (maps.applyCidrUnblock network.1).2

def XdpOp.record (control : ControlPlane) : XdpOp → ControlPlane
  | .block nowNs ip ttlSeconds =>
    { control with blocks := control.blocks.insert ip (nowNs, ttlSeconds) }
  | .unblock ip => { control with blocks := control.blocks.erase ip }
  | .cidrBlock network => { control with networks := insert network control.networks }
  | .cidrUnblock network => { control with networks := control.networks.erase network }

/-! ## Keys -/

lemma take_bitsOf_blocklistKey (ip : IpAddr) {count : Nat} (hcount : count ≤ ip.maxPrefix) :
    (bitsOf (blocklistKey ip)).take count = ip.bits.take count := by
  cases ip with
  | v4 bits =>
    rw [blocklistKey, bitsOf_append, IpAddr.bitsOf_octets, take_append_of_le_length]
    rwa [IpAddr.length_bits]
  | v6 bits => rw [blocklistKey, IpAddr.bitsOf_octets]

lemma blocklistKey_inj {left right : IpAddr} (hfamily : left.family = right.family)
    (hkey : blocklistKey left = blocklistKey right) : left = right := by
  cases left with
  | v4 left =>
    cases right with
    | v4 right => exact congrArg _ (octets_injective (append_cancel_right hkey))
    | v6 right => cases hfamily
  | v6 left =>
    cases right with
    | v4 right => cases hfamily
    | v6 right => exact congrArg _ (@octets_injective 16 left right hkey)

namespace XdpMaps

variable (maps : XdpMaps) (map : Table (List UInt8) Nat) (trie : LpmTrie UInt8)

lemma mapFor_congr {left right : IpAddr} (hfamily : left.family = right.family) :
    maps.mapFor left = maps.mapFor right := by
  cases left <;> cases right <;> first | rfl | cases hfamily

lemma cidrMapFor_congr {left right : IpAddr} (hfamily : left.family = right.family) :
    maps.cidrMapFor left = maps.cidrMapFor right := by
  cases left <;> cases right <;> first | rfl | cases hfamily

variable (ip other : IpAddr)

lemma mapFor_withMap :
    (maps.withMap map ip).mapFor other =
      if other.family = ip.family then map else maps.mapFor other := by
  cases ip <;> cases other <;> rfl

@[simp] lemma cidrMapFor_withMap :
    (maps.withMap map ip).cidrMapFor other = maps.cidrMapFor other := by
  cases ip <;> cases other <;> rfl

lemma cidrMapFor_withCidrMap :
    (maps.withCidrMap trie ip).cidrMapFor other =
      if other.family = ip.family then trie else maps.cidrMapFor other := by
  cases ip <;> cases other <;> rfl

@[simp] lemma mapFor_withCidrMap :
    (maps.withCidrMap trie ip).mapFor other = maps.mapFor other := by
  cases ip <;> cases other <;> rfl

end XdpMaps

/-! ## Refinement -/

structure Refines (maps : XdpMaps) (control : ControlPlane) : Prop where
  entries : ∀ ip, (maps.mapFor ip).lookup (blocklistKey ip) =
    (control.blocks.lookup ip).map fun block => blocklistValue block.1 block.2
  networks : ∀ network : Cidr,
    ((maps.cidrMapFor network.1.addr).lookup network.1.prefixBits).isSome ↔
      network ∈ control.networks

namespace Refines

lemma empty : Refines .empty .empty where
  entries ip := by cases ip <;> rfl
  networks network := by
    have hnone : ∀ addr, (XdpMaps.empty.cidrMapFor addr).lookup network.1.prefixBits = none := by
      intro addr
      cases addr <;> rfl
    rw [hnone]
    exact ⟨nofun, fun hmem => absurd hmem (notMem_empty network)⟩

variable {maps : XdpMaps} {control : ControlPlane}

lemma entry (hrefines : Refines maps control) (ip : IpAddr) {map : Table (List UInt8) Nat}
    {blocks : Table IpAddr (Nat × Nat)} {entry : Option (Nat × Nat)}
    (hmap : ∀ key, map.lookup key =
      if key = blocklistKey ip then entry.map fun block => blocklistValue block.1 block.2
      else (maps.mapFor ip).lookup key)
    (hblocks : ∀ other, blocks.lookup other =
      if other = ip then entry else control.blocks.lookup other) :
    Refines (maps.withMap map ip) { control with blocks := blocks } where
  entries other := by
    rw [XdpMaps.mapFor_withMap, hblocks]
    by_cases hother : other = ip
    · rw [hother, if_pos rfl, if_pos rfl, hmap, if_pos rfl]
    · rw [if_neg hother, ← hrefines.entries other]
      split
      next hfamily =>
        have hkey : blocklistKey other ≠ blocklistKey ip := fun heq =>
          hother (blocklistKey_inj hfamily heq)
        rw [hmap, if_neg hkey, maps.mapFor_congr hfamily]
      · rfl
  networks network := by
    rw [XdpMaps.cidrMapFor_withMap]
    exact hrefines.networks network

lemma network (hrefines : Refines maps control) (network : Cidr) {trie : LpmTrie UInt8}
    {networks : Finset Cidr} {entry : Option UInt8}
    (htrie : ∀ bits, trie.lookup bits = if bits = network.1.prefixBits then entry
      else (maps.cidrMapFor network.1.addr).lookup bits)
    (hself : network ∈ networks ↔ entry.isSome)
    (hothers : ∀ other, other ≠ network → (other ∈ networks ↔ other ∈ control.networks)) :
    Refines (maps.withCidrMap trie network.1.addr) { control with networks := networks } where
  entries ip := by
    rw [XdpMaps.mapFor_withCidrMap]
    exact hrefines.entries ip
  networks other := by
    rw [XdpMaps.cidrMapFor_withCidrMap]
    by_cases hother : other = network
    · rw [hother, if_pos rfl, htrie, if_pos rfl, hself]
    · rw [hothers other hother, ← hrefines.networks other]
      split
      next hfamily =>
        have hbits : other.1.prefixBits ≠ network.1.prefixBits := fun heq =>
          hother (Subtype.ext (other.2.eq_of_prefixBits network.2 hfamily heq))
        rw [htrie, if_neg hbits, maps.cidrMapFor_congr hfamily]
      · rfl

lemma take_cidrKey (network : Cidr) :
    (cidrKey network.1).prefixLen ≤ 128 ∧
      (bitsOf (cidrKey network.1).data).take (cidrKey network.1).prefixLen =
        network.1.prefixBits := by
  have hlength := (IpNetwork.valid_iff.mp network.2).1
  have hmax : network.1.addr.maxPrefix ≤ 128 := by
    cases network.1.addr with
    | v4 bits => exact Nat.le_of_ble_eq_true rfl
    | v6 bits => exact Nat.le_refl 128
  exact ⟨hlength.trans hmax, take_bitsOf_blocklistKey network.1.addr hlength⟩

lemma step (hrefines : Refines maps control) (op : XdpOp) :
    Refines (op.apply maps) (op.record control) := by
  cases op with
  | block nowNs ip ttlSeconds =>
    exact hrefines.entry ip (Table.lookup_insert_eq _ _ · _) (Table.lookup_insert_eq _ _ · _)
  | unblock ip =>
    refine hrefines.entry ip ?_ (Table.lookup_erase_eq _ _)
    exact lookup_removeEntry _ _
  | cidrBlock network =>
    obtain ⟨hlength, hbits⟩ := take_cidrKey network
    have htrie := (maps.cidrMapFor network.1.addr).lookup_insertKey hlength 1
    rw [hbits] at htrie
    refine hrefines.network network htrie ?_ fun other hother => ?_
    · exact ⟨fun _ => rfl, fun _ => mem_insert_self _ _⟩
    · rw [mem_insert, or_iff_right hother]
  | cidrUnblock network =>
    obtain ⟨hlength, hbits⟩ := take_cidrKey network
    have htrie := (maps.cidrMapFor network.1.addr).lookup_removeKey hlength
    rw [hbits] at htrie
    refine hrefines.network network htrie ?_ fun other hother => ?_
    · exact ⟨fun hmem => absurd hmem (notMem_erase _ _), nofun⟩
    · rw [mem_erase, and_iff_right hother]

/-- The maps refine the control plane after every sequence of calls. -/
lemma run (ops : List XdpOp) :
    Refines (Machine.run XdpOp.apply .empty ops) (Machine.run XdpOp.record .empty ops) := by
  have hrun : ∀ maps control, Refines maps control →
      Refines (Machine.run XdpOp.apply maps ops) (Machine.run XdpOp.record control ops) := by
    induction ops with
    | nil => exact fun maps control hrefines => hrefines
    | cons op ops ih => exact fun maps control hrefines => ih _ _ (hrefines.step op)
  exact hrun _ _ .empty

/-! ## Lookups -/

lemma isSome_getKey_iff (hrefines : Refines maps control) (ip : IpAddr) :
    ((maps.cidrMapFor ip).getKey ⟨ip.maxPrefix, blocklistKey ip⟩).isSome ↔
      ∃ network ∈ control.networks, network.1.contains ip := by
  rw [LpmTrie.getKey, PrefixTable.isSome_longest_iff]
  constructor
  · rintro ⟨count, hcount, hsome⟩
    obtain ⟨network, hvalid, hfamily, hlength, hbits⟩ := IpNetwork.exists_valid ip hcount
    rw [take_bitsOf_blocklistKey ip hcount, ← hbits, ← maps.cidrMapFor_congr hfamily] at hsome
    refine ⟨⟨network, hvalid⟩, (hrefines.networks ⟨network, hvalid⟩).mp hsome, ?_⟩
    rw [hvalid.contains_iff, hlength]
    exact ⟨hfamily, hbits⟩
  · rintro ⟨network, hmem, hcontains⟩
    obtain ⟨hfamily, hbits⟩ := (network.2.contains_iff ip).mp hcontains
    have hlength : network.1.prefixLen ≤ ip.maxPrefix := by
      rw [← IpAddr.maxPrefix_congr hfamily]
      exact (IpNetwork.valid_iff.mp network.2).1
    have hsome := (hrefines.networks network).mpr hmem
    rw [hbits, maps.cidrMapFor_congr hfamily] at hsome
    refine ⟨network.1.prefixLen, hlength, ?_⟩
    rw [take_bitsOf_blocklistKey ip hlength]
    exact hsome

/-- An entry stands as long as it was asked for. -/
lemma lt_blocklistValue_iff {now : Nat} (hclock : now < u64Max) (nowNs ttlSeconds : Nat) :
    now < blocklistValue nowNs ttlSeconds ↔ ttlSeconds = 0 ∨ now < nowNs + ttlSeconds * secNs := by
  unfold blocklistValue satAdd satMul
  split <;> omega

lemma lookupSource_iff (hrefines : Refines maps control) (slot : CounterSlot) {now : Nat}
    (hclock : now < u64Max) (ip : IpAddr) (event : List UInt8) :
    (lookupSource (maps.mapFor ip) (maps.cidrMapFor ip) slot now (blocklistKey ip) event
        ip.maxPrefix).action = .drop ↔ control.Blocks now ip := by
  have hentry : ((maps.mapFor ip).lookup (blocklistKey ip)).any (now < ·) ↔
      ∃ block ∈ control.blocks.lookup ip, block.2 = 0 ∨ now < block.1 + block.2 * secNs := by
    rw [hrefines.entries]
    simp [Option.any_eq_true, lt_blocklistValue_iff hclock]
  rw [lookupSource, ControlPlane.Blocks, ← hentry, ← hrefines.isSome_getKey_iff ip]
  split
  next hsome => exact ⟨fun _ => .inl hsome, fun _ => rfl⟩
  next hnone =>
    split
    next hsome => exact ⟨fun _ => .inr hsome, fun _ => rfl⟩
    next hnothing => exact ⟨nofun, fun heither => absurd heither (not_or.mpr ⟨hnone, hnothing⟩)⟩

end Refines

/-! ## Frames -/

/-- A VLAN tag: 802.1Q or 802.1ad, and its control information. -/
structure VlanTag where
  service : Bool
  control : UInt8 × UInt8

def VlanTag.etherType (tag : VlanTag) : List UInt8 :=
  if tag.service then [0x88, 0xa8] else [0x81, 0x00]

def VlanTag.bytes (tag : VlanTag) : List UInt8 := tag.etherType ++ [tag.control.1, tag.control.2]

/-- A packet with a complete header: the source address and what stands around it. -/
inductive Packet
  | v4 (head : List UInt8) (source : BitVec 32) (rest : List UInt8) (hhead : head.length = 12)
      (hrest : 4 ≤ rest.length)
  | v6 (head : List UInt8) (source : BitVec 128) (rest : List UInt8) (hhead : head.length = 8)
      (hrest : 16 ≤ rest.length)

namespace Packet

def source : Packet → IpAddr
  | .v4 _ source _ _ _ => .v4 source
  | .v6 _ source _ _ _ => .v6 source

def etherType : Packet → List UInt8
  | .v4 .. => [0x08, 0x00]
  | .v6 .. => [0x86, 0xdd]

def bytes : Packet → List UInt8
  | .v4 head source rest _ _ => head ++ (IpAddr.octets (.v4 source) ++ rest)
  | .v6 head source rest _ _ => head ++ (IpAddr.octets (.v6 source) ++ rest)

end Packet

/-- An Ethernet frame with at most four VLAN tags around a packet. -/
structure Frame where
  macs : List UInt8
  tags : List VlanTag
  packet : Packet
  hmacs : macs.length = 12
  htags : tags.length ≤ 4

/-- What follows the addresses of the frame: the tags, the ethertype and the packet. -/
def tagged (tags : List VlanTag) (packet : Packet) : List UInt8 :=
  tags.flatMap VlanTag.bytes ++ (packet.etherType ++ packet.bytes)

def Frame.bytes (frame : Frame) : List UInt8 := frame.macs ++ tagged frame.tags frame.packet

/-! ## Parsing -/

lemma ptrAt_append (front body : List UInt8) {length : Nat} (hlength : length ≤ body.length) :
    ptrAt (front ++ body) front.length length = some (body.take length) := by
  rw [ptrAt, if_neg, drop_left]
  rw [length_append]
  omega

namespace VlanTag

lemma length_etherType (tag : VlanTag) : tag.etherType.length = 2 := by
  rw [etherType]
  split <;> rfl

lemma leValue_etherType (tag : VlanTag) :
    ¬(leValue tag.etherType ≠ ethP8021q ∧ leValue tag.etherType ≠ ethP8021ad) := by
  rw [etherType]
  split
  · decide
  · decide

end VlanTag

namespace Packet

lemma length_etherType (packet : Packet) : packet.etherType.length = 2 := by cases packet <;> rfl

/-- The program does not take it for a tag. -/
lemma leValue_etherType (packet : Packet) :
    leValue packet.etherType ≠ ethP8021q ∧ leValue packet.etherType ≠ ethP8021ad := by
  cases packet with
  | v4 head source rest hhead hrest =>
    rw [etherType]
    decide
  | v6 head source rest hhead hrest =>
    rw [etherType]
    decide

end Packet

lemma tagged_cons (tag : VlanTag) (tags : List VlanTag) (packet : Packet) :
    tagged (tag :: tags) packet =
      tag.etherType ++ ([tag.control.1, tag.control.2] ++ tagged tags packet) := by
  rw [tagged, tagged, flatMap_cons, VlanTag.bytes, append_assoc, append_assoc]

lemma two_le_length_tagged (tags : List VlanTag) (packet : Packet) :
    2 ≤ (tagged tags packet).length := by
  cases tags with
  | nil =>
    rw [tagged, flatMap_nil, nil_append, length_append, packet.length_etherType]
    omega
  | cons tag tags =>
    rw [tagged_cons, length_append, tag.length_etherType]
    omega

lemma stripVlan_tagged (packet : Packet) {tags : List VlanTag} {turns : Nat}
    (hturns : tags.length ≤ turns) (front : List UInt8) :
    stripVlan (front ++ tagged tags packet) turns (leValue ((tagged tags packet).take 2))
        (front.length + 2) =
      some (leValue packet.etherType,
        (front ++ (tags.flatMap VlanTag.bytes ++ packet.etherType)).length) := by
  induction tags generalizing front turns with
  | nil =>
    have htake : (tagged [] packet).take 2 = packet.etherType := by
      rw [tagged, flatMap_nil, nil_append, take_left' packet.length_etherType]
    rw [htake, flatMap_nil, nil_append, length_append, packet.length_etherType]
    cases turns with
    | zero => rfl
    | succ turns => rw [stripVlan, if_pos packet.leValue_etherType]
  | cons tag tags ih =>
    obtain ⟨turns, rfl⟩ : ∃ fewer, turns = fewer + 1 :=
      ⟨turns - 1, by rw [length_cons] at hturns; omega⟩
    have hlength := two_le_length_tagged tags packet
    have hvlan : ptrAt (front ++ tagged (tag :: tags) packet) (front.length + 2) 4 =
        some ([tag.control.1, tag.control.2] ++ (tagged tags packet).take 2) := by
      have hat : front.length + 2 = (front ++ tag.etherType).length := by
        rw [length_append, tag.length_etherType]
      rw [tagged_cons, ← append_assoc, hat, ptrAt_append]
      · rfl
      · rw [length_append, length_cons, length_cons, length_nil]
        omega
    -- Behind one tag the frame is again one that starts with tags, with a longer front.
    have hnext := ih (Nat.le_of_succ_le_succ hturns) (front ++ tag.bytes)
    have hrest : front ++ tag.bytes ++ tagged tags packet =
        front ++ tagged (tag :: tags) packet := by
      rw [tagged_cons, VlanTag.bytes, append_assoc, append_assoc]
    have hoffset : (front ++ tag.bytes).length + 2 = front.length + 2 + 4 := by
      rw [length_append, VlanTag.bytes, length_append, tag.length_etherType]
      rfl
    rw [hrest, hoffset] at hnext
    have htake : (tagged (tag :: tags) packet).take 2 = tag.etherType := by
      rw [tagged_cons, take_left' tag.length_etherType]
    rw [htake, stripVlan, if_neg tag.leValue_etherType, hvlan]
    dsimp only
    rw [drop_left' (show [tag.control.1, tag.control.2].length = 2 from rfl), hnext, flatMap_cons]
    simp only [append_assoc]

def dropSlot : IpAddr → CounterSlot
  | .v4 _ => .v4Drop
  | .v6 _ => .v6Drop

lemma take_drop_source (head source rest : List UInt8) {length : Nat}
    (hlength : head.length + source.length ≤ length) :
    (((head ++ (source ++ rest)).take length).drop head.length).take source.length = source := by
  rw [drop_take, drop_left, take_take, Nat.min_eq_left (by omega), take_left]

lemma tryRamshieldXdp_frame (maps : XdpMaps) (now : Nat) (frame : Frame) :
    tryRamshieldXdp maps now frame.bytes =
      some (lookupSource (maps.mapFor frame.packet.source) (maps.cidrMapFor frame.packet.source)
        (dropSlot frame.packet.source) now (blocklistKey frame.packet.source)
        (blocklistKey frame.packet.source) frame.packet.source.maxPrefix) := by
  obtain ⟨macs, tags, packet, hmacs, htags⟩ := frame
  have heth : ptrAt (macs ++ tagged tags packet) 0 ethHdrLen =
      some ((macs ++ tagged tags packet).take ethHdrLen) := by
    have hlength : ethHdrLen ≤ (macs ++ tagged tags packet).length := by
      rw [length_append, hmacs]
      exact Nat.add_le_add_left (two_le_length_tagged tags packet) 12
    exact ptrAt_append [] _ hlength
  have hproto : ((macs ++ tagged tags packet).take ethHdrLen).drop 12 =
      (tagged tags packet).take 2 := by
    rw [drop_take, ← hmacs, drop_left, hmacs]
    rfl
  have hstrip := stripVlan_tagged packet htags macs
  have hbytes : macs ++ tagged tags packet =
      macs ++ (tags.flatMap VlanTag.bytes ++ packet.etherType) ++ packet.bytes := by
    rw [tagged, append_assoc, append_assoc]
  rw [hmacs] at hstrip
  rw [Frame.bytes, tryRamshieldXdp, heth]
  dsimp only
  rw [hproto, show ethHdrLen = 12 + 2 from rfl, hstrip]
  dsimp only
  rw [hbytes]
  -- The stripped offset is where the packet starts, whatever stands before it.
  generalize macs ++ (tags.flatMap VlanTag.bytes ++ packet.etherType) = front
  cases packet with
  | v4 head source rest hhead hrest =>
    have hoctets : (IpAddr.octets (.v4 source)).length = 4 := @length_octets 4 source
    have hsource := take_drop_source head (IpAddr.octets (.v4 source)) rest (show _ ≤ 20 by omega)
    rw [hhead, hoctets] at hsource
    rw [Packet.etherType, if_neg (by decide), if_neg (by decide), ptrAt_append]
    · dsimp only [Packet.bytes]
      rw [hsource]
      rfl
    · rw [Packet.bytes, length_append, length_append]
      omega
  | v6 head source rest hhead hrest =>
    have hoctets : (IpAddr.octets (.v6 source)).length = 16 := @length_octets 16 source
    have hsource := take_drop_source head (IpAddr.octets (.v6 source)) rest (show _ ≤ 40 by omega)
    rw [hhead, hoctets] at hsource
    rw [Packet.etherType, if_pos (by decide), ptrAt_append]
    · dsimp only [Packet.bytes]
      rw [hsource]
      rfl
    · rw [Packet.bytes, length_append, length_append]
      omega

/-- After any calls on empty maps, before the clock ends, a frame is dropped exactly if its
source address is blocked for good or for a time that is not over, or lies in a blocked
network, and passes otherwise. -/
theorem ramshieldXdp_agrees (ops : List XdpOp) (now : Nat) (hclock : now < u64Max)
    (frame : Frame) :
    let control := run XdpOp.record .empty ops
    let outcome := ramshieldXdp (run XdpOp.apply .empty ops) now frame.bytes
    (outcome.action = .drop ↔ control.Blocks now frame.packet.source) ∧
      (outcome.action = .pass ↔ ¬control.Blocks now frame.packet.source) := by
  intro control outcome
  have hdrop : outcome.action = .drop ↔ control.Blocks now frame.packet.source := by
    have hrefines : Refines (run XdpOp.apply .empty ops) control := .run ops
    rw [← hrefines.lookupSource_iff (dropSlot frame.packet.source) hclock frame.packet.source
      (blocklistKey frame.packet.source)]
    have houtcome : outcome = (tryRamshieldXdp (run XdpOp.apply .empty ops) now frame.bytes).getD
        ⟨.pass, .parseFail, none⟩ := rfl
    rw [houtcome, tryRamshieldXdp_frame, Option.getD_some]
  refine ⟨hdrop, ?_⟩
  rw [← hdrop]
  cases outcome.action with
  | drop => exact ⟨nofun, fun hpass => absurd rfl hpass⟩
  | pass => exact ⟨fun _ => nofun, fun _ => rfl⟩

/-- Behind a VLAN tag, the last nanosecond of a block for five seconds and the end of it, with
a network blocked next to the address. -/
theorem ramshieldXdp_agrees_expiry :
    let ops : List XdpOp := [.block 7 (.v4 0x0a000001#32) 5,
      .cidrBlock ⟨⟨.v4 0x0a000100#32, 24⟩, by decide⟩]
    let frame : Frame := ⟨replicate 12 0, [⟨false, 0, 1⟩],
      .v4 (replicate 12 0) 0x0a000001#32 (replicate 4 0) rfl le_rfl, rfl, by decide⟩
    (ramshieldXdp (run XdpOp.apply .empty ops) 5000000006 frame.bytes).action = .drop ∧
      (ramshieldXdp (run XdpOp.apply .empty ops) 5000000007 frame.bytes).action = .pass := by
  intro ops frame
  refine ⟨(ramshieldXdp_agrees ops _ (by decide) frame).1.mpr ?_,
    (ramshieldXdp_agrees ops _ (by decide) frame).2.mpr ?_⟩
  · exact .inl ⟨(7, 5), rfl, .inr (by decide)⟩
  rintro (⟨block, hblock, hlive⟩ | ⟨network, hmem, hcontains⟩)
  · cases hblock
    revert hlive
    decide
  · cases Finset.mem_singleton.mp hmem
    revert hcontains
    decide

end RamShield
