import RamShield.Foundation.Bytes
import RamShield.Types.Network

/-! # The XDP dataplane

The four BPF maps, the calls by which the control plane changes them, and the program
that reads them for every frame. A map key is its bytes in the order of memory. A trie
entry is known by the bits of its prefix, whatever the bytes after them.
-/

namespace RamShield

open Foundation

/-! ## Maps -/

/-- What a map operation reports besides success. -/
inductive MapError
  | keyNotFound
  | invalidPrefix
  deriving DecidableEq

/-- `lpm_trie::Key` over sixteen bytes. -/
structure LpmKey where
  prefixLen : Nat
  data : List UInt8
  deriving DecidableEq

abbrev LpmTrie (V : Type) := PrefixTable V

namespace LpmTrie

variable {V : Type}

variable (trie : LpmTrie V)

/-- `insert`. The kernel refuses a prefix that is longer than the key. -/
def insertKey (key : LpmKey) (value : V) : Except MapError Unit × LpmTrie V :=
  if 128 < key.prefixLen then (.error .invalidPrefix, trie)
  else (.ok (), trie.insert ((bitsOf key.data).take key.prefixLen) value)

def removeKey (key : LpmKey) : Except MapError Unit × LpmTrie V :=
  if 128 < key.prefixLen then (.error .invalidPrefix, trie)
  else
    match trie.lookup ((bitsOf key.data).take key.prefixLen) with
    | none => (.error .keyNotFound, trie)
    | some _ => (.ok (), trie.erase ((bitsOf key.data).take key.prefixLen))

def getKey (key : LpmKey) : Option V := PrefixTable.longest trie (bitsOf key.data) key.prefixLen

lemma lookup_insertKey {key : LpmKey} (hlength : key.prefixLen ≤ 128) (value : V)
    (bits : List Bool) :
    (trie.insertKey key value).2.lookup bits =
      if bits = (bitsOf key.data).take key.prefixLen then some value else trie.lookup bits := by
  rw [insertKey, if_neg (Nat.not_lt.mpr hlength)]
  exact Table.lookup_insert_eq trie _ bits value

lemma lookup_removeKey {key : LpmKey} (hlength : key.prefixLen ≤ 128) (bits : List Bool) :
    (trie.removeKey key).2.lookup bits =
      if bits = (bitsOf key.data).take key.prefixLen then none else trie.lookup bits := by
  rw [removeKey, if_neg (Nat.not_lt.mpr hlength)]
  split
  next habsent =>
    split
    next hbits => rw [hbits, habsent]
    · rfl
  · exact Table.lookup_erase_eq trie _ bits

end LpmTrie

def removeEntry (map : Table (List UInt8) Nat) (key : List UInt8) :
    Except MapError Unit × Table (List UInt8) Nat :=
  match map.lookup key with
  | none => (.error .keyNotFound, map)
  | some _ => (.ok (), map.erase key)

lemma lookup_removeEntry (map : Table (List UInt8) Nat) (key other : List UInt8) :
    (removeEntry map key).2.lookup other = if other = key then none else map.lookup other := by
  rw [removeEntry]
  split
  next habsent =>
    split
    next hkey => rw [hkey, habsent]
    · rfl
  · exact Table.lookup_erase_eq map key other

structure XdpMaps where
  blocklist : Table (List UInt8) Nat
  blocklist6 : Table (List UInt8) Nat
  blockcidr : LpmTrie UInt8
  blockcidr6 : LpmTrie UInt8

def XdpMaps.empty : XdpMaps := ⟨∅, ∅, ∅, ∅⟩

/-! ## The control plane's side -/

/-- `BlocklistKey::from`: the octets, and zeros up to sixteen bytes. -/
def blocklistKey : IpAddr → List UInt8
  | .v4 bits => IpAddr.octets (.v4 bits) ++ List.replicate 12 0
  | .v6 bits => IpAddr.octets (.v6 bits)

/-- `blocklist_value`: the expiry on the monotonic clock; zero is permanent. -/
def blocklistValue (nowNs ttlSeconds : Nat) : Nat :=
  if ttlSeconds = 0 then u64Max else satAdd nowNs (satMul ttlSeconds secNs)

def cidrKey (network : IpNetwork) : LpmKey := ⟨network.prefixLen, blocklistKey network.addr⟩

namespace XdpMaps

variable (maps : XdpMaps)

def mapFor : IpAddr → Table (List UInt8) Nat
  | .v4 _ => maps.blocklist
  | .v6 _ => maps.blocklist6

def withMap (map : Table (List UInt8) Nat) : IpAddr → XdpMaps
  | .v4 _ => { maps with blocklist := map }
  | .v6 _ => { maps with blocklist6 := map }

def cidrMapFor : IpAddr → LpmTrie UInt8
  | .v4 _ => maps.blockcidr
  | .v6 _ => maps.blockcidr6

def withCidrMap (trie : LpmTrie UInt8) : IpAddr → XdpMaps
  | .v4 _ => { maps with blockcidr := trie }
  | .v6 _ => { maps with blockcidr6 := trie }

def applyBlock (nowNs : Nat) (ip : IpAddr) (ttlSeconds : Nat) : Except MapError Unit × XdpMaps :=
  (.ok (), maps.withMap
    ((maps.mapFor ip).insert (blocklistKey ip) (blocklistValue nowNs ttlSeconds)) ip)

def applyUnblock (ip : IpAddr) : Except MapError Unit × XdpMaps :=
  let (result, map) := removeEntry (maps.mapFor ip) (blocklistKey ip)
  (result, maps.withMap map ip)

def applyCidrBlock (network : IpNetwork) : Except MapError Unit × XdpMaps :=
  let (result, trie) := (maps.cidrMapFor network.addr).insertKey (cidrKey network) 1
  (result, maps.withCidrMap trie network.addr)

def applyCidrUnblock (network : IpNetwork) : Except MapError Unit × XdpMaps :=
  let (result, trie) := (maps.cidrMapFor network.addr).removeKey (cidrKey network)
  (result, maps.withCidrMap trie network.addr)

end XdpMaps

/-! ## The program -/

/-- `xdp_action`, as far as the program returns it. -/
inductive XdpAction
  | drop
  | pass
  deriving DecidableEq

inductive CounterSlot
  | v4Drop
  | v6Drop
  | pass
  | parseFail
  deriving DecidableEq

/-- The action, the counter bumped, and the drop event emitted. -/
structure XdpOutcome where
  action : XdpAction
  counter : CounterSlot
  event : Option (List UInt8 × Nat)
  deriving DecidableEq

/-- `u16::to_be` on a little-endian machine. -/
def toBe (value : Nat) : Nat := value % 256 * 256 + value / 256

def ethP8021q : Nat := toBe 0x8100

def ethP8021ad : Nat := toBe 0x88a8

def etherTypeIpv4 : Nat := toBe 0x0800

def etherTypeIpv6 : Nat := toBe 0x86dd

def ethHdrLen : Nat := 14

def ptrAt (frame : List UInt8) (offset length : Nat) : Option (List UInt8) :=
  if frame.length < offset + length then none else some ((frame.drop offset).take length)

def stripVlan (frame : List UInt8) : Nat → Nat → Nat → Option (Nat × Nat)
  | 0, proto, l3Off => some (proto, l3Off)
  | turns + 1, proto, l3Off =>
    if proto ≠ ethP8021q ∧ proto ≠ ethP8021ad then some (proto, l3Off)
    else
      match ptrAt frame l3Off 4 with
      | none => none
      | some vlan => stripVlan frame turns (leValue (vlan.drop 2)) (l3Off + 4)

def lookupSource (map : Table (List UInt8) Nat) (trie : LpmTrie UInt8) (slot : CounterSlot)
    (now : Nat) (key event : List UInt8) (keyLen : Nat) : XdpOutcome :=
  let dropped : XdpOutcome := ⟨.drop, slot, some (event, now)⟩
  if (map.lookup key).any (now < ·) then dropped
  else if (trie.getKey ⟨keyLen, key⟩).isSome then dropped
  else ⟨.pass, .pass, none⟩

/-- `try_ramshield_xdp`: nothing if a header is cut off. -/
def tryRamshieldXdp (maps : XdpMaps) (now : Nat) (frame : List UInt8) : Option XdpOutcome :=
  match ptrAt frame 0 ethHdrLen with
  | none => none
  | some eth =>
    match stripVlan frame 4 (leValue (eth.drop 12)) ethHdrLen with
    | none => none
    | some (proto, l3Off) =>
      if proto = etherTypeIpv6 then
        match ptrAt frame l3Off 40 with
        | none => none
        | some ip6 =>
          let source := (ip6.drop 8).take 16
          some (lookupSource maps.blocklist6 maps.blockcidr6 .v6Drop now source source 128)
      else if proto ≠ etherTypeIpv4 then some ⟨.pass, .pass, none⟩
      else
        match ptrAt frame l3Off 20 with
        | none => none
        | some ip =>
          -- The four octets are copied into sixteen zero bytes, for the key and the event.
          let source := (ip.drop 12).take 4 ++ List.replicate 12 0
          some (lookupSource maps.blocklist maps.blockcidr .v4Drop now source source 32)

/-- `ramshield_xdp`: a frame that cannot be parsed passes. -/
def ramshieldXdp (maps : XdpMaps) (now : Nat) (frame : List UInt8) : XdpOutcome :=
  (tryRamshieldXdp maps now frame).getD ⟨.pass, .parseFail, none⟩

end RamShield
