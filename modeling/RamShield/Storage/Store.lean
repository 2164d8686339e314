import RamShield.Storage.Record

/-! # The sharded store

`Store` with its redundant indexes and counters, as a sequential machine: an
operation is one step, and what varies between calls is the clock reading. The
source publishes a value and its index entry under one shard lock, except in
`update_block_state`, which releases the lock before the size accounting;
interleavings inside that window are outside this model. Counters that the
source both increments and decrements are integers: a negative value is what
wraps to a huge `u64` there.
-/

namespace RamShield

open Foundation

/-- `RsError`, as far as the store raises it. `panic` is a deadline that no `Instant` holds. -/
inductive RsError
  | capacityExceeded (limitMb : Nat)
  | invalidState (message : String)
  | panic
  deriving DecidableEq

structure Store where
  inner : Table IpAddr Entry
  subnetIndex : Table (BitVec 128) (Finset IpAddr)
  blockedSet : Finset IpAddr
  activeCidrs : Finset IpNetwork
  ramBytes : Int
  blockedCount : Int
  usedBytes : Int
  ramLimitMb : Nat
  totalInserts : Nat
  totalEvictions : Nat
  ttlEntries : Int

namespace Store

/-- `Store::new`. The shard count has no effect; `ram_limit_mb` starts at zero. -/
def new : Store where
  inner := ∅
  subnetIndex := ∅
  blockedSet := ∅
  activeCidrs := ∅
  ramBytes := 0
  blockedCount := 0
  usedBytes := 0
  ramLimitMb := 0
  totalInserts := 0
  totalEvictions := 0
  ttlEntries := 0

variable (store : Store) (now : Instant)

/-- `traffic.ram_limit_mb.store(mb)`, which the daemon does before it serves. -/
def setRamLimitMb (mb : Nat) : Store := { store with ramLimitMb := mb }

def ramLimitBytes : Nat := store.ramLimitMb * 1024 * 1024

def get (key : IpAddr) : Option Value :=
  match store.inner.lookup key with
  | none => none
  | some entry => if entry.isExpired now then none else some entry.value

/-- The test `matches!(store.get(&ip), Some(Value::IpRecord(record)) if blocked)`. -/
def blockedNow (key : IpAddr) : Bool := (store.get now key).any Value.isBlockedRecord

/-- Whether the stored value of an address satisfies `Value::is_blocked`. -/
def blockedAt (key : IpAddr) : Bool :=
  (store.inner.lookup key).any fun entry => entry.value.isBlocked

def getAllBlockedIps (order : IterOrder IpAddr) : List IpAddr := order.enum store.blockedSet

def syncBlockedIndex (key : IpAddr) (wasBlocked nowBlocked : Bool) : Store :=
  if !wasBlocked && nowBlocked then
    { store with
      blockedCount := store.blockedCount + 1
      blockedSet := insert key store.blockedSet }
  else if wasBlocked && !nowBlocked then
    { store with
      blockedCount := store.blockedCount - 1
      blockedSet := store.blockedSet.erase key }
  else store

def applyGrowthSizeOnly (oldSize newSize : Nat) : Store :=
  { store with
    ramBytes := store.ramBytes + (newSize - oldSize : Int)
    usedBytes := store.usedBytes + (newSize - oldSize : Int)
    totalInserts := store.totalInserts + 1 }

/-- The change of `ttl_entries` when an entry is replaced. -/
def ttlDelta (oldHadTtl newHasTtl : Bool) : Int :=
  match oldHadTtl, newHasTtl with
  | false, true => 1
  | true, false => -1
  | _, _ => 0

/-- Replace a resident entry, with its bookkeeping under the shard lock. -/
def replaceEntry (key : IpAddr) (old new : Entry) : Store :=
  ({ store with
      inner := store.inner.insert key new
      ttlEntries := store.ttlEntries + ttlDelta old.expiresAt.isSome new.expiresAt.isSome
    }.syncBlockedIndex key old.value.isBlocked new.value.isBlocked).applyGrowthSizeOnly
      (entrySize old.value) (entrySize new.value)

def publishFresh (key : IpAddr) (entry : Entry) : Store :=
  let size := entrySize entry.value
  let store := { store with
    ramBytes := store.ramBytes + size
    inner := store.inner.insert key entry }
  let store := store.syncBlockedIndex key false entry.value.isBlocked
  { store with
    ttlEntries := store.ttlEntries + ttlDelta false entry.expiresAt.isSome
    usedBytes := store.usedBytes + size
    totalInserts := store.totalInserts + 1 }

/-- The capacity gate of a net-new key: `current + entry_size > limit`. -/
def refuses (size limit : Nat) : Bool := decide ((limit : Int) < store.ramBytes + size)

def insert (key : IpAddr) (value : Value) (ttlSecs : Option Nat) (limit : Nat) :
    Except RsError Unit × Store :=
  -- `Instant::now() + Duration` is evaluated first and panics on overflow.
  match ttlSecs.map (Instant.checkedAddSecs now) with
  | some none => (.error .panic, store)
  | expiry =>
    let entry : Entry := { value := value, expiresAt := expiry.join }
    match store.inner.lookup key with
    | some old => (.ok (), store.replaceEntry key old entry)
    | none =>
      if store.refuses (entrySize value) limit then
        (.error (.capacityExceeded (limit / (1024 * 1024))), store)
      else (.ok (), store.publishFresh key entry)

def blockIp (key : IpAddr) (fallback : IpRecord) (limit : Nat) : Except RsError Unit × Store :=
  match fallback.blockState with
  | .blocked reason sinceNs =>
    match store.inner.lookup key with
    | some entry =>
      match entry.liveRecord now with
      | some record =>
        -- A live record: only the block state changes, and the block is
        -- taken out of the store's own expiry.
        let updated := { record with blockState := .blocked reason sinceNs }
        let store := { store with
          inner := store.inner.insert key ⟨.ipRecord updated, none⟩
          ttlEntries := store.ttlEntries + ttlDelta entry.expiresAt.isSome false }
        (.ok (), store.syncBlockedIndex key (record.blockState != .clean) true)
      | none => (.ok (), store.replaceEntry key entry ⟨.ipRecord fallback, none⟩)
    | none =>
      if store.refuses (sizeOfIpAddr + sizeOfEntry) limit then
        (.error (.capacityExceeded (limit / (1024 * 1024))), store)
      else (.ok (), store.publishFresh key ⟨.ipRecord fallback, none⟩)
  | .clean => (.error (.invalidState "block_ip requires a blocked fallback, got Clean"), store)
  | .suspicious =>
    (.error (.invalidState "block_ip requires a blocked fallback, got Suspicious"), store)

def unblockIp (key : IpAddr) : Bool × Store :=
  match store.inner.lookup key with
  | none => (false, store)
  | some entry =>
    match entry.liveRecord now with
    | some record =>
      let updated := { record with blockState := .clean }
      let store := { store with
        inner := store.inner.insert key ⟨.ipRecord updated, none⟩
        ttlEntries := store.ttlEntries + ttlDelta entry.expiresAt.isSome false }
      (true, store.syncBlockedIndex key (record.blockState != .clean) false)
    | none => (false, store)

def updateIp {Result : Type} (store : Store) (now : Instant) (key : IpAddr) (default : IpRecord)
    (limit : Nat) (f : IpRecord → IpRecord × Result) : (Result × Bool) × Store :=
  match store.inner.lookup key with
  | some entry =>
    match entry.liveRecord now with
    | some record =>
      let (updated, out) := f record
      -- Mutated in place: no index and no accounting changes.
      ((out, true),
        { store with inner := store.inner.insert key ⟨.ipRecord updated, entry.expiresAt⟩ })
    | none =>
      let (updated, out) := f default
      ((out, true), store.replaceEntry key entry ⟨.ipRecord updated, none⟩)
  | none =>
    let (updated, out) := f default
    if store.refuses (sizeOfIpAddr + sizeOfEntry) limit then ((out, false), store)
    else ((out, true), store.publishFresh key ⟨.ipRecord updated, none⟩)

def updateBlockState (key : IpAddr) (newState : BlockState) (limit : Nat) : Bool × Store :=
  match store.inner.lookup key with
  | some entry =>
    match entry.liveRecord now with
    | some record =>
      let updated := { record with blockState := newState }
      (true, { store with inner := store.inner.insert key ⟨.ipRecord updated, entry.expiresAt⟩ })
    | none =>
      let fresh : Entry := ⟨.ipRecord (.zeroed key 0 newState), none⟩
      let store := { store with
        inner := store.inner.insert key fresh
        ttlEntries := store.ttlEntries + ttlDelta entry.expiresAt.isSome false }
      let store :=
        if entry.value.isBlocked then
          { store with
            blockedCount := store.blockedCount - 1
            blockedSet := store.blockedSet.erase key }
        else store
      (true, store.applyGrowthSizeOnly (entrySize entry.value) (sizeOfEntry + sizeOfIpAddr))
  | none =>
    let size := sizeOfIpAddr + sizeOfEntry
    if store.refuses size limit then (false, store)
    else
      (true, { store with
        ramBytes := store.ramBytes + size
        inner := store.inner.insert key ⟨.ipRecord (.zeroed key 0 newState), none⟩
        usedBytes := store.usedBytes + size
        totalInserts := store.totalInserts + 1 })

/-- `subnet_key_u128`: the /24 of an IPv4 address, the /64 of an IPv6 address. -/
def subnetKeyU128 : IpAddr → Option (BitVec 128)
  | .v4 bits => some ((bits &&& 0xFFFFFF00#32).setWidth 128)
  | .v6 bits => some (bits &&& 0xFFFFFFFFFFFFFFFF0000000000000000#128)

def maxSubnetIndexKeys : Nat := 131072

def updateSubnetIndex (ip : IpAddr) (subnetKey : Option (BitVec 128)) (isRemoval : Bool) : Store :=
  match subnetKey with
  | none => store
  | some subnetKey =>
    match isRemoval, store.subnetIndex.lookup subnetKey with
    | true, none => store
    | true, some members =>
      let members := members.erase ip
      if members = ∅ then { store with subnetIndex := store.subnetIndex.erase subnetKey }
      else { store with subnetIndex := store.subnetIndex.insert subnetKey members }
    | false, some members =>
      let members := Insert.insert ip members
      { store with subnetIndex := store.subnetIndex.insert subnetKey members }
    | false, none =>
      if maxSubnetIndexKeys ≤ store.subnetIndex.keys.card then store
      else { store with subnetIndex := store.subnetIndex.insert subnetKey {ip} }

def dropEntry (key : IpAddr) (entry : Entry) : Store :=
  let freed := entrySize entry.value
  let store := { store with
    ttlEntries := store.ttlEntries + ttlDelta entry.expiresAt.isSome false
    ramBytes := store.ramBytes - freed
    usedBytes := store.usedBytes - freed
    totalEvictions := store.totalEvictions + 1 }
  let store := store.syncBlockedIndex key entry.value.isBlocked false
  { store with inner := store.inner.erase key }.updateSubnetIndex key (subnetKeyU128 key) true

def remove (key : IpAddr) : Option Value × Store :=
  match store.inner.lookup key with
  | some entry => (some entry.value, store.dropEntry key entry)
  | none => (none, store)

def evictOne (store : Store) (key : IpAddr) : Store :=
  match store.inner.lookup key with
  | some entry => if entry.isExpired now then store.dropEntry key entry else store
  | none => store

def evictBatch (keys : List IpAddr) : Store := keys.foldl (evictOne now) store

def evictExpired (order : IterOrder IpAddr) : Nat × Store :=
  if store.ttlEntries = 0 then (0, store)
  else
    let swept := store.evictBatch now (order.enum store.inner.keys)
    (store.inner.keys.card - swept.inner.keys.card, swept)

/-! ## Frames of the shared helpers -/

section

variable (key : IpAddr) (was is : Bool)

@[simp] lemma syncBlockedIndex_inner :
    (store.syncBlockedIndex key was is).inner = store.inner := by
  cases was <;> cases is <;> rfl

@[simp] lemma syncBlockedIndex_activeCidrs :
    (store.syncBlockedIndex key was is).activeCidrs = store.activeCidrs := by
  cases was <;> cases is <;> rfl

@[simp] lemma syncBlockedIndex_ramBytes :
    (store.syncBlockedIndex key was is).ramBytes = store.ramBytes := by
  cases was <;> cases is <;> rfl

@[simp] lemma syncBlockedIndex_usedBytes :
    (store.syncBlockedIndex key was is).usedBytes = store.usedBytes := by
  cases was <;> cases is <;> rfl

@[simp] lemma syncBlockedIndex_ttlEntries :
    (store.syncBlockedIndex key was is).ttlEntries = store.ttlEntries := by
  cases was <;> cases is <;> rfl

@[simp] lemma syncBlockedIndex_ramLimitMb :
    (store.syncBlockedIndex key was is).ramLimitMb = store.ramLimitMb := by
  cases was <;> cases is <;> rfl

end

section

variable (key : IpAddr)
variable (old entry : Entry)

@[simp] lemma replaceEntry_inner (new : Entry) :
    (store.replaceEntry key old new).inner = store.inner.insert key new := by
  simp [replaceEntry, applyGrowthSizeOnly]

@[simp] lemma replaceEntry_activeCidrs (new : Entry) :
    (store.replaceEntry key old new).activeCidrs = store.activeCidrs := by
  simp [replaceEntry, applyGrowthSizeOnly]

@[simp] lemma publishFresh_inner :
    (store.publishFresh key entry).inner = store.inner.insert key entry := by
  simp [publishFresh]

@[simp] lemma publishFresh_ramBytes :
    (store.publishFresh key entry).ramBytes = store.ramBytes + entrySize entry.value := by
  simp [publishFresh]

@[simp] lemma publishFresh_ramLimitMb :
    (store.publishFresh key entry).ramLimitMb = store.ramLimitMb := by
  simp [publishFresh]

@[simp] lemma publishFresh_activeCidrs :
    (store.publishFresh key entry).activeCidrs = store.activeCidrs := by
  simp [publishFresh]

@[simp] lemma replaceEntry_ramLimitMb (new : Entry) :
    (store.replaceEntry key old new).ramLimitMb = store.ramLimitMb := by
  simp [replaceEntry, applyGrowthSizeOnly]

@[simp] lemma replaceEntry_ramBytes (new : Entry) :
    (store.replaceEntry key old new).ramBytes =
      store.ramBytes + (entrySize new.value - entrySize old.value : Int) := by
  simp [replaceEntry, applyGrowthSizeOnly]

end

section

variable (ip : IpAddr) (subnetKey : Option (BitVec 128)) (isRemoval : Bool)

lemma updateSubnetIndex_frame : ∃ index,
      store.updateSubnetIndex ip subnetKey isRemoval = { store with subnetIndex := index } := by
  unfold updateSubnetIndex
  dsimp only
  repeat' split
  all_goals exact ⟨_, rfl⟩

lemma inner_updateSubnetIndex :
    (store.updateSubnetIndex ip subnetKey isRemoval).inner = store.inner := by
  obtain ⟨index, hindex⟩ := store.updateSubnetIndex_frame ip subnetKey isRemoval
  rw [hindex]

end

section

variable (key : IpAddr) (entry : Entry)

lemma dropEntry_writes :
    (store.dropEntry key entry).inner = store.inner.erase key ∧
      (store.dropEntry key entry).activeCidrs = store.activeCidrs ∧
      (store.dropEntry key entry).ramLimitMb = store.ramLimitMb ∧
      (store.dropEntry key entry).ramBytes = store.ramBytes - entrySize entry.value := by
  unfold dropEntry
  obtain ⟨index, hindex⟩ := updateSubnetIndex_frame _ key (subnetKeyU128 key) true
  rw [hindex]
  simp

end

/-! ## What an operation writes -/

inductive Writes (store : Store) (now : Instant) (key : IpAddr) : Bool → Store → Prop
  | nothing : Writes store now key false store
  | replaces {old : Entry} (hold : store.inner.lookup key = some old) (entry : Entry) :
      Writes store now key true (store.replaceEntry key old entry)
  | publishes (hvacant : store.inner.lookup key = none) (entry : Entry) :
      Writes store now key true (store.publishFresh key entry)
  | restates {entry : Entry} {record : IpRecord} (hentry : store.inner.lookup key = some entry)
      (hlive : entry.liveRecord now = some record) (updated : IpRecord) :
      Writes store now key true (syncBlockedIndex { store with
        inner := store.inner.insert key ⟨.ipRecord updated, none⟩
        ttlEntries := store.ttlEntries + ttlDelta entry.expiresAt.isSome false }
        key (record.blockState != .clean) (updated.blockState != .clean))

section

variable (key : IpAddr)

lemma insert_writes (value : Value) (ttlSecs : Option Nat) (limit : Nat) :
    store.Writes now key (store.insert now key value ttlSecs limit).1.isOk
      (store.insert now key value ttlSecs limit).2 := by
  unfold insert
  split
  · exact .nothing
  dsimp only
  split
  next old hold => exact .replaces hold _
  next hvacant =>
    split
    · exact .nothing
    · exact .publishes hvacant _

lemma blockIp_writes (fallback : IpRecord) (limit : Nat) :
    store.Writes now key (store.blockIp now key fallback limit).1.isOk
      (store.blockIp now key fallback limit).2 := by
  unfold blockIp
  split
  next reason sinceNs _ =>
    split
    next entry hentry =>
      split
      next record hlive =>
        exact .restates hentry hlive { record with blockState := .blocked reason sinceNs }
      · exact .replaces hentry _
    next hvacant =>
      split
      · exact .nothing
      · exact .publishes hvacant _
  · exact .nothing
  · exact .nothing

lemma unblockIp_writes :
    store.Writes now key (store.unblockIp now key).1 (store.unblockIp now key).2 := by
  unfold unblockIp
  split
  · exact .nothing
  next entry hentry =>
    split
    next record hlive => exact .restates hentry hlive { record with blockState := .clean }
    · exact .nothing

lemma updateIp_writes {Result : Type} (default : IpRecord) (limit : Nat)
    (f : IpRecord → IpRecord × Result) :
    store.Writes now key (store.updateIp now key default limit f).1.2
        (store.updateIp now key default limit f).2 ∨
      ∃ entry record, store.inner.lookup key = some entry ∧
        entry.liveRecord now = some record ∧
        store.updateIp now key default limit f = (((f record).2, true),
          { store with
            inner := store.inner.insert key ⟨.ipRecord (f record).1, entry.expiresAt⟩ }) := by
  unfold updateIp
  split
  next entry hentry =>
    split
    next record hlive => exact .inr ⟨entry, record, hentry, hlive, rfl⟩
    · exact .inl (.replaces hentry _)
  next hvacant =>
    dsimp only
    split
    · exact .inl .nothing
    · exact .inl (.publishes hvacant _)

end

end Store

end RamShield
