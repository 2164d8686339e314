import Mathlib.Order.Lattice.Nat
import RamShield.Foundation.Register
import RamShield.Types.Basic

/-! # The cluster blocklist

`AworsetBlocklist`: operation dots per address and origin, and a removal
watermark per key. Seen from one key it is an add/remove register, which is how
all its results are proved.
-/

namespace RamShield

open Foundation Option

/-- `Hlc`: physical milliseconds, logical counter and the number of ticks. -/
structure Hlc where
  physMs : Nat
  seq : Nat
  tickCount : Nat
  deriving DecidableEq

namespace Hlc

def new : Hlc := ⟨0, 0, 0⟩

/-- `Hlc::tick`. The result of the source is the new `(physMs, seq)`. -/
def tick (hlc : Hlc) (wallMs remoteMs remoteSeq : Nat) : Hlc :=
  let next := max (max wallMs remoteMs) hlc.physMs
  { physMs := next
    seq :=
      if next = hlc.physMs ∧ next = remoteMs then min (max hlc.seq remoteSeq + 1) u32Max
      else if next = hlc.physMs then min (hlc.seq + 1) u32Max
      else 0
    tickCount := hlc.tickCount + 1 }

end Hlc

structure ClusterDot where
  nodeId : Nat
  incarnation : Uuid
  counter : Nat
  deriving DecidableEq

/-- `ClusterBlockDelta`. `expiresAtMs = u64Max` is a permanent ban. -/
structure ClusterBlockDelta where
  ip : IpAddr
  dot : ClusterDot
  createdAtMs : Nat
  expiresAtMs : Nat
  tier : Nat
  deriving DecidableEq

structure ClusterUnblockDelta where
  ip : IpAddr
  dot : ClusterDot
  deriving DecidableEq

structure BlockKey where
  ip : IpAddr
  nodeId : Nat
  incarnation : Uuid
  deriving DecidableEq

def BlockKey.sorted : IterOrder BlockKey :=
  .ofCode (fun key => Nat.pair key.ip.rank (Nat.pair key.nodeId key.incarnation.toNat)) (by
    rintro ⟨left, leftNode, leftIncarnation⟩ ⟨right, rightNode, rightIncarnation⟩ hcode
    obtain ⟨hip, hrest⟩ := Nat.pair_eq_pair.mp hcode
    obtain ⟨hnode, hincarnation⟩ := Nat.pair_eq_pair.mp hrest
    exact BlockKey.mk.injEq .. ▸
      ⟨IpAddr.rank_injective hip, hnode, BitVec.eq_of_toNat_eq hincarnation⟩)

/-- What a dot says besides its counter. -/
structure DotPayload where
  createdAtMs : Nat
  expiresAtMs : Nat
  tier : Nat
  deriving DecidableEq

structure TombstoneState where
  counter : Nat
  createdAtEpoch : Nat
  deriving DecidableEq

namespace ClusterDot

def admissible (dot : ClusterDot) : Bool := dot.nodeId != 0 && !dot.incarnation.isNil

end ClusterDot

def ClusterBlockDelta.key (delta : ClusterBlockDelta) : BlockKey :=
  ⟨delta.ip, delta.dot.nodeId, delta.dot.incarnation⟩

def ClusterBlockDelta.payload (delta : ClusterBlockDelta) : DotPayload :=
  ⟨delta.createdAtMs, delta.expiresAtMs, delta.tier⟩

def ClusterUnblockDelta.key (delta : ClusterUnblockDelta) : BlockKey :=
  ⟨delta.ip, delta.dot.nodeId, delta.dot.incarnation⟩

structure AworsetSnapshot where
  blocks : List ClusterBlockDelta
  unblocks : List ClusterUnblockDelta
  deriving DecidableEq

namespace AworsetSnapshot

/-- One loop of `AworsetSnapshot::validate`: every delta is valid and no key
occurs twice. -/
def validateDeltas {Delta : Type} (key : Delta → BlockKey) (invalid : Delta → Bool)
    (invalidError duplicateError : String) : Finset BlockKey → List Delta → Except String Unit
  | _, [] => .ok ()
  | seen, delta :: deltas =>
    if invalid delta then .error invalidError
    else if key delta ∈ seen then .error duplicateError
    else validateDeltas key invalid invalidError duplicateError (insert (key delta) seen) deltas

def invalidDot (ip : IpAddr) (dot : ClusterDot) : Bool :=
  ip.isUnspecified || dot.nodeId == 0 || dot.counter == 0 || dot.incarnation.isNil

def invalidBlock (delta : ClusterBlockDelta) : Bool :=
  invalidDot delta.ip delta.dot ||
    (delta.expiresAtMs != u64Max && decide (delta.expiresAtMs < delta.createdAtMs))

def validate (snapshot : AworsetSnapshot) : Except String Unit :=
  match validateDeltas ClusterBlockDelta.key invalidBlock
      "invalid active mesh dot in checkpoint" "duplicate active mesh key in checkpoint"
      ∅ snapshot.blocks with
  | .error error => .error error
  | .ok () =>
    validateDeltas ClusterUnblockDelta.key (fun delta => invalidDot delta.ip delta.dot)
      "invalid mesh tombstone in checkpoint" "duplicate mesh tombstone key in checkpoint"
      ∅ snapshot.unblocks

end AworsetSnapshot

/-- `AworsetBlocklist`. Of `peer_acks` only the epochs are read, by
`current_ack_epoch`. -/
structure AworsetBlocklist where
  nodeId : Nat
  incarnation : Uuid
  hlc : Hlc
  entries : Table BlockKey (Nat × DotPayload)
  tombstones : Table BlockKey TombstoneState
  peerEpochs : Table Nat Nat
  nextDotCounter : Nat

namespace AworsetBlocklist

/-- `AworsetBlocklist::new`; the random incarnation is an argument. -/
def new (nodeId : Nat) (incarnation : Uuid) : AworsetBlocklist where
  nodeId := nodeId
  incarnation := incarnation
  hlc := .new
  entries := ∅
  tombstones := ∅
  peerEpochs := ∅
  nextDotCounter := 1

variable (set : AworsetBlocklist) (wallMs : Nat)

def currentAckEpoch : Nat := set.peerEpochs.keys.sup fun peer => (set.peerEpochs.lookup peer).getD 0

def covered (key : BlockKey) (counter : Nat) : Bool :=
  (set.tombstones.lookup key).any fun tombstone => counter ≤ tombstone.counter

def needsMergeDelta (delta : ClusterBlockDelta) : Bool :=
  delta.dot.admissible && !set.covered delta.key delta.dot.counter &&
    match set.entries.lookup delta.key with
    | none => true
    | some entry => decide (entry.1 < delta.dot.counter)

def needsMergeUnblock (delta : ClusterUnblockDelta) : Bool :=
  delta.dot.admissible &&
    ((match set.tombstones.lookup delta.key with
      | none => true
      | some tombstone => decide (tombstone.counter < delta.dot.counter)) ||
      (set.entries.lookup delta.key).any fun entry => entry.1 ≤ delta.dot.counter)

def wouldBeBlockedAfterUnblock (delta : ClusterUnblockDelta) (nowMs : Nat) : Prop :=
  ∃ key ∈ set.entries.keys, ∃ entry ∈ set.entries.lookup key,
    key.ip = delta.ip ∧ nowMs < entry.2.expiresAtMs ∧
      ¬ (key = delta.key ∧ entry.1 ≤ delta.dot.counter)

instance (set : AworsetBlocklist) (delta : ClusterUnblockDelta) (nowMs : Nat) :
    Decidable (set.wouldBeBlockedAfterUnblock delta nowMs) :=
  inferInstanceAs (Decidable (∃ key ∈ set.entries.keys, ∃ entry ∈ set.entries.lookup key, _))

/-- `merge_delta`: whether the entry changed, and the new state. -/
def mergeDelta (delta : ClusterBlockDelta) : Bool × AworsetBlocklist :=
  if !delta.dot.admissible then (false, set)
  else
    let set := { set with hlc := set.hlc.tick wallMs delta.createdAtMs 0 }
    if set.covered delta.key delta.dot.counter then (false, set)
    else
      let updated := { set with
        entries := set.entries.insert delta.key (delta.dot.counter, delta.payload) }
      match set.entries.lookup delta.key with
      | none => (true, updated)
      | some entry => if entry.1 < delta.dot.counter then (true, updated) else (false, set)

def raisedTombstone (delta : ClusterUnblockDelta) : TombstoneState :=
  match set.tombstones.lookup delta.key with
  | none => { counter := delta.dot.counter, createdAtEpoch := set.currentAckEpoch }
  | some tombstone =>
    if tombstone.counter < delta.dot.counter then
      { tombstone with counter := delta.dot.counter }
    else tombstone

def mergeUnblockDelta (delta : ClusterUnblockDelta) : Bool × AworsetBlocklist :=
  if !delta.dot.admissible then (false, set)
  else
    let raised : Bool := match set.tombstones.lookup delta.key with
      | none => true
      | some tombstone => decide (tombstone.counter < delta.dot.counter)
    let removes : Bool :=
      (set.entries.lookup delta.key).any fun entry => entry.1 ≤ delta.dot.counter
    (raised || removes,
      { set with
        hlc := set.hlc.tick wallMs 0 0
        tombstones := set.tombstones.insert delta.key (set.raisedTombstone delta)
        entries := if removes then set.entries.erase delta.key else set.entries })

/-- `prepare_ban`: the dot, and the state with the clock and counter advanced. -/
def prepareBan (ip : IpAddr) (ttlMs tier : Nat) : ClusterBlockDelta × AworsetBlocklist :=
  let hlc := set.hlc.tick wallMs 0 0
  ({ ip := ip
     dot := ⟨set.nodeId, set.incarnation, set.nextDotCounter⟩
     createdAtMs := hlc.physMs
     expiresAtMs := if ttlMs = 0 then u64Max else satAdd hlc.physMs ttlMs
     tier := tier },
    { set with hlc := hlc, nextDotCounter := satAdd set.nextDotCounter 1 })

def recordBan (ip : IpAddr) (ttlMs tier : Nat) : ClusterBlockDelta × AworsetBlocklist :=
  let (delta, set) := set.prepareBan wallMs ip ttlMs tier
  (delta, (set.mergeDelta wallMs delta).2)

/-- `prepare_unban`: a tombstone for every dot of the address, in the order of the map. -/
def prepareUnban (order : IterOrder BlockKey) (ip : IpAddr) : List ClusterUnblockDelta :=
  (order.enum (set.entries.keys.filter fun key => key.ip = ip)).map fun key =>
    { ip := ip
      dot := ⟨key.nodeId, key.incarnation, ((set.entries.lookup key).map Prod.fst).getD 0⟩ }

def recordUnban (order : IterOrder BlockKey) (ip : IpAddr) :
    List ClusterUnblockDelta × AworsetBlocklist :=
  let deltas := set.prepareUnban order ip
  (deltas, deltas.foldl (fun set delta => (set.mergeUnblockDelta wallMs delta).2) set)

def tombstoneHorizonMs : Nat := 86400000

def outlived (nowMs : Nat) (entry : Nat × DotPayload) : Bool :=
  decide (tombstoneHorizonMs ≤ nowMs - entry.2.expiresAtMs)

/-- One round of the loop of `purge_expired`: the dot becomes a watermark. -/
def retire (createdAtEpoch : Nat) (set : AworsetBlocklist) (expired : BlockKey × Nat) :
    AworsetBlocklist :=
  { set with
    entries := set.entries.erase expired.1
    tombstones := set.tombstones.insert expired.1 (match set.tombstones.lookup expired.1 with
      | none => { counter := expired.2, createdAtEpoch := createdAtEpoch }
      | some existing => { existing with counter := max existing.counter expired.2 }) }

def purgeExpired (order : IterOrder BlockKey) (nowMs : Nat) : AworsetBlocklist :=
  let expired := (order.enum set.entries.keys).filterMap fun key =>
    ((set.entries.lookup key).filter (outlived nowMs)).map fun entry => (key, entry.1)
  expired.foldl (retire set.currentAckEpoch) set

def isBlocked (ip : IpAddr) (nowMs : Nat) : Prop :=
  ∃ key ∈ set.entries.keys, ∃ entry ∈ set.entries.lookup key,
    key.ip = ip ∧ nowMs < entry.2.expiresAtMs

instance (set : AworsetBlocklist) (ip : IpAddr) (nowMs : Nat) :
    Decidable (set.isBlocked ip nowMs) :=
  inferInstanceAs (Decidable (∃ key ∈ set.entries.keys, ∃ entry ∈ set.entries.lookup key, _))

def activeKeys (nowMs : Nat) : Finset BlockKey :=
  set.entries.keys.filter fun key =>
    (set.entries.lookup key).any fun entry => nowMs < entry.2.expiresAtMs

def activeIps (nowMs : Nat) : Finset IpAddr := (set.activeKeys nowMs).image BlockKey.ip

def activeDeadline (nowMs : Nat) (ip : IpAddr) : Nat :=
  ((set.activeKeys nowMs).filter fun key => key.ip = ip).sup fun key =>
    ((set.entries.lookup key).map fun entry => entry.2.expiresAtMs).getD 0

/-- `active_block_ttls`: the seconds left of the longest-lived dot per address, rounded up. Zero
stands for a permanent one. -/
def activeBlockTtls (nowMs : Nat) : List (IpAddr × Nat) :=
  (IpAddr.sorted.enum (set.activeIps nowMs)).map fun ip =>
    let deadline := set.activeDeadline nowMs ip
    (ip, if deadline = u64Max then 0 else satAdd (deadline - nowMs) 999 / 1000)

def blockAt (key : BlockKey) (entry : Nat × DotPayload) : ClusterBlockDelta where
  ip := key.ip
  dot := ⟨key.nodeId, key.incarnation, entry.1⟩
  createdAtMs := entry.2.createdAtMs
  expiresAtMs := entry.2.expiresAtMs
  tier := entry.2.tier

def unblockAt (key : BlockKey) (tombstone : TombstoneState) : ClusterUnblockDelta where
  ip := key.ip
  dot := ⟨key.nodeId, key.incarnation, tombstone.counter⟩

/-- `export_snapshot`. The source sorts by key; here the order is a parameter. -/
def exportSnapshot (order : IterOrder BlockKey) : AworsetSnapshot where
  blocks := (order.enum set.entries.keys).filterMap fun key =>
    (set.entries.lookup key).map (blockAt key)
  unblocks := (order.enum set.tombstones.keys).filterMap fun key =>
    (set.tombstones.lookup key).map (unblockAt key)

/-- `restore_snapshot`: tombstones first. -/
def restoreSnapshot (snapshot : AworsetSnapshot) : AworsetBlocklist :=
  let set := snapshot.unblocks.foldl (fun set delta => (set.mergeUnblockDelta wallMs delta).2) set
  snapshot.blocks.foldl (fun set delta => (set.mergeDelta wallMs delta).2) set

/-! ## One key -/

def register (key : BlockKey) : Register DotPayload where
  live := set.entries.lookup key
  removed := (set.tombstones.lookup key).map TombstoneState.counter

variable (createdAtEpoch : Nat) (order : IterOrder BlockKey)

lemma covered_eq_stale (key : BlockKey) (counter : Nat) :
    set.covered key counter = (set.register key).stale counter := by
  unfold covered register Register.stale
  cases set.tombstones.lookup key <;> rfl

section Needed

variable {set}

lemma needsMergeDelta_iff {delta : ClusterBlockDelta} :
    set.needsMergeDelta delta ↔ delta.dot.admissible ∧
      ¬ (set.register delta.key).superseded delta.dot.counter := by
  unfold needsMergeDelta
  rw [covered_eq_stale]
  have hlive : (set.register delta.key).live = set.entries.lookup delta.key := rfl
  unfold Register.superseded
  rw [hlive]
  cases set.entries.lookup delta.key <;> simp [and_assoc]

lemma needsMergeUnblock_iff {delta : ClusterUnblockDelta} :
    set.needsMergeUnblock delta ↔ delta.dot.admissible ∧
      (set.register delta.key).remove delta.dot.counter ≠ set.register delta.key := by
  have hlive : (set.register delta.key).live = set.entries.lookup delta.key := rfl
  have hremoved : (set.register delta.key).removed =
      (set.tombstones.lookup delta.key).map TombstoneState.counter := rfl
  rw [ne_eq, Register.remove_eq_self_iff, hlive, hremoved]
  unfold needsMergeUnblock
  cases set.tombstones.lookup delta.key with
  | none => simp
  | some tombstone =>
    cases set.entries.lookup delta.key with
    | none => simp
    | some entry =>
      simp only [Bool.and_eq_true, Bool.or_eq_true, decide_eq_true_eq, any_some,
        map_some, Option.some.injEq, exists_eq_left', forall_eq', not_and_or, not_le,
        not_lt]

end Needed

section

variable (delta : ClusterBlockDelta)

lemma mergeDelta_entries :
    (set.mergeDelta wallMs delta).2.entries =
      if set.needsMergeDelta delta then
        set.entries.insert delta.key (delta.dot.counter, delta.payload)
      else set.entries := by
  have hcovered (hlc : Hlc) : covered { set with hlc := hlc } delta.key delta.dot.counter =
      set.covered delta.key delta.dot.counter := rfl
  unfold mergeDelta needsMergeDelta
  cases hadmissible : delta.dot.admissible
  · simp
  · cases hstale : set.covered delta.key delta.dot.counter
    · simp only [Bool.not_true, Bool.false_eq_true, if_false, hcovered, hstale, Bool.not_false,
        Bool.true_and]
      cases set.entries.lookup delta.key with
      | none => simp
      | some entry =>
        by_cases hlt : entry.1 < delta.dot.counter
        · simp [hlt]
        · simp [hlt]
    · simp [hcovered, hstale]

@[simp] lemma mergeDelta_tombstones :
    (set.mergeDelta wallMs delta).2.tombstones = set.tombstones := by
  unfold mergeDelta
  dsimp only
  repeat' split
  all_goals rfl

lemma register_mergeDelta (key : BlockKey) :
    (set.mergeDelta wallMs delta).2.register key =
      if delta.dot.admissible ∧ key = delta.key then
        (set.register key).add delta.dot.counter delta.payload
      else set.register key := by
  unfold register
  rw [mergeDelta_entries, mergeDelta_tombstones]
  by_cases hkey : key = delta.key
  · subst hkey
    have hstale := covered_eq_stale set delta.key delta.dot.counter
    unfold register at hstale
    unfold needsMergeDelta Register.add
    rw [← hstale]
    cases delta.dot.admissible
    · simp
    · cases set.covered delta.key delta.dot.counter
      · cases hentry : set.entries.lookup delta.key with
        | none => simp
        | some entry =>
          by_cases hlt : entry.1 < delta.dot.counter
          · simp [hlt]
          · simp [hlt, hentry]
      · simp
  · have hother : ¬ (delta.dot.admissible ∧ key = delta.key) := fun hboth => hkey hboth.2
    rw [if_neg hother]
    cases set.needsMergeDelta delta
    · rfl
    · rw [if_pos rfl, Finmap.lookup_insert_of_ne _ hkey]

end

lemma register_mergeUnblockDelta (wallMs : Nat) (delta : ClusterUnblockDelta) (key : BlockKey) :
    (set.mergeUnblockDelta wallMs delta).2.register key =
      if delta.dot.admissible ∧ key = delta.key then
        (set.register key).remove delta.dot.counter
      else set.register key := by
  unfold mergeUnblockDelta
  cases hadmissible : delta.dot.admissible
  · simp
  · simp only [Bool.not_true, Bool.false_eq_true, if_false, true_and]
    unfold register
    by_cases hkey : key = delta.key
    · subst hkey
      rw [if_pos rfl]
      -- The live value is dropped if it is not above, and the watermark is raised.
      unfold Register.remove
      congr 1
      · cases hentry : set.entries.lookup delta.key with
        | none => simp [hentry]
        | some entry =>
          rw [filter_some]
          by_cases hle : entry.1 ≤ delta.dot.counter
          · simp [hle, Nat.not_lt.mpr hle]
          · simp [hle, hentry, Nat.lt_of_not_le hle]
      · rw [Finmap.lookup_insert]
        unfold raisedTombstone
        cases set.tombstones.lookup delta.key with
        | none => rfl
        | some tombstone =>
          simp only [map_some]
          split <;> rfl
    · rw [if_neg hkey]
      simp only [Finmap.lookup_insert_of_ne _ hkey]
      split
      · rw [Finmap.lookup_erase_ne hkey]
      · rfl

lemma register_retire (set : AworsetBlocklist) (expired : BlockKey × Nat) (key : BlockKey) :
    (retire createdAtEpoch set expired).register key =
      if key = expired.1 then
        { live := none
          removed := some (max ((set.register key).removed.getD 0) expired.2) }
      else set.register key := by
  unfold register retire
  rw [Table.lookup_erase_eq, Table.lookup_insert_eq]
  split
  next heq =>
    subst heq
    cases set.tombstones.lookup expired.1 <;> simp
  · rfl

/-- Purging withdraws the dots beyond the horizon, each by its key. -/
lemma register_purgeExpired (nowMs : Nat) (key : BlockKey) :
    (set.purgeExpired order nowMs).register key =
      (((set.register key).live.filter (outlived nowMs)).map fun entry =>
        (set.register key).remove entry.1).getD (set.register key) := by
  unfold purgeExpired
  dsimp only
  generalize hexpired : ((order.enum set.entries.keys).filterMap fun key =>
    ((set.entries.lookup key).filter (outlived nowMs)).map fun entry => (key, entry.1)) = expired
  have hmem (stored : BlockKey) (counter : Nat) : (stored, counter) ∈ expired ↔
      ∃ entry, (set.entries.lookup stored).filter (outlived nowMs) = some entry ∧
        entry.1 = counter := by
    rw [← hexpired, List.mem_filterMap]
    constructor
    · rintro ⟨stored', _, hstored⟩
      obtain ⟨entry, hentry, heq⟩ := map_eq_some_iff.mp hstored
      cases heq
      exact ⟨entry, hentry, rfl⟩
    · rintro ⟨entry, hentry, rfl⟩
      refine ⟨stored, order.mem_enum.mpr ?_, by rw [hentry, map_some]⟩
      exact Table.mem_keys_iff_lookup.mpr ⟨entry, (filter_eq_some_iff.mp hentry).1⟩
  -- Each key is retired once, so the fold acts on every register at most once.
  have hnodup : (expired.map Prod.fst).Nodup := by
    rw [← hexpired, List.map_filterMap]
    refine (order.nodup_enum _).filterMap fun first second stored hfirst hsecond => ?_
    simp only [map_map, mem_def, map_eq_some_iff, Function.comp_apply] at hfirst hsecond
    obtain ⟨_, _, rfl⟩ := hfirst
    obtain ⟨_, _, rfl⟩ := hsecond
    rfl
  cases houtlived : (set.register key).live.filter (outlived nowMs) with
  | none =>
    refine foldl_acts_of_absent register
      (fun expired current => { live := none, removed := some (max (current.removed.getD 0)
        expired.2) }) (fun item _ state key => register_retire _ state item key) ?_ set
    rintro ⟨stored, counter⟩ hstored rfl
    obtain ⟨entry, hentry, _⟩ := (hmem stored counter).mp hstored
    cases houtlived.symm.trans hentry
  | some entry =>
    have hlive := (filter_eq_some_iff.mp houtlived).1
    refine (foldl_acts_of_mem register
      (fun expired current => { live := none, removed := some (max (current.removed.getD 0)
        expired.2) }) (fun item _ state key => register_retire _ state item key) hnodup
        ((hmem key entry.1).mpr ⟨entry, houtlived, rfl⟩) set).trans ?_
    rw [map_some, getD_some]
    refine Register.ext ?_ ?_
    · simp [Register.remove, hlive, filter_some]
    · unfold Register.remove
      cases (set.register key).removed with
      | none => simp
      | some watermark =>
        simp only [getD_some, max_def]
        split <;> split <;> simp <;> omega

lemma isBlocked_iff_register {set : AworsetBlocklist} {nowMs : Nat} {ip : IpAddr} :
    set.isBlocked ip nowMs ↔ ∃ key entry, (set.register key).live = some entry ∧
      key.ip = ip ∧ nowMs < entry.2.expiresAtMs := by
  constructor
  · rintro ⟨key, _, entry, hentry, hrest⟩
    exact ⟨key, entry, hentry, hrest⟩
  · rintro ⟨key, entry, hentry, hrest⟩
    exact ⟨key, Table.mem_keys_iff_lookup.mpr ⟨entry, hentry⟩, entry, hentry, hrest⟩

lemma wouldBeBlockedAfterUnblock_iff_register {set : AworsetBlocklist} {nowMs : Nat}
    {delta : ClusterUnblockDelta} :
    set.wouldBeBlockedAfterUnblock delta nowMs ↔
      ∃ key entry, (set.register key).live = some entry ∧ key.ip = delta.ip ∧
        nowMs < entry.2.expiresAtMs ∧ ¬ (key = delta.key ∧ entry.1 ≤ delta.dot.counter) := by
  constructor
  · rintro ⟨key, _, entry, hentry, hrest⟩
    exact ⟨key, entry, hentry, hrest⟩
  · rintro ⟨key, entry, hentry, hrest⟩
    exact ⟨key, Table.mem_keys_iff_lookup.mpr ⟨entry, hentry⟩, entry, hentry, hrest⟩

end AworsetBlocklist

end RamShield
