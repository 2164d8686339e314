import RamShield.Foundation.Run
import RamShield.Mesh.Convergence
import RamShield.Mesh.Validity

/-! # One replica of the cluster blocklist

`AworsetBlocklist` keeps dots and tombstones in two maps. Every call updates them
so that they never contradict each other: under one key the dot lies above the
tombstone, and an identity that no merge admits holds nothing. Two things rest on
this. A snapshot, which is merged back delta by delta, gives back what it was
taken from; and what the service predicts before a merge is what the merge does.
-/

namespace RamShield

open Foundation Foundation.Machine List Register

/-- The calls that change dots and tombstones. -/
inductive BlocklistCall
  | prepareBan (wallMs : Nat) (ip : IpAddr) (ttlMs tier : Nat)
  | recordBan (wallMs : Nat) (ip : IpAddr) (ttlMs tier : Nat)
  | recordUnban (wallMs : Nat) (order : IterOrder BlockKey) (ip : IpAddr)
  | mergeDelta (wallMs : Nat) (delta : ClusterBlockDelta)
  | mergeUnblockDelta (wallMs : Nat) (delta : ClusterUnblockDelta)
  | restoreSnapshot (wallMs : Nat) (snapshot : AworsetSnapshot)
  | purgeExpired (order : IterOrder BlockKey) (nowMs : Nat)

def AworsetBlocklist.perform (set : AworsetBlocklist) : BlocklistCall → AworsetBlocklist
  | .prepareBan wallMs ip ttlMs tier => (set.prepareBan wallMs ip ttlMs tier).2
  | .recordBan wallMs ip ttlMs tier => (set.recordBan wallMs ip ttlMs tier).2
  | .recordUnban wallMs order ip => (set.recordUnban wallMs order ip).2
  | .mergeDelta wallMs delta => (set.mergeDelta wallMs delta).2
  | .mergeUnblockDelta wallMs delta => (set.mergeUnblockDelta wallMs delta).2
  | .restoreSnapshot wallMs snapshot => set.restoreSnapshot wallMs snapshot
  | .purgeExpired order nowMs => set.purgeExpired order nowMs

/-- `AworsetBlocklist` with the fields of acknowledgement and collection. -/
structure MeshReplica where
  blocklist : AworsetBlocklist
  lastAcknowledged : Table Nat Nat
  expectedPeers : Finset Nat

namespace MeshReplica

def new (nodeId : Nat) (incarnation : Uuid) : MeshReplica := ⟨.new nodeId incarnation, ∅, ∅⟩

variable (replica : MeshReplica)

/-- `peer_acknowledged`. At the last epoch the addition overflows after the epoch is stored. -/
def peerAcknowledged (peer ackedLsn : Nat) : MeshReplica :=
  let last := (replica.lastAcknowledged.lookup peer).getD 0
  let epoch := (replica.blocklist.peerEpochs.lookup peer).getD 0
  { replica with
    lastAcknowledged := replica.lastAcknowledged.insert peer
      (if last < ackedLsn then ackedLsn else last)
    blocklist := { replica.blocklist with
      peerEpochs := replica.blocklist.peerEpochs.insert peer
        (if last < ackedLsn then satAdd epoch 1 else epoch) } }

def setExpectedPeers (peers : Finset Nat) : MeshReplica := { replica with expectedPeers := peers }

def passed (peer epoch : Nat) : Bool :=
  (replica.blocklist.peerEpochs.lookup peer).any fun current => epoch < current

/-- What `gc_tombstones` keeps: a declared peer or the foreign origin has not passed the removal. -/
def retained (key : BlockKey) (tombstone : TombstoneState) : Bool :=
  decide (∃ peer ∈ replica.expectedPeers,
    replica.passed peer tombstone.createdAtEpoch = false) ||
    (key.nodeId != replica.blocklist.nodeId && decide (key.nodeId ∉ replica.expectedPeers) &&
      !replica.passed key.nodeId tombstone.createdAtEpoch)

/-- `gc_tombstones`. Without declared peers, or before each has acknowledged, nothing goes. -/
def gcTombstones : MeshReplica :=
  if replica.expectedPeers = ∅ then replica
  else if ∃ peer ∈ replica.expectedPeers, replica.passed peer 0 = false then replica
  else { replica with
    blocklist := { replica.blocklist with
      tombstones := replica.blocklist.tombstones.filter replica.retained } }

/-- All calls on a replica. -/
inductive Call
  | change (call : BlocklistCall)
  | peerAcknowledged (peer ackedLsn : Nat)
  | setExpectedPeers (peers : Finset Nat)
  | gcTombstones

def step : Call → MeshReplica
  | .change call => { replica with blocklist := replica.blocklist.perform call }
  | .peerAcknowledged peer ackedLsn => replica.peerAcknowledged peer ackedLsn
  | .setExpectedPeers peers => replica.setExpectedPeers peers
  | .gcTombstones => replica.gcTombstones

end MeshReplica

def BlockKey.admissible (key : BlockKey) : Bool := key.nodeId != 0 && !key.incarnation.isNil

lemma ClusterDelta.admissible_key (delta : ClusterDelta) :
    delta.key.admissible = delta.dot.admissible := by
  cases delta <;> rfl

namespace AworsetSnapshot

def deltas (snapshot : AworsetSnapshot) : List ClusterDelta :=
  snapshot.unblocks.map .unblock ++ snapshot.blocks.map .block

end AworsetSnapshot

namespace AworsetBlocklist

/-! ## Calls as merges -/

variable (set : AworsetBlocklist)

lemma restoreSnapshot_eq_absorb (wallMs : Nat) (snapshot : AworsetSnapshot) :
    set.restoreSnapshot wallMs snapshot =
      (snapshot.deltas.map fun delta => (wallMs, delta)).foldl absorb set := by
  unfold restoreSnapshot AworsetSnapshot.deltas
  rw [map_append, foldl_append]
  simp only [map_map, foldl_map]
  rfl

lemma recordUnban_eq_absorb (wallMs : Nat) (order : IterOrder BlockKey) (ip : IpAddr) :
    (set.recordUnban wallMs order ip).2 =
      ((set.prepareUnban order ip).map fun delta => (wallMs, .unblock delta)).foldl absorb set := by
  rw [foldl_map]
  rfl

/-! ## The two maps -/

/-- Dots lie above their tombstones, and nothing is held for an inadmissible
identity. -/
structure Formed : Prop where
  separated (key : BlockKey) : (set.register key).Separated
  vacant {key : BlockKey} : key.admissible = false → set.register key = .empty

lemma new_formed (nodeId : Nat) (incarnation : Uuid) : (new nodeId incarnation).Formed where
  separated key := register_new nodeId incarnation key ▸ empty_separated
  vacant _ := register_new nodeId incarnation _

variable {set} {order : IterOrder BlockKey}

lemma Valid.formed (hvalid : set.Valid) : set.Formed where
  separated key := (hvalid.admits key).separated
  vacant := by
    intro key hinadmissible
    have hinvalid : ¬ key.Valid := by
      intro hkey
      simp [BlockKey.admissible, hkey.nodeId, hkey.incarnation] at hinadmissible
    refine Register.ext ?_ ?_
    · exact Option.eq_none_iff_forall_ne_some.mpr fun entry hentry =>
        hinvalid ((hvalid.admits key).live hentry).1
    · exact Option.eq_none_iff_forall_ne_some.mpr fun counter hcounter =>
        hinvalid ((hvalid.admits key).removed hcounter).1

namespace Formed

section

variable (hformed : set.Formed)

include hformed

lemma admissible_of_held {key : BlockKey} (hheld : set.register key ≠ .empty) : key.admissible := by
  by_contra hinadmissible
  exact hheld (hformed.vacant (Bool.not_eq_true _ ▸ hinadmissible))

lemma absorb (delivery : Nat × ClusterDelta) : (set.absorb delivery).Formed where
  separated key := by
    rw [register_absorb]
    split
    · cases delivery.2 with
      | block delta => exact (hformed.separated key).add _ _
      | unblock delta => exact (hformed.separated key).remove _
    · exact hformed.separated key
  vacant := by
    intro key hinadmissible
    rw [register_absorb, if_neg]
    · exact hformed.vacant hinadmissible
    · rintro ⟨hadmissible, rfl⟩
      rw [delivery.2.admissible_key, hadmissible] at hinadmissible
      cases hinadmissible

lemma foldl_absorb (deliveries : List (Nat × ClusterDelta)) :
    (deliveries.foldl AworsetBlocklist.absorb set).Formed :=
  run_invariant (fun _ delivery hset => hset.absorb delivery) hformed deliveries

lemma purgeExpired (order : IterOrder BlockKey) (nowMs : Nat) :
    (set.purgeExpired order nowMs).Formed where
  separated key := by
    rw [register_purgeExpired]
    cases (set.register key).live.filter (outlived nowMs) with
    | none => exact hformed.separated key
    | some entry => exact (hformed.separated key).remove _
  vacant := by
    intro key hinadmissible
    rw [register_purgeExpired, hformed.vacant hinadmissible]
    rfl

/-- Every call keeps the two maps apart. -/
lemma perform (call : BlocklistCall) : (set.perform call).Formed := by
  cases call with
  | prepareBan wallMs ip ttlMs tier => exact { hformed with }
  | recordBan wallMs ip ttlMs tier =>
    have hprepared : (set.prepareBan wallMs ip ttlMs tier).2.Formed := { hformed with }
    exact hprepared.absorb (wallMs, .block _)
  | recordUnban wallMs order ip =>
    rw [AworsetBlocklist.perform, recordUnban_eq_absorb]
    exact hformed.foldl_absorb _
  | mergeDelta wallMs delta => exact hformed.absorb (wallMs, .block delta)
  | mergeUnblockDelta wallMs delta => exact hformed.absorb (wallMs, .unblock delta)
  | restoreSnapshot wallMs snapshot =>
    rw [AworsetBlocklist.perform, restoreSnapshot_eq_absorb]
    exact hformed.foldl_absorb _
  | purgeExpired order nowMs => exact hformed.purgeExpired order nowMs

end

lemma run (nodeId : Nat) (incarnation : Uuid) (calls : List BlocklistCall) :
    (Machine.run AworsetBlocklist.perform (new nodeId incarnation) calls).Formed :=
  run_invariant (fun _ call hset => hset.perform call) (new_formed nodeId incarnation) calls

end Formed

/-! ## Stamps -/

def stamp (set : AworsetBlocklist) (key : BlockKey) : Option Nat :=
  (set.tombstones.lookup key).map TombstoneState.createdAtEpoch

def KeepsStamp (epoch : Nat) (before after : Option Nat) : Prop :=
  after = before ∨ before = none ∧ after = some epoch

lemma KeepsStamp.trans {epoch : Nat} {before middle after : Option Nat}
    (hfirst : KeepsStamp epoch before middle) (hsecond : KeepsStamp epoch middle after) :
    KeepsStamp epoch before after := by
  rcases hsecond with rfl | ⟨rfl, rfl⟩
  · exact hfirst
  · rcases hfirst with hnone | ⟨_, hcontra⟩
    · exact .inr ⟨hnone.symm, rfl⟩
    · cases hcontra

lemma absorb_peerEpochs (set : AworsetBlocklist) (delivery : Nat × ClusterDelta) :
    (set.absorb delivery).peerEpochs = set.peerEpochs := by
  obtain ⟨wallMs, delta⟩ := delivery
  cases delta with
  | block delta =>
    unfold absorb mergeDelta
    dsimp only
    repeat' split
    all_goals rfl
  | unblock delta =>
    unfold absorb mergeUnblockDelta
    dsimp only
    split <;> rfl

lemma currentAckEpoch_congr {other : AworsetBlocklist}
    (hepochs : set.peerEpochs = other.peerEpochs) :
    set.currentAckEpoch = other.currentAckEpoch := by
  unfold currentAckEpoch
  rw [hepochs]

lemma stamp_absorb (set : AworsetBlocklist) (delivery : Nat × ClusterDelta) (key : BlockKey) :
    KeepsStamp set.currentAckEpoch (set.stamp key) ((set.absorb delivery).stamp key) := by
  obtain ⟨wallMs, delta⟩ := delivery
  cases delta with
  | block delta =>
    refine .inl ?_
    change Option.map _ ((set.mergeDelta wallMs delta).2.tombstones.lookup key) = _
    rw [mergeDelta_tombstones]
    rfl
  | unblock delta =>
    change KeepsStamp _ _ (((set.mergeUnblockDelta wallMs delta).2).stamp key)
    unfold mergeUnblockDelta
    split
    · exact .inl rfl
    unfold stamp
    dsimp only
    rw [Table.lookup_insert_eq]
    split
    next hkey =>
      subst hkey
      unfold raisedTombstone
      cases set.tombstones.lookup delta.key with
      | none => exact .inr ⟨rfl, rfl⟩
      | some tombstone =>
        refine .inl ?_
        dsimp only
        split <;> rfl
    · exact .inl rfl

lemma stamp_foldl_absorb (set : AworsetBlocklist) (deliveries : List (Nat × ClusterDelta)) :
    (deliveries.foldl absorb set).peerEpochs = set.peerEpochs ∧
      ∀ key, KeepsStamp set.currentAckEpoch (set.stamp key)
        ((deliveries.foldl absorb set).stamp key) := by
  induction deliveries generalizing set with
  | nil => exact ⟨rfl, fun _ => .inl rfl⟩
  | cons delivery deliveries ih =>
    have hepochs := absorb_peerEpochs set delivery
    obtain ⟨hrest, hstamps⟩ := ih (set.absorb delivery)
    refine ⟨hrest.trans hepochs, fun key => (stamp_absorb set delivery key).trans ?_⟩
    rw [← currentAckEpoch_congr hepochs]
    exact hstamps key

lemma tombstones_eq_of {left right : AworsetBlocklist}
    (hregister : ∀ key, left.register key = right.register key)
    (hstamp : ∀ key, left.stamp key = right.stamp key) : left.tombstones = right.tombstones := by
  refine Finmap.ext_lookup fun key => ?_
  have hcounter := congrArg Register.removed (hregister key)
  have hepoch := hstamp key
  unfold register at hcounter
  unfold stamp at hepoch
  revert hcounter hepoch
  rcases left.tombstones.lookup key with _ | ⟨counter, epoch⟩ <;>
    rcases right.tombstones.lookup key with _ | ⟨otherCounter, otherEpoch⟩ <;> simp_all

/-! ## The snapshot -/

variable {nowMs : Nat} {deliveries : List (Nat × ClusterDelta)} {key : BlockKey}

lemma mem_opsAt_export (hformed : set.Formed)
    (hdeltas : ∀ delta, delta ∈ deliveries.map Prod.snd ↔ delta ∈ (set.exportSnapshot order).deltas)
    {op : Register.Op DotPayload} : op ∈ opsAt key deliveries ↔ op ∈ (set.register key).ops := by
  rw [mem_opsAt, mem_ops]
  simp only [hdeltas, AworsetSnapshot.deltas, mem_append, mem_map, exportSnapshot, mem_export]
  constructor
  · rintro ⟨delta, (⟨_, ⟨stored, tombstone, hstored, rfl⟩, rfl⟩ |
      ⟨_, ⟨stored, entry, hstored, rfl⟩, rfl⟩), _, rfl, rfl⟩
    · exact .inl ⟨tombstone.counter, congrArg (Option.map TombstoneState.counter) hstored, rfl⟩
    · exact .inr ⟨entry, hstored, rfl⟩
  · rintro (⟨counter, hcounter, rfl⟩ | ⟨entry, hentry, rfl⟩)
    · obtain ⟨tombstone, htombstone, rfl⟩ := Option.map_eq_some_iff.mp hcounter
      refine ⟨_, .inl ⟨_, ⟨key, tombstone, htombstone, rfl⟩, rfl⟩, ?_, rfl, rfl⟩
      change key.admissible = true
      refine hformed.admissible_of_held fun hempty => ?_
      rw [hempty] at hcounter
      cases hcounter
    · refine ⟨_, .inr ⟨_, ⟨key, entry, hentry, rfl⟩, rfl⟩, ?_, rfl, rfl⟩
      change key.admissible = true
      refine hformed.admissible_of_held fun hempty => ?_
      have hheld : (set.register key).live = some entry := hentry
      rw [hempty] at hheld
      cases hheld

lemma register_merge_export (hformed : set.Formed)
    (hdeltas : ∀ delta, delta ∈ deliveries.map Prod.snd ↔ delta ∈ (set.exportSnapshot order).deltas)
    (base : AworsetBlocklist) (key : BlockKey) :
    (deliveries.foldl absorb base).register key =
      (set.register key).ops.foldl Register.apply (base.register key) := by
  have hmem {op : Register.Op DotPayload} :
      op ∈ opsAt key deliveries ↔ op ∈ (set.register key).ops := mem_opsAt_export hformed hdeltas
  rw [register_foldl_absorb]
  refine run_eq_of_mem_iff (fun first hfirst second hsecond register => ?_)
    (fun op _ register => register.apply_apply op) (fun op => hmem) (base.register key)
  exact (hformed.separated key).ops_comm (hmem.mp hfirst) (hmem.mp hsecond) register

lemma mem_restored {snapshot : AworsetSnapshot} (wallMs : Nat) (delta : ClusterDelta) :
    delta ∈ (snapshot.deltas.map fun delta => (wallMs, delta)).map Prod.snd ↔
      delta ∈ snapshot.deltas := by
  rw [map_map]
  exact iff_of_eq (congrArg _ (map_id _))

lemma register_restore (hformed : set.Formed) (order : IterOrder BlockKey) (wallMs : Nat)
    {base : AworsetBlocklist} (hbase : base.register key = .empty) :
    (base.restoreSnapshot wallMs (set.exportSnapshot order)).register key = set.register key := by
  rw [restoreSnapshot_eq_absorb, register_merge_export hformed (mem_restored wallMs), hbase]
  exact (hformed.separated key).apply_ops

lemma tombstones_merge_export (hformed : set.Formed) {first second : List (Nat × ClusterDelta)}
    (hfirst : ∀ delta, delta ∈ first.map Prod.snd ↔ delta ∈ (set.exportSnapshot order).deltas)
    (hsecond : ∀ delta, delta ∈ second.map Prod.snd ↔ delta ∈ (set.exportSnapshot order).deltas)
    (base : AworsetBlocklist) :
    (first.foldl absorb base).tombstones = (second.foldl absorb base).tombstones := by
  have hregister (key : BlockKey) : (first.foldl absorb base).register key =
      (second.foldl absorb base).register key := by
    rw [register_merge_export hformed hfirst, register_merge_export hformed hsecond]
  refine tombstones_eq_of hregister fun key => ?_
  -- An old stamp stays, and where there was none both sides stamp alike or not at all.
  have hsome := congrArg (fun register => register.removed.isSome) (hregister key)
  have hleft := (stamp_foldl_absorb base first).2 key
  have hright := (stamp_foldl_absorb base second).2 key
  simp only [register, Option.isSome_map] at hsome
  unfold KeepsStamp stamp at hleft hright
  unfold stamp
  clear hregister hfirst hsecond
  revert hsome hleft hright
  cases (first.foldl absorb base).tombstones.lookup key <;>
    cases (second.foldl absorb base).tombstones.lookup key <;>
    cases base.tombstones.lookup key <;> simp_all

/-- The dots and the tombstones of every blocklist that its calls lead to do not
contradict each other. So its snapshot gives a fresh blocklist the same dots and
tombstone counters, and any blocklist what the deltas of the snapshot give it when they
are merged one by one, in any order and with any repetitions. -/
theorem snapshot_round_trip (nodeId : Nat) (incarnation : Uuid) (calls : List BlocklistCall) :
    let set := run perform (new nodeId incarnation) calls
    (∀ key entry tombstone, set.entries.lookup key = some entry →
      set.tombstones.lookup key = some tombstone → tombstone.counter < entry.1) ∧
    (∀ order wallMs fresh freshIncarnation,
      let restored := (new fresh freshIncarnation).restoreSnapshot wallMs (set.exportSnapshot order)
      restored.entries = set.entries ∧
        ∀ key, (restored.tombstones.lookup key).map TombstoneState.counter =
          (set.tombstones.lookup key).map TombstoneState.counter) ∧
    ∀ order wallMs (base : AworsetBlocklist) (deliveries : List (Nat × ClusterDelta)),
      (∀ delta, delta ∈ deliveries.map Prod.snd ↔ delta ∈ (set.exportSnapshot order).deltas) →
      let restored := base.restoreSnapshot wallMs (set.exportSnapshot order)
      let merged := deliveries.foldl absorb base
      restored.entries = merged.entries ∧ restored.tombstones = merged.tombstones := by
  intro set
  have hformed : set.Formed := .run nodeId incarnation calls
  refine ⟨?_, ?_, ?_⟩
  · intro key entry tombstone hentry htombstone
    exact hformed.separated key tombstone.counter
      (congrArg (Option.map TombstoneState.counter) htombstone) entry hentry
  · intro order wallMs fresh freshIncarnation restored
    have hregister (key : BlockKey) : restored.register key = set.register key :=
      register_restore hformed order wallMs (register_new fresh freshIncarnation key)
    exact ⟨Finmap.ext_lookup fun key => congrArg Register.live (hregister key),
      fun key => congrArg Register.removed (hregister key)⟩
  · intro order wallMs base deliveries hdeltas restored merged
    have hrestored : restored = _ := restoreSnapshot_eq_absorb base wallMs _
    rw [hrestored]
    refine ⟨Finmap.ext_lookup fun key => ?_,
      tombstones_merge_export hformed (mem_restored wallMs) hdeltas base⟩
    exact congrArg Register.live ((register_merge_export hformed (mem_restored wallMs) base
      key).trans (register_merge_export hformed hdeltas base key).symm)

def renewedBan : List BlocklistCall :=
  [.mergeUnblockDelta 20 sampleUnban, .mergeDelta 21 { sampleBan with dot := ⟨1, 1, 2⟩ }]

/-- Its dot lies above its tombstone, and its snapshot may be merged backwards and
twice. -/
theorem snapshot_round_trip_renewed :
    let renewed := run perform (new 2 2) renewedBan
    (∃ entry tombstone, renewed.entries.lookup ⟨.v4 1, 1, 1⟩ = some entry ∧
      renewed.tombstones.lookup ⟨.v4 1, 1, 1⟩ = some tombstone ∧ tombstone.counter < entry.1) ∧
      ((new 3 3).restoreSnapshot 30 (renewed.exportSnapshot BlockKey.sorted)).entries =
      ([(40, .block { sampleBan with dot := ⟨1, 1, 2⟩ }), (41, .unblock sampleUnban),
        (42, .block { sampleBan with dot := ⟨1, 1, 2⟩ })].foldl absorb (new 3 3)).entries := by
  obtain ⟨hseparated, _, hmerged⟩ := snapshot_round_trip 2 2 renewedBan
  refine ⟨⟨_, ⟨1, 0⟩, by decide, by decide,
    hseparated ⟨.v4 1, 1, 1⟩ (2, sampleBan.payload) ⟨1, 0⟩ (by decide) (by decide)⟩, ?_⟩
  refine (hmerged BlockKey.sorted 30 (new 3 3) _ fun delta => ?_).1
  have hdeltas : ((run perform (new 2 2) renewedBan).exportSnapshot BlockKey.sorted).deltas =
      [.unblock sampleUnban, .block { sampleBan with dot := ⟨1, 1, 2⟩ }] := by decide
  rw [hdeltas]
  simp only [map_cons, map_nil, mem_cons, not_mem_nil, or_false]
  tauto

/-- Two blocklists that merge the deltas of each other's snapshot, in any orders and with any
repetitions, end with the same dots and tombstone counters, provided that no dot was given
to two bans. -/
theorem exchange_converges (node node' : Nat) (incarnation incarnation' : Uuid)
    (calls calls' : List BlocklistCall) (order order' : IterOrder BlockKey)
    (toLeft toRight : List (Nat × ClusterDelta)) :
    let left := run perform (new node incarnation) calls
    let right := run perform (new node' incarnation') calls'
    (∀ key counter first second, left.entries.lookup key = some (counter, first) →
      right.entries.lookup key = some (counter, second) → first = second) →
    (∀ delta, delta ∈ toLeft.map Prod.snd ↔ delta ∈ (right.exportSnapshot order).deltas) →
    (∀ delta, delta ∈ toRight.map Prod.snd ↔ delta ∈ (left.exportSnapshot order').deltas) →
    ∀ key, (toLeft.foldl absorb left).register key =
      (toRight.foldl absorb right).register key := by
  intro left right hdots htoLeft htoRight key
  have hleft : left.Formed := .run node incarnation calls
  have hright : right.Formed := .run node' incarnation' calls'
  rw [register_merge_export hright htoLeft, register_merge_export hleft htoRight]
  exact (hleft.separated key).exchange (hright.separated key) (hdots key)

/-- One side knows of the removal of a ban that the other side has. -/
theorem exchange_converges_removal :
    ∀ key, ([(30, .block sampleBan)].foldl absorb
        (run perform (new 2 2) [.mergeUnblockDelta 20 sampleUnban])).register key =
      ([(40, .unblock sampleUnban)].foldl absorb
        (run perform (new 3 3) [.mergeDelta 21 sampleBan])).register key :=
  exchange_converges 2 3 2 3 _ _ BlockKey.sorted BlockKey.sorted _ _
    (fun _ _ _ _ hfirst => absurd hfirst nofun)
    (fun _ => by rw [show AworsetSnapshot.deltas _ = [.block sampleBan] by decide]; rfl)
    (fun _ => by rw [show AworsetSnapshot.deltas _ = [.unblock sampleUnban] by decide]; rfl)

/-! ## Predictions -/

def Changes (before after : AworsetBlocklist) : Prop :=
  after.entries ≠ before.entries ∨
    ∃ key, (after.tombstones.lookup key).map TombstoneState.counter ≠
      (before.tombstones.lookup key).map TombstoneState.counter

lemma changes_iff_register {before after : AworsetBlocklist} :
    Changes before after ↔ ∃ key, after.register key ≠ before.register key := by
  constructor
  · rintro (hentries | ⟨key, hcounter⟩)
    · by_contra hsame
      push Not at hsame
      exact hentries (Finmap.ext_lookup fun key => congrArg Register.live (hsame key))
    · exact ⟨key, fun hsame => hcounter (congrArg Register.removed hsame)⟩
  · rintro ⟨key, hdiffers⟩
    by_contra hsame
    simp only [Changes, not_or, not_exists, not_not] at hsame
    exact hdiffers (Register.ext (congrArg (Finmap.lookup key) hsame.1) (hsame.2 key))

section

variable (set) (wallMs : Nat)

lemma mergeDelta_fst (delta : ClusterBlockDelta) :
    (set.mergeDelta wallMs delta).1 = set.needsMergeDelta delta := by
  have hcovered (hlc : Hlc) : covered { set with hlc := hlc } delta.key delta.dot.counter =
      set.covered delta.key delta.dot.counter := rfl
  unfold mergeDelta needsMergeDelta
  dsimp only
  rw [hcovered]
  cases delta.dot.admissible with
  | false => rfl
  | true =>
    cases set.covered delta.key delta.dot.counter with
    | true => rfl
    | false =>
      cases set.entries.lookup delta.key with
      | none => rfl
      | some entry => by_cases hnewer : entry.1 < delta.dot.counter <;> simp [hnewer]

lemma mergeUnblockDelta_fst (delta : ClusterUnblockDelta) :
    (set.mergeUnblockDelta wallMs delta).1 = set.needsMergeUnblock delta := by
  unfold mergeUnblockDelta needsMergeUnblock
  cases delta.dot.admissible <;> rfl

lemma changes_absorb_iff (delta : ClusterDelta) :
    Changes set (set.absorb (wallMs, delta)) ↔ delta.dot.admissible ∧
      (set.register delta.key).apply delta.op ≠ set.register delta.key := by
  rw [changes_iff_register]
  simp only [register_absorb]
  constructor
  · rintro ⟨key, hdiffers⟩
    split at hdiffers
    next hat =>
      obtain ⟨hadmissible, rfl⟩ := hat
      exact ⟨hadmissible, hdiffers⟩
    · exact absurd rfl hdiffers
  · rintro ⟨hadmissible, hdiffers⟩
    refine ⟨delta.key, ?_⟩
    rwa [if_pos ⟨hadmissible, rfl⟩]

end

lemma Formed.live_mergeUnblockDelta (hformed : set.Formed) (wallMs : Nat)
    (delta : ClusterUnblockDelta) (key : BlockKey) (entry : Nat × DotPayload) :
    ((set.mergeUnblockDelta wallMs delta).2.register key).live = some entry ↔
      (set.register key).live = some entry ∧ ¬ (key = delta.key ∧ entry.1 ≤ delta.dot.counter) := by
  rw [register_mergeUnblockDelta]
  split
  next hat =>
    rw [live_remove, ← Nat.not_le]
    simp [hat.2]
  next hnot =>
    refine (and_iff_left_of_imp fun hlive hcovered => hnot ⟨?_, hcovered.1⟩).symm
    have hadmissible : key.admissible := by
      refine hformed.admissible_of_held fun hempty => ?_
      rw [hempty] at hlive
      cases hlive
    rw [hcovered.1] at hadmissible
    exact hadmissible

end AworsetBlocklist

namespace MeshReplica

open AworsetBlocklist

variable {replica : MeshReplica}

lemma register_gcTombstones (replica : MeshReplica) (key : BlockKey) :
    (replica.gcTombstones.blocklist.register key) = replica.blocklist.register key ∨
      replica.gcTombstones.blocklist.register key =
        ⟨(replica.blocklist.register key).live, none⟩ := by
  unfold gcTombstones
  split
  · exact .inl rfl
  split
  · exact .inl rfl
  unfold register
  dsimp only
  rw [Table.lookup_filter]
  cases replica.blocklist.tombstones.lookup key with
  | none => exact .inl rfl
  | some tombstone =>
    cases hretained : replica.retained key tombstone
    · exact .inr (by simp [Option.filter_some, hretained])
    · exact .inl (by simp [Option.filter_some, hretained])

lemma formed_gcTombstones (hformed : replica.blocklist.Formed) :
    replica.gcTombstones.blocklist.Formed where
  separated key := by
    rcases replica.register_gcTombstones key with hsame | hforgotten
    · rw [hsame]
      exact hformed.separated key
    · rw [hforgotten]
      exact fun _ hremoved => nomatch hremoved
  vacant := by
    intro key hinadmissible
    have hempty := hformed.vacant hinadmissible
    rcases replica.register_gcTombstones key with hsame | hforgotten
    · rw [hsame, hempty]
    · rw [hforgotten, hempty]
      rfl

lemma formed_step (hformed : replica.blocklist.Formed) (call : Call) :
    (replica.step call).blocklist.Formed := by
  cases call with
  | change call => exact hformed.perform call
  | peerAcknowledged peer ackedLsn => exact { hformed with }
  | setExpectedPeers peers => exact hformed
  | gcTombstones => exact formed_gcTombstones hformed

lemma formed_run (nodeId : Nat) (incarnation : Uuid) (calls : List Call) :
    (run step (new nodeId incarnation) calls).blocklist.Formed :=
  @run_invariant _ _ step (fun replica => replica.blocklist.Formed)
    (fun _ call hformed => formed_step hformed call) _ (new_formed nodeId incarnation) calls

/-- In every state that the calls on a replica lead to, the predictions are what the
merges do: whether they report a change, whether there is one, and whether the address
stays blocked. -/
theorem predictions_match (nodeId : Nat) (incarnation : Uuid) (calls : List Call)
    (wallMs nowMs : Nat) : let set := (run step (new nodeId incarnation) calls).blocklist
    (∀ delta, set.needsMergeDelta delta = (set.mergeDelta wallMs delta).1 ∧
      ((set.mergeDelta wallMs delta).1 = true ↔ Changes set (set.mergeDelta wallMs delta).2)) ∧
    ∀ delta, set.needsMergeUnblock delta = (set.mergeUnblockDelta wallMs delta).1 ∧
      ((set.mergeUnblockDelta wallMs delta).1 = true ↔
        Changes set (set.mergeUnblockDelta wallMs delta).2) ∧
      (set.wouldBeBlockedAfterUnblock delta nowMs ↔
        (set.mergeUnblockDelta wallMs delta).2.isBlocked delta.ip nowMs) := by
  intro set
  have hformed : set.Formed := formed_run nodeId incarnation calls
  refine ⟨fun delta => ?_, fun delta => ?_⟩
  · rw [mergeDelta_fst, needsMergeDelta_iff, ← add_eq_self_iff]
    exact ⟨rfl, (changes_absorb_iff set wallMs (.block delta)).symm⟩
  · rw [mergeUnblockDelta_fst]
    refine ⟨rfl, needsMergeUnblock_iff.trans
      (changes_absorb_iff set wallMs (.unblock delta)).symm, ?_⟩
    rw [isBlocked_iff_register, wouldBeBlockedAfterUnblock_iff_register]
    simp only [hformed.live_mergeUnblockDelta wallMs delta]
    constructor
    · rintro ⟨key, entry, hlive, hip, hactive, hkept⟩
      exact ⟨key, entry, ⟨hlive, hkept⟩, hip, hactive⟩
    · rintro ⟨key, entry, ⟨hlive, hkept⟩, hip, hactive⟩
      exact ⟨key, entry, hlive, hip, hactive, hkept⟩

end MeshReplica

end RamShield
