import RamShield.Mesh.Replica

/-! # When a tombstone may be collected

A tombstone may go once every declared peer has acknowledged since the removal.
The evidence is a stamp: the acknowledgement epoch at which the tombstone was
created, which the epochs of the peers have to pass. A newer removal under the
same key raises the counter but keeps the stamp, so that an acknowledgement from
before it counts as well. As long as tombstones are raised only in the epoch of
their stamp, collection waits for everyone.
-/

namespace RamShield

open Foundation Foundation.Machine Option

namespace AworsetBlocklist

/-! ## What a call does to tombstones -/

/-- The removals that a call performs, whatever they find. -/
def removals (set : AworsetBlocklist) : BlocklistCall → List ClusterUnblockDelta
  | .recordUnban _ order ip => set.prepareUnban order ip
  | .mergeUnblockDelta _ delta => [delta]
  | .restoreSnapshot _ snapshot => snapshot.unblocks
  | .purgeExpired order nowMs => (order.enum set.entries.keys).filterMap fun key =>
      ((set.entries.lookup key).filter (outlived nowMs)).map fun entry =>
        { ip := key.ip, dot := ⟨key.nodeId, key.incarnation, entry.1⟩ }
  | _ => []

def Raises (set : AworsetBlocklist) (delta : ClusterUnblockDelta) (key : BlockKey) : Prop :=
  delta.key = key ∧
    ∀ tombstone, set.tombstones.lookup key = some tombstone → tombstone.counter < delta.dot.counter

lemma raises_of_removed {set : AworsetBlocklist} {delta : ClusterUnblockDelta} {key : BlockKey}
    (hkey : delta.key = key)
    (habove : ∀ watermark, (set.register key).removed = some watermark →
      watermark < delta.dot.counter) : set.Raises delta key :=
  ⟨hkey, fun tombstone htombstone =>
    habove tombstone.counter (congrArg (Option.map TombstoneState.counter) htombstone)⟩

variable (set : AworsetBlocklist) (call : BlocklistCall) (createdAtEpoch : Nat)
  (deliveries : List (Nat × ClusterDelta)) (peer : Nat)

lemma removed_foldl_absorb (key : BlockKey) :
    ((deliveries.foldl absorb set).register key).removed = (set.register key).removed ∨
      ∃ delta, .unblock delta ∈ deliveries.map Prod.snd ∧ set.Raises delta key := by
  rw [register_foldl_absorb]
  rcases (set.register key).removed_foldl_apply (opsAt key deliveries) with
    hsame | ⟨counter, hmem, habove⟩
  · exact .inl hsame
  · obtain ⟨delta, hdelta, _, hkey, hop⟩ := mem_opsAt.mp hmem
    cases delta with
    | block delta => cases hop
    | unblock delta =>
      cases hop
      exact .inr ⟨delta, hdelta, raises_of_removed hkey.symm habove⟩

lemma removed_perform (key : BlockKey) :
    ((set.perform call).register key).removed = (set.register key).removed ∨
      ∃ delta ∈ set.removals call, set.Raises delta key := by
  -- Bans and merges of blocks leave the tombstones; the rest folds removals over the registers.
  cases call with
  | prepareBan wallMs ip ttlMs tier => exact .inl rfl
  | recordBan wallMs ip ttlMs tier =>
    refine .inl ?_
    change Option.map _ ((AworsetBlocklist.mergeDelta _ wallMs _).2.tombstones.lookup key) = _
    rw [mergeDelta_tombstones]
    rfl
  | recordUnban wallMs order ip =>
    rw [perform, recordUnban_eq_absorb]
    refine (removed_foldl_absorb set _ key).imp_right ?_
    rintro ⟨delta, hmem, hraises⟩
    refine ⟨delta, ?_, hraises⟩
    simpa [removals] using hmem
  | mergeDelta wallMs delta =>
    refine .inl ?_
    change Option.map _ ((set.mergeDelta wallMs delta).2.tombstones.lookup key) = _
    rw [mergeDelta_tombstones]
    rfl
  | mergeUnblockDelta wallMs delta =>
    refine (removed_foldl_absorb set [(wallMs, .unblock delta)] key).imp_right ?_
    rintro ⟨other, hmem, hraises⟩
    refine ⟨other, ?_, hraises⟩
    simpa [removals] using hmem
  | restoreSnapshot wallMs snapshot =>
    rw [perform, restoreSnapshot_eq_absorb]
    refine (removed_foldl_absorb set _ key).imp_right ?_
    rintro ⟨delta, hmem, hraises⟩
    refine ⟨delta, ?_, hraises⟩
    rw [mem_restored] at hmem
    simpa [removals, AworsetSnapshot.deltas] using hmem
  | purgeExpired order nowMs =>
    rw [perform, register_purgeExpired]
    cases houtlived : (set.register key).live.filter (outlived nowMs) with
    | none => exact .inl rfl
    | some entry =>
      refine ((set.register key).removed_foldl_apply [.remove entry.1]).imp_right ?_
      rintro ⟨counter, hmem, habove⟩
      cases List.mem_singleton.mp hmem
      refine ⟨⟨key.ip, ⟨key.nodeId, key.incarnation, entry.1⟩⟩, ?_, raises_of_removed rfl habove⟩
      have hlive : set.entries.lookup key = some entry := (filter_eq_some_iff.mp houtlived).1
      refine List.mem_filterMap.mpr ⟨key, order.mem_enum.mpr
        (Table.mem_keys_iff_lookup.mpr ⟨entry, hlive⟩), ?_⟩
      exact congrArg (Option.map _) houtlived

lemma stamp_retire (set : AworsetBlocklist) (expired : BlockKey × Nat) (key : BlockKey) :
    KeepsStamp createdAtEpoch (set.stamp key) ((retire createdAtEpoch set expired).stamp key) := by
  unfold stamp retire
  dsimp only
  rw [Table.lookup_insert_eq]
  split
  next hkey =>
    subst hkey
    cases set.tombstones.lookup expired.1 with
    | none => exact .inr ⟨rfl, rfl⟩
    | some tombstone => exact .inl rfl
  · exact .inl rfl

lemma stamp_foldl_retire (set : AworsetBlocklist) (expired : List (BlockKey × Nat)) :
    (expired.foldl (retire createdAtEpoch) set).peerEpochs = set.peerEpochs ∧
      ∀ key, KeepsStamp createdAtEpoch (set.stamp key)
        ((expired.foldl (retire createdAtEpoch) set).stamp key) := by
  induction expired generalizing set with
  | nil => exact ⟨rfl, fun _ => .inl rfl⟩
  | cons first expired ih =>
    obtain ⟨hepochs, hstamps⟩ := ih (retire createdAtEpoch set first)
    exact ⟨hepochs, fun key => (stamp_retire createdAtEpoch set first key).trans (hstamps key)⟩

lemma stamp_perform :
    (set.perform call).peerEpochs = set.peerEpochs ∧
      ∀ key, KeepsStamp set.currentAckEpoch (set.stamp key) ((set.perform call).stamp key) := by
  cases call with
  | prepareBan wallMs ip ttlMs tier => exact ⟨rfl, fun _ => .inl rfl⟩
  | recordBan wallMs ip ttlMs tier =>
    exact stamp_foldl_absorb (set.prepareBan wallMs ip ttlMs tier).2 [(wallMs, .block _)]
  | recordUnban wallMs order ip =>
    rw [perform, recordUnban_eq_absorb]
    exact stamp_foldl_absorb set _
  | mergeDelta wallMs delta => exact stamp_foldl_absorb set [(wallMs, .block delta)]
  | mergeUnblockDelta wallMs delta => exact stamp_foldl_absorb set [(wallMs, .unblock delta)]
  | restoreSnapshot wallMs snapshot =>
    rw [perform, restoreSnapshot_eq_absorb]
    exact stamp_foldl_absorb set _
  | purgeExpired order nowMs => exact stamp_foldl_retire set.currentAckEpoch set _

def epochOf (epochs : Table Nat Nat) (peer : Nat) : Nat := (epochs.lookup peer).getD 0

lemma epochOf_le_currentAckEpoch : epochOf set.peerEpochs peer ≤ set.currentAckEpoch := by
  by_cases hpeer : peer ∈ set.peerEpochs.keys
  · exact Finset.le_sup (f := fun peer => (set.peerEpochs.lookup peer).getD 0) hpeer
  · rw [epochOf, Table.not_mem_keys_iff_lookup.mp hpeer]
    exact Nat.zero_le _

end AworsetBlocklist

open AworsetBlocklist

/-! ## Runs of a replica -/

/-- A replica, and the epochs at the last change of each tombstone. -/
structure CollectionTrace where
  replica : MeshReplica
  removedAt : BlockKey → Table Nat Nat

namespace CollectionTrace

def start (nodeId : Nat) (incarnation : Uuid) : CollectionTrace :=
  ⟨.new nodeId incarnation, fun _ => ∅⟩

def step (trace : CollectionTrace) (call : MeshReplica.Call) : CollectionTrace :=
  let next := trace.replica.step call
  { replica := next
    removedAt := fun key =>
      if (next.blocklist.register key).removed =
          (trace.replica.blocklist.register key).removed then trace.removedAt key
      else next.blocklist.peerEpochs }

variable {trace : CollectionTrace} {key : BlockKey}

lemma removedAt_step_of_same {call : MeshReplica.Call}
    (hsame : ((trace.replica.step call).blocklist.register key).removed =
      (trace.replica.blocklist.register key).removed) :
    (trace.step call).removedAt key = trace.removedAt key :=
  if_pos hsame

def RaisesInEpoch (trace : CollectionTrace) : MeshReplica.Call → Prop
  | .change call => ∀ delta ∈ trace.replica.blocklist.removals call, ∀ tombstone,
      trace.replica.blocklist.tombstones.lookup delta.key = some tombstone →
      tombstone.counter < delta.dot.counter →
      trace.replica.blocklist.currentAckEpoch ≤ tombstone.createdAtEpoch
  | _ => True

/-- No epoch was past the stamp when the counter last changed. -/
def Dated (trace : CollectionTrace) : Prop :=
  ∀ key tombstone, trace.replica.blocklist.tombstones.lookup key = some tombstone →
    ∀ peer, epochOf (trace.removedAt key) peer ≤ tombstone.createdAtEpoch

lemma Dated.change (hdated : trace.Dated) {call : BlocklistCall}
    (hraises : trace.RaisesInEpoch (.change call)) : (trace.step (.change call)).Dated := by
  intro key tombstone htombstone peer
  obtain ⟨hepochs, hstamps⟩ := stamp_perform trace.replica.blocklist call
  have hstamp : (trace.replica.blocklist.perform call).stamp key = some tombstone.createdAtEpoch :=
    congrArg (Option.map TombstoneState.createdAtEpoch) htombstone
  have hcurrent := epochOf_le_currentAckEpoch trace.replica.blocklist peer
  change epochOf (if _ then _ else (trace.replica.blocklist.perform call).peerEpochs) peer ≤ _
  rw [hepochs]
  rcases hstamps key with hkept | ⟨hnone, hnew⟩
  · rw [hstamp] at hkept
    obtain ⟨old, hold, hepoch⟩ := map_eq_some_iff.mp hkept.symm
    rw [← hepoch]
    split
    · exact hdated key old hold peer
    next hchanged =>
      obtain ⟨delta, hdelta, rfl, habove⟩ :=
        (removed_perform trace.replica.blocklist call key).resolve_left hchanged
      exact hcurrent.trans (hraises delta hdelta old hold (habove old hold))
  · rw [hstamp] at hnew
    rw [Option.some.inj hnew]
    split
    next hsame =>
      -- The tombstone is new, so its counter did change.
      have hcounter : ((trace.replica.blocklist.perform call).register key).removed =
          some tombstone.counter := congrArg (Option.map TombstoneState.counter) htombstone
      have habsent := map_eq_none_iff.mp hnone
      cases hcounter.symm.trans (hsame.trans (congrArg (Option.map TombstoneState.counter) habsent))
    · exact hcurrent

variable {replica : MeshReplica} {tombstone : TombstoneState}

lemma lookup_gcTombstones
    (hkept : replica.gcTombstones.blocklist.tombstones.lookup key = some tombstone) :
    replica.blocklist.tombstones.lookup key = some tombstone := by
  unfold MeshReplica.gcTombstones at hkept
  split at hkept
  · exact hkept
  split at hkept
  · exact hkept
  rw [Table.lookup_filter] at hkept
  exact (filter_eq_some_iff.mp hkept).1

lemma Dated.gcTombstones (hdated : trace.Dated) : (trace.step .gcTombstones).Dated := by
  intro key tombstone htombstone peer
  have hbefore := lookup_gcTombstones htombstone
  have hsame : ((trace.replica.step .gcTombstones).blocklist.register key).removed =
      (trace.replica.blocklist.register key).removed :=
    congrArg (Option.map TombstoneState.counter) (htombstone.trans hbefore.symm)
  rw [removedAt_step_of_same hsame]
  exact hdated key tombstone hbefore peer

lemma Dated.step (hdated : trace.Dated) {call : MeshReplica.Call}
    (hraises : trace.RaisesInEpoch call) : (trace.step call).Dated := by
  cases call with
  | change call => exact hdated.change hraises
  | peerAcknowledged peer ackedLsn =>
    intro key tombstone htombstone other
    rw [removedAt_step_of_same rfl]
    exact hdated key tombstone htombstone other
  | setExpectedPeers peers =>
    intro key tombstone htombstone other
    rw [removedAt_step_of_same rfl]
    exact hdated key tombstone htombstone other
  | gcTombstones => exact hdated.gcTombstones

lemma passed_of_collected (hheld : replica.blocklist.tombstones.lookup key = some tombstone)
    (hcollected : replica.gcTombstones.blocklist.tombstones.lookup key = none) :
    ∀ peer ∈ replica.expectedPeers, replica.passed peer tombstone.createdAtEpoch := by
  unfold MeshReplica.gcTombstones at hcollected
  split at hcollected
  · rw [hheld] at hcollected
    cases hcollected
  · split at hcollected
    · rw [hheld] at hcollected
      cases hcollected
    · rw [Table.lookup_filter, hheld, filter_eq_none_iff] at hcollected
      have hdropped := hcollected tombstone rfl
      simp only [MeshReplica.retained, Bool.or_eq_true, decide_eq_true_eq, not_or,
        not_exists, not_and, Bool.not_eq_false] at hdropped
      exact hdropped.1

/-- In every run in which tombstones are raised only in the epoch of their stamp, a
tombstone is collected only when the epoch of every declared peer has advanced since the
counter of the tombstone last changed. -/
theorem collection_waits (nodeId : Nat) (incarnation : Uuid) (calls : List MeshReplica.Call)
    (hcalls : Respects step RaisesInEpoch (start nodeId incarnation) calls) :
    let trace := run step (start nodeId incarnation) calls
    ∀ key tombstone, trace.replica.blocklist.tombstones.lookup key = some tombstone →
      trace.replica.gcTombstones.blocklist.tombstones.lookup key = none →
      ∀ peer ∈ trace.replica.expectedPeers,
        epochOf (trace.removedAt key) peer < epochOf trace.replica.blocklist.peerEpochs peer := by
  intro trace key tombstone hheld hcollected peer hpeer
  have hstart : (start nodeId incarnation).Dated := nofun
  have hdated : trace.Dated := (Along.of_respects (fun _ _ hdated hraises => hdated.step hraises)
    hstart hcalls).last
  have hpassed := passed_of_collected hheld hcollected peer hpeer
  rw [MeshReplica.passed, any_eq_true] at hpassed
  obtain ⟨epoch, hepoch, hlt⟩ := hpassed
  calc epochOf (trace.removedAt key) peer ≤ tombstone.createdAtEpoch :=
        hdated key tombstone hheld peer
    _ < epoch := of_decide_eq_true hlt
    _ = epochOf trace.replica.blocklist.peerEpochs peer := by rw [epochOf, hepoch, getD_some]

def acknowledgedRemoval : List MeshReplica.Call :=
  [.setExpectedPeers {2}, .change (.mergeUnblockDelta 10 ⟨.v4 1, ⟨2, 1, 1⟩⟩), .peerAcknowledged 2 7]

/-- The tombstone is collected, one epoch after the removal. -/
theorem collection_waits_acknowledged :
    epochOf ((run step (start 1 1) acknowledgedRemoval).removedAt ⟨.v4 1, 2, 1⟩) 2 <
      epochOf (run step (start 1 1) acknowledgedRemoval).replica.blocklist.peerEpochs 2 := by
  refine collection_waits 1 1 acknowledgedRemoval ⟨trivial, ?_, trivial, trivial⟩
    ⟨.v4 1, 2, 1⟩ ⟨1, 0⟩ (by decide) (by decide) 2 (by decide)
  intro delta hdelta tombstone htombstone
  cases List.mem_singleton.mp hdelta
  cases htombstone

/-- A newer removal raises the tombstone after that acknowledgement, and the tombstone is
collected although peer 2 has not acknowledged since. -/
theorem raised_tombstone_collected :
    let trace := run step (start 1 1) (acknowledgedRemoval ++
      [.change (.mergeUnblockDelta 20 ⟨.v4 1, ⟨2, 1, 2⟩⟩)])
    trace.replica.blocklist.tombstones.lookup ⟨.v4 1, 2, 1⟩ = some ⟨2, 0⟩ ∧
      trace.replica.gcTombstones.blocklist.tombstones.lookup ⟨.v4 1, 2, 1⟩ = none ∧
      2 ∈ trace.replica.expectedPeers ∧
      epochOf (trace.removedAt ⟨.v4 1, 2, 1⟩) 2 = 1 ∧
      epochOf trace.replica.blocklist.peerEpochs 2 = 1 := by
  decide

end CollectionTrace

end RamShield
