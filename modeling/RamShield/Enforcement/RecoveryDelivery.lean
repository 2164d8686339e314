import RamShield.Enforcement.MeshAnswer

/-! # A recovery gets through

The rules of the sender and of the receiver fit together. A canonical snapshot
within the entry bound is cut into frames that the transport admits; a receiver
that starts with the first of them takes all of them, however often and in
whatever order the others arrive; and once every frame was there, the completion
is proved.
-/

namespace RamShield

open Foundation Foundation.Machine AworsetSnapshot List

namespace AworsetSnapshot

def sentFrames (snapshot : AworsetSnapshot) (identity : RecoveryIdentity) : List RecoveryFrame :=
  snapshot.framePayloads.mapIdx fun index payload => ⟨identity, index, payload⟩

variable {snapshot : AworsetSnapshot}
variable {identity : RecoveryIdentity} {frame : RecoveryFrame}

lemma mem_sentFrames :
    frame ∈ snapshot.sentFrames identity ↔
      frame.identity = identity ∧
        snapshot.framePayloads[frame.frameIndex]? = some frame.payload := by
  unfold sentFrames
  rw [mem_mapIdx]
  constructor
  · rintro ⟨index, hindex, rfl⟩
    exact ⟨rfl, List.getElem?_eq_getElem hindex⟩
  · rintro ⟨rfl, hpayload⟩
    obtain ⟨hindex, hget⟩ := List.getElem?_eq_some_iff.mp hpayload
    exact ⟨frame.frameIndex, hindex, by rw [hget]⟩

def WithinSkew (snapshot : AworsetSnapshot) (nowMs : Nat) : Prop :=
  ∀ delta ∈ snapshot.blocks, delta.createdAtMs ≤ satAdd nowMs maxClockSkewMs

lemma of_validate (hvalid : snapshot.validate = .ok ()) :
    (∀ delta ∈ snapshot.blocks, invalidBlock delta = false) ∧
      ∀ delta ∈ snapshot.unblocks, invalidDot delta.ip delta.dot = false := by
  unfold validate at hvalid
  split at hvalid
  · cases hvalid
  next hblocks =>
    exact ⟨fun delta hdelta => ((of_validateDeltas_ok hblocks).1 delta hdelta).1,
      fun delta hdelta => ((of_validateDeltas_ok hvalid).1 delta hdelta).1⟩

lemma of_invalidDot {ip : IpAddr} {dot : ClusterDot} (hvalid : invalidDot ip dot = false) :
    ip.isUnspecified = false ∧ dot.validWire := by
  simp only [invalidDot, Bool.or_eq_false_iff, beq_eq_false_iff_ne] at hvalid
  obtain ⟨⟨⟨hip, hnode⟩, hnil⟩, hcounter⟩ := hvalid
  simp_all [ClusterDot.validWire]

lemma valid_of_mem_sentFrames (hvalid : snapshot.validate = .ok ())
    (hbound : snapshot.entryCount ≤ maxRecoveryEntries)
    (hcount : identity.frameCount = snapshot.framePayloads.length)
    (hgeneration : 0 < identity.generation) (hid : identity.recoveryId.isNil = false)
    (hdigest : validDigest identity.snapshotDigest) {nowMs : Nat}
    (hskew : snapshot.WithinSkew nowMs) (hframe : frame ∈ snapshot.sentFrames identity) :
    (ReceivedRecovery.frame frame).wire.valid nowMs := by
  obtain ⟨rfl, hpayload⟩ := mem_sentFrames.mp hframe
  obtain ⟨hblocksValid, hunblocksValid⟩ := of_validate hvalid
  obtain ⟨hentries, hblocks, hunblocks⟩ := mem_framePayloads (mem_of_getElem? hpayload)
  have hindex := (List.getElem?_eq_some_iff.mp hpayload).1
  have hframes := length_framePayloads_le hbound
  have hdeltas : validDeltas frame.payload.blocks frame.payload.unblocks nowMs := by
    simp only [validDeltas, Bool.and_eq_true, decide_eq_true_eq, all_eq_true]
    refine ⟨⟨hentries, fun delta hdelta => ?_⟩, fun delta hdelta => ?_⟩
    · have hchecked := hblocksValid delta (hblocks delta hdelta)
      simp only [invalidBlock, Bool.or_eq_false_iff, Bool.and_eq_false_iff, bne_eq_false_iff_eq,
        decide_eq_false_iff_not, not_lt] at hchecked
      have hcreated := hskew delta (hblocks delta hdelta)
      simp only [ClusterBlockDelta.validWire, (of_invalidDot hchecked.1).2, Bool.true_and,
        Bool.and_eq_true, Bool.or_eq_true, beq_iff_eq, decide_eq_true_eq]
      exact ⟨.inr hcreated, hchecked.2⟩
    · obtain ⟨hip, hdot⟩ := of_invalidDot (hunblocksValid delta (hunblocks delta hdelta))
      simp [ClusterUnblockDelta.validWire, hip, hdot]
  simp only [ReceivedRecovery.wire, WireMessage.valid, hdeltas, hid, hdigest, Bool.and_eq_true,
    decide_eq_true_eq, Bool.not_false, and_true]
  refine ⟨⟨⟨hgeneration, ?_⟩, ?_⟩, ?_⟩
  · omega
  · omega
  · omega

lemma sum_entryCount_framePayloads (snapshot : AworsetSnapshot) :
    (snapshot.framePayloads.map RecoveryFramePayload.entryCount).sum = snapshot.entryCount := by
  have hsum (payloads : List RecoveryFramePayload) :
      (payloads.map RecoveryFramePayload.entryCount).sum = (assemble payloads).entryCount := by
    induction payloads with
    | nil => rfl
    | cons payload payloads ih =>
      rw [map_cons, sum_cons, ih]
      simp only [assemble, entryCount, RecoveryFramePayload.entryCount, flatMap_cons, length_append]
      omega
  rw [hsum, assemble_framePayloads]

end AworsetSnapshot

namespace RecoverySessions

/-! ## The assembly of a sender whose frames arrive -/

def held (done : Finset Nat) (payloads : List RecoveryFramePayload) :
    List (Option RecoveryFramePayload) :=
  payloads.mapIdx fun index payload => if index ∈ done then some payload else none

lemma getElem?_held (done : Finset Nat) (payloads : List RecoveryFramePayload) (index : Nat) :
    (held done payloads)[index]? =
      payloads[index]?.map fun payload => if index ∈ done then some payload else none :=
  List.getElem?_mapIdx

lemma held_empty (payloads : List RecoveryFramePayload) :
    held ∅ payloads = List.replicate payloads.length none :=
  ext_getElem (by simp [held]) fun index _ _ => by simp [held]

lemma held_insert {payloads : List RecoveryFramePayload} {index : Nat}
    {payload : RecoveryFramePayload} (hpayload : payloads[index]? = some payload)
    (done : Finset Nat) :
    (held done payloads).set index (some payload) = held (insert index done) payloads := by
  obtain ⟨hindex, rfl⟩ := List.getElem?_eq_some_iff.mp hpayload
  refine ext_getElem (by simp [held]) fun other _ _ => ?_
  by_cases hother : index = other
  · simp [held, hother]
  · simp [held, getElem_set_ne hother, Ne.symm hother]

lemma held_of_all {payloads : List RecoveryFramePayload} {done : Finset Nat}
    (hall : ∀ index < payloads.length, index ∈ done) : held done payloads = payloads.map some := by
  refine ext_getElem (by simp [held]) fun index _ hindex => ?_
  rw [length_map] at hindex
  simp [held, hall index hindex]

/-- Slots never hold more than the frames do. -/
lemma heldEntries_mapIdx_le (payloads : List RecoveryFramePayload)
    {slot : Nat → RecoveryFramePayload → Option RecoveryFramePayload}
    (hslot : ∀ index payload, slot index payload = none ∨ slot index payload = some payload) :
    heldEntries (payloads.mapIdx slot) ≤ (payloads.map RecoveryFramePayload.entryCount).sum := by
  induction payloads generalizing slot with
  | nil => exact le_rfl
  | cons payload payloads ih =>
    have hrest := ih (fun index => hslot (index + 1))
    have hfirst : ((slot 0 payload).map RecoveryFramePayload.entryCount).getD 0 ≤
        payload.entryCount := by
      rcases hslot 0 payload with hnone | hsome
      · rw [hnone]
        exact Nat.zero_le _
      · rw [hsome]
        exact le_rfl
    rw [mapIdx_cons]
    simp only [heldEntries, map_cons, sum_cons] at hrest ⊢
    omega

lemma heldEntries_held_le (done : Finset Nat) (snapshot : AworsetSnapshot) :
    heldEntries (held done snapshot.framePayloads) ≤ snapshot.entryCount := by
  rw [← snapshot.sum_entryCount_framePayloads]
  refine heldEntries_mapIdx_le _ fun index payload => ?_
  by_cases hdone : index ∈ done
  · exact .inr (if_pos hdone)
  · exact .inl (if_neg hdone)

variable (snapshot : AworsetSnapshot) (identity : RecoveryIdentity)

def assembly (done : Finset Nat) : RecoveryAssembly where
  identity := identity
  frames := held done snapshot.framePayloads
  entryCount := heldEntries (held done snapshot.framePayloads)
  completedProof := none

def receiving (sender : Nat) (done : Finset Nat) : RecoverySessions :=
  if done = ∅ then ∅ else (∅ : RecoverySessions).insert sender (assembly snapshot identity done)

lemma lookup_receiving (sender : Nat) {done : Finset Nat} (hdone : done.Nonempty) :
    (receiving snapshot identity sender done).lookup sender =
      some (assembly snapshot identity done) := by
  rw [receiving, if_neg hdone.ne_empty, Finmap.lookup_insert]

section Sent

variable {snapshot identity} {frame : RecoveryFrame} {done : Finset Nat}

lemma recordRecoveryFrame_first (hbound : snapshot.entryCount ≤ maxRecoveryEntries)
    (hcount : identity.frameCount = snapshot.framePayloads.length)
    (hframe : frame ∈ snapshot.sentFrames identity) (hindex : frame.frameIndex = 0) (sender : Nat) :
    (receiving snapshot identity sender ∅).recordRecoveryFrame sender frame =
      (true, receiving snapshot identity sender {frame.frameIndex}) := by
  obtain ⟨rfl, hpayload⟩ := mem_sentFrames.mp hframe
  have hopened : opened frame = assembly snapshot frame.identity {frame.frameIndex} := by
    have hvacant : (held ∅ snapshot.framePayloads)[frame.frameIndex]? = some none := by
      rw [getElem?_held, hpayload]
      rfl
    have hslots := held_insert hpayload ∅
    have hentries := heldEntries_set hvacant frame.payload
    rw [hslots, held_empty, heldEntries_replicate, Nat.zero_add, insert_empty_eq] at hentries
    unfold opened assembly
    rw [hentries, ← insert_empty_eq, ← hslots, held_empty, hcount]
  have hentries : frame.payload.entryCount ≤ maxRecoveryTotalEntries := by
    have hsmall := (mem_framePayloads (mem_of_getElem? hpayload)).1
    unfold maxSyncFrameEntries at hsmall
    unfold maxRecoveryTotalEntries
    omega
  have hframes : frame.identity.frameCount ≤ maxRecoveryTotalFrames := by
    rw [hcount]
    exact length_framePayloads_le hbound
  have hvacant : (∅ : RecoverySessions).lookup sender = none := rfl
  have hpeers : maxConfiguredPeers ≠ 0 := by decide
  have htotals : (∅ : RecoverySessions).totalEntries = 0 ∧
      (∅ : RecoverySessions).totalFrames = 0 := ⟨rfl, rfl⟩
  rw [receiving, receiving, if_pos rfl, if_neg (Finset.singleton_ne_empty _), recordRecoveryFrame,
    hvacant]
  simp [openSession, hvacant, htotals, hopened, hindex, hpeers, hentries.not_gt, hframes.not_gt]

lemma recordRecoveryFrame_later (hbound : snapshot.entryCount ≤ maxRecoveryEntries)
    (hframe : frame ∈ snapshot.sentFrames identity) (hdone : done.Nonempty) (sender : Nat) :
    (receiving snapshot identity sender done).recordRecoveryFrame sender frame =
      (true, receiving snapshot identity sender (insert frame.frameIndex done)) := by
  obtain ⟨rfl, hpayload⟩ := mem_sentFrames.mp hframe
  have hlookup := lookup_receiving snapshot frame.identity sender hdone
  have hslot : (assembly snapshot frame.identity done).frames[frame.frameIndex]? =
      some (if frame.frameIndex ∈ done then some frame.payload else none) := by
    change (held done snapshot.framePayloads)[frame.frameIndex]? = _
    rw [getElem?_held, hpayload, Option.map_some]
  unfold recordRecoveryFrame
  rw [hlookup]
  dsimp only
  rw [if_pos ⟨rfl, rfl⟩, if_neg (by simp [assembly]), hslot]
  by_cases hheld : frame.frameIndex ∈ done
  · rw [if_pos hheld, Finset.insert_eq_of_mem hheld]
    simp
  · rw [if_neg hheld] at hslot ⊢
    dsimp only
    have hslots := held_insert hpayload done
    have hentries : heldEntries ((held done snapshot.framePayloads).set frame.frameIndex
        (some frame.payload)) =
          heldEntries (held done snapshot.framePayloads) + frame.payload.entryCount :=
      heldEntries_set hslot frame.payload
    have hwithin := heldEntries_held_le (insert frame.frameIndex done) snapshot
    have htotal : (receiving snapshot frame.identity sender done).totalEntries =
        heldEntries (held done snapshot.framePayloads) := by
      rw [receiving, if_neg hdone.ne_empty, totalEntries,
        Table.total_insert_of_vacant _ rfl, Table.total_empty, Nat.zero_add]
      rfl
    -- What is held and the new frame are frames of one snapshot, which is within the bound.
    have hsum : heldEntries (held done snapshot.framePayloads) + frame.payload.entryCount ≤
        snapshot.entryCount := by
      rw [← hslots] at hwithin
      exact hentries ▸ hwithin
    have hroom : ¬ ((assembly snapshot frame.identity done).entryCount +
        frame.payload.entryCount > maxRecoveryEntries ∨
        (receiving snapshot frame.identity sender done).totalEntries + frame.payload.entryCount >
          maxRecoveryTotalEntries) := by
      rw [htotal]
      change ¬ (heldEntries (held done snapshot.framePayloads) + _ > _ ∨ _)
      unfold maxRecoveryTotalEntries
      unfold maxRecoveryEntries at hbound ⊢
      omega
    have hfill : fill (assembly snapshot frame.identity done) frame =
        assembly snapshot frame.identity (insert frame.frameIndex done) := by
      unfold fill assembly
      rw [← hslots, hentries]
    rw [if_neg hroom, hfill, receiving, receiving, if_neg hdone.ne_empty,
      if_neg (Finset.insert_ne_empty _ _), Finmap.insert_insert]

lemma completeRecovery_of_all {digest : SnapshotDigest}
    (hdigest : digest.canonicalSnapshotDigest snapshot = .ok identity.snapshotDigest)
    (hall : ∀ index < snapshot.framePayloads.length, index ∈ done) (sender : Nat) :
    ((receiving snapshot identity sender done).completeRecovery digest sender identity).1 =
      some identity := by
  have hdone : done.Nonempty := ⟨0, hall 0 (length_pos_iff.mpr snapshot.framePayloads_ne_nil)⟩
  have hlookup := lookup_receiving snapshot identity sender hdone
  have hframes : (assembly snapshot identity done).frames = snapshot.framePayloads.map some :=
    held_of_all hall
  have hwhole : Whole digest (assembly snapshot identity done) := by
    refine ⟨?_, ?_⟩
    · intro slot hslot
      rw [hframes] at hslot
      obtain ⟨payload, _, rfl⟩ := mem_map.mp hslot
      exact Option.some_ne_none payload
    · rw [hframes]
      simp only [filterMap_map, Function.id_comp, filterMap_some]
      rw [snapshot.assemble_framePayloads]
      exact hdigest
  have hsome : ((receiving snapshot identity sender done).completeRecovery digest sender
      identity).1.isSome :=
    completeRecovery_isSome_iff.mpr ⟨_, hlookup, rfl, .inr hwhole⟩
  have hcompleted := completeRecovery_completed digest
    (receiving snapshot identity sender done) sender identity
  generalize completeRecovery digest (receiving snapshot identity sender done) sender identity =
    outcome at hsome hcompleted ⊢
  obtain ⟨proof, sessions⟩ := outcome
  cases hcompleted with
  | refused => cases hsome
  | again hsession _ hproof =>
    cases hlookup.symm.trans hsession
    cases hproof
  | first => rfl

end Sent

end RecoverySessions

open RecoverySessions

/-! ## Delivering the frames -/

/-- A frame on its way: when it is admitted, and its turn in the service. -/
structure FrameDelivery where
  frame : RecoveryFrame
  admittedMs : Nat
  turn : Turn

def FrameDelivery.received (delivery : FrameDelivery) : ReceivedMeshMessage :=
  .recovery (.frame delivery.frame)

namespace MeshReceiver

def deliver (digest : SnapshotDigest) (sender : Nat) (receiver : MeshReceiver)
    (delivery : FrameDelivery) : MeshReceiver :=
  (receiver.handle digest delivery.turn sender delivery.received).2

def Takes (digest : SnapshotDigest) (sender : Nat) (receiver : MeshReceiver)
    (delivery : FrameDelivery) : Prop :=
  (receiver.handle digest delivery.turn sender delivery.received).1.accepted = true

def Ready (receiver : MeshReceiver) (delivery : FrameDelivery) : Prop :=
  delivery.turn.Works receiver.service delivery.received.message.operations.length

structure Receiving (snapshot : AworsetSnapshot) (identity : RecoveryIdentity) (sender : Nat)
    (done : Finset Nat) (receiver : MeshReceiver) : Prop where
  blocklist : receiver.service.meshBlocklist.isSome = true
  wal : receiver.service.wal.isSome = true
  unsuppressed : receiver.service.meshOperatorSuppressions = ∅
  sessions : receiver.sessions = receiving snapshot identity sender done

/-- What the sender and the network respect. -/
structure Sends (snapshot : AworsetSnapshot) (identity : RecoveryIdentity)
    (delivery : FrameDelivery) : Prop where
  frame : delivery.frame ∈ snapshot.sentFrames identity
  skew : snapshot.WithinSkew delivery.admittedMs
  clock : delivery.turn.nowMs ≤ delivery.turn.ackMs

section Deliveries

variable {digest : SnapshotDigest} {snapshot : AworsetSnapshot} {identity : RecoveryIdentity}
  {sender : Nat} {done : Finset Nat} {receiver : MeshReceiver} {delivery : FrameDelivery}

lemma answerable_of_sends (hvalid : snapshot.validate = .ok ())
    (hunsuppressed : receiver.service.meshOperatorSuppressions = ∅)
    (hsends : Sends snapshot identity delivery) (mesh : AworsetBlocklist) :
    receiver.Answerable digest mesh delivery.turn sender delivery.received := by
  obtain ⟨_, hpayload⟩ := mem_sentFrames.mp hsends.frame
  obtain ⟨_, hblocks, _⟩ := mem_framePayloads (mem_of_getElem? hpayload)
  have hspecified : ∀ delta ∈ delivery.frame.payload.blocks, delta.ip.isUnspecified = false := by
    intro delta hdelta
    have hchecked := (of_validate hvalid).1 delta (hblocks delta hdelta)
    exact (of_invalidDot (Bool.or_eq_false_iff.mp hchecked).1).1
  refine ⟨fun mutation hmem hrejects => ?_, fun delta hdelta hlive _ => ?_⟩
  · have hitem := MeshMessage.mem_operations.mp hmem
    rcases mem_append.mp hitem with hblock | hunblock
    · obtain ⟨delta, hdelta, heq⟩ := mem_map.mp hblock
      cases heq
      cases hrejects.1.symm.trans (hspecified delta hdelta)
    · obtain ⟨delta, _, heq⟩ := mem_map.mp hunblock
      cases heq
      exact hrejects
  · refine ⟨.block delta, MeshMessage.mem_operations_of_block hdelta _, ?_, rfl, le_rfl⟩
    refine decide_eq_true ⟨hsends.clock.trans_lt hlive, ?_⟩
    rw [hunsuppressed]
    exact Finset.notMem_empty _

section

variable (hvalid : snapshot.validate = .ok ()) (hbound : snapshot.entryCount ≤ maxRecoveryEntries)
  (hcount : identity.frameCount = snapshot.framePayloads.length)

include hvalid hbound hcount

lemma Receiving.deliver (hadmitted : delivery.received.wire.valid delivery.admittedMs)
    (hreceiving : Receiving snapshot identity sender done receiver)
    (hsends : Sends snapshot identity delivery) (hready : receiver.Ready delivery)
    (hfirst : done = ∅ → delivery.frame.frameIndex = 0) :
    receiver.Takes digest sender delivery ∧
      Receiving snapshot identity sender (insert delivery.frame.frameIndex done)
        (receiver.deliver digest sender delivery) := by
  have hrecorded : receiver.sessions.recordRecoveryFrame sender delivery.frame =
      (true, receiving snapshot identity sender (insert delivery.frame.frameIndex done)) := by
    rw [hreceiving.sessions]
    rcases done.eq_empty_or_nonempty with rfl | hdone
    · exact recordRecoveryFrame_first hbound hcount hsends.frame (hfirst rfl) sender
    · exact recordRecoveryFrame_later hbound hsends.frame hdone sender
  obtain ⟨mesh, hmesh⟩ := Option.isSome_iff_exists.mp hreceiving.blocklist
  have haccepted : receiver.Takes digest sender delivery := by
    refine (answer_accepted_iff hadmitted hmesh hreceiving.wal hready ?_).mpr
      (answerable_of_sends hvalid hreceiving.unsuppressed hsends mesh)
    intro frame hframe
    cases hframe
    rw [hrecorded]
  obtain ⟨hprocessed, hnext⟩ := handle_of_accepted haccepted
  have hleave := (processed_accepted hadmitted hmesh hreceiving.wal hready).2 hprocessed
  refine ⟨haccepted, ?_⟩
  unfold MeshReceiver.deliver
  rw [FrameDelivery.received, hnext]
  obtain ⟨merged, hmerged, _⟩ := hleave.blocklist
  refine ⟨Option.isSome_iff_exists.mpr ⟨merged, hmerged⟩, hleave.wal, ?_, ?_⟩
  · exact hleave.suppressions.trans hreceiving.unsuppressed
  · rw [hrecorded]

lemma Receiving.run {deliveries : List FrameDelivery}
    (hadmitted : ∀ delivery ∈ deliveries, delivery.received.wire.valid delivery.admittedMs)
    (hsends : ∀ delivery ∈ deliveries, Sends snapshot identity delivery)
    (hreceiving : Receiving snapshot identity sender done receiver)
    (hready : Respects (MeshReceiver.deliver digest sender) Ready receiver deliveries)
    (hfirst : done = ∅ → ∀ delivery ∈ deliveries.head?, delivery.frame.frameIndex = 0) :
    Respects (MeshReceiver.deliver digest sender) (Takes digest sender) receiver deliveries ∧
      Receiving snapshot identity sender
        (done ∪ (deliveries.map fun delivery => delivery.frame.frameIndex).toFinset)
        (Machine.run (MeshReceiver.deliver digest sender) receiver deliveries) := by
  induction deliveries generalizing receiver done with
  | nil =>
    refine ⟨trivial, ?_⟩
    simpa using hreceiving
  | cons delivery deliveries ih =>
    obtain ⟨hnow, hlater⟩ := hready
    obtain ⟨htakes, hnext⟩ := hreceiving.deliver hvalid hbound hcount
      (hadmitted delivery mem_cons_self) (hsends delivery mem_cons_self) hnow
      fun hempty => hfirst hempty delivery rfl
    obtain ⟨hrest, hfinal⟩ := ih (fun other hmem => hadmitted other (mem_cons_of_mem _ hmem))
      (fun other hmem => hsends other (mem_cons_of_mem _ hmem)) hnext hlater
      fun hempty => absurd hempty (Finset.insert_ne_empty _ _)
    refine ⟨⟨htakes, hrest⟩, ?_⟩
    rw [map_cons, toFinset_cons, Finset.union_insert, ← Finset.insert_union]
    exact hfinal

end

end Deliveries

/-- Recovery is complete. The frames of a canonical snapshot within the entry bound are
admitted, put together they are the snapshot, and a receiver without suppressions and other
senders that gets the first frame first and every frame at least once accepts all of them and
proves the completion. -/
theorem recovery_completes {digest : SnapshotDigest} {snapshot : AworsetSnapshot}
    {identity : RecoveryIdentity} (hcanonical : snapshot.canonicalSnapshot = .ok snapshot)
    (hbound : snapshot.entryCount ≤ maxRecoveryEntries) (hgeneration : 0 < identity.generation)
    (hid : identity.recoveryId.isNil = false)
    (hcount : identity.frameCount = snapshot.framePayloads.length)
    (hdigest : digest.canonicalSnapshotDigest snapshot = .ok identity.snapshotDigest) :
    (∀ frame ∈ snapshot.sentFrames identity, ∀ nowMs, snapshot.WithinSkew nowMs →
      (ReceivedMeshMessage.recovery (.frame frame)).wire.valid nowMs = true) ∧
    AworsetSnapshot.assemble ((snapshot.sentFrames identity).map RecoveryFrame.payload) = snapshot ∧
    ∀ (sender : Nat) (receiver : MeshReceiver) (deliveries : List FrameDelivery),
      receiver.service.meshBlocklist.isSome = true → receiver.service.wal.isSome = true →
      receiver.service.meshOperatorSuppressions = ∅ → receiver.sessions = ∅ →
      (∀ delivery ∈ deliveries, Sends snapshot identity delivery) →
      (deliveries.map FrameDelivery.frame).head? = (snapshot.sentFrames identity).head? →
      (∀ frame ∈ snapshot.sentFrames identity, frame ∈ deliveries.map FrameDelivery.frame) →
      Respects (deliver digest sender) Ready receiver deliveries →
      Respects (deliver digest sender) (Takes digest sender) receiver deliveries ∧
        ((run (deliver digest sender) receiver deliveries).sessions.completeRecovery digest sender
          identity).1 = some identity := by
  have hvalid : snapshot.validate = .ok () := (canonicalSnapshot_eq_ok hcanonical).2
  have htext : validDigest identity.snapshotDigest := by
    rw [digest_canonical hcanonical] at hdigest
    exact Except.ok.inj hdigest ▸ digest.valid snapshot
  have hadmitted : ∀ frame ∈ snapshot.sentFrames identity, ∀ nowMs, snapshot.WithinSkew nowMs →
      (ReceivedMeshMessage.recovery (.frame frame)).wire.valid nowMs := by
    intro frame hframe nowMs hskew
    exact valid_of_mem_sentFrames hvalid hbound hcount hgeneration hid htext hskew hframe
  have hpayloads : (snapshot.sentFrames identity).map RecoveryFrame.payload =
      snapshot.framePayloads := by
    apply ext_getElem?
    intro index
    rw [List.getElem?_map, sentFrames, List.getElem?_mapIdx, Option.map_map]
    exact Option.map_id'
  refine ⟨hadmitted, ?_, ?_⟩
  · rw [hpayloads]
    exact snapshot.assemble_framePayloads
  · intro sender receiver deliveries hmesh hwal hunsuppressed hsessions hsends hhead hall hready
    have hreceiving : Receiving snapshot identity sender ∅ receiver :=
      ⟨hmesh, hwal, hunsuppressed, hsessions⟩
    -- The snapshot has a first frame even if it is empty, and the first delivery is that one.
    have hfirst : ∀ delivery ∈ deliveries.head?, delivery.frame.frameIndex = 0 := by
      intro delivery hdelivery
      rw [List.head?_map, hdelivery, Option.map_some] at hhead
      unfold sentFrames at hhead
      cases hframes : snapshot.framePayloads with
      | nil => exact absurd hframes snapshot.framePayloads_ne_nil
      | cons payload payloads =>
        rw [hframes, mapIdx_cons, List.head?_cons, Option.some.injEq] at hhead
        rw [hhead]
    obtain ⟨htakes, hfinal⟩ := Receiving.run hvalid hbound hcount
      (fun delivery hmem => hadmitted _ (hsends delivery hmem).frame _ (hsends delivery hmem).skew)
      hsends hreceiving hready fun _ => hfirst
    refine ⟨htakes, ?_⟩
    rw [hfinal.sessions]
    -- Every index was delivered, so every slot is filled.
    refine completeRecovery_of_all hdigest (fun index hindex => ?_) sender
    have hframe : (⟨identity, index, snapshot.framePayloads[index]⟩ : RecoveryFrame) ∈
        snapshot.sentFrames identity :=
      mem_sentFrames.mpr ⟨rfl, List.getElem?_eq_getElem hindex⟩
    obtain ⟨delivery, hdelivery, heq⟩ := mem_map.mp (hall _ hframe)
    rw [Finset.empty_union, mem_toFinset]
    exact mem_map.mpr ⟨delivery, hdelivery, congrArg RecoveryFrame.frameIndex heq⟩

def sampleSnapshot : AworsetSnapshot where
  blocks := [AworsetBlocklist.sampleBan, ⟨.v4 2, ⟨2, 1, 5⟩, 20, u64Max, 3⟩]
  unblocks := [⟨.v4 3, ⟨1, 1, 1⟩⟩, ⟨.v4 3, ⟨2, 1, 4⟩⟩]

def sampleIdentity : RecoveryIdentity where
  generation := 5
  recoveryId := 9
  boundaryLsn := 40
  snapshotDigest := ReceiverTrace.counterDigest.hash sampleSnapshot
  frameCount := 2

/-- The first frame arrives twice before the second does. -/
def sampleDeliveries : List FrameDelivery :=
  [⟨⟨sampleIdentity, 0, ⟨sampleSnapshot.blocks, []⟩⟩, 90, turnAt 10 100⟩,
    ⟨⟨sampleIdentity, 0, ⟨sampleSnapshot.blocks, []⟩⟩, 110, turnAt 20 120⟩,
    ⟨⟨sampleIdentity, 1, ⟨[], sampleSnapshot.unblocks⟩⟩, 130, turnAt 30 140⟩]

/-- Its completion is proved. -/
theorem recovery_completes_sample :
    ((run (deliver ReceiverTrace.counterDigest 2) fresh sampleDeliveries).sessions.completeRecovery
      ReceiverTrace.counterDigest 2 sampleIdentity).1 = some sampleIdentity := by
  have hsent : sampleDeliveries.map FrameDelivery.frame ⊆
      sampleSnapshot.sentFrames sampleIdentity := by decide +kernel
  have hskew (nowMs : Nat) : sampleSnapshot.WithinSkew nowMs := by
    intro delta hdelta
    have hcreated : ∀ delta ∈ sampleSnapshot.blocks, delta.createdAtMs ≤ 20 := by decide
    have := hcreated delta hdelta
    unfold satAdd u64Max maxClockSkewMs
    omega
  have hclock : ∀ delivery ∈ sampleDeliveries, delivery.turn.nowMs ≤ delivery.turn.ackMs := by
    intro delivery hdelivery
    simp only [sampleDeliveries, mem_cons, not_mem_nil, or_false] at hdelivery
    rcases hdelivery with rfl | rfl | rfl <;> exact le_rfl
  have hcompletes := @recovery_completes ReceiverTrace.counterDigest sampleSnapshot sampleIdentity
    rfl (by decide) (by decide) (by decide) (by decide +kernel) rfl
  refine (hcompletes.2.2 2 fresh sampleDeliveries rfl rfl rfl rfl (fun delivery hdelivery => ?_)
    (by decide +kernel) (by decide +kernel) ?_).2
  · exact ⟨hsent (mem_map_of_mem hdelivery), hskew _, hclock delivery hdelivery⟩
  · exact ⟨turnAt_works (by decide) (by decide +kernel) 100,
      turnAt_works (by decide) (by decide +kernel) 120,
      turnAt_works (by decide) (by decide +kernel) 140, trivial⟩

end MeshReceiver

end RamShield
