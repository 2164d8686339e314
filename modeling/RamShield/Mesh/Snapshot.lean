import Mathlib.Data.Prod.Lex
import RamShield.Foundation.Chunks
import RamShield.Mesh.Validity
import RamShield.Mesh.Wire

/-! # Snapshots on the wire

A recovery sends the whole blocklist of a node: in canonical order, cut into small
frames, and identified by a digest of the canonical form. The hash is a parameter;
of its text only the shape is known.
-/

namespace RamShield

open Foundation List

def maxRecoveryEntries : Nat := 65536

/-- The sort key of `canonical_snapshot`: address, node, incarnation and counter. -/
def canonicalOrder (ip : IpAddr) (dot : ClusterDot) : Nat ×ₗ Nat ×ₗ Nat ×ₗ Nat :=
  toLex (ip.rank, toLex (dot.nodeId, toLex (dot.incarnation.toNat, dot.counter)))

/-- `RecoveryFramePayload`: the deltas of one frame. -/
structure RecoveryFramePayload where
  blocks : List ClusterBlockDelta
  unblocks : List ClusterUnblockDelta
  deriving DecidableEq

def RecoveryFramePayload.entryCount (payload : RecoveryFramePayload) : Nat :=
  payload.blocks.length + payload.unblocks.length

namespace AworsetSnapshot

variable (snapshot : AworsetSnapshot)

def entryCount : Nat := snapshot.blocks.length + snapshot.unblocks.length

def sorted : AworsetSnapshot where
  blocks := snapshot.blocks.insertionSort fun left right =>
    canonicalOrder left.ip left.dot ≤ canonicalOrder right.ip right.dot
  unblocks := snapshot.unblocks.insertionSort fun left right =>
    canonicalOrder left.ip left.dot ≤ canonicalOrder right.ip right.dot

def canonicalSnapshot : Except String AworsetSnapshot :=
  match snapshot.sorted.validate with
  | .error error => .error error
  | .ok () => .ok snapshot.sorted

/-- `chunk_sync`: frames of blocks, then frames of tombstones. -/
def chunkSync : List RecoveryFramePayload :=
  (chunks maxSyncFrameEntries snapshot.blocks).map (fun blocks => ⟨blocks, []⟩) ++
    (chunks maxSyncFrameEntries snapshot.unblocks).map fun unblocks => ⟨[], unblocks⟩

/-- The frames that `send_sync_snapshot` sends; an empty snapshot takes one. -/
def framePayloads : List RecoveryFramePayload :=
  if snapshot.chunkSync = [] then [⟨[], []⟩] else snapshot.chunkSync

def assemble (payloads : List RecoveryFramePayload) : AworsetSnapshot where
  blocks := payloads.flatMap RecoveryFramePayload.blocks
  unblocks := payloads.flatMap RecoveryFramePayload.unblocks

end AworsetSnapshot

open AworsetSnapshot

/-- The hash behind `canonical_snapshot_digest`, written in hexadecimal. -/
structure SnapshotDigest where
  hash : AworsetSnapshot → String
  valid (snapshot : AworsetSnapshot) : validDigest (hash snapshot) = true

def SnapshotDigest.canonicalSnapshotDigest (digest : SnapshotDigest)
    (snapshot : AworsetSnapshot) : Except String String :=
  match canonicalSnapshot snapshot with
  | .error error => .error error
  | .ok canonical => .ok (digest.hash canonical)

namespace AworsetSnapshot

/-! ## The canonical form -/

lemma sorted_sorted (snapshot : AworsetSnapshot) : snapshot.sorted.sorted = snapshot.sorted := by
  have hblocks : IsTrans ClusterBlockDelta fun left right =>
      canonicalOrder left.ip left.dot ≤ canonicalOrder right.ip right.dot :=
    ⟨fun _ _ _ => le_trans⟩
  have hunblocks : IsTrans ClusterUnblockDelta fun left right =>
      canonicalOrder left.ip left.dot ≤ canonicalOrder right.ip right.dot :=
    ⟨fun _ _ _ => le_trans⟩
  have hblocksTotal : Std.Total fun left right : ClusterBlockDelta =>
      canonicalOrder left.ip left.dot ≤ canonicalOrder right.ip right.dot :=
    ⟨fun _ _ => le_total _ _⟩
  have hunblocksTotal : Std.Total fun left right : ClusterUnblockDelta =>
      canonicalOrder left.ip left.dot ≤ canonicalOrder right.ip right.dot :=
    ⟨fun _ _ => le_total _ _⟩
  unfold sorted
  dsimp only
  rw [(pairwise_insertionSort _ snapshot.blocks).insertionSort_eq,
    (pairwise_insertionSort _ snapshot.unblocks).insertionSort_eq]

variable {snapshot canonical : AworsetSnapshot}

lemma canonicalSnapshot_eq_ok (hok : snapshot.canonicalSnapshot = .ok canonical) :
    canonical = snapshot.sorted ∧ canonical.validate = .ok () := by
  unfold canonicalSnapshot at hok
  split at hok
  · cases hok
  next hvalid =>
    cases hok
    exact ⟨rfl, hvalid⟩

lemma canonicalSnapshot_canonical (hok : snapshot.canonicalSnapshot = .ok canonical) :
    canonical.canonicalSnapshot = .ok canonical := by
  obtain ⟨rfl, hvalid⟩ := canonicalSnapshot_eq_ok hok
  unfold canonicalSnapshot
  rw [sorted_sorted, hvalid]

lemma digest_canonical {digest : SnapshotDigest}
    (hcanonical : canonical.canonicalSnapshot = .ok canonical) :
    digest.canonicalSnapshotDigest canonical = .ok (digest.hash canonical) := by
  unfold SnapshotDigest.canonicalSnapshotDigest
  rw [hcanonical]

/-- Sorting neither adds nor drops a tombstone. -/
lemma mem_unblocks_canonical (hok : snapshot.canonicalSnapshot = .ok canonical)
    {delta : ClusterUnblockDelta} : delta ∈ canonical.unblocks ↔ delta ∈ snapshot.unblocks := by
  obtain ⟨rfl, _⟩ := canonicalSnapshot_eq_ok hok
  exact mem_insertionSort _

/-! ## Frames -/

section

variable (snapshot)

lemma assemble_chunkSync : assemble snapshot.chunkSync = snapshot := by
  have hnothing {Delta Other : Type} (lists : List (List Delta)) :
      lists.flatMap (fun _ => ([] : List Other)) = [] :=
    flatMap_eq_nil_iff.mpr fun _ _ => rfl
  unfold chunkSync
  simp [assemble, flatMap_map, flatMap_id', hnothing]

/-- The frames put together are the snapshot. -/
lemma assemble_framePayloads : assemble snapshot.framePayloads = snapshot := by
  have hchunks := snapshot.assemble_chunkSync
  unfold framePayloads
  split
  next hempty =>
    rw [hempty] at hchunks
    exact hchunks
  · exact hchunks

lemma framePayloads_ne_nil : snapshot.framePayloads ≠ [] := by
  unfold framePayloads
  split
  · exact cons_ne_nil _ _
  next hsome => exact hsome

end

lemma mem_framePayloads {payload : RecoveryFramePayload}
    (hpayload : payload ∈ snapshot.framePayloads) :
    payload.entryCount ≤ maxSyncFrameEntries ∧
      (∀ delta ∈ payload.blocks, delta ∈ snapshot.blocks) ∧
      ∀ delta ∈ payload.unblocks, delta ∈ snapshot.unblocks := by
  have hassemble := snapshot.assemble_framePayloads
  refine ⟨?_, ?_, ?_⟩
  · unfold framePayloads at hpayload
    split at hpayload
    · cases mem_singleton.mp hpayload
      exact Nat.zero_le _
    · rcases mem_append.mp hpayload with hblocks | hunblocks
      · obtain ⟨chunk, hchunk, rfl⟩ := mem_map.mp hblocks
        exact length_le_of_mem_chunks (by decide) hchunk
      · obtain ⟨chunk, hchunk, rfl⟩ := mem_map.mp hunblocks
        rw [RecoveryFramePayload.entryCount, length_nil, Nat.zero_add]
        exact length_le_of_mem_chunks (by decide) hchunk
  · intro delta hdelta
    rw [← hassemble]
    exact mem_flatMap.mpr ⟨payload, hpayload, hdelta⟩
  · intro delta hdelta
    rw [← hassemble]
    exact mem_flatMap.mpr ⟨payload, hpayload, hdelta⟩

lemma length_framePayloads_le (hbound : snapshot.entryCount ≤ maxRecoveryEntries) :
    snapshot.framePayloads.length ≤ maxRecoveryFrames := by
  have hblocks := @length_chunks_mul_lt _ maxSyncFrameEntries (by decide) snapshot.blocks
  have hunblocks := @length_chunks_mul_lt _ maxSyncFrameEntries (by decide) snapshot.unblocks
  unfold entryCount maxRecoveryEntries at hbound
  unfold maxSyncFrameEntries at hblocks hunblocks
  unfold framePayloads maxRecoveryFrames
  split
  · decide
  unfold chunkSync maxSyncFrameEntries
  rw [length_append, length_map, length_map]
  omega

end AworsetSnapshot

end RamShield
