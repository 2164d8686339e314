import RamShield.Mesh.Aworset

/-! # Mesh messages and their admission

The messages that peers exchange, and the field checks that the transport makes
on an authenticated frame before it queues the message for the enforcement
service. Framing, authentication and acknowledgement are outside this model; an
incarnation sent as text is what that text parses to.
-/

namespace RamShield

inductive MeshMutationKind
  | block
  | unblock
  deriving DecidableEq

structure ReplicatedMeshMutation where
  sourceLsn : Nat
  originNodeId : Nat
  originIncarnation : Option Uuid
  originCounter : Nat
  ip : IpAddr
  action : MeshMutationKind
  createdAtMs : Nat
  expiresAtMs : Option Nat
  tier : Nat
  deriving DecidableEq

inductive MeshMessage
  | block (delta : ClusterBlockDelta)
  | unblock (delta : ClusterUnblockDelta)
  | sync (blocks : List ClusterBlockDelta) (unblocks : List ClusterUnblockDelta)
  | walBatch (sourceNodeId startLsn endLsn : Nat) (mutations : List ReplicatedMeshMutation)
  deriving DecidableEq

/-- `RecoveryWireMessage`, with the fields that the admission reads. -/
inductive RecoveryWireMessage
  | frame (generation : Nat) (recoveryId : Uuid) (snapshotDigest : String)
      (frameIndex frameCount : Nat) (blocks : List ClusterBlockDelta)
      (unblocks : List ClusterUnblockDelta)
  | complete (generation : Nat) (recoveryId : Uuid) (snapshotDigest : String) (frameCount : Nat)
  deriving DecidableEq

inductive WireMessage
  | standard (message : MeshMessage)
  | recovery (message : RecoveryWireMessage)
  deriving DecidableEq

def maxClockSkewMs : Nat := 30000

def maxSyncFrameEntries : Nat := 16

def maxRecoveryFrames : Nat := 8192

def ClusterDot.validWire (dot : ClusterDot) : Bool :=
  dot.nodeId != 0 && dot.counter != 0 && !dot.incarnation.isNil

lemma ClusterDot.admissible_of_validWire {dot : ClusterDot} (hvalid : dot.validWire) :
    dot.admissible := by
  simp only [ClusterDot.validWire, Bool.and_eq_true] at hvalid
  simp only [ClusterDot.admissible, Bool.and_eq_true]
  exact ⟨hvalid.1.1, hvalid.2⟩

def ClusterBlockDelta.validWire (delta : ClusterBlockDelta) (nowMs : Nat) : Bool :=
  delta.dot.validWire &&
    (delta.createdAtMs == 0 || decide (delta.createdAtMs ≤ satAdd nowMs maxClockSkewMs)) &&
    (delta.expiresAtMs == u64Max || decide (delta.createdAtMs ≤ delta.expiresAtMs))

def ClusterUnblockDelta.validWire (delta : ClusterUnblockDelta) : Bool :=
  !delta.ip.isUnspecified && delta.dot.validWire

def ReplicatedMeshMutation.validWire (mutation : ReplicatedMeshMutation)
    (startLsn endLsn nowMs : Nat) : Bool :=
  decide (startLsn ≤ mutation.sourceLsn) && decide (mutation.sourceLsn ≤ endLsn) &&
    mutation.originNodeId != 0 && decide (0 < mutation.originCounter) &&
    (mutation.originIncarnation.any fun incarnation => !incarnation.isNil) &&
    !mutation.ip.isUnspecified &&
    decide (mutation.createdAtMs ≤ satAdd nowMs maxClockSkewMs) &&
    match mutation.action with
    | .block => mutation.expiresAtMs.all fun expiry => decide (mutation.createdAtMs ≤ expiry)
    | .unblock => mutation.expiresAtMs.isNone

def validDeltas (blocks : List ClusterBlockDelta) (unblocks : List ClusterUnblockDelta)
    (nowMs : Nat) : Bool :=
  decide (blocks.length + unblocks.length ≤ maxSyncFrameEntries) &&
    blocks.all (·.validWire nowMs) && unblocks.all (·.validWire)

/-- `valid_message`. -/
def MeshMessage.valid (message : MeshMessage) (nowMs : Nat) : Bool :=
  match message with
  | .block delta => delta.validWire nowMs
  | .unblock delta => delta.validWire
  | .sync blocks unblocks => validDeltas blocks unblocks nowMs
  | .walBatch sourceNodeId startLsn endLsn mutations =>
    sourceNodeId != 0 && decide (0 < startLsn) && decide (startLsn ≤ endLsn) &&
      decide (mutations.length ≤ maxSyncFrameEntries) &&
      ((mutations.zip mutations.tail).all fun pair =>
        decide (pair.1.sourceLsn < pair.2.sourceLsn)) &&
      mutations.all (·.validWire startLsn endLsn nowMs)

/-- `valid_digest`: 64 lowercase hexadecimal digits. -/
def validDigest (digest : String) : Bool :=
  digest.length == 64 &&
    digest.toList.all fun char => char.isDigit || decide ('a' ≤ char ∧ char ≤ 'f')

/-- `valid_wire_message`. -/
def WireMessage.valid (message : WireMessage) (nowMs : Nat) : Bool :=
  match message with
  | .standard message => message.valid nowMs
  | .recovery (.frame generation recoveryId digest frameIndex frameCount blocks unblocks) =>
    decide (0 < generation) && !recoveryId.isNil && validDigest digest &&
      decide (0 < frameCount) && decide (frameCount ≤ maxRecoveryFrames) &&
      decide (frameIndex < frameCount) && validDeltas blocks unblocks nowMs
  | .recovery (.complete generation recoveryId digest frameCount) =>
    decide (0 < generation) && !recoveryId.isNil && validDigest digest &&
      decide (0 < frameCount) && decide (frameCount ≤ maxRecoveryFrames)

/-- The message that `read_stream` queues for a frame. -/
def WireMessage.queued (message : WireMessage) : MeshMessage :=
  match message with
  | .standard message => message
  | .recovery (.frame _ _ _ _ _ blocks unblocks) => .sync blocks unblocks
  | .recovery (.complete _ _ _ _) => .sync [] []

end RamShield
