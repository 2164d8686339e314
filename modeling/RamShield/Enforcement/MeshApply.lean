import RamShield.Enforcement.Expiry
import RamShield.Foundation.Run
import RamShield.Mesh.Wire

/-! # Applying mesh messages

How the enforcement service takes in what peers decided: a delta is filtered,
journalled with its origin, merged into the cluster blocklist and projected into
the store, and a projection that failed is repaired later. Replication of the
own log to peers does not change the service and is left out.
-/

namespace RamShield

open Foundation Foundation.Machine

inductive MeshApplyOutcome
  | applied
  | ignored
  deriving DecidableEq

structure MeshApplyReport where
  received : Nat
  applied : Nat
  ignored : Nat
  failed : Nat
  stateChanged : Bool
  deriving DecidableEq

namespace MeshApplyReport

def empty : MeshApplyReport := ⟨0, 0, 0, 0, false⟩

def record (report : MeshApplyReport) (result : Except EnforcementError MeshApplyOutcome)
    (stateChanged : Bool) : MeshApplyReport :=
  let report := { report with
    received := report.received + 1
    stateChanged := report.stateChanged || stateChanged }
  match result with
  | .ok .applied => { report with applied := report.applied + 1 }
  | .ok .ignored => { report with ignored := report.ignored + 1 }
  | .error _ => { report with failed := report.failed + 1 }

end MeshApplyReport

/-- The failures that leave neither a record nor a merge behind. -/
def EnforcementError.beforeCommit : EnforcementError → Bool
  | .wal _ | .invalidCommand _ => true
  | _ => false

def meshAckable (result : Except EnforcementError MeshApplyOutcome) (hasWal : Bool) : Bool :=
  match result with
  | .ok .ignored => true
  | .ok .applied => hasWal
  | .error error => !error.beforeCommit && hasWal

def requireXdpProjection (action : String) (result : EnforceResult) :
    Except EnforcementError EnforceResult :=
  if result.xdpApplied then .ok result
  else .error (.xdp (result.error.getD
    ("mesh " ++ action ++ " committed but XDP projection was not applied")))

def ReplicatedMeshMutation.operation (mutation : ReplicatedMeshMutation) :
    Option PendingMeshMutation :=
  (mutation.originIncarnation.filter fun incarnation => !incarnation.isNil).map fun incarnation =>
    let dot : ClusterDot := ⟨mutation.originNodeId, incarnation, mutation.originCounter⟩
    match mutation.action with
    | .block => .block
        { ip := mutation.ip
          dot := dot
          createdAtMs := mutation.createdAtMs
          expiresAtMs := mutation.expiresAtMs.getD u64Max
          tier := mutation.tier }
    | .unblock => .unblock { ip := mutation.ip, dot := dot }

def MeshMessage.items : MeshMessage → List (Option PendingMeshMutation)
  | .block delta => [some (.block delta)]
  | .unblock delta => [some (.unblock delta)]
  | .sync blocks unblocks =>
    blocks.map (fun delta => some (.block delta)) ++ unblocks.map fun delta => some (.unblock delta)
  | .walBatch _ _ _ mutations => mutations.map ReplicatedMeshMutation.operation

def MeshMessage.ackLsn (message : MeshMessage) (accepted : Bool) : Option Nat :=
  match message with
  | .walBatch _ _ endLsn _ => if accepted then some endLsn else none
  | _ => none

namespace EnforcementService

variable (service : EnforcementService) (io : Io)

def meshCommand (nowMs : Nat) (actor : String) (ip : IpAddr) (action : EnforceAction)
    (ttlSeconds : Nat) : EnforceCommand where
  decisionId := io.freshId
  policyVersion := 1
  source := "mesh"
  actor := actor
  timestampUtc := (nowMs / 1000 : Nat)
  ttlSeconds := ttlSeconds
  reason := match action with
    | .block => "mesh_final"
    | .unblock => "mesh_purge"
  ip := ip
  cidr := none
  action := action
  evidenceSource := .fleetSignals

def persistAndMergeUnblockOnly (delta : ClusterUnblockDelta) :
    Except EnforcementError Unit × EnforcementService :=
  match service.journal io ((PendingMeshMutation.unblock delta).toWalEntry io.clock.wallNs) with
  | .error error => (.error error, service)
  | .ok (_, service) => (.ok (), service.mergeMutation io (some (.unblock delta)))

/-- `enforce_mesh_mutation` if new, `enforce_durable_mesh_projection` if durable already. -/
def enforceMesh (cmd : EnforceCommand) (changed : Bool) (mutation : PendingMeshMutation) :
    Except EnforcementError EnforceResult × EnforcementService :=
  if changed then service.enforceInner io cmd (some mutation) .append
  else service.enforceInner io cmd none .alreadyDurable

def settle (applied : Finset IpAddr) (ip : IpAddr) : EnforcementService :=
  { service with
    meshAppliedIps := applied
    meshProjectionPending := service.meshProjectionPending.erase ip }

def settleBlocked (ip : IpAddr) : EnforcementService :=
  if service.store.blockedNow io.clock.mono ip then
    service.settle (insert ip service.meshAppliedIps) ip
  else service

def settleReleased (ip : IpAddr) : EnforcementService :=
  if service.store.blockedNow io.clock.mono ip then service
  else service.settle (service.meshAppliedIps.erase ip) ip

/-- What `apply_mesh_block` and `apply_mesh_unblock` report about a projection. -/
def projected (changed : Bool) (action : String)
    (result : Except EnforcementError EnforceResult) :
    Bool × Except EnforcementError MeshApplyOutcome :=
  match result.bind (requireXdpProjection action) with
  | .ok _ => (changed, .ok .applied)
  | .error error => (changed && !error.beforeCommit, .error error)

/-- The remaining seconds of a delta, rounded up; zero for a permanent one. -/
def deltaTtl (delta : ClusterBlockDelta) (nowMs : Nat) : Nat :=
  if delta.expiresAtMs = u64Max then 0 else satAdd (delta.expiresAtMs - nowMs) 999 / 1000

def projectBlock (nowMs : Nat) (changed : Bool) (delta : ClusterBlockDelta) :
    (Bool × Except EnforcementError MeshApplyOutcome) × EnforcementService :=
  let cmd := meshCommand io nowMs ("mesh:" ++ toString delta.dot.nodeId) delta.ip .block
    (deltaTtl delta nowMs)
  let service := { service with
    meshProjectionPending := insert delta.ip service.meshProjectionPending }
  let (result, service) := service.enforceMesh io cmd changed (.block delta)
  (projected changed "block" result, service.settleBlocked io delta.ip)

def applyMeshBlock (nowMs : Nat) (delta : ClusterBlockDelta) :
    (Bool × Except EnforcementError MeshApplyOutcome) × EnforcementService :=
  if delta.expiresAtMs ≤ nowMs then ((false, .ok .ignored), service)
  else
    match service.meshBlocklist with
    | none => ((false, .ok .ignored), service)
    | some mesh =>
      if delta.ip ∈ service.meshOperatorSuppressions then ((false, .ok .ignored), service)
      else
        let changed := mesh.needsMergeDelta delta
        if !changed ∧ delta.ip ∈ service.meshAppliedIps then
          ((changed, .ok .ignored), service)
        else if delta.expiresAtMs ≠ u64Max ∧ deltaTtl delta nowMs = 0 then
          ((changed, .ok .ignored), service)
        else service.projectBlock io nowMs changed delta

def projectUnblock (nowMs : Nat) (changed : Bool) (delta : ClusterUnblockDelta) :
    (Bool × Except EnforcementError MeshApplyOutcome) × EnforcementService :=
  let cmd := meshCommand io nowMs ("mesh:" ++ toString delta.dot.nodeId) delta.ip .unblock 0
  let service := { service with
    meshProjectionPending := insert delta.ip service.meshProjectionPending }
  let (result, service) := service.enforceMesh io cmd changed (.unblock delta)
  (projected changed "unblock" result, service.settleReleased io delta.ip)

def applyMeshUnblock (nowMs : Nat) (delta : ClusterUnblockDelta) :
    (Bool × Except EnforcementError MeshApplyOutcome) × EnforcementService :=
  match service.meshBlocklist with
  | none => ((false, .ok .ignored), service)
  | some mesh =>
    let changed := mesh.needsMergeUnblock delta
    if mesh.wouldBeBlockedAfterUnblock delta nowMs ∨ delta.ip ∉ service.meshAppliedIps then
      if changed then
        match service.persistAndMergeUnblockOnly io delta with
        | (.ok (), service) => ((true, .ok .ignored), service)
        | (.error error, service) => ((false, .error error), service)
      else ((false, .ok .ignored), service)
    else service.projectUnblock io nowMs changed delta

def applyMutation (nowMs : Nat) (mutation : PendingMeshMutation) :
    (Bool × Except EnforcementError MeshApplyOutcome) × EnforcementService :=
  match mutation with
  | .block delta => service.applyMeshBlock io nowMs delta
  | .unblock delta => service.applyMeshUnblock io nowMs delta

/-! ## What an operation of a peer can do -/

inductive BlockApplied (service : EnforcementService) (io : Io) (nowMs : Nat)
    (delta : ClusterBlockDelta) :
    Except EnforcementError MeshApplyOutcome → EnforcementService → Prop
  | expired (hexpired : delta.expiresAtMs ≤ nowMs) :
      BlockApplied service io nowMs delta (.ok .ignored) service
  | meshless (hmesh : service.meshBlocklist = none) :
      BlockApplied service io nowMs delta (.ok .ignored) service
  | suppressed (hsuppressed : delta.ip ∈ service.meshOperatorSuppressions) :
      BlockApplied service io nowMs delta (.ok .ignored) service
  | duplicate {mesh : AworsetBlocklist} (hmesh : service.meshBlocklist = some mesh)
      (hunneeded : mesh.needsMergeDelta delta = false)
      (happlied : delta.ip ∈ service.meshAppliedIps) :
      BlockApplied service io nowMs delta (.ok .ignored) service
  | projected {mesh : AworsetBlocklist} (hmesh : service.meshBlocklist = some mesh)
      (hlive : nowMs < delta.expiresAtMs)
      (hunsuppressed : delta.ip ∉ service.meshOperatorSuppressions)
      (hnew : mesh.needsMergeDelta delta = true ∨ delta.ip ∉ service.meshAppliedIps) :
      BlockApplied service io nowMs delta
        (service.projectBlock io nowMs (mesh.needsMergeDelta delta) delta).1.2
        (service.projectBlock io nowMs (mesh.needsMergeDelta delta) delta).2

/-- An unexpired delta has at least one second left. -/
lemma deltaTtl_pos {delta : ClusterBlockDelta} {nowMs : Nat} (hlive : nowMs < delta.expiresAtMs)
    (htemporary : delta.expiresAtMs ≠ u64Max) : 0 < deltaTtl delta nowMs := by
  unfold deltaTtl satAdd u64Max
  rw [if_neg (by unfold u64Max at htemporary; exact htemporary)]
  omega

variable (nowMs : Nat)

lemma applyMeshBlock_applied (delta : ClusterBlockDelta) :
    BlockApplied service io nowMs delta (service.applyMeshBlock io nowMs delta).1.2
      (service.applyMeshBlock io nowMs delta).2 := by
  unfold applyMeshBlock
  split
  next hexpired => exact .expired hexpired
  next hlive =>
    have hlive := Nat.lt_of_not_le hlive
    cases hmesh : service.meshBlocklist with
    | none => exact .meshless hmesh
    | some mesh =>
      dsimp only
      split
      next hsuppressed => exact .suppressed hsuppressed
      next hunsuppressed =>
        split
        next hduplicate => exact .duplicate hmesh (by simpa using hduplicate.1) hduplicate.2
        next hnew =>
          split
          next hlapsed => exact absurd hlapsed.2 (deltaTtl_pos hlive hlapsed.1).ne'
          refine .projected hmesh hlive hunsuppressed ?_
          cases hneeded : mesh.needsMergeDelta delta with
          | true => exact .inl rfl
          | false => exact .inr fun happlied => hnew ⟨by simp [hneeded], happlied⟩

inductive UnblockApplied (service : EnforcementService) (io : Io) (nowMs : Nat)
    (delta : ClusterUnblockDelta) : EnforcementService → Prop
  | meshless (hmesh : service.meshBlocklist = none) : UnblockApplied service io nowMs delta service
  | unneeded {mesh : AworsetBlocklist} (hmesh : service.meshBlocklist = some mesh)
      (hunneeded : mesh.needsMergeUnblock delta = false)
      (hkept : mesh.wouldBeBlockedAfterUnblock delta nowMs ∨ delta.ip ∉ service.meshAppliedIps) :
      UnblockApplied service io nowMs delta service
  | recorded {mesh : AworsetBlocklist} (hmesh : service.meshBlocklist = some mesh)
      (hneeded : mesh.needsMergeUnblock delta = true)
      (hkept : mesh.wouldBeBlockedAfterUnblock delta nowMs ∨ delta.ip ∉ service.meshAppliedIps) :
      UnblockApplied service io nowMs delta (service.persistAndMergeUnblockOnly io delta).2
  | released {mesh : AworsetBlocklist} (hmesh : service.meshBlocklist = some mesh)
      (hfree : ¬ mesh.wouldBeBlockedAfterUnblock delta nowMs)
      (happlied : delta.ip ∈ service.meshAppliedIps) :
      UnblockApplied service io nowMs delta
        (service.projectUnblock io nowMs (mesh.needsMergeUnblock delta) delta).2

lemma applyMeshUnblock_applied (delta : ClusterUnblockDelta) :
    UnblockApplied service io nowMs delta (service.applyMeshUnblock io nowMs delta).2 := by
  unfold applyMeshUnblock
  cases hmesh : service.meshBlocklist with
  | none => exact .meshless hmesh
  | some mesh =>
    dsimp only
    split
    next hkept =>
      cases hneeded : mesh.needsMergeUnblock delta with
      | true =>
        have hrecorded : UnblockApplied service io nowMs delta
            (service.persistAndMergeUnblockOnly io delta).2 :=
          .recorded hmesh hneeded hkept
        rw [if_pos rfl]
        split <;> simp_all
      | false => exact .unneeded hmesh hneeded hkept
    next hreleases =>
      obtain ⟨hfree, happlied⟩ := not_or.mp hreleases
      exact .released hmesh hfree (not_not.mp happlied)

/-! ## A batch -/

/-- The loop state of `apply_mesh_messages`; `used` counts the environments
consumed. -/
structure MeshBatch where
  service : EnforcementService
  used : Nat
  report : MeshApplyReport
  accepted : Bool

def applyItem (ios : Nat → Io) (nowMs : Nat) (batch : MeshBatch) :
    Option PendingMeshMutation → MeshBatch
  | none => { batch with accepted := false }
  | some mutation =>
    let (outcome, service) := batch.service.applyMutation (ios batch.used) nowMs mutation
    { service := service
      used := batch.used + 1
      report := batch.report.record outcome.2 outcome.1
      accepted := batch.accepted && meshAckable outcome.2 service.wal.isSome }

def applyMessage (ios : Nat → Io) (nowMs : Nat)
    (state : MeshBatch × List (Bool × Option Nat)) (message : MeshMessage) :
    MeshBatch × List (Bool × Option Nat) :=
  let batch := message.items.foldl (applyItem ios nowMs) { state.1 with accepted := true }
  (batch, state.2 ++ [(batch.accepted, message.ackLsn batch.accepted)])

/-- `apply_mesh_messages` on the drained messages: report, acknowledgements and service. The time is
read once. -/
def applyMeshMessages (service : EnforcementService) (ios : Nat → Io)
    (messages : List MeshMessage) :
    MeshApplyReport × List (Bool × Option Nat) × EnforcementService :=
  if service.meshHandle then
    let (batch, acks) := messages.foldl (applyMessage ios (ios 0).clock.wallMs)
      (⟨service, 0, .empty, true⟩, [])
    (batch.report, acks, batch.service)
  else (.empty, [], service)

/-! ## Repairing projections -/

/-- One address of `reconcile_mesh_projection`. -/
def reconcileIp (ttls : List (IpAddr × Nat)) (nowMs : Nat) (service : EnforcementService)
    (io : Io) (ip : IpAddr) : EnforcementService :=
  if ip ∈ service.meshOperatorSuppressions then service.settle service.meshAppliedIps ip
  else
    match ttls.lookup ip with
    | some ttlSeconds =>
      if service.store.blockedNow io.clock.mono ip then
        service.settle (insert ip service.meshAppliedIps) ip
      else
        (service.enforceInner io
          (meshCommand io nowMs "mesh-projection-reconciler" ip .block ttlSeconds)
          none .alreadyDurable).2.settleBlocked io ip
    | none =>
      if ip ∉ service.meshAppliedIps then service.settle service.meshAppliedIps ip
      else if service.store.blockedNow io.clock.mono ip then
        (service.enforceInner io
          (meshCommand io nowMs "mesh-projection-reconciler" ip .unblock 0)
          none .alreadyDurable).2.settleReleased io ip
      else service.settle (service.meshAppliedIps.erase ip) ip

/-- `reconcile_mesh_projection`: at most 64 pending addresses, in the order of the set. -/
def reconcileMeshProjection (service : EnforcementService) (ios : Nat → Io)
    (order : IterOrder IpAddr) : EnforcementService :=
  match service.meshBlocklist with
  | none => { service with meshProjectionPending := ∅ }
  | some mesh =>
    let nowMs := (ios 0).clock.wallMs
    eachDue (reconcileIp (mesh.activeBlockTtls nowMs) nowMs) ios service 0
      ((order.enum service.meshProjectionPending).take 64)

end EnforcementService

end RamShield
