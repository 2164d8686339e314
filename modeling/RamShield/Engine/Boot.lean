import RamShield.Engine.Checkpoint
import RamShield.Enforcement.Expiry

/-! # Recovery at boot

The recovery section of `boot_pipeline`: the snapshot is put back, the cluster
blocklist is rebuilt from the log, the log is folded over the snapshot, and the
leases are armed in two passes, first from the snapshot and then from the fold.
The log is the complete one: retention, and the refusal to boot from a pruned
log, are outside this model.
-/

namespace RamShield

open Foundation

/-- The hash orders of one process. -/
structure HashOrders where
  ips : IterOrder IpAddr
  dots : IterOrder BlockKey
  networks : IterOrder IpNetwork

def HashOrders.sorted : HashOrders := ⟨IpAddr.sorted, BlockKey.sorted, IpNetwork.sorted⟩

/-- Why a boot ends. -/
inductive BootError
  | panic
  | invalidMeshState (message : String)
  | meshReplay (error : Replay.ReplayError)
  | walReplay (error : Replay.ReplayError)
  deriving DecidableEq

def mergeLogged (wallMs : Nat) (mesh : AworsetBlocklist) (key : BlockKey)
    (mutation : MeshMutation) : AworsetBlocklist :=
  let dot : ClusterDot := ⟨key.nodeId, key.incarnation, mutation.originCounter⟩
  match mutation.action with
  | .block =>
    (mesh.mergeDelta wallMs
      { ip := key.ip
        dot := dot
        createdAtMs := mutation.createdAtMs
        expiresAtMs := mutation.expiresAtMs.getD u64Max
        tier := mutation.tier }).2
  | .unblock => (mesh.mergeUnblockDelta wallMs { ip := key.ip, dot := dot }).2

/-- `restore_mesh_crdt_from_wal`. Its checks are those of `replay_mesh_state`. -/
def restoreMeshCrdtFromWal (wallMs : Nat) :
    AworsetBlocklist → List WalEntry → Except Replay.ReplayError AworsetBlocklist
  | mesh, [] => .ok mesh
  | mesh, .meshMutation mutation :: log =>
    match Replay.checkMutation mutation with
    | .error error => .error error
    | .ok key => restoreMeshCrdtFromWal wallMs (mergeLogged wallMs mesh key mutation) log
  | mesh, _ :: log => restoreMeshCrdtFromWal wallMs mesh log

namespace Boot

variable (clock : Clock) (orders : HashOrders)

/-- The snapshot part of a boot: store seeded, mesh state checked and merged. -/
def loadSnapshot (service : EnforcementService) (snapshot : CheckpointSnapshot) :
    Except BootError (SnapshotRestore × EnforcementService) :=
  match restoreFromSnapshot clock service.store snapshot with
  | none => .error .panic
  | some (restore, store) =>
    let service := service.withStore store
    match snapshot.meshState with
    | none => .ok (restore, service)
    | some meshState =>
      match meshState.validate with
      | .error message => .error (.invalidMeshState message)
      | .ok () =>
        .ok (restore, { service with
          meshBlocklist := service.meshBlocklist.map fun mesh =>
            mesh.restoreSnapshot clock.wallMs meshState })

def restoreMesh (service : EnforcementService) (log : List WalEntry) :
    Except BootError EnforcementService :=
  match service.meshBlocklist with
  | none => .ok service
  | some mesh =>
    match restoreMeshCrdtFromWal clock.wallMs mesh log with
    | .error error => .error (.meshReplay error)
    | .ok mesh => .ok { service with meshBlocklist := some mesh }

/-- `replay_seed`: a later entry of an address replaces an earlier one. -/
def ipSeed (restore : SnapshotRestore) : Table IpAddr Replay.SeedBlock :=
  restore.ipStates.foldl (fun seed entry =>
    seed.insert entry.ip ⟨entry.reason, entry.sinceNs, entry.expiresAtNs.getD 0⟩) ∅

def cidrSeed (restore : SnapshotRestore) : Table IpNetwork (Option Nat) :=
  restore.cidrStates.foldl (fun seed entry => seed.insert entry.network entry.expiresAtNs) ∅

def replayIps (hardWal : Bool) (service : EnforcementService) (wal : Wal) (minLsn : Nat)
    (seed : Table IpAddr Replay.SeedBlock) (meshSeed : Option Replay.MeshReplaySeed) :
    Except BootError (List (IpAddr × Nat) × EnforcementService) :=
  match Replay.replayWalIntoStoreSeeded clock orders.ips orders.dots service.store wal minLsn seed
      meshSeed with
  | (.ok restored, store) => .ok (restored, service.withStore store)
  | (.error error, store) =>
    if hardWal then .error (.walReplay error) else .ok ([], service.withStore store)

def dropReleasedCidrs (service : EnforcementService) (restore : SnapshotRestore)
    (finalCidrs : Finset IpNetwork) : EnforcementService :=
  (orders.networks.enum ((restore.cidrStates.map CidrSnapshot.network).toFinset \ finalCidrs)).foldl
    EnforcementService.removeRestoredCidr service

def remainingSecs (nowNs deadline : Nat) : Nat := divCeil (deadline - nowNs) secNs

def rearmSnapshot (service : EnforcementService) (restore : SnapshotRestore)
    (finalCidrs : Finset IpNetwork) : EnforcementService :=
  let service := service.restoreExpirations clock
    (restore.ipExpirations.map fun pair => (pair.1, remainingSecs clock.wallNs pair.2))
  service.restoreCidrBlocks clock
    ((restore.cidrExpirations.filter fun pair => pair.1 ∈ finalCidrs).map fun pair =>
      (pair.1, remainingSecs clock.wallNs pair.2))

def seedLeases (service : EnforcementService) (wal : Wal) (restore : Option SnapshotRestore)
    (finalCidrs : Finset IpNetwork) : EnforcementService :=
  match restore with
  | none => service.withWal wal
  | some restore =>
    rearmSnapshot clock ((dropReleasedCidrs orders service restore finalCidrs).withWal wal)
      restore finalCidrs

def replayAndArm (hardWal : Bool) (service : EnforcementService) (wal : Wal) (minLsn : Nat)
    (restore : Option SnapshotRestore) (meshState : Option AworsetSnapshot) :
    Except BootError EnforcementService :=
  let seed := (restore.map ipSeed).getD ∅
  let meshSeed := meshState.map fun state => ⟨state.blocks, state.unblocks⟩
  match replayIps clock orders hardWal service wal minLsn seed meshSeed with
  | .error error => .error error
  | .ok (restoredTtls, service) =>
    let service := service.refreshMeshAppliedIps clock
    let (restoredCidrs, finalCidrs) := Replay.replayWalCidrsSeeded orders.networks clock.wallNs
      ((restore.map cidrSeed).getD ∅) (wal.replayFrom minLsn)
    let service := seedLeases clock orders service wal restore finalCidrs
    .ok ((service.restoreExpirations clock restoredTtls).restoreCidrBlocks clock restoredCidrs)

/-- The recovery of `boot_pipeline`, for the manifest's position and the file found there. -/
def recover (hardWal : Bool) (service : EnforcementService) (wal : Wal) (snapLsn : Nat)
    (file : Option CheckpointSnapshot) : Except BootError EnforcementService :=
  match (if 0 < snapLsn then file else none) with
  | none =>
    match restoreMesh clock service wal.log with
    | .error error => .error error
    | .ok service => replayAndArm clock orders hardWal service wal 0 none none
  | some snapshot =>
    match loadSnapshot clock service snapshot with
    | .error error => .error error
    | .ok (restore, service) =>
      let meshLsn := if snapshot.meshState.isSome then snapLsn else 0
      match restoreMesh clock service (wal.replayFrom meshLsn) with
      | .error error => .error error
      | .ok service =>
        replayAndArm clock orders hardWal service wal snapLsn (some restore) snapshot.meshState

end Boot

end RamShield
