import RamShield.Enforcement.Replay

/-! # Checkpoint snapshots

The image of the enforcement state at a log position, how it is built from the
live service, and how a boot puts it back into the store. Deadlines are absolute
Unix times, so a snapshot can be restored at any later clock reading.
-/

namespace RamShield

open Foundation

structure IpBlockSnapshot where
  ip : IpAddr
  reason : String
  sinceNs : Nat
  expiresAtNs : Option Nat
  deriving DecidableEq

structure CidrSnapshot where
  network : IpNetwork
  expiresAtNs : Option Nat
  deriving DecidableEq

structure CheckpointSnapshot where
  lsn : Nat
  tsNs : Nat
  blockedIps : List IpBlockSnapshot
  activeCidrs : List CidrSnapshot
  meshState : Option AworsetSnapshot
  deriving DecidableEq

namespace CheckpointSnapshot

def ofBlockedIp (store : Store) (now : Instant) (shared : SharedState) (ip : IpAddr) :
    Option IpBlockSnapshot :=
  match store.get now ip with
  | some (.ipRecord record) =>
    match record.blockState with
    | .blocked reason sinceNs => some ⟨ip, reason.asStr, sinceNs, shared.ipExpirations.lookup ip⟩
    | _ => none
  | _ => none

def build (service : EnforcementService) (clock : Clock) (ips : IterOrder IpAddr)
    (networks : IterOrder IpNetwork) (dots : IterOrder BlockKey) (wal : Wal)
    (shared : SharedState) : CheckpointSnapshot where
  lsn := wal.durableLsn
  tsNs := clock.wallNs
  blockedIps := (service.store.getAllBlockedIps ips).filterMap
    (ofBlockedIp service.store clock.mono shared)
  activeCidrs := (networks.enum service.store.activeCidrs).map fun network =>
    ⟨network, shared.cidrExpirations.lookup network⟩
  meshState := service.meshBlocklist.map fun mesh => mesh.exportSnapshot dots

end CheckpointSnapshot

/-! ## Restoring -/

inductive ExpiryVerdict
  | live (remainingNs : Nat)
  | expired
  | permanent
  deriving DecidableEq

def classify (expiresAtNs : Option Nat) (nowNs : Nat) : ExpiryVerdict :=
  match expiresAtNs with
  | none => .permanent
  | some deadline => if nowNs < deadline then .live (deadline - nowNs) else .expired

/-- `SnapshotRestore`, without the two fields that no caller reads. -/
structure SnapshotRestore where
  ipStates : List IpBlockSnapshot
  ipExpirations : List (IpAddr × Nat)
  cidrExpirations : List (IpNetwork × Nat)
  cidrStates : List CidrSnapshot

namespace SnapshotRestore

def liveDeadline (expiresAtNs : Option Nat) (nowNs : Nat) : Option Nat :=
  expiresAtNs.filter (nowNs < ·)

def ofSnapshot (snapshot : CheckpointSnapshot) (nowNs : Nat) : SnapshotRestore where
  ipStates := snapshot.blockedIps.filter fun entry => classify entry.expiresAtNs nowNs != .expired
  ipExpirations := snapshot.blockedIps.filterMap fun entry =>
    (liveDeadline entry.expiresAtNs nowNs).map (entry.ip, ·)
  cidrExpirations := snapshot.activeCidrs.filterMap fun entry =>
    (liveDeadline entry.expiresAtNs nowNs).map (entry.network, ·)
  cidrStates := snapshot.activeCidrs.filter fun entry =>
    classify entry.expiresAtNs nowNs != .expired

end SnapshotRestore

def IpBlockSnapshot.record (entry : IpBlockSnapshot) : IpRecord :=
  .zeroed entry.ip entry.sinceNs
    (.blocked ((BlockReason.fromReasonStr entry.reason).getD .manualBlock) entry.sinceNs)

def insertIpSnapshot (clock : Clock) (store : Store) (entry : IpBlockSnapshot)
    (ttlSecs : Option Nat) : Option Store :=
  match store.insert clock.mono entry.ip (.ipRecord entry.record) ttlSecs
      (Replay.ramLimit store) with
  | (.error .panic, _) => none
  | (_, store) => some store

def restoreIpSnapshot (clock : Clock) (store : Store) (entry : IpBlockSnapshot) : Option Store :=
  match classify entry.expiresAtNs clock.wallNs with
  | .expired => some store
  | .live remainingNs => insertIpSnapshot clock store entry (some (divCeil remainingNs secNs))
  | .permanent => insertIpSnapshot clock store entry none

def restoreFromSnapshot (clock : Clock) (store : Store) (snapshot : CheckpointSnapshot) :
    Option (SnapshotRestore × Store) :=
  match snapshot.blockedIps.foldlM (restoreIpSnapshot clock) store with
  | none => none
  | some store =>
    let restore := SnapshotRestore.ofSnapshot snapshot clock.wallNs
    let networks := (restore.cidrStates.map CidrSnapshot.network).toFinset
    some (restore, { store with activeCidrs := store.activeCidrs ∪ networks })

end RamShield
