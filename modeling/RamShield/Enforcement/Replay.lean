import RamShield.Enforcement.Service

/-! # Recovery from the log

`replay.rs`: the fold of the log over a seed, the separate fold of the mesh
records by origin dot, and the projection of the result into the store.
Deadlines stay absolute until the hand-off to the lease scheduler.
-/

namespace RamShield

open Foundation

namespace Replay

/-- A block as the fold keeps it. -/
structure BlockFold where
  reason : BlockReason
  sinceNs : Nat
  deadlineNs : Option Nat
  deriving DecidableEq

def recordDeadline (ttlSecs : Option Nat) (tsNs : Nat) : Option Nat :=
  ttlSecs.map fun secs => satAdd tsNs (satMul secs secNs)

/-- One record of the local fold. Mesh records are folded by origin dot. -/
def foldIp (blocked : Table IpAddr BlockFold) : WalEntry → Table IpAddr BlockFold
  | .blockIp (some ip) reason ttlSecs tsNs =>
    blocked.insert ip ⟨reasonToBlockReason reason, tsNs, recordDeadline ttlSecs tsNs⟩
  | .unblockIp (some ip) _ => blocked.erase ip
  | _ => blocked

def foldCidr (blocked : Table IpNetwork (Option Nat)) : WalEntry → Table IpNetwork (Option Nat)
  | .blockCidr cidr _ ttlSecs tsNs => blocked.insert cidr (recordDeadline ttlSecs tsNs)
  | .unblockCidr cidr _ => blocked.erase cidr
  | _ => blocked

def expired (deadlineNs : Option Nat) (nowNs : Nat) : Bool := deadlineNs.any (· ≤ nowNs)

/-- Whole seconds until the deadline, rounded up; zero for a permanent block. -/
def remaining (deadlineNs : Option Nat) (nowNs : Nat) : Nat :=
  (deadlineNs.map fun deadline => divCeil (deadline - nowNs) secNs).getD 0

/-- The RAM limit of the replay: the configured one, but at least one megabyte. -/
def ramLimit (store : Store) : Nat := max store.ramLimitMb 1 * 1024 * 1024

/-! ## Mesh records -/

/-- The errors of a recovery; the parser's own text ends some of them. -/
inductive ReplayError
  | invalidMeshEvent (schemaVersion originNodeId originCounter : Nat)
  | invalidMeshIp
  | unspecifiedMeshIp
  | invalidMeshIncarnation
  | nilMeshIncarnation
  | insert (ip : IpAddr) (error : RsError)
  deriving DecidableEq

structure MeshReplaySeed where
  blocks : List ClusterBlockDelta
  unblocks : List ClusterUnblockDelta

structure ActiveMeshDot where
  counter : Nat
  sinceNs : Nat
  deadlineNs : Option Nat
  tier : Nat
  deriving DecidableEq

/-- The three maps of `replay_mesh_state`. -/
structure MeshFold where
  touched : Finset IpAddr
  active : Table BlockKey ActiveMeshDot
  tombstones : Table BlockKey Nat

def MeshFold.empty : MeshFold := ⟨∅, ∅, ∅⟩

def seedUnblock (fold : MeshFold) (delta : ClusterUnblockDelta) : MeshFold :=
  { fold with
    touched := insert delta.ip fold.touched
    tombstones := fold.tombstones.insert delta.key
      (max ((fold.tombstones.lookup delta.key).getD delta.dot.counter) delta.dot.counter) }

def seedBlock (fold : MeshFold) (delta : ClusterBlockDelta) : MeshFold :=
  let fold := { fold with touched := insert delta.ip fold.touched }
  let dot : ActiveMeshDot :=
    { counter := delta.dot.counter
      sinceNs := satMul delta.createdAtMs msNs
      deadlineNs :=
        if delta.expiresAtMs = u64Max then none else some (satMul delta.expiresAtMs msNs)
      tier := delta.tier }
  if (fold.tombstones.lookup delta.key).getD 0 < delta.dot.counter then
    { fold with active := fold.active.insert delta.key dot }
  else fold

def seedMesh (seed : MeshReplaySeed) : MeshFold :=
  seed.blocks.foldl seedBlock (seed.unblocks.foldl seedUnblock .empty)

def checkMutation (mutation : MeshMutation) : Except ReplayError BlockKey :=
  if mutation.schemaVersion ≠ 1 ∨ mutation.originNodeId = 0 ∨ mutation.originCounter = 0 then
    .error (.invalidMeshEvent mutation.schemaVersion mutation.originNodeId mutation.originCounter)
  else
    match mutation.ip with
    | none => .error .invalidMeshIp
    | some ip =>
      if ip.isUnspecified then .error .unspecifiedMeshIp
      else
        match mutation.originIncarnation with
        | none => .error .invalidMeshIncarnation
        | some incarnation =>
          if incarnation.isNil then .error .nilMeshIncarnation
          else .ok ⟨ip, mutation.originNodeId, incarnation⟩

def applyMutation (fold : MeshFold) (key : BlockKey) (mutation : MeshMutation) : MeshFold :=
  let fold := { fold with touched := insert key.ip fold.touched }
  match mutation.action with
  | .block =>
    let dot : ActiveMeshDot :=
      { counter := mutation.originCounter
        sinceNs := satMul mutation.createdAtMs msNs
        deadlineNs := mutation.expiresAtMs.map fun ms => satMul ms msNs
        tier := mutation.tier }
    if (fold.tombstones.lookup key).getD 0 < mutation.originCounter ∧
        (fold.active.lookup key).all fun existing => existing.counter < mutation.originCounter then
      { fold with active := fold.active.insert key dot }
    else fold
  | .unblock =>
    let watermark := max ((fold.tombstones.lookup key).getD 0) mutation.originCounter
    let fold := { fold with tombstones := fold.tombstones.insert key watermark }
    if (fold.active.lookup key).any fun dot => dot.counter ≤ mutation.originCounter then
      { fold with active := fold.active.erase key }
    else fold

/-- The record loop of `replay_mesh_state`; it stops at the first bad record. -/
def foldMesh : MeshFold → List WalEntry → Except ReplayError MeshFold
  | fold, [] => .ok fold
  | fold, .meshMutation mutation :: log =>
    match checkMutation mutation with
    | .error error => .error error
    | .ok key => foldMesh (applyMutation fold key mutation) log
  | fold, _ :: log => foldMesh fold log

/-- One dot of the projection: the first of its address, or one created later than the best. -/
def projectDot (nowNs : Nat) (active : Table BlockKey ActiveMeshDot)
    (byIp : Table IpAddr BlockFold) (key : BlockKey) : Table IpAddr BlockFold :=
  match active.lookup key with
  | none => byIp
  | some dot =>
    if expired dot.deadlineNs nowNs then byIp
    else
      let candidate : BlockFold :=
        ⟨(BlockReason.fromReasonStr "mesh_final").getD .manualBlock, dot.sinceNs, dot.deadlineNs⟩
      match byIp.lookup key.ip with
      | none => byIp.insert key.ip candidate
      | some existing =>
        if existing.sinceNs < candidate.sinceNs then byIp.insert key.ip candidate else byIp

/-- `replay_mesh_state`. Dots of one time are ranked by the hash order of the map. Without a seed
the whole log is folded. -/
def replayMeshState (dots : IterOrder BlockKey) (wal : Wal) (minLsn : Nat)
    (seed : Option MeshReplaySeed) (nowNs : Nat) :
    Except ReplayError (Finset IpAddr × Table IpAddr BlockFold) :=
  let start := (seed.map seedMesh).getD .empty
  let entries := if seed.isSome then wal.replayFrom minLsn else wal.log
  match foldMesh start entries with
  | .error error => .error error
  | .ok fold =>
    .ok (fold.touched, (dots.enum fold.active.keys).foldl (projectDot nowNs fold.active) ∅)

/-! ## Projection into the store -/

def restoredRecord (clock : Clock) (store : Store) (ip : IpAddr) (block : BlockFold) : IpRecord :=
  let state : BlockState := .blocked block.reason block.sinceNs
  match store.get clock.mono ip with
  | some (.ipRecord record) => { record with blockState := state }
  | _ => .zeroed ip block.sinceNs state

def restoreBlock (clock : Clock) (store : Store) (ip : IpAddr) (block : BlockFold) :
    Except RsError (Option Nat) × Store :=
  if expired block.deadlineNs clock.wallNs then (.ok none, store)
  else
    let record := restoredRecord clock store ip block
    match store.insert clock.mono ip (.ipRecord record) none (ramLimit store) with
    | (.error error, store) => (.error error, store)
    | (.ok (), store) => (.ok (some (remaining block.deadlineNs clock.wallNs)), store)

/-- The final loop over the fold; it stops at the first error. -/
def restoreBlocks (clock : Clock) (blocked : Table IpAddr BlockFold) :
    List IpAddr → Store → Except ReplayError (List (IpAddr × Nat)) × Store
  | [], store => (.ok [], store)
  | ip :: ips, store =>
    match blocked.lookup ip with
    | none => restoreBlocks clock blocked ips store
    | some block =>
      match restoreBlock clock store ip block with
      | (.error error, store) => (.error (.insert ip error), store)
      | (.ok restored, store) =>
        match restoreBlocks clock blocked ips store with
        | (.error error, store) => (.error error, store)
        | (.ok rest, store) => (.ok ((restored.map fun secs => (ip, secs)).toList ++ rest), store)

/-- A block of the checkpoint seed; a zero deadline stands for none. -/
structure SeedBlock where
  reason : String
  sinceNs : Nat
  deadlineNs : Nat
  deriving DecidableEq

def SeedBlock.toFold (block : SeedBlock) : BlockFold where
  reason := reasonToBlockReason block.reason
  sinceNs := block.sinceNs
  deadlineNs := if 0 < block.deadlineNs then some block.deadlineNs else none

def foldBlocks (seed : Table IpAddr SeedBlock) (tail : List WalEntry)
    (touched : Finset IpAddr) (meshActive : Table IpAddr BlockFold) : Table IpAddr BlockFold :=
  let blocked := tail.foldl foldIp (seed.mapValues SeedBlock.toFold)
  meshActive ∪ blocked.filter fun ip _ => ip ∉ touched

def replayWalIntoStoreSeeded (clock : Clock) (ips : IterOrder IpAddr)
    (dots : IterOrder BlockKey) (store : Store) (wal : Wal) (minLsn : Nat)
    (seed : Table IpAddr SeedBlock) (meshSeed : Option MeshReplaySeed) :
    Except ReplayError (List (IpAddr × Nat)) × Store :=
  match replayMeshState dots wal minLsn meshSeed clock.wallNs with
  | .error error => (.error error, store)
  | .ok (touched, meshActive) =>
    let blocked := foldBlocks seed (wal.replayFrom minLsn) touched meshActive
    -- Addresses of the snapshot that the tail released lose their record.
    let released := ips.enum (seed.keys.filter fun ip => ip ∉ blocked.keys)
    let store := released.foldl (fun store ip => (store.remove ip).2) store
    restoreBlocks clock blocked (ips.enum blocked.keys) store

/-! ## Prefixes -/

def foldCidrs (nowNs : Nat) (seed : Table IpNetwork (Option Nat)) (log : List WalEntry) :
    Table IpNetwork (Option Nat) :=
  (log.foldl foldCidr (seed.filter fun _ deadline => !expired deadline nowNs)).filter
    fun _ deadline => !expired deadline nowNs

/-- `replay_wal_cidrs_seeded`: the active prefixes with remaining seconds, and their set. -/
def replayWalCidrsSeeded (networks : IterOrder IpNetwork) (nowNs : Nat)
    (seed : Table IpNetwork (Option Nat)) (log : List WalEntry) :
    List (IpNetwork × Nat) × Finset IpNetwork :=
  let blocked := foldCidrs nowNs seed log
  ((networks.enum blocked.keys).map fun network =>
      (network, remaining ((blocked.lookup network).join) nowNs),
    blocked.keys)

end Replay

end RamShield
