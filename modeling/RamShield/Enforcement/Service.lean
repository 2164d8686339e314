import RamShield.Foundation.DeadlineQueue
import RamShield.Mesh.Aworset
import RamShield.Storage.Store
import RamShield.Storage.Wal

/-! # The enforcement service

`EnforcementService`, the only writer of block state, and the execution of one
command: journal, merge into the cluster blocklist, commit to the store, project
to the dataplane, remember the result. What the world decides during a command
(the clock readings, whether the log and the dataplane fail, fresh identifiers,
hash orders) is its `Io`. Metrics and logging are left out.
-/

namespace RamShield

open Foundation

/-- What the environment gives a command. Both clocks are read once. -/
structure Io where
  clock : Clock
  walFailure : Option String
  xdpFailure : Option String
  freshId : Uuid
  dots : IterOrder BlockKey

/-- An environment in which nothing fails, at a reading of both clocks. -/
def Io.at (clock : Clock) (freshId : Uuid) : Io where
  clock := clock
  walFailure := none
  xdpFailure := none
  freshId := freshId
  dots := BlockKey.sorted

/-- `SharedState`: the deadlines published for the checkpoint builder. -/
structure SharedState where
  ipExpirations : Table IpAddr Nat
  cidrExpirations : Table IpNetwork Nat

/-- `EnforcementService`. `mesh_handle` is whether a transport is attached; `leases` is
`expirations` and `buckets`. -/
structure EnforcementService where
  store : Store
  wal : Option Wal
  processedResults : Table Uuid EnforceResult
  processedOrder : List Uuid
  blockedIps : Finset IpAddr
  dropsByBlocked : Table IpAddr Nat
  leases : DeadlineQueue IpAddr
  cidrExpirations : Table IpNetwork Instant
  epoch : Instant
  lastWalLsn : Option Nat
  meshBlocklist : Option AworsetBlocklist
  meshHandle : Bool
  meshAppliedIps : Finset IpAddr
  meshOperatorSuppressions : Finset IpAddr
  meshProjectionPending : Finset IpAddr
  checkpointShared : Option SharedState

inductive WalDurability
  | append
  | alreadyDurable
  deriving DecidableEq

inductive PendingMeshMutation
  | block (delta : ClusterBlockDelta)
  | unblock (delta : ClusterUnblockDelta)
  deriving DecidableEq

/-- `PendingMeshMutation::to_wal_entry`. A permanent block has no expiry. -/
def PendingMeshMutation.toWalEntry (mutation : PendingMeshMutation) (tsNs : Nat) : WalEntry :=
  match mutation with
  | .block delta => .meshMutation
      { schemaVersion := 1
        originNodeId := delta.dot.nodeId
        originIncarnation := some delta.dot.incarnation
        originCounter := delta.dot.counter
        ip := some delta.ip
        action := .block
        createdAtMs := delta.createdAtMs
        expiresAtMs := if delta.expiresAtMs = u64Max then none else some delta.expiresAtMs
        tier := delta.tier
        signature := none
        tsNs := tsNs }
  | .unblock delta => .meshMutation
      { schemaVersion := 1
        originNodeId := delta.dot.nodeId
        originIncarnation := some delta.dot.incarnation
        originCounter := delta.dot.counter
        ip := some delta.ip
        action := .unblock
        createdAtMs := tsNs / msNs
        expiresAtMs := none
        tier := 0
        signature := none
        tsNs := tsNs }

namespace EnforcementService

/-- `EnforcementService::new`, created at a reading of the monotonic clock. -/
def new (store : Store) (epoch : Instant) : EnforcementService where
  store := store
  wal := none
  processedResults := ∅
  processedOrder := []
  blockedIps := ∅
  dropsByBlocked := ∅
  leases := .empty
  cidrExpirations := ∅
  epoch := epoch
  lastWalLsn := none
  meshBlocklist := none
  meshHandle := false
  meshAppliedIps := ∅
  meshOperatorSuppressions := ∅
  meshProjectionPending := ∅
  checkpointShared := none

variable (service : EnforcementService) (io : Io)

def withWal (wal : Wal) : EnforcementService := { service with wal := some wal }

def withMeshBlocklist (mesh : AworsetBlocklist) : EnforcementService :=
  { service with meshBlocklist := some mesh }

def withMeshHandle (attached : Bool) : EnforcementService := { service with meshHandle := attached }

def withStore (store : Store) : EnforcementService := { service with store := store }

/-- `bucket_of`: whole seconds since the epoch of the service, rounded up. -/
def bucketOf (deadline : Instant) : Nat := divCeil (deadline - service.epoch) secNs

/-- Rounding up to whole seconds does not shorten a lease. -/
lemma le_bucket_end (deadline epoch : Nat) :
    deadline ≤ epoch + divCeil (deadline - epoch) secNs * secNs := by
  unfold divCeil secNs
  omega

def detachExpiration (ip : IpAddr) : EnforcementService :=
  { service with leases := service.leases.detach ip }

def scheduleExpiration (ip : IpAddr) (deadline : Instant) : EnforcementService :=
  { service with leases := service.leases.schedule ip (service.bucketOf deadline) }

def publish (f : SharedState → SharedState) : EnforcementService :=
  { service with checkpointShared := service.checkpointShared.map f }

def trimResults : List Uuid → Table Uuid EnforceResult → List Uuid × Table Uuid EnforceResult
  | [], results => ([], results)
  | oldest :: order, results =>
    if 65536 < (oldest :: order).length then trimResults order (results.erase oldest)
    else (oldest :: order, results)

def rememberResult (result : EnforceResult) : EnforcementService :=
  let results := service.processedResults.insert result.decisionId result
  match service.processedResults.lookup result.decisionId with
  | some _ => { service with processedResults := results }
  | none =>
    let (order, results) := trimResults (service.processedOrder ++ [result.decisionId]) results
    { service with processedOrder := order, processedResults := results }

/-- Append a record and make it durable; without a log nothing happens. -/
def journal (entry : WalEntry) : Except EnforcementError (Option Nat × EnforcementService) :=
  match service.wal, io.walFailure with
  | none, _ => .ok (none, service)
  | some _, some message => .error (.wal message)
  | some wal, none =>
    let (lsn, wal) := wal.append entry
    .ok (some lsn, { service with wal := some wal, lastWalLsn := some lsn })

def commandEntry (cmd : EnforceCommand) (nowNs : Nat) : WalEntry :=
  let ttlSecs := if 0 < cmd.ttlSeconds then some cmd.ttlSeconds else none
  match cmd.action, cmd.cidr with
  | .block, some cidr => .blockCidr cidr cmd.reason ttlSecs nowNs
  | .block, none => .blockIp (some cmd.ip) cmd.reason ttlSecs nowNs
  | .unblock, some cidr => .unblockCidr cidr nowNs
  | .unblock, none => .unblockIp (some cmd.ip) nowNs

/-- Step 1 of `enforce_inner`. -/
def journalCommand (cmd : EnforceCommand) (mutation : Option PendingMeshMutation)
    (durability : WalDurability) : Except EnforcementError (Option Nat × EnforcementService) :=
  match mutation, durability with
  | some mutation, _ => service.journal io (mutation.toWalEntry io.clock.wallNs)
  | none, .alreadyDurable => .ok (none, service)
  | none, .append => service.journal io (commandEntry cmd io.clock.wallNs)

def mergeMutation (mutation : Option PendingMeshMutation) : EnforcementService :=
  match service.meshBlocklist, mutation with
  | some mesh, some (.block delta) =>
    { service with meshBlocklist := some (mesh.mergeDelta io.clock.wallMs delta).2 }
  | some mesh, some (.unblock delta) =>
    { service with meshBlocklist := some (mesh.mergeUnblockDelta io.clock.wallMs delta).2 }
  | _, _ => service

def commitCidrBlock (clock : Clock) (network : IpNetwork) (ttlSeconds : Nat) : EnforcementService :=
  let service := { service with
    store := { service.store with activeCidrs := insert network service.store.activeCidrs } }
  if 0 < ttlSeconds then
    let deadline := clock.leaseDeadline ttlSeconds
    { service with
      cidrExpirations := service.cidrExpirations.insert network deadline }.publish fun shared =>
        { shared with cidrExpirations :=
            shared.cidrExpirations.insert network (clock.unixNsFromInstant deadline) }
  else
    { service with
      cidrExpirations := service.cidrExpirations.erase network }.publish fun shared =>
        { shared with cidrExpirations := shared.cidrExpirations.erase network }

/-- The lease part of the IP branch of `commit_block_state`. -/
def commitLease (clock : Clock) (ip : IpAddr) (ttlSeconds : Nat) : EnforcementService :=
  if 0 < ttlSeconds then
    let deadline := clock.leaseDeadline ttlSeconds
    (service.scheduleExpiration ip deadline).publish fun shared =>
      { shared with ipExpirations :=
          shared.ipExpirations.insert ip (clock.unixNsFromInstant deadline) }
  else
    (service.detachExpiration ip).publish fun shared =>
      { shared with ipExpirations := shared.ipExpirations.erase ip }

def commitIpBlock (clock : Clock) (cmd : EnforceCommand) :
    Except EnforcementError Unit × EnforcementService :=
  let state : BlockState := .blocked (reasonToBlockReason cmd.reason) clock.wallNs
  match service.store.updateBlockState clock.mono cmd.ip state service.store.ramLimitBytes with
  | (false, store) =>
    (.error (.storage "store update_block_state: capacity exceeded"),
      { service with store := store })
  | (true, store) =>
    (.ok (), commitLease { service with
      store := store
      blockedIps := insert cmd.ip service.blockedIps
      dropsByBlocked := service.dropsByBlocked.erase cmd.ip } clock cmd.ip cmd.ttlSeconds)

/-- `apply_block_projection` after the dataplane: a local block of an address lifts a suppression
and originates a dot. -/
def originateBan (cmd : EnforceCommand) : EnforcementService :=
  if cmd.cidr = none ∧ cmd.source ≠ "mesh" then
    let service := { service with
      meshOperatorSuppressions := service.meshOperatorSuppressions.erase cmd.ip }
    match service.meshBlocklist, service.meshHandle with
    | some mesh, true =>
      let banned := mesh.recordBan io.clock.wallMs cmd.ip (satMul cmd.ttlSeconds 1000) 2
      { service with meshBlocklist := some banned.2 }
    | _, _ => service
  else service

def committed (io : Io) (cmd : EnforceCommand) (walLsn : Option Nat) : EnforceResult where
  decisionId := cmd.decisionId
  committed := true
  applied := true
  walLsn := walLsn
  xdpApplied := io.xdpFailure.isNone
  error := none

def releaseCidr (network : IpNetwork) : EnforcementService :=
  let service := { service with
    cidrExpirations := service.cidrExpirations.erase network }.publish fun shared =>
      { shared with cidrExpirations := shared.cidrExpirations.erase network }
  { service with
    store := { service.store with activeCidrs := service.store.activeCidrs.erase network } }

/-- `RsError::to_string`. A panic has no text; no call made here causes one. -/
def storeErrorText : RsError → String
  | .capacityExceeded limitMb => "capacity exceeded: " ++ toString limitMb ++ " MB"
  | .invalidState message => "invalid state: " ++ message
  | .panic => ""

def clearRecord (clock : Clock) (ip : IpAddr) : Except RsError Unit × Store :=
  match service.store.get clock.mono ip with
  | some (.ipRecord record) =>
    service.store.insert clock.mono ip (.ipRecord { record with blockState := .clean }) none
      service.store.ramLimitBytes
  | _ => (.ok (), service.store)

def releaseIp (cmd : EnforceCommand) : Except EnforcementError Unit × EnforcementService :=
  match service.clearRecord io.clock cmd.ip with
  | (.error error, store) =>
    (.error (.storage (storeErrorText error)), { service with store := store })
  | (.ok (), store) =>
    let service := { service with
      store := store
      blockedIps := service.blockedIps.erase cmd.ip
      dropsByBlocked := service.dropsByBlocked.erase cmd.ip }
    let service :=
      if cmd.source ≠ "mesh" then
        { service with
          meshBlocklist := service.meshBlocklist.map fun mesh =>
            (mesh.recordUnban io.clock.wallMs io.dots cmd.ip).2
          meshOperatorSuppressions := insert cmd.ip service.meshOperatorSuppressions }
      else service
    let service := { service with meshAppliedIps := service.meshAppliedIps.erase cmd.ip }
    (.ok (), (service.detachExpiration cmd.ip).publish fun shared =>
      { shared with ipExpirations := shared.ipExpirations.erase cmd.ip })

/-- Step 2 of `enforce_inner`. -/
def commit (cmd : EnforceCommand) : Except EnforcementError Unit × EnforcementService :=
  match cmd.action, cmd.cidr with
  | .block, some network => (.ok (), service.commitCidrBlock io.clock network cmd.ttlSeconds)
  | .block, none => service.commitIpBlock io.clock cmd
  | .unblock, some network => (.ok (), service.releaseCidr network)
  | .unblock, none => service.releaseIp io cmd

def enforceInner (cmd : EnforceCommand) (mutation : Option PendingMeshMutation)
    (durability : WalDurability) : Except EnforcementError EnforceResult × EnforcementService :=
  match service.processedResults.lookup cmd.decisionId with
  | some cached => (.ok cached, service)
  | none =>
    if cmd.ip.isUnspecified then
      (.error (.invalidCommand "unspecified IP is not blockable"), service)
    else
      match service.journalCommand io cmd mutation durability with
      | .error error => (.error error, service)
      | .ok (walLsn, service) =>
        match (service.mergeMutation io mutation).commit io cmd with
        | (.error error, service) => (.error error, service)
        | (.ok (), service) =>
          let service :=
            match cmd.action with
            | .block => service.originateBan io cmd
            | .unblock => service
          let result := committed io cmd walLsn
          (.ok result, service.rememberResult result)

def enforce (cmd : EnforceCommand) : Except EnforcementError EnforceResult × EnforcementService :=
  service.enforceInner io cmd none .append

/-! ## What a command can do -/

/-- `enforce` under the checkpoint barrier, with the position of a committed command. -/
def secure (cmd : EnforceCommand) : Option (Option Nat) × EnforcementService :=
  match service.processedResults.lookup cmd.decisionId with
  | some _ => (none, service)
  | none =>
    if cmd.ip.isUnspecified then (none, service)
    else
      match service.journalCommand io cmd none .append with
      | .error _ => (none, service)
      | .ok (walLsn, service) =>
        match service.commit io cmd with
        | (.error _, service) => (none, service)
        | (.ok (), service) => (some walLsn, service)

/-- The part behind the barrier. -/
def finish (cmd : EnforceCommand) (walLsn : Option Nat) : EnforcementService :=
  (match cmd.action with
    | .block => service.originateBan io cmd
    | .unblock => service).rememberResult (committed io cmd walLsn)

inductive Executed (service : EnforcementService) (io : Io) (cmd : EnforceCommand)
    (mutation : Option PendingMeshMutation) (durability : WalDurability) :
    Except EnforcementError EnforceResult → EnforcementService → Prop
  | cached {result : EnforceResult}
      (hcached : service.processedResults.lookup cmd.decisionId = some result) :
      Executed service io cmd mutation durability (.ok result) service
  | unspecified
      (hfresh : service.processedResults.lookup cmd.decisionId = none)
      (hip : cmd.ip.isUnspecified = true) :
      Executed service io cmd mutation durability
        (.error (.invalidCommand "unspecified IP is not blockable")) service
  | unjournalled {error : EnforcementError}
      (hfresh : service.processedResults.lookup cmd.decisionId = none)
      (hip : cmd.ip.isUnspecified = false)
      (hjournal : service.journalCommand io cmd mutation durability = .error error) :
      Executed service io cmd mutation durability (.error error) service
  | refused {error : EnforcementError} {walLsn : Option Nat}
      {journalled next : EnforcementService}
      (hfresh : service.processedResults.lookup cmd.decisionId = none)
      (hip : cmd.ip.isUnspecified = false)
      (hjournal : service.journalCommand io cmd mutation durability = .ok (walLsn, journalled))
      (hcommit : (journalled.mergeMutation io mutation).commit io cmd = (.error error, next)) :
      Executed service io cmd mutation durability (.error error) next
  | committed {walLsn : Option Nat} {journalled next : EnforcementService}
      (hfresh : service.processedResults.lookup cmd.decisionId = none)
      (hip : cmd.ip.isUnspecified = false)
      (hjournal : service.journalCommand io cmd mutation durability = .ok (walLsn, journalled))
      (hcommit : (journalled.mergeMutation io mutation).commit io cmd = (.ok (), next)) :
      Executed service io cmd mutation durability
        (.ok (EnforcementService.committed io cmd walLsn)) (next.finish io cmd walLsn)

lemma enforceInner_executed (cmd : EnforceCommand) (mutation : Option PendingMeshMutation)
    (durability : WalDurability) :
    Executed service io cmd mutation durability
      (service.enforceInner io cmd mutation durability).1
      (service.enforceInner io cmd mutation durability).2 := by
  unfold enforceInner
  cases hcached : service.processedResults.lookup cmd.decisionId with
  | some result => exact .cached hcached
  | none =>
    cases hip : cmd.ip.isUnspecified with
    | true => exact .unspecified hcached hip
    | false =>
      simp only [Bool.false_eq_true, if_false]
      cases hjournal : service.journalCommand io cmd mutation durability with
      | error error => exact .unjournalled hcached hip hjournal
      | ok journal =>
        obtain ⟨walLsn, journalled⟩ := journal
        dsimp only
        cases hcommit : (journalled.mergeMutation io mutation).commit io cmd with
        | mk outcome next =>
          cases outcome with
          | error error => exact .refused hcached hip hjournal hcommit
          | ok done => exact .committed hcached hip hjournal hcommit

@[elab_as_elim]
lemma Executed.keeps {service next : EnforcementService} {io : Io} {cmd : EnforceCommand}
    {mutation : Option PendingMeshMutation} {durability : WalDurability}
    {outcome : Except EnforcementError EnforceResult} {holds : EnforcementService → Prop}
    (hexecuted : Executed service io cmd mutation durability outcome next)
    (hstart : holds service)
    (hcommit : ∀ {walLsn journalled},
      service.journalCommand io cmd mutation durability = .ok (walLsn, journalled) →
      holds ((journalled.mergeMutation io mutation).commit io cmd).2)
    (hfinish : ∀ {done} walLsn, holds done → holds (done.finish io cmd walLsn)) :
    holds next := by
  cases hexecuted with
  | refused _ _ hjournal hrefused =>
    have hdone := hcommit hjournal
    rwa [hrefused] at hdone
  | committed _ _ hjournal hcommitted =>
    have hdone := hcommit hjournal
    rw [hcommitted] at hdone
    exact hfinish _ hdone
  | _ => exact hstart

/-! ## Frames: what each part of a command writes

Each part leaves the service with some of its fields replaced, so that what reads none of
these fields is as before by definition. -/

section Frames

variable {service io} {cmd : EnforceCommand}
variable {entry : WalEntry} {mutation : Option PendingMeshMutation} {durability : WalDurability}
  {error : EnforcementError} {lsn : Option Nat} {next : EnforcementService}

lemma journal_writes (hjournal : service.journal io entry = .ok (lsn, next)) :
    ∃ wal last, next = { service with wal := wal, lastWalLsn := last } := by
  unfold journal at hjournal
  split at hjournal <;> cases hjournal
  · exact ⟨_, _, rfl⟩
  · exact ⟨_, _, rfl⟩

lemma journal_error (hjournal : service.journal io entry = .error error) :
    service.wal.isSome ∧ ∃ text, io.walFailure = some text ∧ error = .wal text := by
  unfold journal at hjournal
  split at hjournal <;> cases hjournal
  next hwal hfailure => exact ⟨by rw [hwal]; rfl, _, hfailure, rfl⟩

lemma journalCommand_error
    (hjournal : service.journalCommand io cmd mutation durability = .error error) :
    ∃ text, io.walFailure = some text ∧ error = .wal text := by
  unfold journalCommand at hjournal
  split at hjournal
  · exact (journal_error hjournal).2
  · cases hjournal
  · exact (journal_error hjournal).2

lemma journalCommand_writes {journalled : EnforcementService}
    (hjournal : service.journalCommand io cmd mutation durability = .ok (lsn, journalled)) :
    ∃ wal last, journalled = { service with wal := wal, lastWalLsn := last } := by
  unfold journalCommand at hjournal
  split at hjournal
  · exact journal_writes hjournal
  · cases hjournal
    exact ⟨_, _, rfl⟩
  · exact journal_writes hjournal

lemma commit_error (hcommit : service.commit io cmd = (.error error, next)) :
    ∃ text store, error = .storage text ∧ next = { service with store := store } := by
  unfold commit at hcommit
  split at hcommit
  · cases hcommit
  · unfold commitIpBlock at hcommit
    dsimp only at hcommit
    split at hcommit <;> cases hcommit
    exact ⟨_, _, rfl, rfl⟩
  · cases hcommit
  · unfold releaseIp at hcommit
    split at hcommit <;> cases hcommit
    exact ⟨_, _, rfl, rfl⟩

variable (service) (io) (cmd)

@[simp] lemma mergeMutation_none : service.mergeMutation io none = service := by
  unfold mergeMutation
  cases service.meshBlocklist <;> rfl

/-- A command is the part under the barrier and the part behind it. -/
lemma enforce_eq_secure : (service.enforce io cmd).2 =
      match service.secure io cmd with
      | (none, next) => next
      | (some walLsn, next) => next.finish io cmd walLsn := by
  unfold enforce enforceInner secure
  simp only [mergeMutation_none]
  repeat' split
  all_goals simp_all [finish]

lemma mergeMutation_writes (mutation : Option PendingMeshMutation) :
    ∃ mesh, service.mergeMutation io mutation = { service with meshBlocklist := mesh } := by
  unfold mergeMutation
  split <;> exact ⟨_, rfl⟩

lemma rememberResult_writes (result : EnforceResult) :
    ∃ results order, service.rememberResult result =
      { service with processedResults := results, processedOrder := order } := by
  unfold rememberResult
  dsimp only
  split <;> exact ⟨_, _, rfl⟩

lemma originateBan_writes :
    ∃ mesh suppressions, service.originateBan io cmd =
      { service with meshBlocklist := mesh, meshOperatorSuppressions := suppressions } := by
  unfold originateBan
  dsimp only
  repeat' split
  all_goals exact ⟨_, _, rfl⟩

lemma finish_writes (walLsn : Option Nat) :
    ∃ mesh suppressions results order, service.finish io cmd walLsn =
      { service with
        meshBlocklist := mesh
        meshOperatorSuppressions := suppressions
        processedResults := results
        processedOrder := order } := by
  obtain ⟨mesh, suppressions, hban⟩ := service.originateBan_writes io cmd
  unfold finish
  rw [hban]
  split
  all_goals
    obtain ⟨results, order, hresult⟩ := rememberResult_writes _ (committed io cmd walLsn)
    exact ⟨_, _, _, _, hresult⟩

lemma commit_writes :
    ∃ written : EnforcementService, (service.commit io cmd).2 =
      { written with
        wal := service.wal
        lastWalLsn := service.lastWalLsn
        processedResults := service.processedResults
        processedOrder := service.processedOrder
        epoch := service.epoch
        meshHandle := service.meshHandle
        meshProjectionPending := service.meshProjectionPending } := by
  refine ⟨(service.commit io cmd).2, ?_⟩
  unfold commit
  split
  · unfold commitCidrBlock; dsimp only; split <;> rfl
  · unfold commitIpBlock commitLease
    dsimp only
    repeat' split
    all_goals rfl
  · rfl
  · unfold releaseIp
    dsimp only
    repeat' split
    all_goals rfl

end Frames

end EnforcementService

end RamShield
