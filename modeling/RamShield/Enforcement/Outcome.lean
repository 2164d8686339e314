import RamShield.Enforcement.AddressState
import RamShield.Enforcement.Ledger

/-! # Outcomes

What the actor's operations can do, seen from the addresses and from the ledger
at once. A command does nothing, is refused by the store after it was journalled,
or commits; an operation of a peer, a repair and an expiry are commands with marks
set around them. Every result about runs with both local and peer decisions rests
on these outcomes only.
-/

namespace RamShield

open Foundation Foundation.Machine Function

namespace EnforcementService

structure Leaves (service : EnforcementService) (addresses : IpAddr → AddressState)
    (ops : List LedgerOp) (next : EnforcementService) : Prop where
  regular : next.Regular
  epoch : next.epoch = service.epoch
  handle : next.meshHandle = service.meshHandle
  address : next.address = addresses
  ledger : next.ledger = run Ledger.step service.ledger ops

variable {service : EnforcementService} {io : Io} {lsn : Option Nat} {cmd : EnforceCommand}
  {mutation : Option PendingMeshMutation} {durability : WalDurability}

lemma Leaves.refl (hregular : service.Regular) : service.Leaves service.address [] service :=
  ⟨hregular, rfl, rfl, rfl, rfl⟩

/-! ## Commands -/

lemma journalCommand_standing {journalled : EnforcementService}
    (hjournal : service.journalCommand io cmd mutation durability = .ok (lsn, journalled)) :
    (journalled.mergeMutation io mutation).standing = service.standing := by
  obtain ⟨mesh, hmerged⟩ := journalled.mergeMutation_writes io mutation
  obtain ⟨wal, last, rfl⟩ := journalCommand_writes hjournal
  rw [hmerged]
  rfl

lemma journalCommand_leaves {journalled : EnforcementService} (hregular : service.Regular)
    (hjournal : service.journalCommand io cmd mutation durability = .ok (lsn, journalled)) :
    service.Leaves service.address (journalOps io cmd mutation durability)
      (journalled.mergeMutation io mutation) := by
  have hstanding := journalCommand_standing hjournal
  obtain ⟨hledger, hhandle⟩ := journalCommand_ledger hjournal
  refine ⟨?_, congrArg Standing.epoch hstanding, hhandle, ?_, hledger⟩
  · unfold Regular
    rw [hstanding]
    exact hregular
  · unfold address
    rw [hstanding]

lemma afterCommand_congr {other : EnforcementService}
    (hstanding : other.standing = service.standing) (clock : Clock) (cmd : EnforceCommand) :
    other.afterCommand clock cmd = service.afterCommand clock cmd := by
  have hepoch : other.epoch = service.epoch := congrArg Standing.epoch hstanding
  unfold afterCommand effect leaseFor bucketOf address
  rw [hstanding, hepoch]

inductive Outcome (service : EnforcementService) (io : Io) (cmd : EnforceCommand)
    (mutation : Option PendingMeshMutation) (durability : WalDurability) :
    Except EnforcementError EnforceResult → EnforcementService → Prop
  | answered {result : EnforceResult}
      (hidle : ¬ service.Commits io cmd mutation durability) (hregular : service.Regular) :
      Outcome service io cmd mutation durability (.ok result) service
  | rejected {error : EnforcementError}
      (hidle : ¬ service.Commits io cmd mutation durability) (hregular : service.Regular)
      (herror : error = .invalidCommand "unspecified IP is not blockable" ∨
        service.journalCommand io cmd mutation durability = .error error) :
      Outcome service io cmd mutation durability (.error error) service
  | refused {next : EnforcementService} (haction : cmd.action = .block) (hcidr : cmd.cidr = none)
      (hidle : ¬ service.Commits io cmd mutation durability)
      (hleaves : service.Leaves service.address (journalOps io cmd mutation durability) next) :
      Outcome service io cmd mutation durability
        (.error (.storage "store update_block_state: capacity exceeded")) next
  | committed {result : EnforceResult} {next : EnforcementService}
      (hcommits : service.Commits io cmd mutation durability)
      (hleaves : service.Leaves (service.afterCommand io.clock cmd)
        (journalOps io cmd mutation durability ++ service.localOps io cmd) next) :
      Outcome service io cmd mutation durability (.ok result) next

lemma enforceInner_outcome (hregular : service.Regular) (io : Io) (cmd : EnforceCommand)
    (mutation : Option PendingMeshMutation) (durability : WalDurability) :
    Outcome service io cmd mutation durability
      (service.enforceInner io cmd mutation durability).1
      (service.enforceInner io cmd mutation durability).2 := by
  have hexecuted := service.enforceInner_executed io cmd mutation durability
  generalize service.enforceInner io cmd mutation durability = outcome at hexecuted ⊢
  obtain ⟨result, next⟩ := outcome
  dsimp only at hexecuted ⊢
  -- Every branch that returns early contradicts `Commits` at the test that it failed.
  cases hexecuted with
  | cached hcached =>
    refine .answered (fun hcommits => ?_) hregular
    rw [hcommits.1] at hcached
    cases hcached
  | unspecified hfresh hip =>
    refine .rejected (fun hcommits => ?_) hregular (.inl rfl)
    rw [hcommits.2.1] at hip
    cases hip
  | unjournalled hfresh hip hjournal =>
    refine .rejected (fun hcommits => ?_) hregular (.inr hjournal)
    obtain ⟨_, _, _, _, _, hok, _⟩ := hcommits
    rw [hjournal] at hok
    cases hok
  | @refused error walLsn journalled next hfresh hip hjournal hcommit =>
    have hleaves := journalCommand_leaves hregular hjournal
    rcases commit_spec hleaves.regular io cmd with
      ⟨haction, hcidr, _, _, herror⟩ | ⟨done, hdone, _⟩
    · rw [herror] at hcommit
      cases hcommit
      refine .refused haction hcidr (fun hcommits => ?_) hleaves
      obtain ⟨_, _, _, _, _, hagain, hdone⟩ := hcommits
      cases hjournal.symm.trans hagain
      rw [herror] at hdone
      cases hdone
    · rw [hdone] at hcommit
      cases hcommit
  | @committed walLsn journalled next hfresh hip hjournal hcommit =>
    have hleaves := journalCommand_leaves hregular hjournal
    have hstanding := journalCommand_standing hjournal
    refine .committed ⟨hfresh, hip, _, _, _, hjournal, hcommit⟩ ?_
    rcases commit_spec hleaves.regular io cmd with
      ⟨_, _, _, _, herror⟩ | ⟨done, hdone, hcommitted⟩
    · rw [herror] at hcommit
      cases hcommit
    · cases hdone.symm.trans hcommit
      refine ⟨(hcommitted walLsn).regular, (hcommitted walLsn).epoch.trans hleaves.epoch, ?_,
        (hcommitted walLsn).address.trans (afterCommand_congr hstanding _ _), ?_⟩
      · obtain ⟨written, hwritten⟩ := (journalled.mergeMutation io mutation).commit_writes io cmd
        obtain ⟨_, _, _, _, hfinish⟩ := next.finish_writes io cmd walLsn
        rw [hcommit] at hwritten
        rw [hfinish, show next = _ from hwritten]
        exact hleaves.handle
      · rw [commit_finish_ledger hcommit, hleaves.ledger, run_append]
        unfold localOps
        rw [hleaves.handle]

end EnforcementService

/-! ## Marks -/

namespace AddressState

variable (state : AddressState)

def await : AddressState := { state with pending := true }

def settleBlocked : AddressState :=
  if state.blocked then { state with applied := true, pending := false } else state

def settleReleased : AddressState :=
  if state.blocked then state else { state with applied := false, pending := false }

@[simp] lemma blocked_await : state.await.blocked = state.blocked := rfl

@[simp] lemma lease_await : state.await.lease = state.lease := rfl

@[simp] lemma blocked_settleBlocked : state.settleBlocked.blocked = state.blocked := by
  unfold settleBlocked
  split <;> rfl

@[simp] lemma lease_settleBlocked : state.settleBlocked.lease = state.lease := by
  unfold settleBlocked
  split <;> rfl

@[simp] lemma blocked_settleReleased : state.settleReleased.blocked = state.blocked := by
  unfold settleReleased
  split <;> rfl

@[simp] lemma lease_settleReleased : state.settleReleased.lease = state.lease := by
  unfold settleReleased
  split <;> rfl

end AddressState

namespace Standing

lemma address_await (standing : Standing) (ip : IpAddr) :
    ({ standing with pending := insert ip standing.pending } : Standing).address =
      Function.update standing.address ip (standing.address ip).await := by
  apply address_eq_update
  · simp [address, AddressState.await]
  · intro other hother
    simp [address, hother]

lemma address_settle (standing : Standing) (applied : Finset IpAddr) (ip : IpAddr)
    (happlied : ∀ other, other ≠ ip → (other ∈ applied ↔ other ∈ standing.applied)) :
    ({ standing with applied := applied, pending := standing.pending.erase ip } :
        Standing).address =
      Function.update standing.address ip
        { standing.address ip with applied := decide (ip ∈ applied), pending := false } := by
  apply address_eq_update
  · simp [address]
  · intro other hother
    simp [address, hother, happlied other hother]

end Standing

namespace EnforcementService

def awaiting (service : EnforcementService) (ip : IpAddr) : EnforcementService :=
  { service with meshProjectionPending := insert ip service.meshProjectionPending }

variable {service middle : EnforcementService} {ops : List LedgerOp}
variable {ip : IpAddr} {next : EnforcementService} {state : AddressState} {mesh : AworsetBlocklist}
  {cmd : EnforceCommand}

lemma Leaves.trans {first second : IpAddr → AddressState} {later : List LedgerOp}
    (hfirst : service.Leaves first ops middle) (hsecond : middle.Leaves second later next) :
    service.Leaves second (ops ++ later) next where
  regular := hsecond.regular
  epoch := hsecond.epoch.trans hfirst.epoch
  handle := hsecond.handle.trans hfirst.handle
  address := hsecond.address
  ledger := by rw [hsecond.ledger, hfirst.ledger, run_append]

section

variable (hregular : service.Regular)

include hregular

lemma awaiting_leaves (ip : IpAddr) :
    service.Leaves (Function.update service.address ip (service.address ip).await) []
      (service.awaiting ip) :=
  ⟨⟨hregular.plain, hregular.leases⟩, rfl, rfl, service.standing.address_await ip, rfl⟩

lemma settle_leaves (applied : Finset IpAddr) (ip : IpAddr)
    (happlied : ∀ other, other ≠ ip → (other ∈ applied ↔ other ∈ service.meshAppliedIps)) :
    service.Leaves (Function.update service.address ip
      { service.address ip with applied := decide (ip ∈ applied), pending := false }) []
      (service.settle applied ip) :=
  ⟨⟨hregular.plain, hregular.leases⟩, rfl, rfl,
    service.standing.address_settle applied ip happlied, rfl⟩

lemma settleBlocked_leaves (io : Io) (ip : IpAddr) :
    service.Leaves (Function.update service.address ip (service.address ip).settleBlocked) []
      (service.settleBlocked io ip) := by
  unfold settleBlocked AddressState.settleBlocked
  rw [blockedNow_eq hregular]
  split
  · have hsettled := settle_leaves hregular (insert ip service.meshAppliedIps) ip
      fun other hother => by simp [hother]
    simpa using hsettled
  · rw [update_eq_self]
    exact .refl hregular

lemma settleReleased_leaves (io : Io) (ip : IpAddr) :
    service.Leaves (Function.update service.address ip (service.address ip).settleReleased) []
      (service.settleReleased io ip) := by
  unfold settleReleased AddressState.settleReleased
  rw [blockedNow_eq hregular]
  split
  · rw [update_eq_self]
    exact .refl hregular
  · have hsettled := settle_leaves hregular (service.meshAppliedIps.erase ip) ip
      fun other hother => by simp [hother]
    simpa using hsettled

end

/-! ## Operations of peers -/

def meshOps (io : Io) (changed : Bool) (mutation : PendingMeshMutation) : List LedgerOp :=
  if changed then [.logged mutation io.clock] else []

def Projects (service : EnforcementService) (io : Io) (cmd : EnforceCommand) (changed : Bool)
    (mutation : PendingMeshMutation) : Prop :=
  if changed then (service.awaiting cmd.ip).Commits io cmd (some mutation) .append
  else (service.awaiting cmd.ip).Commits io cmd none .alreadyDurable

instance (service : EnforcementService) (io : Io) (cmd : EnforceCommand) (changed : Bool)
    (mutation : PendingMeshMutation) : Decidable (service.Projects io cmd changed mutation) :=
  inferInstanceAs (Decidable (if changed then _ else _))

inductive Projected (service : EnforcementService) (io : Io) (cmd : EnforceCommand)
    (changed : Bool) (mutation : PendingMeshMutation) :
    Except EnforcementError EnforceResult → EnforcementService → Prop
  | idle {result : Except EnforcementError EnforceResult} {next : EnforcementService}
      (hidle : ¬ service.Projects io cmd changed mutation)
      (hleaves : service.Leaves
        (Function.update service.address cmd.ip (service.address cmd.ip).await) [] next) :
      Projected service io cmd changed mutation result next
  | refused {next : EnforcementService} (haction : cmd.action = .block)
      (hidle : ¬ service.Projects io cmd changed mutation)
      (hleaves : service.Leaves
        (Function.update service.address cmd.ip (service.address cmd.ip).await)
        (meshOps io changed mutation) next) :
      Projected service io cmd changed mutation
        (.error (.storage "store update_block_state: capacity exceeded")) next
  | committed {result : EnforceResult} {next : EnforcementService}
      (hprojects : service.Projects io cmd changed mutation)
      (hleaves : service.Leaves
        (Function.update service.address cmd.ip
          (service.effect io.clock cmd (service.address cmd.ip).await))
        (meshOps io changed mutation) next) :
      Projected service io cmd changed mutation (.ok result) next

lemma Outcome.projected {service : EnforcementService} (hregular : service.Regular) {io : Io}
    (hcidr : cmd.cidr = none) (hsource : cmd.source = "mesh") {changed : Bool}
    {operation : PendingMeshMutation} {mutation : Option PendingMeshMutation}
    {durability : WalDurability} {result : Except EnforcementError EnforceResult}
    (houtcome : Outcome (service.awaiting cmd.ip) io cmd mutation durability result next)
    (hops : journalOps io cmd mutation durability = meshOps io changed operation)
    (hprojects : service.Projects io cmd changed operation ↔
      (service.awaiting cmd.ip).Commits io cmd mutation durability) :
    Projected service io cmd changed operation result next := by
  have hawaiting := awaiting_leaves hregular cmd.ip
  have haddress := hawaiting.address
  cases houtcome with
  | answered hidle _ => exact .idle (fun hdone => hidle (hprojects.mp hdone)) hawaiting
  | rejected hidle _ _ => exact .idle (fun hdone => hidle (hprojects.mp hdone)) hawaiting
  | refused haction _ hidle hleaves =>
    rw [haddress, hops] at hleaves
    exact .refused haction (fun hdone => hidle (hprojects.mp hdone)) (hawaiting.trans hleaves)
  | committed hcommits hleaves =>
    have hnothing : (service.awaiting cmd.ip).localOps io cmd = [] := by simp [localOps, hsource]
    have hafter : (service.awaiting cmd.ip).afterCommand io.clock cmd =
        Function.update service.address cmd.ip
          (service.effect io.clock cmd (service.address cmd.ip).await) := by
      unfold afterCommand
      rw [hcidr, haddress, update_self]
      exact update_idem _ _ _
    rw [hnothing, List.append_nil, hops, hafter] at hleaves
    exact .committed (hprojects.mpr hcommits) (hawaiting.trans hleaves)

lemma enforceMesh_projected (hregular : service.Regular) (io : Io) (hcidr : cmd.cidr = none)
    (hsource : cmd.source = "mesh") (changed : Bool) (mutation : PendingMeshMutation) :
    Projected service io cmd changed mutation
      ((service.awaiting cmd.ip).enforceMesh io cmd changed mutation).1
      ((service.awaiting cmd.ip).enforceMesh io cmd changed mutation).2 := by
  have hawaiting := (awaiting_leaves hregular cmd.ip).regular
  unfold enforceMesh
  cases changed with
  | true =>
    exact (enforceInner_outcome hawaiting io cmd (some mutation) .append).projected hregular
      hcidr hsource rfl (by simp [Projects])
  | false =>
    exact (enforceInner_outcome hawaiting io cmd none .alreadyDurable).projected hregular
      hcidr hsource rfl (by simp [Projects])

def blockCommand (io : Io) (nowMs : Nat) (delta : ClusterBlockDelta) : EnforceCommand :=
  meshCommand io nowMs ("mesh:" ++ toString delta.dot.nodeId) delta.ip .block (deltaTtl delta nowMs)

def unblockCommand (io : Io) (nowMs : Nat) (delta : ClusterUnblockDelta) : EnforceCommand :=
  meshCommand io nowMs ("mesh:" ++ toString delta.dot.nodeId) delta.ip .unblock 0

def afterBlock (service : EnforcementService) (io : Io) (nowMs : Nat)
    (delta : ClusterBlockDelta) : AddressState :=
  { service.address delta.ip with
    blocked := true
    lease := service.leaseFor io.clock (deltaTtl delta nowMs)
    applied := true
    pending := false }

def afterUnblock (service : EnforcementService) (ip : IpAddr) : AddressState :=
  { service.address ip with blocked := false, lease := none, applied := false, pending := false }

/-- The block of a peer passes the filters. -/
structure Passes (service : EnforcementService) (mesh : AworsetBlocklist) (nowMs : Nat)
    (delta : ClusterBlockDelta) : Prop where
  blocklist : service.meshBlocklist = some mesh
  live : nowMs < delta.expiresAtMs
  unsuppressed : (service.address delta.ip).suppressed = false
  new : mesh.needsMergeDelta delta = true ∨ (service.address delta.ip).applied = false

inductive BlockOutcome (service : EnforcementService) (io : Io) (nowMs : Nat)
    (delta : ClusterBlockDelta) :
    Except EnforcementError MeshApplyOutcome → EnforcementService → Prop
  | ignored (hfilter : ∀ mesh, ¬ service.Passes mesh nowMs delta) (hregular : service.Regular) :
      BlockOutcome service io nowMs delta (.ok .ignored) service
  | idle {mesh : AworsetBlocklist} {result : Except EnforcementError MeshApplyOutcome}
      {next : EnforcementService} (hpasses : service.Passes mesh nowMs delta)
      (hidle : ¬ service.Projects io (blockCommand io nowMs delta) (mesh.needsMergeDelta delta)
        (.block delta))
      (hleaves : service.Leaves (Function.update service.address delta.ip
        (service.address delta.ip).await.settleBlocked) [] next) :
      BlockOutcome service io nowMs delta result next
  | refused {mesh : AworsetBlocklist} {next : EnforcementService}
      (hpasses : service.Passes mesh nowMs delta)
      (hidle : ¬ service.Projects io (blockCommand io nowMs delta) (mesh.needsMergeDelta delta)
        (.block delta))
      (hleaves : service.Leaves (Function.update service.address delta.ip
        (service.address delta.ip).await.settleBlocked)
        (meshOps io (mesh.needsMergeDelta delta) (.block delta)) next) :
      BlockOutcome service io nowMs delta
        (.error (.storage "store update_block_state: capacity exceeded")) next
  | projected {mesh : AworsetBlocklist} {result : Except EnforcementError MeshApplyOutcome}
      {next : EnforcementService} (hpasses : service.Passes mesh nowMs delta)
      (hprojects : service.Projects io (blockCommand io nowMs delta) (mesh.needsMergeDelta delta)
        (.block delta))
      (hleaves : service.Leaves (Function.update service.address delta.ip
        (service.afterBlock io nowMs delta))
        (meshOps io (mesh.needsMergeDelta delta) (.block delta)) next) :
      BlockOutcome service io nowMs delta result next

lemma Leaves.settleBlocked
    (hleaves : service.Leaves (Function.update service.address ip state) ops middle) (io : Io) :
    service.Leaves (Function.update service.address ip state.settleBlocked) ops
      (middle.settleBlocked io ip) := by
  have hsettled := hleaves.trans (settleBlocked_leaves hleaves.regular io ip)
  rwa [hleaves.address, update_self, update_idem, List.append_nil] at hsettled

lemma Leaves.settleReleased
    (hleaves : service.Leaves (Function.update service.address ip state) ops middle) (io : Io) :
    service.Leaves (Function.update service.address ip state.settleReleased) ops
      (middle.settleReleased io ip) := by
  have hsettled := hleaves.trans (settleReleased_leaves hleaves.regular io ip)
  rwa [hleaves.address, update_self, update_idem, List.append_nil] at hsettled

section

variable (service) (io : Io) (nowMs : Nat)

lemma projectBlock_eq (changed : Bool) (delta : ClusterBlockDelta) :
    service.projectBlock io nowMs changed delta =
      let outcome := (service.awaiting delta.ip).enforceMesh io (blockCommand io nowMs delta)
        changed (.block delta)
      (projected changed "block" outcome.1, outcome.2.settleBlocked io delta.ip) := rfl

lemma effect_blockCommand (delta : ClusterBlockDelta) :
    (service.effect io.clock (blockCommand io nowMs delta)
      (service.address delta.ip).await).settleBlocked = service.afterBlock io nowMs delta := by
  simp [effect, blockCommand, meshCommand, AddressState.block, AddressState.settleBlocked,
    AddressState.await, EnforceCommand.own, afterBlock]

end

lemma projectBlock_outcome (hregular : service.Regular) (io : Io) {nowMs : Nat}
    {delta : ClusterBlockDelta} (hpasses : service.Passes mesh nowMs delta) :
    BlockOutcome service io nowMs delta
      (service.projectBlock io nowMs (mesh.needsMergeDelta delta) delta).1.2
      (service.projectBlock io nowMs (mesh.needsMergeDelta delta) delta).2 := by
  have hprojected := enforceMesh_projected hregular io
    (show (blockCommand io nowMs delta).cidr = none from rfl) rfl (mesh.needsMergeDelta delta)
    (.block delta)
  rw [projectBlock_eq]
  dsimp only
  change Projected service io _ _ _ ((service.awaiting delta.ip).enforceMesh _ _ _ _).1
    ((service.awaiting delta.ip).enforceMesh _ _ _ _).2 at hprojected
  generalize EnforcementService.enforceMesh _ _ _ _ _ = outcome at hprojected ⊢
  obtain ⟨result, middle⟩ := outcome
  dsimp only at hprojected ⊢
  cases hprojected with
  | idle hidle hleaves => exact .idle hpasses hidle (hleaves.settleBlocked io)
  | refused haction hidle hleaves => exact .refused hpasses hidle (hleaves.settleBlocked io)
  | committed hprojects hleaves =>
    refine .projected hpasses hprojects ?_
    rw [← effect_blockCommand]
    exact hleaves.settleBlocked io

lemma applyMeshBlock_outcome (hregular : service.Regular) (io : Io) (nowMs : Nat)
    (delta : ClusterBlockDelta) :
    BlockOutcome service io nowMs delta (service.applyMeshBlock io nowMs delta).1.2
      (service.applyMeshBlock io nowMs delta).2 := by
  have happlied := service.applyMeshBlock_applied io nowMs delta
  generalize service.applyMeshBlock io nowMs delta = outcome at happlied ⊢
  obtain ⟨⟨changed, result⟩, next⟩ := outcome
  dsimp only at happlied ⊢
  cases happlied with
  | expired hexpired =>
    refine .ignored (fun mesh hpasses => ?_) hregular
    exact absurd hpasses.live (Nat.not_lt.mpr hexpired)
  | meshless hmesh =>
    refine .ignored (fun mesh hpasses => ?_) hregular
    cases hmesh.symm.trans hpasses.blocklist
  | suppressed hsuppressed =>
    refine .ignored (fun mesh hpasses => ?_) hregular
    rw [← suppressed_iff, hpasses.unsuppressed] at hsuppressed
    cases hsuppressed
  | duplicate hmesh hunneeded happlied =>
    refine .ignored (fun mesh hpasses => ?_) hregular
    cases hmesh.symm.trans hpasses.blocklist
    rw [← applied_iff] at happlied
    rcases hpasses.new with hneeded | hunapplied
    · cases hunneeded.symm.trans hneeded
    · cases happlied.symm.trans hunapplied
  | projected hmesh hlive hunsuppressed hnew =>
    refine projectBlock_outcome hregular io ⟨hmesh, hlive, ?_, ?_⟩
    · rwa [← Bool.not_eq_true, suppressed_iff]
    · rwa [← Bool.not_eq_true, applied_iff]

inductive UnblockOutcome (service : EnforcementService) (io : Io) (nowMs : Nat)
    (delta : ClusterUnblockDelta) : EnforcementService → Prop
  | meshless (hmesh : service.meshBlocklist = none) (hregular : service.Regular) :
      UnblockOutcome service io nowMs delta service
  | unneeded {mesh : AworsetBlocklist} (hmesh : service.meshBlocklist = some mesh)
      (hunneeded : mesh.needsMergeUnblock delta = false) (hregular : service.Regular) :
      UnblockOutcome service io nowMs delta service
  | unrecorded (hwal : service.wal.isSome = true) (hfailure : io.walFailure.isSome = true)
      (hregular : service.Regular) : UnblockOutcome service io nowMs delta service
  | recorded {mesh : AworsetBlocklist} {next : EnforcementService}
      (hmesh : service.meshBlocklist = some mesh)
      (hneeded : mesh.needsMergeUnblock delta = true)
      (hkept : mesh.wouldBeBlockedAfterUnblock delta nowMs ∨
        (service.address delta.ip).applied = false)
      (hleaves : service.Leaves service.address [.logged (.unblock delta) io.clock] next) :
      UnblockOutcome service io nowMs delta next
  | idle {mesh : AworsetBlocklist} {next : EnforcementService}
      (hmesh : service.meshBlocklist = some mesh)
      (hfree : ¬ mesh.wouldBeBlockedAfterUnblock delta nowMs)
      (happlied : (service.address delta.ip).applied = true)
      (hidle : ¬ service.Projects io (unblockCommand io nowMs delta)
        (mesh.needsMergeUnblock delta) (.unblock delta))
      (hleaves : service.Leaves (Function.update service.address delta.ip
        (service.address delta.ip).await.settleReleased) [] next) :
      UnblockOutcome service io nowMs delta next
  | released {mesh : AworsetBlocklist} {next : EnforcementService}
      (hmesh : service.meshBlocklist = some mesh)
      (hfree : ¬ mesh.wouldBeBlockedAfterUnblock delta nowMs)
      (happlied : (service.address delta.ip).applied = true)
      (hprojects : service.Projects io (unblockCommand io nowMs delta)
        (mesh.needsMergeUnblock delta) (.unblock delta))
      (hleaves : service.Leaves (Function.update service.address delta.ip
        (service.afterUnblock delta.ip))
        (meshOps io (mesh.needsMergeUnblock delta) (.unblock delta)) next) :
      UnblockOutcome service io nowMs delta next

section

variable (service) (io : Io) (nowMs : Nat)

lemma projectUnblock_eq (changed : Bool) (delta : ClusterUnblockDelta) :
    service.projectUnblock io nowMs changed delta =
      let outcome := (service.awaiting delta.ip).enforceMesh io (unblockCommand io nowMs delta)
        changed (.unblock delta)
      (projected changed "unblock" outcome.1, outcome.2.settleReleased io delta.ip) := rfl

lemma effect_unblockCommand (delta : ClusterUnblockDelta) :
    (service.effect io.clock (unblockCommand io nowMs delta)
      (service.address delta.ip).await).settleReleased = service.afterUnblock delta.ip := by
  simp [effect, unblockCommand, meshCommand, AddressState.unblock, AddressState.settleReleased,
    AddressState.await, EnforceCommand.own, afterUnblock]

end

lemma persistAndMergeUnblockOnly_leaves (hregular : service.Regular) (io : Io)
    (delta : ClusterUnblockDelta) :
    ((service.persistAndMergeUnblockOnly io delta).2 = service ∧ service.wal.isSome ∧
        io.walFailure.isSome) ∨
      service.Leaves service.address [.logged (.unblock delta) io.clock]
        (service.persistAndMergeUnblockOnly io delta).2 := by
  unfold persistAndMergeUnblockOnly
  split
  next error hjournal =>
    obtain ⟨hwal, _, hfailure, _⟩ := journal_error hjournal
    exact .inl ⟨rfl, hwal, by rw [hfailure]; rfl⟩
  next lsn next hjournal =>
    have hcommand : service.journalCommand io (unblockCommand io 0 delta) (some (.unblock delta))
        .append = .ok (lsn, next) := hjournal
    exact .inr (journalCommand_leaves hregular hcommand)

lemma projectUnblock_outcome (hregular : service.Regular)
    (hmesh : service.meshBlocklist = some mesh) (io : Io) {nowMs : Nat}
    {delta : ClusterUnblockDelta} (hfree : ¬ mesh.wouldBeBlockedAfterUnblock delta nowMs)
    (happlied : (service.address delta.ip).applied) :
    UnblockOutcome service io nowMs delta
      (service.projectUnblock io nowMs (mesh.needsMergeUnblock delta) delta).2 := by
  have hprojected := enforceMesh_projected hregular io
    (show (unblockCommand io nowMs delta).cidr = none from rfl) rfl
    (mesh.needsMergeUnblock delta) (.unblock delta)
  rw [projectUnblock_eq]
  dsimp only
  change Projected service io _ _ _ ((service.awaiting delta.ip).enforceMesh _ _ _ _).1
    ((service.awaiting delta.ip).enforceMesh _ _ _ _).2 at hprojected
  generalize EnforcementService.enforceMesh _ _ _ _ _ = outcome at hprojected ⊢
  obtain ⟨result, middle⟩ := outcome
  dsimp only at hprojected ⊢
  cases hprojected with
  | idle hidle hleaves => exact .idle hmesh hfree happlied hidle (hleaves.settleReleased io)
  | refused haction hidle hleaves => cases haction
  | committed hprojects hleaves =>
    refine .released hmesh hfree happlied hprojects ?_
    rw [← effect_unblockCommand]
    exact hleaves.settleReleased io

lemma applyMeshUnblock_outcome (hregular : service.Regular) (io : Io) (nowMs : Nat)
    (delta : ClusterUnblockDelta) :
    UnblockOutcome service io nowMs delta (service.applyMeshUnblock io nowMs delta).2 := by
  have happlied := service.applyMeshUnblock_applied io nowMs delta
  generalize (service.applyMeshUnblock io nowMs delta).2 = next at happlied ⊢
  cases happlied with
  | meshless hmesh => exact .meshless hmesh hregular
  | unneeded hmesh hunneeded _ => exact .unneeded hmesh hunneeded hregular
  | recorded hmesh hneeded hkept =>
    rw [← applied_iff, Bool.not_eq_true] at hkept
    rcases persistAndMergeUnblockOnly_leaves hregular io delta with
      ⟨hsame, hwal, hfailure⟩ | hleaves
    · rw [hsame]
      exact .unrecorded hwal hfailure hregular
    · exact .recorded hmesh hneeded hkept hleaves
  | released hmesh hfree happlied =>
    rw [← applied_iff] at happlied
    exact projectUnblock_outcome hregular hmesh io hfree happlied

end EnforcementService

end RamShield
