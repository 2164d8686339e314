import RamShield.Enforcement.Domains
import RamShield.Enforcement.Outcome
import RamShield.Mesh.RecoverySession

/-! # The answer to a mesh message

A message of a peer goes through the service first and back to the transport
after that: the service applies its operations and says whether they are durable,
the transport checks a recovery frame against the blocklist and the assemblies
and answers. The two layers have separate rules, and the answer is positive only
if both agree. Here the answer is computed from the state before the message.
-/

namespace RamShield

open Foundation Foundation.Machine AworsetBlocklist List

def PendingMeshMutation.delta : PendingMeshMutation → ClusterDelta
  | .block delta => .block delta
  | .unblock delta => .unblock delta

def AworsetBlocklist.needsMerge (mesh : AworsetBlocklist) : PendingMeshMutation → Bool
  | .block delta => mesh.needsMergeDelta delta
  | .unblock delta => mesh.needsMergeUnblock delta

variable {mutation : PendingMeshMutation} {mesh : AworsetBlocklist}

lemma AworsetBlocklist.needsMerge_eq_false_iff (hadmissible : mutation.delta.dot.admissible) :
    mesh.needsMerge mutation = false ↔
      (mesh.register mutation.delta.key).apply mutation.delta.op =
        mesh.register mutation.delta.key := by
  cases mutation with
  | block delta =>
    rw [← Bool.not_eq_true]
    refine (not_congr needsMergeDelta_iff).trans ?_
    rw [not_and_not_right]
    exact (forall_prop_of_true hadmissible).trans Register.add_eq_self_iff.symm
  | unblock delta =>
    rw [← Bool.not_eq_true]
    refine (not_congr needsMergeUnblock_iff).trans ?_
    rw [not_and_not_right]
    exact forall_prop_of_true hadmissible

lemma AworsetBlocklist.register_absorb_of_unneeded {mutation : PendingMeshMutation}
    (hadmissible : mutation.delta.dot.admissible) (hunneeded : mesh.needsMerge mutation = false)
    (wallMs : Nat) (key : BlockKey) :
    (mesh.absorb (wallMs, mutation.delta)).register key = mesh.register key := by
  rw [register_absorb]
  split
  next hat =>
    obtain ⟨_, rfl⟩ := hat
    exact (needsMerge_eq_false_iff hadmissible).mp hunneeded
  · rfl

lemma PendingMeshMutation.WellFormed.admissible (hwf : mutation.WellFormed) :
    mutation.delta.dot.admissible := by
  cases mutation with
  | block delta => exact ClusterDot.admissible_of_validWire hwf.1
  | unblock delta => exact ClusterDot.admissible_of_validWire hwf.2

namespace EnforcementService

/-! ## A command of the mesh when the log works -/

variable {service next : EnforcementService} {io : Io} {cmd : EnforceCommand}

/-- A new command of the mesh gets its record into the log. -/
lemma enforceInner_of_works (hsource : cmd.source = "mesh")
    (hfresh : service.processedResults.lookup cmd.decisionId = none)
    (hip : cmd.ip.isUnspecified = false) (hworks : io.walFailure = none)
    (mutation : Option PendingMeshMutation) (durability : WalDurability) :
    (∀ error, (service.enforceInner io cmd mutation durability).1 = .error error →
      error.beforeCommit = false) ∧
    (service.enforceInner io cmd mutation durability).2.ledger =
      run Ledger.step service.ledger (journalOps io cmd mutation durability) := by
  have hexecuted := service.enforceInner_executed io cmd mutation durability
  generalize service.enforceInner io cmd mutation durability = outcome at hexecuted ⊢
  obtain ⟨result, next⟩ := outcome
  dsimp only at hexecuted ⊢
  cases hexecuted with
  | cached hcached => cases hfresh.symm.trans hcached
  | unspecified _ hunspecified => cases hip.symm.trans hunspecified
  | unjournalled _ _ hjournal =>
    obtain ⟨_, hfailure, _⟩ := journalCommand_error hjournal
    cases hworks.symm.trans hfailure
  | refused _ _ hjournal hcommit =>
    obtain ⟨_, _, rfl, rfl⟩ := commit_error hcommit
    refine ⟨fun error herror => ?_, (journalCommand_ledger hjournal).1⟩
    cases herror
    rfl
  | committed _ _ hjournal hcommit =>
    refine ⟨nofun, ?_⟩
    have hnothing (service : EnforcementService) : service.localOps io cmd = [] := by
      simp [localOps, hsource]
    rw [commit_finish_ledger hcommit, hnothing, run_nil]
    exact (journalCommand_ledger hjournal).1

lemma enforceMesh_of_works (hsource : cmd.source = "mesh")
    (hfresh : service.processedResults.lookup cmd.decisionId = none)
    (hip : cmd.ip.isUnspecified = false) (hworks : io.walFailure = none) (changed : Bool)
    (mutation : PendingMeshMutation) :
    (∀ error, (service.enforceMesh io cmd changed mutation).1 = .error error →
      error.beforeCommit = false) ∧
    (service.enforceMesh io cmd changed mutation).2.ledger =
      run Ledger.step service.ledger (meshOps io changed mutation) := by
  unfold enforceMesh meshOps
  cases changed with
  | true => exact enforceInner_of_works hsource hfresh hip hworks (some mutation) .append
  | false => exact enforceInner_of_works hsource hfresh hip hworks none .alreadyDurable

/-! ## What a command of the mesh leaves alone -/

structure Spares (ip : IpAddr) (service next : EnforcementService) : Prop where
  suppressions : next.meshOperatorSuppressions = service.meshOperatorSuppressions
  applied {other : IpAddr} : other ≠ ip →
    (other ∈ next.meshAppliedIps ↔ other ∈ service.meshAppliedIps)

namespace Spares

variable {ip : IpAddr} {middle : EnforcementService}

lemma of_eq (hsuppressions : next.meshOperatorSuppressions = service.meshOperatorSuppressions)
    (happlied : next.meshAppliedIps = service.meshAppliedIps) : Spares ip service next :=
  ⟨hsuppressions, fun _ => happlied ▸ Iff.rfl⟩

lemma refl (ip : IpAddr) (service : EnforcementService) : Spares ip service service := of_eq rfl rfl

lemma trans (hfirst : Spares ip service middle) (hsecond : Spares ip middle next) :
    Spares ip service next :=
  ⟨hsecond.suppressions.trans hfirst.suppressions,
    fun hother => (hsecond.applied hother).trans (hfirst.applied hother)⟩

end Spares

lemma mergeMutation_spares (service : EnforcementService) (io : Io)
    (mutation : Option PendingMeshMutation) (ip : IpAddr) :
    Spares ip service (service.mergeMutation io mutation) := by
  unfold mergeMutation
  split <;> exact .of_eq rfl rfl

section

variable (service)
variable (io) (ip : IpAddr)

lemma commit_spares (hsource : cmd.source = "mesh") :
    Spares cmd.ip service (service.commit io cmd).2 := by
  unfold commit
  split
  · unfold commitCidrBlock
    dsimp only
    split <;> exact .of_eq rfl rfl
  · unfold commitIpBlock
    dsimp only
    split
    · exact .of_eq rfl rfl
    unfold commitLease
    dsimp only
    split <;> exact .of_eq rfl rfl
  · exact .of_eq rfl rfl
  · unfold releaseIp
    split
    · exact .of_eq rfl rfl
    dsimp only
    rw [if_neg (not_not.mpr hsource)]
    exact ⟨rfl, fun hother => Finset.mem_erase.trans (and_iff_right hother)⟩

lemma finish_spares (hsource : cmd.source = "mesh") (walLsn : Option Nat) (ip : IpAddr) :
    Spares ip service (service.finish io cmd walLsn) := by
  have hidle : service.originateBan io cmd = service := by
    unfold originateBan
    rw [if_neg fun hlocal => hlocal.2 hsource]
  unfold finish
  rw [hidle]
  obtain ⟨results, order, hresult⟩ := service.rememberResult_writes (committed io cmd walLsn)
  cases cmd.action <;> exact hresult ▸ .of_eq rfl rfl

lemma enforceInner_spares (hsource : cmd.source = "mesh") (mutation : Option PendingMeshMutation)
    (durability : WalDurability) :
    Spares cmd.ip service (service.enforceInner io cmd mutation durability).2 := by
  have hexecuted := service.enforceInner_executed io cmd mutation durability
  generalize service.enforceInner io cmd mutation durability = outcome at hexecuted ⊢
  refine hexecuted.keeps (.refl cmd.ip service) (fun {_ journalled} hjournal => ?_)
    fun walLsn hdone => ?_
  · have hjournalled : Spares cmd.ip service journalled := by
      obtain ⟨wal, last, rfl⟩ := journalCommand_writes hjournal
      exact .of_eq rfl rfl
    have hmerged := journalled.mergeMutation_spares io mutation cmd.ip
    exact (hjournalled.trans hmerged).trans (commit_spares _ io hsource)
  · exact hdone.trans (finish_spares _ io hsource walLsn cmd.ip)

lemma enforceMesh_spares (hsource : cmd.source = "mesh") (changed : Bool)
    (mutation : PendingMeshMutation) :
    Spares cmd.ip service (service.enforceMesh io cmd changed mutation).2 := by
  unfold enforceMesh
  split
  · exact service.enforceInner_spares io hsource (some mutation) .append
  · exact service.enforceInner_spares io hsource none .alreadyDurable

lemma settleBlocked_spares : Spares ip service (service.settleBlocked io ip) := by
  unfold settleBlocked
  split
  · exact ⟨rfl, fun hother => Finset.mem_insert.trans (or_iff_right hother)⟩
  · exact .refl ip service

lemma settleReleased_spares : Spares ip service (service.settleReleased io ip) := by
  unfold settleReleased
  split
  · exact .refl ip service
  · exact ⟨rfl, fun hother => Finset.mem_erase.trans (and_iff_right hother)⟩

end

/-! ## One operation -/

def takes (service : EnforcementService) (nowMs : Nat) : PendingMeshMutation → Bool
  | .block delta => decide (nowMs < delta.expiresAtMs ∧ delta.ip ∉ service.meshOperatorSuppressions)
  | .unblock _ => true

/-- A block of an unspecified address that the filters let through. -/
def Rejects (service : EnforcementService) (mesh : AworsetBlocklist) (nowMs : Nat) :
    PendingMeshMutation → Prop
  | .block delta => delta.ip.isUnspecified = true ∧ service.takes nowMs (.block delta) = true ∧
      (mesh.needsMergeDelta delta = true ∨ delta.ip ∉ service.meshAppliedIps)
  | .unblock _ => False

/-- Answered positively: in the log and the blocklist, unless filtered out. -/
structure Accepted (service : EnforcementService) (mesh : AworsetBlocklist) (io : Io)
    (nowMs : Nat) (mutation : PendingMeshMutation)
    (outcome : Except EnforcementError MeshApplyOutcome) (next : EnforcementService) : Prop where
  ackable : meshAckable outcome next.wal.isSome = true
  wal : next.wal.isSome = true
  spares : Spares mutation.ip service next
  idle : mutation.ip.isUnspecified = true → next = service
  blocklist : ∃ merged, next.meshBlocklist = some merged ∧ ∀ key, merged.register key =
    if service.takes nowMs mutation then
      (mesh.absorb (io.clock.wallMs, mutation.delta)).register key
    else mesh.register key

/-- What a projection reports about a command that got into the log. -/
lemma meshAckable_projected {result : Except EnforcementError EnforceResult}
    (hcommitted : ∀ error, result = .error error → error.beforeCommit = false) (changed : Bool)
    (action : String) : meshAckable (projected changed action result).2 true := by
  unfold projected
  cases result with
  | error error =>
    have hafter := hcommitted error rfl
    simp [Except.bind, meshAckable, hafter]
  | ok result =>
    unfold requireXdpProjection
    cases hxdp : result.xdpApplied <;>
      simp [Except.bind, hxdp, meshAckable, EnforcementError.beforeCommit]

lemma blocklist_of_meshOps {mesh : AworsetBlocklist} (hmesh : service.meshBlocklist = some mesh)
    (hwal : service.wal.isSome) {mutation : PendingMeshMutation}
    (hadmissible : mutation.delta.dot.admissible)
    (hledger : next.ledger =
      run Ledger.step service.ledger (meshOps io (mesh.needsMerge mutation) mutation)) :
    next.wal.isSome ∧ ∃ merged, next.meshBlocklist = some merged ∧ ∀ key,
      merged.register key = (mesh.absorb (io.clock.wallMs, mutation.delta)).register key := by
  have hblocklist : next.meshBlocklist = next.ledger.mesh := rfl
  have hlog : next.wal = next.ledger.wal := rfl
  rw [hblocklist, hlog, hledger]
  unfold meshOps
  cases hneeded : mesh.needsMerge mutation with
  | true =>
    refine ⟨?_, _, congrArg (Option.map _) hmesh, fun key => ?_⟩
    · exact Option.isSome_map.trans hwal
    · cases mutation <;> rfl
  | false =>
    refine ⟨hwal, mesh, hmesh, fun key => ?_⟩
    exact (register_absorb_of_unneeded hadmissible hneeded _ key).symm

section Works

variable {nowMs : Nat} (hmesh : service.meshBlocklist = some mesh) (hwal : service.wal.isSome)
  (hworks : io.walFailure = none) (hfresh : service.processedResults.lookup io.freshId = none)

include hmesh hwal hworks hfresh

lemma enforceMesh_accepted {mutation : PendingMeshMutation}
    (hadmissible : mutation.delta.dot.admissible)
    (htaken : service.takes nowMs mutation) {cmd : EnforceCommand}
    (hip : cmd.ip = mutation.ip) (hspecified : cmd.ip.isUnspecified = false)
    (hsource : cmd.source = "mesh") (hid : cmd.decisionId = io.freshId) (action : String)
    {next : EnforcementService}
    (hledger : next.ledger = ((service.awaiting mutation.ip).enforceMesh io cmd
      (mesh.needsMerge mutation) mutation).2.ledger)
    (hsettled : Spares mutation.ip ((service.awaiting mutation.ip).enforceMesh io cmd
      (mesh.needsMerge mutation) mutation).2 next) :
    service.Accepted mesh io nowMs mutation
      (projected (mesh.needsMerge mutation) action ((service.awaiting mutation.ip).enforceMesh io
        cmd (mesh.needsMerge mutation) mutation).1).2 next := by
  have hunknown : (service.awaiting mutation.ip).processedResults.lookup cmd.decisionId = none :=
    hid ▸ hfresh
  obtain ⟨hcommitted, hjournalled⟩ := enforceMesh_of_works hsource hunknown hspecified hworks
    (mesh.needsMerge mutation) mutation
  have hspares := (service.awaiting mutation.ip).enforceMesh_spares io hsource
    (mesh.needsMerge mutation) mutation
  rw [hip] at hspares
  have hawaiting : Spares mutation.ip service (service.awaiting mutation.ip) := .of_eq rfl rfl
  obtain ⟨hlog, hblocklist⟩ :=
    blocklist_of_meshOps hmesh hwal hadmissible (hledger.trans hjournalled)
  refine ⟨?_, hlog, (hawaiting.trans hspares).trans hsettled, ?_, ?_⟩
  · rw [hlog]
    exact meshAckable_projected hcommitted _ action
  · intro hunspecified
    cases (hip ▸ hspecified).symm.trans hunspecified
  · rw [htaken]
    exact hblocklist

variable {delta : ClusterBlockDelta}

lemma applyMeshBlock_accepted (hadmissible : delta.dot.admissible)
    (haccepts : ¬ service.Rejects mesh nowMs (.block delta)) :
    service.Accepted mesh io nowMs (.block delta) (service.applyMeshBlock io nowMs delta).1.2
      (service.applyMeshBlock io nowMs delta).2 := by
  have happlied := service.applyMeshBlock_applied io nowMs delta
  generalize service.applyMeshBlock io nowMs delta = outcome at happlied ⊢
  obtain ⟨⟨changed, result⟩, next⟩ := outcome
  dsimp only at happlied ⊢
  have hignored (hfilter : ¬ (nowMs < delta.expiresAtMs ∧
      delta.ip ∉ service.meshOperatorSuppressions)) :
      service.Accepted mesh io nowMs (.block delta) (.ok .ignored) service := by
    refine ⟨rfl, hwal, .refl _ _, fun _ => rfl, mesh, hmesh, fun key => ?_⟩
    rw [takes, decide_eq_false hfilter]
    rfl
  cases happlied with
  | expired hexpired => exact hignored fun htaken => Nat.not_lt.mpr hexpired htaken.1
  | meshless hnone => cases hnone.symm.trans hmesh
  | suppressed hsuppressed => exact hignored fun htaken => htaken.2 hsuppressed
  | duplicate hsome hunneeded _ =>
    cases hsome.symm.trans hmesh
    refine ⟨rfl, hwal, .refl _ _, fun _ => rfl, mesh, hmesh, fun key => ?_⟩
    have hsame := @register_absorb_of_unneeded mesh (.block delta) hadmissible
      hunneeded io.clock.wallMs key
    rw [hsame, ite_self]
  | projected hsome hlive hunsuppressed hnew =>
    cases hsome.symm.trans hmesh
    have htaken : service.takes nowMs (.block delta) := decide_eq_true ⟨hlive, hunsuppressed⟩
    -- An unspecified address would have been rejected.
    have hspecified : delta.ip.isUnspecified = false := by
      by_contra hunspecified
      exact haccepts ⟨Bool.not_eq_false _ ▸ hunspecified, htaken, hnew⟩
    rw [projectBlock_eq]
    exact @enforceMesh_accepted mesh service io nowMs hmesh hwal hworks hfresh (.block delta)
      hadmissible htaken (blockCommand io nowMs delta) rfl hspecified rfl rfl "block" _
      (settleBlocked_ledger _ io delta.ip) (settleBlocked_spares _ io delta.ip)

omit hwal hworks in
lemma applyMeshBlock_rejected (hrejects : service.Rejects mesh nowMs (.block delta))
    (hasWal : Bool) : meshAckable (service.applyMeshBlock io nowMs delta).1.2 hasWal = false := by
  obtain ⟨hunspecified, htaken, hnew⟩ := hrejects
  obtain ⟨hlive, hunsuppressed⟩ := of_decide_eq_true htaken
  have hinvalid (mutation : Option PendingMeshMutation) (durability : WalDurability) :
      ((service.awaiting delta.ip).enforceInner io (blockCommand io nowMs delta) mutation
        durability).1 = .error (.invalidCommand "unspecified IP is not blockable") := by
    have hip : (blockCommand io nowMs delta).ip.isUnspecified := hunspecified
    have hunknown : (service.awaiting delta.ip).processedResults.lookup
        (blockCommand io nowMs delta).decisionId = none := hfresh
    unfold enforceInner
    rw [hunknown, hip]
    rfl
  have happlied := service.applyMeshBlock_applied io nowMs delta
  generalize service.applyMeshBlock io nowMs delta = outcome at happlied ⊢
  obtain ⟨⟨changed, result⟩, next⟩ := outcome
  dsimp only at happlied ⊢
  -- The four outcomes without a command contradict that the block is taken and new.
  cases happlied with
  | expired hexpired => exact absurd hlive (Nat.not_lt.mpr hexpired)
  | meshless hnone => cases hnone.symm.trans hmesh
  | suppressed hsuppressed => exact absurd hsuppressed hunsuppressed
  | duplicate hsome hunneeded happlied =>
    cases hsome.symm.trans hmesh
    rcases hnew with hneeded | hunapplied
    · cases hunneeded.symm.trans hneeded
    · exact absurd happlied hunapplied
  | @projected found =>
    rw [projectBlock_eq]
    unfold enforceMesh
    cases found.needsMergeDelta delta <;>
      simp [hinvalid, projected, Except.bind, meshAckable, EnforcementError.beforeCommit]

lemma applyMeshUnblock_accepted {delta : ClusterUnblockDelta}
    (hwf : (PendingMeshMutation.unblock delta).WellFormed) :
    service.Accepted mesh io nowMs (.unblock delta) (service.applyMeshUnblock io nowMs delta).1.2
      (service.applyMeshUnblock io nowMs delta).2 := by
  have hadmissible := hwf.admissible
  unfold applyMeshUnblock
  rw [hmesh]
  dsimp only
  split
  · -- Nothing is projected: the tombstone is only persisted and merged, if it is needed at all.
    cases hneeded : mesh.needsMergeUnblock delta with
    | true =>
      rw [if_pos rfl]
      unfold persistAndMergeUnblockOnly
      cases hjournal : service.journal io
          ((PendingMeshMutation.unblock delta).toWalEntry io.clock.wallNs) with
      | error error =>
        obtain ⟨_, _, hfailure, _⟩ := journal_error hjournal
        cases hworks.symm.trans hfailure
      | ok journal =>
        obtain ⟨lsn, journalled⟩ := journal
        have hledger : (journalled.mergeMutation io (some (.unblock delta))).ledger =
            run Ledger.step service.ledger
              (meshOps io (mesh.needsMerge (.unblock delta)) (.unblock delta)) := by
          rw [(journalled.mergeMutation_ledger io _).1, (journal_ledger hjournal).1,
            needsMerge, hneeded]
          rfl
        obtain ⟨hlog, hblocklist⟩ := blocklist_of_meshOps hmesh hwal hadmissible hledger
        refine ⟨rfl, hlog, ?_, ?_, hblocklist⟩
        · have hkept : Spares delta.ip service journalled := by
            obtain ⟨wal, last, rfl⟩ := journal_writes hjournal
            exact .of_eq rfl rfl
          exact hkept.trans (journalled.mergeMutation_spares io _ delta.ip)
        · intro hunspecified
          cases hwf.1.symm.trans hunspecified
    | false =>
      refine ⟨rfl, hwal, .refl _ _, fun _ => rfl, mesh, hmesh, fun key => ?_⟩
      exact (@register_absorb_of_unneeded mesh (.unblock delta) hadmissible
        hneeded io.clock.wallMs key).symm
  · rw [projectUnblock_eq]
    exact @enforceMesh_accepted mesh service io nowMs hmesh hwal hworks hfresh (.unblock delta)
      hadmissible rfl (unblockCommand io nowMs delta) rfl hwf.1 rfl rfl "unblock" _
      (settleReleased_ledger _ io delta.ip) (settleReleased_spares _ io delta.ip)

lemma applyMutation_accepted {mutation : PendingMeshMutation}
    (hwf : mutation.WellFormed) (haccepts : ¬ service.Rejects mesh nowMs mutation) :
    service.Accepted mesh io nowMs mutation (service.applyMutation io nowMs mutation).1.2
      (service.applyMutation io nowMs mutation).2 := by
  cases mutation with
  | block delta => exact applyMeshBlock_accepted hmesh hwal hworks hfresh hwf.admissible haccepts
  | unblock delta => exact applyMeshUnblock_accepted hmesh hwal hworks hfresh hwf

omit hwal hworks in
lemma applyMutation_rejected {mutation : PendingMeshMutation}
    (hrejects : service.Rejects mesh nowMs mutation) (hasWal : Bool) :
    meshAckable (service.applyMutation io nowMs mutation).1.2 hasWal = false := by
  cases mutation with
  | block delta => exact applyMeshBlock_rejected hmesh hfresh hrejects hasWal
  | unblock delta => exact hrejects.elim

end Works

/-- An operation makes no decision known but its own. -/
lemma lookup_applyMutation_of_none {id : Uuid} (hother : id ≠ io.freshId)
    (hnone : service.processedResults.lookup id = none) (nowMs : Nat)
    (mutation : PendingMeshMutation) :
    (service.applyMutation io nowMs mutation).2.processedResults.lookup id = none := by
  refine service.applyMutation_keeps io nowMs hnone ?_ (fun _ _ hnone => hnone) ?_
  · intro delta _
    unfold persistAndMergeUnblockOnly
    split
    · exact hnone
    next lsn journalled hjournal =>
      obtain ⟨wal, last, rfl⟩ := journal_writes hjournal
      dsimp only
      unfold mergeMutation
      split <;> exact hnone
  · intro actor action ttlSeconds changed
    unfold enforceMesh
    split
    · exact lookup_enforceInner_of_none io _ .append hother hnone
    · exact lookup_enforceInner_of_none io none .alreadyDurable hother hnone

/-! ## The operations of a message -/

def taken (service : EnforcementService) (nowMs : Nat) (mutations : List PendingMeshMutation) :
    List PendingMeshMutation :=
  mutations.filter (service.takes nowMs)

def opsAt (key : BlockKey) (mutations : List PendingMeshMutation) : List (Register.Op DotPayload) :=
  (mutations.filter fun mutation => decide (key = mutation.delta.key)).map fun mutation =>
    mutation.delta.op

lemma opsAt_cons (key : BlockKey) (mutation : PendingMeshMutation)
    (mutations : List PendingMeshMutation) : opsAt key (mutation :: mutations) =
      if key = mutation.delta.key then mutation.delta.op :: opsAt key mutations
      else opsAt key mutations := by
  unfold opsAt
  rw [filter_cons]
  split <;> simp_all

/-- Suppressions that stay make the filters stay. -/
lemma takes_congr
    (hsuppressions : next.meshOperatorSuppressions = service.meshOperatorSuppressions)
    (nowMs : Nat) : next.takes nowMs = service.takes nowMs := by
  funext mutation
  cases mutation with
  | block delta => rw [takes, takes, hsuppressions]
  | unblock delta => rfl

variable {outcome : Except EnforcementError MeshApplyOutcome} {merged : AworsetBlocklist}

lemma Accepted.rejects_iff {nowMs : Nat} {mutation : PendingMeshMutation}
    (haccepted : service.Accepted mesh io nowMs mutation outcome next)
    (hmesh : service.meshBlocklist = some mesh) (hmerged : next.meshBlocklist = some merged)
    (other : PendingMeshMutation) :
    next.Rejects merged nowMs other ↔ service.Rejects mesh nowMs other := by
  cases other with
  | unblock delta => exact Iff.rfl
  | block delta =>
    cases hunspecified : mutation.ip.isUnspecified with
    | true =>
      cases haccepted.idle hunspecified
      cases hmesh.symm.trans hmerged
      exact Iff.rfl
    | false =>
      -- The address of a rejected block is not the address of the operation.
      refine and_congr_right fun hother => ?_
      have hne : delta.ip ≠ mutation.ip := by
        intro heq
        cases (heq ▸ hother).symm.trans hunspecified
      have hkey : delta.key ≠ mutation.delta.key := by
        intro heq
        refine hne ?_
        cases mutation <;> exact congrArg BlockKey.ip heq
      obtain ⟨found, hfound, hregister⟩ := haccepted.blocklist
      cases hfound.symm.trans hmerged
      have hsame : merged.register delta.key = mesh.register delta.key := by
        have hapart : ¬ (mutation.delta.dot.admissible ∧
            delta.key = mutation.delta.key) := fun hat => hkey hat.2
        rw [hregister, register_absorb, if_neg hapart, ite_self]
      have hneeds : merged.needsMergeDelta delta = mesh.needsMergeDelta delta := by
        rw [Bool.eq_iff_iff, needsMergeDelta_iff, needsMergeDelta_iff, hsame]
      rw [takes_congr haccepted.spares.suppressions, hneeds,
        not_congr (haccepted.spares.applied hne)]

lemma accepted_foldl_applyItem {ios : Nat → Io} {nowMs : Nat} {batch : MeshBatch}
    (hrejected : batch.accepted = false) (items : List (Option PendingMeshMutation)) :
    (items.foldl (applyItem ios nowMs) batch).accepted = false := by
  induction items generalizing batch with
  | nil => exact hrejected
  | cons item items ih =>
    refine ih ?_
    cases item with
    | none => rfl
    | some mutation => simp [applyItem, hrejected]

structure Leave (service : EnforcementService) (mesh : AworsetBlocklist) (nowMs : Nat)
    (mutations : List PendingMeshMutation) (next : EnforcementService) : Prop where
  wal : next.wal.isSome = true
  suppressions : next.meshOperatorSuppressions = service.meshOperatorSuppressions
  blocklist : ∃ merged, next.meshBlocklist = some merged ∧ ∀ key, merged.register key =
    (opsAt key (service.taken nowMs mutations)).foldl Register.apply (mesh.register key)

variable {mutations : List PendingMeshMutation}

lemma Leave.cons {service middle next : EnforcementService} {io : Io} {nowMs : Nat}
    {mutation : PendingMeshMutation} (hadmissible : mutation.delta.dot.admissible)
    (haccepted : service.Accepted mesh io nowMs mutation outcome middle)
    (hmerged : middle.meshBlocklist = some merged)
    (hleave : Leave middle merged nowMs mutations next) :
    Leave service mesh nowMs (mutation :: mutations) next := by
  have hsuppressions := haccepted.spares.suppressions
  obtain ⟨final, hfinal, hregister⟩ := hleave.blocklist
  refine ⟨hleave.wal, hleave.suppressions.trans hsuppressions, final, hfinal, fun key => ?_⟩
  obtain ⟨found, hfound, hstep⟩ := haccepted.blocklist
  cases hfound.symm.trans hmerged
  have htaken : middle.taken nowMs mutations = service.taken nowMs mutations := by
    rw [taken, taken, takes_congr hsuppressions]
  have hcons : service.taken nowMs (mutation :: mutations) =
      if service.takes nowMs mutation then mutation :: service.taken nowMs mutations
      else service.taken nowMs mutations := filter_cons
  rw [hregister, hstep, htaken, hcons]
  split
  · rw [opsAt_cons, register_absorb, hadmissible]
    simp only [true_and]
    split <;> rfl
  · rfl

lemma mem_opsAt_taken {nowMs : Nat} {key : BlockKey} {op : Register.Op DotPayload} :
    op ∈ opsAt key (service.taken nowMs mutations) ↔
      ∃ mutation ∈ mutations, service.takes nowMs mutation ∧
        mutation.delta.key = key ∧ mutation.delta.op = op := by
  simp only [opsAt, taken, mem_map, mem_filter, decide_eq_true_eq, and_assoc]
  simp only [eq_comm]

namespace Leave

variable {nowMs : Nat}

section

variable (hleave : Leave service mesh nowMs mutations next)
  (hmerged : next.meshBlocklist = some merged)

include hleave hmerged

lemma needsMerge_of_taken {mutation : PendingMeshMutation} (hwf : mutation.WellFormed)
    (hmem : mutation ∈ mutations) (htaken : service.takes nowMs mutation) :
    merged.needsMerge mutation = false := by
  obtain ⟨found, hfound, hregister⟩ := hleave.blocklist
  cases hfound.symm.trans hmerged
  rw [needsMerge_eq_false_iff hwf.admissible, hregister]
  exact Register.foldl_apply_absorbed (mem_opsAt_taken.mpr ⟨mutation, hmem, htaken, rfl, rfl⟩) _

lemma needsMergeDelta_eq_false_iff {delta : ClusterBlockDelta}
    (hadmissible : delta.dot.admissible) :
    merged.needsMergeDelta delta = false ↔ mesh.needsMergeDelta delta = false ∨
      ∃ mutation ∈ mutations, service.takes nowMs mutation ∧
        mutation.delta.key = delta.key ∧ delta.dot.counter ≤ mutation.delta.dot.counter := by
  obtain ⟨found, hfound, hregister⟩ := hleave.blocklist
  cases hfound.symm.trans hmerged
  have hiff (set : AworsetBlocklist) : set.needsMergeDelta delta = false ↔
      (set.register delta.key).superseded delta.dot.counter := by
    rw [← Bool.not_eq_true, needsMergeDelta_iff, not_and_not_right]
    exact forall_prop_of_true hadmissible
  have hcounter (mutation : PendingMeshMutation) :
      mutation.delta.op.counter = mutation.delta.dot.counter := by
    cases mutation <;> rfl
  rw [hiff, hiff, hregister, Register.superseded_foldl_apply]
  refine or_congr_right ?_
  constructor
  · rintro ⟨op, hop, hle⟩
    obtain ⟨mutation, hmem, htaken, hkey, rfl⟩ := mem_opsAt_taken.mp hop
    exact ⟨mutation, hmem, htaken, hkey, hcounter mutation ▸ hle⟩
  · rintro ⟨mutation, hmem, htaken, hkey, hle⟩
    refine ⟨mutation.delta.op, mem_opsAt_taken.mpr ⟨mutation, hmem, htaken, hkey, rfl⟩, ?_⟩
    rw [hcounter]
    exact hle

end

end Leave

section Works

variable {ios : Nat → Io} {nowMs : Nat}

lemma foldl_applyItem_accepted (hworks : ∀ index, (ios index).walFailure = none) {limit : Nat}
    (hdistinct : Set.InjOn (fun index => (ios index).freshId) (Set.Iio limit))
    {mutations : List PendingMeshMutation}
    (hwf : ∀ mutation ∈ mutations, mutation.WellFormed) {batch : MeshBatch}
    (hlimit : batch.used + mutations.length ≤ limit) {mesh : AworsetBlocklist}
    (hmesh : batch.service.meshBlocklist = some mesh) (hwal : batch.service.wal.isSome)
    (hfresh : ∀ index, batch.used ≤ index → index < limit →
      batch.service.processedResults.lookup (ios index).freshId = none)
    (haccepted : batch.accepted) :
    (((mutations.map some).foldl (applyItem ios nowMs) batch).accepted ↔
      ∀ mutation ∈ mutations, ¬ batch.service.Rejects mesh nowMs mutation) ∧
    (((mutations.map some).foldl (applyItem ios nowMs) batch).accepted →
      batch.service.Leave mesh nowMs mutations
        ((mutations.map some).foldl (applyItem ios nowMs) batch).service) := by
  induction mutations generalizing batch mesh with
  | nil => exact ⟨by simp [haccepted], fun _ => ⟨hwal, rfl, mesh, hmesh, fun _ => rfl⟩⟩
  | cons mutation mutations ih =>
    rw [map_cons, foldl_cons]
    rw [length_cons] at hlimit
    have hnew := hfresh batch.used le_rfl (by omega)
    by_cases hrejects : batch.service.Rejects mesh nowMs mutation
    · have hrefused : (applyItem ios nowMs batch (some mutation)).accepted = false := by
        unfold applyItem
        dsimp only
        rw [applyMutation_rejected hmesh hnew hrejects, Bool.and_false]
      have hfinal := @accepted_foldl_applyItem ios nowMs _ hrefused (mutations.map some)
      rw [hfinal]
      refine ⟨iff_of_false Bool.false_ne_true ?_, nofun⟩
      exact fun hall => hall mutation mem_cons_self hrejects
    · have hhead := hwf mutation mem_cons_self
      have hstep := applyMutation_accepted hmesh hwal (hworks batch.used) hnew hhead hrejects
      obtain ⟨merged, hmerged, _⟩ := hstep.blocklist
      -- The decision used by the step is not one of those to come.
      have hlater : ∀ index, batch.used + 1 ≤ index → index < limit →
          (batch.service.applyMutation (ios batch.used) nowMs mutation).2.processedResults.lookup
            (ios index).freshId = none := by
        intro index hindex hbound
        refine lookup_applyMutation_of_none ?_ (hfresh index (by omega) hbound) nowMs mutation
        intro heq
        have hused : batch.used < limit := by omega
        have hsame : index = batch.used := hdistinct hbound hused heq
        omega
      have hroom : batch.used + 1 + mutations.length ≤ limit := by omega
      have htrue : (applyItem ios nowMs batch (some mutation)).accepted := by
        unfold applyItem
        dsimp only
        rw [haccepted, hstep.ackable, Bool.and_true]
      have hrest := @ih (fun other hmem => hwf other (mem_cons_of_mem _ hmem))
        (applyItem ios nowMs batch (some mutation)) hroom merged hmerged hstep.wal hlater htrue
      -- A step that is accepted rejects later what was rejected before it, and nothing else.
      refine ⟨hrest.1.trans ?_, fun hfinal => (hrest.2 hfinal).cons hhead.admissible hstep hmerged⟩
      rw [forall_mem_cons, and_iff_right hrejects]
      exact forall₂_congr fun other _ => not_congr (hstep.rejects_iff hmesh hmerged other)

end Works

end EnforcementService

/-! ## The two layers together -/

def MeshMessage.operations (message : MeshMessage) : List PendingMeshMutation :=
  message.items.reduceOption

lemma MeshMessage.mem_operations {message : MeshMessage} :
    mutation ∈ message.operations ↔ some mutation ∈ message.items :=
  reduceOption_mem_iff

lemma MeshMessage.mem_operations_of_block {delta : ClusterBlockDelta}
    {blocks : List ClusterBlockDelta} (hdelta : delta ∈ blocks)
    (unblocks : List ClusterUnblockDelta) : .block delta ∈ (sync blocks unblocks).operations :=
  mem_operations.mpr (mem_append_left _ (mem_map_of_mem hdelta))

variable {nowMs : Nat}

/-- The transport admits no mutation that the service rejects. -/
lemma MeshMessage.none_notMem_items {message : MeshMessage} (hvalid : message.valid nowMs) :
    none ∉ message.items := by
  cases message with
  | block delta => simp [items]
  | unblock delta => simp [items]
  | sync blocks unblocks => simp [items]
  | walBatch source first last mutations =>
    intro hmem
    obtain ⟨replicated, hreplicated, hnone⟩ := mem_map.mp hmem
    simp only [valid, Bool.and_eq_true, all_eq_true] at hvalid
    have hwire := hvalid.2 replicated hreplicated
    simp only [ReplicatedMeshMutation.validWire, Bool.and_eq_true] at hwire
    obtain ⟨incarnation, hincarnation, hnonnil⟩ := Option.any_eq_true _ _ |>.mp hwire.1.1.1.2
    simp [ReplicatedMeshMutation.operation, hincarnation, Option.filter, hnonnil] at hnone

lemma MeshMessage.items_eq_operations {message : MeshMessage} (hnone : none ∉ message.items) :
    message.items = message.operations.map some := by
  unfold operations
  generalize message.items = items at hnone ⊢
  induction items with
  | nil => rfl
  | cons item items ih =>
    rw [mem_cons, not_or] at hnone
    cases item with
    | none => exact absurd rfl hnone.1
    | some mutation => rw [reduceOption_cons_of_some, map_cons, ← ih hnone.2]

lemma WireMessage.items_queued {message : WireMessage} (hvalid : message.valid nowMs) :
    message.queued.items = message.queued.operations.map some := by
  apply MeshMessage.items_eq_operations
  cases message with
  | standard message => exact message.none_notMem_items hvalid
  | recovery message => cases message <;> simp [queued, MeshMessage.items]

/-- `ReceivedMeshMessage`, by the message of the wire that it came in. -/
inductive ReceivedMeshMessage
  | standard (message : MeshMessage)
  | recovery (recovery : ReceivedRecovery)

namespace ReceivedMeshMessage

def wire : ReceivedMeshMessage → WireMessage
  | .standard message => .standard message
  | .recovery part => part.wire

def message (received : ReceivedMeshMessage) : MeshMessage := received.wire.queued

def recoveryPart : ReceivedMeshMessage → Option ReceivedRecovery
  | .standard _ => none
  | .recovery part => some part

end ReceivedMeshMessage

/-- The environments of the commands, the time of the batch and of the acknowledgement. -/
structure Turn where
  ios : Nat → Io
  nowMs : Nat
  ackMs : Nat

/-- The log works, and the decisions of so many commands are new to the service. -/
structure Turn.Works (turn : Turn) (service : EnforcementService) (count : Nat) : Prop where
  works (index : Nat) : (turn.ios index).walFailure = none
  distinct : Set.InjOn (fun index => (turn.ios index).freshId) (Set.Iio count)
  fresh {index : Nat} : index < count →
    service.processedResults.lookup (turn.ios index).freshId = none

/-- The service of a node, and the assemblies of its transport. -/
structure MeshReceiver where
  service : EnforcementService
  sessions : RecoverySessions

namespace MeshReceiver

variable (digest : SnapshotDigest) (receiver : MeshReceiver)

def processed (turn : Turn) (received : ReceivedMeshMessage) : EnforcementService.MeshBatch :=
  (EnforcementService.applyMessage turn.ios turn.nowMs
    (⟨receiver.service, 0, .empty, true⟩, []) received.message).1

/-- A message to its answer. A service without a blocklist has no transport. -/
def handle (turn : Turn) (sender : Nat) (received : ReceivedMeshMessage) :
    AckResponse × MeshReceiver :=
  let batch := receiver.processed turn received
  match batch.service.meshBlocklist with
  | none => (⟨false, none, none⟩, ⟨batch.service, receiver.sessions⟩)
  | some mesh =>
    let (response, sessions) := acknowledgeWithLsn digest receiver.sessions mesh turn.ackMs
      sender received.recoveryPart batch.accepted (received.message.ackLsn batch.accepted)
    (response, ⟨batch.service, sessions⟩)

def Settles (service : EnforcementService) (mesh : AworsetBlocklist) (turn : Turn)
    (payload : RecoveryFramePayload) : Prop :=
  ∀ delta ∈ payload.blocks, turn.ackMs < delta.expiresAtMs → mesh.needsMergeDelta delta = true →
    ∃ mutation ∈ (MeshMessage.sync payload.blocks payload.unblocks).operations,
      service.takes turn.nowMs mutation = true ∧ mutation.delta.key = delta.key ∧
        delta.dot.counter ≤ mutation.delta.dot.counter

def Concludes (mesh : AworsetBlocklist) (turn : Turn) (sender : Nat) : ReceivedMeshMessage → Prop
  | .standard _ => True
  | .recovery (.frame frame) => Settles receiver.service mesh turn frame.payload
  | .recovery (.complete identity) =>
    ∃ session, receiver.sessions.lookup sender = some session ∧ session.identity = identity ∧
      (session.completedProof.isSome = true ∨ RecoverySessions.Whole digest session)

def Answerable (mesh : AworsetBlocklist) (turn : Turn) (sender : Nat)
    (received : ReceivedMeshMessage) : Prop :=
  (∀ mutation ∈ received.message.operations, ¬ receiver.service.Rejects mesh turn.nowMs mutation) ∧
  receiver.Concludes digest mesh turn sender received

variable {turn : Turn} {merged : AworsetBlocklist}

lemma crdtApplied_iff {service next : EnforcementService} {payload : RecoveryFramePayload}
    (hwf : ∀ mutation ∈ (MeshMessage.sync payload.blocks payload.unblocks).operations,
      mutation.WellFormed)
    (hleave : service.Leave mesh turn.nowMs
      (MeshMessage.sync payload.blocks payload.unblocks).operations next)
    (hmerged : next.meshBlocklist = some merged) :
    merged.crdtApplied turn.ackMs payload ↔ Settles service mesh turn payload := by
  -- A tombstone of the frame is always absorbed, so the blocks decide.
  have hunblocks : (payload.unblocks.all fun delta => !merged.needsMergeUnblock delta) := by
    rw [all_eq_true]
    intro delta hdelta
    have hmem : .unblock delta ∈ (MeshMessage.sync payload.blocks payload.unblocks).operations :=
      MeshMessage.mem_operations.mpr (mem_append_right _ (mem_map_of_mem hdelta))
    exact congrArg not (hleave.needsMerge_of_taken hmerged (hwf _ hmem) hmem rfl)
  unfold crdtApplied Settles
  rw [hunblocks, Bool.and_true, all_eq_true]
  refine forall₂_congr fun delta hdelta => ?_
  have hmem := MeshMessage.mem_operations_of_block hdelta payload.unblocks
  rw [Bool.or_eq_true, decide_eq_true_eq, Bool.not_eq_true',
    hleave.needsMergeDelta_eq_false_iff hmerged (hwf _ hmem).admissible]
  constructor
  · rintro (hexpired | hunneeded | hcovered) hlive hneeded
    · exact absurd hlive (Nat.not_lt.mpr hexpired)
    · cases hunneeded.symm.trans hneeded
    · exact hcovered
  · intro hsettles
    by_cases hlive : turn.ackMs < delta.expiresAtMs
    · cases hneeded : mesh.needsMergeDelta delta with
      | false => exact .inr (.inl rfl)
      | true => exact .inr (.inr (hsettles hlive hneeded))
    · exact .inl (Nat.le_of_not_lt hlive)

lemma acknowledgeWithLsn_refused (sessions : RecoverySessions) (blocklist : AworsetBlocklist)
    (nowMs sender : Nat) (recovery : Option ReceivedRecovery) (ackLsn : Option Nat) :
    (acknowledgeWithLsn digest sessions blocklist nowMs sender recovery false ackLsn).1.accepted =
      false := by
  unfold acknowledgeWithLsn
  cases recovery with
  | none => rfl
  | some part => cases part <;> rfl

lemma acknowledgeWithLsn_accepted_iff {digest : SnapshotDigest} {receiver : MeshReceiver}
    {sender : Nat} {received : ReceivedMeshMessage} {next : EnforcementService}
    (hwf : ∀ mutation ∈ received.message.operations, mutation.WellFormed)
    (hleave : receiver.service.Leave mesh turn.nowMs received.message.operations next)
    (hmerged : next.meshBlocklist = some merged)
    (hfits : ∀ frame, received = .recovery (.frame frame) →
      (receiver.sessions.recordRecoveryFrame sender frame).1)
    (ackLsn : Option Nat) :
    (acknowledgeWithLsn digest receiver.sessions merged turn.ackMs sender received.recoveryPart
        true ackLsn).1.accepted ↔
      receiver.Concludes digest mesh turn sender received := by
  cases received with
  | standard message => exact iff_of_true rfl trivial
  | recovery part =>
    cases part with
    | frame frame =>
      have happlied := crdtApplied_iff hwf hleave hmerged
      unfold acknowledgeWithLsn
      dsimp only [ReceivedMeshMessage.recoveryPart]
      refine Iff.trans ?_ happlied
      split
      next hholds => exact iff_of_true (hfits frame rfl) hholds
      next hfails => exact iff_of_false Bool.false_ne_true hfails
    | complete identity => exact RecoverySessions.completeRecovery_isSome_iff

section Works

variable {digest receiver} {sender admittedMs : Nat} {received : ReceivedMeshMessage}

lemma wellFormed_operations (hvalid : received.wire.valid admittedMs) :
    ∀ mutation ∈ received.message.operations, mutation.WellFormed :=
  fun _ hmem => received.wire.wellFormed_of_valid hvalid (MeshMessage.mem_operations.mp hmem)

lemma processed_accepted (hvalid : received.wire.valid admittedMs)
    (hmesh : receiver.service.meshBlocklist = some mesh) (hwal : receiver.service.wal.isSome)
    (hworks : turn.Works receiver.service received.message.operations.length) :
    ((receiver.processed turn received).accepted ↔ ∀ mutation ∈ received.message.operations,
        ¬ receiver.service.Rejects mesh turn.nowMs mutation) ∧
    ((receiver.processed turn received).accepted →
      receiver.service.Leave mesh turn.nowMs received.message.operations
        (receiver.processed turn received).service) := by
  have hwf := wellFormed_operations hvalid
  have hitems : received.message.items = received.message.operations.map some :=
    received.wire.items_queued hvalid
  unfold processed EnforcementService.applyMessage
  dsimp only
  rw [hitems]
  exact EnforcementService.foldl_applyItem_accepted hworks.works hworks.distinct hwf
    (Nat.zero_add _).le hmesh hwal (fun _ _ hbound => hworks.fresh hbound) rfl

/-- When the log works, the answer to an admitted message is positive exactly when no
operation of it blocks an unspecified address past the filters, every block of a frame is taken
in, superseded or expired, and the assembly that a completion names is whole. -/
theorem answer_accepted_iff (hvalid : received.wire.valid admittedMs = true)
    (hmesh : receiver.service.meshBlocklist = some mesh)
    (hwal : receiver.service.wal.isSome = true)
    (hworks : turn.Works receiver.service received.message.operations.length)
    (hfits : ∀ frame, received = .recovery (.frame frame) →
      (receiver.sessions.recordRecoveryFrame sender frame).1 = true) :
    (receiver.handle digest turn sender received).1.accepted = true ↔
      receiver.Answerable digest mesh turn sender received := by
  have hwellFormed := wellFormed_operations hvalid
  obtain ⟨haccepted, hleave⟩ := processed_accepted hvalid hmesh hwal hworks
  unfold handle Answerable
  dsimp only
  rw [← haccepted]
  generalize receiver.processed turn received = batch at hleave ⊢
  cases hbatch : batch.accepted with
  | false =>
    refine iff_of_false ?_ fun hboth => Bool.false_ne_true hboth.1
    split
    · exact Bool.false_ne_true
    dsimp only
    rw [acknowledgeWithLsn_refused]
    exact Bool.false_ne_true
  | true =>
    replace hleave := hleave hbatch
    obtain ⟨merged, hmerged, _⟩ := hleave.blocklist
    rw [hmerged, and_iff_right rfl]
    exact acknowledgeWithLsn_accepted_iff hwellFormed hleave hmerged hfits _

end Works

lemma handle_of_accepted {digest : SnapshotDigest} {receiver : MeshReceiver} {sender : Nat}
    {frame : RecoveryFrame}
    (haccepted :
      (receiver.handle digest turn sender (.recovery (.frame frame))).1.accepted = true) :
    (receiver.processed turn (.recovery (.frame frame))).accepted ∧
      (receiver.handle digest turn sender (.recovery (.frame frame))).2 =
        ⟨(receiver.processed turn (.recovery (.frame frame))).service,
          (receiver.sessions.recordRecoveryFrame sender frame).2⟩ := by
  unfold handle at haccepted ⊢
  dsimp only at haccepted ⊢
  generalize receiver.processed turn (.recovery (.frame frame)) = batch at haccepted ⊢
  split at haccepted
  · cases haccepted
  next mesh hmesh =>
    cases hbatch : batch.accepted with
    | false =>
      rw [hbatch, acknowledgeWithLsn_refused] at haccepted
      cases haccepted
    | true =>
      rw [hbatch] at haccepted
      refine ⟨rfl, ?_⟩
      unfold acknowledgeWithLsn at haccepted ⊢
      dsimp only [ReceivedMeshMessage.recoveryPart] at haccepted ⊢
      split at haccepted
      next happlied => rw [if_pos happlied]
      · cases haccepted

def fresh : MeshReceiver where
  service := ((EnforcementService.new (Store.new.setRamLimitMb 1) 0).withWal
    .empty).withMeshBlocklist (.new 1 1)
  sessions := ∅

/-- The turn at one instant, with consecutive decisions. -/
def turnAt (id : Uuid) (nowMs : Nat) : Turn where
  ios index := .at ⟨nowMs * msNs, nowMs * msNs⟩ (id + index)
  nowMs := nowMs
  ackMs := nowMs

lemma turnAt_works {service : EnforcementService} {id : Uuid} {count : Nat} (hcount : count < 256)
    (hfresh : ∀ index < count, service.processedResults.lookup (id + index) = none) (nowMs : Nat) :
    (turnAt id nowMs).Works service count where
  works _ := rfl
  distinct left hleft right hright hids := by
    rw [Set.mem_Iio] at hleft hright
    change id + BitVec.ofNat 128 left = id + BitVec.ofNat 128 right at hids
    bv_omega
  fresh := hfresh _

def bannedFrame : RecoveryFrame where
  identity := ⟨5, 9, 40, ReceiverTrace.counterDigest.hash ⟨[sampleBan], []⟩, 1⟩
  frameIndex := 0
  payload := ⟨[sampleBan], []⟩

/-- A receiver without suppressions takes it. -/
theorem answer_accepted_iff_frame :
    (fresh.handle ReceiverTrace.counterDigest (turnAt 10 100) 2
      (.recovery (.frame bannedFrame))).1.accepted = true := by
  have hworks : (turnAt 10 100).Works fresh.service 1 :=
    turnAt_works (by decide) (fun _ _ => rfl) 100
  refine (@answer_accepted_iff (.new 1 1) ReceiverTrace.counterDigest fresh (turnAt 10 100) 2 90
    (.recovery (.frame bannedFrame)) (by decide +kernel) rfl rfl hworks ?_).mpr ⟨?_, ?_⟩
  · intro frame hframe
    cases hframe
    decide +kernel
  · intro mutation hmem hrejects
    cases mem_singleton.mp hmem
    exact absurd hrejects.1 (by decide)
  · intro delta hdelta _ _
    cases mem_singleton.mp hdelta
    exact ⟨.block sampleBan, mem_singleton_self _, by decide +kernel, rfl, le_rfl⟩

/-- A receiver whose operator has released an address refuses, now and later, the frame of a
recovery that blocks it, although a plain message with the same block is accepted; and a plain
block of an unspecified address is admitted and refused. -/
theorem suppressed_frame_refused :
    let released : MeshReceiver :=
      ⟨(fresh.service.enforce (.at ⟨0, 0⟩ 0) (.operator 1 .unblock (.v4 1) 0)).2, ∅⟩
    let received := ReceivedMeshMessage.recovery (.frame bannedFrame)
    let first := released.handle ReceiverTrace.counterDigest (turnAt 10 100) 2 received
    let unspecified := ReceivedMeshMessage.standard (.block { sampleBan with ip := .v4 0 })
    received.wire.valid 90 = true ∧
      (released.sessions.recordRecoveryFrame 2 bannedFrame).1 = true ∧
      first.1.accepted = false ∧
      (first.2.handle ReceiverTrace.counterDigest (turnAt 20 90000) 2 received).1.accepted =
        false ∧
      (released.handle ReceiverTrace.counterDigest (turnAt 10 100) 2
        (.standard (.block sampleBan))).1.accepted = true ∧
      unspecified.wire.valid 90 = true ∧
      (fresh.handle ReceiverTrace.counterDigest (turnAt 10 100) 2 unspecified).1.accepted =
        false := by
  decide +kernel

end MeshReceiver

end RamShield
