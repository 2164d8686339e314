import RamShield.Enforcement.Actor
import RamShield.Enforcement.Replay

/-! # The blocklist and the log

What a command does to the two things that a restart rebuilds the cluster state
from. There are four operations: a local record is appended, a mesh operation is
appended and merged, a local block originates a dot, a local unblock withdraws
dots. Everything else that the actor does leaves both alone.
-/

namespace RamShield

open Foundation Foundation.Machine List

/-- The cluster blocklist and the log. -/
structure Ledger where
  mesh : Option AworsetBlocklist
  wal : Option Wal

def PendingMeshMutation.mergeInto (mutation : PendingMeshMutation) (wallMs : Nat)
    (mesh : AworsetBlocklist) : AworsetBlocklist :=
  match mutation with
  | .block delta => (mesh.mergeDelta wallMs delta).2
  | .unblock delta => (mesh.mergeUnblockDelta wallMs delta).2

/-- What can happen to a ledger. -/
inductive LedgerOp
  | note (entry : WalEntry)
  | logged (mutation : PendingMeshMutation) (clock : Clock)
  | ban (clock : Clock) (ip : IpAddr) (ttlSeconds : Nat)
  | unban (clock : Clock) (dots : IterOrder BlockKey) (ip : IpAddr)

namespace Ledger

def append (ledger : Ledger) (entry : WalEntry) : Ledger :=
  { ledger with wal := ledger.wal.map fun wal => (wal.append entry).2 }

def updateMesh (ledger : Ledger) (update : AworsetBlocklist → AworsetBlocklist) : Ledger :=
  { ledger with mesh := ledger.mesh.map update }

def step (ledger : Ledger) : LedgerOp → Ledger
  | .note entry => ledger.append entry
  | .logged mutation clock =>
    (ledger.append (mutation.toWalEntry clock.wallNs)).updateMesh (mutation.mergeInto clock.wallMs)
  | .ban clock ip ttlSeconds =>
    ledger.updateMesh fun mesh => (mesh.recordBan clock.wallMs ip (satMul ttlSeconds 1000) 2).2
  | .unban clock dots ip => ledger.updateMesh fun mesh => (mesh.recordUnban clock.wallMs dots ip).2

def Reaches (allowed : LedgerOp → Prop) (start next : Ledger) : Prop :=
  ∃ ops, (∀ op ∈ ops, allowed op) ∧ next = run step start ops

namespace Reaches

variable {allowed : LedgerOp → Prop} {start middle next : Ledger}

lemma refl (allowed : LedgerOp → Prop) (start : Ledger) : Reaches allowed start start :=
  ⟨[], by simp, rfl⟩

lemma trans (hfirst : Reaches allowed start middle) (hsecond : Reaches allowed middle next) :
    Reaches allowed start next := by
  obtain ⟨first, hallowedFirst, rfl⟩ := hfirst
  obtain ⟨second, hallowedSecond, rfl⟩ := hsecond
  refine ⟨first ++ second, fun op hmem => ?_, (run_append _ _ _ _).symm⟩
  rcases mem_append.mp hmem with hmem | hmem
  · exact hallowedFirst op hmem
  · exact hallowedSecond op hmem

lemma mono {implied : LedgerOp → Prop} (himp : ∀ op, allowed op → implied op)
    (hreaches : Reaches allowed start next) : Reaches implied start next := by
  obtain ⟨ops, hallowed, rfl⟩ := hreaches
  exact ⟨ops, fun op hmem => himp op (hallowed op hmem), rfl⟩

lemma invariant {holds : Ledger → Prop}
    (hstep : ∀ ledger op, holds ledger → allowed op → holds (ledger.step op))
    (hreaches : Reaches allowed start next) (hstart : holds start) : holds next := by
  obtain ⟨ops, hallowed, rfl⟩ := hreaches
  induction ops generalizing start with
  | nil => exact hstart
  | cons op ops ih =>
    have hop := hallowed op mem_cons_self
    exact ih (hstep start op hstart hop) fun other hmem => hallowed other (mem_cons_of_mem _ hmem)

end Reaches

end Ledger

namespace EnforcementService

variable (service : EnforcementService)

def ledger : Ledger := ⟨service.meshBlocklist, service.wal⟩

def journalOps (io : Io) (cmd : EnforceCommand) (mutation : Option PendingMeshMutation)
    (durability : WalDurability) : List LedgerOp :=
  match mutation, durability with
  | some mutation, _ => [.logged mutation io.clock]
  | none, .alreadyDurable => []
  | none, .append => [.note (commandEntry cmd io.clock.wallNs)]

def localOps (io : Io) (cmd : EnforceCommand) : List LedgerOp :=
  if cmd.cidr = none ∧ cmd.source ≠ "mesh" then
    match cmd.action with
    | .block => if service.meshHandle then [.ban io.clock cmd.ip cmd.ttlSeconds] else []
    | .unblock => [.unban io.clock io.dots cmd.ip]
  else []

def Commits (io : Io) (cmd : EnforceCommand) (mutation : Option PendingMeshMutation)
    (durability : WalDurability) : Prop :=
  service.processedResults.lookup cmd.decisionId = none ∧ cmd.ip.isUnspecified = false ∧
    ∃ walLsn journalled next,
      service.journalCommand io cmd mutation durability = .ok (walLsn, journalled) ∧
      (journalled.mergeMutation io mutation).commit io cmd = (.ok (), next)

/-! ## Ledger and transport of the parts of a command -/

variable {service} {next : EnforcementService} {io : Io} {cmd : EnforceCommand}

lemma journal_ledger {entry : WalEntry} {lsn : Option Nat}
    (hjournal : service.journal io entry = .ok (lsn, next)) :
    next.ledger = service.ledger.append entry ∧ next.meshHandle = service.meshHandle := by
  unfold journal at hjournal
  split at hjournal
  next hwal =>
    cases hjournal
    exact ⟨by simp [ledger, Ledger.append, hwal], rfl⟩
  · cases hjournal
  next wal hwal _ =>
    cases hjournal
    refine ⟨?_, rfl⟩
    simp only [ledger, Ledger.append, hwal, Option.map_some]
    rfl

lemma mergeMutation_ledger (service : EnforcementService) (io : Io)
    (mutation : PendingMeshMutation) :
    (service.mergeMutation io (some mutation)).ledger =
        service.ledger.updateMesh (mutation.mergeInto io.clock.wallMs) ∧
      (service.mergeMutation io (some mutation)).meshHandle = service.meshHandle := by
  unfold mergeMutation ledger Ledger.updateMesh PendingMeshMutation.mergeInto
  cases hmesh : service.meshBlocklist with
  | none => exact ⟨by simp [hmesh], rfl⟩
  | some mesh => cases mutation <;> exact ⟨rfl, rfl⟩

lemma journalCommand_ledger {journalled : EnforcementService}
    {mutation : Option PendingMeshMutation} {durability : WalDurability} {lsn : Option Nat}
    (hjournal : service.journalCommand io cmd mutation durability = .ok (lsn, journalled)) :
    (journalled.mergeMutation io mutation).ledger =
        run Ledger.step service.ledger (journalOps io cmd mutation durability) ∧
      (journalled.mergeMutation io mutation).meshHandle = service.meshHandle := by
  unfold journalCommand at hjournal
  cases mutation with
  | some mutation =>
    obtain ⟨hledger, hhandle⟩ := journal_ledger hjournal
    obtain ⟨hmerged, hkept⟩ := journalled.mergeMutation_ledger io mutation
    rw [hmerged, hkept, hledger, hhandle]
    exact ⟨rfl, rfl⟩
  | none =>
    rw [mergeMutation_none]
    cases durability with
    | append => exact journal_ledger hjournal
    | alreadyDurable =>
      cases hjournal
      exact ⟨rfl, rfl⟩

section

variable (service)

lemma originateBan_ledger (io : Io) (cmd : EnforceCommand) (haction : cmd.action = .block) :
    (service.originateBan io cmd).ledger =
      run Ledger.step service.ledger (service.localOps io cmd) := by
  unfold originateBan localOps
  rw [haction]
  split
  · dsimp only
    cases hmesh : service.meshBlocklist with
    | none => cases service.meshHandle <;> simp [ledger, hmesh, Ledger.step, Ledger.updateMesh]
    | some mesh =>
      cases hhandle : service.meshHandle <;> simp [ledger, hmesh, Ledger.step, Ledger.updateMesh]
  · rfl

lemma rememberResult_ledger (result : EnforceResult) :
    (service.rememberResult result).ledger = service.ledger := by
  obtain ⟨results, order, hresult⟩ := service.rememberResult_writes result
  rw [hresult]
  rfl

end

lemma commitIpBlock_ledger {clock : Clock}
    (hcommit : service.commitIpBlock clock cmd = (.ok (), next)) :
    next.ledger = service.ledger ∧ next.meshHandle = service.meshHandle := by
  unfold commitIpBlock at hcommit
  dsimp only at hcommit
  split at hcommit
  · cases hcommit
  cases hcommit
  unfold commitLease
  dsimp only
  split <;> exact ⟨rfl, rfl⟩

lemma releaseIp_ledger (haction : cmd.action = .unblock) (hcidr : cmd.cidr = none)
    (hcommit : service.releaseIp io cmd = (.ok (), next)) :
    next.ledger = run Ledger.step service.ledger (service.localOps io cmd) := by
  unfold releaseIp at hcommit
  split at hcommit
  · cases hcommit
  cases hcommit
  unfold localOps
  rw [haction, hcidr]
  by_cases hsource : cmd.source = "mesh"
  · simp only [hsource, ne_eq, not_true_eq_false, and_false, if_false]
    rfl
  · simp only [hsource, ne_eq, not_false_eq_true, and_self, if_true]
    rfl

lemma localOps_of_cidr (service : EnforcementService) {network : IpNetwork}
    (hcidr : cmd.cidr = some network) : service.localOps io cmd = [] := by
  simp [localOps, hcidr]

lemma commit_ledger (hcommit : service.commit io cmd = (.ok (), next)) :
    next.meshHandle = service.meshHandle ∧ next.ledger = run Ledger.step service.ledger
      (match cmd.action with | .block => [] | .unblock => service.localOps io cmd) := by
  unfold commit at hcommit
  split at hcommit
  next network haction hcidr =>
    cases hcommit
    rw [haction]
    unfold commitCidrBlock
    dsimp only
    split <;> exact ⟨rfl, rfl⟩
  next haction hcidr =>
    rw [haction]
    exact (commitIpBlock_ledger hcommit).symm
  next network haction hcidr =>
    cases hcommit
    rw [haction, localOps_of_cidr service hcidr]
    exact ⟨rfl, rfl⟩
  next haction hcidr =>
    rw [haction]
    obtain ⟨_, hnext⟩ := service.commit_writes io cmd
    refine ⟨?_, releaseIp_ledger haction hcidr hcommit⟩
    unfold releaseIp at hcommit
    split at hcommit <;> cases hcommit
    split <;> rfl

lemma finish_ledger (service : EnforcementService) (io : Io) (cmd : EnforceCommand)
    (walLsn : Option Nat) :
    (service.finish io cmd walLsn).ledger = run Ledger.step service.ledger
      (match cmd.action with | .block => service.localOps io cmd | .unblock => []) := by
  unfold finish
  rw [rememberResult_ledger]
  cases haction : cmd.action with
  | block => exact service.originateBan_ledger io cmd haction
  | unblock => rfl

lemma commit_finish_ledger (hcommit : service.commit io cmd = (.ok (), next))
    (walLsn : Option Nat) : (next.finish io cmd walLsn).ledger =
      run Ledger.step service.ledger (service.localOps io cmd) := by
  obtain ⟨hhandle, hledger⟩ := commit_ledger hcommit
  rw [finish_ledger, hledger]
  cases haction : cmd.action with
  | block =>
    unfold localOps
    rw [hhandle]
    rfl
  | unblock => rfl

lemma journalCommand_ok_iff {mutation : Option PendingMeshMutation} {durability : WalDurability} :
    (∃ walLsn journalled,
        service.journalCommand io cmd mutation durability = .ok (walLsn, journalled)) ↔
      (mutation = none ∧ durability = .alreadyDurable) ∨ service.wal = none ∨
        io.walFailure = none := by
  have hjournal (entry : WalEntry) : (∃ walLsn journalled,
      service.journal io entry = .ok (walLsn, journalled)) ↔
        service.wal = none ∨ io.walFailure = none := by
    unfold journal
    cases service.wal <;> cases io.walFailure <;> simp
  unfold journalCommand
  cases mutation <;> cases durability <;> simp [hjournal]

lemma updateBlockState_done (store : Store) (now : Instant) (key : IpAddr) (state : BlockState)
    (limit : Nat) : (store.updateBlockState now key state limit).1 =
      ((store.inner.lookup key).isSome || !store.refuses (sizeOfIpAddr + sizeOfEntry) limit) := by
  unfold Store.updateBlockState
  cases store.inner.lookup key with
  | none =>
    dsimp only
    split <;> simp_all
  | some entry =>
    dsimp only
    split <;> rfl

lemma clearRecord_done (service : EnforcementService) (clock : Clock) (ip : IpAddr) :
    (service.clearRecord clock ip).1 = .ok () := by
  unfold clearRecord
  split
  next record hget =>
    unfold Store.get at hget
    cases hentry : service.store.inner.lookup ip with
    | none => simp [hentry] at hget
    | some entry => simp [Store.insert, hentry]
  · rfl

lemma commit_ok_iff : (∃ next, service.commit io cmd = (.ok (), next)) ↔
    (cmd.action = .block → cmd.cidr = none → (service.store.inner.lookup cmd.ip).isSome ∨
      service.store.refuses (sizeOfIpAddr + sizeOfEntry) service.store.ramLimitBytes = false) := by
  unfold commit
  cases cmd.action with
  | block =>
    cases cmd.cidr with
    | some network => simp
    | none =>
      have hdone := updateBlockState_done service.store io.clock.mono cmd.ip
        (.blocked (reasonToBlockReason cmd.reason) io.clock.wallNs) service.store.ramLimitBytes
      unfold commitIpBlock
      dsimp only
      generalize service.store.updateBlockState io.clock.mono cmd.ip _ _ = outcome at hdone ⊢
      obtain ⟨done, store⟩ := outcome
      cases done <;> simp_all
  | unblock =>
    cases cmd.cidr with
    | some network => simp
    | none =>
      have hdone := service.clearRecord_done io.clock cmd.ip
      unfold releaseIp
      generalize service.clearRecord io.clock cmd.ip = outcome at hdone ⊢
      obtain ⟨done, store⟩ := outcome
      cases hdone
      simp

lemma commits_iff {mutation : Option PendingMeshMutation} {durability : WalDurability} :
    service.Commits io cmd mutation durability ↔
      service.processedResults.lookup cmd.decisionId = none ∧ cmd.ip.isUnspecified = false ∧
        ((mutation = none ∧ durability = .alreadyDurable) ∨ service.wal = none ∨
          io.walFailure = none) ∧
        (cmd.action = .block → cmd.cidr = none → (service.store.inner.lookup cmd.ip).isSome ∨
          service.store.refuses (sizeOfIpAddr + sizeOfEntry) service.store.ramLimitBytes =
            false) := by
  unfold Commits
  refine and_congr_right fun _ => and_congr_right fun _ => ?_
  have hstore {walLsn : Option Nat} {journalled : EnforcementService}
      (hjournal : service.journalCommand io cmd mutation durability = .ok (walLsn, journalled)) :
      (journalled.mergeMutation io mutation).store = service.store := by
    obtain ⟨_, hmerged⟩ := journalled.mergeMutation_writes io mutation
    rw [hmerged]
    obtain ⟨_, _, rfl⟩ := journalCommand_writes hjournal
    rfl
  rw [← @journalCommand_ok_iff service io cmd]
  constructor
  · rintro ⟨walLsn, journalled, next, hjournal, hcommit⟩
    refine ⟨⟨_, _, hjournal⟩, ?_⟩
    rw [← hstore hjournal]
    exact commit_ok_iff.mp ⟨_, hcommit⟩
  · rintro ⟨⟨walLsn, journalled, hjournal⟩, hroom⟩
    rw [← hstore hjournal] at hroom
    obtain ⟨next, hcommit⟩ := commit_ok_iff.mpr hroom
    exact ⟨_, _, _, hjournal, hcommit⟩

instance (service : EnforcementService) (io : Io) (cmd : EnforceCommand)
    (mutation : Option PendingMeshMutation) (durability : WalDurability) :
    Decidable (service.Commits io cmd mutation durability) :=
  decidable_of_iff _ commits_iff.symm

lemma enforceInner_ledger (service : EnforcementService) (io : Io) (cmd : EnforceCommand)
    (mutation : Option PendingMeshMutation) (durability : WalDurability) :
    (service.enforceInner io cmd mutation durability).2.ledger = service.ledger ∨
      cmd.ip.isUnspecified = false ∧
        ((service.enforceInner io cmd mutation durability).2.ledger =
            run Ledger.step service.ledger (journalOps io cmd mutation durability) ∨
          service.Commits io cmd mutation durability ∧
            (service.enforceInner io cmd mutation durability).2.ledger =
              run Ledger.step service.ledger
                (journalOps io cmd mutation durability ++ service.localOps io cmd)) := by
  have hexecuted := service.enforceInner_executed io cmd mutation durability
  generalize service.enforceInner io cmd mutation durability = outcome at hexecuted ⊢
  obtain ⟨result, next⟩ := outcome
  dsimp only at hexecuted ⊢
  cases hexecuted with
  | cached => exact .inl rfl
  | unspecified => exact .inl rfl
  | unjournalled => exact .inl rfl
  | refused hfresh hip hjournal hcommit =>
    obtain ⟨_, _, _, rfl⟩ := commit_error hcommit
    exact .inr ⟨hip, .inl (journalCommand_ledger hjournal).1⟩
  | committed hfresh hip hjournal hcommit =>
    obtain ⟨hledger, hhandle⟩ := journalCommand_ledger hjournal
    refine .inr ⟨hip, .inr ⟨⟨hfresh, hip, _, _, _, hjournal, hcommit⟩, ?_⟩⟩
    rw [commit_finish_ledger hcommit, hledger, run_append]
    unfold localOps
    rw [hhandle]

end EnforcementService

/-! ## The operations of the actor -/

def PendingMeshMutation.ip : PendingMeshMutation → IpAddr
  | .block delta => delta.ip
  | .unblock delta => delta.ip

namespace LedgerOp

def FromPeer : LedgerOp → Prop
  | .logged mutation _ => mutation.WellFormed ∧ mutation.ip.isUnspecified = false
  | _ => False

def Recorded : LedgerOp → Prop
  | .note entry => entry.isMesh = false
  | .logged mutation _ => mutation.WellFormed ∧ mutation.ip.isUnspecified = false
  | _ => False

/-- What a local command does. -/
def Own : LedgerOp → Prop
  | .note entry => entry.isMesh = false
  | .logged _ _ => False
  | .ban _ ip _ => ip.isUnspecified = false
  | .unban _ _ _ => True

def Sound : LedgerOp → Prop
  | .note entry => entry.isMesh = false
  | .logged mutation _ => mutation.WellFormed ∧ mutation.ip.isUnspecified = false
  | .ban _ ip _ => ip.isUnspecified = false
  | .unban _ _ _ => True

lemma FromPeer.recorded {op : LedgerOp} (hop : op.FromPeer) : op.Recorded := by
  cases op with
  | logged mutation clock => exact hop
  | _ => exact hop.elim

lemma Recorded.sound {op : LedgerOp} (hop : op.Recorded) : op.Sound := by
  cases op with
  | note entry => exact hop
  | logged mutation clock => exact hop
  | _ => exact hop.elim

lemma Own.sound {op : LedgerOp} (hop : op.Own) : op.Sound := by
  cases op with
  | logged mutation clock => exact hop.elim
  | _ => exact hop

end LedgerOp

namespace EnforcementService

lemma commandEntry_isMesh (cmd : EnforceCommand) (nowNs : Nat) :
    (commandEntry cmd nowNs).isMesh = false := by
  unfold commandEntry
  dsimp only
  split <;> rfl

lemma enforceInner_reaches {allowed : LedgerOp → Prop} (service : EnforcementService)
    (io : Io) (cmd : EnforceCommand) (mutation : Option PendingMeshMutation)
    (durability : WalDurability)
    (hjournal : cmd.ip.isUnspecified = false →
      ∀ op ∈ journalOps io cmd mutation durability, allowed op)
    (hlocal : service.Commits io cmd mutation durability →
      Ledger.Reaches allowed
        (run Ledger.step service.ledger (journalOps io cmd mutation durability))
        (run Ledger.step service.ledger
          (journalOps io cmd mutation durability ++ service.localOps io cmd))) :
    Ledger.Reaches allowed service.ledger
      (service.enforceInner io cmd mutation durability).2.ledger := by
  rcases service.enforceInner_ledger io cmd mutation durability with
    hsame | ⟨hip, hjournalled | ⟨hcommits, hcommitted⟩⟩
  · rw [hsame]
    exact .refl _ _
  · exact ⟨_, hjournal hip, hjournalled⟩
  · rw [hcommitted]
    exact Ledger.Reaches.trans ⟨_, hjournal hip, rfl⟩ (hlocal hcommits)

variable {cmd : EnforceCommand}

section

variable (service : EnforcementService) (io : Io)

lemma enforceInner_fromPeer (hsource : cmd.source = "mesh") {mutation : PendingMeshMutation}
    (hwf : mutation.WellFormed) (hip : mutation.ip = cmd.ip) (durability : WalDurability) :
    Ledger.Reaches LedgerOp.FromPeer service.ledger
      (service.enforceInner io cmd (some mutation) durability).2.ledger := by
  apply service.enforceInner_reaches
  · intro hspecified op hop
    cases mem_singleton.mp hop
    exact ⟨hwf, hip ▸ hspecified⟩
  · intro _
    have hnothing : service.localOps io cmd = [] := by simp [localOps, hsource]
    rw [hnothing, append_nil]
    exact .refl _ _

lemma enforceInner_durable (hsource : cmd.source = "mesh") :
    (service.enforceInner io cmd none .alreadyDurable).2.ledger = service.ledger := by
  rcases service.enforceInner_ledger io cmd none .alreadyDurable with
    hsame | ⟨_, hsame | ⟨_, hsame⟩⟩
  · exact hsame
  · exact hsame
  · simpa [journalOps, localOps, hsource] using hsame

lemma settleBlocked_ledger (ip : IpAddr) :
    (service.settleBlocked io ip).ledger = service.ledger := by
  unfold settleBlocked
  split <;> rfl

lemma settleReleased_ledger (ip : IpAddr) :
    (service.settleReleased io ip).ledger = service.ledger := by
  unfold settleReleased
  split <;> rfl

variable {delta : ClusterUnblockDelta} {mutation : PendingMeshMutation} (nowMs : Nat)

lemma enforceMesh_fromPeer (actor : String) (action : EnforceAction) (ttlSeconds : Nat)
    (changed : Bool) (hwf : mutation.WellFormed) :
    Ledger.Reaches LedgerOp.FromPeer service.ledger
      (service.enforceMesh io (meshCommand io nowMs actor mutation.ip action ttlSeconds) changed
        mutation).2.ledger := by
  unfold enforceMesh
  split
  · exact service.enforceInner_fromPeer io rfl hwf rfl _
  · rw [enforceInner_durable _ _ rfl]
    exact .refl _ _

lemma persistAndMergeUnblockOnly_fromPeer
    (hwf : (PendingMeshMutation.unblock delta).WellFormed) :
    Ledger.Reaches LedgerOp.FromPeer service.ledger
      (service.persistAndMergeUnblockOnly io delta).2.ledger := by
  unfold persistAndMergeUnblockOnly
  split
  · exact .refl _ _
  next lsn next hjournal =>
    refine ⟨[.logged (.unblock delta) io.clock], ?_, ?_⟩
    · intro op hop
      cases mem_singleton.mp hop
      exact ⟨hwf, hwf.1⟩
    · dsimp only
      rw [(next.mergeMutation_ledger io _).1, (journal_ledger hjournal).1]
      rfl

/-- A peer's operation does nothing, is recorded, or runs a command. -/
@[elab_as_elim]
lemma applyMutation_keeps {motive : EnforcementService → Prop} (hsame : motive service)
    (hrecorded : ∀ delta, mutation = .unblock delta →
      motive (service.persistAndMergeUnblockOnly io delta).2)
    (hsettle : ∀ {middle} applied ip, motive middle → motive (middle.settle applied ip))
    (hcommand : ∀ actor action ttlSeconds changed, motive ({ service with
      meshProjectionPending := insert mutation.ip service.meshProjectionPending }.enforceMesh io
        (meshCommand io nowMs actor mutation.ip action ttlSeconds) changed mutation).2) :
    motive (service.applyMutation io nowMs mutation).2 := by
  cases mutation with
  | block delta =>
    have happlied := service.applyMeshBlock_applied io nowMs delta
    change motive (service.applyMeshBlock io nowMs delta).2
    generalize service.applyMeshBlock io nowMs delta = outcome at happlied ⊢
    obtain ⟨⟨changed, result⟩, next⟩ := outcome
    dsimp only at happlied ⊢
    cases happlied with
    | projected =>
      unfold projectBlock settleBlocked
      dsimp only
      split
      · exact hsettle _ _ (hcommand ..)
      · exact hcommand ..
    | _ => exact hsame
  | unblock delta =>
    have happlied := service.applyMeshUnblock_applied io nowMs delta
    change motive (service.applyMeshUnblock io nowMs delta).2
    generalize (service.applyMeshUnblock io nowMs delta).2 = next at happlied ⊢
    cases happlied with
    | recorded => exact hrecorded delta rfl
    | released =>
      unfold projectUnblock settleReleased
      dsimp only
      split
      · exact hcommand ..
      · exact hsettle _ _ (hcommand ..)
    | _ => exact hsame

lemma applyMutation_fromPeer (hwf : mutation.WellFormed) :
    Ledger.Reaches LedgerOp.FromPeer service.ledger
      (service.applyMutation io nowMs mutation).2.ledger := by
  refine service.applyMutation_keeps io nowMs (.refl _ _) ?_ (fun _ _ hreaches => hreaches) ?_
  · rintro delta rfl
    exact service.persistAndMergeUnblockOnly_fromPeer io hwf
  · exact fun _ _ _ changed => enforceMesh_fromPeer _ io nowMs _ _ _ changed hwf

end

/-- Repairing a projection leaves the ledger alone. -/
lemma reconcileIp_ledger (ttls : List (IpAddr × Nat)) (nowMs : Nat)
    (service : EnforcementService) (io : Io) (ip : IpAddr) :
    (reconcileIp ttls nowMs service io ip).ledger = service.ledger := by
  unfold reconcileIp
  split
  · rfl
  split
  · split
    · rfl
    · rw [settleBlocked_ledger, enforceInner_durable _ _ rfl]
  · split
    · rfl
    split
    · rw [settleReleased_ledger, enforceInner_durable _ _ rfl]
    · rfl

/-! ## Local commands -/

variable (service : EnforcementService) (ios : Nat → Io) (io : Io)

lemma journalOps_append_recorded (cmd : EnforceCommand) :
    ∀ op ∈ journalOps io cmd none .append, op.Recorded := by
  intro op hop
  cases mem_singleton.mp hop
  exact commandEntry_isMesh cmd _

lemma localOps_own (hip : cmd.ip.isUnspecified = false) :
    ∀ op ∈ service.localOps io cmd, op.Own := by
  intro op hop
  unfold localOps at hop
  split at hop
  · split at hop
    · split at hop
      · cases mem_singleton.mp hop
        exact hip
      · cases hop
    · cases mem_singleton.mp hop
      trivial
  · cases hop

lemma enforce_own (cmd : EnforceCommand) :
    Ledger.Reaches LedgerOp.Own service.ledger (service.enforce io cmd).2.ledger := by
  apply service.enforceInner_reaches
  · intro _ op hop
    cases mem_singleton.mp hop
    exact commandEntry_isMesh cmd _
  · intro hcommits
    rw [run_append]
    exact ⟨_, service.localOps_own io hcommits.2.1, rfl⟩

/-- The command withdraws dots of its address without a record of it. -/
def Withdraws (service : EnforcementService) (io : Io) (cmd : EnforceCommand) : Prop :=
  service.Commits io cmd none .append ∧ cmd.action = .unblock ∧ cmd.cidr = none ∧
    cmd.source ≠ "mesh" ∧
      ∃ mesh ∈ service.meshBlocklist, ∃ key ∈ mesh.entries.keys, key.ip = cmd.ip

/-- The command originates a dot of its address once it has committed. -/
def Originates (service : EnforcementService) (cmd : EnforceCommand) : Prop :=
  cmd.action = .block ∧ cmd.cidr = none ∧ cmd.source ≠ "mesh" ∧ service.meshHandle

lemma finish_ledger_eq {service : EnforcementService} (hnone : ¬ service.Originates cmd)
    (io : Io) (walLsn : Option Nat) : (service.finish io cmd walLsn).ledger = service.ledger := by
  rw [finish_ledger]
  cases haction : cmd.action with
  | unblock => rfl
  | block =>
    have hnothing : service.localOps io cmd = [] := by
      unfold Originates at hnone
      unfold localOps
      split
      next hlocal =>
        have hdetached : ¬ service.meshHandle := fun hhandle =>
          hnone ⟨haction, hlocal.1, hlocal.2, hhandle⟩
        rw [haction]
        exact if_neg hdetached
      · rfl
    rw [hnothing]
    rfl

lemma recordUnban_of_absent {mesh : AworsetBlocklist} {ip : IpAddr}
    (habsent : ∀ key ∈ mesh.entries.keys, key.ip ≠ ip) (wallMs : Nat)
    (order : IterOrder BlockKey) : (mesh.recordUnban wallMs order ip).2 = mesh := by
  have hempty : mesh.entries.keys.filter (fun key => key.ip = ip) = ∅ :=
    Finset.filter_eq_empty_iff.mpr fun key hkey => habsent key hkey
  have hnone : order.enum (∅ : Finset BlockKey) = [] :=
    eq_nil_iff_forall_not_mem.mpr fun key hmem => Finset.notMem_empty key (order.mem_enum.mp hmem)
  simp [AworsetBlocklist.recordUnban, AworsetBlocklist.prepareUnban, hempty, hnone]

lemma secure_ledger (cmd : EnforceCommand) :
    (∃ next, service.secure io cmd = (none, next) ∧
        Ledger.Reaches LedgerOp.Recorded service.ledger next.ledger) ∨
      ∃ walLsn next, service.secure io cmd = (some walLsn, next) ∧
        service.Commits io cmd none .append ∧
        next.ledger =
          run Ledger.step (run Ledger.step service.ledger (journalOps io cmd none .append))
            (match cmd.action with | .block => [] | .unblock => service.localOps io cmd) := by
  unfold secure Commits
  cases hfresh : service.processedResults.lookup cmd.decisionId with
  | some result => exact .inl ⟨_, rfl, .refl _ _⟩
  | none =>
    cases hip : cmd.ip.isUnspecified with
    | true => exact .inl ⟨_, rfl, .refl _ _⟩
    | false =>
      dsimp only
      rw [if_neg Bool.false_ne_true]
      cases hjournal : service.journalCommand io cmd none .append with
      | error error => exact .inl ⟨_, rfl, .refl _ _⟩
      | ok journal =>
        obtain ⟨walLsn, journalled⟩ := journal
        obtain ⟨hledger, hhandle⟩ := journalCommand_ledger hjournal
        rw [mergeMutation_none] at hledger hhandle
        dsimp only
        cases hcommit : journalled.commit io cmd with
        | mk outcome next =>
          cases outcome with
          | error error =>
            obtain ⟨_, _, _, rfl⟩ := commit_error hcommit
            exact .inl ⟨_, rfl, _, journalOps_append_recorded io cmd, hledger⟩
          | ok done =>
            refine .inr ⟨walLsn, next, rfl, ⟨rfl, rfl, walLsn, journalled, next, rfl, ?_⟩, ?_⟩
            · rw [mergeMutation_none, hcommit]
            · rw [(commit_ledger hcommit).2, hledger]
              unfold localOps
              rw [hhandle]

lemma secure_recorded {service : EnforcementService} {io : Io}
    (hkeeps : ¬ service.Withdraws io cmd) :
    Ledger.Reaches LedgerOp.Recorded service.ledger (service.secure io cmd).2.ledger := by
  rcases service.secure_ledger io cmd with
    ⟨next, heq, hreaches⟩ | ⟨walLsn, next, heq, hcommits, hnext⟩
  · rw [heq]
    exact hreaches
  · refine ⟨_, journalOps_append_recorded io cmd, ?_⟩
    rw [heq, hnext]
    cases haction : cmd.action with
    | block => rfl
    | unblock =>
      dsimp only
      unfold localOps
      split
      next hlocal =>
        rw [haction]
        cases hmesh : service.meshBlocklist with
        | none => simp [journalOps, Ledger.step, Ledger.append, Ledger.updateMesh, ledger, hmesh]
        | some mesh =>
          have habsent : ∀ key ∈ mesh.entries.keys, key.ip ≠ cmd.ip := fun key hkey hip =>
            hkeeps ⟨hcommits, haction, hlocal.1, hlocal.2, mesh, hmesh, key, hkey, hip⟩
          simp [journalOps, Ledger.step, Ledger.append, Ledger.updateMesh, ledger, hmesh,
            recordUnban_of_absent habsent]
      · rfl

lemma enforce_ledger_of_unblock (haction : cmd.action = .unblock) :
    (service.enforce io cmd).2.ledger = (service.secure io cmd).2.ledger := by
  rw [enforce_eq_secure]
  obtain ⟨_ | walLsn, next⟩ := service.secure io cmd
  · rfl
  · dsimp only
    rw [finish_ledger, haction]
    rfl

/-! ### Without a log -/

section

variable {service} {io} (hwal : service.wal.isSome) (hfailure : io.walFailure.isSome)

include hwal hfailure

lemma journal_of_failure (entry : WalEntry) : ∃ error, service.journal io entry = .error error := by
  obtain ⟨wal, hwal⟩ := Option.isSome_iff_exists.mp hwal
  obtain ⟨text, hfailure⟩ := Option.isSome_iff_exists.mp hfailure
  exact ⟨.wal text, by rw [journal, hwal, hfailure]⟩

/-- A command that cannot be journalled changes nothing. -/
lemma enforceInner_of_failure {mutation : Option PendingMeshMutation} {durability : WalDurability}
    (hrecord : mutation = none → durability = .append) :
    (service.enforceInner io cmd mutation durability).2 = service := by
  have hjournal : ∃ error, service.journalCommand io cmd mutation durability = .error error := by
    unfold journalCommand
    cases mutation with
    | some mutation => exact journal_of_failure hwal hfailure _
    | none =>
      rw [hrecord rfl]
      exact journal_of_failure hwal hfailure _
  obtain ⟨error, hjournal⟩ := hjournal
  unfold enforceInner
  rw [hjournal]
  split
  · rfl
  · split <;> rfl

lemma secure_of_failure : service.secure io cmd = (none, service) := by
  obtain ⟨error, hjournal⟩ := journal_of_failure hwal hfailure (commandEntry cmd io.clock.wallNs)
  unfold secure journalCommand
  rw [hjournal]
  split
  · rfl
  · split <;> rfl

lemma applyMutation_of_failure (nowMs : Nat) (mutation : PendingMeshMutation) :
    (service.applyMutation io nowMs mutation).2.ledger = service.ledger := by
  refine service.applyMutation_keeps io nowMs rfl ?_ (fun _ _ hsame => hsame) ?_
  · intro delta _
    obtain ⟨error, hjournal⟩ := journal_of_failure hwal hfailure
      ((PendingMeshMutation.unblock delta).toWalEntry io.clock.wallNs)
    rw [persistAndMergeUnblockOnly, hjournal]
  · intro actor action ttlSeconds changed
    unfold enforceMesh
    split
    · refine (congrArg ledger (enforceInner_of_failure ?_ hfailure ?_)).trans rfl
      · exact hwal
      · nofun
    · rw [enforceInner_durable _ _ rfl]
      rfl

end

/-! ## Expiry -/

lemma expireIp_ledger (ip : IpAddr) :
    (service.expireIp io ip).ledger = (service.enforce io (ttlUnblock io ip none)).2.ledger := by
  obtain ⟨leases, hnext⟩ := service.expireIp_writes io ip
  rw [hnext]
  rfl

lemma expireCidr_ledger (network : IpNetwork) :
    (service.expireCidr io network).ledger =
      ({ service with cidrExpirations := service.cidrExpirations.erase network }.enforce io
        (ttlUnblock io network.addr (some network))).2.ledger := by
  obtain ⟨expirations, hnext⟩ := service.expireCidr_writes io network
  rw [hnext]
  rfl

/-! ## Passes -/

def dueReleases (service : EnforcementService) (ios : Nat → Io) : List (Io × IpAddr) :=
  scheduled ios 0 (service.leases.drainDue (((ios 0).clock.mono - service.epoch) / secNs)).1

def drained (service : EnforcementService) (ios : Nat → Io) : EnforcementService :=
  { service with
    leases := (service.leases.drainDue (((ios 0).clock.mono - service.epoch) / secNs)).2 }

def expireStep (service : EnforcementService) (pair : Io × IpAddr) : EnforcementService :=
  service.expireIp pair.1 pair.2

def released (service : EnforcementService) (ios : Nat → Io) : EnforcementService :=
  run expireStep (service.drained ios) (service.dueReleases ios)

lemma expireDue_eq_run (networks : IterOrder IpNetwork) : ∃ cidrs : List (Io × IpNetwork),
      service.expireDue ios networks =
        run (fun service pair => service.expireCidr pair.1 pair.2) (service.released ios)
          cidrs := by
  unfold expireDue
  dsimp only
  rw [eachDue_eq_run, eachDue_eq_run]
  exact ⟨_, rfl⟩

end EnforcementService

end RamShield
