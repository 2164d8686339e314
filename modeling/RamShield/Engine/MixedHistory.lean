import RamShield.Enforcement.Outcome
import RamShield.Engine.MeshReplay

/-! # Histories of local commands and peer operations

A log with records of both kinds is recovered in two passes, and an address with
any mesh record is decided by the mesh fold alone. The actor takes the same
decisions in the order in which they arrive. The two agree as long as every
decision also has its effect in the fold that is consulted for its address, and a
local decision on an address with mesh records never enters that fold.
-/

namespace RamShield

open Foundation Foundation.Machine EnforcementService Replay List Option AworsetBlocklist Register

/-! ## What a record does to the question put to the log -/

def PendingMeshMutation.foldOp : PendingMeshMutation → Register.Op ActiveMeshDot
  | .block delta => .add delta.dot.counter
      { counter := delta.dot.counter
        sinceNs := satMul delta.createdAtMs msNs
        deadlineNs := (if delta.expiresAtMs = u64Max then none else some delta.expiresAtMs).map
          fun ms => satMul ms msNs
        tier := delta.tier }
  | .unblock delta => .remove delta.dot.counter

namespace Replay

lemma meshFold_commandEntry (log : List WalEntry) (cmd : EnforceCommand) (nowNs : Nat) :
    meshFold (log ++ [commandEntry cmd nowNs]) = meshFold log := by
  rw [meshFold_append]
  unfold commandEntry
  dsimp only
  split <;> rfl

/-- A local record decides for an address without a mesh record. -/
lemma blocks_commandEntry (log : List WalEntry) (cmd : EnforceCommand) (nowNs : Nat)
    (ip : IpAddr) :
    Blocks (log ++ [commandEntry cmd nowNs]) ip ↔
      if cmd.cidr = none ∧ ip = cmd.ip ∧ ip ∉ (meshFold log).touched then cmd.action = .block
      else Blocks log ip := by
  unfold Blocks
  rw [meshFold_commandEntry, foldl_append, foldl_cons, foldl_nil]
  by_cases htouched : ip ∈ (meshFold log).touched
  · simp [htouched]
  · unfold commandEntry
    cases cmd.cidr with
    | some network => cases cmd.action <;> simp [htouched, foldIp]
    | none =>
      by_cases hip : ip = cmd.ip
      · subst hip
        cases cmd.action <;> simp [htouched, foldIp]
      · cases cmd.action <;>
          simp [htouched, hip, foldIp, Finmap.lookup_insert_of_ne _ hip, Finmap.lookup_erase_ne hip]

section Logged

variable {mutation : PendingMeshMutation} (hwf : mutation.WellFormed)
  (hip : mutation.ip.isUnspecified = false) (log : List WalEntry) (tsNs : Nat)

include hwf hip

lemma meshFold_logged : ∃ record,
    meshFold (log ++ [mutation.toWalEntry tsNs]) =
        applyMutation (meshFold log) mutation.key record ∧
      record.originCounter ≠ 0 ∧ dotOp record = mutation.foldOp := by
  obtain ⟨record, hrecord, hkey, _⟩ := mutation.toWalEntry_checked hwf hip tsNs
  refine ⟨record, ?_, (checkMutation_ok hkey).2.1, ?_⟩
  · rw [meshFold_append, hrecord, foldMeshEntry, hkey]
  · cases mutation <;> cases hrecord <;> rfl

lemma register_logged (key : BlockKey) :
    (meshFold (log ++ [mutation.toWalEntry tsNs])).register key =
      if key = mutation.key then ((meshFold log).register key).apply mutation.foldOp
      else (meshFold log).register key := by
  obtain ⟨record, hfold, hcounter, hop⟩ := meshFold_logged hwf hip log tsNs
  rw [hfold, register_applyMutation _ _ hcounter, hop]

lemma touched_logged :
    (meshFold (log ++ [mutation.toWalEntry tsNs])).touched =
      insert mutation.ip (meshFold log).touched := by
  obtain ⟨record, hfold, _⟩ := meshFold_logged hwf hip log tsNs
  rw [hfold, touched_applyMutation]
  cases mutation <;> rfl

lemma blocks_logged_of_ne {ip : IpAddr} (hne : ip ≠ mutation.ip) :
    Blocks (log ++ [mutation.toWalEntry tsNs]) ip ↔ Blocks log ip := by
  have htouched : ip ∈ (meshFold (log ++ [mutation.toWalEntry tsNs])).touched ↔
      ip ∈ (meshFold log).touched := by
    rw [touched_logged hwf hip, Finset.mem_insert, or_iff_right hne]
  have hactive : (meshFold (log ++ [mutation.toWalEntry tsNs])).Active ip ↔
      (meshFold log).Active ip := by
    unfold MeshFold.Active
    simp only [MeshFold.mem_active_iff]
    apply exists_congr
    intro key
    refine and_congr_left fun hkey => ?_
    have hother : key ≠ mutation.key := by
      rintro rfl
      apply hne
      rw [← hkey]
      cases mutation <;> rfl
    rw [register_logged hwf hip, if_neg hother]
  have hlocal : (log ++ [mutation.toWalEntry tsNs]).foldl foldIp ∅ = log.foldl foldIp ∅ := by
    rw [foldl_append]
    cases mutation <;> rfl
  unfold Blocks
  rw [hlocal]
  by_cases hmem : ip ∈ (meshFold log).touched
  · rw [if_pos hmem, if_pos (htouched.mpr hmem), hactive]
  · rw [if_neg hmem, if_neg (htouched.not.mpr hmem)]

end Logged

lemma active_logged_block {delta : ClusterBlockDelta}
    (hwf : (PendingMeshMutation.block delta).WellFormed)
    (hip : delta.ip.isUnspecified = false) {log : List WalEntry} (tsNs : Nat)
    (hfresh : ¬ ((meshFold log).register delta.key).superseded delta.dot.counter) :
    (meshFold (log ++ [(PendingMeshMutation.block delta).toWalEntry tsNs])).Active delta.ip := by
  refine ⟨delta.key, ?_, rfl⟩
  have hkey : delta.key = (PendingMeshMutation.block delta).key := rfl
  rw [MeshFold.mem_active_iff, register_logged hwf hip, if_pos hkey]
  dsimp only [PendingMeshMutation.foldOp, Register.apply]
  rw [add_eq, if_neg hfresh]
  exact ⟨_, rfl⟩

/-- The address of a tombstone has an active dot that the tombstone does not
cover. -/
def MeshFold.ActiveBeside (fold : MeshFold) (delta : ClusterUnblockDelta) : Prop :=
  ∃ key ∈ fold.active.keys, ∃ dot ∈ fold.active.lookup key,
    key.ip = delta.ip ∧ ¬ (key = delta.key ∧ dot.counter ≤ delta.dot.counter)

instance (fold : MeshFold) (delta : ClusterUnblockDelta) : Decidable (fold.ActiveBeside delta) :=
  inferInstanceAs (Decidable (∃ key ∈ fold.active.keys, ∃ dot ∈ fold.active.lookup key, _))

lemma active_logged_unblock {delta : ClusterUnblockDelta}
    (hwf : (PendingMeshMutation.unblock delta).WellFormed) (log : List WalEntry)
    (tsNs : Nat) :
    (meshFold (log ++ [(PendingMeshMutation.unblock delta).toWalEntry tsNs])).Active delta.ip ↔
      (meshFold log).ActiveBeside delta := by
  unfold MeshFold.Active MeshFold.ActiveBeside
  simp only [MeshFold.mem_active_iff, register_logged hwf hwf.1, mem_def]
  refine exists_congr fun key => ?_
  have hlive (value : Nat × ActiveMeshDot) : ((meshFold log).register key).live = some value ↔
      ∃ dot, (meshFold log).active.lookup key = some dot ∧ (dot.counter, dot) = value :=
    map_eq_some_iff
  split
  next hkey =>
    dsimp only [PendingMeshMutation.foldOp, Register.apply]
    simp only [live_remove, hlive]
    constructor
    · rintro ⟨⟨_, ⟨dot, hdot, rfl⟩, habove⟩, hip⟩
      exact ⟨⟨_, dot, hdot, rfl⟩, dot, hdot, hip, fun hcovered => Nat.not_lt.mpr hcovered.2 habove⟩
    · rintro ⟨_, dot, hdot, hip, hbeside⟩
      exact ⟨⟨_, ⟨dot, hdot, rfl⟩, Nat.lt_of_not_le fun hle => hbeside ⟨hkey, hle⟩⟩, hip⟩
  next hkey =>
    simp only [hlive]
    constructor
    · rintro ⟨⟨_, dot, hdot, rfl⟩, hip⟩
      exact ⟨⟨_, dot, hdot, rfl⟩, dot, hdot, hip, fun hcovered => hkey hcovered.1⟩
    · rintro ⟨hvalue, _, _, hip, _⟩
      exact ⟨hvalue, hip⟩

end Replay

/-! ## The blocklist is ahead of the log -/

namespace AworsetBlocklist

variable {set : AworsetBlocklist} {key : BlockKey} {counter : Nat}

section

variable (hsuperseded : (set.register key).superseded counter) (wallMs : Nat)

include hsuperseded

lemma superseded_mergeDelta (delta : ClusterBlockDelta) :
    ((set.mergeDelta wallMs delta).2.register key).superseded counter := by
  rw [register_mergeDelta]
  split
  · exact (superseded_add _ _ _ _).mpr (.inl hsuperseded)
  · exact hsuperseded

lemma superseded_mergeUnblockDelta (delta : ClusterUnblockDelta) :
    ((set.mergeUnblockDelta wallMs delta).2.register key).superseded counter := by
  rw [register_mergeUnblockDelta]
  split
  · exact (superseded_remove _ _ _).mpr (.inl hsuperseded)
  · exact hsuperseded

lemma superseded_recordBan (ip : IpAddr) (ttlMs tier : Nat) :
    ((set.recordBan wallMs ip ttlMs tier).2.register key).superseded counter := by
  have hprepared : ((set.prepareBan wallMs ip ttlMs tier).2.register key).superseded counter =
      true := hsuperseded
  exact superseded_mergeDelta hprepared wallMs (set.prepareBan wallMs ip ttlMs tier).1

lemma superseded_recordUnban (order : IterOrder BlockKey) (ip : IpAddr) :
    ((set.recordUnban wallMs order ip).2.register key).superseded counter := by
  unfold recordUnban
  dsimp only
  generalize set.prepareUnban order ip = deltas
  induction deltas generalizing set with
  | nil => exact hsuperseded
  | cons delta deltas ih => exact ih (superseded_mergeUnblockDelta hsuperseded wallMs delta)

end

end AworsetBlocklist

namespace Ledger

def log (ledger : Ledger) : List WalEntry := (ledger.wal.map Wal.log).getD []

/-- What the records of a key supersede, the blocklist supersedes. -/
def Ahead (ledger : Ledger) : Prop :=
  ∀ mesh, ledger.mesh = some mesh → ∀ key counter,
    ((meshFold ledger.log).register key).superseded counter = true →
      (mesh.register key).superseded counter = true

variable {ledger : Ledger}

lemma log_append (hwal : ledger.wal.isSome) (entry : WalEntry) :
    (ledger.append entry).log = ledger.log ++ [entry] := by
  obtain ⟨wal, hwal⟩ := isSome_iff_exists.mp hwal
  simp [log, append, hwal, Wal.append]

lemma log_updateMesh (ledger : Ledger) (update : AworsetBlocklist → AworsetBlocklist) :
    (ledger.updateMesh update).log = ledger.log := rfl

lemma Ahead.updateMesh (hahead : ledger.Ahead) {update : AworsetBlocklist → AworsetBlocklist}
    (hupdate : ∀ (mesh : AworsetBlocklist) key counter,
      (mesh.register key).superseded counter → ((update mesh).register key).superseded counter) :
    (ledger.updateMesh update).Ahead := by
  intro mesh hmesh key counter hsuperseded
  obtain ⟨old, hold, rfl⟩ := map_eq_some_iff.mp hmesh
  exact hupdate old key counter (hahead old hold key counter hsuperseded)

lemma Ahead.step (hahead : ledger.Ahead) (hwal : ledger.wal.isSome) {op : LedgerOp}
    (hop : op.Sound) : (ledger.step op).Ahead := by
  cases op with
  | note entry =>
    intro mesh hmesh key counter hsuperseded
    have hfold : meshFold (ledger.append entry).log = meshFold ledger.log := by
      rw [log_append hwal, meshFold_append]
      cases entry with
      | meshMutation record => cases hop
      | _ => rfl
    rw [Ledger.step, hfold] at hsuperseded
    exact hahead mesh hmesh key counter hsuperseded
  | logged mutation clock =>
    intro mesh hmesh key counter hsuperseded
    obtain ⟨old, hold, rfl⟩ := map_eq_some_iff.mp hmesh
    rw [Ledger.step, log_updateMesh, log_append hwal, register_logged hop.1 hop.2] at hsuperseded
    rw [PendingMeshMutation.register_mergeInto hop.1]
    split at hsuperseded
    next hkey =>
      have hcounter : mutation.foldOp.counter = mutation.op.counter := by cases mutation <;> rfl
      rw [if_pos hkey, superseded_apply, ← hcounter]
      exact ((superseded_apply _ _ _).mp hsuperseded).imp_left (hahead old hold key counter)
    next hkey =>
      rw [if_neg hkey]
      exact hahead old hold key counter hsuperseded
  | ban clock ip ttlSeconds =>
    exact hahead.updateMesh fun _ _ _ hold => superseded_recordBan hold _ ip _ 2
  | unban clock dots ip =>
    exact hahead.updateMesh fun _ _ _ hold => superseded_recordUnban hold _ dots ip

structure Coherent (ledger : Ledger) : Prop where
  valid : ledger.Valid
  present : ledger.wal.isSome ∧ ledger.mesh.isSome
  ahead : ledger.Ahead

lemma Coherent.step (hcoherent : ledger.Coherent) {op : LedgerOp} (hop : op.Sound) :
    (ledger.step op).Coherent where
  valid := hcoherent.valid.step hop
  present := ledger.step_present op hcoherent.present
  ahead := hcoherent.ahead.step hcoherent.present.1 hop

end Ledger

/-! ## Histories -/

/-- A local command, or an operation of a peer that the transport admitted. -/
inductive HistoryStep
  | command (io : Io) (cmd : EnforceCommand)
  | peer (io : Io) (nowMs : Nat)
      (operation : {mutation : PendingMeshMutation // mutation.WellFormed})

namespace HistoryStep

variable (service : EnforcementService)

def step : HistoryStep → EnforcementService
  | .command io cmd => (service.enforce io cmd).2
  | .peer io nowMs operation => (service.applyMutation io nowMs operation).2

def StoreAccepts : HistoryStep → Prop
  | .command io cmd => ∀ message, (service.enforce io cmd).1 ≠ .error (.storage message)
  | .peer io nowMs operation => ∀ message,
      (service.applyMutation io nowMs operation).1.2 ≠ .error (.storage message)

/-- The decision has the same effect live and in the log. A local one on an address with mesh
records is what the mesh fold says, a block without a new record finds its address blocked, and a
tombstone releases exactly if its record takes the last active dot. -/
def Compatible : HistoryStep → Prop
  | .command io cmd =>
    service.Commits io cmd none .append → cmd.cidr = none →
      cmd.ip ∈ (meshFold service.ledger.log).touched →
        (cmd.action = .block ↔ (meshFold service.ledger.log).Active cmd.ip)
  | .peer io nowMs ⟨.block delta, _⟩ =>
    ∀ mesh, service.Passes mesh nowMs delta → mesh.needsMergeDelta delta = false →
      service.Projects io (blockCommand io nowMs delta) false
        (.block delta) →
        (service.address delta.ip).blocked = true
  | .peer io nowMs ⟨.unblock delta, _⟩ =>
    ∀ mesh, service.meshBlocklist = some mesh →
      if mesh.wouldBeBlockedAfterUnblock delta nowMs ∨
          (service.address delta.ip).applied = false then
        mesh.needsMergeUnblock delta = true →
          ((service.address delta.ip).blocked = true ↔
            (meshFold service.ledger.log).ActiveBeside delta)
      else
        service.Projects io (unblockCommand io nowMs delta)
          (mesh.needsMergeUnblock delta) (.unblock delta) →
          if mesh.needsMergeUnblock delta then
            ¬ (meshFold service.ledger.log).ActiveBeside delta
          else (service.address delta.ip).blocked = false

end HistoryStep

def Agree (addresses : IpAddr → AddressState) (log : List WalEntry) : Prop :=
  ∀ ip, (addresses ip).blocked = true ↔ Blocks log ip

variable {addresses : IpAddr → AddressState} {ip : IpAddr} {state : AddressState}

lemma Agree.update {log longer : List WalEntry} (hagree : Agree addresses log)
    (hother : ∀ other, other ≠ ip → (Blocks longer other ↔ Blocks log other))
    (hown : state.blocked ↔ Blocks longer ip) :
    Agree (Function.update addresses ip state) longer := by
  intro other
  by_cases heq : other = ip
  · subst heq
    rw [Function.update_self]
    exact hown
  · rw [Function.update_of_ne heq, hother other heq]
    exact hagree other

lemma Agree.mark {log : List WalEntry} (hagree : Agree addresses log)
    (hblocked : state.blocked = (addresses ip).blocked) :
    Agree (Function.update addresses ip state) log := by
  apply hagree.update (fun _ _ => Iff.rfl)
  rw [hblocked]
  exact hagree ip

namespace EnforcementService

lemma log_localOps (service : EnforcementService) (io : Io) (cmd : EnforceCommand)
    (ledger : Ledger) : (run Ledger.step ledger (service.localOps io cmd)).log = ledger.log := by
  unfold localOps
  split
  · split
    · split
      · exact ledger.log_updateMesh _
      · rfl
    · exact ledger.log_updateMesh _
  · rfl

lemma log_meshOps {ledger : Ledger} (hwal : ledger.wal.isSome) (io : Io)
    (changed : Bool) (mutation : PendingMeshMutation) :
    (run Ledger.step ledger (meshOps io changed mutation)).log =
      if changed then ledger.log ++ [mutation.toWalEntry io.clock.wallNs] else ledger.log := by
  cases changed with
  | true => exact Ledger.log_append hwal _
  | false => rfl

/-- The live block state is what the log says. -/
structure Reflected (service : EnforcementService) : Prop where
  regular : service.Regular
  coherent : service.ledger.Coherent
  agree : Agree service.address service.ledger.log

lemma Leaves.reflected {service next : EnforcementService} {ops : List LedgerOp}
    (hleaves : service.Leaves addresses ops next) (hcoherent : next.ledger.Coherent)
    (hagree : Agree addresses (run Ledger.step service.ledger ops).log) : next.Reflected :=
  ⟨hleaves.regular, hcoherent, by rwa [hleaves.address, hleaves.ledger]⟩

namespace Reflected

variable {service : EnforcementService} (hreflected : service.Reflected)

include hreflected

variable {io : Io}
variable {nowMs : Nat} {cmd : EnforceCommand} {delta : ClusterUnblockDelta}

lemma agree_command
    (hcompatible : cmd.cidr = none → cmd.ip ∈ (meshFold service.ledger.log).touched →
      (cmd.action = .block ↔ (meshFold service.ledger.log).Active cmd.ip)) :
    Agree (service.afterCommand io.clock cmd)
      (service.ledger.log ++ [commandEntry cmd io.clock.wallNs]) := by
  have hblocks := blocks_commandEntry service.ledger.log cmd io.clock.wallNs
  unfold afterCommand
  cases hcidr : cmd.cidr with
  | some network =>
    intro ip
    rw [hblocks, if_neg (by simp [hcidr])]
    exact hreflected.agree ip
  | none =>
    apply hreflected.agree.update
    · intro other hother
      rw [hblocks, if_neg fun hcondition => hother hcondition.2.1]
    · have heffect : (service.effect io.clock cmd (service.address cmd.ip)).blocked ↔
          cmd.action = .block := by
        unfold effect
        cases cmd.action <;> simp [AddressState.block, AddressState.unblock]
      rw [heffect, hblocks]
      by_cases htouched : cmd.ip ∈ (meshFold service.ledger.log).touched
      · rw [if_neg fun hcondition => hcondition.2.2 htouched, hcompatible hcidr htouched]
        unfold Blocks
        rw [if_pos htouched]
      · rw [if_pos ⟨hcidr, rfl, htouched⟩]

lemma command (haccepts : HistoryStep.StoreAccepts service (.command io cmd))
    (hcompatible : HistoryStep.Compatible service (.command io cmd)) :
    (service.enforce io cmd).2.Reflected := by
  have hcoherent := (service.enforce_own io cmd).invariant
    (fun _ _ hledger hop => hledger.step hop.sound) hreflected.coherent
  have houtcome := enforceInner_outcome hreflected.regular io cmd none .append
  change ∀ message, (service.enforceInner io cmd none .append).1 ≠ _ at haccepts
  unfold enforce at hcoherent ⊢
  generalize service.enforceInner io cmd none .append = outcome at haccepts hcoherent houtcome ⊢
  obtain ⟨result, next⟩ := outcome
  dsimp only at haccepts hcoherent houtcome ⊢
  cases houtcome with
  | answered _ _ => exact hreflected
  | rejected _ _ _ => exact hreflected
  | refused _ _ _ _ => exact absurd rfl (haccepts _)
  | committed hcommits hleaves =>
    refine hleaves.reflected hcoherent ?_
    have hlog : (run Ledger.step service.ledger (journalOps io cmd none .append)).log =
        service.ledger.log ++ [commandEntry cmd io.clock.wallNs] :=
      Ledger.log_append hreflected.coherent.present.1 _
    rw [run_append, log_localOps, hlog]
    exact hreflected.agree_command (hcompatible hcommits)

lemma agree_logged {mutation : PendingMeshMutation} (hwf : mutation.WellFormed)
    (hip : mutation.ip.isUnspecified = false) (tsNs : Nat)
    (hblocked : state.blocked ↔
      (meshFold (service.ledger.log ++ [mutation.toWalEntry tsNs])).Active mutation.ip) :
    Agree (Function.update service.address mutation.ip state)
      (service.ledger.log ++ [mutation.toWalEntry tsNs]) := by
  apply hreflected.agree.update
  · exact fun _ hother => blocks_logged_of_ne hwf hip _ tsNs hother
  · rw [Blocks, touched_logged hwf hip, if_pos (Finset.mem_insert_self _ _)]
    exact hblocked

lemma agree_newBlock {mesh : AworsetBlocklist} (hmesh : service.meshBlocklist = some mesh)
    {delta : ClusterBlockDelta} (hwf : (PendingMeshMutation.block delta).WellFormed)
    (hip : delta.ip.isUnspecified = false) (hneeded : mesh.needsMergeDelta delta)
    (hblocked : state.blocked) (tsNs : Nat) :
    Agree (Function.update service.address delta.ip state)
      (service.ledger.log ++ [(PendingMeshMutation.block delta).toWalEntry tsNs]) := by
  refine hreflected.agree_logged hwf hip tsNs (iff_of_true hblocked ?_)
  exact active_logged_block hwf hip tsNs fun hold =>
    (needsMergeDelta_iff.mp hneeded).2 (hreflected.coherent.ahead mesh hmesh _ _ hold)

lemma agree_tombstone (hwf : (PendingMeshMutation.unblock delta).WellFormed)
    (hblocked : state.blocked ↔ (meshFold service.ledger.log).ActiveBeside delta) (tsNs : Nat) :
    Agree (Function.update service.address delta.ip state)
      (service.ledger.log ++ [(PendingMeshMutation.unblock delta).toWalEntry tsNs]) :=
  hreflected.agree_logged hwf hwf.1 tsNs (hblocked.trans (active_logged_unblock hwf _ tsNs).symm)

lemma peer_coherent {mutation : PendingMeshMutation} (hwf : mutation.WellFormed) :
    (service.applyMutation io nowMs mutation).2.ledger.Coherent :=
  (service.applyMutation_fromPeer io nowMs hwf).invariant
    (fun _ _ hledger hop => hledger.step hop.recorded.sound) hreflected.coherent

lemma peerBlock {delta : ClusterBlockDelta}
    (hwf : (PendingMeshMutation.block delta).WellFormed)
    (haccepts : HistoryStep.StoreAccepts service (.peer io nowMs ⟨.block delta, hwf⟩))
    (hcompatible : HistoryStep.Compatible service (.peer io nowMs ⟨.block delta, hwf⟩)) :
    (service.applyMeshBlock io nowMs delta).2.Reflected := by
  have hcoherent : (service.applyMeshBlock io nowMs delta).2.ledger.Coherent :=
    hreflected.peer_coherent hwf
  have houtcome := applyMeshBlock_outcome hreflected.regular io nowMs delta
  change ∀ message, (service.applyMeshBlock io nowMs delta).1.2 ≠ _ at haccepts
  generalize service.applyMeshBlock io nowMs delta = outcome at haccepts hcoherent houtcome ⊢
  obtain ⟨⟨changed, result⟩, next⟩ := outcome
  dsimp only at haccepts hcoherent houtcome ⊢
  cases houtcome with
  | ignored _ _ => exact hreflected
  | idle _ _ hleaves => exact hleaves.reflected hcoherent (hreflected.agree.mark (by simp))
  | refused _ _ _ => exact absurd rfl (haccepts _)
  | @projected mesh _ _ hpasses hprojects hleaves =>
    refine hleaves.reflected hcoherent ?_
    rw [log_meshOps hreflected.coherent.present.1]
    cases hneeded : mesh.needsMergeDelta delta with
    | true =>
      rw [hneeded] at hprojects
      exact hreflected.agree_newBlock hpasses.blocklist hwf hprojects.2.1 hneeded rfl _
    | false =>
      rw [hneeded] at hprojects
      exact hreflected.agree.mark (hcompatible mesh hpasses hneeded hprojects).symm

lemma peerUnblock (hwf : (PendingMeshMutation.unblock delta).WellFormed)
    (hcompatible : HistoryStep.Compatible service (.peer io nowMs ⟨.unblock delta, hwf⟩)) :
    (service.applyMeshUnblock io nowMs delta).2.Reflected := by
  have hcoherent : (service.applyMeshUnblock io nowMs delta).2.ledger.Coherent :=
    hreflected.peer_coherent hwf
  have houtcome := applyMeshUnblock_outcome hreflected.regular io nowMs delta
  generalize (service.applyMeshUnblock io nowMs delta).2 = next at hcoherent houtcome ⊢
  have hwal := hreflected.coherent.present.1
  -- Only a recorded tombstone and a release change the log or the state of the address.
  cases houtcome with
  | meshless _ _ => exact hreflected
  | unneeded _ _ _ => exact hreflected
  | unrecorded _ _ _ => exact hreflected
  | @recorded mesh _ hmesh hneeded hkept hleaves =>
    refine hleaves.reflected hcoherent ?_
    have hstays := hcompatible mesh hmesh
    rw [if_pos hkept] at hstays
    have hlog : (run Ledger.step service.ledger [.logged (.unblock delta) io.clock]).log =
        service.ledger.log ++ [(PendingMeshMutation.unblock delta).toWalEntry
          io.clock.wallNs] := Ledger.log_append hwal _
    rw [hlog]
    have hagree := hreflected.agree_tombstone hwf (hstays hneeded) io.clock.wallNs
    rwa [Function.update_eq_self] at hagree
  | idle _ _ _ _ hleaves => exact hleaves.reflected hcoherent (hreflected.agree.mark (by simp))
  | @released mesh _ hmesh hfree happlied hprojects hleaves =>
    refine hleaves.reflected hcoherent ?_
    have hreleases := hcompatible mesh hmesh
    rw [if_neg (by simp [hfree, happlied])] at hreleases
    have hreleases := hreleases hprojects
    rw [log_meshOps hwal]
    cases hneeded : mesh.needsMergeUnblock delta with
    | true =>
      rw [hneeded, if_pos rfl] at hreleases
      exact hreflected.agree_tombstone hwf (iff_of_false (by simp [afterUnblock]) hreleases) _
    | false =>
      rw [hneeded, if_neg (by simp)] at hreleases
      exact hreflected.agree.mark hreleases.symm

end Reflected

end EnforcementService

/-! ## Recovery -/

/-- Recovery without a snapshot gives back the live state while no record has expired, in any hash
orders, into an empty store with room. -/
def RecoversUnexpired (service : EnforcementService) : Prop :=
  ∃ wal, service.wal = some wal ∧
    ∀ (clock : Clock) (ips : IterOrder IpAddr) (dots : IterOrder BlockKey) (ramLimitMb : Nat),
      Unexpired wal.log clock.wallNs →
      Room (Store.new.setRamLimitMb ramLimitMb) wal.log.length → ∃ restored recovered,
          replayWalIntoStoreSeeded clock ips dots (Store.new.setRamLimitMb ramLimitMb) wal
            0 ∅ none = (.ok restored, recovered) ∧
          ∀ ip, recovered.holds ip = service.store.holds ip

lemma EnforcementService.Reflected.recovers {service : EnforcementService}
    (hreflected : service.Reflected) : RecoversUnexpired service := by
  obtain ⟨wal, hwal⟩ := isSome_iff_exists.mp hreflected.coherent.present.1
  refine ⟨wal, hwal, ?_⟩
  intro clock ips dots ramLimitMb hunexpired hroom
  have hchecked : Checked wal.log := hreflected.coherent.valid.log hwal
  obtain ⟨restored, recovered, hreplay, hholds⟩ := hchecked.replay hunexpired ips dots hroom
  refine ⟨restored, recovered, hreplay, fun ip => ?_⟩
  have hlog : service.ledger.log = wal.log := by simp [Ledger.log, hwal]
  have hlive := hreflected.agree ip
  rw [hlog] at hlive
  exact Bool.eq_iff_iff.mpr ((hholds ip).trans hlive.symm)

namespace HistoryStep

lemma step_reflected (service : EnforcementService) (action : HistoryStep)
    (hreflected : service.Reflected)
    (hallowed : StoreAccepts service action ∧ Compatible service action) :
    (step service action).Reflected := by
  obtain ⟨haccepts, hcompatible⟩ := hallowed
  cases action with
  | command io cmd => exact hreflected.command haccepts hcompatible
  | peer io nowMs operation =>
    obtain ⟨mutation, hwf⟩ := operation
    cases mutation with
    | block delta => exact hreflected.peerBlock hwf haccepts hcompatible
    | unblock delta => exact hreflected.peerUnblock hwf hcompatible

lemma newMesh_reflected (ramLimitMb : Nat) (epoch : Instant) (nodeId : Nat)
    (incarnation : Uuid) (attached : Bool) :
    (newMesh (Store.new.setRamLimitMb ramLimitMb) epoch nodeId incarnation attached).Reflected where
  regular := ⟨Store.plain_of_empty rfl, DeadlineQueue.empty_wellFormed⟩
  coherent := ⟨newMesh_valid _ epoch nodeId incarnation attached, ⟨rfl, rfl⟩, by
    intro mesh _ key counter hsuperseded
    cases hsuperseded⟩
  agree := by
    intro ip
    have hempty : (Store.new.setRamLimitMb ramLimitMb).inner = ∅ := rfl
    have hfree := Store.holds_of_empty hempty ip
    refine iff_of_false (fun hblocked => ?_) fun hblocks => ?_
    · cases hfree.symm.trans hblocked
    · cases hblocks.named

/-- In every history whose decisions are compatible and find room in the store,
recovery gives back the live block state at every point. -/
theorem recovers_mixed (ramLimitMb : Nat) (epoch : Instant) (nodeId : Nat) (incarnation : Uuid)
    (attached : Bool) (steps : List HistoryStep)
    (haccepts : Respects step StoreAccepts (EnforcementService.newMesh
      (Store.new.setRamLimitMb ramLimitMb) epoch nodeId incarnation attached) steps)
    (hcompatible : Respects step Compatible (EnforcementService.newMesh
      (Store.new.setRamLimitMb ramLimitMb) epoch nodeId incarnation attached) steps) :
    Along step RecoversUnexpired (EnforcementService.newMesh
      (Store.new.setRamLimitMb ramLimitMb) epoch nodeId incarnation attached) steps := by
  have hstart := newMesh_reflected ramLimitMb epoch nodeId incarnation attached
  exact (Along.of_respects step_reflected hstart (haccepts.and hcompatible)).mono
    fun _ hreflected => hreflected.recovers

/-- A step that succeeds was not refused by the store. -/
lemma ne_storage_of_isOk {Result : Type} {result : Except EnforcementError Result}
    (hok : result.isOk) (message : String) : result ≠ .error (.storage message) := by
  rintro rfl
  cases hok

variable {service : EnforcementService} {io : Io} {nowMs : Nat}

lemma compatible_newBlock {delta : ClusterBlockDelta}
    {hwf : (PendingMeshMutation.block delta).WellFormed}
    (hneeded : (service.meshBlocklist.all fun mesh => mesh.needsMergeDelta delta)) :
    Compatible service (.peer io nowMs ⟨.block delta, hwf⟩) := by
  intro mesh hpasses hunneeded _
  rw [hpasses.blocklist, all_some, hunneeded] at hneeded
  cases hneeded

lemma compatible_lastDot {delta : ClusterUnblockDelta}
    {hwf : (PendingMeshMutation.unblock delta).WellFormed}
    (hreleases : (service.meshBlocklist.all fun mesh => mesh.needsMergeUnblock delta &&
      !decide (mesh.wouldBeBlockedAfterUnblock delta nowMs) && (service.address delta.ip).applied))
    (hlast : ¬ (meshFold service.ledger.log).ActiveBeside delta) :
    Compatible service (.peer io nowMs ⟨.unblock delta, hwf⟩) := by
  intro mesh hmesh
  rw [hmesh, all_some] at hreleases
  simp only [Bool.and_eq_true, Bool.not_eq_true', decide_eq_false_iff_not] at hreleases
  obtain ⟨⟨hneeded, hfree⟩, happlied⟩ := hreleases
  rw [if_neg (by simp [hfree, happlied]), if_pos hneeded]
  exact fun _ => hlast

/-- A local block, a peer's block of another address and its tombstone. -/
theorem recovers_mixed_disjoint :
    let start := EnforcementService.newMesh (Store.new.setRamLimitMb 64) 0 1 1 true
    let steps : List HistoryStep :=
      [.command (.at ⟨0, 0⟩ 1) (.operator 1 .block (.v4 1) 0),
        .peer (.at ⟨0, 0⟩ 2) 0 ⟨.block ⟨.v4 2, ⟨2, 1, 1⟩, 0, u64Max, 0⟩, ⟨rfl, .inl rfl⟩⟩,
        .peer (.at ⟨0, 0⟩ 3) 0 ⟨.unblock ⟨.v4 2, ⟨2, 1, 1⟩⟩, ⟨rfl, rfl⟩⟩]
    Respects step StoreAccepts start steps ∧ Respects step Compatible start steps ∧
      Along step RecoversUnexpired start steps := by
  intro start steps
  have haccepts : Respects step StoreAccepts start steps :=
    ⟨ne_storage_of_isOk (by decide +kernel), ne_storage_of_isOk (by decide +kernel),
      ne_storage_of_isOk (by decide +kernel), trivial⟩
  have hcompatible : Respects step Compatible start steps := by
    refine ⟨fun _ _ htouched => absurd htouched (by decide +kernel), ?_, ?_, trivial⟩
    · exact compatible_newBlock (by decide +kernel)
    · exact compatible_lastDot (by decide +kernel) (by decide +kernel)
  exact ⟨haccepts, hcompatible, recovers_mixed 64 0 1 1 true steps haccepts hcompatible⟩

/-- A local block, then the tombstone of another node's dot on the same address:
the address stays blocked, and recovery does not block it. -/
theorem recovers_mixed_fails :
    let start := EnforcementService.newMesh (Store.new.setRamLimitMb 64) 0 1 1 true
    let steps : List HistoryStep :=
      [.command (.at ⟨0, 0⟩ 1) (.operator 1 .block (.v4 1) 0),
        .peer (.at ⟨0, 0⟩ 2) 0 ⟨.unblock ⟨.v4 1, ⟨2, 1, 1⟩⟩, ⟨rfl, rfl⟩⟩]
    Respects step StoreAccepts start steps ∧ ¬ Along step RecoversUnexpired start steps := by
  intro start steps
  constructor
  · exact ⟨ne_storage_of_isOk (by decide +kernel), ne_storage_of_isOk (by decide +kernel), trivial⟩
  · intro halong
    obtain ⟨wal, hwal, hrecovers⟩ := halong.last
    have hlog : (run step start steps).wal = some ⟨[.blockIp (some (.v4 1)) "manual" none 0,
        (PendingMeshMutation.unblock ⟨.v4 1, ⟨2, 1, 1⟩⟩).toWalEntry 0]⟩ := by decide +kernel
    cases hwal.symm.trans hlog
    obtain ⟨restored, recovered, hreplay, hholds⟩ :=
      hrecovers ⟨0, 0⟩ IpAddr.sorted BlockKey.sorted 1 (by decide) (by decide)
    have hlive : (run step start steps).store.holds (.v4 1) := by decide +kernel
    have hlost : (replayWalIntoStoreSeeded ⟨0, 0⟩ IpAddr.sorted BlockKey.sorted
        (Store.new.setRamLimitMb 1) ⟨[.blockIp (some (.v4 1)) "manual" none 0,
          (PendingMeshMutation.unblock ⟨.v4 1, ⟨2, 1, 1⟩⟩).toWalEntry 0]⟩ 0 ∅ none).2.holds
        (.v4 1) = false := by decide +kernel
    rw [hreplay, hholds, hlive] at hlost
    cases hlost

end HistoryStep

end RamShield
