import RamShield.Enforcement.Acts
import RamShield.Engine.Boot
import RamShield.Mesh.Validity

/-! # Restarts after anything a peer sent

A bad mesh record in the log and a bad mesh state in the checkpoint both end the
boot. Whatever valid frames peers send and whatever commands come in between, the
log has only records that the boot accepts, and every exported snapshot passes
its validator. The wire does not check the address of a block; the command does,
before anything is journalled.
-/

namespace RamShield

open Foundation Foundation.Machine List

/-! ## Records of mesh operations -/

def PendingMeshMutation.key : PendingMeshMutation → BlockKey
  | .block delta => delta.key
  | .unblock delta => delta.key

def PendingMeshMutation.op : PendingMeshMutation → Register.Op DotPayload
  | .block delta => .add delta.dot.counter delta.payload
  | .unblock delta => .remove delta.dot.counter

lemma PendingMeshMutation.register_mergeInto {mutation : PendingMeshMutation}
    (hwf : mutation.WellFormed) (wallMs : Nat) (mesh : AworsetBlocklist)
    (key : BlockKey) : (mutation.mergeInto wallMs mesh).register key =
      if key = mutation.key then (mesh.register key).apply mutation.op
      else mesh.register key := by
  cases mutation with
  | block delta =>
    have hmerge := mesh.register_mergeDelta wallMs delta key
    rw [ClusterDot.admissible_of_validWire hwf.1] at hmerge
    simp only [true_and] at hmerge
    exact hmerge
  | unblock delta =>
    have hmerge := mesh.register_mergeUnblockDelta wallMs delta key
    rw [ClusterDot.admissible_of_validWire hwf.2] at hmerge
    simp only [true_and] at hmerge
    exact hmerge

lemma PendingMeshMutation.toWalEntry_checked {mutation : PendingMeshMutation}
    (hwf : mutation.WellFormed) (hip : mutation.ip.isUnspecified = false) (tsNs : Nat) :
    ∃ record, mutation.toWalEntry tsNs = .meshMutation record ∧
      Replay.checkMutation record = .ok mutation.key ∧
      ∀ wallMs mesh, mergeLogged wallMs mesh mutation.key record =
        mutation.mergeInto wallMs mesh := by
  have hdot {dot : ClusterDot} (hvalid : dot.validWire) :
      dot.nodeId ≠ 0 ∧ dot.counter ≠ 0 ∧ dot.incarnation.isNil = false := by
    simpa [ClusterDot.validWire, and_assoc] using hvalid
  cases mutation with
  | block delta =>
    obtain ⟨hnode, hcounter, hincarnation⟩ := hdot hwf.1
    have hspecified : delta.ip.isUnspecified = false := hip
    refine ⟨_, rfl, ?_, ?_⟩
    · simp [Replay.checkMutation, hnode, hcounter, hspecified, hincarnation, key,
        ClusterBlockDelta.key]
    · intro wallMs mesh
      have hexpiry : (if delta.expiresAtMs = u64Max then none
          else some delta.expiresAtMs).getD u64Max = delta.expiresAtMs := by
        split
        next hnever => rw [hnever]; rfl
        · rfl
      unfold mergeLogged mergeInto
      dsimp only [key, ClusterBlockDelta.key]
      rw [hexpiry]
  | unblock delta =>
    obtain ⟨hnode, hcounter, hincarnation⟩ := hdot hwf.2
    have hspecified : delta.ip.isUnspecified = false := hip
    refine ⟨_, rfl, ?_, fun _ _ => rfl⟩
    simp [Replay.checkMutation, hnode, hcounter, hspecified, hincarnation, key,
      ClusterUnblockDelta.key]

/-! ## Ledgers that a boot accepts -/

def Checked (log : List WalEntry) : Prop :=
  ∀ record, .meshMutation record ∈ log → ∃ key, Replay.checkMutation record = .ok key

namespace Checked

variable {log : List WalEntry}

lemma drop (hchecked : Checked log) (count : Nat) : Checked (log.drop count) :=
  fun record hmem => hchecked record (mem_of_mem_drop hmem)

lemma tail {entry : WalEntry} (hchecked : Checked (entry :: log)) : Checked log :=
  fun record hmem => hchecked record (mem_cons_of_mem _ hmem)

lemma restores (hchecked : Checked log) (wallMs : Nat) (mesh : AworsetBlocklist) :
    ∃ restored, restoreMeshCrdtFromWal wallMs mesh log = .ok restored := by
  induction log generalizing mesh with
  | nil => exact ⟨mesh, rfl⟩
  | cons entry log ih =>
    cases entry with
    | meshMutation record =>
      obtain ⟨key, hkey⟩ := hchecked record mem_cons_self
      rw [restoreMeshCrdtFromWal, hkey]
      exact ih hchecked.tail _
    | _ => exact ih hchecked.tail mesh

lemma folds (hchecked : Checked log) (fold : Replay.MeshFold) :
    ∃ folded, Replay.foldMesh fold log = .ok folded := by
  induction log generalizing fold with
  | nil => exact ⟨fold, rfl⟩
  | cons entry log ih =>
    cases entry with
    | meshMutation record =>
      obtain ⟨key, hkey⟩ := hchecked record mem_cons_self
      rw [Replay.foldMesh, hkey]
      exact ih hchecked.tail _
    | _ => exact ih hchecked.tail fold

lemma replays {wal : Wal} (hchecked : Checked wal.log) (dots : IterOrder BlockKey)
    (minLsn : Nat) (seed : Option Replay.MeshReplaySeed) (nowNs : Nat) :
    ∃ state, Replay.replayMeshState dots wal minLsn seed nowNs = .ok state := by
  have hentries : Checked (if seed.isSome then wal.replayFrom minLsn else wal.log) := by
    split
    · exact hchecked.drop minLsn
    · exact hchecked
  obtain ⟨folded, hfolded⟩ := hentries.folds ((seed.map Replay.seedMesh).getD .empty)
  unfold Replay.replayMeshState
  dsimp only
  rw [hfolded]
  exact ⟨_, rfl⟩

end Checked

/-- Blocklist and log meet the demands of a boot. -/
structure Ledger.Valid (ledger : Ledger) : Prop where
  mesh {mesh : AworsetBlocklist} : ledger.mesh = some mesh → mesh.Valid
  log {wal : Wal} : ledger.wal = some wal → Checked wal.log

namespace Ledger.Valid

variable {ledger : Ledger}

lemma append (hvalid : ledger.Valid) {entry : WalEntry}
    (hentry : ∀ record, entry = .meshMutation record →
      ∃ key, Replay.checkMutation record = .ok key) : (ledger.append entry).Valid where
  mesh := hvalid.mesh
  log := by
    intro wal hwal record hmem
    obtain ⟨old, hold, rfl⟩ := Option.map_eq_some_iff.mp hwal
    rcases mem_append.mp hmem with hmem | hmem
    · exact hvalid.log hold record hmem
    · exact hentry record (mem_singleton.mp hmem).symm

lemma updateMesh (hvalid : ledger.Valid) {update : AworsetBlocklist → AworsetBlocklist}
    (hupdate : ∀ mesh : AworsetBlocklist, mesh.Valid → (update mesh).Valid) :
    (ledger.updateMesh update).Valid where
  mesh := by
    intro mesh hmesh
    obtain ⟨old, hold, rfl⟩ := Option.map_eq_some_iff.mp hmesh
    exact hupdate old (hvalid.mesh hold)
  log := hvalid.log

lemma mergeInto {mutation : PendingMeshMutation} (hwf : mutation.WellFormed)
    (hip : mutation.ip.isUnspecified = false) (wallMs : Nat) {mesh : AworsetBlocklist}
    (hmesh : mesh.Valid) : (mutation.mergeInto wallMs mesh).Valid := by
  have hcounter {dot : ClusterDot} (hvalid : dot.validWire) : dot.counter ≠ 0 := by
    simp only [ClusterDot.validWire, Bool.and_eq_true, bne_iff_ne] at hvalid
    exact hvalid.1.2
  cases mutation with
  | block delta => exact hmesh.mergeDelta wallMs hip (hcounter hwf.1) hwf.2
  | unblock delta => exact hmesh.mergeUnblockDelta wallMs hip (hcounter hwf.2)

lemma step (hvalid : ledger.Valid) {op : LedgerOp} (hop : op.Sound) : (ledger.step op).Valid := by
  cases op with
  | note entry =>
    refine hvalid.append ?_
    rintro record rfl
    cases hop
  | logged mutation clock =>
    obtain ⟨record, hrecord, hchecked, _⟩ := mutation.toWalEntry_checked hop.1 hop.2 clock.wallNs
    refine Valid.updateMesh (hvalid.append ?_) fun mesh hmesh =>
      Valid.mergeInto hop.1 hop.2 clock.wallMs hmesh
    intro other hother
    rw [hrecord] at hother
    cases hother
    exact ⟨_, hchecked⟩
  | ban clock ip ttlSeconds =>
    exact hvalid.updateMesh fun mesh hmesh => hmesh.recordBan clock.wallMs hop _ 2
  | unban clock dots ip =>
    exact hvalid.updateMesh fun mesh hmesh => hmesh.recordUnban clock.wallMs dots ip

end Ledger.Valid

def EnforcementService.newMesh (store : Store) (epoch : Instant) (nodeId : Nat)
    (incarnation : Uuid) (attached : Bool) : EnforcementService :=
  (((EnforcementService.new store epoch).withWal .empty).withMeshBlocklist
    (.new nodeId incarnation)).withMeshHandle attached

lemma EnforcementService.newMesh_valid (store : Store) (epoch : Instant) (nodeId : Nat)
    (incarnation : Uuid) (attached : Bool) :
    (newMesh store epoch nodeId incarnation attached).ledger.Valid where
  mesh := by
    intro mesh hmesh
    cases hmesh
    exact AworsetBlocklist.new_valid nodeId incarnation
  log := by
    intro wal hwal record hmem
    cases hwal
    cases hmem

/-- Log and blocklist are never lost. -/
lemma Ledger.step_present (ledger : Ledger) (op : LedgerOp)
    (hpresent : ledger.wal.isSome ∧ ledger.mesh.isSome) :
    (ledger.step op).wal.isSome ∧ (ledger.step op).mesh.isSome := by
  cases op <;> simpa [step, append, updateMesh] using hpresent

/-- After every run, the boot functions accept every part of the log, from any
position and onto any state, and every snapshot of the blocklist is valid. -/
theorem restart_accepts_every_run (store : Store) (epoch : Instant) (nodeId : Nat)
    (incarnation : Uuid) (attached : Bool) (steps : List ActorStep) :
    ∃ wal mesh,
      (run ActorStep.step (EnforcementService.newMesh store epoch nodeId incarnation attached)
        steps).ledger = ⟨some mesh, some wal⟩ ∧
      (∀ wallMs base minLsn, ∃ restored,
        restoreMeshCrdtFromWal wallMs base (wal.replayFrom minLsn) = .ok restored) ∧
      (∀ dots minLsn seed nowNs, ∃ state,
        Replay.replayMeshState dots wal minLsn seed nowNs = .ok state) ∧
      ∀ order, (mesh.exportSnapshot order).validate = .ok () := by
  have hvalid := ActorStep.run_ledger (fun _ _ hledger hop => hledger.step hop)
    (EnforcementService.newMesh_valid store epoch nodeId incarnation attached) steps
  have hpresent := ActorStep.run_ledger (fun ledger op hledger _ => ledger.step_present op hledger)
    (show (EnforcementService.newMesh store epoch nodeId incarnation attached).ledger.wal.isSome ∧
      (EnforcementService.newMesh store epoch nodeId incarnation attached).ledger.mesh.isSome from
        ⟨rfl, rfl⟩) steps
  generalize (run ActorStep.step _ steps).ledger = ledger at hvalid hpresent ⊢
  obtain ⟨mesh, wal⟩ := ledger
  obtain ⟨wal, rfl⟩ := Option.isSome_iff_exists.mp hpresent.1
  obtain ⟨mesh, rfl⟩ := Option.isSome_iff_exists.mp hpresent.2
  have hchecked : Checked wal.log := hvalid.log rfl
  exact ⟨wal, mesh, rfl, fun wallMs base minLsn => (hchecked.drop minLsn).restores wallMs base,
    hchecked.replays, (hvalid.mesh rfl).validate_export⟩

end RamShield
