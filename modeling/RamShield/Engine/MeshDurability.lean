import RamShield.Engine.RestartSafety
import RamShield.Engine.SnapshotTail
import RamShield.Mesh.Replica

/-! # The cluster blocklist across a restart

At boot the blocklist is rebuilt from the mesh state of the last checkpoint and
from the mesh records after it. That gives back the dots and tombstones of the
live blocklist as long as, since that checkpoint, every change to the blocklist
had a mesh record. Operations of peers have one. What a local command does to the
blocklist has none: the dot of a local block and the tombstones of a local
unblock, or of an expiry, are lost with the process.

The checkpoint loop is another task than the actor. It can capture its image
between the commit of a block and its dot, and the image becomes the checkpoint
some time later. A failed write can leave its record in the log.
-/

namespace RamShield

open Foundation Foundation.Machine EnforcementService List Option AworsetBlocklist

/-- The mesh part of a boot. A manifest at position zero names no checkpoint. -/
def rebuildMesh (wallMs : Nat) (base : AworsetBlocklist) (wal : Wal)
    (checkpoint : Option (Nat × AworsetSnapshot)) : Except BootError AworsetBlocklist :=
  let restore (base : AworsetBlocklist) (log : List WalEntry) :=
    (restoreMeshCrdtFromWal wallMs base log).mapError .meshReplay
  match checkpoint.filter fun named => 0 < named.1 with
  | none => restore base wal.log
  | some (lsn, state) =>
    match state.validate with
    | .error message => .error (.invalidMeshState message)
    | .ok () => restore (base.restoreSnapshot wallMs state) (wal.replayFrom lsn)

/-! ## The mesh part of a boot -/

namespace Boot

section Outcome

variable {clock : Clock} {orders : HashOrders} {hardWal : Bool} {service : EnforcementService}
  {wal : Wal} {base mesh : AworsetBlocklist}

variable (hrecords : service.store.Records) (hchecked : Checked wal.log)

include hrecords hchecked

end Outcome

end Boot

/-! ## Replaying records -/

lemma restoreMeshCrdtFromWal_append (wallMs : Nat) (base : AworsetBlocklist)
    (log more : List WalEntry) :
    restoreMeshCrdtFromWal wallMs base (log ++ more) =
      (restoreMeshCrdtFromWal wallMs base log).bind fun mesh =>
        restoreMeshCrdtFromWal wallMs mesh more := by
  induction log generalizing base with
  | nil => rfl
  | cons entry log ih =>
    cases entry with
    | meshMutation record =>
      rw [cons_append, restoreMeshCrdtFromWal, restoreMeshCrdtFromWal]
      cases Replay.checkMutation record with
      | error error => rfl
      | ok key => exact ih _
    | _ => exact ih base

lemma rebuildMesh_append {wallMs : Nat} {base rebuilt : AworsetBlocklist} {wal : Wal}
    {checkpoint : Option (Nat × AworsetSnapshot)}
    (hposition : ∀ named ∈ checkpoint, named.1 ≤ wal.log.length)
    (hrebuilt : rebuildMesh wallMs base wal checkpoint = .ok rebuilt) (entry : WalEntry) :
    rebuildMesh wallMs base (wal.append entry).2 checkpoint =
      (restoreMeshCrdtFromWal wallMs rebuilt [entry]).mapError .meshReplay := by
  have hrestored {base : AworsetBlocklist} {log : List WalEntry}
      (hlog : (restoreMeshCrdtFromWal wallMs base log).mapError BootError.meshReplay =
        .ok rebuilt) :
      (restoreMeshCrdtFromWal wallMs base (log ++ [entry])).mapError BootError.meshReplay =
        (restoreMeshCrdtFromWal wallMs rebuilt [entry]).mapError BootError.meshReplay := by
    rw [restoreMeshCrdtFromWal_append]
    cases hresult : restoreMeshCrdtFromWal wallMs base log with
    | error error =>
      rw [hresult] at hlog
      cases hlog
    | ok mesh =>
      rw [hresult] at hlog
      cases hlog
      rfl
  unfold rebuildMesh at hrebuilt ⊢
  dsimp only at hrebuilt ⊢
  cases hnamed : checkpoint.filter fun named => 0 < named.1 with
  | none =>
    rw [hnamed] at hrebuilt
    exact hrestored hrebuilt
  | some named =>
    obtain ⟨lsn, state⟩ := named
    have hwithin : lsn ≤ wal.log.length := hposition _ (filter_eq_some_iff.mp hnamed).1
    rw [hnamed] at hrebuilt
    dsimp only at hrebuilt ⊢
    cases hvalidated : state.validate with
    | error message =>
      rw [hvalidated] at hrebuilt
      cases hrebuilt
    | ok done =>
      rw [hvalidated] at hrebuilt
      -- The checkpoint lies within the shorter log, so the new record is after it.
      have hdrop : (wal.append entry).2.replayFrom lsn = wal.replayFrom lsn ++ [entry] :=
        drop_append_of_le_length hwithin
      dsimp only at hrebuilt ⊢
      rw [hdrop]
      exact hrestored hrebuilt

lemma PendingMeshMutation.register_mergeInto_congr (mutation : PendingMeshMutation)
    (leftMs rightMs : Nat) {left right : AworsetBlocklist}
    (hregisters : ∀ key, left.register key = right.register key) (key : BlockKey) :
    (mutation.mergeInto leftMs left).register key =
      (mutation.mergeInto rightMs right).register key := by
  cases mutation with
  | block delta => rw [mergeInto, mergeInto, register_mergeDelta, register_mergeDelta, hregisters]
  | unblock delta =>
    rw [mergeInto, mergeInto, register_mergeUnblockDelta, register_mergeUnblockDelta, hregisters]

/-! ## The invariant -/

/-- A boot gives back the dots and tombstones of the live blocklist. -/
structure Rebuilds (checkpoint : Option (Nat × AworsetSnapshot)) (mesh : AworsetBlocklist)
    (wal : Wal) : Prop where
  position : ∀ named ∈ checkpoint, named.1 ≤ wal.log.length
  rebuilt (wallMs nodeId : Nat) (incarnation : Uuid) : ∃ rebuilt,
    rebuildMesh wallMs (.new nodeId incarnation) wal checkpoint = .ok rebuilt ∧
      ∀ key, rebuilt.register key = mesh.register key

namespace Rebuilds

variable {checkpoint : Option (Nat × AworsetSnapshot)} {mesh : AworsetBlocklist} {wal : Wal}

lemma note (hrebuilds : Rebuilds checkpoint mesh wal) {entry : WalEntry}
    (hlocal : entry.isMesh = false) : Rebuilds checkpoint mesh (wal.append entry).2 where
  position named hnamed := (hrebuilds.position named hnamed).trans (wal.length_le_append _)
  rebuilt wallMs nodeId incarnation := by
    obtain ⟨rebuilt, hrebuilt, hregisters⟩ := hrebuilds.rebuilt wallMs nodeId incarnation
    refine ⟨rebuilt, ?_, hregisters⟩
    rw [rebuildMesh_append hrebuilds.position hrebuilt]
    cases entry with
    | meshMutation record => cases hlocal
    | _ => rfl

lemma logged (hrebuilds : Rebuilds checkpoint mesh wal) {mutation : PendingMeshMutation}
    (hwf : mutation.WellFormed) (hip : mutation.ip.isUnspecified = false) (clock : Clock) :
    Rebuilds checkpoint (mutation.mergeInto clock.wallMs mesh)
      (wal.append (mutation.toWalEntry clock.wallNs)).2 where
  position named hnamed := (hrebuilds.position named hnamed).trans (wal.length_le_append _)
  rebuilt wallMs nodeId incarnation := by
    obtain ⟨rebuilt, hrebuilt, hregisters⟩ := hrebuilds.rebuilt wallMs nodeId incarnation
    obtain ⟨record, hrecord, hchecked, hmerge⟩ := mutation.toWalEntry_checked hwf hip clock.wallNs
    refine ⟨mutation.mergeInto wallMs rebuilt, ?_, mutation.register_mergeInto_congr _ _ hregisters⟩
    rw [rebuildMesh_append hrebuilds.position hrebuilt, hrecord, restoreMeshCrdtFromWal, hchecked,
      ← hmerge]
    rfl

lemma of_checkpoint (hvalid : mesh.Valid)
    (huntouched : wal.log = [] → ∀ key, mesh.register key = .empty) (order : IterOrder BlockKey) :
    Rebuilds (some (wal.durableLsn, mesh.exportSnapshot order)) mesh wal where
  position := by
    rintro named hnamed
    cases hnamed
    exact le_refl _
  rebuilt wallMs nodeId incarnation := by
    unfold rebuildMesh
    rcases Nat.eq_zero_or_pos wal.log.length with hempty | hlog
    · rw [filter_some_neg (by simp [Wal.durableLsn, hempty])]
      rw [length_eq_zero_iff] at hempty
      rw [hempty]
      exact ⟨_, rfl, fun key => (huntouched hempty key).symm⟩
    · rw [filter_some_pos (by simp [Wal.durableLsn, hlog])]
      dsimp only
      have hnothing : wal.replayFrom wal.durableLsn = [] := drop_length
      rw [hvalid.validate_export, hnothing]
      exact ⟨_, rfl, fun key => register_restore hvalid.formed order wallMs rfl⟩

end Rebuilds

variable (ledger : Ledger)

structure Ledger.Sane : Prop where
  valid : ledger.Valid
  present : ledger.wal.isSome ∧ ledger.mesh.isSome
  untouched {mesh : AworsetBlocklist} {wal : Wal} : ledger = ⟨some mesh, some wal⟩ →
    wal.log = [] → ∀ key, mesh.register key = .empty

def Ledger.Accounted (checkpoint : Option (Nat × AworsetSnapshot)) : Prop :=
  ∃ mesh wal, ledger = ⟨some mesh, some wal⟩ ∧ Rebuilds checkpoint mesh wal

lemma Ledger.Accounted.step {checkpoint : Option (Nat × AworsetSnapshot)} {ledger : Ledger}
    {op : LedgerOp} (haccounted : ledger.Accounted checkpoint) (hop : op.Recorded) :
    (ledger.step op).Accounted checkpoint := by
  obtain ⟨mesh, wal, rfl, hrebuilds⟩ := haccounted
  cases op with
  | note entry => exact ⟨mesh, _, rfl, hrebuilds.note hop⟩
  | logged mutation clock => exact ⟨_, _, rfl, hrebuilds.logged hop.1 hop.2 clock⟩
  | ban clock ip ttlSeconds => exact hop.elim
  | unban clock dots ip => exact hop.elim

lemma Ledger.Accounted.of_recorded {checkpoint : Option (Nat × AworsetSnapshot)}
    {ledger next : Ledger} (haccounted : ledger.Accounted checkpoint)
    (hreaches : Reaches LedgerOp.Recorded ledger next) : next.Accounted checkpoint :=
  Reaches.invariant (fun (ledger : Ledger) _ (hledger : ledger.Accounted checkpoint) hop =>
    hledger.step hop) hreaches haccounted

def Ledger.HasRecord : Prop := ∀ wal, ledger.wal = some wal → wal.log ≠ []

lemma Ledger.append_hasRecord (entry : WalEntry) : (ledger.append entry).HasRecord := by
  intro wal hwal
  obtain ⟨old, _, rfl⟩ := map_eq_some_iff.mp hwal
  simp [Wal.append]

lemma Ledger.HasRecord.step {ledger : Ledger} (hrecord : ledger.HasRecord) (op : LedgerOp) :
    (ledger.step op).HasRecord := by
  cases op with
  | note entry => exact ledger.append_hasRecord entry
  | logged mutation clock => exact ledger.append_hasRecord _
  | ban clock ip ttlSeconds => exact hrecord
  | unban clock dots ip => exact hrecord

namespace Ledger.Sane

variable {ledger}

lemma of_logged (hvalid : ledger.Valid) (hpresent : ledger.wal.isSome ∧ ledger.mesh.isSome)
    (hrecord : ledger.HasRecord) : ledger.Sane where
  valid := hvalid
  present := hpresent
  untouched := by
    rintro mesh wal rfl hempty
    exact absurd hempty (hrecord wal rfl)

lemma recorded (hsane : ledger.Sane) {op : LedgerOp} (hop : op.Recorded) :
    (ledger.step op).Sane ∧ (ledger.step op).HasRecord := by
  have hrecord : (ledger.step op).HasRecord := by
    cases op with
    | note entry => exact ledger.append_hasRecord entry
    | logged mutation clock => exact ledger.append_hasRecord _
    | _ => exact hop.elim
  exact ⟨of_logged (hsane.valid.step hop.sound) (ledger.step_present op hsane.present) hrecord,
    hrecord⟩

lemma of_recorded (hsane : ledger.Sane) {next : Ledger}
    (hreaches : Reaches LedgerOp.Recorded ledger next) : next.Sane :=
  hreaches.invariant (fun _ _ hledger hop => (hledger.recorded hop).1) hsane

lemma of_sound (hledger : ledger.Sane ∧ ledger.HasRecord) {next : Ledger}
    (hreaches : Reaches LedgerOp.Sound ledger next) : next.Sane ∧ next.HasRecord := by
  have hstep (ledger : Ledger) (op : LedgerOp) (hledger : ledger.Sane ∧ ledger.HasRecord)
      (hop : op.Sound) : (ledger.step op).Sane ∧ (ledger.step op).HasRecord :=
    ⟨of_logged (hledger.1.valid.step hop) (ledger.step_present op hledger.1.present)
      (hledger.2.step op), hledger.2.step op⟩
  exact hreaches.invariant hstep hledger

lemma secure {service : EnforcementService} (hsane : service.ledger.Sane) (io : Io)
    (cmd : EnforceCommand) : (service.secure io cmd).2.ledger.Sane ∧
      ∀ walLsn ∈ (service.secure io cmd).1, cmd.ip.isUnspecified = false ∧
        (service.secure io cmd).2.ledger.HasRecord := by
  rcases service.secure_ledger io cmd with
    ⟨next, heq, hreaches⟩ | ⟨walLsn, next, heq, hcommits, hnext⟩
  · rw [heq]
    exact ⟨hsane.of_recorded hreaches, nofun⟩
  · have hnoted : (LedgerOp.note (commandEntry cmd io.clock.wallNs)).Recorded :=
      commandEntry_isMesh cmd _
    have hreaches : Ledger.Reaches LedgerOp.Sound
        (run Ledger.step service.ledger (journalOps io cmd none .append)) next.ledger := by
      refine ⟨_, fun op hop => ?_, hnext⟩
      cases haction : cmd.action with
      | block =>
        rw [haction] at hop
        cases hop
      | unblock =>
        rw [haction] at hop
        exact (service.localOps_own io hcommits.2.1 op hop).sound
    have hledger := of_sound (hsane.recorded hnoted) hreaches
    rw [heq]
    exact ⟨hledger.1, fun _ _ => ⟨hcommits.2.1, hledger.2⟩⟩

end Ledger.Sane

/-! ### A record that a failed write left

What it was the record of has not happened, so that the blocklist is as before. -/

section Left

variable {ledger} {next : Ledger} {mesh : Option AworsetBlocklist}

lemma Ledger.Sane.left (hreaches : Reaches LedgerOp.Sound ledger next)
    (hsane : (⟨mesh, ledger.wal⟩ : Ledger).Sane) : (⟨mesh, next.wal⟩ : Ledger).Sane := by
  have hstep (ledger : Ledger) (op : LedgerOp) (hsane : (⟨mesh, ledger.wal⟩ : Ledger).Sane)
      (hop : op.Sound) : (⟨mesh, (ledger.step op).wal⟩ : Ledger).Sane := by
    cases op with
    | note entry =>
      have hrecord : (LedgerOp.note entry).Recorded := hop
      exact (hsane.recorded hrecord).1
    | logged mutation clock =>
      have hrecord : (LedgerOp.logged mutation clock).Recorded := hop
      obtain ⟨hnext, hlogged⟩ := hsane.recorded hrecord
      exact .of_logged ⟨hsane.valid.mesh, hnext.valid.log⟩ ⟨hnext.present.1, hsane.present.2⟩
        hlogged
    | ban clock ip ttlSeconds => exact hsane
    | unban clock dots ip => exact hsane
  have hkept := hreaches.invariant hstep hsane
  exact hkept

lemma Ledger.Accounted.left {checkpoint : Option (Nat × AworsetSnapshot)}
    (hreaches : Reaches LedgerOp.Own ledger next)
    (haccounted : (⟨mesh, ledger.wal⟩ : Ledger).Accounted checkpoint) :
    (⟨mesh, next.wal⟩ : Ledger).Accounted checkpoint := by
  have hstep (ledger : Ledger) (op : LedgerOp)
      (haccounted : (⟨mesh, ledger.wal⟩ : Ledger).Accounted checkpoint) (hop : op.Own) :
      (⟨mesh, (ledger.step op).wal⟩ : Ledger).Accounted checkpoint := by
    cases op with
    | note entry =>
      have hrecord : (LedgerOp.note entry).Recorded := hop
      exact haccounted.step hrecord
    | logged mutation clock => exact hop.elim
    | ban clock ip ttlSeconds => exact haccounted
    | unban clock dots ip => exact haccounted
  have hkept := hreaches.invariant hstep haccounted
  exact hkept

end Left

/-! ## Nodes -/

/-- What a failed write leaves: nothing, a torn tail, or all of it. The last two poison the log. -/
inductive LogFault
  | refused
  | torn
  | left
  deriving DecidableEq

structure MeshNode where
  service : EnforcementService
  inFlight : Option (Io × EnforceCommand × Option Nat)
  poisoned : Bool
  captured : Option (Nat × AworsetSnapshot)
  checkpoint : Option (Nat × AworsetSnapshot)

/-- The actor takes an act to the barrier or ends it; the loop captures or writes an image. -/
inductive NodeStep
  | act (act : Act) (fault : LogFault)
  | finish
  | capture (clock : Clock) (orders : HashOrders)
  | publish (fault : Option LogFault)

instance (mutation : PendingMeshMutation) : Decidable mutation.WellFormed :=
  match mutation with
  | .block _ => inferInstanceAs (Decidable (_ ∧ _))
  | .unblock _ => inferInstanceAs (Decidable (_ ∧ _))

instance (act : Act) : Decidable act.Formed :=
  match act with
  | .peer _ _ mutation => inferInstanceAs (Decidable mutation.WellFormed)
  | .command _ _ => .isTrue trivial
  | .repair _ _ _ _ => .isTrue trivial
  | .forget => .isTrue trivial
  | .drain _ => .isTrue trivial
  | .expireIp _ _ => .isTrue trivial
  | .expireCidr _ _ => .isTrue trivial

namespace MeshNode

/-- The act as it meets the log: a poisoned one takes no record any more. -/
def met (node : MeshNode) (act : Act) : Act :=
  if node.poisoned then act.withFailure (some "io error: WAL poisoned") else act

/-- The act up to the release of the barrier. -/
def proceed (node : MeshNode) (act : Act) (fault : LogFault) : MeshNode :=
  let act := node.met act
  let next := { node with
    service := act.secure node.service
    inFlight := act.inFlight node.service }
  if act.failure = none ∨ node.poisoned then next
  else
    match fault with
    | .refused => next
    | .torn => { next with poisoned := true }
    | .left => { next with
        service := { next.service with wal := ((act.withFailure none).step node.service).wal }
        poisoned := true }

/-- What the command does once the barrier is released. -/
def complete (node : MeshNode) : MeshNode :=
  match node.inFlight with
  | none => node
  | some (io, cmd, walLsn) =>
    { node with service := node.service.finish io cmd walLsn, inFlight := none }

def takeCheckpoint (service : EnforcementService) (clock : Clock) (orders : HashOrders) :
    Option (Nat × AworsetSnapshot) :=
  service.wal.bind fun wal =>
    let snapshot := CheckpointSnapshot.build service clock orders.ips orders.networks orders.dots
      wal (service.checkpointShared.getD ⟨∅, ∅⟩)
    snapshot.meshState.map (snapshot.lsn, ·)

/-- `write_snapshot`, then `finish_checkpoint`. Without the manifest the file counts only where it
replaces that of the checkpoint, being named after its position. -/
def publish (node : MeshNode) (fault : Option LogFault) : MeshNode :=
  match node.captured with
  | none => node
  | some taken =>
    let written := { node with
      checkpoint :=
        if node.checkpoint.map Prod.fst = some taken.1 then some taken else node.checkpoint }
    if node.poisoned then written
    else
      match fault with
      | none => { node with checkpoint := some taken }
      | some .refused => written
      | some .torn => { written with poisoned := true }
      | some .left => { node with checkpoint := some taken, poisoned := true }

/-- One actor runs the acts, one after the other, and the wire has checked those of peers. -/
def step (node : MeshNode) : NodeStep → MeshNode
  | .act act fault => if node.inFlight.isNone ∧ act.Formed then node.proceed act fault else node
  | .finish => node.complete
  | .capture clock orders => { node with captured := takeCheckpoint node.service clock orders }
  | .publish fault => node.publish fault

/-- A crash now loses no dot and no tombstone, whatever the clock and the next incarnation. -/
def Durable (node : MeshNode) : Prop :=
  ∃ mesh wal, node.service.ledger = ⟨some mesh, some wal⟩ ∧ ∀ wallMs nodeId incarnation, ∃ rebuilt,
      rebuildMesh wallMs (.new nodeId incarnation) wal node.checkpoint = .ok rebuilt ∧
        ∀ key, rebuilt.register key = mesh.register key

/-- The blocklist changes exactly with the mesh records: no local command withdraws or originates
dots, and no operation of a peer fails with its record left. -/
def LogsDots (node : MeshNode) : NodeStep → Prop
  | .act act fault =>
    (∀ pair ∈ (node.met act).own, ¬ node.service.Withdraws pair.1 pair.2) ∧
      (act.isPeer → (node.met act).failure.isSome → fault ≠ .left)
  | .finish => ∀ flight ∈ node.inFlight, ¬ node.service.Originates flight.2.1
  | .capture _ _ => True
  | .publish _ => True

def start (store : Store) (epoch : Instant) (nodeId : Nat) (incarnation : Uuid)
    (attached : Bool) : MeshNode where
  service := .newMesh store epoch nodeId incarnation attached
  inFlight := none
  poisoned := false
  captured := none
  checkpoint := none

/-! ### The actor alone -/

section Actor

variable {node : MeshNode} (hidle : node.inFlight = none) (hhealthy : node.poisoned = false)

include hidle hhealthy

lemma run_act {act : Act} (hformed : act.Formed) :
    run step node [.act act .refused, .finish] =
      { node with service := act.step node.service } := by
  have hproceeds : node.step (.act act .refused) = { node with
      service := act.secure node.service, inFlight := act.inFlight node.service } := by
    have hmet : node.met act = act := by simp [met, hhealthy]
    simp [step, hidle, hformed, proceed, hmet]
  rw [run_cons, hproceeds, run_cons, run_nil]
  cases act with
  | command io cmd =>
    change complete { node with
      service := (node.service.secure io cmd).2
      inFlight := (node.service.secure io cmd).1.map (io, cmd, ·) } = { node with
        service := (node.service.enforce io cmd).2 }
    rw [enforce_eq_secure]
    obtain ⟨_ | walLsn, service⟩ := node.service.secure io cmd
    · simp [complete, hidle]
    · simp [complete, hidle]
  | _ =>
    rw [hidle]
    rfl

/-- Where nothing fails and no image is captured, a node does what the actor does. -/
theorem run_actor (action : ActorStep) :
    run step node ((action.acts node.service).flatMap fun act => [.act act .refused, .finish]) =
      { node with service := ActorStep.step node.service action } := by
  rw [action.step_eq_run]
  have hformed := action.acts_formed node.service
  generalize action.acts node.service = acts at hformed ⊢
  induction acts generalizing node with
  | nil => rfl
  | cons act acts ih =>
    rw [flatMap_cons, run_append, run_act hidle hhealthy (hformed act mem_cons_self), run_cons]
    exact ih (by exact hidle) (by exact hhealthy) fun other hmem =>
      hformed other (mem_cons_of_mem _ hmem)

end Actor

/-! ### What every run keeps -/

structure Sane (node : MeshNode) : Prop where
  ledger : node.service.ledger.Sane
  inFlight : ∀ flight ∈ node.inFlight, flight.2.1.ip.isUnspecified = false ∧
    node.service.ledger.HasRecord

variable {node : MeshNode} {act : Act} {fault : LogFault}

lemma start_sane (store : Store) (epoch : Instant) (nodeId : Nat) (incarnation : Uuid)
    (attached : Bool) : (start store epoch nodeId incarnation attached).Sane where
  ledger := {
    valid := newMesh_valid store epoch nodeId incarnation attached
    present := ⟨rfl, rfl⟩
    untouched := by
      intro mesh wal hledger _ key
      cases hledger
      rfl }
  inFlight := fun flight hflight => absurd hflight (not_mem_none flight)

lemma isPeer_met (node : MeshNode) (act : Act) : (node.met act).isPeer = act.isPeer := by
  unfold met
  split
  · exact act.isPeer_withFailure _
  · rfl

lemma met_formed (node : MeshNode) (hformed : act.Formed) : (node.met act).Formed := by
  unfold met
  split
  · exact hformed.withFailure _
  · exact hformed

@[elab_as_elim]
lemma proceed_keeps {motive : Ledger → Prop} (hwal : node.service.wal.isSome)
    (hsecured : motive ((node.met act).secure node.service).ledger)
    (hleft : fault = .left → (node.met act).failure.isSome → motive
      ⟨node.service.ledger.mesh,
        (((node.met act).withFailure none).step node.service).ledger.wal⟩) :
    motive (node.proceed act fault).service.ledger := by
  unfold proceed
  dsimp only
  split
  · exact hsecured
  next hfails =>
    have hfailure := Option.ne_none_iff_isSome.mp (not_or.mp hfails).1
    cases fault with
    | refused => exact hsecured
    | torn => exact hsecured
    | left =>
      have hsame := congrArg Ledger.mesh (Act.secure_ledger_of_failure hwal hfailure)
      have hkept := hleft rfl hfailure
      rw [← hsame] at hkept
      exact hkept

lemma proceed_frame (node : MeshNode) (act : Act) (fault : LogFault) :
    ∃ service poisoned, node.proceed act fault = { node with
      service := service
      inFlight := (node.met act).inFlight node.service
      poisoned := poisoned } := by
  unfold proceed
  dsimp only
  split
  · exact ⟨_, _, rfl⟩
  · cases fault <;> exact ⟨_, _, rfl⟩

lemma proceed_sane (hsane : node.Sane) (hformed : act.Formed) :
    (node.proceed act fault).Sane := by
  have hledger := hsane.ledger
  have hproceeds : (node.proceed act fault).service.ledger.Sane ∧
      ∀ flight ∈ (node.met act).inFlight node.service, flight.2.1.ip.isUnspecified = false ∧
        (node.proceed act fault).service.ledger.HasRecord := by
    refine proceed_keeps hledger.present.1 ⟨?_, ?_⟩ fun _ hfailure => ⟨?_, ?_⟩
    · exact Act.secure_keeps (node.met_formed hformed)
        (fun _ hreaches => hledger.of_recorded hreaches)
        fun pair _ => (hledger.secure pair.1 pair.2).1
    · intro flight hflight
      cases hact : node.met act with
      | command io cmd =>
        rw [hact] at hflight
        obtain ⟨walLsn, hwalLsn, rfl⟩ := map_eq_some_iff.mp hflight
        exact (hledger.secure io cmd).2 walLsn hwalLsn
      | _ =>
        rw [hact] at hflight
        cases hflight
    · exact .left (Act.step_sound ((node.met_formed hformed).withFailure none)) hledger
    · rw [Act.inFlight_of_failure hledger.present.1 hfailure]
      exact fun flight hflight => absurd hflight (not_mem_none flight)
  obtain ⟨service, poisoned, heq⟩ := node.proceed_frame act fault
  rw [heq] at hproceeds ⊢
  exact ⟨hproceeds.1, hproceeds.2⟩

lemma publish_frame (node : MeshNode) (fault : Option LogFault) :
    ∃ poisoned checkpoint,
      node.publish fault = { node with poisoned := poisoned, checkpoint := checkpoint } ∧
        (checkpoint = node.checkpoint ∨ ∃ taken ∈ node.captured, checkpoint = some taken) := by
  unfold publish
  split
  · exact ⟨_, _, rfl, .inl rfl⟩
  next taken hcaptured =>
    have hplaced : ∃ other ∈ node.captured, some taken = some other := ⟨taken, hcaptured, rfl⟩
    dsimp only
    generalize hfile : (if node.checkpoint.map Prod.fst = some taken.1 then some taken
      else node.checkpoint) = written
    have hwritten : written = node.checkpoint ∨ ∃ other ∈ node.captured, written = some other := by
      rw [← hfile]
      split
      · exact .inr hplaced
      · exact .inl rfl
    split
    · exact ⟨_, _, rfl, hwritten⟩
    · rcases fault with _ | _ | _ | _
      · exact ⟨_, _, rfl, .inr hplaced⟩
      · exact ⟨_, _, rfl, hwritten⟩
      · exact ⟨_, _, rfl, hwritten⟩
      · exact ⟨_, _, rfl, .inr hplaced⟩

lemma step_sane (node : MeshNode) (action : NodeStep) (hsane : node.Sane) :
    (node.step action).Sane := by
  cases action with
  | act act fault =>
    rw [step]
    split
    next hacts => exact proceed_sane hsane hacts.2
    · exact hsane
  | finish =>
    rw [step, complete]
    split
    · exact hsane
    next io cmd walLsn hflight =>
      obtain ⟨hip, hrecord⟩ := hsane.inFlight _ hflight
      refine ⟨?_, fun flight hflight => absurd hflight (not_mem_none flight)⟩
      -- A command that was journalled before ends now: its ban is one of an address of its own.
      have hreaches : Ledger.Reaches LedgerOp.Sound node.service.ledger
          (node.service.finish io cmd walLsn).ledger := by
        refine ⟨_, fun op hop => ?_, finish_ledger ..⟩
        cases haction : cmd.action with
        | block =>
          rw [haction] at hop
          exact (node.service.localOps_own io hip op hop).sound
        | unblock =>
          rw [haction] at hop
          cases hop
      exact (Ledger.Sane.of_sound ⟨hsane.ledger, hrecord⟩ hreaches).1
  | capture clock orders => exact ⟨hsane.ledger, hsane.inFlight⟩
  | publish fault =>
    obtain ⟨_, _, heq, _⟩ := node.publish_frame fault
    rw [step, heq]
    exact ⟨hsane.ledger, hsane.inFlight⟩

/-! ### Checkpoints -/

lemma accounted_of_capture (hsane : node.Sane) (clock : Clock) (orders : HashOrders) :
    ∃ taken, takeCheckpoint node.service clock orders = some taken ∧
      node.service.ledger.Accounted (some taken) := by
  obtain ⟨wal, hwal⟩ := isSome_iff_exists.mp hsane.ledger.present.1
  obtain ⟨mesh, hmesh⟩ := isSome_iff_exists.mp hsane.ledger.present.2
  have hledger : node.service.ledger = ⟨some mesh, some wal⟩ := by rw [← hwal, ← hmesh]
  refine ⟨(wal.durableLsn, mesh.exportSnapshot orders.dots), ?_, mesh, wal, hledger, ?_⟩
  · change node.service.wal = some wal at hwal
    change node.service.meshBlocklist = some mesh at hmesh
    simp [takeCheckpoint, CheckpointSnapshot.build, hwal, hmesh]
  · have hvalid := hsane.ledger.valid.mesh hmesh
    exact .of_checkpoint hvalid (hsane.ledger.untouched hledger) orders.dots

variable {action : NodeStep}

lemma step_accounted (hsane : node.Sane) (hlogs : node.LogsDots action)
    {checkpoint : Option (Nat × AworsetSnapshot)}
    (haccounted : node.service.ledger.Accounted checkpoint) :
    (node.step action).service.ledger.Accounted checkpoint := by
  cases action with
  | act act fault =>
    rw [step]
    split
    next hacts =>
      refine proceed_keeps hsane.ledger.present.1 ?_ fun hfault hfailure => ?_
      · refine Act.secure_keeps (node.met_formed hacts.2)
          (fun _ hreaches => haccounted.of_recorded hreaches) fun pair hpair => ?_
        exact haccounted.of_recorded (secure_recorded (hlogs.1 pair hpair))
      · have hlocal : ((node.met act).withFailure none).isPeer = false := by
          rw [Act.isPeer_withFailure, isPeer_met, Bool.eq_false_iff]
          exact fun hpeer => hlogs.2 hpeer hfailure hfault
        exact .left (Act.step_own hlocal) haccounted
    · exact haccounted
  | finish =>
    rw [step, complete]
    split
    · exact haccounted
    next io cmd walLsn hflight =>
      dsimp only
      rw [finish_ledger_eq (hlogs _ hflight)]
      exact haccounted
  | capture clock orders => exact haccounted
  | publish fault =>
    obtain ⟨_, _, heq, _⟩ := node.publish_frame fault
    rw [step, heq]
    exact haccounted

/-- The image that was captured last accounts for the blocklist. -/
def Imaged (node : MeshNode) : Prop :=
  ∀ taken ∈ node.captured, node.service.ledger.Accounted (some taken)

lemma step_images (node : MeshNode) (action : NodeStep) :
    ((node.step action).captured = node.captured ∨
        ∃ clock orders, action = .capture clock orders) ∧
      ((node.step action).checkpoint = node.checkpoint ∨
        ∃ taken ∈ node.captured, (node.step action).checkpoint = some taken) := by
  cases action with
  | act act fault =>
    rw [step]
    split
    · obtain ⟨_, _, heq⟩ := node.proceed_frame act fault
      rw [heq]
      exact ⟨.inl rfl, .inl rfl⟩
    · exact ⟨.inl rfl, .inl rfl⟩
  | finish =>
    rw [step, complete]
    split <;> exact ⟨.inl rfl, .inl rfl⟩
  | capture clock orders => exact ⟨.inr ⟨clock, orders, rfl⟩, .inl rfl⟩
  | publish fault =>
    obtain ⟨_, _, heq, hcheckpoint⟩ := node.publish_frame fault
    rw [step, heq]
    exact ⟨.inl rfl, hcheckpoint⟩

lemma capture_imaged (hsane : node.Sane) (clock : Clock) (orders : HashOrders) :
    (node.step (.capture clock orders)).Imaged ∧
      (node.step (.capture clock orders)).captured.isSome := by
  obtain ⟨taken, htaken, haccounted⟩ := accounted_of_capture hsane clock orders
  refine ⟨fun other hother => ?_, isSome_of_eq_some htaken⟩
  cases htaken.symm.trans hother
  exact haccounted

lemma step_imaged (hsane : node.Sane) (hlogs : node.LogsDots action) (himaged : node.Imaged) :
    (node.step action).Imaged ∧ (node.captured.isSome → (node.step action).captured.isSome) := by
  rcases (node.step_images action).1 with hkept | ⟨clock, orders, rfl⟩
  · unfold Imaged
    rw [hkept]
    exact ⟨fun taken htaken => step_accounted hsane hlogs (himaged taken htaken), id⟩
  · obtain ⟨hnext, hsome⟩ := capture_imaged hsane clock orders
    exact ⟨hnext, fun _ => hsome⟩

/-- The image and the checkpoint account for the blocklist. -/
structure Settled (node : MeshNode) : Prop where
  sane : node.Sane
  imaged : node.Imaged
  accounted : node.service.ledger.Accounted node.checkpoint

lemma step_settled (node : MeshNode) (action : NodeStep) (hsettled : node.Settled)
    (hlogs : node.LogsDots action) : (node.step action).Settled := by
  obtain ⟨hsane, himaged, haccounted⟩ := hsettled
  refine ⟨node.step_sane action hsane, (step_imaged hsane hlogs himaged).1, ?_⟩
  rcases (node.step_images action).2 with hkept | ⟨taken, htaken, hpublished⟩
  · rw [hkept]
    exact step_accounted hsane hlogs haccounted
  · rw [hpublished]
    exact step_accounted hsane hlogs (himaged taken htaken)

/-! ## Crashes -/

/-- The image becomes the checkpoint. -/
def Places (node : MeshNode) (fault : Option LogFault) : Prop :=
  node.poisoned = false ∧ (fault = none ∨ fault = some .left)

/-- The run is empty, or ends with a publication since whose capture all dots were logged. -/
def Anchored (node : MeshNode) (history : List NodeStep) : Prop :=
  history = [] ∨ ∃ earlier clock orders between fault,
    history = earlier ++ .capture clock orders :: between ++ [.publish fault] ∧
      Respects step LogsDots (run step node (earlier ++ [.capture clock orders])) between ∧
      (run step node (earlier ++ .capture clock orders :: between)).Places fault

lemma Settled.of_publish {fault : Option LogFault} (hsane : node.Sane) (himaged : node.Imaged)
    (hcaptured : node.captured.isSome) (hplaces : node.Places fault) :
    (node.publish fault).Settled := by
  obtain ⟨taken, htaken⟩ := isSome_iff_exists.mp hcaptured
  have hplaced : (node.publish fault).checkpoint = some taken := by
    obtain ⟨hhealthy, rfl | rfl⟩ := hplaces
    · simp [publish, htaken, hhealthy]
    · simp [publish, htaken, hhealthy]
  refine ⟨node.step_sane (.publish fault) hsane, ?_, ?_⟩
  · exact (step_imaged hsane (by trivial : node.LogsDots (.publish fault)) himaged).1
  · rw [hplaced]
    obtain ⟨_, _, heq, _⟩ := node.publish_frame fault
    rw [heq]
    exact himaged taken htaken

section Runs

variable (store : Store) (epoch : Instant) (nodeId : Nat) (incarnation : Uuid) (attached : Bool)

lemma Anchored.settled {history : List NodeStep}
    (hanchored : (start store epoch nodeId incarnation attached).Anchored history) :
    (run step (start store epoch nodeId incarnation attached) history).Settled := by
  have hsane := run_invariant step_sane (start_sane store epoch nodeId incarnation attached)
  rcases hanchored with rfl | ⟨earlier, clock, orders, between, fault, rfl, hbetween, hplaces⟩
  · exact ⟨hsane [], nofun, _, _, rfl, nofun, fun _ _ _ => ⟨_, rfl, fun _ => rfl⟩⟩
  -- From the capture on, the image accounts for the blocklist, whatever the checkpoint does.
  have hstep (node : MeshNode) (action : NodeStep)
      (hnode : node.Sane ∧ node.Imaged ∧ node.captured.isSome) (hlogs : node.LogsDots action) :
      (node.step action).Sane ∧ (node.step action).Imaged ∧
        (node.step action).captured.isSome := by
    obtain ⟨himaged, hsome⟩ := step_imaged hnode.1 hlogs hnode.2.1
    exact ⟨node.step_sane action hnode.1, himaged, hsome hnode.2.2⟩
  have hnode := hsane earlier
  rw [run_append] at hbetween hplaces ⊢
  rw [run_append]
  generalize run step (start store epoch nodeId incarnation attached) earlier = node at *
  have hcaptured := capture_imaged hnode clock orders
  obtain ⟨hlast, himaged, hsome⟩ :=
    (Along.of_respects hstep ⟨node.step_sane _ hnode, hcaptured⟩ hbetween).last
  exact .of_publish hlast himaged hsome hplaces

/-- Take any run that is empty or ends with the publication of a checkpoint, all steps since
its capture having logged their dots, and go on with steps that log theirs: a crash at any
point of these steps loses nothing. -/
theorem durable_since_checkpoint (history steps : List NodeStep)
    (hanchor : (start store epoch nodeId incarnation attached).Anchored history)
    (hlogs : Respects step LogsDots
      (run step (start store epoch nodeId incarnation attached) history) steps) :
    Along step Durable (run step (start store epoch nodeId incarnation attached) history)
      steps := by
  refine (Along.of_respects step_settled hanchor.settled hlogs).mono ?_
  rintro node ⟨_, _, mesh, wal, hledger, hrebuilds⟩
  exact ⟨mesh, wal, hledger, hrebuilds.rebuilt⟩

/-- A peer's operation logs its dot, and a local block touches none. -/
lemma logsDots_peer (node : MeshNode) (io : Io) (nowMs : Nat) (mutation : PendingMeshMutation) :
    node.LogsDots (.act (.peer io nowMs mutation) .refused) := by
  refine ⟨fun pair hpair => ?_, fun _ _ => nofun⟩
  unfold met at hpair
  split at hpair <;> cases hpair

lemma logsDots_block (node : MeshNode) (io : Io) {cmd : EnforceCommand}
    (haction : cmd.action = .block) (fault : LogFault) :
    node.LogsDots (.act (.command io cmd) fault) := by
  refine ⟨?_, nofun⟩
  rintro pair hpair ⟨_, hunblock, _⟩
  have hcmd : pair.2 = cmd := by
    unfold met at hpair
    split at hpair <;> (cases hpair; rfl)
  rw [hcmd, haction] at hunblock
  cases hunblock

end Runs

/-- The block of a peer for good. -/
def peerBlock (address : BitVec 32) : NodeStep :=
  .act (.peer (.at ⟨0, 0⟩ address.toNat) 0
    (.block ⟨.v4 address, ⟨2, 1, address.toNat⟩, 0, u64Max, 0⟩)) .refused

/-- A local block, whose dot only the image has. A peer's block comes before the image is
published and another one after it; then a local block fails with its record in the log, and the
next image is written over the poisoned log. -/
theorem durable_since_checkpoint_peer :
    let node := start (Store.new.setRamLimitMb 64) 0 1 1 true
    let history : List NodeStep :=
      [.act (.command (.at ⟨0, 0⟩ 1) (.operator 1 .block (.v4 1) 0)) .refused, .finish,
        .capture ⟨0, 0⟩ .sorted, peerBlock 2, .publish none]
    let steps : List NodeStep :=
      [peerBlock 3,
        .act (.command { Io.at ⟨0, 0⟩ 9 with walFailure := some "io error: disk full" }
          (.operator 9 .block (.v4 4) 0)) .left,
        .capture ⟨0, 0⟩ .sorted, .publish none]
    node.Anchored history ∧ Respects step LogsDots (run step node history) steps ∧
      Along step Durable (run step node history) steps := by
  intro node history steps
  have hanchor : node.Anchored history :=
    .inr ⟨history.take 2, _, _, [peerBlock 2], none, rfl, ⟨logsDots_peer _ _ _ _, trivial⟩,
      by decide +kernel, .inl rfl⟩
  have hlogs : Respects step LogsDots (run step node history) steps :=
    ⟨logsDots_peer _ _ _ _, logsDots_block _ _ rfl _, trivial, trivial, trivial⟩
  exact ⟨hanchor, hlogs, durable_since_checkpoint _ _ _ _ _ history steps hanchor hlogs⟩

/-- The dot of a local block has no record. -/
theorem durable_since_checkpoint_fails :
    ¬ Along step Durable (start (Store.new.setRamLimitMb 64) 0 1 1 true)
      [.act (.command (.at ⟨0, 0⟩ 1) (.operator 1 .block (.v4 1) 0)) .refused, .finish] := by
  intro halong
  obtain ⟨mesh, wal, hledger, hrebuilt⟩ := halong.last
  cases hledger
  obtain ⟨rebuilt, hrebuild, hregister⟩ := hrebuilt 0 1 2
  cases hrebuild
  have hlive := congrArg Register.live (hregister ⟨.v4 1, 1, 1⟩)
  revert hlive
  decide

end MeshNode

end RamShield
