import RamShield.Mesh.ConditionSync
import RamShield.Mesh.RecoverySession

/-! # The sending side of a recovery

For every configured peer the transport keeps a synchronisation state: when a
snapshot is due, and whether a recovery with a fixed snapshot is under way. An
attempt takes the state along when it starts, sends the snapshot without holding
a lock, and is compared with the state of the moment when it is joined. The
network decides what is delivered and which proof comes back. Of the completion
message the published acknowledgement epochs are left out.
-/

namespace RamShield

open Foundation

structure RecoveryContext where
  generation : Nat
  recoveryId : Uuid
  boundaryLsn : Nat
  deriving DecidableEq

/-- What an attempt takes along: the fixed snapshot and the recovery, if there is one. -/
structure SyncAttempt where
  snapshot : Option AworsetSnapshot
  recovery : Option RecoveryContext

/-- Whether all frames were acknowledged, and the proof of the completion, if it came. -/
structure SyncAnswers where
  delivered : Bool
  completion : Option (Option RecoveryProof)

def RecoveryContext.expected (context : RecoveryContext) (text : String)
    (canonical : AworsetSnapshot) : RecoveryProof where
  generation := context.generation
  recoveryId := context.recoveryId
  boundaryLsn := context.boundaryLsn
  snapshotDigest := text
  frameCount := canonical.framePayloads.length

namespace SyncAttempt

/-- The recovery part of `send_sync_snapshot`. -/
def sendRecovery (digest : SnapshotDigest) (snapshot : AworsetSnapshot)
    (context : RecoveryContext) (answers : SyncAnswers) : Bool × Option RecoveryProof :=
  if maxRecoveryEntries < snapshot.entryCount then (false, none)
  else
    match snapshot.canonicalSnapshot with
    | .error _ => (false, none)
    | .ok canonical =>
      match digest.canonicalSnapshotDigest canonical with
      | .error _ => (false, none)
      | .ok text =>
        if maxRecoveryFrames < canonical.framePayloads.length then (false, none)
        else if answers.delivered &&
            answers.completion == some (some (context.expected text canonical)) then
          (true, some (context.expected text canonical))
        else (false, none)

def sendSyncSnapshot (digest : SnapshotDigest) (live : AworsetSnapshot) (attempt : SyncAttempt)
    (answers : SyncAnswers) : Bool × Option RecoveryProof :=
  match attempt.recovery, attempt.snapshot with
  | some _, none => (false, none)
  | some context, some snapshot => sendRecovery digest snapshot context answers
  | none, fixed =>
    match (fixed.getD live).canonicalSnapshot with
    | .error _ => (false, none)
    | .ok _ => (answers.delivered, none)

end SyncAttempt

structure PeerSyncState where
  planner : ConditionSyncPlanner
  recoverySnapshot : Option AworsetSnapshot
  deliveryFailed : Bool
  generation : Nat
  recoveryBoundaryLsn : Option Nat
  recoveryId : Option Uuid
  completedRecovery : Option (Nat × Nat)

namespace PeerSyncState

def new (generation : Nat) : PeerSyncState where
  planner := .new SyncPolicy.default
  recoverySnapshot := none
  deliveryFailed := false
  generation := generation
  recoveryBoundaryLsn := none
  recoveryId := none
  completedRecovery := none

variable (state : PeerSyncState) (now : Duration)

def recoveryCompletionPending : Bool :=
  state.recoveryBoundaryLsn.isSome || state.completedRecovery.isSome

def requestFullSync (boundaryLsn : Nat) (snapshot : AworsetSnapshot) (recoveryId : Uuid) :
    PeerSyncState :=
  if maxRecoveryEntries < snapshot.entryCount then state
  else
    match snapshot.canonicalSnapshot with
    | .error _ => state
    | .ok canonical =>
      if state.recoveryCompletionPending || decide (state.generation = u64Max) then state
      else { state with
        generation := state.generation + 1
        recoveryId := some recoveryId
        recoverySnapshot := some canonical
        recoveryBoundaryLsn := some boundaryLsn
        planner := state.planner.condition .localMutation now }

def acknowledgeRecoveryCursor (generation boundaryLsn : Nat) : PeerSyncState :=
  if state.completedRecovery = some (generation, boundaryLsn) then
    { state with completedRecovery := none }
  else state

def conditionPeer (condition : SyncCondition) (now : Duration) : PeerSyncState :=
  { state with
    deliveryFailed := state.deliveryFailed || decide (condition = .deliveryFailed)
    planner := state.planner.condition condition now }

def notePeerSuccess : PeerSyncState :=
  if state.deliveryFailed then
    { state with
      deliveryFailed := false
      planner := state.planner.condition .peerReconnected now }
  else state

def context : Option RecoveryContext :=
  state.recoveryBoundaryLsn.bind fun boundaryLsn =>
    state.recoveryId.map fun recoveryId => ⟨state.generation, recoveryId, boundaryLsn⟩

/-- The part of `broadcast_sync` that starts an attempt. -/
def begin : Option SyncAttempt × PeerSyncState :=
  match state.planner.takeDue now with
  | (none, planner) => (none, { state with planner := planner })
  | (some _, planner) =>
    (some ⟨state.recoverySnapshot, state.context⟩, { state with planner := planner })

def supersedes (recovery : Option RecoveryContext) : Bool :=
  recovery.any fun context => decide (context.generation ≠ state.generation)

def proofMatches (recovery : Option RecoveryContext) (proof : Option RecoveryProof) : Bool :=
  match recovery, proof with
  | none, none => true
  | some context, some proof =>
    decide (proof.generation = context.generation ∧ proof.recoveryId = context.recoveryId ∧
      proof.boundaryLsn = context.boundaryLsn ∧
      state.recoveryBoundaryLsn = some context.boundaryLsn ∧
      state.recoveryId = some context.recoveryId)
  | _, _ => false

def recovered (context : RecoveryContext) : PeerSyncState :=
  { state with
    completedRecovery := some (context.generation, context.boundaryLsn)
    recoveryBoundaryLsn := none
    recoverySnapshot := none
    recoveryId := none }

/-- The part of `broadcast_sync` that joins an attempt. -/
def join (recovery : Option RecoveryContext) (outcome : Bool × Option RecoveryProof) :
    PeerSyncState :=
  if state.supersedes recovery then
    { state with
      planner := (state.planner.complete now true).condition .localMutation now
      deliveryFailed := false }
  else
    let success := outcome.1 && state.proofMatches recovery outcome.2
    let state := { state with
      planner := state.planner.complete now success
      deliveryFailed := !success }
    match recovery with
    | some context => if success then state.recovered context else state
    | none => state

def lose (recovery : Option RecoveryContext) : PeerSyncState :=
  let superseded := state.supersedes recovery
  let planner := state.planner.complete now superseded
  { state with
    planner := if superseded then planner.condition .localMutation now else planner
    deliveryFailed := !superseded }

/-- An attempt is joined with its outcome, or given up if it is lost. -/
def settle (recovery : Option RecoveryContext) :
    Option (Bool × Option RecoveryProof) → PeerSyncState
  | some outcome => state.join now recovery outcome
  | none => state.lose now recovery

end PeerSyncState

/-- A sender: blocklist, nodes, synchronisation states, and attempts with their outcomes. -/
structure MeshSender where
  replica : MeshReplica
  nodeIds : Table Nat Nat
  peers : Table Nat PeerSyncState
  attempts : Table Nat (SyncAttempt × Option (Bool × Option RecoveryProof))

namespace MeshSender

def update (sender : MeshSender) (peer : Nat) (change : PeerSyncState → PeerSyncState) :
    MeshSender :=
  match sender.peers.lookup peer with
  | none => sender
  | some state => { sender with peers := sender.peers.insert peer (change state) }

/-- A peer becomes due. The attempts of a pass are all joined before the next pass. -/
def begin (sender : MeshSender) (peer : Nat) (now : Duration) : MeshSender :=
  match sender.peers.lookup peer, sender.attempts.lookup peer with
  | some state, none =>
    let sender := { sender with peers := sender.peers.insert peer (state.begin now).2 }
    match (state.begin now).1 with
    | none => sender
    | some attempt => { sender with attempts := sender.attempts.insert peer (attempt, none) }
  | _, _ => sender

/-- An attempt ends. A proved recovery is recorded for the node behind the address. -/
def finish (digest : SnapshotDigest) (sender : MeshSender) (peer : Nat) (order : IterOrder BlockKey)
    (answers : SyncAnswers) : MeshSender :=
  match sender.attempts.lookup peer with
  | some (attempt, none) =>
    let outcome := attempt.sendSyncSnapshot digest
      (sender.replica.blocklist.exportSnapshot order) answers
    { sender with
      attempts := sender.attempts.insert peer (attempt, some outcome)
      replica :=
        match outcome, attempt.recovery, sender.nodeIds.lookup peer with
        | (true, some _), some context, some nodeId =>
          sender.replica.peerAcknowledged nodeId context.boundaryLsn
        | _, _, _ => sender.replica }
  | _ => sender

def join (sender : MeshSender) (peer : Nat) (now : Duration) : MeshSender :=
  match sender.attempts.lookup peer with
  | none => sender
  | some (attempt, outcome) =>
    { sender.update peer fun state => state.settle now attempt.recovery outcome with
      attempts := sender.attempts.erase peer }

end MeshSender

/-! ## What the steps of a sender leave alone -/

structure MeshSender.Continues (related : Nat → PeerSyncState → PeerSyncState → Prop)
    (ended : Nat → SyncAttempt → Bool × Option RecoveryProof → Prop)
    (sender next : MeshSender) : Prop where
  peers (peer : Nat) : Option.Rel (related peer) (sender.peers.lookup peer) (next.peers.lookup peer)
  attempts {peer : Nat} {attempt : SyncAttempt} {outcome : Option (Bool × Option RecoveryProof)} :
    next.attempts.lookup peer = some (attempt, outcome) →
      sender.attempts.lookup peer = some (attempt, outcome) ∨
      (∃ result, sender.attempts.lookup peer = some (attempt, none) ∧ outcome = some result ∧
        ended peer attempt result) ∨
      ∃ state, sender.peers.lookup peer = some state ∧
        attempt = ⟨state.recoverySnapshot, state.context⟩ ∧ outcome = none

lemma PeerSyncState.eq_of_context {state : PeerSyncState} {context : RecoveryContext}
    (hcontext : state.context = some context) :
    context.generation = state.generation ∧
      state.recoveryBoundaryLsn = some context.boundaryLsn := by
  obtain ⟨boundaryLsn, hboundary, hid⟩ := Option.bind_eq_some_iff.mp hcontext
  obtain ⟨recoveryId, _, rfl⟩ := Option.map_eq_some_iff.mp hid
  exact ⟨rfl, hboundary⟩

namespace MeshSender

variable {related : Nat → PeerSyncState → PeerSyncState → Prop}
  {ended : Nat → SyncAttempt → Bool × Option RecoveryProof → Prop}

lemma Continues.before {sender next : MeshSender}
    (hcontinues : sender.Continues related ended next)
    {peer : Nat} {state : PeerSyncState} (hstate : next.peers.lookup peer = some state) :
    ∃ earlier, sender.peers.lookup peer = some earlier ∧ related peer earlier state := by
  have hrel := hcontinues.peers peer
  rw [hstate] at hrel
  generalize sender.peers.lookup peer = earlier at hrel
  cases hrel with
  | some hrelated => exact ⟨_, rfl, hrelated⟩

lemma Continues.after {sender next : MeshSender}
    (hcontinues : sender.Continues related ended next) {peer : Nat} {state : PeerSyncState}
    (hstate : sender.peers.lookup peer = some state) :
    ∃ later, next.peers.lookup peer = some later ∧ related peer state later := by
  have hrel := hcontinues.peers peer
  rw [hstate] at hrel
  generalize next.peers.lookup peer = later at hrel
  cases hrel with
  | some hrelated => exact ⟨_, rfl, hrelated⟩

section Reflexive

variable (hrefl : ∀ peer state, related peer state state)

include hrefl

variable (sender : MeshSender) (peer : Nat) (digest : SnapshotDigest) (other : Nat)
  (answers : SyncAnswers) (order : IterOrder BlockKey)

lemma rel_refl :
    Option.Rel (related peer) (sender.peers.lookup peer) (sender.peers.lookup peer) := by
  cases sender.peers.lookup peer with
  | none => exact .none
  | some state => exact .some (hrefl peer state)

lemma rel_insert {sender : MeshSender} {peer : Nat} {state next : PeerSyncState}
    (hstate : sender.peers.lookup peer = some state) (hrelated : related peer state next)
    (other : Nat) :
    Option.Rel (related other) (sender.peers.lookup other)
      ((sender.peers.insert peer next).lookup other) := by
  rw [Table.lookup_insert_eq]
  split
  next heq =>
    subst heq
    rw [hstate]
    exact .some hrelated
  · exact rel_refl hrefl sender other

lemma Continues.refl : sender.Continues related ended sender where
  peers := rel_refl hrefl sender
  attempts := .inl

lemma continues_update {change : PeerSyncState → PeerSyncState}
    (hchange : ∀ state, sender.peers.lookup peer = some state → related peer state (change state)) :
    sender.Continues related ended (sender.update peer change) := by
  unfold update
  split
  · exact Continues.refl hrefl sender
  next state hstate => exact ⟨rel_insert hrefl hstate (hchange state hstate), .inl⟩

lemma continues_begin (now : Duration)
    (hbegin : ∀ state : PeerSyncState, related peer state (state.begin now).2) :
    sender.Continues related ended (sender.begin peer now) := by
  unfold begin
  split
  next state hstate _ =>
    dsimp only
    have hpeers := rel_insert hrefl hstate (hbegin state)
    split
    · exact ⟨hpeers, .inl⟩
    next attempt hstarts =>
      refine ⟨hpeers, ?_⟩
      intro other started outcome hattempt
      dsimp only at hattempt
      rw [Table.lookup_insert_eq] at hattempt
      split at hattempt
      next heq =>
        cases hattempt
        refine .inr (.inr ⟨state, heq ▸ hstate, ?_, rfl⟩)
        rw [PeerSyncState.begin] at hstarts
        split at hstarts
        · nomatch hstarts
        · exact (Option.some.inj hstarts).symm
      · exact .inl hattempt
  · exact Continues.refl hrefl sender

lemma continues_finish (sender : MeshSender) (peer : Nat) (order : IterOrder BlockKey)
    (answers : SyncAnswers)
    (hended : ∀ attempt, sender.attempts.lookup peer = some (attempt, none) →
      ended peer attempt (attempt.sendSyncSnapshot digest
        (sender.replica.blocklist.exportSnapshot order) answers)) :
    sender.Continues related ended (sender.finish digest peer order answers) := by
  unfold finish
  split
  next attempt hlookup =>
    refine ⟨rel_refl hrefl sender, ?_⟩
    intro other done outcome hattempt
    dsimp only at hattempt
    rw [Table.lookup_insert_eq] at hattempt
    split at hattempt
    next heq =>
      subst heq
      cases hattempt
      exact .inr (.inl ⟨_, hlookup, rfl, hended attempt hlookup⟩)
    · exact .inl hattempt
  · exact Continues.refl hrefl sender

lemma continues_join (now : Duration)
    (hsettle : ∀ attempt outcome, sender.attempts.lookup peer = some (attempt, outcome) → ∀ state,
      related peer state (PeerSyncState.settle state now attempt.recovery outcome)) :
    sender.Continues related ended (sender.join peer now) := by
  unfold join
  split
  · exact Continues.refl hrefl sender
  next attempt outcome hlookup =>
    have hupdate : sender.Continues related ended _ := continues_update hrefl sender peer
      fun state _ => hsettle attempt outcome hlookup state
    refine ⟨hupdate.peers, ?_⟩
    intro other pending done hattempt
    dsimp only at hattempt
    rw [Table.lookup_erase_eq] at hattempt
    split at hattempt
    · nomatch hattempt
    · exact .inl hattempt

end Reflexive

/-! ## The replica -/

section

variable (sender : MeshSender) (peer : Nat)

lemma replica_update (change : PeerSyncState → PeerSyncState) :
    (sender.update peer change).replica = sender.replica := by
  unfold update
  split
  · rfl
  · rfl

lemma replica_begin (now : Duration) : (sender.begin peer now).replica = sender.replica := by
  unfold begin
  split
  · dsimp only
    split
    · rfl
    · rfl
  · rfl

lemma replica_join (now : Duration) : (sender.join peer now).replica = sender.replica := by
  unfold join
  split
  · rfl
  · exact sender.replica_update peer _

end

lemma replica_finish (digest : SnapshotDigest) (sender : MeshSender) (peer : Nat)
    (order : IterOrder BlockKey) (answers : SyncAnswers) :
    (sender.finish digest peer order answers).replica = sender.replica ∨
    ∃ nodeId snapshot context,
      sender.attempts.lookup peer = some (⟨some snapshot, some context⟩, none) ∧
      sender.nodeIds.lookup peer = some nodeId ∧
      (SyncAttempt.sendRecovery digest snapshot context answers).1 ∧
      (sender.finish digest peer order answers).replica =
        sender.replica.peerAcknowledged nodeId context.boundaryLsn := by
  unfold finish
  split
  next attempt hattempt =>
    dsimp only
    split
    next proof context nodeId houtcome hrecovery hnode =>
      obtain ⟨snapshot, recovery⟩ := attempt
      cases hrecovery
      cases snapshot with
      | none => nomatch houtcome
      | some snapshot =>
        exact .inr ⟨nodeId, snapshot, context, hattempt, hnode, congrArg Prod.fst houtcome, rfl⟩
    · exact .inl rfl
  · exact .inl rfl

end MeshSender

end RamShield
