import Mathlib.Data.List.ReduceOption
import RamShield.Enforcement.MeshApply

/-! # The enforcement actor

The service as a machine: it takes commands from its channel, drains the frames
that the transport admitted, repairs projections and expires leases. A pass over
several commands is itself a run, of one command after the other, so that a
property of the single command carries over to the pass and to every run of the
actor.
-/

namespace RamShield

open Foundation Foundation.Machine List

/-- What the actor does. A frame comes with the time of the transport's check. -/
inductive ActorStep
  | command (io : Io) (cmd : EnforceCommand)
  | receive (ios : Nat → Io) (frames : List (Nat × WireMessage))
  | reconcile (ios : Nat → Io) (order : IterOrder IpAddr)
  | expire (ios : Nat → Io) (networks : IterOrder IpNetwork)

def admitted (frames : List (Nat × WireMessage)) : List MeshMessage :=
  (frames.filter fun frame => frame.2.valid frame.1).map fun frame => frame.2.queued

def ActorStep.step (service : EnforcementService) : ActorStep → EnforcementService
  | .command io cmd => (service.enforce io cmd).2
  | .receive ios frames => (service.applyMeshMessages ios (admitted frames)).2.2
  | .reconcile ios order => service.reconcileMeshProjection ios order
  | .expire ios networks => service.expireDue ios networks

/-! ## Passes as runs -/

def scheduled {Item : Type} (ios : Nat → Io) : Nat → List Item → List (Io × Item)
  | _, [] => []
  | index, item :: items => (ios index, item) :: scheduled ios (index + 1) items

variable {Item : Type} {nowMs : Nat} {mutation : PendingMeshMutation}

lemma scheduled_append (ios : Nat → Io) (index : Nat) (first second : List Item) :
    scheduled ios index (first ++ second) =
      scheduled ios index first ++ scheduled ios (index + first.length) second := by
  induction first generalizing index with
  | nil => rfl
  | cons item items ih =>
    rw [cons_append, scheduled, ih, scheduled, length_cons, cons_append,
      Nat.add_right_comm, Nat.add_assoc]

variable {ios : Nat → Io} {index : Nat} {items : List Item} {pair : Io × Item}

lemma mem_of_mem_scheduled (hmem : pair ∈ scheduled ios index items) : pair.2 ∈ items := by
  induction items generalizing index with
  | nil => cases hmem
  | cons item items ih =>
    rcases mem_cons.mp hmem with rfl | hlater
    · exact mem_cons_self
    · exact mem_cons_of_mem _ (ih hlater)

lemma exists_of_mem_scheduled (hmem : pair ∈ scheduled ios index items) :
    ∃ position, ios position = pair.1 := by
  induction items generalizing index with
  | nil => cases hmem
  | cons item items ih =>
    rcases mem_cons.mp hmem with rfl | hlater
    · exact ⟨index, rfl⟩
    · exact ih hlater

namespace EnforcementService

lemma eachDue_eq_run {Item : Type} (each : EnforcementService → Io → Item → EnforcementService)
    (ios : Nat → Io) (service : EnforcementService) (index : Nat) (items : List Item) :
    eachDue each ios service index items =
      run (fun service pair => each service pair.1 pair.2) service (scheduled ios index items) := by
  induction items generalizing service index with
  | nil => rfl
  | cons item items ih => exact ih _ _

def peerStep (nowMs : Nat) (service : EnforcementService) (pair : Io × PendingMeshMutation) :
    EnforcementService :=
  (service.applyMutation pair.1 nowMs pair.2).2

variable (service : EnforcementService) (ios nowMs) (messages : List MeshMessage)

lemma foldl_applyItem (items : List (Option PendingMeshMutation)) (batch : MeshBatch) :
    (items.foldl (applyItem ios nowMs) batch).service =
        run (peerStep nowMs) batch.service (scheduled ios batch.used items.reduceOption) ∧
      (items.foldl (applyItem ios nowMs) batch).used = batch.used + items.reduceOption.length := by
  induction items generalizing batch with
  | nil => exact ⟨rfl, rfl⟩
  | cons item items ih =>
    rw [foldl_cons]
    cases item with
    | none =>
      rw [reduceOption_cons_of_none]
      exact ih _
    | some mutation =>
      obtain ⟨hservice, hused⟩ := ih (applyItem ios nowMs batch (some mutation))
      rw [reduceOption_cons_of_some, hservice, hused]
      refine ⟨rfl, ?_⟩
      rw [length_cons]
      exact Nat.add_right_comm _ _ _

lemma foldl_applyMessage (state : MeshBatch × List (Bool × Option Nat)) :
    (messages.foldl (applyMessage ios nowMs) state).1.service =
      run (peerStep nowMs) state.1.service
        (scheduled ios state.1.used (messages.flatMap MeshMessage.items).reduceOption) := by
  induction messages generalizing state with
  | nil => rfl
  | cons message messages ih =>
    obtain ⟨hservice, hused⟩ :=
      foldl_applyItem nowMs ios message.items { state.1 with accepted := true }
    rw [foldl_cons, ih, flatMap_cons, reduceOption_append, scheduled_append, run_append]
    unfold applyMessage
    dsimp only
    rw [hservice, hused]

def operations (messages : List MeshMessage) : List PendingMeshMutation :=
  (messages.flatMap MeshMessage.items).reduceOption

lemma applyMeshMessages_eq_run :
    (service.applyMeshMessages ios messages).2.2 =
      if service.meshHandle then
        run (peerStep (ios 0).clock.wallMs) service (scheduled ios 0 (operations messages))
      else service := by
  unfold applyMeshMessages
  split
  · exact foldl_applyMessage _ ios messages _
  · rfl

end EnforcementService

/-! ## What the transport admits -/

/-- The field checks of the wire. The address of a block is not among them. -/
def PendingMeshMutation.WellFormed : PendingMeshMutation → Prop
  | .block delta => delta.dot.validWire = true ∧
      (delta.expiresAtMs = u64Max ∨ delta.createdAtMs ≤ delta.expiresAtMs)
  | .unblock delta => delta.ip.isUnspecified = false ∧ delta.dot.validWire = true

lemma ClusterBlockDelta.wellFormed_of_validWire {delta : ClusterBlockDelta}
    (hvalid : delta.validWire nowMs) : (PendingMeshMutation.block delta).WellFormed := by
  simp only [validWire, Bool.and_eq_true, Bool.or_eq_true, beq_iff_eq, decide_eq_true_eq] at hvalid
  exact ⟨hvalid.1.1, hvalid.2⟩

lemma ClusterUnblockDelta.wellFormed_of_validWire {delta : ClusterUnblockDelta}
    (hvalid : delta.validWire) : (PendingMeshMutation.unblock delta).WellFormed := by
  simp only [validWire, Bool.and_eq_true, Bool.not_eq_true'] at hvalid
  exact hvalid

lemma wellFormed_of_validDeltas {blocks : List ClusterBlockDelta}
    {unblocks : List ClusterUnblockDelta} (hvalid : validDeltas blocks unblocks nowMs)
    (hmem : some mutation ∈ (MeshMessage.sync blocks unblocks).items) : mutation.WellFormed := by
  simp only [validDeltas, Bool.and_eq_true, all_eq_true] at hvalid
  simp only [MeshMessage.items, mem_append, mem_map, Option.some.injEq] at hmem
  rcases hmem with ⟨delta, hdelta, rfl⟩ | ⟨delta, hdelta, rfl⟩
  · exact delta.wellFormed_of_validWire (hvalid.1.2 delta hdelta)
  · exact delta.wellFormed_of_validWire (hvalid.2 delta hdelta)

lemma ReplicatedMeshMutation.wellFormed_of_validWire {replicated : ReplicatedMeshMutation}
    {startLsn endLsn : Nat} (hvalid : replicated.validWire startLsn endLsn nowMs)
    (hoperation : replicated.operation = some mutation) : mutation.WellFormed := by
  obtain ⟨incarnation, hincarnation, heq⟩ := Option.map_eq_some_iff.mp hoperation
  obtain ⟨_, hnonnil⟩ := Option.filter_eq_some_iff.mp hincarnation
  simp only [validWire, Bool.and_eq_true, decide_eq_true_eq, bne_iff_ne,
    Bool.not_eq_true'] at hvalid
  obtain ⟨⟨⟨⟨⟨⟨_, hnode⟩, hcounter⟩, _⟩, hip⟩, _⟩, hexpiry⟩ := hvalid
  have hdot : (⟨replicated.originNodeId, incarnation, replicated.originCounter⟩ :
      ClusterDot).validWire := by
    simp [ClusterDot.validWire, hnode, Nat.ne_of_gt hcounter, hnonnil]
  cases haction : replicated.action with
  | block =>
    rw [haction] at heq hexpiry
    subst heq
    refine ⟨hdot, ?_⟩
    cases hexpires : replicated.expiresAtMs with
    | none => exact .inl rfl
    | some expiry =>
      rw [hexpires, Option.all_some, decide_eq_true_eq] at hexpiry
      exact .inr hexpiry
  | unblock =>
    rw [haction] at heq
    subst heq
    exact ⟨hip, hdot⟩

lemma MeshMessage.wellFormed_of_valid {message : MeshMessage} (hvalid : message.valid nowMs)
    (hmem : some mutation ∈ message.items) : mutation.WellFormed := by
  cases message with
  | block delta =>
    cases mem_singleton.mp hmem
    exact delta.wellFormed_of_validWire hvalid
  | unblock delta =>
    cases mem_singleton.mp hmem
    exact delta.wellFormed_of_validWire hvalid
  | sync blocks unblocks => exact wellFormed_of_validDeltas hvalid hmem
  | walBatch source first last mutations =>
    simp only [valid, Bool.and_eq_true, all_eq_true] at hvalid
    obtain ⟨replicated, hreplicated, heq⟩ := mem_map.mp hmem
    exact replicated.wellFormed_of_validWire (hvalid.2 replicated hreplicated) heq

lemma WireMessage.wellFormed_of_valid {message : WireMessage} (hvalid : message.valid nowMs)
    (hmem : some mutation ∈ message.queued.items) : mutation.WellFormed := by
  cases message with
  | standard message => exact message.wellFormed_of_valid hvalid hmem
  | recovery message =>
    cases message with
    | frame generation recoveryId digest frameIndex frameCount blocks unblocks =>
      simp only [valid, Bool.and_eq_true] at hvalid
      exact wellFormed_of_validDeltas hvalid.2 hmem
    | complete generation recoveryId digest frameCount => cases hmem

lemma wellFormed_of_mem_operations {frames : List (Nat × WireMessage)}
    (hmem : mutation ∈ EnforcementService.operations (admitted frames)) : mutation.WellFormed := by
  rw [EnforcementService.operations, reduceOption_mem_iff, mem_flatMap] at hmem
  obtain ⟨message, hmessage, hitem⟩ := hmem
  obtain ⟨frame, hframe, rfl⟩ := mem_map.mp hmessage
  exact frame.2.wellFormed_of_valid (mem_filter.mp hframe).2 hitem

end RamShield
