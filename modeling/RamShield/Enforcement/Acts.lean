import RamShield.Enforcement.Outcome

/-! # The elementary acts of the actor

A step of the actor is a run of acts, and an act is about one address or one
prefix at most. What an act can do is said here once, so that a property of runs
has to be checked for each act and nothing else.
-/

namespace RamShield

open Foundation Foundation.Machine EnforcementService List

/-- What the actor does at a time. -/
inductive Act
  | command (io : Io) (cmd : EnforceCommand)
  | peer (io : Io) (nowMs : Nat) (mutation : PendingMeshMutation)
  | repair (ttls : List (IpAddr × Nat)) (nowMs : Nat) (io : Io) (ip : IpAddr)
  | forget
  | drain (now : Nat)
  | expireIp (io : Io) (ip : IpAddr)
  | expireCidr (io : Io) (network : IpNetwork)

def Act.step (service : EnforcementService) : Act → EnforcementService
  | .command io cmd => (service.enforce io cmd).2
  | .peer io nowMs mutation => (service.applyMutation io nowMs mutation).2
  | .repair ttls nowMs io ip => reconcileIp ttls nowMs service io ip
  | .forget => { service with meshProjectionPending := ∅ }
  | .drain now => { service with leases := (service.leases.drainDue now).2 }
  | .expireIp io ip => service.expireIp io ip
  | .expireCidr io network => service.expireCidr io network

/-- The operations of peers are those that the wire lets through. -/
def Act.Formed : Act → Prop
  | .peer _ _ mutation => mutation.WellFormed
  | _ => True

/-! ## Steps as runs of acts -/

namespace ActorStep

def acts (service : EnforcementService) : ActorStep → List Act
  | .command io cmd => [.command io cmd]
  | .receive ios frames =>
    if service.meshHandle then
      (scheduled ios 0 (operations (admitted frames))).map fun pair =>
        .peer pair.1 (ios 0).clock.wallMs pair.2
    else []
  | .reconcile ios order =>
    match service.meshBlocklist with
    | none => [.forget]
    | some mesh =>
      (scheduled ios 0 ((order.enum service.meshProjectionPending).take 64)).map fun pair =>
        .repair (mesh.activeBlockTtls (ios 0).clock.wallMs) (ios 0).clock.wallMs pair.1 pair.2
  | .expire ios networks =>
    let due := service.dueReleases ios
    let cidrs := networks.enum ((service.released ios).dueCidrs (ios due.length).clock.mono)
    .drain (((ios 0).clock.mono - service.epoch) / secNs) ::
      due.map (fun pair => .expireIp pair.1 pair.2) ++
        (scheduled ios due.length cidrs).map fun pair => .expireCidr pair.1 pair.2

variable {Item : Type}

lemma run_map (act : Item → Act) (service : EnforcementService) (items : List Item) :
    run Act.step service (items.map act) =
      run (fun service item => Act.step service (act item)) service items :=
  foldl_map

variable (ios : Nat → Io) (index : Nat) (items : List Item)

lemma length_scheduled : (scheduled ios index items).length = items.length := by
  induction items generalizing index with
  | nil => rfl
  | cons item items ih => rw [scheduled, length_cons, ih, length_cons]

lemma map_snd_scheduled : (scheduled ios index items).map Prod.snd = items := by
  induction items generalizing index with
  | nil => rfl
  | cons item items ih => rw [scheduled, map_cons, ih]

lemma step_eq_run (service : EnforcementService) (action : ActorStep) :
    ActorStep.step service action = run Act.step service (action.acts service) := by
  cases action with
  | command io cmd => rfl
  | receive ios frames =>
    change (service.applyMeshMessages ios (admitted frames)).2.2 = _
    rw [applyMeshMessages_eq_run, acts]
    split
    · rw [run_map]
      rfl
    · rfl
  | reconcile ios order =>
    change service.reconcileMeshProjection ios order = _
    unfold reconcileMeshProjection
    rw [acts]
    cases hmesh : service.meshBlocklist with
    | none => simp [Act.step, hmesh]
    | some mesh =>
      dsimp only
      rw [run_map, eachDue_eq_run]
      rfl
  | expire ios networks =>
    have hlength : (service.dueReleases ios).length =
        (service.leases.drainDue (((ios 0).clock.mono - service.epoch) / secNs)).1.length :=
      length_scheduled ..
    change service.expireDue ios networks = _
    unfold expireDue
    rw [acts, hlength]
    dsimp only
    simp only [eachDue_eq_run]
    rw [run_append, run_cons, run_map, run_map]
    rfl

lemma acts_formed (service : EnforcementService) (action : ActorStep) :
    ∀ act ∈ action.acts service, act.Formed := by
  intro act hact
  cases action with
  | command io cmd =>
    cases mem_singleton.mp hact
    trivial
  | receive ios frames =>
    rw [acts] at hact
    split at hact
    · obtain ⟨pair, hpair, rfl⟩ := mem_map.mp hact
      exact wellFormed_of_mem_operations (mem_of_mem_scheduled hpair)
    · cases hact
  | reconcile ios order =>
    rw [acts] at hact
    split at hact
    · cases mem_singleton.mp hact
      trivial
    · obtain ⟨pair, _, rfl⟩ := mem_map.mp hact
      trivial
  | expire ios networks =>
    rw [acts, cons_append] at hact
    rcases mem_cons.mp hact with rfl | hact
    · trivial
    rcases mem_append.mp hact with hact | hact
    all_goals
      obtain ⟨pair, _, rfl⟩ := mem_map.mp hact
      trivial

end ActorStep

/-! ## What the acts do to the ledger -/

namespace Act

def isPeer : Act → Bool
  | .peer _ _ _ => true
  | _ => false

/-- The local command about an address that the act runs. -/
def own : Act → Option (Io × EnforceCommand)
  | .command io cmd => some (io, cmd)
  | .expireIp io ip => some (io, ttlUnblock io ip none)
  | _ => none

/-- The act up to the release of the barrier; only a local block touches the ledger later. -/
def secure (service : EnforcementService) : Act → EnforcementService
  | .command io cmd => (service.secure io cmd).2
  | act => act.step service

/-- The command that has left the barrier, with the position of its record. -/
def inFlight (service : EnforcementService) : Act → Option (Io × EnforceCommand × Option Nat)
  | .command io cmd => (service.secure io cmd).1.map (io, cmd, ·)
  | _ => none

/-- Why the log takes no record of the act. -/
def failure : Act → Option String
  | .command io _ => io.walFailure
  | .peer io _ _ => io.walFailure
  | .expireIp io _ => io.walFailure
  | .expireCidr io _ => io.walFailure
  | _ => none

def withFailure (failure : Option String) : Act → Act
  | .command io cmd => .command { io with walFailure := failure } cmd
  | .peer io nowMs mutation => .peer { io with walFailure := failure } nowMs mutation
  | .expireIp io ip => .expireIp { io with walFailure := failure } ip
  | .expireCidr io network => .expireCidr { io with walFailure := failure } network
  | act => act

variable {service : EnforcementService} {act : Act}

lemma Formed.withFailure (hformed : act.Formed) (failure : Option String) :
    (act.withFailure failure).Formed := by
  cases act <;> exact hformed

lemma isPeer_withFailure (act : Act) (failure : Option String) :
    (act.withFailure failure).isPeer = act.isPeer := by
  cases act <;> rfl

lemma step_own (hlocal : act.isPeer = false) :
    Ledger.Reaches LedgerOp.Own service.ledger (act.step service).ledger := by
  cases act with
  | command io cmd => exact service.enforce_own io cmd
  | peer io nowMs mutation => cases hlocal
  | repair ttls nowMs io ip =>
    rw [step, reconcileIp_ledger]
    exact .refl _ _
  | forget => exact .refl _ _
  | drain now => exact .refl _ _
  | expireIp io ip =>
    rw [step, expireIp_ledger]
    exact service.enforce_own io _
  | expireCidr io network =>
    rw [step, expireCidr_ledger]
    exact enforce_own _ io _

lemma step_sound (hformed : act.Formed) :
    Ledger.Reaches LedgerOp.Sound service.ledger (act.step service).ledger := by
  cases hpeer : act.isPeer with
  | false => exact (step_own hpeer).mono fun _ hop => hop.sound
  | true =>
    cases act with
    | peer io nowMs mutation =>
      exact (service.applyMutation_fromPeer io nowMs hformed).mono fun _ hop => hop.recorded.sound
    | _ => cases hpeer

lemma secure_keeps {motive : Ledger → Prop} (hformed : act.Formed)
    (hrecorded : ∀ next, Ledger.Reaches LedgerOp.Recorded service.ledger next → motive next)
    (hown : ∀ pair ∈ act.own, motive (service.secure pair.1 pair.2).2.ledger) :
    motive (act.secure service).ledger := by
  cases act with
  | command io cmd => exact hown _ rfl
  | peer io nowMs mutation =>
    exact hrecorded _
      ((service.applyMutation_fromPeer io nowMs hformed).mono fun _ hop => hop.recorded)
  | repair ttls nowMs io ip =>
    change motive (reconcileIp ttls nowMs service io ip).ledger
    rw [reconcileIp_ledger]
    exact hrecorded _ (.refl _ _)
  | forget => exact hrecorded _ (.refl _ _)
  | drain now => exact hrecorded _ (.refl _ _)
  | expireIp io ip =>
    change motive (service.expireIp io ip).ledger
    rw [expireIp_ledger, enforce_ledger_of_unblock _ _ rfl]
    exact hown _ rfl
  | expireCidr io network =>
    change motive (service.expireCidr io network).ledger
    rw [expireCidr_ledger, enforce_ledger_of_unblock _ _ rfl]
    refine hrecorded _ (secure_recorded ?_)
    rintro ⟨_, _, hcidr, _⟩
    cases hcidr

lemma inFlight_of_failure (hwal : service.wal.isSome) (hfailure : act.failure.isSome) :
    act.inFlight service = none := by
  cases act with
  | command io cmd => rw [inFlight, secure_of_failure hwal hfailure, Option.map_none]
  | _ => rfl

lemma secure_ledger_of_failure (hwal : service.wal.isSome) (hfailure : act.failure.isSome) :
    (act.secure service).ledger = service.ledger := by
  cases act with
  | command io cmd => exact congrArg (·.2.ledger) (secure_of_failure hwal hfailure)
  | peer io nowMs mutation => exact applyMutation_of_failure hwal hfailure nowMs mutation
  | expireIp io ip =>
    change (service.expireIp io ip).ledger = _
    rw [expireIp_ledger, enforce_ledger_of_unblock _ _ rfl]
    exact congrArg (·.2.ledger) (secure_of_failure hwal hfailure)
  | expireCidr io network =>
    change (service.expireCidr io network).ledger = _
    rw [expireCidr_ledger, enforce_ledger_of_unblock _ _ rfl]
    refine congrArg (·.2.ledger) (secure_of_failure ?_ hfailure)
    exact hwal
  | _ => cases hfailure

end Act

lemma ActorStep.run_ledger {holds : Ledger → Prop} {service : EnforcementService}
    (hkept : ∀ ledger op, holds ledger → LedgerOp.Sound op → holds (ledger.step op))
    (hstart : holds service.ledger) (steps : List ActorStep) :
    holds (run ActorStep.step service steps).ledger := by
  have hact (service : EnforcementService) (act : Act) (hledger : holds service.ledger)
      (hformed : act.Formed) : holds (act.step service).ledger :=
    (Act.step_sound hformed).invariant hkept hledger
  have hstep (service : EnforcementService) (action : ActorStep) (hledger : holds service.ledger) :
      holds (ActorStep.step service action).ledger := by
    rw [action.step_eq_run]
    exact (Along.of_respects hact hledger
      (Respects.of_forall fun act hmem _ => action.acts_formed service act hmem)).last
  exact run_invariant hstep hstart steps

/-! ## What the acts can do -/

namespace Standing

lemma Regular.address_schedule {standing : Standing} (hregular : standing.Regular)
    (ip : IpAddr) (bucket : Nat) :
    ({ standing with leases := standing.leases.schedule ip bucket } : Standing).address =
      Function.update standing.address ip { standing.address ip with lease := some bucket } := by
  have hlease := hregular.leases.lease_schedule ip
  apply address_eq_update
  · unfold address
    rw [hlease, if_pos rfl]
  · intro other hother
    unfold address
    rw [hlease, if_neg hother]

lemma Regular.address_drain {standing : Standing} (hregular : standing.Regular) (now : Nat)
    (ip : IpAddr) :
    ({ standing with leases := (standing.leases.drainDue now).2 } : Standing).address ip =
      { standing.address ip with
        lease := (standing.address ip).lease.filter fun bucket => now < bucket } := by
  unfold address
  rw [(hregular.leases.drainDue now).lease_eq]

end Standing

namespace EnforcementService

inductive ExpiryOutcome (service : EnforcementService) (io : Io) (ip : IpAddr) :
    EnforcementService → Prop
  | dropped {next : EnforcementService}
      (hidle : ¬ service.Commits io (ttlUnblock io ip none) none .append)
      (hleaves : service.Leaves service.address [] next) : ExpiryOutcome service io ip next
  | delayed {next : EnforcementService}
      (hidle : ¬ service.Commits io (ttlUnblock io ip none) none .append)
      (hleaves : service.Leaves (Function.update service.address ip
        { service.address ip with lease := some (service.bucketOf (io.clock.mono + secNs)) })
        [] next) : ExpiryOutcome service io ip next
  | released {next : EnforcementService}
      (hcommits : service.Commits io (ttlUnblock io ip none) none .append)
      (hleaves : service.Leaves
        (Function.update service.address ip ((service.address ip).unblock true))
        [.note (.unblockIp (some ip) io.clock.wallNs), .unban io.clock io.dots ip] next) :
      ExpiryOutcome service io ip next

variable {service : EnforcementService}

lemma scheduleExpiration_leaves (hregular : service.Regular) (ip : IpAddr) (deadline : Instant) :
    service.Leaves (Function.update service.address ip
      { service.address ip with lease := some (service.bucketOf deadline) }) []
      (service.scheduleExpiration ip deadline) :=
  ⟨⟨hregular.plain, hregular.leases.schedule ip _⟩, rfl, rfl, hregular.address_schedule ip _, rfl⟩

lemma expireIp_outcome (hregular : service.Regular) (io : Io) (ip : IpAddr) :
    ExpiryOutcome service io ip (service.expireIp io ip) := by
  have houtcome := enforceInner_outcome hregular io (ttlUnblock io ip none) none .append
  unfold expireIp enforce
  generalize service.enforceInner io (ttlUnblock io ip none) none .append = outcome at houtcome ⊢
  obtain ⟨result, next⟩ := outcome
  dsimp only at houtcome ⊢
  cases houtcome with
  | answered hidle _ => exact .dropped hidle (.refl hregular)
  | rejected hidle _ _ =>
    split
    next heq => cases heq
    next heq =>
      cases heq
      exact .dropped hidle (.refl hregular)
    next heq =>
      cases heq
      exact .delayed hidle (scheduleExpiration_leaves hregular ip _)
  | refused haction _ _ _ => cases haction
  | committed hcommits hleaves => exact .released hcommits hleaves

lemma expireCidr_leaves (hregular : service.Regular) (io : Io) (network : IpNetwork) :
    service.Leaves service.address [] (service.expireCidr io network) ∨
      service.Leaves service.address [.note (.unblockCidr network io.clock.wallNs)]
        (service.expireCidr io network) := by
  have hreleased : service.Leaves service.address []
      { service with cidrExpirations := service.cidrExpirations.erase network } :=
    ⟨⟨hregular.plain, hregular.leases⟩, rfl, rfl, rfl, rfl⟩
  have houtcome := enforceInner_outcome hreleased.regular io
    (ttlUnblock io network.addr (some network)) none .append
  obtain ⟨expirations, hnext⟩ := service.expireCidr_writes io network
  have hrearmed {middle : EnforcementService} {ops : List LedgerOp}
      (hleaves : service.Leaves service.address ops middle) :
      service.Leaves service.address ops { middle with cidrExpirations := expirations } :=
    ⟨⟨hleaves.regular.plain, hleaves.regular.leases⟩, hleaves.epoch, hleaves.handle,
      hleaves.address, hleaves.ledger⟩
  rw [hnext]
  unfold enforce
  generalize enforceInner _ io (ttlUnblock io network.addr (some network)) none .append = outcome
    at houtcome ⊢
  obtain ⟨result, next⟩ := outcome
  dsimp only at houtcome ⊢
  cases houtcome with
  | answered _ _ => exact .inl (hrearmed hreleased)
  | rejected _ _ _ => exact .inl (hrearmed hreleased)
  | refused haction _ _ _ => cases haction
  | committed _ hleaves =>
    have hnothing : localOps { service with
        cidrExpirations := service.cidrExpirations.erase network } io
          (ttlUnblock io network.addr (some network)) = [] := by
      simp [localOps, ttlUnblock]
    rw [hnothing, append_nil] at hleaves
    exact .inr (hrearmed (hreleased.trans hleaves))

inductive RepairOutcome (service : EnforcementService) (ttls : List (IpAddr × Nat)) (io : Io)
    (ip : IpAddr) : EnforcementService → Prop
  | marked {next : EnforcementService} {applied pending : Bool}
      (hleaves : service.Leaves (Function.update service.address ip
        { service.address ip with applied := applied, pending := pending }) [] next) :
      RepairOutcome service ttls io ip next
  | blocked {next : EnforcementService} {ttlSeconds : Nat}
      (hactive : ttls.lookup ip = some ttlSeconds)
      (hunsuppressed : (service.address ip).suppressed = false)
      (hfree : (service.address ip).blocked = false)
      (hleaves : service.Leaves (Function.update service.address ip
        { service.address ip with
          blocked := true
          lease := service.leaseFor io.clock ttlSeconds
          applied := true
          pending := false }) [] next) :
      RepairOutcome service ttls io ip next
  | released {next : EnforcementService} (hinactive : ttls.lookup ip = none)
      (hunsuppressed : (service.address ip).suppressed = false)
      (happlied : (service.address ip).applied = true)
      (hleaves : service.Leaves
        (Function.update service.address ip (service.afterUnblock ip)) [] next) :
      RepairOutcome service ttls io ip next

/-- Marks that are set after all else is done. -/
lemma RepairOutcome.of_marks {next : EnforcementService} {ttls : List (IpAddr × Nat)} {io : Io}
    {ip : IpAddr} {state : AddressState}
    (hleaves : service.Leaves (Function.update service.address ip state) [] next)
    (hblocked : state.blocked = (service.address ip).blocked)
    (hlease : state.lease = (service.address ip).lease)
    (hsuppressed : state.suppressed = (service.address ip).suppressed) :
    RepairOutcome service ttls io ip next := by
  have hstate : state = { service.address ip with
      applied := state.applied, pending := state.pending } := by
    cases state
    simp_all
  rw [hstate] at hleaves
  exact .marked hleaves

lemma meshRepair_outcome (hregular : service.Regular) (io : Io) (nowMs : Nat) (ip : IpAddr)
    (action : EnforceAction) (ttlSeconds : Nat) :
    ∃ next, (service.enforceInner io (meshCommand io nowMs "mesh-projection-reconciler" ip action
        ttlSeconds) none .alreadyDurable).2 = next ∧
      (service.Leaves service.address [] next ∨
        service.Leaves (Function.update service.address ip
          (service.effect io.clock (meshCommand io nowMs "mesh-projection-reconciler" ip action
            ttlSeconds) (service.address ip))) [] next) := by
  have houtcome := enforceInner_outcome hregular io
    (meshCommand io nowMs "mesh-projection-reconciler" ip action ttlSeconds) none .alreadyDurable
  generalize service.enforceInner io _ none .alreadyDurable = outcome at houtcome ⊢
  obtain ⟨result, next⟩ := outcome
  refine ⟨next, rfl, ?_⟩
  dsimp only at houtcome
  cases houtcome with
  | answered _ _ => exact .inl (.refl hregular)
  | rejected _ _ _ => exact .inl (.refl hregular)
  | refused _ _ _ hleaves => exact .inl hleaves
  | committed _ hleaves =>
    have hnothing : service.localOps io (meshCommand io nowMs "mesh-projection-reconciler" ip
        action ttlSeconds) = [] := by
      simp [localOps, meshCommand]
    rw [hnothing] at hleaves
    exact .inr hleaves

lemma reconcileIp_outcome (hregular : service.Regular) (ttls : List (IpAddr × Nat))
    (nowMs : Nat) (io : Io) (ip : IpAddr) :
    RepairOutcome service ttls io ip (reconcileIp ttls nowMs service io ip) := by
  have hsettled (applied : Finset IpAddr)
      (happlied : ∀ other, other ≠ ip → (other ∈ applied ↔ other ∈ service.meshAppliedIps)) :
      RepairOutcome service ttls io ip (service.settle applied ip) :=
    .marked (settle_leaves hregular applied ip happlied)
  unfold reconcileIp
  split
  · exact hsettled _ fun _ _ => Iff.rfl
  next hunsuppressed =>
    rw [← suppressed_iff, Bool.not_eq_true] at hunsuppressed
    split
    next ttlSeconds hactive =>
      rw [blockedNow_eq hregular]
      split
      · exact hsettled _ fun other hother => by simp [hother]
      next hfree =>
        obtain ⟨next, heq, hleaves⟩ := meshRepair_outcome hregular io nowMs ip .block ttlSeconds
        rw [heq]
        -- The repair was not committed: only the marks may have changed.
        rcases hleaves with hleaves | hleaves
        · rw [← Function.update_eq_self ip service.address] at hleaves
          have hmarked := hleaves.settleBlocked io
          refine .of_marks hmarked ?_ ?_ ?_ <;> (unfold AddressState.settleBlocked; split <;> rfl)
        · refine .blocked hactive hunsuppressed (Bool.eq_false_of_not_eq_true hfree) ?_
          have hsettle := hleaves.settleBlocked io
          simpa [effect, meshCommand, AddressState.block, AddressState.settleBlocked,
            EnforceCommand.own] using hsettle
    next hinactive =>
      split
      · exact hsettled _ fun _ _ => Iff.rfl
      next happlied =>
        rw [not_not, ← applied_iff] at happlied
        rw [blockedNow_eq hregular]
        split
        · obtain ⟨next, heq, hleaves⟩ := meshRepair_outcome hregular io nowMs ip .unblock 0
          rw [heq]
          rcases hleaves with hleaves | hleaves
          · rw [← Function.update_eq_self ip service.address] at hleaves
            have hmarked := hleaves.settleReleased io
            refine .of_marks hmarked ?_ ?_ ?_ <;>
              (unfold AddressState.settleReleased; split <;> rfl)
          · refine .released hinactive hunsuppressed happlied ?_
            have hsettle := hleaves.settleReleased io
            simpa [effect, meshCommand, AddressState.unblock, AddressState.settleReleased,
              EnforceCommand.own, afterUnblock] using hsettle
        · exact hsettled _ fun other hother => by simp [hother]

end EnforcementService

section Leaving

open EnforcementService

variable {service next : EnforcementService} {io : Io} {nowMs : Nat}

lemma EnforcementService.Outcome.leaves {cmd : EnforceCommand}
    {mutation : Option PendingMeshMutation} {durability : WalDurability}
    {result : Except EnforcementError EnforceResult}
    (houtcome : Outcome service io cmd mutation durability result next) :
    ∃ addresses ops, service.Leaves addresses ops next := by
  cases houtcome with
  | answered _ hregular => exact ⟨_, _, .refl hregular⟩
  | rejected _ hregular _ => exact ⟨_, _, .refl hregular⟩
  | refused _ _ _ hleaves => exact ⟨_, _, hleaves⟩
  | committed _ hleaves => exact ⟨_, _, hleaves⟩

lemma EnforcementService.BlockOutcome.leaves {delta : ClusterBlockDelta}
    {result : Except EnforcementError MeshApplyOutcome}
    (houtcome : BlockOutcome service io nowMs delta result next) :
    ∃ addresses ops, service.Leaves addresses ops next := by
  cases houtcome with
  | ignored _ hregular => exact ⟨_, _, .refl hregular⟩
  | idle _ _ hleaves => exact ⟨_, _, hleaves⟩
  | refused _ _ hleaves => exact ⟨_, _, hleaves⟩
  | projected _ _ hleaves => exact ⟨_, _, hleaves⟩

lemma EnforcementService.UnblockOutcome.leaves {delta : ClusterUnblockDelta}
    (houtcome : UnblockOutcome service io nowMs delta next) :
    ∃ addresses ops, service.Leaves addresses ops next := by
  cases houtcome with
  | meshless _ hregular => exact ⟨_, _, .refl hregular⟩
  | unneeded _ _ hregular => exact ⟨_, _, .refl hregular⟩
  | unrecorded _ _ hregular => exact ⟨_, _, .refl hregular⟩
  | recorded _ _ _ hleaves => exact ⟨_, _, hleaves⟩
  | idle _ _ _ _ hleaves => exact ⟨_, _, hleaves⟩
  | released _ _ _ _ hleaves => exact ⟨_, _, hleaves⟩

lemma Act.step_leaves (hregular : service.Regular) (act : Act) :
    ∃ addresses ops, service.Leaves addresses ops (act.step service) := by
  cases act with
  | command io cmd => exact (enforceInner_outcome hregular io cmd none .append).leaves
  | peer io nowMs mutation =>
    cases mutation with
    | block delta => exact (applyMeshBlock_outcome hregular io nowMs delta).leaves
    | unblock delta => exact (applyMeshUnblock_outcome hregular io nowMs delta).leaves
  | repair ttls nowMs io ip =>
    cases reconcileIp_outcome hregular ttls nowMs io ip with
    | marked hleaves => exact ⟨_, _, hleaves⟩
    | blocked _ _ _ hleaves => exact ⟨_, _, hleaves⟩
    | released _ _ _ hleaves => exact ⟨_, _, hleaves⟩
  | forget => exact ⟨_, [], ⟨hregular.plain, hregular.leases⟩, rfl, rfl, rfl, rfl⟩
  | drain now =>
    exact ⟨_, [], ⟨hregular.plain, (hregular.leases.drainDue now).wellFormed⟩, rfl, rfl, rfl, rfl⟩
  | expireIp io ip =>
    cases expireIp_outcome hregular io ip with
    | dropped _ hleaves => exact ⟨_, _, hleaves⟩
    | delayed _ hleaves => exact ⟨_, _, hleaves⟩
    | released _ hleaves => exact ⟨_, _, hleaves⟩
  | expireCidr io network =>
    rcases expireCidr_leaves hregular io network with hleaves | hleaves
    · exact ⟨_, _, hleaves⟩
    · exact ⟨_, _, hleaves⟩

end Leaving

lemma Act.step_regular (service : EnforcementService) (act : Act)
    (hregular : service.Regular) : (act.step service).Regular := by
  obtain ⟨_, _, hleaves⟩ := act.step_leaves hregular
  exact hleaves.regular

lemma ActorStep.run_regular {service : EnforcementService} (hregular : service.Regular)
    (steps : List ActorStep) : (run ActorStep.step service steps).Regular := by
  refine run_invariant (fun service action hservice => ?_) hregular steps
  rw [action.step_eq_run]
  exact run_invariant Act.step_regular hservice _

end RamShield
