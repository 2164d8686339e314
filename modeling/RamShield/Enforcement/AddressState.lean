import RamShield.Enforcement.Expiry
import RamShield.Storage.BlockRecords

/-! # The service seen from one address

What the service keeps about an address: whether it is blocked, its lease, and
its three marks of the mesh. A command on an address changes the state of that
address only, and the new state depends on nothing but the old one, the command
and the clock.
-/

namespace RamShield

open Foundation

/-- What is kept about one address, its dots apart. The lease is its bucket. -/
structure AddressState where
  blocked : Bool
  lease : Option Nat
  applied : Bool
  suppressed : Bool
  pending : Bool
  deriving DecidableEq

namespace AddressState

/-- A block, which lifts the suppression unless it comes from the mesh. -/
def block (state : AddressState) (lease : Option Nat) (own : Bool) : AddressState :=
  { state with blocked := true, lease := lease, suppressed := state.suppressed && !own }

/-- An unblock, which suppresses the address unless it comes from the mesh. -/
def unblock (state : AddressState) (own : Bool) : AddressState :=
  { state with
    blocked := false, lease := none, applied := false, suppressed := state.suppressed || own }

end AddressState

/-- The command is not a projection of a mesh decision. -/
def EnforceCommand.own (cmd : EnforceCommand) : Bool := cmd.source != "mesh"

/-- The parts of the service that say how addresses stand. -/
structure Standing where
  store : Store
  leases : DeadlineQueue IpAddr
  epoch : Instant
  applied : Finset IpAddr
  suppressed : Finset IpAddr
  pending : Finset IpAddr

namespace Standing

variable (standing : Standing)

def address (ip : IpAddr) : AddressState where
  blocked := standing.store.holds ip
  lease := standing.leases.lease ip
  applied := decide (ip ∈ standing.applied)
  suppressed := decide (ip ∈ standing.suppressed)
  pending := decide (ip ∈ standing.pending)

/-- The store holds records without expiry, and the lease queue is well formed. -/
structure Regular : Prop where
  plain : standing.store.Plain
  leases : standing.leases.WellFormed

def place (store : Store) (ip : IpAddr) (lease : Option Nat) : Standing :=
  { standing with
    store := store
    leases := match lease with
      | some bucket => standing.leases.schedule ip bucket
      | none => standing.leases.detach ip }

variable {store : Store} {ip : IpAddr}

lemma Regular.place {standing : Standing} (hregular : standing.Regular) (hplain : store.Plain)
    (ip : IpAddr) (lease : Option Nat) : (standing.place store ip lease).Regular := by
  refine ⟨hplain, ?_⟩
  cases lease with
  | some bucket => exact hregular.leases.schedule ip bucket
  | none => exact hregular.leases.detach ip

lemma Regular.lease_place {standing : Standing} (hregular : standing.Regular) (store : Store)
    (ip : IpAddr) (lease : Option Nat) (other : IpAddr) :
    (standing.place store ip lease).leases.lease other =
      if other = ip then lease else standing.leases.lease other := by
  cases lease with
  | some bucket => exact hregular.leases.lease_schedule ip other bucket
  | none => exact hregular.leases.lease_detach ip other

lemma address_eq_update {standing next : Standing} {state : AddressState}
    (hown : next.address ip = state)
    (hother : ∀ other, other ≠ ip → next.address other = standing.address other) :
    next.address = Function.update standing.address ip state := by
  funext other
  by_cases hip : other = ip
  · subst hip
    rw [hown, Function.update_self]
  · rw [hother other hip, Function.update_of_ne hip]

lemma Regular.address_place {standing : Standing} (hregular : standing.Regular) {blocked : Bool}
    (hsets : Store.Sets standing.store store ip blocked) (lease : Option Nat) :
    (standing.place store ip lease).address =
      Function.update standing.address ip
        { standing.address ip with blocked := blocked, lease := lease } := by
  have hholds (other : IpAddr) : (standing.place store ip lease).store.holds other =
      if other = ip then blocked else standing.store.holds other := hsets.holds other
  have hlease := hregular.lease_place store ip lease
  apply address_eq_update
  · unfold address
    rw [hholds, hlease, if_pos rfl, if_pos rfl]
    rfl
  · intro other hother
    unfold address
    rw [hholds, hlease, if_neg hother, if_neg hother]
    rfl

def release (store : Store) (ip : IpAddr) (own : Bool) : Standing :=
  { standing.place store ip none with
    applied := standing.applied.erase ip
    suppressed := if own then insert ip standing.suppressed else standing.suppressed }

lemma Regular.address_release {standing : Standing} (hregular : standing.Regular)
    (hsets : Store.Sets standing.store store ip false) (own : Bool) :
    (standing.release store ip own).address =
      Function.update standing.address ip ((standing.address ip).unblock own) := by
  have hlease := hregular.lease_place store ip none
  have hholds := hsets.holds
  apply address_eq_update
  · unfold address AddressState.unblock
    simp only [AddressState.mk.injEq]
    refine ⟨(hholds ip).trans (if_pos rfl), (hlease ip).trans (if_pos rfl), ?_, ?_, rfl⟩
    · simp [release]
    · cases own <;> simp [release]
  · intro other hother
    unfold address
    simp only [AddressState.mk.injEq]
    refine ⟨(hholds other).trans (if_neg hother), (hlease other).trans (if_neg hother), ?_, ?_, rfl⟩
    · simp [release, hother]
    · cases own <;> simp [release, hother]

def lift (ip : IpAddr) (own : Bool) : Standing :=
  { standing with
    suppressed := if own then standing.suppressed.erase ip else standing.suppressed }

lemma address_lift (ip : IpAddr) (own : Bool) :
    (standing.lift ip own).address =
      Function.update standing.address ip
        { standing.address ip with
          suppressed := (standing.address ip).suppressed && !own } := by
  apply address_eq_update
  · cases own <;> simp [lift, address]
  · intro other hother
    cases own <;> simp [lift, address, hother]

end Standing

namespace EnforcementService

variable (service : EnforcementService)

def standing : Standing where
  store := service.store
  leases := service.leases
  epoch := service.epoch
  applied := service.meshAppliedIps
  suppressed := service.meshOperatorSuppressions
  pending := service.meshProjectionPending

abbrev address (service : EnforcementService) : IpAddr → AddressState := service.standing.address

abbrev Regular (service : EnforcementService) : Prop := service.standing.Regular

lemma applied_iff (ip : IpAddr) : (service.address ip).applied ↔ ip ∈ service.meshAppliedIps :=
  decide_eq_true_iff

lemma suppressed_iff (ip : IpAddr) :
    (service.address ip).suppressed ↔ ip ∈ service.meshOperatorSuppressions :=
  decide_eq_true_iff

/-- The bucket of a block committed now; a permanent one has no lease. -/
def leaseFor (clock : Clock) (ttlSeconds : Nat) : Option Nat :=
  if 0 < ttlSeconds then some (service.bucketOf (clock.leaseDeadline ttlSeconds)) else none

def effect (clock : Clock) (cmd : EnforceCommand) (state : AddressState) : AddressState :=
  match cmd.action with
  | .block => state.block (service.leaseFor clock cmd.ttlSeconds) cmd.own
  | .unblock => state.unblock cmd.own

variable {service}

lemma blockedNow_eq (hregular : service.Regular) (now : Instant) (ip : IpAddr) :
    service.store.blockedNow now ip = (service.address ip).blocked := by
  have hget : service.store.get now ip = (service.store.inner.lookup ip).map Entry.value :=
    Store.get_plain hregular.plain now ip
  change (service.store.get now ip).any _ = (service.store.inner.lookup ip).any _
  rw [hget]
  cases service.store.inner.lookup ip <;> rfl

/-- Clearing an address record never fails. -/
lemma clearRecord_plain (hplain : service.store.Plain) (clock : Clock) (ip : IpAddr) :
    ∃ next, service.clearRecord clock ip = (.ok (), next) ∧
      Store.Sets service.store next ip false ∧ next.Plain := by
  unfold clearRecord
  rw [Store.get_plain hplain]
  cases hentry : service.store.inner.lookup ip with
  | none => exact ⟨service.store, rfl, .of_vacant hplain.records hentry, hplain⟩
  | some entry =>
    obtain ⟨record, rfl⟩ := hplain ip entry hentry
    simp only [Option.map_some]
    have hfits : ∀ secs ∈ (none : Option Nat),
        (Instant.checkedAddSecs clock.mono secs).isSome := by simp
    rcases Store.insert_records hplain.records clock.mono ip { record with blockState := .clean }
      hfits service.store.ramLimitBytes with ⟨hvacant, _, _⟩ | ⟨next, hinsert, hsets, _, hnext⟩
    · rw [hentry] at hvacant
      cases hvacant
    · exact ⟨next, hinsert, hsets, hnext rfl hplain⟩

/-! ## Commits -/

section

variable (service)

@[simp] lemma rememberResult_standing (result : EnforceResult) :
    (service.rememberResult result).standing = service.standing := by
  unfold rememberResult
  dsimp only
  split <;> rfl

lemma originateBan_standing (io : Io) (cmd : EnforceCommand) :
    (service.originateBan io cmd).standing =
      if cmd.cidr = none then service.standing.lift cmd.ip cmd.own else service.standing := by
  unfold originateBan Standing.lift
  cases cmd.cidr with
  | some network => simp
  | none =>
    by_cases hsource : cmd.source = "mesh"
    · simp [EnforceCommand.own, hsource]
    · simp only [EnforceCommand.own, bne_iff_ne, hsource, ne_eq, not_false_eq_true, and_self,
        if_true]
      split <;> rfl

lemma finish_standing (io : Io) (cmd : EnforceCommand) (walLsn : Option Nat) :
    (service.finish io cmd walLsn).standing =
      if cmd.action = .block ∧ cmd.cidr = none then service.standing.lift cmd.ip cmd.own
      else service.standing := by
  unfold finish
  rw [rememberResult_standing]
  cases cmd.action with
  | block => simp [originateBan_standing]
  | unblock => simp

lemma commitLease_standing (clock : Clock) (ip : IpAddr) (ttlSeconds : Nat) :
    (service.commitLease clock ip ttlSeconds).standing =
      service.standing.place service.store ip (service.leaseFor clock ttlSeconds) := by
  unfold commitLease leaseFor
  dsimp only
  split <;> rfl

lemma commitLease_writes (hwf : service.leases.WellFormed) (clock : Clock) (ip : IpAddr)
    (ttlSeconds : Nat) :
    ∃ leases shared, (∀ other, leases.lease other =
        if other = ip then service.leaseFor clock ttlSeconds else service.leases.lease other) ∧
      leases.WellFormed ∧ service.commitLease clock ip ttlSeconds =
        { service with leases := leases, checkpointShared := shared } := by
  unfold commitLease leaseFor
  split
  · exact ⟨_, _, fun other => hwf.lease_schedule ip other _, hwf.schedule ip _, rfl⟩
  · exact ⟨_, _, fun other => hwf.lease_detach ip other, hwf.detach ip, rfl⟩

end

lemma commitIpBlock_spec (hregular : service.Regular) (clock : Clock) (cmd : EnforceCommand) :
    (service.store.inner.lookup cmd.ip = none ∧
        service.store.refuses recordSize service.store.ramLimitBytes ∧
        service.commitIpBlock clock cmd =
          (.error (.storage "store update_block_state: capacity exceeded"), service)) ∨
      ∃ next, service.commitIpBlock clock cmd = (.ok (), next) ∧ next.Regular ∧
        next.epoch = service.epoch ∧
        next.address = Function.update service.address cmd.ip
          { service.address cmd.ip with
            blocked := true, lease := service.leaseFor clock cmd.ttlSeconds } := by
  have hplain : service.store.Plain := hregular.plain
  unfold commitIpBlock
  dsimp only
  rcases Store.updateBlockState_plain hplain clock.mono cmd.ip
    (.blocked (reasonToBlockReason cmd.reason) clock.wallNs) service.store.ramLimitBytes with
    ⟨hrefused, hvacant, hfull⟩ | ⟨store, hdone, hsets, hnext⟩
  · rw [hrefused]
    exact .inl ⟨hvacant, hfull, rfl⟩
  · rw [hdone]
    refine .inr ⟨_, rfl, ?_⟩
    have hstanding := commitLease_standing { service with
      store := store
      blockedIps := insert cmd.ip service.blockedIps
      dropsByBlocked := service.dropsByBlocked.erase cmd.ip } clock cmd.ip cmd.ttlSeconds
    change _ = service.standing.place store cmd.ip
      (service.leaseFor clock cmd.ttlSeconds) at hstanding
    unfold Regular address
    rw [hstanding]
    exact ⟨hregular.place hnext cmd.ip _, congrArg Standing.epoch hstanding,
      hregular.address_place hsets _⟩

/-- An address unblock always gets through. -/
lemma releaseIp_spec (hregular : service.Regular) (io : Io) (cmd : EnforceCommand) :
    ∃ next, service.releaseIp io cmd = (.ok (), next) ∧ next.Regular ∧
      next.epoch = service.epoch ∧
      next.address = Function.update service.address cmd.ip
        ((service.address cmd.ip).unblock cmd.own) := by
  have hplain : service.store.Plain := hregular.plain
  obtain ⟨store, hclear, hsets, hnext⟩ := clearRecord_plain hplain io.clock cmd.ip
  unfold releaseIp
  rw [hclear]
  refine ⟨_, rfl, ?_⟩
  dsimp only
  generalize hdone : EnforcementService.publish _ _ = next
  have hstanding : next.standing = service.standing.release store cmd.ip cmd.own := by
    rw [← hdone]
    unfold Standing.release
    by_cases hsource : cmd.source = "mesh"
    · simp only [EnforceCommand.own, hsource, ne_eq, not_true_eq_false, if_false,
        bne_self_eq_false, Bool.false_eq_true]
      rfl
    · simp only [EnforceCommand.own, bne_iff_ne, hsource, ne_eq, not_false_eq_true, if_true]
      rfl
  clear hdone
  unfold Regular address
  rw [hstanding]
  exact ⟨⟨hnext, (hregular.place hnext cmd.ip none).leases⟩, congrArg Standing.epoch hstanding,
    hregular.address_release hsets cmd.own⟩

def afterCommand (service : EnforcementService) (clock : Clock) (cmd : EnforceCommand) :
    IpAddr → AddressState :=
  match cmd.cidr with
  | none => Function.update service.address cmd.ip
      (service.effect clock cmd (service.address cmd.ip))
  | some _ => service.address

structure Committed (service : EnforcementService) (clock : Clock) (cmd : EnforceCommand)
    (next : EnforcementService) : Prop where
  regular : next.Regular
  epoch : next.epoch = service.epoch
  address : next.address = service.afterCommand clock cmd

/-- A prefix command touches no address. -/
lemma Committed.of_standing {next : EnforcementService} (hregular : service.Regular)
    {clock : Clock} {cmd : EnforceCommand} {network : IpNetwork} (hcidr : cmd.cidr = some network)
    (hstanding : ∃ cidrs, next.standing =
      { service.standing with store := { service.store with activeCidrs := cidrs } }) :
    Committed service clock cmd next := by
  obtain ⟨cidrs, hstanding⟩ := hstanding
  refine ⟨?_, congrArg Standing.epoch hstanding, ?_⟩
  · unfold Regular
    rw [hstanding]
    exact ⟨hregular.plain, hregular.leases⟩
  · unfold EnforcementService.address afterCommand
    rw [hstanding, hcidr]
    rfl

lemma commit_spec (hregular : service.Regular) (io : Io) (cmd : EnforceCommand) :
    (cmd.action = .block ∧ cmd.cidr = none ∧ service.store.inner.lookup cmd.ip = none ∧
        service.store.refuses recordSize service.store.ramLimitBytes ∧
        service.commit io cmd =
          (.error (.storage "store update_block_state: capacity exceeded"), service)) ∨
      ∃ next, service.commit io cmd = (.ok (), next) ∧
        ∀ walLsn, Committed service io.clock cmd (next.finish io cmd walLsn) := by
  unfold commit
  -- A prefix says nothing about an address; on an address each action has its own spec.
  cases haction : cmd.action with
  | block =>
    cases hcidr : cmd.cidr with
    | some network =>
      refine .inr ⟨_, rfl, fun walLsn => .of_standing hregular hcidr
        ⟨insert network service.store.activeCidrs, ?_⟩⟩
      rw [finish_standing, hcidr, if_neg (by simp)]
      unfold commitCidrBlock
      dsimp only
      split <;> rfl
    | none =>
      dsimp only
      rcases commitIpBlock_spec hregular io.clock cmd with
        ⟨hvacant, hfull, hrefused⟩ | ⟨next, hdone, hnext, hepoch, haddress⟩
      · exact .inl ⟨rfl, rfl, hvacant, hfull, hrefused⟩
      · refine .inr ⟨next, hdone, fun walLsn => ?_⟩
        have hstanding := next.finish_standing io cmd walLsn
        rw [if_pos ⟨haction, hcidr⟩] at hstanding
        refine ⟨?_, (congrArg Standing.epoch hstanding).trans hepoch, ?_⟩
        · unfold Regular
          rw [hstanding]
          exact ⟨hnext.plain, hnext.leases⟩
        · change next.standing.address = _ at haddress
          unfold EnforcementService.address afterCommand effect AddressState.block
          rw [hstanding, hcidr, haction, Standing.address_lift, haddress]
          simp
  | unblock =>
    cases hcidr : cmd.cidr with
    | some network =>
      refine .inr ⟨_, rfl, fun walLsn => .of_standing hregular hcidr
        ⟨service.store.activeCidrs.erase network, ?_⟩⟩
      rw [finish_standing, if_neg (by simp [haction])]
      rfl
    | none =>
      obtain ⟨next, hdone, hnext, hepoch, haddress⟩ := releaseIp_spec hregular io cmd
      refine .inr ⟨next, hdone, fun walLsn => ?_⟩
      have hstanding := next.finish_standing io cmd walLsn
      rw [if_neg (by simp [haction])] at hstanding
      refine ⟨?_, (congrArg Standing.epoch hstanding).trans hepoch, ?_⟩
      · unfold Regular
        rw [hstanding]
        exact hnext
      · unfold EnforcementService.address afterCommand effect
        rw [hstanding, hcidr, haction]
        exact haddress

end EnforcementService

end RamShield
