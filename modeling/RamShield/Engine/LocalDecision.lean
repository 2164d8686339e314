import RamShield.Enforcement.Acts
import RamShield.Engine.RestartSafety

/-! # Local blocks and what peers make of them

An address has one block state and one lease, whoever decided about it. A block of
a peer that is projected replaces the lease of a local block, and a tombstone of a
peer may release the address. What a local block asked for is kept by the acts
that do not write a shorter lease and do not release the address, and those acts
are told apart here.
-/

namespace RamShield

open Foundation Foundation.Machine EnforcementService ActorStep List Function

def LeaseKeeps (epoch : Instant) (limit : Option Instant) (lease : Option Nat) : Prop :=
  ∀ bucket ∈ lease, ∃ deadline ∈ limit, deadline ≤ epoch + bucket * secNs

instance (epoch : Instant) (limit : Option Instant) (lease : Option Nat) :
    Decidable (LeaseKeeps epoch limit lease) :=
  inferInstanceAs (Decidable (∀ bucket ∈ lease, ∃ deadline ∈ limit, _))

def blockLimit (clock : Clock) (ttlSeconds : Nat) : Option Instant :=
  if ttlSeconds = 0 then none else some (clock.mono + ttlSeconds * secNs)

/-- The address is blocked, and its lease does not run out before the limit. -/
def Protected (ip : IpAddr) (limit : Option Instant) (service : EnforcementService) : Prop :=
  (service.address ip).blocked = true ∧ LeaseKeeps service.epoch limit (service.address ip).lease

/-- The act neither releases the address nor writes a lease that falls short. -/
def KeepsBlock (ip : IpAddr) (limit : Option Instant) (service : EnforcementService) : Act → Prop
  | .command io cmd => service.Commits io cmd none .append → cmd.cidr = none → cmd.ip = ip →
      cmd.action = .block ∧
        LeaseKeeps service.epoch limit (service.leaseFor io.clock cmd.ttlSeconds)
  | .peer io nowMs (.block delta) => delta.ip = ip → ∀ mesh, service.Passes mesh nowMs delta →
      service.Projects io (blockCommand io nowMs delta)
        (mesh.needsMergeDelta delta) (.block delta) →
      LeaseKeeps service.epoch limit (service.leaseFor io.clock (deltaTtl delta nowMs))
  | .peer io nowMs (.unblock delta) => delta.ip = ip →
      ∀ mesh, service.meshBlocklist = some mesh →
        mesh.wouldBeBlockedAfterUnblock delta nowMs ∨
          (service.address ip).applied = false ∨
          ¬ service.Projects io (unblockCommand io nowMs delta)
            (mesh.needsMergeUnblock delta) (.unblock delta)
  | .repair ttls _ _ other => other = ip → ttls.lookup ip ≠ none ∨
      (service.address ip).suppressed = true ∨ (service.address ip).applied = false
  | .expireIp _ other => other ≠ ip
  | _ => True

/-! ## Acts -/

variable {ip : IpAddr} {limit : Option Instant}

lemma Protected.of_leaves {service next : EnforcementService} {addresses : IpAddr → AddressState}
    {ops : List LedgerOp} (hleaves : service.Leaves addresses ops next)
    (hblocked : (addresses ip).blocked)
    (hlease : LeaseKeeps service.epoch limit (addresses ip).lease) : Protected ip limit next := by
  refine ⟨?_, ?_⟩
  · rw [hleaves.address]
    exact hblocked
  · rw [hleaves.epoch, hleaves.address]
    exact hlease

section Acts

variable {service : EnforcementService} (hprotected : Protected ip limit service)

include hprotected

variable {next : EnforcementService} {ops : List LedgerOp} {other : IpAddr} {io : Io}
  {nowMs : Nat}

lemma Protected.same (hleaves : service.Leaves service.address ops next) :
    Protected ip limit next :=
  .of_leaves hleaves hprotected.1 hprotected.2

lemma Protected.update {state : AddressState}
    (hleaves : service.Leaves (Function.update service.address other state) ops next)
    (hown : other = ip → state.blocked ∧ LeaseKeeps service.epoch limit state.lease) :
    Protected ip limit next := by
  by_cases heq : other = ip
  · subst heq
    refine .of_leaves hleaves ?_ ?_
    · rw [update_self]
      exact (hown rfl).1
    · rw [update_self]
      exact (hown rfl).2
  · have hother : ip ≠ other := Ne.symm heq
    refine .of_leaves hleaves ?_ ?_
    · rw [update_of_ne hother]
      exact hprotected.1
    · rw [update_of_ne hother]
      exact hprotected.2

lemma Protected.mark {state : AddressState}
    (hleaves : service.Leaves (Function.update service.address other state) ops next)
    (hblocked : state.blocked = (service.address other).blocked)
    (hlease : state.lease = (service.address other).lease) : Protected ip limit next := by
  refine hprotected.update hleaves ?_
  rintro rfl
  rw [hblocked, hlease]
  exact hprotected

section

variable (hregular : service.Regular)

include hregular

lemma Protected.command {cmd : EnforceCommand}
    (hkeeps : KeepsBlock ip limit service (.command io cmd)) :
    Protected ip limit (service.enforce io cmd).2 := by
  have houtcome := enforceInner_outcome hregular io cmd none .append
  unfold enforce
  generalize service.enforceInner io cmd none .append = outcome at houtcome ⊢
  obtain ⟨result, next⟩ := outcome
  dsimp only at houtcome ⊢
  cases houtcome with
  | answered _ _ => exact hprotected
  | rejected _ _ _ => exact hprotected
  | refused _ _ _ hleaves => exact hprotected.same hleaves
  | committed hcommits hleaves =>
    unfold afterCommand at hleaves
    cases hcidr : cmd.cidr with
    | some network =>
      rw [hcidr] at hleaves
      exact hprotected.same hleaves
    | none =>
      rw [hcidr] at hleaves
      refine hprotected.update hleaves fun hip => ?_
      obtain ⟨haction, hlease⟩ := hkeeps hcommits hcidr hip
      unfold effect
      rw [haction]
      exact ⟨rfl, hlease⟩

lemma Protected.peerBlock {delta : ClusterBlockDelta}
    (hkeeps : KeepsBlock ip limit service (.peer io nowMs (.block delta))) :
    Protected ip limit (service.applyMeshBlock io nowMs delta).2 := by
  have houtcome := applyMeshBlock_outcome hregular io nowMs delta
  generalize service.applyMeshBlock io nowMs delta = outcome at houtcome ⊢
  obtain ⟨⟨changed, result⟩, next⟩ := outcome
  dsimp only at houtcome ⊢
  cases houtcome with
  | ignored _ _ => exact hprotected
  | idle _ _ hleaves => exact hprotected.mark hleaves (by simp) (by simp)
  | refused _ _ hleaves => exact hprotected.mark hleaves (by simp) (by simp)
  | projected hpasses hprojects hleaves =>
    exact hprotected.update hleaves fun hip => ⟨rfl, hkeeps hip _ hpasses hprojects⟩

lemma Protected.peerUnblock {delta : ClusterUnblockDelta}
    (hkeeps : KeepsBlock ip limit service (.peer io nowMs (.unblock delta))) :
    Protected ip limit (service.applyMeshUnblock io nowMs delta).2 := by
  have houtcome := applyMeshUnblock_outcome hregular io nowMs delta
  generalize (service.applyMeshUnblock io nowMs delta).2 = next at houtcome ⊢
  cases houtcome with
  | meshless _ _ => exact hprotected
  | unneeded _ _ _ => exact hprotected
  | unrecorded _ _ _ => exact hprotected
  | recorded _ _ _ hleaves => exact hprotected.same hleaves
  | idle _ _ _ _ hleaves => exact hprotected.mark hleaves (by simp) (by simp)
  | released hmesh hfree happlied hprojects hleaves =>
    refine hprotected.update hleaves fun hip => ?_
    subst hip
    rcases hkeeps rfl _ hmesh with hkept | hunapplied | hidle
    · exact absurd hkept hfree
    · cases happlied.symm.trans hunapplied
    · exact absurd hprojects hidle

lemma Protected.repair {ttls : List (IpAddr × Nat)}
    (hkeeps : KeepsBlock ip limit service (.repair ttls nowMs io other)) :
    Protected ip limit (reconcileIp ttls nowMs service io other) := by
  have houtcome := reconcileIp_outcome hregular ttls nowMs io other
  generalize reconcileIp ttls nowMs service io other = next at houtcome ⊢
  cases houtcome with
  | marked hleaves => exact hprotected.mark hleaves rfl rfl
  | blocked _ _ hfree hleaves =>
    refine hprotected.update hleaves fun hip => ?_
    subst hip
    cases hfree.symm.trans hprotected.1
  | released hinactive hunsuppressed happlied hleaves =>
    refine hprotected.update hleaves fun hip => ?_
    subst hip
    rcases hkeeps rfl with hactive | hsuppressed | hunapplied
    · exact absurd hinactive hactive
    · cases hunsuppressed.symm.trans hsuppressed
    · cases happlied.symm.trans hunapplied

lemma Protected.expireIp (hother : other ≠ ip) :
    Protected ip limit (service.expireIp io other) := by
  have houtcome := expireIp_outcome hregular io other
  generalize service.expireIp io other = next at houtcome ⊢
  cases houtcome with
  | dropped _ hleaves => exact hprotected.same hleaves
  | delayed _ hleaves => exact hprotected.update hleaves fun hip => absurd hip hother
  | released _ hleaves => exact hprotected.update hleaves fun hip => absurd hip hother

lemma Protected.act {act : Act} (hkeeps : KeepsBlock ip limit service act) :
    Protected ip limit (act.step service) := by
  cases act with
  | command io cmd => exact hprotected.command hregular hkeeps
  | peer io nowMs mutation =>
    cases mutation with
    | block delta => exact hprotected.peerBlock hregular hkeeps
    | unblock delta => exact hprotected.peerUnblock hregular hkeeps
  | repair ttls nowMs io other => exact hprotected.repair hregular hkeeps
  | forget => exact hprotected
  | drain now =>
    have haddress := hregular.address_drain now ip
    change (Act.step service (.drain now)).address ip = _ at haddress
    refine ⟨?_, ?_⟩
    · rw [haddress]
      exact hprotected.1
    · rw [haddress]
      intro bucket hbucket
      exact hprotected.2 bucket (Option.filter_eq_some_iff.mp hbucket).1
  | expireIp io other => exact hprotected.expireIp hregular hkeeps
  | expireCidr io network =>
    rcases expireCidr_leaves hregular io network with hleaves | hleaves
    · exact hprotected.same hleaves
    · exact hprotected.same hleaves

end

end Acts

/-! ## Runs -/

def ActorStep.KeepsBlock (ip : IpAddr) (limit : Option Instant) (service : EnforcementService)
    (action : ActorStep) : Prop :=
  Respects Act.step (RamShield.KeepsBlock ip limit) service (action.acts service)

lemma ActorStep.step_protected (service : EnforcementService) (action : ActorStep)
    (hservice : service.Regular ∧ Protected ip limit service)
    (hkeeps : action.KeepsBlock ip limit service) :
    (step service action).Regular ∧ Protected ip limit (step service action) := by
  have hact (service : EnforcementService) (act : Act)
      (hservice : service.Regular ∧ Protected ip limit service)
      (hkeeps : RamShield.KeepsBlock ip limit service act) :
      (act.step service).Regular ∧ Protected ip limit (act.step service) :=
    ⟨act.step_regular service hservice.1, hservice.2.act hservice.1 hkeeps⟩
  rw [action.step_eq_run]
  exact (Along.of_respects hact hservice hkeeps).last

lemma leaseKeeps_leaseFor (service : EnforcementService) {clock : Clock} {ttlSeconds : Nat}
    (hfits : (Instant.checkedAddSecs clock.mono ttlSeconds).isSome) :
    LeaseKeeps service.epoch (blockLimit clock ttlSeconds) (service.leaseFor clock ttlSeconds) := by
  intro bucket hbucket
  unfold leaseFor at hbucket
  split at hbucket
  next htemporary =>
    cases hbucket
    refine ⟨clock.mono + ttlSeconds * secNs, ?_, ?_⟩
    · simp [blockLimit, Nat.ne_of_gt htemporary]
    · obtain ⟨deadline, hdeadline⟩ := Option.isSome_iff_exists.mp hfits
      have hexact : deadline = clock.mono + ttlSeconds * secNs := by
        unfold Instant.checkedAddSecs at hdeadline
        split at hdeadline
        · cases hdeadline; rfl
        · cases hdeadline
      unfold bucketOf Clock.leaseDeadline
      rw [hdeadline, hexact, Option.getD_some]
      exact le_bucket_end _ _
  · cases hbucket

/-- After every run, a local block that commits and whose time to live fits the
clock is kept by every continuation whose acts keep it. -/
theorem local_block_protected (ramLimitMb : Nat) (epoch : Instant) (nodeId : Nat)
    (incarnation : Uuid) (attached : Bool) (steps : List ActorStep) (io : Io)
    (cmd : EnforceCommand) (haction : cmd.action = .block) (hcidr : cmd.cidr = none)
    (hcommits : (run ActorStep.step (EnforcementService.newMesh
      (Store.new.setRamLimitMb ramLimitMb) epoch nodeId incarnation attached) steps).Commits io
        cmd none .append)
    (hfits : (Instant.checkedAddSecs io.clock.mono cmd.ttlSeconds).isSome = true)
    (later : List ActorStep)
    (hkeeps : Respects ActorStep.step
      (fun service action => action.KeepsBlock cmd.ip (blockLimit io.clock cmd.ttlSeconds) service)
      ((run ActorStep.step (EnforcementService.newMesh
        (Store.new.setRamLimitMb ramLimitMb) epoch nodeId incarnation attached) steps).enforce io
          cmd).2 later) :
    Along ActorStep.step (Protected cmd.ip (blockLimit io.clock cmd.ttlSeconds))
      ((run ActorStep.step (EnforcementService.newMesh
        (Store.new.setRamLimitMb ramLimitMb) epoch nodeId incarnation attached) steps).enforce io
          cmd).2 later := by
  have hregular : (newMesh (Store.new.setRamLimitMb ramLimitMb) epoch nodeId
      incarnation attached).Regular := ⟨Store.plain_of_empty rfl, DeadlineQueue.empty_wellFormed⟩
  have hservice := run_regular hregular steps
  generalize run step _ steps = service at hcommits hkeeps hservice ⊢
  have hblocked : (service.enforce io cmd).2.Regular ∧
      Protected cmd.ip (blockLimit io.clock cmd.ttlSeconds) (service.enforce io cmd).2 := by
    have houtcome := enforceInner_outcome hservice io cmd none .append
    unfold enforce
    generalize service.enforceInner io cmd none .append = outcome at houtcome ⊢
    obtain ⟨result, next⟩ := outcome
    dsimp only at houtcome ⊢
    cases houtcome with
    | answered hidle _ => exact absurd hcommits hidle
    | rejected hidle _ _ => exact absurd hcommits hidle
    | refused _ _ hidle _ => exact absurd hcommits hidle
    | committed _ hleaves =>
      have hafter : service.afterCommand io.clock cmd cmd.ip =
          (service.address cmd.ip).block (service.leaseFor io.clock cmd.ttlSeconds) cmd.own := by
        unfold afterCommand effect
        rw [hcidr, haction]
        exact update_self ..
      refine ⟨hleaves.regular, .of_leaves hleaves ?_ ?_⟩
      · rw [hafter]
        rfl
      · rw [hafter]
        exact leaseKeeps_leaseFor service hfits
  exact (Along.of_respects step_protected hblocked hkeeps).mono fun _ hnext => hnext.2

lemma ActorStep.keepsBlock_expire {service : EnforcementService} {ios : Nat → Io}
    {networks : IterOrder IpNetwork}
    (hlater : ip ∉ (service.leases.drainDue (((ios 0).clock.mono - service.epoch) / secNs)).1) :
    (expire ios networks).KeepsBlock ip limit service := by
  apply Respects.of_forall
  intro act hact state
  rw [acts, mem_append, mem_cons] at hact
  rcases hact with (rfl | hact) | hact
  · trivial
  · obtain ⟨pair, hpair, rfl⟩ := mem_map.mp hact
    have hdue : pair.2 ∈
        (service.leases.drainDue (((ios 0).clock.mono - service.epoch) / secNs)).1 :=
      mem_of_mem_scheduled hpair
    rintro rfl
    exact hlater hdue
  · obtain ⟨pair, _, rfl⟩ := mem_map.mp hact
    trivial

/-- A local block for an hour. Then come a peer's block of another address, a
tombstone for a dot of the blocked address that was never seen here, and an expiry
pass within the hour. -/
theorem local_block_protected_hour :
    let start := EnforcementService.newMesh (Store.new.setRamLimitMb 64) 0 1 1 true
    let cmd := EnforceCommand.operator 1 .block (.v4 1) 3600
    let later : List ActorStep :=
      [.receive (fun n => .at ⟨0, 0⟩ (2 + n))
          [(0, .standard (.block ⟨.v4 2, ⟨2, 1, 1⟩, 0, 5000, 0⟩)),
            (0, .standard (.unblock ⟨.v4 1, ⟨2, 1, 7⟩⟩))],
        .expire (fun n => .at ⟨9 * secNs, 9 * secNs⟩ (4 + n)) IpNetwork.sorted]
    Along step (Protected (.v4 1) (blockLimit ⟨0, 0⟩ 3600))
      (start.enforce (.at ⟨0, 0⟩ 1) cmd).2 later := by
  intro start cmd later
  have hcommits : start.Commits (.at ⟨0, 0⟩ 1) cmd none .append := by decide +kernel
  refine local_block_protected 64 0 1 1 true [] (.at ⟨0, 0⟩ 1) cmd rfl rfl hcommits
    (by decide +kernel) later ⟨?_, ?_, trivial⟩
  · have hhandle : (start.enforce (.at ⟨0, 0⟩ 1) cmd).2.meshHandle := by decide +kernel
    change Respects Act.step _ _ (acts (start.enforce (.at ⟨0, 0⟩ 1) cmd).2 _)
    rw [acts, if_pos hhandle]
    refine ⟨fun hip => absurd hip (by decide), fun _ mesh _ => .inr (.inl ?_), trivial⟩
    decide +kernel
  · apply keepsBlock_expire
    decide +kernel

/-- A permanent local block gets a lease when a peer blocks the address for ten
seconds, and it is gone when they are over. -/
theorem local_block_protected_fails :
    let start := EnforcementService.newMesh (Store.new.setRamLimitMb 64) 0 1 1 true
    let cmd := EnforceCommand.operator 1 .block (.v4 1) 0
    let block : ActorStep := .receive (fun n => .at ⟨0, 0⟩ (2 + n))
      [(0, .standard (.block ⟨.v4 1, ⟨2, 1, 1⟩, 0, 10000, 0⟩))]
    let expiry : ActorStep :=
      .expire (fun n => .at ⟨11 * secNs, 11 * secNs⟩ (3 + n)) IpNetwork.sorted
    start.Commits (.at ⟨0, 0⟩ 1) cmd none .append ∧
      ¬ Along step (Protected (.v4 1) (blockLimit ⟨0, 0⟩ 0))
        (start.enforce (.at ⟨0, 0⟩ 1) cmd).2 [block] ∧
      ((run step (start.enforce (.at ⟨0, 0⟩ 1) cmd).2 [block, expiry]).address
        (.v4 1)).blocked = false := by
  intro start cmd block expiry
  refine ⟨by decide +kernel, ?_, by decide +kernel⟩
  intro halong
  have hlease : ¬ LeaseKeeps 0 none
      ((run step (start.enforce (.at ⟨0, 0⟩ 1) cmd).2 [block]).address (.v4 1)).lease := by
    decide +kernel
  have hepoch : (run step (start.enforce (.at ⟨0, 0⟩ 1) cmd).2 [block]).epoch = 0 := by
    decide +kernel
  have hkept := halong.last.2
  rw [hepoch] at hkept
  exact hlease hkept

end RamShield
