import RamShield.Enforcement.Acts
import RamShield.Engine.RestartSafety

/-! # What the expiry of leases does to the cluster state

A lease is a local deadline, while the dots of the cluster blocklist have expiries
of their own. The pass releases a due address with an ordinary unblock command of
source `ttl`, and to such a command the address is withdrawn from the cluster and
closed to the blocks of peers, as by an operator. So a pass leaves the cluster
state in peace only if none of its commands gets through, or gets through for
addresses about which nothing was left to lose.
-/

namespace RamShield

open Foundation Foundation.Machine Function

namespace EnforcementService

variable (service : EnforcementService)

def dots (key : BlockKey) : Register DotPayload :=
  (service.meshBlocklist.map fun mesh => mesh.register key).getD .empty

def HasLiveDot (nowMs : Nat) (ip : IpAddr) : Prop :=
  ∃ key entry, key.ip = ip ∧ (service.dots key).live = some entry ∧ nowMs < entry.2.expiresAtMs

/-- No tombstone for an unexpired dot, no address closed to peers, and a blocked address with such a
dot stays blocked. -/
structure Harmless (nowMs : Nat) (before after : EnforcementService) : Prop where
  tombstones (key : BlockKey) (entry : Nat × DotPayload) :
    (before.dots key).live = some entry → nowMs < entry.2.expiresAtMs →
      (after.dots key).stale entry.1 = true → (before.dots key).stale entry.1 = true
  suppressions : after.meshOperatorSuppressions ⊆ before.meshOperatorSuppressions
  blocked (ip : IpAddr) : (before.address ip).blocked = true → before.HasLiveDot nowMs ip →
    (after.address ip).blocked = true

/-! ## Address by address -/

/-- What the service and the cluster blocklist say about one address. -/
structure IpView where
  state : AddressState
  dots : Nat → Uuid → Register DotPayload

def view (ip : IpAddr) : IpView where
  state := service.address ip
  dots nodeId incarnation := service.dots ⟨ip, nodeId, incarnation⟩

/-- The part of `Harmless` that is about one address. -/
structure IpView.Harmless (nowMs : Nat) (before after : IpView) : Prop where
  tombstones (nodeId : Nat) (incarnation : Uuid) (entry : Nat × DotPayload) :
    (before.dots nodeId incarnation).live = some entry → nowMs < entry.2.expiresAtMs →
      (after.dots nodeId incarnation).stale entry.1 = true →
        (before.dots nodeId incarnation).stale entry.1 = true
  suppressed : after.state.suppressed = true → before.state.suppressed = true
  blocked : before.state.blocked = true →
    (∃ nodeId incarnation entry, (before.dots nodeId incarnation).live = some entry ∧
      nowMs < entry.2.expiresAtMs) → after.state.blocked = true

variable {service} {next : EnforcementService} {nowMs : Nat}

lemma hasLiveDot_iff {ip : IpAddr} :
    service.HasLiveDot nowMs ip ↔
      ∃ nodeId incarnation entry, ((service.view ip).dots nodeId incarnation).live = some entry ∧
        nowMs < entry.2.expiresAtMs := by
  constructor
  · rintro ⟨⟨_, nodeId, incarnation⟩, entry, rfl, hlive, hfuture⟩
    exact ⟨nodeId, incarnation, entry, hlive, hfuture⟩
  · rintro ⟨nodeId, incarnation, entry, hlive, hfuture⟩
    exact ⟨⟨ip, nodeId, incarnation⟩, entry, rfl, hlive, hfuture⟩

lemma harmless_iff_view {before after : EnforcementService} :
    Harmless nowMs before after ↔ ∀ ip, IpView.Harmless nowMs (before.view ip) (after.view ip) := by
  constructor
  · intro hharmless ip
    refine ⟨fun nodeId incarnation => hharmless.tombstones ⟨ip, nodeId, incarnation⟩, ?_, ?_⟩
    · intro hsuppressed
      have hmem := hharmless.suppressions ((suppressed_iff after ip).mp hsuppressed)
      exact (suppressed_iff before ip).mpr hmem
    · intro hblocked hlive
      exact hharmless.blocked ip hblocked (hasLiveDot_iff.mpr hlive)
  · intro hviews
    refine ⟨fun key => (hviews key.ip).tombstones key.nodeId key.incarnation, ?_, ?_⟩
    · intro ip hmem
      have hsuppressed := (hviews ip).suppressed ((suppressed_iff after ip).mpr hmem)
      exact (suppressed_iff before ip).mp hsuppressed
    · intro ip hblocked hlive
      exact (hviews ip).blocked hblocked (hasLiveDot_iff.mp hlive)

lemma IpView.Harmless.refl (nowMs : Nat) (view : IpView) : IpView.Harmless nowMs view view :=
  ⟨fun _ _ _ _ _ hstale => hstale, fun hsuppressed => hsuppressed, fun hblocked _ => hblocked⟩

/-- Leases do not matter. -/
lemma IpView.harmless_congr {before after other : IpView} (hdots : other.dots = before.dots)
    (hsuppressed : other.state.suppressed = before.state.suppressed)
    (hblocked : other.state.blocked = before.state.blocked) :
    IpView.Harmless nowMs other after ↔ IpView.Harmless nowMs before after := by
  constructor
  · rintro ⟨htombstones, hclosed, hstays⟩
    rw [hdots] at htombstones hstays
    rw [hsuppressed] at hclosed
    rw [hblocked] at hstays
    exact ⟨htombstones, hclosed, hstays⟩
  · rintro ⟨htombstones, hclosed, hstays⟩
    rw [← hdots] at htombstones hstays
    rw [← hsuppressed] at hclosed
    rw [← hblocked] at hstays
    exact ⟨htombstones, hclosed, hstays⟩

/-! ## One release -/

/-- The state that every run of the actor keeps. -/
structure Sound (service : EnforcementService) : Prop where
  regular : service.Regular
  ledger : service.ledger.Valid

lemma dots_congr (hmesh : next.meshBlocklist = service.meshBlocklist) :
    next.dots = service.dots := by
  funext key
  unfold dots
  rw [hmesh]

lemma Sound.dots_separated (hsound : service.Sound) (key : BlockKey) :
    (service.dots key).Separated := by
  unfold dots
  cases hpresent : service.meshBlocklist with
  | none => exact Register.empty_separated
  | some mesh => exact ((hsound.ledger.mesh hpresent).admits key).separated

lemma Sound.dots_released (hsound : service.Sound) {io : Io} {ip : IpAddr} {entry : WalEntry}
    (hledger : next.ledger =
      run Ledger.step service.ledger [.note entry, .unban io.clock io.dots ip])
    (key : BlockKey) :
    next.dots key =
      if key.ip = ip then
        ((service.dots key).live.map fun value => (service.dots key).remove value.1).getD
          (service.dots key)
      else service.dots key := by
  have hmesh : next.meshBlocklist = service.meshBlocklist.map fun mesh =>
      (mesh.recordUnban io.clock.wallMs io.dots ip).2 := congrArg Ledger.mesh hledger
  unfold dots
  rw [hmesh]
  cases hpresent : service.meshBlocklist with
  | none => simp [Register.empty]
  | some mesh =>
    have hvalid : mesh.Valid := hsound.ledger.mesh hpresent
    exact hvalid.register_recordUnban io.clock.wallMs io.dots ip key

lemma Sound.step (hsound : service.Sound) {addresses : IpAddr → AddressState}
    {ops : List LedgerOp} (hops : ∀ op ∈ ops, op.Sound)
    (hleaves : service.Leaves addresses ops next) : next.Sound where
  regular := hleaves.regular
  ledger := by
    rw [hleaves.ledger]
    have hreaches : Ledger.Reaches LedgerOp.Sound service.ledger
      (run Ledger.step service.ledger ops) := ⟨ops, hops, rfl⟩
    exact hreaches.invariant (fun _ _ hledger hop => hledger.step hop) hsound.ledger

/-- The address is closed to peers already, and none of its dots is unexpired. -/
def NothingToLose (nowMs : Nat) (service : EnforcementService) (pair : Io × IpAddr) : Prop :=
  service.Commits pair.1 (ttlUnblock pair.1 pair.2 none) none .append →
    pair.2 ∈ service.meshOperatorSuppressions ∧ ¬ service.HasLiveDot nowMs pair.2

section

variable (service) (pair : Io × IpAddr) (hsound : service.Sound)

include hsound

lemma expireStep_sound : (expireStep service pair).Sound := by
  have houtcome := expireIp_outcome hsound.regular pair.1 pair.2
  unfold expireStep
  generalize service.expireIp pair.1 pair.2 = next at houtcome ⊢
  cases houtcome with
  | dropped _ hleaves => exact hsound.step (by simp) hleaves
  | delayed _ hleaves => exact hsound.step (by simp) hleaves
  | released _ hleaves =>
    refine hsound.step ?_ hleaves
    simp [LedgerOp.Sound, WalEntry.isMesh]

lemma view_expireStep_of_ne (other : IpAddr) (hother : other ≠ pair.2) :
    (expireStep service pair).view other = service.view other := by
  have houtcome := expireIp_outcome hsound.regular pair.1 pair.2
  unfold expireStep view
  generalize service.expireIp pair.1 pair.2 = next at houtcome ⊢
  rw [IpView.mk.injEq]
  cases houtcome with
  | dropped _ hleaves =>
    have hmesh : next.meshBlocklist = service.meshBlocklist := congrArg Ledger.mesh hleaves.ledger
    rw [hleaves.address, dots_congr hmesh]
    exact ⟨rfl, rfl⟩
  | delayed _ hleaves =>
    have hmesh : next.meshBlocklist = service.meshBlocklist := congrArg Ledger.mesh hleaves.ledger
    rw [hleaves.address, dots_congr hmesh, update_of_ne hother]
    exact ⟨rfl, rfl⟩
  | released _ hleaves =>
    rw [hleaves.address, update_of_ne hother]
    refine ⟨rfl, ?_⟩
    funext nodeId incarnation
    rw [hsound.dots_released hleaves.ledger, if_neg hother]

end

lemma harmless_expireStep_iff {pair : Io × IpAddr} (hsound : service.Sound) :
    IpView.Harmless nowMs (service.view pair.2) ((expireStep service pair).view pair.2) ↔
      NothingToLose nowMs service pair := by
  obtain ⟨io, ip⟩ := pair
  have houtcome := expireIp_outcome hsound.regular io ip
  unfold expireStep
  dsimp only
  generalize service.expireIp io ip = next at houtcome ⊢
  cases houtcome with
  | dropped hidle hleaves =>
    have hmesh : next.meshBlocklist = service.meshBlocklist := congrArg Ledger.mesh hleaves.ledger
    refine iff_of_true ?_ fun hcommits => absurd hcommits hidle
    have hview : next.view ip = service.view ip := by
      unfold view
      rw [hleaves.address, dots_congr hmesh]
    rw [hview]
    exact .refl _ _
  | delayed hidle hleaves =>
    have hmesh : next.meshBlocklist = service.meshBlocklist := congrArg Ledger.mesh hleaves.ledger
    refine iff_of_true ?_ fun hcommits => absurd hcommits hidle
    have hstate : (next.view ip).state = { service.address ip with
        lease := some (service.bucketOf (io.clock.mono + secNs)) } := by
      unfold view
      rw [hleaves.address, update_self]
    have hdots : (service.view ip).dots = (next.view ip).dots := by
      unfold view
      rw [dots_congr hmesh]
    refine (IpView.harmless_congr hdots ?_ ?_).mpr (.refl nowMs _)
    · rw [hstate]
      rfl
    · rw [hstate]
      rfl
  | released hcommits hleaves =>
    have hdots := hsound.dots_released hleaves.ledger
    have hstate : (next.view ip).state = (service.address ip).unblock true := by
      unfold view
      rw [hleaves.address, update_self]
    constructor
    · intro hharmless _
      constructor
      · have hclosed := hharmless.suppressed (by simp [hstate, AddressState.unblock])
        exact (suppressed_iff service ip).mp hclosed
      · rintro ⟨key, entry, hip, hlive, hfuture⟩
        have hnext : (next.dots key).stale entry.1 := by
          rw [hdots, if_pos hip, hlive, Option.map_some, Option.getD_some]
          obtain ⟨watermark, hremoved, hle, _⟩ := (service.dots key).removed_remove entry.1
          simp [Register.stale, hremoved, hle]
        subst hip
        have hbefore := hharmless.tombstones key.nodeId key.incarnation entry hlive hfuture hnext
        -- A live dot lies above the watermark of its key.
        have hseparated := hsound.dots_separated key
        have hbelow : (service.dots key).stale entry.1 := hbefore
        rw [Register.stale, Option.any_eq_true] at hbelow
        obtain ⟨watermark, hremoved, hle⟩ := hbelow
        have habove := hseparated watermark hremoved entry hlive
        simp only [decide_eq_true_eq] at hle
        omega
    · intro hnothing
      obtain ⟨hclosed, hlapsed⟩ := hnothing hcommits
      refine ⟨?_, ?_, ?_⟩
      · intro nodeId incarnation entry hlive hfuture _
        exact absurd (hasLiveDot_iff.mpr ⟨nodeId, incarnation, entry, hlive, hfuture⟩) hlapsed
      · intro _
        exact (suppressed_iff service ip).mpr hclosed
      · intro _ hlive
        exact absurd (hasLiveDot_iff.mpr hlive) hlapsed

/-! ## A pass -/

lemma view_expireCidr (hsound : service.Sound) (io : Io) (network : IpNetwork) :
    (service.expireCidr io network).Sound ∧
      (service.expireCidr io network).view = service.view := by
  have hmesh {next : EnforcementService} {ops : List LedgerOp}
      (hops : (run Ledger.step service.ledger ops).mesh = service.ledger.mesh)
      (hleaves : service.Leaves service.address ops next) : next.view = service.view := by
    have hkept : next.meshBlocklist = service.meshBlocklist :=
      (congrArg Ledger.mesh hleaves.ledger).trans hops
    unfold view
    rw [hleaves.address, dots_congr hkept]
  rcases expireCidr_leaves hsound.regular io network with hleaves | hleaves
  · exact ⟨hsound.step (by simp) hleaves, hmesh rfl hleaves⟩
  · refine ⟨hsound.step ?_ hleaves, hmesh rfl hleaves⟩
    simp [LedgerOp.Sound, WalEntry.isMesh]

lemma view_expireDue (hsound : service.Sound) (ios : Nat → Io) (networks : IterOrder IpNetwork) :
    (service.expireDue ios networks).view =
      (run expireStep (service.drained ios) (service.dueReleases ios)).view := by
  obtain ⟨cidrs, hcidrs⟩ := service.expireDue_eq_run ios networks
  have hdrained : (service.drained ios).Sound :=
    ⟨⟨hsound.regular.plain, (hsound.regular.leases.drainDue _).wellFormed⟩, hsound.ledger⟩
  have hreleased : (service.released ios).Sound :=
    run_invariant expireStep_sound hdrained (service.dueReleases ios)
  have hstep : ∀ (next : EnforcementService) (pair : Io × IpNetwork),
      next.Sound ∧ next.view = (service.released ios).view →
        (next.expireCidr pair.1 pair.2).Sound ∧
          (next.expireCidr pair.1 pair.2).view = (service.released ios).view := by
    rintro next ⟨io, network⟩ ⟨hnext, hview⟩
    obtain ⟨hkept, hsame⟩ := view_expireCidr hnext io network
    exact ⟨hkept, hsame.trans hview⟩
  rw [hcidrs]
  exact (run_invariant hstep ⟨hreleased, rfl⟩ cidrs).2

lemma Sound.expireDue_harmless_iff (hsound : service.Sound) (nowMs : Nat) (ios : Nat → Io)
    (networks : IterOrder IpNetwork) :
    Harmless nowMs service (service.expireDue ios networks) ↔
      Respects expireStep (NothingToLose nowMs) (service.drained ios)
        (service.dueReleases ios) := by
  have hdrain := hsound.regular.leases.drainDue (((ios 0).clock.mono - service.epoch) / secNs)
  have hdrained : (service.drained ios).Sound :=
    ⟨⟨hsound.regular.plain, hdrain.wellFormed⟩, hsound.ledger⟩
  have hnodup : ((service.dueReleases ios).map Prod.snd).Nodup := by
    rw [dueReleases, ActorStep.map_snd_scheduled]
    exact hdrain.nodup
  -- The pass starts by taking the due leases out, which no view shows.
  have hstart (ip : IpAddr) (after : IpView) :
      IpView.Harmless nowMs (service.view ip) after ↔
        IpView.Harmless nowMs ((service.drained ios).view ip) after :=
    IpView.harmless_congr rfl rfl rfl
  rw [harmless_iff_view, view_expireDue hsound ios networks]
  simp only [hstart]
  rw [relates_run_iff expireStep_sound view_expireStep_of_ne hdrained (IpView.Harmless.refl nowMs)
    hnodup]
  exact respects_congr expireStep_sound (fun _ _ hnext => harmless_expireStep_iff hnext) hdrained _

/-- After every run, an expiry pass is harmless exactly if each of its releases
that gets through finds nothing to lose. -/
theorem expireDue_harmless_iff_of_run (ramLimitMb : Nat) (epoch : Instant) (nodeId : Nat)
    (incarnation : Uuid) (attached : Bool) (steps : List ActorStep) (ios : Nat → Io)
    (networks : IterOrder IpNetwork) :
    let service := run ActorStep.step
      (newMesh (Store.new.setRamLimitMb ramLimitMb) epoch nodeId incarnation attached) steps
    Harmless (ios 0).clock.wallMs service (service.expireDue ios networks) ↔
      Respects expireStep (NothingToLose (ios 0).clock.wallMs) (service.drained ios)
        (service.dueReleases ios) := by
  have hregular : (newMesh (Store.new.setRamLimitMb ramLimitMb) epoch nodeId incarnation
      attached).Regular := ⟨Store.plain_of_empty rfl, DeadlineQueue.empty_wellFormed⟩
  have hvalid := ActorStep.run_ledger (fun _ _ hledger hop => hledger.step hop)
    (newMesh_valid (Store.new.setRamLimitMb ramLimitMb) epoch nodeId incarnation attached) steps
  exact Sound.expireDue_harmless_iff ⟨ActorStep.run_regular hregular steps, hvalid⟩ _ ios networks

/-- A peer blocks an address for good, then the operator blocks it for a second.
When the second is over, the peer's dot is withdrawn, and the address is released
and closed to the blocks of peers. -/
theorem expireDue_harmless_fails :
    let service := run ActorStep.step (newMesh (Store.new.setRamLimitMb 64) 0 1 1 true)
      [.receive (fun n => .at ⟨0, 0⟩ (1 + n))
          [(0, .standard (.block ⟨.v4 1, ⟨2, 1, 1⟩, 0, u64Max, 0⟩))],
        .command (.at ⟨0, 0⟩ 8) (.operator 8 .block (.v4 1) 1)]
    let ios : Nat → Io := fun n => .at ⟨2 * secNs, 2 * secNs⟩ (9 + n)
    ¬ Harmless (ios 0).clock.wallMs service (service.expireDue ios IpNetwork.sorted) := by
  intro service ios hharmless
  have hclosed : IpAddr.v4 1 ∉ service.meshOperatorSuppressions := by decide +kernel
  refine hclosed (hharmless.suppressions ?_)
  decide +kernel

end EnforcementService

end RamShield
