import RamShield.Engine.LeaseExpiry

/-! # Convergence of services

Two services that took in the same operations of peers need not end up alike. The
blocklist would make them, but in front of it a block is dropped if it comes too
late or finds its address suppressed, and behind it there is one lease for all
dots of an address, whose expiry withdraws them all. Fix the instant at which the
services are compared. Then only dots that are unexpired at that instant count,
and the services do converge if nothing of the above concerns such a dot, if later
dots of an origin never expire before earlier ones, and if the addresses blocked
for other reasons are released by then.
-/

namespace RamShield

open Foundation Foundation.Machine List Function Option AworsetBlocklist Register ActorStep

namespace EnforcementService

/-! ## What peers did -/

variable (service : EnforcementService)

def dueBucket (now : Instant) : Nat := (now - service.epoch) / secNs

def DueBy (now : Instant) (lease : Option Nat) : Prop :=
  ∃ bucket ∈ lease, bucket ≤ service.dueBucket now

def Accounted (finalMs : Nat) (sent got : List PendingMeshMutation) (key : BlockKey) :
    Register.Op DotPayload → Prop
  | .add counter payload => ∃ delta, .block delta ∈ sent ∧ delta.key = key ∧
      delta.dot.counter = counter ∧ delta.payload = payload
  | .remove watermark =>
    (∃ delta, .unblock delta ∈ got ∧ delta.key = key ∧ watermark ≤ delta.dot.counter) ∨
      ∃ delta, .block delta ∈ sent ∧ delta.key = key ∧ watermark ≤ delta.dot.counter ∧
        delta.expiresAtMs ≤ finalMs

def HasEffect (finalMs : Nat) (dots : BlockKey → Register DotPayload) : PendingMeshMutation → Prop
  | .block delta => finalMs < delta.expiresAtMs →
      (dots delta.key).superseded delta.dot.counter = true
  | .unblock delta => (dots delta.key).stale delta.dot.counter = true

structure DotsTrack (finalMs : Nat) (sent got : List PendingMeshMutation)
    (dots : BlockKey → Register DotPayload) : Prop where
  known {key : BlockKey} {counter : Nat} {payload : DotPayload} :
    (dots key).live = some (counter, payload) →
      Accounted finalMs sent got key (.add counter payload)
  withdrawn {key : BlockKey} {watermark : Nat} : (dots key).removed = some watermark →
    Accounted finalMs sent got key (.remove watermark)
  effect {mutation : PendingMeshMutation} : mutation ∈ got → HasEffect finalMs dots mutation

structure Tracks (final : Clock) (sent got : List PendingMeshMutation)
    (service : EnforcementService) : Prop where
  sound : service.Sound
  handle : service.meshHandle = true
  present : service.meshBlocklist.isSome = true
  dots : DotsTrack final.wallMs sent got service.dots
  blocked {ip : IpAddr} : service.HasLiveDot final.wallMs ip → (service.address ip).blocked = true
  due {ip : IpAddr} : (service.address ip).blocked = true →
    service.HasLiveDot final.wallMs ip ∨ service.DueBy final.mono (service.address ip).lease

def Succeeds (io : Io) (nowMs : Nat) : PendingMeshMutation → Prop
  | .block delta => ∀ mesh, service.Passes mesh nowMs delta →
      service.Projects io (blockCommand io nowMs delta) (mesh.needsMergeDelta delta) (.block delta)
  | .unblock delta => io.walFailure = none ∧ ∀ mesh, service.meshBlocklist = some mesh →
      ¬ mesh.wouldBeBlockedAfterUnblock delta nowMs →
      (service.address delta.ip).applied = true →
        service.Projects io (unblockCommand io nowMs delta) (mesh.needsMergeUnblock delta)
          (.unblock delta)

def Orderly (final : Clock) (service : EnforcementService) (io : Io) (nowMs : Nat) :
    PendingMeshMutation → Prop
  | .block delta =>
    if final.wallMs < delta.expiresAtMs then
      (service.address delta.ip).suppressed = false ∧
        ∀ mesh, service.Passes mesh nowMs delta → mesh.needsMergeDelta delta = false →
          service.HasLiveDot final.wallMs delta.ip
    else
      ∀ mesh, service.Passes mesh nowMs delta →
        service.DueBy final.mono (service.leaseFor io.clock (deltaTtl delta nowMs))
  | .unblock delta => ∀ mesh, service.meshBlocklist = some mesh →
      mesh.needsMergeUnblock delta = true →
      mesh.wouldBeBlockedAfterUnblock delta nowMs ∨ (service.address delta.ip).applied = false →
      (service.address delta.ip).blocked = true →
        mesh.wouldBeBlockedAfterUnblock delta final.wallMs ∨
          service.DueBy final.mono (service.address delta.ip).lease

/-! ## One operation -/

variable {service} {next : EnforcementService} {mutation : PendingMeshMutation} {ip : IpAddr}
variable {mesh : AworsetBlocklist} {nowMs : Nat} {changed : Bool} {ios : Nat → Io}

lemma mesh_of_meshOps {io : Io}
    (hledger : next.ledger = run Ledger.step service.ledger (meshOps io changed mutation)) :
    next.meshBlocklist =
      if changed then service.meshBlocklist.map (mutation.mergeInto io.clock.wallMs)
      else service.meshBlocklist := by
  cases changed <;> exact congrArg Ledger.mesh hledger

lemma dots_of_meshOps (hmesh : service.meshBlocklist = some mesh)
    {io : Io} (hwf : mutation.WellFormed)
    (hledger : next.ledger = run Ledger.step service.ledger (meshOps io changed mutation))
    (hidle : changed = false →
      (service.dots mutation.key).apply mutation.op = service.dots mutation.key) (key : BlockKey) :
    next.dots key =
      if key = mutation.key then (service.dots key).apply mutation.op else service.dots key := by
  have hnext := mesh_of_meshOps hledger
  cases changed with
  | false =>
    rw [dots_congr hnext]
    split
    next hkey => rw [hkey, hidle rfl]
    · rfl
  | true =>
    unfold dots
    rw [hnext, hmesh]
    exact PendingMeshMutation.register_mergeInto hwf _ mesh key

lemma dots_eq (hmesh : service.meshBlocklist = some mesh) : service.dots = mesh.register := by
  funext key
  unfold dots
  rw [hmesh]
  rfl

lemma superseded_of_unneeded {delta : ClusterBlockDelta}
    (hwf : (PendingMeshMutation.block delta).WellFormed)
    (hunneeded : mesh.needsMergeDelta delta = false) :
    (mesh.register delta.key).superseded delta.dot.counter := by
  by_contra hfresh
  have hneeded := needsMergeDelta_iff.mpr ⟨ClusterDot.admissible_of_validWire hwf.1, hfresh⟩
  cases hunneeded.symm.trans hneeded

/-! ## The dots -/

namespace DotsTrack

variable {finalMs : Nat} {sent got : List PendingMeshMutation}
  {dots : BlockKey → Register DotPayload} (htrack : DotsTrack finalMs sent got dots)

include htrack

variable {later : BlockKey → Register DotPayload}

lemma evolve {more : List PendingMeshMutation}
    (hnext : ∀ key, later key = dots key ∨
      ∃ op, Accounted finalMs sent (got ++ more) key op ∧ later key = (dots key).apply op)
    (heffect : ∀ mutation ∈ more, HasEffect finalMs later mutation) :
    DotsTrack finalMs sent (got ++ more) later where
  known := by
    intro key counter payload hlive
    rcases hnext key with hsame | ⟨op, haccounted, hop⟩
    · rw [hsame] at hlive
      exact htrack.known hlive
    · rw [hop] at hlive
      cases op with
      | add current value =>
        rcases (dots key).live_add current value with hkept | ⟨_, hnew⟩
        · exact htrack.known (hkept.symm.trans hlive)
        · cases hnew.symm.trans hlive
          exact haccounted
      | remove current => exact htrack.known (live_remove.mp hlive).1
  withdrawn := by
    intro key watermark hwatermark
    -- An old watermark is accounted for by what was got before.
    have hold (hremoved : (dots key).removed = some watermark) :
        Accounted finalMs sent (got ++ more) key (.remove watermark) := by
      rcases htrack.withdrawn hremoved with ⟨delta, hmem, hrest⟩ | hexpired
      · exact .inl ⟨delta, mem_append_left _ hmem, hrest⟩
      · exact .inr hexpired
    rcases hnext key with hsame | ⟨op, haccounted, hop⟩
    · rw [hsame] at hwatermark
      exact hold hwatermark
    · rw [hop] at hwatermark
      cases op with
      | add current value => exact hold (((dots key).add_removed _ _).symm.trans hwatermark)
      | remove current =>
        obtain ⟨raised, hraised, _, hwhich⟩ := (dots key).removed_remove current
        cases hwatermark.symm.trans hraised
        rcases hwhich with rfl | hkept
        · exact haccounted
        · exact hold hkept
  effect := by
    intro mutation hmem
    rcases mem_append.mp hmem with hgot | hnew
    · have hbefore := htrack.effect hgot
      cases mutation with
      | block delta =>
        intro hlive
        have hsuperseded := hbefore hlive
        rcases hnext delta.key with hsame | ⟨op, _, hop⟩
        · rwa [hsame]
        · rw [hop]
          exact (superseded_apply _ _ _).mpr (.inl hsuperseded)
      | unblock delta =>
        change (later delta.key).stale _ = true
        rcases hnext delta.key with hsame | ⟨op, _, hop⟩
        · rwa [hsame]
        · rw [hop]
          exact stale_apply op hbefore
    · exact heffect mutation hnew

/-- An operation that takes effect, or has had it already. -/
lemma receive {mutation : PendingMeshMutation} (hsent : mutation ∈ sent)
    (hnext : ∀ key, later key =
      if key = mutation.key then (dots key).apply mutation.op else dots key) :
    DotsTrack finalMs sent (got ++ [mutation]) later := by
  refine htrack.evolve (fun key => ?_) fun other hother => ?_
  · rw [hnext]
    split
    next hkey =>
      refine .inr ⟨mutation.op, ?_, rfl⟩
      cases mutation with
      | block delta => exact ⟨delta, hsent, hkey.symm, rfl, rfl⟩
      | unblock delta => exact .inl ⟨delta, mem_append_right _ mem_cons_self, hkey.symm, le_rfl⟩
    · exact .inl rfl
  · cases mem_singleton.mp hother
    have hown := (hnext mutation.key).trans (if_pos rfl)
    cases mutation with
    | block delta =>
      intro _
      exact hown ▸ (superseded_add _ _ _ _).mpr (.inr le_rfl)
    | unblock delta =>
      change (later (PendingMeshMutation.unblock delta).key).stale delta.dot.counter = true
      rw [hown]
      exact (stale_remove_iff ..).mpr (.inr le_rfl)

end DotsTrack

/-! ## What one operation keeps -/

lemma hasLiveDot_congr (hdots : ∀ key : BlockKey, key.ip = ip → next.dots key = service.dots key)
    (nowMs : Nat) : next.HasLiveDot nowMs ip ↔ service.HasLiveDot nowMs ip := by
  unfold HasLiveDot
  apply exists_congr
  intro key
  apply exists_congr
  intro entry
  refine and_congr_right fun hip => ?_
  rw [hdots key hip]

lemma hasLiveDot_removed
    (hmesh : service.meshBlocklist = some mesh) {delta : ClusterUnblockDelta}
    (hnext : ∀ key, next.dots key = if key = delta.key then
      (service.dots key).remove delta.dot.counter else service.dots key) (nowMs : Nat) :
    next.HasLiveDot nowMs delta.ip ↔ mesh.wouldBeBlockedAfterUnblock delta nowMs := by
  rw [wouldBeBlockedAfterUnblock_iff_register]
  refine exists_congr fun key => exists_congr fun entry => ?_
  rw [hnext, dots_eq hmesh]
  split
  next hown => simp [hown, live_remove, and_comm, and_left_comm, and_assoc]
  next hother => simp [hother, and_left_comm]

lemma dueBy_congr (hepoch : next.epoch = service.epoch)
    (now : Instant) (lease : Option Nat) : next.DueBy now lease ↔ service.DueBy now lease := by
  unfold DueBy dueBucket
  rw [hepoch]

lemma meshOps_sound (hwf : mutation.WellFormed) (hip : mutation.ip.isUnspecified = false)
    (io : Io) (changed : Bool) : ∀ op ∈ meshOps io changed mutation, op.Sound := by
  intro op hop
  cases changed with
  | false => cases hop
  | true =>
    cases mem_singleton.mp hop
    exact ⟨hwf, hip⟩

namespace Tracks

variable {final : Clock} {sent got : List PendingMeshMutation}
  (htracks : service.Tracks final sent got)

include htracks

variable {io : Io}

lemma update {next : EnforcementService} {mutation : PendingMeshMutation} {state : AddressState}
    {changed : Bool} (hwf : mutation.WellFormed) (hsent : mutation ∈ sent)
    (hip : mutation.ip.isUnspecified = false)
    (hleaves : service.Leaves (Function.update service.address mutation.ip state)
      (meshOps io changed mutation) next)
    (hnext : ∀ key, next.dots key =
      if key = mutation.key then (service.dots key).apply mutation.op else service.dots key)
    (hblocked : next.HasLiveDot final.wallMs mutation.ip → state.blocked)
    (hdue : state.blocked → next.HasLiveDot final.wallMs mutation.ip ∨
      service.DueBy final.mono state.lease) :
    next.Tracks final sent (got ++ [mutation]) := by
  -- The operation is about one key, and the dots of the other addresses stay.
  have hother {ip : IpAddr} (hne : ip ≠ mutation.ip) :
      next.HasLiveDot final.wallMs ip ↔ service.HasLiveDot final.wallMs ip := by
    apply hasLiveDot_congr
    rintro key rfl
    have hkey : key ≠ mutation.key := by
      rintro rfl
      apply hne
      cases mutation <;> rfl
    rw [hnext, if_neg hkey]
  refine ⟨htracks.sound.step (meshOps_sound hwf hip io changed) hleaves,
    hleaves.handle.trans htracks.handle, ?_, htracks.dots.receive hsent hnext, ?_, ?_⟩
  · rw [mesh_of_meshOps hleaves.ledger]
    split
    · rw [isSome_map, htracks.present]
    · exact htracks.present
  · intro ip hlive
    rw [hleaves.address]
    by_cases heq : ip = mutation.ip
    · subst heq
      rw [update_self]
      exact hblocked hlive
    · rw [update_of_ne heq]
      exact htracks.blocked ((hother heq).mp hlive)
  · intro ip hheld
    rw [hleaves.address] at hheld ⊢
    rw [dueBy_congr hleaves.epoch]
    by_cases heq : ip = mutation.ip
    · subst heq
      rw [update_self] at hheld ⊢
      exact hdue hheld
    · rw [update_of_ne heq] at hheld ⊢
      rw [hother heq]
      exact htracks.due hheld

lemma block {nowMs : Nat} {delta : ClusterBlockDelta}
    (hwf : (PendingMeshMutation.block delta).WellFormed) (hsent : .block delta ∈ sent)
    (htimely : nowMs ≤ final.wallMs) (hsucceeds : service.Succeeds io nowMs (.block delta))
    (horderly : service.Orderly final io nowMs (.block delta)) :
    (service.applyMeshBlock io nowMs delta).2.Tracks final sent (got ++ [.block delta]) := by
  obtain ⟨mesh, hmesh⟩ := isSome_iff_exists.mp htracks.present
  have houtcome := applyMeshBlock_outcome htracks.sound.regular io nowMs delta
  generalize service.applyMeshBlock io nowMs delta = outcome at houtcome ⊢
  obtain ⟨⟨changed, result⟩, next⟩ := outcome
  dsimp only at houtcome ⊢
  cases houtcome with
  | ignored hfilter _ =>
    refine { htracks with dots := htracks.dots.evolve (fun _ => .inl rfl) fun other hother => ?_ }
    cases mem_singleton.mp hother
    -- A block that is unexpired at the end was dropped only if it was not needed.
    intro hlive
    rw [Orderly, if_pos hlive] at horderly
    rw [dots_eq hmesh]
    apply superseded_of_unneeded hwf
    by_contra hneeded
    exact hfilter mesh ⟨hmesh, by omega, horderly.1, .inl (by simpa using hneeded)⟩
  | idle hpasses hidle _ => exact absurd (hsucceeds _ hpasses) hidle
  | refused hpasses hidle _ => exact absurd (hsucceeds _ hpasses) hidle
  | @projected found _ _ hpasses hprojects hleaves =>
    cases hmesh.symm.trans hpasses.blocklist
    have hip : delta.ip.isUnspecified = false := by
      unfold Projects at hprojects
      split at hprojects
      · exact hprojects.2.1
      · exact hprojects.2.1
    have hidle (hnot : mesh.needsMergeDelta delta = false) :
        (service.dots delta.key).add delta.dot.counter delta.payload = service.dots delta.key := by
      rw [dots_eq hmesh]
      exact add_eq_self_iff.mpr (superseded_of_unneeded hwf hnot)
    have hnext := dots_of_meshOps hmesh hwf hleaves.ledger hidle
    refine htracks.update hwf hsent hip hleaves hnext (fun _ => rfl) fun _ => ?_
    rw [Orderly] at horderly
    split at horderly
    next hlive =>
      left
      cases hneeded : mesh.needsMergeDelta delta with
      | false =>
        refine (hasLiveDot_congr (fun key _ => ?_) _).mpr (horderly.2 mesh hpasses hneeded)
        rw [hnext]
        split
        next hkey => rw [hkey]; exact hidle hneeded
        · rfl
      | true =>
        have hfresh := (needsMergeDelta_iff.mp hneeded).2
        have hown := (hnext delta.key).trans (if_pos rfl)
        refine ⟨delta.key, (delta.dot.counter, delta.payload), rfl, ?_, hlive⟩
        rw [hown, dots_eq hmesh, PendingMeshMutation.op, Register.apply, add_eq, if_neg hfresh]
    · exact .inr (horderly mesh hpasses)

lemma unblock {nowMs : Nat} {delta : ClusterUnblockDelta}
    (hwf : (PendingMeshMutation.unblock delta).WellFormed) (hsent : .unblock delta ∈ sent)
    (htimely : nowMs ≤ final.wallMs) (hsucceeds : service.Succeeds io nowMs (.unblock delta))
    (horderly : service.Orderly final io nowMs (.unblock delta)) :
    (service.applyMeshUnblock io nowMs delta).2.Tracks final sent (got ++ [.unblock delta]) := by
  obtain ⟨mesh, hmesh⟩ := isSome_iff_exists.mp htracks.present
  have hidle (hnot : mesh.needsMergeUnblock delta = false) :
      (service.dots delta.key).remove delta.dot.counter = service.dots delta.key := by
    rw [dots_eq hmesh]
    by_contra hdiffers
    have hneeded := needsMergeUnblock_iff.mpr ⟨ClusterDot.admissible_of_validWire hwf.2, hdiffers⟩
    cases hnot.symm.trans hneeded
  have hip : (PendingMeshMutation.unblock delta).ip.isUnspecified = false := hwf.1
  have houtcome := applyMeshUnblock_outcome htracks.sound.regular io nowMs delta
  generalize (service.applyMeshUnblock io nowMs delta).2 = next at houtcome ⊢
  cases houtcome with
  | meshless hnone _ => cases hmesh.symm.trans hnone
  | unneeded hfound hnot _ =>
    cases hmesh.symm.trans hfound
    refine { htracks with dots := htracks.dots.receive hsent fun key => ?_ }
    split
    next hkey => rw [hkey]; exact (hidle hnot).symm
    · rfl
  | unrecorded _ hfailure _ =>
    rw [hsucceeds.1] at hfailure
    cases hfailure
  | recorded hfound hneeded hkept hleaves =>
    cases hmesh.symm.trans hfound
    rw [← update_eq_self delta.ip service.address] at hleaves
    have hops : service.Leaves (Function.update service.address delta.ip
        (service.address delta.ip)) (meshOps io true (.unblock delta)) next := hleaves
    have hnext := dots_of_meshOps hmesh hwf hops.ledger nofun
    have hlive := hasLiveDot_removed hmesh hnext final.wallMs
    refine htracks.update hwf hsent hip hops hnext (fun hlater => ?_) fun hheld => ?_
    · obtain ⟨key, entry, hentry, hkey, hfuture, _⟩ :=
        wouldBeBlockedAfterUnblock_iff_register.mp (hlive.mp hlater)
      exact htracks.blocked ⟨key, entry, hkey, dots_eq hmesh ▸ hentry, hfuture⟩
    · exact (horderly mesh hmesh hneeded hkept hheld).imp_left hlive.mpr
  | idle hfound hfree happlied hidle _ =>
    cases hmesh.symm.trans hfound
    exact absurd (hsucceeds.2 mesh hmesh hfree happlied) hidle
  | released hfound hfree happlied _ hleaves =>
    cases hmesh.symm.trans hfound
    have hnext := dots_of_meshOps hmesh hwf hleaves.ledger hidle
    refine htracks.update hwf hsent hip hleaves hnext (fun hlater => ?_) nofun
    -- No dot that is unexpired now would be left, and none that is so later.
    obtain ⟨key, entry, hlive, hkey, hfuture, hbeside⟩ :=
      wouldBeBlockedAfterUnblock_iff_register.mp ((hasLiveDot_removed hmesh hnext _).mp hlater)
    exact absurd (wouldBeBlockedAfterUnblock_iff_register.mpr
      ⟨key, entry, hlive, hkey, by omega, hbeside⟩) hfree

end Tracks

/-! ## An expiry pass -/

lemma step_frame (hsound : service.Sound)
    (hpresent : service.wal.isSome ∧ service.meshBlocklist.isSome) (action : ActorStep) :
    (ActorStep.step service action).Sound ∧
      (ActorStep.step service action).epoch = service.epoch ∧
      (ActorStep.step service action).meshHandle = service.meshHandle ∧
      (ActorStep.step service action).wal.isSome ∧
      (ActorStep.step service action).meshBlocklist.isSome := by
  have hledger : (ActorStep.step service action).ledger.Valid :=
    run_ledger (fun _ _ hledger hop => hledger.step hop) hsound.ledger [action]
  have hkept : (ActorStep.step service action).ledger.wal.isSome ∧
      (ActorStep.step service action).ledger.mesh.isSome :=
    run_ledger (fun ledger op hledger _ => ledger.step_present op hledger)
      (show service.ledger.wal.isSome ∧ service.ledger.mesh.isSome from hpresent) [action]
  have hacts : ∀ (next : EnforcementService) (act : Act),
      next.Regular ∧ next.epoch = service.epoch ∧ next.meshHandle = service.meshHandle →
        (act.step next).Regular ∧ (act.step next).epoch = service.epoch ∧
          (act.step next).meshHandle = service.meshHandle := by
    rintro next act ⟨hregular, hepoch, hhandle⟩
    obtain ⟨_, _, hleaves⟩ := act.step_leaves hregular
    exact ⟨hleaves.regular, hleaves.epoch.trans hepoch, hleaves.handle.trans hhandle⟩
  obtain ⟨hregular, hepoch, hhandle⟩ :=
    run_invariant hacts ⟨hsound.regular, rfl, rfl⟩ (action.acts service)
  rw [← action.step_eq_run] at hregular hepoch hhandle
  exact ⟨⟨hregular, hledger⟩, hepoch, hhandle, hkept⟩

/-- Every release gets through, and none is of an address with a live dot. -/
def Releases (finalMs : Nat) (service : EnforcementService) (pair : Io × IpAddr) : Prop :=
  service.Commits pair.1 (ttlUnblock pair.1 pair.2 none) none .append ∧
    ¬ service.HasLiveDot finalMs pair.2

lemma drainDue_drained (hsound : service.Sound)
    (now : Instant) : DeadlineQueue.Drained service.leases (service.dueBucket now)
      (service.leases.drainDue (service.dueBucket now)) :=
  hsound.regular.leases.drainDue _

lemma drained_sound (hsound : service.Sound) (ios : Nat → Io) : (service.drained ios).Sound :=
  ⟨⟨hsound.regular.plain, (drainDue_drained hsound (ios 0).clock.mono).wellFormed⟩, hsound.ledger⟩

lemma map_snd_dueReleases (service : EnforcementService) (ios : Nat → Io) :
    (service.dueReleases ios).map Prod.snd =
      (service.leases.drainDue (service.dueBucket (ios 0).clock.mono)).1 :=
  map_snd_scheduled ..

lemma mem_dueReleases_iff (hsound : service.Sound) (ios : Nat → Io) (ip : IpAddr) :
    ip ∈ (service.dueReleases ios).map Prod.snd ↔
      service.DueBy (ios 0).clock.mono (service.address ip).lease := by
  rw [map_snd_dueReleases, (drainDue_drained hsound _).mem_iff]
  rfl

lemma dots_eq_view (service : EnforcementService) {key : BlockKey} (hip : key.ip = ip) :
    service.dots key = (service.view ip).dots key.nodeId key.incarnation := by
  subst hip
  rfl

lemma expireDue_of_due (hsound : service.Sound) {finalMs : Nat}
    (networks : IterOrder IpNetwork)
    (hreleases : Respects expireStep (Releases finalMs) (service.drained ios)
      (service.dueReleases ios))
    (hdue : service.DueBy (ios 0).clock.mono (service.address ip).lease) :
    ¬ service.HasLiveDot finalMs ip ∧
      ((service.expireDue ios networks).address ip).blocked = false ∧
      ∀ key : BlockKey, key.ip = ip → (service.expireDue ios networks).dots key =
        ((service.dots key).live.map fun value => (service.dots key).remove value.1).getD
          (service.dots key) := by
  have hnodup : ((service.dueReleases ios).map Prod.snd).Nodup := by
    rw [map_snd_dueReleases]
    exact (drainDue_drained hsound _).nodup
  obtain ⟨⟨io, ip⟩, hpair, rfl⟩ := mem_map.mp ((mem_dueReleases_iff hsound ios ip).mpr hdue)
  -- The release meets the address as the pass found it, and nothing after it concerns it.
  obtain ⟨middle, hmiddle, ⟨hcommits, hlapsed⟩, hbefore, hafter⟩ :=
    view_run_of_mem expireStep_sound view_expireStep_of_ne (drained_sound hsound ios) hnodup
      hreleases hpair
  dsimp only at hcommits hlapsed hbefore hafter ⊢
  have hsame {key : BlockKey} (hip : key.ip = ip) : middle.dots key = service.dots key := by
    rw [middle.dots_eq_view hip, hbefore]
    exact (service.dots_eq_view hip).symm
  have hview := (congrFun (view_expireDue hsound ios networks) ip).trans hafter
  have houtcome := expireIp_outcome hmiddle.regular io ip
  unfold expireStep at hview
  dsimp only at hview
  generalize middle.expireIp io ip = released at houtcome hview
  cases houtcome with
  | dropped hidle _ => exact absurd hcommits hidle
  | delayed hidle _ => exact absurd hcommits hidle
  | released _ hleaves =>
    refine ⟨?_, ?_, ?_⟩
    · rw [← hasLiveDot_congr (fun key hip => hsame hip) finalMs]
      exact hlapsed
    · have hstate := congrArg IpView.state hview
      change (service.expireDue ios networks).address ip = released.address ip at hstate
      rw [hstate, hleaves.address, update_self]
      rfl
    · intro key hip
      rw [dots_eq_view _ hip, hview, ← dots_eq_view _ hip,
        hmiddle.dots_released hleaves.ledger, if_pos hip, hsame hip]

lemma expireDue_of_not_due (hsound : service.Sound)
    (ios : Nat → Io) (networks : IterOrder IpNetwork)
    (hlater : ¬ service.DueBy (ios 0).clock.mono (service.address ip).lease) :
    (service.expireDue ios networks).address ip = service.address ip ∧
      ∀ key : BlockKey, key.ip = ip →
        (service.expireDue ios networks).dots key = service.dots key := by
  have hkept := view_run_of_absent expireStep_sound view_expireStep_of_ne
    (drained_sound hsound ios) ((mem_dueReleases_iff hsound ios ip).not.mpr hlater)
  have hview := (congrFun (view_expireDue hsound ios networks) ip).trans hkept
  refine ⟨?_, ?_⟩
  · have hstate := congrArg IpView.state hview
    change (service.expireDue ios networks).address ip = (service.drained ios).address ip at hstate
    have hfiltered := hsound.regular.address_drain (service.dueBucket (ios 0).clock.mono) ip
    change (service.drained ios).address ip = { service.address ip with
      lease := (service.address ip).lease.filter fun bucket =>
        decide (service.dueBucket (ios 0).clock.mono < bucket) } at hfiltered
    have hall : ((service.address ip).lease.filter fun bucket =>
        decide (service.dueBucket (ios 0).clock.mono < bucket)) = (service.address ip).lease := by
      cases hlease : (service.address ip).lease with
      | none => rfl
      | some bucket =>
        rw [filter_some, if_pos]
        simp only [decide_eq_true_eq]
        by_contra hle
        exact hlater ⟨bucket, hlease, Nat.le_of_not_lt hle⟩
    rw [hstate, hfiltered, hall]
  · intro key hip
    rw [dots_eq_view _ hip, hview]
    exact (service.dots_eq_view hip).symm

lemma Tracks.expire {final : Clock} {sent got : List PendingMeshMutation}
    (htracks : service.Tracks final sent got)
    (hwal : service.wal.isSome) (networks : IterOrder IpNetwork)
    (hreleases : Respects expireStep (Releases final.wallMs) (service.drained ios)
      (service.dueReleases ios)) : (service.expireDue ios networks).Tracks final sent got := by
  have hframe := step_frame htracks.sound ⟨hwal, htracks.present⟩ (.expire ios networks)
  change (service.expireDue ios networks).Sound ∧ (service.expireDue ios networks).epoch = _ ∧
    (service.expireDue ios networks).meshHandle = _ ∧ _ ∧
      (service.expireDue ios networks).meshBlocklist.isSome = true at hframe
  obtain ⟨hsound, hepoch, hhandle, _, hpresent⟩ := hframe
  have hdue {ip : IpAddr} (hip : service.DueBy (ios 0).clock.mono (service.address ip).lease) :=
    expireDue_of_due htracks.sound networks hreleases hip
  have hlater {ip : IpAddr} (hip : ¬ service.DueBy (ios 0).clock.mono (service.address ip).lease) :=
    expireDue_of_not_due htracks.sound ios networks hip
  refine ⟨hsound, hhandle.trans htracks.handle, hpresent, ?_, ?_, ?_⟩
  · rw [← append_nil got]
    refine htracks.dots.evolve (fun key => ?_) nofun
    by_cases hip : service.DueBy (ios 0).clock.mono (service.address key.ip).lease
    · obtain ⟨hlapsed, _, hdots⟩ := hdue hip
      rw [hdots key rfl]
      cases hlive : (service.dots key).live with
      | none => exact .inl rfl
      | some entry =>
        -- A dot that is withdrawn was sent, and is expired at the final instant.
        obtain ⟨counter, payload⟩ := entry
        obtain ⟨delta, hsent, hkey, rfl, rfl⟩ := htracks.dots.known hlive
        refine .inr ⟨.remove delta.dot.counter, .inr ⟨delta, hsent, hkey, le_rfl, ?_⟩, rfl⟩
        by_contra hfuture
        exact hlapsed ⟨key, _, rfl, hlive, Nat.lt_of_not_le hfuture⟩
    · exact .inl ((hlater hip).2 key rfl)
  · intro ip hlive
    by_cases hip : service.DueBy (ios 0).clock.mono (service.address ip).lease
    · obtain ⟨hlapsed, _, hdots⟩ := hdue hip
      obtain ⟨key, entry, hkey, hentry, hfuture⟩ := hlive
      rw [hdots key hkey] at hentry
      -- What is live after the withdrawal was live before.
      cases hbefore : (service.dots key).live with
      | none =>
        rw [hbefore] at hentry
        cases hbefore.symm.trans hentry
      | some value =>
        rw [hbefore] at hentry
        have hold := (live_remove.mp hentry).1
        exact absurd ⟨key, entry, hkey, hold, hfuture⟩ hlapsed
    · obtain ⟨haddress, hdots⟩ := hlater hip
      rw [haddress]
      exact htracks.blocked ((hasLiveDot_congr hdots final.wallMs).mp hlive)
  · intro ip hheld
    by_cases hip : service.DueBy (ios 0).clock.mono (service.address ip).lease
    · cases (hdue hip).2.1.symm.trans hheld
    · obtain ⟨haddress, hdots⟩ := hlater hip
      rw [haddress] at hheld ⊢
      rw [hasLiveDot_congr hdots final.wallMs, dueBy_congr hepoch]
      exact htracks.due hheld

/-- A batch of operations keeps track. -/
lemma Tracks.receive {final : Clock} {sent got : List PendingMeshMutation}
    (htimely : nowMs ≤ final.wallMs)
    (htracks : service.Tracks final sent got) {pairs : List (Io × PendingMeshMutation)}
    (hwf : ∀ pair ∈ pairs, pair.2.WellFormed) (hsent : ∀ pair ∈ pairs, pair.2 ∈ sent)
    (hallowed : Respects (peerStep nowMs) (fun service pair =>
      service.Succeeds pair.1 nowMs pair.2 ∧ service.Orderly final pair.1 nowMs pair.2)
      service pairs) :
    (run (peerStep nowMs) service pairs).Tracks final sent (got ++ pairs.map Prod.snd) := by
  induction pairs generalizing service got with
  | nil => simpa using htracks
  | cons pair pairs ih =>
    obtain ⟨⟨hsucceeds, horderly⟩, hrest⟩ := hallowed
    have hstep : (peerStep nowMs service pair).Tracks final sent (got ++ [pair.2]) := by
      have hformed := hwf pair mem_cons_self
      have hmem := hsent pair mem_cons_self
      obtain ⟨io, mutation⟩ := pair
      cases mutation with
      | block delta => exact htracks.block hformed hmem htimely hsucceeds horderly
      | unblock delta => exact htracks.unblock hformed hmem htimely hsucceeds horderly
    have hnext := ih hstep (fun other hother => hwf other (mem_cons_of_mem _ hother))
      (fun other hother => hsent other (mem_cons_of_mem _ hother)) hrest
    rwa [append_assoc] at hnext

end EnforcementService

/-! ## Runs -/

namespace ActorStep

open EnforcementService

def received : ActorStep → List PendingMeshMutation
  | .receive _ frames => operations (admitted frames)
  | _ => []

/-- The step is about peers, in time, and succeeds. -/
def Delivers (final : Clock) (service : EnforcementService) : ActorStep → Prop
  | .receive ios frames => (ios 0).clock.wallMs ≤ final.wallMs ∧
      Respects (peerStep (ios 0).clock.wallMs)
        (fun service pair => service.Succeeds pair.1 (ios 0).clock.wallMs pair.2) service
        (scheduled ios 0 (operations (admitted frames)))
  | .expire ios _ => Respects expireStep
      (fun service pair => service.Commits pair.1 (ttlUnblock pair.1 pair.2 none) none .append)
      (service.drained ios) (service.dueReleases ios)
  | _ => False

/-- Its operations are orderly, and no lease runs out on an address with a live dot. -/
def Undisturbed (final : Clock) (service : EnforcementService) : ActorStep → Prop
  | .receive ios frames => Respects (peerStep (ios 0).clock.wallMs)
      (fun service pair => service.Orderly final pair.1 (ios 0).clock.wallMs pair.2) service
      (scheduled ios 0 (operations (admitted frames)))
  | .expire ios _ => Respects expireStep
      (fun service pair => ¬ service.HasLiveDot final.wallMs pair.2)
      (service.drained ios) (service.dueReleases ios)
  | _ => True

variable {final : Clock} {sent got : List PendingMeshMutation} {service : EnforcementService}

lemma step_tracks {action : ActorStep} (htracks : service.Tracks final sent got)
    (hwal : service.wal.isSome) (hsent : ∀ mutation ∈ action.received, mutation ∈ sent)
    (hdelivers : action.Delivers final service) (hundisturbed : action.Undisturbed final service) :
    (ActorStep.step service action).Tracks final sent (got ++ action.received) := by
  cases action with
  | command io cmd => exact hdelivers.elim
  | reconcile ios order => exact hdelivers.elim
  | receive ios frames =>
    have hmem (pair : Io × PendingMeshMutation)
        (hpair : pair ∈ scheduled ios 0 (operations (admitted frames))) :=
      mem_of_mem_scheduled hpair
    have hrun := Tracks.receive hdelivers.1 htracks
      (fun pair hpair => wellFormed_of_mem_operations (hmem pair hpair))
      (fun pair hpair => hsent pair.2 (hmem pair hpair)) (hdelivers.2.and hundisturbed)
    rw [map_snd_scheduled] at hrun
    change (service.applyMeshMessages ios (admitted frames)).2.2.Tracks _ _ _
    rw [applyMeshMessages_eq_run, if_pos htracks.handle]
    exact hrun
  | expire ios networks =>
    have hpass := htracks.expire hwal networks (hdelivers.and hundisturbed)
    have hnothing : received (.expire ios networks) = [] := rfl
    rw [hnothing, append_nil]
    exact hpass

lemma run_tracks (htracks : service.Tracks final sent got)
    (hwal : service.wal.isSome) {steps : List ActorStep}
    (hsent : ∀ mutation ∈ steps.flatMap received, mutation ∈ sent)
    (hdelivers : Respects ActorStep.step (fun service action => action.Delivers final service)
      service steps) (hundisturbed : Respects ActorStep.step
      (fun service action => action.Undisturbed final service) service steps) :
    (run ActorStep.step service steps).Tracks final sent (got ++ steps.flatMap received) := by
  induction steps generalizing service got with
  | nil => simpa using htracks
  | cons action steps ih =>
    rw [flatMap_cons] at hsent
    have hstep := step_tracks htracks hwal
      (fun mutation hmem => hsent mutation (mem_append_left _ hmem)) hdelivers.1
      hundisturbed.1
    have hnext := (step_frame htracks.sound ⟨hwal, htracks.present⟩ action).2.2.2.1
    have hrun := ih hstep hnext
      (fun mutation hmem => hsent mutation (mem_append_right _ hmem)) hdelivers.2
      hundisturbed.2
    rwa [append_assoc, ← flatMap_cons] at hrun

end ActorStep

namespace EnforcementService

def UniqueBlocks (sent : List PendingMeshMutation) : Prop :=
  ∀ first second, .block first ∈ sent → .block second ∈ sent → first.key = second.key →
    first.dot.counter = second.dot.counter → first = second

def ExpiryInOrder (sent : List PendingMeshMutation) : Prop :=
  ∀ first second, .block first ∈ sent → .block second ∈ sent → first.key = second.key →
    first.dot.counter ≤ second.dot.counter → first.expiresAtMs ≤ second.expiresAtMs

variable {sent other : List PendingMeshMutation}

lemma UniqueBlocks.mono (hunique : UniqueBlocks sent) (hsubset : other ⊆ sent) :
    UniqueBlocks other :=
  fun first second hfirst hsecond => hunique first second (hsubset hfirst) (hsubset hsecond)

lemma ExpiryInOrder.mono (hordered : ExpiryInOrder sent) (hsubset : other ⊆ sent) :
    ExpiryInOrder other :=
  fun first second hfirst hsecond => hordered first second (hsubset hfirst) (hsubset hsecond)

section Agreement

variable {finalMs : Nat} {left right : List PendingMeshMutation}
  {leftDots rightDots : BlockKey → Register DotPayload}
  (hleft : DotsTrack finalMs left left leftDots)
  (hright : DotsTrack finalMs right right rightDots) (hforth : left ⊆ right)
  (hback : right ⊆ left) (hordered : ExpiryInOrder left) {key : BlockKey}
  (hseparated : (leftDots key).Separated) {entry : Nat × DotPayload}
  (hlive : (leftDots key).live = some entry) (hfuture : finalMs < entry.2.expiresAtMs)

include hleft hright hforth hback hordered hseparated hlive hfuture

lemma DotsTrack.newer :
    ∃ other, (rightDots key).live = some other ∧ entry.1 ≤ other.1 ∧
      finalMs < other.2.expiresAtMs := by
  obtain ⟨counter, payload⟩ := entry
  obtain ⟨delta, hdelta, rfl, rfl, rfl⟩ := hleft.known hlive
  have hsuperseded := hright.effect (hforth hdelta) hfuture
  have hlater : finalMs < delta.expiresAtMs := hfuture
  rcases superseded_iff.mp hsuperseded with
    ⟨watermark, hremoved, hle⟩ | ⟨other, hother, hle⟩
  · exfalso
    rcases hright.withdrawn hremoved with
      ⟨tombstone, hgot, hkey, hcovers⟩ | ⟨expired, hsent, hkey, hcovers, hexpired⟩
    · -- The tombstone came here too, so the dot lies above it.
      have hstale : (leftDots tombstone.key).stale _ = true := hleft.effect (hback hgot)
      rw [hkey, Register.stale, Option.any_eq_true] at hstale
      obtain ⟨raised, hraised, hbelow⟩ := hstale
      have habove := hseparated raised hraised _ hlive
      simp only [decide_eq_true_eq] at hbelow
      omega
    · have horder := hordered delta expired hdelta (hback hsent) hkey.symm (hle.trans hcovers)
      omega
  · refine ⟨other, hother, hle, ?_⟩
    obtain ⟨current, held⟩ := other
    obtain ⟨newer, hnewer, hkey, rfl, rfl⟩ := hright.known hother
    exact hlater.trans_le (hordered delta newer hdelta (hback hnewer) hkey.symm hle)

lemma DotsTrack.agree (hunique : UniqueBlocks left)
    (hrightSeparated : (rightDots key).Separated) : (rightDots key).live = some entry := by
  obtain ⟨other, hother, hle, hotherFuture⟩ :=
    hleft.newer hright hforth hback hordered hseparated hlive hfuture
  obtain ⟨again, hagain, hge, _⟩ :=
    hright.newer hleft hback hforth (hordered.mono hback) hrightSeparated hother hotherFuture
  cases hlive.symm.trans hagain
  -- Each is as new as the other, so they are one dot.
  obtain ⟨counter, payload⟩ := entry
  obtain ⟨otherCounter, otherPayload⟩ := other
  obtain ⟨first, hfirst, hfirstKey, rfl, rfl⟩ := hleft.known hlive
  obtain ⟨second, hsecond, hsecondKey, rfl, rfl⟩ := hright.known hother
  have hdot := hunique first second hfirst (hback hsecond) (hfirstKey.trans hsecondKey.symm)
    (Nat.le_antisymm hle hge)
  rw [hother, hdot]

end Agreement

lemma Tracks.blocked_iff {final : Clock} {got : List PendingMeshMutation}
    {service : EnforcementService} (htracks : service.Tracks final sent got)
    (hdone : ∀ ip, (service.address ip).blocked →
      ¬ service.DueBy final.mono (service.address ip).lease) (ip : IpAddr) :
    (service.address ip).blocked ↔ service.HasLiveDot final.wallMs ip :=
  ⟨fun hblocked => (htracks.due hblocked).resolve_right (hdone ip hblocked), htracks.blocked⟩

lemma newMesh_tracks (final : Clock) (sent : List PendingMeshMutation) (ramLimitMb : Nat)
    (epoch : Instant) (nodeId : Nat) (incarnation : Uuid) :
    (newMesh (Store.new.setRamLimitMb ramLimitMb) epoch nodeId incarnation true).Tracks final sent
      [] := by
  have hempty : (Store.new.setRamLimitMb ramLimitMb).inner = ∅ := rfl
  refine ⟨⟨⟨Store.plain_of_empty rfl, DeadlineQueue.empty_wellFormed⟩,
    newMesh_valid _ epoch nodeId incarnation true⟩, rfl, rfl, ⟨nofun, nofun, nofun⟩, ?_, ?_⟩
  · rintro ip ⟨key, entry, _, ⟨⟩, _⟩
  · intro ip hblocked
    cases (Store.holds_of_empty hempty ip).symm.trans hblocked

end EnforcementService

/-- A service without local commands: it starts empty, takes steps, and ends with an expiry pass. -/
structure Site where
  ramLimitMb : Nat
  epoch : Instant
  nodeId : Nat
  incarnation : Uuid
  steps : List ActorStep
  ios : Nat → Io
  networks : IterOrder IpNetwork

namespace Site

open EnforcementService

def start (site : Site) : EnforcementService :=
  .newMesh (Store.new.setRamLimitMb site.ramLimitMb) site.epoch site.nodeId site.incarnation true

def before (site : Site) : EnforcementService := run ActorStep.step site.start site.steps

def service (site : Site) : EnforcementService :=
  run ActorStep.step site.start (site.steps ++ [.expire site.ios site.networks])

def received (site : Site) : List PendingMeshMutation := site.steps.flatMap ActorStep.received

/-- Everything succeeds, and the last pass is at the final instant. -/
structure Delivers (final : Clock) (site : Site) : Prop where
  last : (site.ios 0).clock = final
  steps : Respects ActorStep.step (fun service action => action.Delivers final service) site.start
    (site.steps ++ [.expire site.ios site.networks])

def Undisturbed (final : Clock) (site : Site) : Prop :=
  Respects ActorStep.step (fun service action => action.Undisturbed final service) site.start
    (site.steps ++ [.expire site.ios site.networks])

variable {final : Clock} {io : Io} {nowMs : Nat} {ios : Nat → Io} {service : EnforcementService}

lemma tracks {site : Site} (hdelivers : site.Delivers final)
    (hundisturbed : site.Undisturbed final) :
    site.service.Tracks final site.received site.received ∧
      ∀ ip, (site.service.address ip).blocked →
        ¬ site.service.DueBy final.mono (site.service.address ip).lease := by
  have hstart := newMesh_tracks final site.received site.ramLimitMb site.epoch
    site.nodeId site.incarnation
  obtain ⟨hsteps, hlast, _⟩ := respects_append.mp hdelivers.steps
  obtain ⟨horderly, hquiet, _⟩ := respects_append.mp hundisturbed
  have hbefore : site.before.Tracks final site.received site.received :=
    run_tracks hstart rfl (fun _ hmem => hmem) hsteps horderly
  have hwal : site.before.wal.isSome := by
    have hkept := run_ledger (fun ledger op hledger _ => ledger.step_present op hledger)
      (show site.start.ledger.wal.isSome ∧ site.start.ledger.mesh.isSome from ⟨rfl, rfl⟩)
      site.steps
    exact hkept.1
  have hservice : site.service = site.before.expireDue site.ios site.networks := by
    rw [service, run_append]
    rfl
  have hreleases : Respects expireStep
      (Releases final.wallMs) (site.before.drained site.ios)
      (site.before.dueReleases site.ios) := Respects.and hlast hquiet
  have hepoch : site.service.epoch = site.before.epoch := by
    rw [hservice]
    exact (step_frame hbefore.sound ⟨hwal, hbefore.present⟩ (.expire site.ios site.networks)).2.1
  constructor
  · rw [hservice]
    exact hbefore.expire hwal site.networks hreleases
  · intro ip hblocked hdue
    rw [dueBy_congr hepoch, ← hdelivers.last] at hdue
    rw [hservice] at hblocked hdue
    by_cases hwas : site.before.DueBy (site.ios 0).clock.mono (site.before.address ip).lease
    · obtain ⟨_, hreleased, _⟩ := expireDue_of_due hbefore.sound site.networks hreleases hwas
      cases hreleased.symm.trans hblocked
    · obtain ⟨haddress, _⟩ := expireDue_of_not_due hbefore.sound site.ios site.networks hwas
      rw [haddress] at hdue
      exact hwas hdue

/-- Two sites that got the same operations, where nothing met with what keeps
services apart, hold the same unexpired dots and block the same addresses. -/
theorem converge {final : Clock} {left right : Site}
    (hsame : ∀ mutation, mutation ∈ left.received ↔ mutation ∈ right.received)
    (hunique : EnforcementService.UniqueBlocks left.received) (hleft : left.Delivers final)
    (hright : right.Delivers final) (hordered : EnforcementService.ExpiryInOrder left.received)
    (hleftUndisturbed : left.Undisturbed final) (hrightUndisturbed : right.Undisturbed final) :
    (∀ key entry, final.wallMs < entry.2.expiresAtMs →
        ((left.service.dots key).live = some entry ↔ (right.service.dots key).live = some entry)) ∧
      ∀ ip, (left.service.address ip).blocked = (right.service.address ip).blocked := by
  obtain ⟨hleftTracks, hleftDone⟩ := tracks hleft hleftUndisturbed
  obtain ⟨hrightTracks, hrightDone⟩ := tracks hright hrightUndisturbed
  have hforth : left.received ⊆ right.received := fun mutation => (hsame mutation).mp
  have hback : right.received ⊆ left.received := fun mutation => (hsame mutation).mpr
  have hdots (key : BlockKey) (entry : Nat × DotPayload)
      (hfuture : final.wallMs < entry.2.expiresAtMs) :
      (left.service.dots key).live = some entry ↔ (right.service.dots key).live = some entry := by
    have hleftSeparated := hleftTracks.sound.dots_separated key
    have hrightSeparated := hrightTracks.sound.dots_separated key
    exact ⟨fun hlive => hleftTracks.dots.agree hrightTracks.dots hforth hback hordered
        hleftSeparated hlive hfuture hunique hrightSeparated,
      fun hlive => hrightTracks.dots.agree hleftTracks.dots hback hforth (hordered.mono hback)
        hrightSeparated hlive hfuture (hunique.mono hback) hleftSeparated⟩
  refine ⟨hdots, fun ip => ?_⟩
  rw [Bool.eq_iff_iff, hleftTracks.blocked_iff hleftDone, hrightTracks.blocked_iff hrightDone]
  unfold HasLiveDot
  apply exists_congr
  intro key
  apply exists_congr
  intro entry
  refine and_congr_right fun _ => and_congr_left fun hfuture => ?_
  exact hdots key entry hfuture

/-! ## Two orders of a block and its tombstone -/

section Decisions

variable (service) (io) (nowMs) (action : ActorStep)

instance {delta : ClusterBlockDelta} {holds : AworsetBlocklist → Prop} [DecidablePred holds] :
    Decidable (∀ mesh, service.Passes mesh nowMs delta → holds mesh) :=
  decidable_of_iff (∀ mesh ∈ service.meshBlocklist, nowMs < delta.expiresAtMs →
      (service.address delta.ip).suppressed = false → mesh.needsMergeDelta delta = true ∨
        (service.address delta.ip).applied = false → holds mesh)
    ⟨fun hall mesh hpasses => hall mesh hpasses.blocklist hpasses.live hpasses.unsuppressed
      hpasses.new, fun hall mesh hmesh hlive hfree hnew => hall mesh ⟨hmesh, hlive, hfree, hnew⟩⟩

instance {holds : AworsetBlocklist → Prop} [DecidablePred holds] :
    Decidable (∀ mesh, service.meshBlocklist = some mesh → holds mesh) :=
  inferInstanceAs (Decidable (∀ mesh ∈ service.meshBlocklist, holds mesh))

instance (ip : IpAddr) : Decidable (service.HasLiveDot nowMs ip) :=
  decidable_of_iff (∃ mesh ∈ service.meshBlocklist, mesh.isBlocked ip nowMs) (by
    unfold HasLiveDot dots
    cases service.meshBlocklist with
    | none => simp [Register.empty]
    | some mesh => simp [isBlocked_iff_register, and_left_comm])

instance (now : Instant) (lease : Option Nat) : Decidable (service.DueBy now lease) :=
  inferInstanceAs (Decidable (∃ bucket ∈ lease, _))

instance (mutation : PendingMeshMutation) : Decidable (service.Succeeds io nowMs mutation) :=
  match mutation with
  | .block _ => inferInstanceAs (Decidable (∀ _, _ → _))
  | .unblock _ => inferInstanceAs (Decidable (_ ∧ _))

instance (mutation : PendingMeshMutation) : Decidable (service.Orderly final io nowMs mutation) :=
  match mutation with
  | .block delta => inferInstanceAs (Decidable (if final.wallMs < delta.expiresAtMs then _ else _))
  | .unblock _ => inferInstanceAs (Decidable (∀ _, _ → _))

instance : Decidable (action.Delivers final service) :=
  match action with
  | .receive _ _ => inferInstanceAs (Decidable (_ ∧ _))
  | .expire _ _ => inferInstanceAs (Decidable (Respects _ _ _ _))
  | .command _ _ => .isFalse id
  | .reconcile _ _ => .isFalse id

instance : Decidable (action.Undisturbed final service) :=
  match action with
  | .receive _ _ => inferInstanceAs (Decidable (Respects _ _ _ _))
  | .expire _ _ => inferInstanceAs (Decidable (Respects _ _ _ _))
  | .command _ _ => .isTrue trivial
  | .reconcile _ _ => .isTrue trivial

end Decisions

def atOnce (nodeId : Nat) (messages : List MeshMessage) : Site where
  ramLimitMb := 64
  epoch := 0
  nodeId := nodeId
  incarnation := 1
  steps := [.receive (fun n => .at ⟨0, 0⟩ (1 + n))
    (messages.map fun message => (0, .standard message))]
  ios := fun n => .at ⟨0, 0⟩ (100 + n)
  networks := IpNetwork.sorted

/-- A block and its tombstone at two sites, in both orders: at the second site the
stale block is projected. -/
theorem converge_fails :
    let block : MeshMessage := .block ⟨.v4 1, ⟨3, 1, 1⟩, 0, u64Max, 0⟩
    let unblock : MeshMessage := .unblock ⟨.v4 1, ⟨3, 1, 1⟩⟩
    let left := atOnce 1 [block, unblock]
    let right := atOnce 2 [unblock, block]
    (∀ mutation, mutation ∈ left.received ↔ mutation ∈ right.received) ∧
      EnforcementService.UniqueBlocks left.received ∧
      left.Delivers ⟨0, 0⟩ ∧ right.Delivers ⟨0, 0⟩ ∧
      (left.service.address (.v4 1)).blocked = false ∧
      (right.service.address (.v4 1)).blocked = true := by
  intro block unblock left right
  have hleft : left.received = [.block ⟨.v4 1, ⟨3, 1, 1⟩, 0, u64Max, 0⟩,
    .unblock ⟨.v4 1, ⟨3, 1, 1⟩⟩] := rfl
  have hright : right.received = [.unblock ⟨.v4 1, ⟨3, 1, 1⟩⟩,
    .block ⟨.v4 1, ⟨3, 1, 1⟩, 0, u64Max, 0⟩] := rfl
  refine ⟨?_, ?_, ⟨rfl, by decide +kernel⟩, ⟨rfl, by decide +kernel⟩, by decide +kernel,
    by decide +kernel⟩
  · intro mutation
    rw [hleft, hright]
    simp [or_comm]
  · intro first second hfirst hsecond _ _
    rw [hleft] at hfirst hsecond
    simp at hfirst hsecond
    rw [hfirst, hsecond]

/-- Two blocks and a tombstone for one of them, in two orders. -/
theorem converge_two_blocks :
    let kept : MeshMessage := .block ⟨.v4 1, ⟨3, 1, 1⟩, 0, u64Max, 0⟩
    let lifted : MeshMessage := .block ⟨.v4 2, ⟨3, 1, 2⟩, 0, u64Max, 0⟩
    let unblock : MeshMessage := .unblock ⟨.v4 2, ⟨3, 1, 2⟩⟩
    let left := atOnce 1 [kept, lifted, unblock]
    let right := atOnce 2 [lifted, unblock, kept]
    (left.service.address (.v4 1)).blocked = true ∧
      (∀ key entry, 0 < entry.2.expiresAtMs →
        ((left.service.dots key).live = some entry ↔ (right.service.dots key).live = some entry)) ∧
      ∀ ip, (left.service.address ip).blocked = (right.service.address ip).blocked := by
  intro kept lifted unblock left right
  have hleft : left.received = [.block ⟨.v4 1, ⟨3, 1, 1⟩, 0, u64Max, 0⟩,
    .block ⟨.v4 2, ⟨3, 1, 2⟩, 0, u64Max, 0⟩, .unblock ⟨.v4 2, ⟨3, 1, 2⟩⟩] := rfl
  have hright : right.received = [.block ⟨.v4 2, ⟨3, 1, 2⟩, 0, u64Max, 0⟩,
    .unblock ⟨.v4 2, ⟨3, 1, 2⟩⟩, .block ⟨.v4 1, ⟨3, 1, 1⟩, 0, u64Max, 0⟩] := rfl
  refine ⟨by decide +kernel, @converge ⟨0, 0⟩ left right ?_ ?_ ⟨rfl, by decide +kernel⟩
    ⟨rfl, by decide +kernel⟩ ?_ (by unfold Undisturbed; decide +kernel)
    (by unfold Undisturbed; decide +kernel)⟩
  · intro mutation
    rw [hleft, hright]
    simp only [mem_cons, not_mem_nil, or_false]
    tauto
  · intro first second hfirst hsecond _ hcounter
    rw [hleft] at hfirst hsecond
    simp at hfirst hsecond
    rcases hfirst with rfl | rfl <;> rcases hsecond with rfl | rfl <;> first | rfl | cases hcounter
  · intro first second hfirst hsecond _ _
    rw [hleft] at hfirst hsecond
    simp at hfirst hsecond
    rcases hfirst with rfl | rfl <;> rcases hsecond with rfl | rfl <;> exact le_rfl

end Site

end RamShield
