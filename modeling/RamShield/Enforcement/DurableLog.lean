import RamShield.Enforcement.AddressState
import RamShield.Enforcement.Recovery
import RamShield.Foundation.Run

/-! # The log and the live state

Without a mesh, every decision is journalled before it is committed. As long as
the store accepts what was journalled, folding the log gives exactly the live
block state. A block that the store refuses for capacity after its record became
durable is the exception: recovery then blocks an address that never was.
-/

namespace RamShield

open Foundation Foundation.Machine EnforcementService Replay List Table Store

/-! ## Runs without a mesh -/

/-- The commands and expiry passes of a run. -/
inductive LocalStep
  | enforce (io : Io) (cmd : EnforceCommand)
  | expireDue (ios : Nat → Io) (networks : IterOrder IpNetwork)

/-- When the committed blocks run out; `none` for a permanent one. -/
structure Deadlines where
  ofIp : IpAddr → Option Nat
  ofCidr : IpNetwork → Option Nat

/-- A service together with the deadlines of what it committed. -/
structure Tracked where
  service : EnforcementService
  deadlines : Deadlines

namespace Tracked

def commandDeadline (clock : Clock) (cmd : EnforceCommand) : Option Nat :=
  if 0 < cmd.ttlSeconds then some (satAdd clock.wallNs (satMul cmd.ttlSeconds secNs)) else none

def note (deadlines : Deadlines) (clock : Clock) (cmd : EnforceCommand) : Deadlines :=
  match cmd.action, cmd.cidr with
  | .block, none =>
    { deadlines with ofIp := Function.update deadlines.ofIp cmd.ip (commandDeadline clock cmd) }
  | .block, some network =>
    { deadlines with
      ofCidr := Function.update deadlines.ofCidr network (commandDeadline clock cmd) }
  | .unblock, _ => deadlines

/-- One step. A block counts when it commits, not when it is answered from the cache. -/
def step (state : Tracked) : LocalStep → Tracked
  | .enforce io cmd =>
    let fresh := (state.service.processedResults.lookup cmd.decisionId).isNone
    match state.service.enforce io cmd with
    | (.ok _, service) =>
      ⟨service, if fresh then note state.deadlines io.clock cmd else state.deadlines⟩
    | (.error _, service) => ⟨service, state.deadlines⟩
  | .expireDue ios networks => ⟨state.service.expireDue ios networks, state.deadlines⟩

lemma step_enforce (state : Tracked) (io : Io) (cmd : EnforceCommand) :
    state.step (.enforce io cmd) =
      ⟨(state.service.enforce io cmd).2,
        if (state.service.enforce io cmd).1.isOk &&
          (state.service.processedResults.lookup cmd.decisionId).isNone
        then note state.deadlines io.clock cmd else state.deadlines⟩ := by
  unfold step
  dsimp only
  obtain ⟨result, service⟩ := state.service.enforce io cmd
  cases result <;> simp [Except.isOk, Except.toBool]

end Tracked

/-- The store has room for the address of a block that is about to be journalled. -/
def Admits (service : EnforcementService) (io : Io) (cmd : EnforceCommand) : Prop :=
  cmd.action = .block → cmd.cidr = none → cmd.ip.isUnspecified = false →
    service.processedResults.lookup cmd.decisionId = none → io.walFailure = none →
      service.store.inner.lookup cmd.ip ≠ none ∨
        service.store.refuses recordSize service.store.ramLimitBytes = false

structure Tracks {K V : Type} [DecidableEq K] (live : K → Prop) (fold : Table K V)
    (deadlineOf : V → Option Nat) (deadlines : K → Option Nat) : Prop where
  live_iff (key : K) : live key ↔ ∃ value, fold.lookup key = some value
  deadline {key : K} {value : V} : fold.lookup key = some value → deadlineOf value = deadlines key

namespace Tracks

variable {K V : Type} [DecidableEq K] {live live' : K → Prop} {fold : Table K V}
  {deadlineOf : V → Option Nat} {deadlines : K → Option Nat}

lemma insert (htracks : Tracks live fold deadlineOf deadlines) (key : K) (value : V)
    (hlive : ∀ other, live' other ↔ other = key ∨ live other) :
    Tracks live' (fold.insert key value) deadlineOf
      (Function.update deadlines key (deadlineOf value)) := by
  constructor
  · intro other
    rw [hlive, htracks.live_iff, lookup_insert_eq]
    by_cases hother : other = key
    · simp [hother]
    · simp [hother]
  · intro other found hfound
    rw [lookup_insert_eq] at hfound
    split at hfound
    next hother =>
      cases hfound
      simp [hother]
    next hother =>
      rw [htracks.deadline hfound]
      exact (Function.update_of_ne hother _ _).symm

lemma erase (htracks : Tracks live fold deadlineOf deadlines) (key : K)
    (hlive : ∀ other, live' other ↔ other ≠ key ∧ live other) :
    Tracks live' (fold.erase key) deadlineOf deadlines := by
  constructor
  · intro other
    rw [hlive, htracks.live_iff, lookup_erase_eq]
    by_cases hother : other = key
    · simp [hother]
    · simp [hother]
  · intro other found hfound
    rw [lookup_erase_eq] at hfound
    split at hfound
    · cases hfound
    · exact htracks.deadline hfound

end Tracks

structure Matches (store : Store) (deadlines : Deadlines) (log : List WalEntry) : Prop where
  plain : store.Plain
  noMesh : ∀ entry ∈ log, entry.isMesh = false
  ips : Tracks (store.holds · = true) (log.foldl foldIp ∅) BlockFold.deadlineNs deadlines.ofIp
  cidrs : Tracks (· ∈ store.activeCidrs) (log.foldl foldCidr ∅) id deadlines.ofCidr

/-- The live block state of a service is the fold of its log. -/
def Mirrors (state : Tracked) : Prop :=
  ∃ log, state.service.wal = some ⟨log⟩ ∧ Matches state.service.store state.deadlines log

variable {store : Store} {log : List WalEntry} {deadlines : Deadlines}
  {service : EnforcementService} {io : Io} {cmd : EnforceCommand} {state : Tracked}

lemma new_matches (hinner : store.inner = ∅) (hcidrs : store.activeCidrs = ∅)
    (deadlines : Deadlines) : Matches store deadlines [] where
  plain := plain_of_empty hinner
  noMesh entry hmem := by cases hmem
  ips := ⟨fun ip => by simp [holds_of_empty hinner], fun h => by simp at h⟩
  cidrs := ⟨fun network => by simp [hcidrs], fun h => by simp at h⟩

/-! ### One record -/

lemma noMesh_append (hlog : ∀ entry ∈ log, entry.isMesh = false) {last : WalEntry}
    (hlast : last.isMesh = false) : ∀ entry ∈ log ++ [last], entry.isMesh = false := by
  intro entry hmem
  rcases mem_append.mp hmem with hold | hnew
  · exact hlog entry hold
  · rw [mem_singleton.mp hnew]
    exact hlast

section

variable (hmatch : Matches store deadlines log)

include hmatch

variable {next : Store} {ip : IpAddr} (network : IpNetwork)

lemma Matches.blockIp (hsets : Store.Sets store next ip true) (hplain : next.Plain)
    (reason : String) (ttlSecs : Option Nat) (tsNs : Nat) :
    Matches next
      { deadlines with
        ofIp := Function.update deadlines.ofIp ip (recordDeadline ttlSecs tsNs) }
      (log ++ [.blockIp (some ip) reason ttlSecs tsNs]) := by
  refine ⟨hplain, noMesh_append hmatch.noMesh rfl, ?_, ?_⟩
  · rw [foldl_append]
    refine hmatch.ips.insert ip ⟨reasonToBlockReason reason, tsNs, _⟩ fun other => ?_
    rw [hsets.holds]
    by_cases hother : other = ip <;> simp [hother]
  · rw [foldl_append, hsets.activeCidrs]
    exact hmatch.cidrs

lemma Matches.unblockIp (hsets : Store.Sets store next ip false) (hplain : next.Plain)
    (tsNs : Nat) : Matches next deadlines (log ++ [.unblockIp (some ip) tsNs]) := by
  refine ⟨hplain, noMesh_append hmatch.noMesh rfl, ?_, ?_⟩
  · rw [foldl_append]
    refine hmatch.ips.erase ip fun other => ?_
    rw [hsets.holds]
    by_cases hother : other = ip <;> simp [hother]
  · rw [foldl_append, hsets.activeCidrs]
    exact hmatch.cidrs

lemma Matches.blockCidr (reason : String) (ttlSecs : Option Nat) (tsNs : Nat) :
    Matches { store with activeCidrs := insert network store.activeCidrs }
      { deadlines with
        ofCidr := Function.update deadlines.ofCidr network (recordDeadline ttlSecs tsNs) }
      (log ++ [.blockCidr network reason ttlSecs tsNs]) := by
  refine ⟨hmatch.plain, noMesh_append hmatch.noMesh rfl, ?_, ?_⟩
  · rw [foldl_append]
    exact hmatch.ips
  · rw [foldl_append]
    exact hmatch.cidrs.insert network _ fun other => Finset.mem_insert

lemma Matches.unblockCidr (tsNs : Nat) :
    Matches { store with activeCidrs := store.activeCidrs.erase network } deadlines
      (log ++ [.unblockCidr network tsNs]) := by
  refine ⟨hmatch.plain, noMesh_append hmatch.noMesh rfl, ?_, ?_⟩
  · rw [foldl_append]
    exact hmatch.ips
  · rw [foldl_append]
    exact hmatch.cidrs.erase network fun other => Finset.mem_erase

end

lemma recordDeadline_command (clock : Clock) (cmd : EnforceCommand) :
    recordDeadline (if 0 < cmd.ttlSeconds then some cmd.ttlSeconds else none)
      clock.wallNs = Tracked.commandDeadline clock cmd := by
  unfold recordDeadline Tracked.commandDeadline
  split <;> rfl

lemma journalCommand_append {journalled : EnforcementService} {walLsn : Option Nat}
    (hwal : service.wal = some ⟨log⟩)
    (hjournal : service.journalCommand io cmd none .append = .ok (walLsn, journalled)) :
    io.walFailure = none ∧ journalled.store = service.store ∧
      journalled.wal = some ⟨log ++ [commandEntry cmd io.clock.wallNs]⟩ := by
  unfold journalCommand journal at hjournal
  rw [hwal] at hjournal
  cases hfailure : io.walFailure with
  | some message => simp [hfailure] at hjournal
  | none =>
    simp only [hfailure, Wal.append, Except.ok.injEq, Prod.mk.injEq] at hjournal
    obtain ⟨_, rfl⟩ := hjournal
    exact ⟨rfl, rfl, rfl⟩

/-! ### One command -/

lemma Matches.commit {next : EnforcementService} (hmatch : Matches service.store deadlines log)
    (hcommit : service.commit io cmd = (.ok (), next)) :
    Matches next.store (Tracked.note deadlines io.clock cmd)
      (log ++ [commandEntry cmd io.clock.wallNs]) := by
  unfold EnforcementService.commit at hcommit
  unfold commandEntry Tracked.note
  -- Each of the four commits has the effect on the store that its record stands for.
  cases haction : cmd.action with
  | block =>
    cases hcidr : cmd.cidr with
    | some network =>
      simp only [haction, hcidr, Prod.mk.injEq, true_and] at hcommit
      have hstore : next.store = { service.store with
          activeCidrs := insert network service.store.activeCidrs } := by
        rw [← hcommit]
        unfold commitCidrBlock
        dsimp only
        split <;> rfl
      rw [hstore, ← recordDeadline_command]
      exact hmatch.blockCidr network cmd.reason _ io.clock.wallNs
    | none =>
      simp only [haction, hcidr, commitIpBlock] at hcommit
      rcases updateBlockState_plain hmatch.plain io.clock.mono cmd.ip
        (.blocked (reasonToBlockReason cmd.reason) io.clock.wallNs)
        service.store.ramLimitBytes with ⟨hrefused, _⟩ | ⟨store, hdone, hsets, hplain⟩
      · simp [hrefused] at hcommit
      · simp only [hdone, Prod.mk.injEq, true_and] at hcommit
        have hstore : next.store = store := by
          rw [← hcommit]
          unfold commitLease
          dsimp only
          split <;> rfl
        rw [hstore, ← recordDeadline_command]
        exact hmatch.blockIp hsets hplain cmd.reason _ io.clock.wallNs
  | unblock =>
    cases hcidr : cmd.cidr with
    | some network =>
      simp only [haction, hcidr, Prod.mk.injEq, true_and] at hcommit
      rw [← hcommit]
      exact hmatch.unblockCidr network io.clock.wallNs
    | none =>
      simp only [haction, hcidr, releaseIp] at hcommit
      obtain ⟨store, hclear, hsets, hplain⟩ := clearRecord_plain hmatch.plain io.clock cmd.ip
      simp only [hclear, Prod.mk.injEq, true_and] at hcommit
      have hstore : next.store = store := by
        rw [← hcommit]
        unfold publish detachExpiration
        dsimp only
        split <;> rfl
      rw [hstore]
      exact hmatch.unblockIp hsets hplain io.clock.wallNs

lemma commit_error_refused {next : EnforcementService} (hplain : service.store.Plain)
    {error : EnforcementError} (hcommit : service.commit io cmd = (.error error, next)) :
    cmd.action = .block ∧ cmd.cidr = none ∧ service.store.inner.lookup cmd.ip = none ∧
      service.store.refuses recordSize service.store.ramLimitBytes := by
  unfold EnforcementService.commit at hcommit
  cases haction : cmd.action with
  | block =>
    cases hcidr : cmd.cidr with
    | some network => simp [haction, hcidr] at hcommit
    | none =>
      simp only [haction, hcidr, commitIpBlock] at hcommit
      rcases updateBlockState_plain hplain io.clock.mono cmd.ip
        (.blocked (reasonToBlockReason cmd.reason) io.clock.wallNs)
        service.store.ramLimitBytes with ⟨_, hvacant, hfull⟩ | ⟨store, hdone, _⟩
      · exact ⟨rfl, rfl, hvacant, hfull⟩
      · simp [hdone] at hcommit
  | unblock =>
    cases hcidr : cmd.cidr with
    | some network => simp [haction, hcidr] at hcommit
    | none =>
      obtain ⟨store, hclear, _⟩ := clearRecord_plain hplain io.clock cmd.ip
      simp [haction, hcidr, releaseIp, hclear] at hcommit

/-- With room in the store a command keeps state and fold equal. -/
lemma enforce_mirrors (hmirrors : Mirrors state) (hadmits : Admits state.service io cmd) :
    Mirrors (state.step (.enforce io cmd)) := by
  obtain ⟨log, hwal, hmatch⟩ := hmirrors
  have hexecuted := enforceInner_executed state.service io cmd none .append
  rw [Tracked.step_enforce]
  unfold enforce
  generalize (state.service.enforceInner io cmd none .append).1 = result at hexecuted ⊢
  generalize (state.service.enforceInner io cmd none .append).2 = service at hexecuted ⊢
  cases hexecuted with
  | cached hcached =>
    simp only [hcached, Option.isNone_some, Bool.and_false, Bool.false_eq_true, if_false]
    exact ⟨log, hwal, hmatch⟩
  | unspecified hfresh hip => exact ⟨log, hwal, hmatch⟩
  | unjournalled hfresh hip hjournal => exact ⟨log, hwal, hmatch⟩
  | refused hfresh hip hjournal hcommit =>
    -- A record was journalled and the commit failed: excluded by the room in the store.
    exfalso
    obtain ⟨hwritten, hstore, _⟩ := journalCommand_append hwal hjournal
    have hplain := hmatch.plain
    rw [← hstore] at hplain
    rw [mergeMutation_none] at hcommit
    obtain ⟨haction, hcidr, hvacant, hfull⟩ := commit_error_refused hplain hcommit
    rw [hstore] at hvacant hfull
    rcases hadmits haction hcidr hip hfresh hwritten with hresident | hroom
    · exact hresident hvacant
    · rw [hfull] at hroom
      cases hroom
  | @committed walLsn _ done hfresh hip hjournal hcommit =>
    obtain ⟨_, hstore, hjournalled⟩ := journalCommand_append hwal hjournal
    rw [mergeMutation_none] at hcommit
    obtain ⟨written, hwritten⟩ := commit_writes _ io cmd
    rw [hcommit] at hwritten
    obtain ⟨_, _, _, _, hfinish⟩ := done.finish_writes io cmd walLsn
    rw [← hstore] at hmatch
    simp only [hfresh, Option.isNone_none, Bool.and_true, Except.isOk, Except.toBool, if_true]
    refine ⟨log ++ [commandEntry cmd io.clock.wallNs], ?_, ?_⟩
    · rw [hfinish, show done = _ from hwritten]
      exact hjournalled
    · rw [hfinish]
      have hnext := hmatch.commit hcommit
      exact hnext

/-! ### One expiry pass -/

section

variable (io) (hmirrors : Mirrors ⟨service, deadlines⟩)

include hmirrors

lemma unblock_mirrors (cmd : EnforceCommand) (haction : cmd.action = .unblock) :
    Mirrors ⟨(service.enforce io cmd).2, deadlines⟩ := by
  have hadmits : Admits service io cmd := by
    intro hblock
    rw [haction] at hblock
    cases hblock
  have hnote : Tracked.note deadlines io.clock cmd = deadlines := by simp [Tracked.note, haction]
  have hstep := enforce_mirrors hmirrors hadmits
  rw [Tracked.step_enforce] at hstep
  simpa only [hnote, ite_self] using hstep

lemma expireIp_mirrors (ip : IpAddr) : Mirrors ⟨service.expireIp io ip, deadlines⟩ := by
  have hdone := unblock_mirrors io hmirrors (ttlUnblock io ip none) rfl
  obtain ⟨leases, hnext⟩ := service.expireIp_writes io ip
  rw [hnext]
  exact hdone

lemma expireCidr_mirrors (network : IpNetwork) :
    Mirrors ⟨service.expireCidr io network, deadlines⟩ := by
  have hbefore : Mirrors ⟨{ service with
      cidrExpirations := service.cidrExpirations.erase network }, deadlines⟩ := hmirrors
  have hdone := unblock_mirrors io hbefore (ttlUnblock io network.addr (some network)) rfl
  obtain ⟨expirations, hnext⟩ := service.expireCidr_writes io network
  rw [hnext]
  exact hdone

end

lemma eachDue_mirrors {Item : Type} {run : EnforcementService → Io → Item → EnforcementService}
    (hrun : ∀ service io item, Mirrors ⟨service, deadlines⟩ →
      Mirrors ⟨run service io item, deadlines⟩)
    (hmirrors : Mirrors ⟨service, deadlines⟩) (ios : Nat → Io) (index : Nat) (items : List Item) :
    Mirrors ⟨eachDue run ios service index items, deadlines⟩ := by
  induction items generalizing service index with
  | nil => exact hmirrors
  | cons item items ih => exact ih (hrun service (ios index) item hmirrors) (index + 1)

lemma expireDue_mirrors (hmirrors : Mirrors state) (ios : Nat → Io)
    (networks : IterOrder IpNetwork) : Mirrors (state.step (.expireDue ios networks)) := by
  unfold Tracked.step expireDue
  dsimp only
  refine eachDue_mirrors (fun _ io network h => expireCidr_mirrors io h network) ?_ ios _ _
  refine eachDue_mirrors (fun _ io ip h => expireIp_mirrors io h ip) ?_ ios _ _
  -- Draining the queue changes neither the store nor the log.
  exact hmirrors

def RoomForBlocks (state : Tracked) : LocalStep → Prop
  | .enforce io cmd => Admits state.service io cmd
  | .expireDue _ _ => True

lemma step_mirrors (state : Tracked) (action : LocalStep) (hmirrors : Mirrors state)
    (hroom : RoomForBlocks state action) : Mirrors (state.step action) := by
  cases action with
  | enforce io cmd => exact enforce_mirrors hmirrors hroom
  | expireDue ios networks => exact expireDue_mirrors hmirrors ios networks

/-! ## Recovery -/

/-- Recovery from the log alone gives back the live state, at any clock, in any hash orders, into an
empty store with room. -/
def Recovers (state : Tracked) : Prop :=
  ∃ wal, state.service.wal = some wal ∧
    ∀ (clock : Clock) (ips : IterOrder IpAddr) (dots : IterOrder BlockKey)
      (networks : IterOrder IpNetwork) (ramLimitMb : Nat),
      Room (Store.new.setRamLimitMb ramLimitMb) wal.log.length → ∃ restored recovered,
          replayWalIntoStoreSeeded clock ips dots (Store.new.setRamLimitMb ramLimitMb) wal
            0 ∅ none = (.ok restored, recovered) ∧
          (∀ ip, recovered.holds ip = true ↔ state.service.store.holds ip = true ∧
            expired (state.deadlines.ofIp ip) clock.wallNs = false) ∧
          ∀ network,
            network ∈ (replayWalCidrsSeeded networks clock.wallNs ∅ wal.log).2 ↔
              network ∈ state.service.store.activeCidrs ∧
                expired (state.deadlines.ofCidr network) clock.wallNs = false

lemma replay_local (hlocal : ∀ entry ∈ log, entry.isMesh = false) (clock : Clock)
    (ips : IterOrder IpAddr) (dots : IterOrder BlockKey) {ramLimitMb : Nat}
    (hroom : Room (Store.new.setRamLimitMb ramLimitMb) log.length) :
    ∃ restored recovered,
      replayWalIntoStoreSeeded clock ips dots (Store.new.setRamLimitMb ramLimitMb) ⟨log⟩ 0
        ∅ none = (.ok restored, recovered) ∧
      ∀ ip, recovered.holds ip ↔
        ∃ block, (log.foldl foldIp ∅).lookup ip = some block ∧
          expired block.deadlineNs clock.wallNs = false := by
  have hseed : (∅ : Table IpAddr SeedBlock).mapValues SeedBlock.toFold = ∅ := rfl
  have hfold := foldBlocks_local ∅ log
  rw [hseed] at hfold
  have hcard := card_foldIp_le log ∅
  have hfits : Room (Store.new.setRamLimitMb ramLimitMb) (log.foldl foldIp ∅).keys.card :=
    hroom.mono (by simpa using hcard) (le_refl _) rfl
  obtain ⟨recovered, hreplay, _, _, hholds⟩ := replayWalIntoStoreSeeded_spec ips
    (plain_of_empty rfl).records (replayMeshState_local hlocal dots 0 clock.wallNs)
    hfold.symm hfits
  refine ⟨_, recovered, hreplay, ?_⟩
  intro ip
  rw [hholds, liveLease_isSome, holds_of_empty rfl]
  simp

lemma Mirrors.recovers (hmirrors : Mirrors state) : Recovers state := by
  obtain ⟨log, hwal, hmatch⟩ := hmirrors
  refine ⟨⟨log⟩, hwal, ?_⟩
  intro clock ips dots networks ramLimitMb hroom
  obtain ⟨restored, recovered, hreplay, hholds⟩ := replay_local hmatch.noMesh clock ips dots hroom
  refine ⟨restored, recovered, hreplay, ?_, ?_⟩
  · intro ip
    rw [hholds, hmatch.ips.live_iff]
    constructor
    · rintro ⟨block, hblock, hlive⟩
      rw [hmatch.ips.deadline hblock] at hlive
      exact ⟨⟨block, hblock⟩, hlive⟩
    · rintro ⟨⟨block, hblock⟩, hlive⟩
      rw [← hmatch.ips.deadline hblock] at hlive
      exact ⟨block, hblock, hlive⟩
  · intro network
    unfold replayWalCidrsSeeded foldCidrs
    dsimp only
    rw [mem_keys_iff_lookup, lookup_filter]
    simp only [Option.filter_eq_some_iff, Bool.not_eq_true']
    rw [hmatch.cidrs.live_iff]
    have hseed : (∅ : Table IpNetwork (Option Nat)).filter
        (fun _ deadline => !expired deadline clock.wallNs) = ∅ := rfl
    rw [hseed]
    constructor
    · rintro ⟨deadline, hdeadline, hlive⟩
      rw [← hmatch.cidrs.deadline hdeadline]
      exact ⟨⟨deadline, hdeadline⟩, hlive⟩
    · rintro ⟨⟨deadline, hdeadline⟩, hlive⟩
      rw [← hmatch.cidrs.deadline hdeadline] at hlive
      exact ⟨deadline, hdeadline, hlive⟩

def Tracked.start (store : Store) (epoch : Instant) (deadlines : Deadlines) : Tracked where
  service := (EnforcementService.new store epoch).withWal .empty
  deadlines := deadlines

/-- In every run whose blocks find room, recovery gives back the live block state
at every point of the run. -/
theorem recovers_along {store : Store} (hinner : store.inner = ∅) (hcidrs : store.activeCidrs = ∅)
    (epoch : Instant) (deadlines : Deadlines) (steps : List LocalStep)
    (hroom : Respects Tracked.step RoomForBlocks (.start store epoch deadlines) steps) :
    Along Tracked.step Recovers (.start store epoch deadlines) steps := by
  have hstart : Mirrors (.start store epoch deadlines) :=
    ⟨[], rfl, new_matches hinner hcidrs deadlines⟩
  exact (Along.of_respects step_mirrors hstart hroom).mono fun _ => Mirrors.recovers

/-- A store with the smallest limit that the configuration accepts: a permanent
block, then an expiry pass. -/
theorem recovers_along_roomy :
    let start := Tracked.start (Store.new.setRamLimitMb 64) 0 ⟨fun _ => none, fun _ => none⟩
    let steps : List LocalStep :=
      [.enforce (.at ⟨0, 0⟩ 1) (.operator 1 .block (.v4 1) 0),
        .expireDue (fun n => .at ⟨secNs, secNs⟩ (2 + n)) IpNetwork.sorted]
    Respects Tracked.step RoomForBlocks start steps ∧ Along Tracked.step Recovers start steps := by
  have hroom : Respects Tracked.step RoomForBlocks
      (Tracked.start (Store.new.setRamLimitMb 64) 0 ⟨fun _ => none, fun _ => none⟩)
      [.enforce (.at ⟨0, 0⟩ 1) (.operator 1 .block (.v4 1) 0),
        .expireDue (fun n => .at ⟨secNs, secNs⟩ (2 + n)) IpNetwork.sorted] :=
    ⟨fun _ _ _ _ _ => .inr (by decide), trivial, trivial⟩
  exact ⟨hroom, recovers_along rfl rfl 0 _ _ hroom⟩

/-- A store without a configured limit refuses the block after its record became
durable; recovery then blocks the address. -/
theorem recovers_along_fails :
    ¬ Along Tracked.step Recovers (.start Store.new 0 ⟨fun _ => none, fun _ => none⟩)
      [.enforce (.at ⟨0, 0⟩ 1) (.operator 1 .block (.v4 1) 0)] := by
  intro halong
  obtain ⟨wal, hwal, hrecovers⟩ := halong.last
  have hlog : wal = ⟨[.blockIp (some (.v4 1)) "manual" none 0]⟩ := (Option.some.inj hwal).symm
  subst hlog
  have hroom : Room (Store.new.setRamLimitMb 1) 1 := by decide
  obtain ⟨restored, recovered, hreplay, hips, _⟩ :=
    hrecovers ⟨0, 0⟩ IpAddr.sorted BlockKey.sorted IpNetwork.sorted 1 hroom
  have hlocal : ∀ entry ∈ [WalEntry.blockIp (some (.v4 1)) "manual" none 0],
      entry.isMesh = false := by simp [WalEntry.isMesh]
  obtain ⟨_, other, hother, hholds⟩ :=
    replay_local hlocal ⟨0, 0⟩ IpAddr.sorted BlockKey.sorted hroom
  rw [hreplay] at hother
  cases hother
  have hblocked : recovered.holds (.v4 1) := by
    rw [hholds]
    exact ⟨_, Finmap.lookup_insert _, rfl⟩
  obtain ⟨hlive, _⟩ := (hips _).mp hblocked
  cases hlive

end RamShield
