import RamShield.Enforcement.Expiry
import RamShield.Enforcement.Idempotence

/-! # Two domains of detention

Addresses and prefixes are detained independently. Each domain is a view of the service:
a command of the other domain leaves the view alone, and what a command of its own makes
of it depends on nothing but the view and on whether the service keeps a log. So the
final view of a domain is that of its own commands.
-/

namespace RamShield

open Foundation Foundation.Machine List Option EnforcementService

def Store.withCidrs (store : Store) (cidrs : Finset IpNetwork) : Store :=
  { store with activeCidrs := cidrs }

/-- What is known about addresses: the store without prefixes, sets, leases, blocklist, mirror. -/
structure IpDomain where
  store : Store
  blockedIps : Finset IpAddr
  dropsByBlocked : Table IpAddr Nat
  leases : DeadlineQueue IpAddr
  meshBlocklist : Option AworsetBlocklist
  meshAppliedIps : Finset IpAddr
  meshOperatorSuppressions : Finset IpAddr
  meshProjectionPending : Finset IpAddr
  mirror : Option (Table IpAddr Nat)

/-- What is known about prefixes. -/
structure CidrDomain where
  activeCidrs : Finset IpNetwork
  cidrExpirations : Table IpNetwork Instant
  mirror : Option (Table IpNetwork Nat)

/-- What no command changes. -/
structure Setting where
  journals : Bool
  epoch : Instant
  meshHandle : Bool

namespace EnforcementService

variable (service : EnforcementService)

def ipDomain : IpDomain where
  store := service.store.withCidrs ∅
  blockedIps := service.blockedIps
  dropsByBlocked := service.dropsByBlocked
  leases := service.leases
  meshBlocklist := service.meshBlocklist
  meshAppliedIps := service.meshAppliedIps
  meshOperatorSuppressions := service.meshOperatorSuppressions
  meshProjectionPending := service.meshProjectionPending
  mirror := service.checkpointShared.map SharedState.ipExpirations

def cidrDomain : CidrDomain where
  activeCidrs := service.store.activeCidrs
  cidrExpirations := service.cidrExpirations
  mirror := service.checkpointShared.map SharedState.cidrExpirations

def setting : Setting where
  journals := service.wal.isSome
  epoch := service.epoch
  meshHandle := service.meshHandle

end EnforcementService

/-! ## Replacing the prefixes -/

namespace Store

variable (store : Store)

section

variable (cidrs : Finset IpNetwork)
variable (now : Instant) (ip : IpAddr)

lemma syncBlockedIndex_withCidrs (was is : Bool) :
    (store.withCidrs cidrs).syncBlockedIndex ip was is =
      (store.syncBlockedIndex ip was is).withCidrs cidrs := by
  unfold syncBlockedIndex
  split
  · rfl
  · split <;> rfl

lemma replaceEntry_withCidrs (old new : Entry) :
    (store.withCidrs cidrs).replaceEntry ip old new =
      (store.replaceEntry ip old new).withCidrs cidrs := by
  have hsync := syncBlockedIndex_withCidrs { store with
    inner := store.inner.insert ip new
    ttlEntries := store.ttlEntries + ttlDelta old.expiresAt.isSome new.expiresAt.isSome }
    cidrs ip old.value.isBlocked new.value.isBlocked
  exact congrArg (applyGrowthSizeOnly · (entrySize old.value) (entrySize new.value)) hsync

lemma publishFresh_withCidrs (entry : Entry) :
    (store.withCidrs cidrs).publishFresh ip entry =
      (store.publishFresh ip entry).withCidrs cidrs := by
  have hsync := syncBlockedIndex_withCidrs { store with
    ramBytes := store.ramBytes + entrySize entry.value
    inner := store.inner.insert ip entry } cidrs ip false entry.value.isBlocked
  exact congrArg (fun synced : Store => { synced with
    ttlEntries := synced.ttlEntries + ttlDelta false entry.expiresAt.isSome
    usedBytes := synced.usedBytes + entrySize entry.value
    totalInserts := synced.totalInserts + 1 }) hsync

lemma insert_withCidrs (value : Value) (limit : Nat) :
    (store.withCidrs cidrs).insert now ip value none limit =
      ((store.insert now ip value none limit).1,
        (store.insert now ip value none limit).2.withCidrs cidrs) := by
  have hlookup : (store.withCidrs cidrs).inner.lookup ip = store.inner.lookup ip := rfl
  have hrefuses (size : Nat) :
      (store.withCidrs cidrs).refuses size limit = store.refuses size limit := rfl
  unfold insert
  dsimp only [map_none]
  rw [hlookup, hrefuses]
  cases store.inner.lookup ip with
  | some old => exact congrArg _ (replaceEntry_withCidrs store cidrs ip old _)
  | none =>
    dsimp only
    split
    · rfl
    · exact congrArg _ (publishFresh_withCidrs store cidrs ip _)

lemma updateBlockState_withCidrs (state : BlockState) (limit : Nat) :
    (store.withCidrs cidrs).updateBlockState now ip state limit =
      ((store.updateBlockState now ip state limit).1,
        (store.updateBlockState now ip state limit).2.withCidrs cidrs) := by
  have hlookup : (store.withCidrs cidrs).inner.lookup ip = store.inner.lookup ip := rfl
  have hrefuses (size : Nat) :
      (store.withCidrs cidrs).refuses size limit = store.refuses size limit := rfl
  unfold updateBlockState
  dsimp only
  rw [hlookup, hrefuses]
  cases store.inner.lookup ip with
  | some entry =>
    dsimp only
    cases entry.liveRecord now with
    | some record => rfl
    | none =>
      dsimp only
      split <;> rfl
  | none =>
    dsimp only
    split <;> rfl

end

end Store

/-! ## Replacing everything outside the address domain -/

/-- What a command may change outside the address domain. -/
structure Outside where
  wal : Option Wal
  lastWalLsn : Option Nat
  processedResults : Table Uuid EnforceResult
  processedOrder : List Uuid
  activeCidrs : Finset IpNetwork
  cidrExpirations : Table IpNetwork Instant
  cidrMirror : Table IpNetwork Nat

namespace EnforcementService

variable (service : EnforcementService) (outside : Outside)

def regraft : EnforcementService :=
  { service with
    store := service.store.withCidrs outside.activeCidrs
    wal := outside.wal
    lastWalLsn := outside.lastWalLsn
    processedResults := outside.processedResults
    processedOrder := outside.processedOrder
    cidrExpirations := outside.cidrExpirations
    checkpointShared := service.checkpointShared.map fun shared =>
      { shared with cidrExpirations := outside.cidrMirror } }

lemma ipDomain_regraft : (service.regraft outside).ipDomain = service.ipDomain := by
  unfold ipDomain regraft
  rw [Option.map_map]
  rfl

lemma cidrDomain_regraft :
    (service.regraft outside).cidrDomain = ⟨outside.activeCidrs, outside.cidrExpirations,
      service.checkpointShared.map fun _ => outside.cidrMirror⟩ := by
  unfold cidrDomain regraft
  rw [Option.map_map]
  rfl

variable {service} {other : EnforcementService} {cmd : EnforceCommand}

lemma exists_regraft (hdomain : service.ipDomain = other.ipDomain)
    (hsetting : service.setting = other.setting) :
    ∃ outside, other = service.regraft outside ∧ outside.wal.isSome = service.wal.isSome := by
  refine ⟨⟨other.wal, other.lastWalLsn, other.processedResults, other.processedOrder,
    other.store.activeCidrs, other.cidrExpirations,
    (other.checkpointShared.map SharedState.cidrExpirations).getD ∅⟩, ?_,
    (congrArg Setting.journals hsetting).symm⟩
  have hmirror : other.checkpointShared = service.checkpointShared.map fun shared =>
      { shared with cidrExpirations :=
          (other.checkpointShared.map SharedState.cidrExpirations).getD ∅ } := by
    have hips := congrArg IpDomain.mirror hdomain
    unfold ipDomain at hips
    cases hother : other.checkpointShared with
    | none =>
      rw [hother, map_none, map_eq_none_iff] at hips
      rw [hips, map_none]
    | some mirror =>
      rw [hother, map_some, map_eq_some_iff] at hips
      obtain ⟨own, hown, hsame⟩ := hips
      rw [hown, map_some, map_some, getD_some, hsame]
  have hstore : other.store = service.store.withCidrs other.store.activeCidrs := by
    have hstores := congrArg IpDomain.store hdomain
    exact (congrArg (Store.withCidrs · other.store.activeCidrs) hstores).symm
  unfold regraft
  rw [← hmirror, ← hstore]
  cases service
  cases other
  simp only [ipDomain, setting, IpDomain.mk.injEq, Setting.mk.injEq] at hdomain hsetting
  simp only [hdomain, hsetting]

section

variable (service)

lemma publish_regraft (change : Table IpAddr Nat → Table IpAddr Nat) :
    (service.regraft outside).publish (fun shared =>
        { shared with ipExpirations := change shared.ipExpirations }) =
      (service.publish fun shared =>
        { shared with ipExpirations := change shared.ipExpirations }).regraft outside := by
  unfold publish regraft
  simp only [Option.map_map]
  rfl

variable (io : Io) (clock : Clock) (ip : IpAddr)

lemma commitLease_regraft (ttlSeconds : Nat) :
    (service.regraft outside).commitLease clock ip ttlSeconds =
      (service.commitLease clock ip ttlSeconds).regraft outside := by
  unfold commitLease
  split
  · exact publish_regraft (service.scheduleExpiration ip (clock.leaseDeadline ttlSeconds)) outside
      (·.insert ip (clock.unixNsFromInstant (clock.leaseDeadline ttlSeconds)))
  · exact publish_regraft (service.detachExpiration ip) outside (·.erase ip)

lemma commitIpBlock_regraft (cmd : EnforceCommand) :
    (service.regraft outside).commitIpBlock clock cmd =
      ((service.commitIpBlock clock cmd).1,
        (service.commitIpBlock clock cmd).2.regraft outside) := by
  have hupdate := Store.updateBlockState_withCidrs service.store outside.activeCidrs clock.mono
    cmd.ip
    (.blocked (reasonToBlockReason cmd.reason) clock.wallNs) service.store.ramLimitBytes
  have hstore : (service.regraft outside).store = service.store.withCidrs outside.activeCidrs := rfl
  have hlimit : (service.store.withCidrs outside.activeCidrs).ramLimitBytes =
    service.store.ramLimitBytes := rfl
  unfold commitIpBlock
  dsimp only
  rw [hstore, hlimit, hupdate]
  generalize service.store.updateBlockState clock.mono cmd.ip _ _ = updated
  obtain ⟨stored, store⟩ := updated
  cases stored with
  | false => rfl
  | true => exact congrArg _ (commitLease_regraft { service with
      store := store
      blockedIps := insert cmd.ip service.blockedIps
      dropsByBlocked := service.dropsByBlocked.erase cmd.ip } outside clock cmd.ip cmd.ttlSeconds)

lemma clearRecord_regraft :
    (service.regraft outside).clearRecord clock ip =
      ((service.clearRecord clock ip).1,
        (service.clearRecord clock ip).2.withCidrs outside.activeCidrs) := by
  have hget : (service.regraft outside).store.get clock.mono ip =
      service.store.get clock.mono ip := rfl
  unfold clearRecord
  rw [hget]
  cases service.store.get clock.mono ip with
  | none => rfl
  | some value =>
    cases value with
    | ipRecord record => exact Store.insert_withCidrs ..
    | _ => rfl

lemma releaseIp_regraft (cmd : EnforceCommand) :
    (service.regraft outside).releaseIp io cmd =
      ((service.releaseIp io cmd).1, (service.releaseIp io cmd).2.regraft outside) := by
  unfold releaseIp
  rw [clearRecord_regraft]
  generalize service.clearRecord io.clock cmd.ip = cleared
  obtain ⟨outcome, store⟩ := cleared
  cases outcome with
  | error error => rfl
  | ok done =>
    unfold regraft publish detachExpiration
    dsimp only
    split <;>
    · simp only [Option.map_map]
      rfl

lemma commit_regraft (hip : cmd.cidr = none) :
    (service.regraft outside).commit io cmd =
      ((service.commit io cmd).1, (service.commit io cmd).2.regraft outside) := by
  unfold commit
  rw [hip]
  cases cmd.action with
  | block => exact commitIpBlock_regraft ..
  | unblock => exact releaseIp_regraft ..

lemma mergeMutation_regraft (mutation : Option PendingMeshMutation) :
    (service.regraft outside).mergeMutation io mutation =
      (service.mergeMutation io mutation).regraft outside := by
  have hmesh : (service.regraft outside).meshBlocklist = service.meshBlocklist := rfl
  unfold mergeMutation
  rw [hmesh]
  split <;> rfl

lemma originateBan_regraft (cmd : EnforceCommand) :
    (service.regraft outside).originateBan io cmd =
      (service.originateBan io cmd).regraft outside := by
  have hmesh : (service.regraft outside).meshBlocklist = service.meshBlocklist := rfl
  have hhandle : (service.regraft outside).meshHandle = service.meshHandle := rfl
  unfold originateBan
  dsimp only
  rw [hmesh, hhandle]
  split
  · split <;> rfl
  · rfl

end

structure Untouched (service next : EnforcementService) : Prop where
  ip : next.ipDomain = service.ipDomain
  cidr : next.cidrDomain = service.cidrDomain
  setting : next.setting = service.setting

lemma journal_both (hsetting : service.setting = other.setting) (io : Io) (entry : WalEntry) :
    (∃ error, service.journal io entry = .error error ∧ other.journal io entry = .error error) ∨
      ∃ walLsn walLsn' next next', service.journal io entry = .ok (walLsn, next) ∧
        other.journal io entry = .ok (walLsn', next') ∧ service.Untouched next ∧
        other.Untouched next' := by
  have hwal : service.wal.isSome = other.wal.isSome := congrArg Setting.journals hsetting
  unfold journal
  cases hown : service.wal with
  | none =>
    rw [hown, isSome_none, eq_comm, isSome_eq_false_iff, isNone_iff_eq_none] at hwal
    rw [hwal]
    exact .inr ⟨none, none, service, other, rfl, rfl, ⟨rfl, rfl, rfl⟩, ⟨rfl, rfl, rfl⟩⟩
  | some own =>
    rw [hown, isSome_some, eq_comm, isSome_iff_exists] at hwal
    obtain ⟨wal, hwal⟩ := hwal
    rw [hwal]
    cases io.walFailure with
    | some message => exact .inl ⟨_, rfl, rfl⟩
    | none =>
      refine .inr ⟨_, _, _, _, rfl, rfl, ⟨rfl, rfl, ?_⟩, ⟨rfl, rfl, ?_⟩⟩
      · unfold setting
        rw [hown]
        rfl
      · unfold setting
        rw [hwal]
        rfl

lemma journalCommand_both {service other : EnforcementService}
    (hsetting : service.setting = other.setting) (io : Io) (cmd : EnforceCommand)
    (mutation : Option PendingMeshMutation) (durability : WalDurability) :
    (∃ error, service.journalCommand io cmd mutation durability = .error error ∧
        other.journalCommand io cmd mutation durability = .error error) ∨
      ∃ walLsn walLsn' next next',
        service.journalCommand io cmd mutation durability = .ok (walLsn, next) ∧
        other.journalCommand io cmd mutation durability = .ok (walLsn', next') ∧
        service.Untouched next ∧ other.Untouched next' := by
  unfold journalCommand
  split
  · exact journal_both hsetting io _
  · exact .inr ⟨none, none, service, other, rfl, rfl, ⟨rfl, rfl, rfl⟩, ⟨rfl, rfl, rfl⟩⟩
  · exact journal_both hsetting io _

lemma journalCommand_untouched {next : EnforcementService} {io : Io}
    {mutation : Option PendingMeshMutation} {durability : WalDurability} {walLsn : Option Nat}
    (hjournal : service.journalCommand io cmd mutation durability = .ok (walLsn, next)) :
    service.Untouched next := by
  rcases @journalCommand_both service service rfl io cmd mutation durability with
    ⟨error, herror, _⟩ | ⟨_, _, _, _, hok, _, huntouched, _⟩
  · rw [hjournal] at herror
    cases herror
  · rw [hjournal] at hok
    cases hok
    exact huntouched

section

variable (service) (result : EnforceResult)

lemma ipDomain_rememberResult : (service.rememberResult result).ipDomain = service.ipDomain := by
  unfold rememberResult
  dsimp only
  split <;> rfl

end

/-- The address domain decides what an address command makes of it. -/
lemma enforceInner_ipDomain_congr (hdomain : service.ipDomain = other.ipDomain)
    (hsetting : service.setting = other.setting) (hip : cmd.cidr = none)
    (hfresh : service.processedResults.lookup cmd.decisionId = none)
    (hfresh' : other.processedResults.lookup cmd.decisionId = none) (io : Io)
    (mutation : Option PendingMeshMutation) (durability : WalDurability) :
    (service.enforceInner io cmd mutation durability).2.ipDomain =
      (other.enforceInner io cmd mutation durability).2.ipDomain := by
  unfold enforceInner
  rw [hfresh, hfresh']
  dsimp only
  split
  · exact hdomain
  rcases journalCommand_both hsetting io cmd mutation durability with
    ⟨error, hown, hother⟩ | ⟨walLsn, walLsn', next, next', hown, hother, hnext, hnext'⟩
  · rw [hown, hother]
    exact hdomain
  · obtain ⟨outside, rfl, _⟩ := exists_regraft
      (hnext.ip.trans (hdomain.trans hnext'.ip.symm))
      (hnext.setting.trans (hsetting.trans hnext'.setting.symm))
    rw [hown, hother]
    dsimp only
    rw [mergeMutation_regraft, commit_regraft _ _ _ hip]
    generalize (next.mergeMutation io mutation).commit io cmd = committed
    obtain ⟨outcome, after⟩ := committed
    cases outcome with
    | error error => exact (ipDomain_regraft after outside).symm
    | ok done =>
      dsimp only
      rw [ipDomain_rememberResult, ipDomain_rememberResult]
      split
      · rw [originateBan_regraft, ipDomain_regraft]
      · rw [ipDomain_regraft]

/-! ## The prefix domain -/

end EnforcementService

namespace CidrDomain

/-- A prefix is detained, for good if the time to live is zero. -/
def block (domain : CidrDomain) (clock : Clock) (network : IpNetwork) (ttlSeconds : Nat) :
    CidrDomain :=
  let deadline := clock.leaseDeadline ttlSeconds
  { activeCidrs := insert network domain.activeCidrs
    cidrExpirations :=
      if 0 < ttlSeconds then domain.cidrExpirations.insert network deadline
      else domain.cidrExpirations.erase network
    mirror := domain.mirror.map fun mirror =>
      if 0 < ttlSeconds then mirror.insert network (clock.unixNsFromInstant deadline)
      else mirror.erase network }

def unblock (domain : CidrDomain) (network : IpNetwork) : CidrDomain where
  activeCidrs := domain.activeCidrs.erase network
  cidrExpirations := domain.cidrExpirations.erase network
  mirror := domain.mirror.map (·.erase network)

def after (domain : CidrDomain) (clock : Clock) (cmd : EnforceCommand) (network : IpNetwork) :
    CidrDomain :=
  match cmd.action with
  | .block => domain.block clock network cmd.ttlSeconds
  | .unblock => domain.unblock network

end CidrDomain

namespace EnforcementService

variable (service : EnforcementService)

/-- Writing the prefix mirror is not seen by the address domain. -/
lemma publish_cidr_domains (change : Table IpNetwork Nat → Table IpNetwork Nat) :
    let next := service.publish fun shared =>
      { shared with cidrExpirations := change shared.cidrExpirations }
    next.ipDomain = service.ipDomain ∧
      next.cidrDomain = { service.cidrDomain with
        mirror := service.cidrDomain.mirror.map change } := by
  intro next
  unfold next publish ipDomain cidrDomain
  simp only [Option.map_map]
  exact ⟨rfl, rfl⟩

lemma commitCidrBlock_domains (clock : Clock) (network : IpNetwork) (ttlSeconds : Nat) :
    let next := service.commitCidrBlock clock network ttlSeconds
    next.ipDomain = service.ipDomain ∧
      next.cidrDomain = service.cidrDomain.block clock network ttlSeconds := by
  intro next
  unfold next commitCidrBlock CidrDomain.block
  split
  · exact publish_cidr_domains _ _
  · exact publish_cidr_domains _ _

lemma releaseCidr_domains (network : IpNetwork) : let next := service.releaseCidr network
    next.ipDomain = service.ipDomain ∧ next.cidrDomain = service.cidrDomain.unblock network := by
  intro next
  obtain ⟨hip, hcidr⟩ := publish_cidr_domains
    { service with cidrExpirations := service.cidrExpirations.erase network } (·.erase network)
  refine ⟨hip, ?_⟩
  have hactive := congrArg (fun domain : CidrDomain =>
    { domain with activeCidrs := service.store.activeCidrs.erase network }) hcidr
  exact hactive

variable {cmd : EnforceCommand} {service} {next : EnforcementService} {io : Io}
  {durability : WalDurability} {outcome : Except EnforcementError EnforceResult} {id : Uuid}

section

variable (service) (io)

lemma commit_publishes :
    (service.commit io cmd).2.checkpointShared.isSome = service.checkpointShared.isSome := by
  unfold commit commitCidrBlock commitIpBlock commitLease releaseCidr releaseIp
  dsimp only
  repeat' split
  all_goals simp [publish, scheduleExpiration, detachExpiration]

lemma commit_cidrDomain_of_ip (hip : cmd.cidr = none) :
    (service.commit io cmd).2.cidrDomain = service.cidrDomain := by
  have hmirror {left right : Option SharedState} (hsome : left.isSome = right.isSome)
      (mirror : Table IpNetwork Nat) : left.map (fun _ => mirror) = right.map fun _ => mirror := by
    cases left <;> cases right <;> simp_all
  obtain ⟨outside, hsame, -⟩ := @exists_regraft service service rfl rfl
  have hcommit := congrArg (·.2) (service.commit_regraft outside io hip)
  rw [← hsame] at hcommit
  rw [hcommit, cidrDomain_regraft, hmirror (service.commit_publishes io), ← cidrDomain_regraft,
    ← hsame]

lemma commit_setting (cmd : EnforceCommand) :
    (service.commit io cmd).2.setting = service.setting := by
  obtain ⟨written, hwritten⟩ := service.commit_writes io cmd
  rw [hwritten]
  rfl

end

/-! ## Whole commands -/

section

variable (service) (io)
variable (mutation : Option PendingMeshMutation)

lemma mergeMutation_setting : (service.mergeMutation io mutation).setting = service.setting := by
  unfold mergeMutation
  split <;> rfl

lemma mergeMutation_cidrDomain :
    (service.mergeMutation io mutation).cidrDomain = service.cidrDomain := by
  unfold mergeMutation
  split <;> rfl

lemma finish_cidrDomain (cmd : EnforceCommand) (walLsn : Option Nat) :
    (service.finish io cmd walLsn).cidrDomain = service.cidrDomain := by
  obtain ⟨mesh, suppressions, results, order, hfinish⟩ := service.finish_writes io cmd walLsn
  rw [hfinish]
  rfl

end

variable {mutation : Option PendingMeshMutation}

lemma Executed.setting (hexecuted : Executed service io cmd mutation durability outcome next) :
    next.setting = service.setting := by
  refine hexecuted.keeps rfl (fun hjournal => ?_) fun walLsn hdone => ?_
  · rw [commit_setting, mergeMutation_setting]
    exact (journalCommand_untouched hjournal).setting
  · obtain ⟨mesh, suppressions, results, order, hfinish⟩ := finish_writes _ io cmd walLsn
    rw [hfinish, ← hdone]
    rfl

/-- A command on an address leaves the prefixes alone. -/
lemma Executed.cidrDomain (hexecuted : Executed service io cmd mutation durability outcome next)
    (hip : cmd.cidr = none) : next.cidrDomain = service.cidrDomain := by
  refine hexecuted.keeps rfl (fun hjournal => ?_) fun walLsn hdone => ?_
  · rw [commit_cidrDomain_of_ip _ io hip, mergeMutation_cidrDomain]
    exact (journalCommand_untouched hjournal).cidr
  · rw [finish_cidrDomain, hdone]

lemma commit_of_cidr (service : EnforcementService) (io : Io) {network : IpNetwork}
    (hcidr : cmd.cidr = some network) :
    ∃ next, service.commit io cmd = (.ok (), next) ∧ next.ipDomain = service.ipDomain ∧
      next.cidrDomain = service.cidrDomain.after io.clock cmd network := by
  unfold commit CidrDomain.after
  rw [hcidr]
  cases cmd.action with
  | block => exact ⟨_, rfl, commitCidrBlock_domains ..⟩
  | unblock => exact ⟨_, rfl, releaseCidr_domains ..⟩

/-- A command on a prefix leaves the addresses alone. -/
lemma Executed.ipDomain (hexecuted : Executed service io cmd none durability outcome next)
    (hcidr : cmd.cidr ≠ none) : next.ipDomain = service.ipDomain := by
  obtain ⟨network, hnetwork⟩ := ne_none_iff_exists'.mp hcidr
  refine hexecuted.keeps rfl (fun hjournal => ?_) fun walLsn hdone => ?_
  · obtain ⟨committed, heq, hip, _⟩ := commit_of_cidr (mergeMutation _ io none) io hnetwork
    rw [heq]
    refine hip.trans ?_
    rw [mergeMutation_none]
    exact (journalCommand_untouched hjournal).ip
  · rw [← hdone, finish, ipDomain_rememberResult, originateBan, if_neg fun hboth => hcidr hboth.1]
    split <;> rfl

/-- The prefix domain decides what a prefix command makes of it. -/
lemma enforceInner_cidrDomain_congr {other : EnforcementService}
    (hdomain : service.cidrDomain = other.cidrDomain) (hsetting : service.setting = other.setting)
    (hcidr : cmd.cidr ≠ none) (hfresh : service.processedResults.lookup cmd.decisionId = none)
    (hfresh' : other.processedResults.lookup cmd.decisionId = none) (io : Io)
    (mutation : Option PendingMeshMutation) (durability : WalDurability) :
    (service.enforceInner io cmd mutation durability).2.cidrDomain =
      (other.enforceInner io cmd mutation durability).2.cidrDomain := by
  obtain ⟨network, hnetwork⟩ := ne_none_iff_exists'.mp hcidr
  unfold enforceInner
  rw [hfresh, hfresh']
  dsimp only
  split
  · exact hdomain
  rcases journalCommand_both hsetting io cmd mutation durability with
    ⟨error, hown, hother⟩ | ⟨walLsn, walLsn', next, next', hown, hother, hnext, hnext'⟩
  · rw [hown, hother]
    exact hdomain
  · obtain ⟨after, heq, _, hafter⟩ := commit_of_cidr (next.mergeMutation io mutation) io hnetwork
    obtain ⟨after', heq', _, hafter'⟩ :=
      commit_of_cidr (next'.mergeMutation io mutation) io hnetwork
    rw [mergeMutation_cidrDomain, hnext.cidr, hdomain, ← hnext'.cidr,
      ← mergeMutation_cidrDomain next' io mutation, ← hafter'] at hafter
    rw [hown, hother]
    dsimp only
    rw [heq, heq']
    dsimp only
    exact (after.finish_cidrDomain io cmd walLsn).trans
      (hafter.trans (after'.finish_cidrDomain io cmd walLsn').symm)

/-! ## Sequences of commands -/

lemma lookup_trimResults_of_none (order : List Uuid) {results : Table Uuid EnforceResult}
    (hnone : results.lookup id = none) : (trimResults order results).2.lookup id = none := by
  induction order generalizing results with
  | nil => exact hnone
  | cons oldest order ih =>
    rw [trimResults]
    split
    · apply ih
      rw [Table.lookup_erase_eq]
      split
      · rfl
      · exact hnone
    · exact hnone

lemma lookup_rememberResult_of_none {result : EnforceResult} (hother : id ≠ result.decisionId)
    (hnone : service.processedResults.lookup id = none) :
    (service.rememberResult result).processedResults.lookup id = none := by
  have hinserted : (service.processedResults.insert result.decisionId result).lookup id = none := by
    rw [Table.lookup_insert_eq, if_neg hother]
    exact hnone
  unfold rememberResult
  dsimp only
  split
  · exact hinserted
  · exact lookup_trimResults_of_none _ hinserted

lemma lookup_enforceInner_of_none (io : Io) (mutation : Option PendingMeshMutation)
    (durability : WalDurability) (hother : id ≠ cmd.decisionId)
    (hnone : service.processedResults.lookup id = none) :
    (service.enforceInner io cmd mutation durability).2.processedResults.lookup id = none := by
  have hrecollection := (service.enforceInner_executed io cmd mutation durability).recollection
  generalize service.enforceInner io cmd mutation durability = outcome at hrecollection ⊢
  obtain ⟨result, next⟩ := outcome
  cases hrecollection with
  | held => exact hnone
  | failed hfresh hsame =>
    rw [hsame.results]
    exact hnone
  | new hfresh hsame hid =>
    apply lookup_rememberResult_of_none (hid ▸ hother)
    rw [hsame.results]
    exact hnone

end EnforcementService

/-- A command as it is run. Only commands on addresses come with a mutation. -/
structure DomainCommand where
  io : Io
  cmd : EnforceCommand
  mutation : Option PendingMeshMutation
  durability : WalDurability
  mutation_ip : cmd.cidr ≠ none → mutation = none

namespace DomainCommand

def onIp (command : DomainCommand) : Bool := command.cmd.cidr.isNone

def onCidr (command : DomainCommand) : Bool := command.cmd.cidr.isSome

def step (service : EnforcementService) (command : DomainCommand) : EnforcementService :=
  (service.enforceInner command.io command.cmd command.mutation command.durability).2

lemma step_setting (service : EnforcementService) (command : DomainCommand) :
    (step service command).setting = service.setting :=
  (service.enforceInner_executed ..).setting

variable {command : DomainCommand}
variable {commands : List DomainCommand} (service : EnforcementService)

lemma step_ipDomain_of_cidr (hcidr : command.cmd.cidr ≠ none) :
    (step service command).ipDomain = service.ipDomain := by
  have hexecuted := service.enforceInner_executed command.io command.cmd command.mutation
    command.durability
  rw [command.mutation_ip hcidr] at hexecuted
  unfold step
  rw [command.mutation_ip hcidr]
  exact hexecuted.ipDomain hcidr

lemma step_cidrDomain_of_ip (hip : command.cmd.cidr = none) :
    (step service command).cidrDomain = service.cidrDomain :=
  (service.enforceInner_executed ..).cidrDomain hip

structure Aligned {View : Type} (view : EnforcementService → View) (commands : List DomainCommand)
    (left right : EnforcementService) : Prop where
  view : view left = view right
  setting : left.setting = right.setting
  distinct : (commands.map fun command => command.cmd.decisionId).Nodup
  fresh : ∀ command ∈ commands, left.processedResults.lookup command.cmd.decisionId = none
  fresh' : ∀ command ∈ commands, right.processedResults.lookup command.cmd.decisionId = none

lemma lookup_step_of_mem {service : EnforcementService}
    (hdistinct : ((command :: commands).map fun command => command.cmd.decisionId).Nodup)
    (hfresh : ∀ other ∈ command :: commands,
      service.processedResults.lookup other.cmd.decisionId = none) :
    ∀ other ∈ commands,
      (step service command).processedResults.lookup other.cmd.decisionId = none := by
  intro other hmem
  rw [map_cons, nodup_cons] at hdistinct
  apply lookup_enforceInner_of_none
  · intro heq
    exact hdistinct.1 (heq ▸ mem_map_of_mem hmem)
  · exact hfresh other (mem_cons_of_mem _ hmem)

lemma view_run_filter {View : Type} {view : EnforcementService → View}
    {counts : DomainCommand → Bool} (hforeign : ∀ service command, counts command = false →
      view (step service command) = view service)
    (hown : ∀ command left right, counts command → view left = view right →
      left.setting = right.setting →
      left.processedResults.lookup command.cmd.decisionId = none →
      right.processedResults.lookup command.cmd.decisionId = none →
      view (step left command) = view (step right command)) {service : EnforcementService}
    (hdistinct : (commands.map fun command => command.cmd.decisionId).Nodup)
    (hfresh : ∀ command ∈ commands, service.processedResults.lookup command.cmd.decisionId = none) :
    view (run step service commands) = view (run step service (commands.filter counts)) := by
  have haligned : Aligned view commands service service := ⟨rfl, rfl, hdistinct, hfresh, hfresh⟩
  refine (@related_run_filter _ _ step (Aligned view) counts ?_ ?_ _ _ _ haligned).view
  · intro command rest left right hbefore hcounts
    refine ⟨(hforeign left command hcounts).trans hbefore.view,
      (step_setting left command).trans hbefore.setting, (nodup_cons.mp hbefore.distinct).2,
      lookup_step_of_mem hbefore.distinct hbefore.fresh,
      fun other hmem => hbefore.fresh' other (mem_cons_of_mem _ hmem)⟩
  · intro command rest left right hbefore hcounts
    refine ⟨hown command left right hcounts hbefore.view hbefore.setting
        (hbefore.fresh command mem_cons_self) (hbefore.fresh' command mem_cons_self),
      ?_, (nodup_cons.mp hbefore.distinct).2,
      lookup_step_of_mem hbefore.distinct hbefore.fresh,
      lookup_step_of_mem hbefore.distinct hbefore.fresh'⟩
    rw [step_setting, step_setting]
    exact hbefore.setting

end DomainCommand

/-! ## Expiry -/

namespace EnforcementService

variable (service : EnforcementService) (io : Io)

lemma expireCidr_ipDomain (network : IpNetwork) :
    (service.expireCidr io network).ipDomain = service.ipDomain := by
  have hexecuted := enforceInner_executed
    { service with cidrExpirations := service.cidrExpirations.erase network } io
    (ttlUnblock io network.addr (some network)) none .append
  obtain ⟨expirations, hnext⟩ := service.expireCidr_writes io network
  rw [hnext]
  exact hexecuted.ipDomain (some_ne_none network)

lemma expireIp_cidrDomain (ip : IpAddr) :
    (service.expireIp io ip).cidrDomain = service.cidrDomain := by
  obtain ⟨leases, hnext⟩ := service.expireIp_writes io ip
  rw [hnext]
  exact (service.enforceInner_executed io (ttlUnblock io ip none) none .append).cidrDomain rfl

end EnforcementService

/-- Addresses and prefixes are independent. A command on a prefix, whatever address it
carries, changes nothing of the address domain, a command on an address nothing of the
prefix domain, and the same holds for the two halves of an expiry pass. So after any
sequence of commands with distinct new decisions each domain is what its own commands
alone would have made of it. -/
theorem DomainCommand.domains_independent (service : EnforcementService) :
    (∀ command : DomainCommand, command.cmd.cidr ≠ none →
      (step service command).ipDomain = service.ipDomain) ∧
    (∀ command : DomainCommand, command.cmd.cidr = none →
      (step service command).cidrDomain = service.cidrDomain) ∧
    (∀ (io : Io) (network : IpNetwork),
      (service.expireCidr io network).ipDomain = service.ipDomain) ∧
    (∀ (io : Io) (ip : IpAddr), (service.expireIp io ip).cidrDomain = service.cidrDomain) ∧
    ∀ commands : List DomainCommand,
      (commands.map fun command => command.cmd.decisionId).Nodup →
      (∀ command ∈ commands, service.processedResults.lookup command.cmd.decisionId = none) →
        (run step service commands).ipDomain = (run step service (commands.filter onIp)).ipDomain ∧
          (run step service commands).cidrDomain =
            (run step service (commands.filter onCidr)).cidrDomain := by
  refine ⟨fun command hcidr => step_ipDomain_of_cidr service hcidr,
    fun command hip => step_cidrDomain_of_ip service hip, service.expireCidr_ipDomain,
    service.expireIp_cidrDomain, fun commands hdistinct hfresh => ⟨?_, ?_⟩⟩
  · apply view_run_filter _ _ hdistinct hfresh
    · intro before command hcounts
      apply step_ipDomain_of_cidr
      rintro hnone
      simp [onIp, hnone] at hcounts
    · intro command left right hcounts hview hsetting hleft hright
      exact enforceInner_ipDomain_congr hview hsetting
        (isNone_iff_eq_none.mp hcounts) hleft hright _ _ _
  · apply view_run_filter _ _ hdistinct hfresh
    · intro before command hcounts
      apply step_cidrDomain_of_ip
      exact isNone_iff_eq_none.mp (isSome_eq_false_iff.mp hcounts)
    · intro command left right hcounts hview hsetting hleft hright
      refine enforceInner_cidrDomain_congr hview hsetting ?_ hleft hright _ _ _
      exact isSome_iff_ne_none.mp hcounts

/-- A prefix is blocked and released around a block of an address in it: the address
stays blocked, and the prefix is gone. -/
theorem DomainCommand.domains_independent_mixed :
    let service := EnforcementService.new (Store.new.setRamLimitMb 1) 0
    let network : IpNetwork := ⟨.v4 0x0a000000, 8⟩
    let onPrefix := fun id action =>
      { EnforceCommand.operator id action (.v4 0x0a000001) 60 with cidr := some network }
    let blockCidr : DomainCommand := ⟨.at ⟨0, 0⟩ 0, onPrefix 1 .block, none, .append, fun _ => rfl⟩
    let blockIp : DomainCommand :=
      ⟨.at ⟨1, 1⟩ 0, .operator 2 .block (.v4 0x0a000001) 60, none, .append, fun _ => rfl⟩
    let unblockCidr : DomainCommand :=
      ⟨.at ⟨2, 2⟩ 0, onPrefix 3 .unblock, none, .append, fun _ => rfl⟩
    let final := run step service [blockCidr, blockIp, unblockCidr]
    final.ipDomain = (run step service [blockIp]).ipDomain ∧
      final.cidrDomain = (run step service [blockCidr, unblockCidr]).cidrDomain ∧
      final.blockedIps = {.v4 0x0a000001} ∧ final.store.activeCidrs = ∅ := by
  intro service network onPrefix blockCidr blockIp unblockCidr final
  obtain ⟨_, _, _, _, hsequence⟩ := domains_independent service
  obtain ⟨hip, hcidr⟩ := hsequence [blockCidr, blockIp, unblockCidr] (by decide) (by decide)
  exact ⟨hip, hcidr, by decide +kernel, by decide +kernel⟩

end RamShield
