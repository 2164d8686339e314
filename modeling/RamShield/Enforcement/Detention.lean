import RamShield.Enforcement.Domains
import RamShield.Enforcement.Ring
import RamShield.Storage.Accounting

/-! # Temporary detentions end

A block with a time to live arms a lease, and `expire_due` turns every due lease into
an unblock command. The lease is gone before the command runs, so a command that fails
has to arm it again. Here addresses and prefixes are treated alike: a history records
what happened to each of them, the term that the history gives a detainee says when
its lease is due, and the lease is always where the term says.
-/

namespace RamShield

open Foundation Foundation.Machine List

/-- An address or a prefix: the two kinds of detention. -/
inductive Detainee
  | ip (ip : IpAddr)
  | cidr (network : IpNetwork)
  deriving DecidableEq

namespace Detainee

/-- The address of a command about the detainee; for a prefix its network address. -/
def address : Detainee → IpAddr
  | .ip addr => addr
  | .cidr prefixes => prefixes.addr

def network : Detainee → Option IpNetwork
  | .ip _ => none
  | .cidr prefixes => some prefixes

end Detainee

def EnforceCommand.detainee (cmd : EnforceCommand) : Detainee :=
  match cmd.cidr with
  | some network => .cidr network
  | none => .ip cmd.ip

/-- What is kept about a detainee: the lease (bucket or instant), its listing and its entry. -/
@[ext] structure Custody where
  lease : Option Nat
  listed : Bool
  entry : Option Entry

/-- The entry is the record of a blocked address and still counts. -/
def Entry.blocks (entry : Entry) (now : Instant) : Bool :=
  !entry.isExpired now && entry.value.isBlockedRecord

lemma Entry.isExpired_mono (entry : Entry) {now later : Instant} (hlater : now ≤ later)
    (hexpired : entry.isExpired now) : entry.isExpired later := by
  unfold Entry.isExpired at hexpired ⊢
  cases hexpiry : entry.expiresAt with
  | none =>
    rw [hexpiry] at hexpired
    cases hexpired
  | some expiry =>
    rw [hexpiry, Option.any_some, decide_eq_true_iff] at hexpired
    exact decide_eq_true (Nat.lt_of_lt_of_le hexpired hlater)

def Custody.holds (custody : Custody) (now : Instant) : Bool :=
  custody.listed || custody.entry.any (·.blocks now)

namespace EnforcementService

variable (service : EnforcementService)

def custody : Detainee → Custody
  | .ip ip =>
    ⟨service.leases.lease ip, decide (ip ∈ service.blockedIps), service.store.inner.lookup ip⟩
  | .cidr network =>
    ⟨service.cidrExpirations.lookup network, decide (network ∈ service.store.activeCidrs), none⟩

/-- The address is listed or its record blocked, the prefix is active. -/
def detains (now : Instant) : Detainee → Bool
  | .ip ip => decide (ip ∈ service.blockedIps) || service.store.blockedNow now ip
  | .cidr network => decide (network ∈ service.store.activeCidrs)

lemma detains_eq (now : Instant) (detainee : Detainee) :
    service.detains now detainee = (service.custody detainee).holds now := by
  cases detainee with
  | cidr network => exact (Bool.or_false _).symm
  | ip ip =>
    unfold detains custody Custody.holds Store.blockedNow Store.get
    dsimp only
    congr 1
    cases service.store.inner.lookup ip with
    | none => rfl
    | some entry => cases hexpired : entry.isExpired now <;> simp [Entry.blocks, hexpired]

def slot (detainee : Detainee) (deadline : Instant) : Nat :=
  match detainee with
  | .ip _ => service.bucketOf deadline
  | .cidr _ => deadline

def leaseGiven (clock : Clock) (cmd : EnforceCommand) : Option Nat :=
  match cmd.action with
  | .block =>
    if 0 < cmd.ttlSeconds then
      some (service.slot cmd.detainee (clock.leaseDeadline cmd.ttlSeconds))
    else none
  | .unblock => none

variable {service} {next : EnforcementService} {clock : Clock} {cmd : EnforceCommand}

lemma custody_ip (hip : next.ipDomain = service.ipDomain) (ip : IpAddr) :
    next.custody (.ip ip) = service.custody (.ip ip) :=
  congrArg (fun domain : IpDomain => Custody.mk (domain.leases.lease ip)
    (decide (ip ∈ domain.blockedIps)) (domain.store.inner.lookup ip)) hip

lemma custody_cidr (hcidr : next.cidrDomain = service.cidrDomain) (network : IpNetwork) :
    next.custody (.cidr network) = service.custody (.cidr network) :=
  congrArg (fun domain : CidrDomain => Custody.mk (domain.cidrExpirations.lookup network)
    (decide (network ∈ domain.activeCidrs)) none) hcidr

/-! ## Commands -/

structure Disposed (service : EnforcementService) (clock : Clock) (cmd : EnforceCommand)
    (done : Bool) (next : EnforcementService) : Prop where
  wellFormed : next.leases.WellFormed
  epoch : next.epoch = service.epoch
  other {detainee : Detainee} (hother : detainee ≠ cmd.detainee) :
    next.custody detainee = service.custody detainee
  lease : (next.custody cmd.detainee).lease =
    if done then service.leaseGiven clock cmd else (service.custody cmd.detainee).lease
  free (hdone : done = true) (haction : cmd.action = .unblock) {later : Instant}
    (hlater : clock.mono ≤ later) : (next.custody cmd.detainee).holds later = false

lemma Disposed.idle (hwf : service.leases.WellFormed) (hleases : next.leases = service.leases)
    (hepoch : next.epoch = service.epoch) (hcustody : next.custody = service.custody)
    (clock : Clock) (cmd : EnforceCommand) :
    Disposed service clock cmd false next where
  wellFormed := hleases ▸ hwf
  epoch := hepoch
  other _ := congrFun hcustody _
  lease := congrArg Custody.lease (congrFun hcustody _)
  free hdone := nomatch hdone

/-- A command on a prefix always commits. -/
lemma disposed_of_cidr (hwf : service.leases.WellFormed) {network : IpNetwork}
    (hcidr : cmd.cidr = some network) (hepoch : next.epoch = service.epoch)
    (hip : next.ipDomain = service.ipDomain)
    (hdomain : next.cidrDomain = service.cidrDomain.after clock cmd network) :
    Disposed service clock cmd true next := by
  have hdetainee : cmd.detainee = .cidr network := by rw [EnforceCommand.detainee, hcidr]
  have hleases : next.leases = service.leases := congrArg IpDomain.leases hip
  have hexpirations : next.cidrExpirations = _ := congrArg CidrDomain.cidrExpirations hdomain
  have hactive : next.store.activeCidrs = _ := congrArg CidrDomain.activeCidrs hdomain
  -- The other detainees, the lease of this one, and that an unblock frees it.
  refine ⟨hleases ▸ hwf, hepoch, ?_, ?_, ?_⟩
  · intro detainee hother
    rw [hdetainee] at hother
    cases detainee with
    | ip ip => exact custody_ip hip ip
    | cidr other =>
      have hne : other ≠ network := fun heq => hother (congrArg Detainee.cidr heq)
      unfold custody
      rw [hexpirations, hactive]
      unfold CidrDomain.after CidrDomain.block CidrDomain.unblock cidrDomain
      cases cmd.action with
      | block =>
        dsimp only
        split
        · simp [hne]
        · simp [hne]
      | unblock => simp [hne]
  · rw [if_pos rfl, hdetainee]
    unfold custody leaseGiven slot
    rw [hdetainee]
    dsimp only
    rw [hexpirations]
    unfold CidrDomain.after CidrDomain.block CidrDomain.unblock
    cases cmd.action with
    | block =>
      dsimp only
      split
      · simp
      · simp
    | unblock => simp
  · intro _ haction later _
    rw [hdetainee]
    unfold custody Custody.holds
    dsimp only
    rw [hactive]
    unfold CidrDomain.after CidrDomain.unblock
    rw [haction]
    simp

lemma clearRecord_clears (service : EnforcementService) (clock : Clock) (ip : IpAddr) :
    ∃ store, service.clearRecord clock ip = (.ok (), store) ∧
      (∀ other, other ≠ ip → store.inner.lookup other = service.store.inner.lookup other) ∧
      ∀ later, clock.mono ≤ later → (store.inner.lookup ip).any (·.blocks later) = false := by
  unfold clearRecord
  split
  next record hget =>
    obtain ⟨entry, hentry⟩ : ∃ entry, service.store.inner.lookup ip = some entry := by
      cases hlookup : service.store.inner.lookup ip with
      | some entry => exact ⟨entry, rfl⟩
      | none =>
        rw [Store.get, hlookup] at hget
        cases hget
    refine ⟨_, by rw [Store.insert, hentry]; rfl, ?_, ?_⟩
    · intro other hother
      simp [hother]
    · intro later hlater
      simp [Entry.blocks, Value.isBlockedRecord, BlockState.isBlocked]
  next hhidden =>
    refine ⟨service.store, rfl, fun _ _ => rfl, fun later hlater => ?_⟩
    unfold Store.get at hhidden
    cases hentry : service.store.inner.lookup ip with
    | none => rfl
    | some entry =>
      rw [hentry] at hhidden
      dsimp only at hhidden
      change entry.blocks later = false
      cases hexpired : entry.isExpired clock.mono with
      | true => rw [Entry.blocks, entry.isExpired_mono hlater hexpired]; rfl
      | false =>
        -- A visible value that is no record blocks nothing.
        rw [hexpired, if_neg Bool.false_ne_true] at hhidden
        cases hvalue : entry.value with
        | ipRecord record => exact absurd (congrArg some hvalue) (hhidden record)
        | _ => simp [Entry.blocks, hvalue, Value.isBlockedRecord]

lemma disposed_of_ip {done : Bool} (hcidr : cmd.cidr = none) (hwf : next.leases.WellFormed)
    (hepoch : next.epoch = service.epoch) (hdomain : next.cidrDomain = service.cidrDomain)
    (hother : ∀ ip, ip ≠ cmd.ip → next.custody (.ip ip) = service.custody (.ip ip))
    (hlease : next.leases.lease cmd.ip =
      if done then service.leaseGiven clock cmd else service.leases.lease cmd.ip)
    (hfree : done → cmd.action = .unblock → cmd.ip ∉ next.blockedIps ∧
      ∀ later, clock.mono ≤ later → (next.store.inner.lookup cmd.ip).any (·.blocks later) = false) :
    Disposed service clock cmd done next := by
  have hdetainee : cmd.detainee = .ip cmd.ip := by rw [EnforceCommand.detainee, hcidr]
  refine ⟨hwf, hepoch, ?_, ?_, ?_⟩
  · intro detainee hne
    rw [hdetainee] at hne
    cases detainee with
    | ip ip => exact hother ip fun heq => hne (congrArg Detainee.ip heq)
    | cidr network => exact custody_cidr hdomain network
  · rw [hdetainee]
    exact hlease
  · intro hdone haction later hlater
    obtain ⟨hlisted, hentry⟩ := hfree hdone haction
    rw [hdetainee]
    unfold custody Custody.holds
    dsimp only
    rw [hentry later hlater, decide_eq_false hlisted]
    rfl

lemma commitIpBlock_disposed (hwf : service.leases.WellFormed) (io : Io)
    (hcidr : cmd.cidr = none) (haction : cmd.action = .block) :
    Disposed service io.clock cmd (service.commitIpBlock io.clock cmd).1.isOk
      (service.commitIpBlock io.clock cmd).2 := by
  have hnotUnblock : cmd.action ≠ .unblock := by rw [haction]; nofun
  have hdetainee : cmd.detainee = .ip cmd.ip := by rw [EnforceCommand.detainee, hcidr]
  have hdomain := service.commit_cidrDomain_of_ip io hcidr
  rw [commit, haction, hcidr] at hdomain
  unfold commitIpBlock at hdomain ⊢
  dsimp only at hdomain ⊢
  have hframe := @(service.store.updateBlockState_moves cmd.ip io.clock.mono
    (.blocked (reasonToBlockReason cmd.reason) io.clock.wallNs)
    service.store.ramLimitBytes).lookup_of_ne
  generalize service.store.updateBlockState io.clock.mono cmd.ip _ _ = updated at hframe hdomain ⊢
  obtain ⟨accepted, store⟩ := updated
  -- A block that the store refuses changes nothing but the entry of the address.
  cases accepted with
  | false =>
    refine disposed_of_ip hcidr hwf rfl hdomain ?_ rfl fun hdone => nomatch hdone
    intro ip hne
    exact Custody.ext rfl rfl (hframe ip hne)
  | true =>
    obtain ⟨leases, shared, hlease, hnext, heq⟩ := commitLease_writes
      { service with
        store := store
        blockedIps := insert cmd.ip service.blockedIps
        dropsByBlocked := service.dropsByBlocked.erase cmd.ip } hwf io.clock cmd.ip cmd.ttlSeconds
    dsimp only at hdomain ⊢
    rw [heq] at hdomain ⊢
    refine disposed_of_ip hcidr hnext rfl hdomain ?_ ?_ fun _ hunblock =>
      absurd hunblock hnotUnblock
    · intro ip hne
      have hlisted : decide (ip ∈ insert cmd.ip service.blockedIps) =
          decide (ip ∈ service.blockedIps) := by simp [hne]
      exact Custody.ext ((hlease ip).trans (if_neg hne)) hlisted (hframe ip hne)
    · refine (hlease cmd.ip).trans ?_
      rw [if_pos rfl, leaseGiven, haction, hdetainee]
      rfl

lemma releaseIp_disposed (hwf : service.leases.WellFormed) (io : Io) (hcidr : cmd.cidr = none)
    (haction : cmd.action = .unblock) :
    ∃ next, service.releaseIp io cmd = (.ok (), next) ∧
      Disposed service io.clock cmd true next := by
  obtain ⟨store, hclear, hframe, hfree⟩ := service.clearRecord_clears io.clock cmd.ip
  have hdomain := service.commit_cidrDomain_of_ip io hcidr
  rw [commit, haction, hcidr] at hdomain
  have hreleased (next : EnforcementService) (hstore : next.store = store)
      (hblocked : next.blockedIps = service.blockedIps.erase cmd.ip)
      (hleases : next.leases = service.leases.detach cmd.ip) (hepoch : next.epoch = service.epoch)
      (hnext : next.cidrDomain = service.cidrDomain) :
      Disposed service io.clock cmd true next := by
    refine disposed_of_ip hcidr (hleases ▸ hwf.detach cmd.ip) hepoch hnext ?_ ?_ ?_
    · intro ip hne
      unfold custody
      dsimp only
      rw [hleases, hwf.lease_detach, if_neg hne, hblocked, hstore, hframe ip hne]
      simp [hne]
    · rw [hleases, hwf.lease_detach, if_pos rfl, if_pos rfl, leaseGiven, haction]
    · intro _ _
      rw [hblocked, hstore]
      exact ⟨Finset.notMem_erase _ _, hfree⟩
  unfold releaseIp at hdomain ⊢
  rw [hclear] at hdomain ⊢
  refine ⟨_, rfl, hreleased _ ?_ ?_ ?_ ?_ hdomain⟩
  all_goals
    dsimp only
    split <;> rfl

lemma commit_disposed (hwf : service.leases.WellFormed) (io : Io) (cmd : EnforceCommand) :
    Disposed service io.clock cmd (service.commit io cmd).1.isOk (service.commit io cmd).2 := by
  cases hcidr : cmd.cidr with
  | some network =>
    obtain ⟨next, hcommit, hip, hdomain⟩ := service.commit_of_cidr io hcidr
    have hepoch := congrArg Setting.epoch (service.commit_setting io cmd)
    rw [hcommit] at hepoch ⊢
    exact disposed_of_cidr hwf hcidr hepoch hip hdomain
  | none =>
    cases haction : cmd.action with
    | block =>
      rw [commit, haction, hcidr]
      exact commitIpBlock_disposed hwf io hcidr haction
    | unblock =>
      obtain ⟨next, hrelease, hdisposed⟩ := releaseIp_disposed hwf io hcidr haction
      rw [commit, haction, hcidr]
      dsimp only
      rw [hrelease]
      exact hdisposed

lemma disposed_of_commit (hwf : service.leases.WellFormed) {io : Io} {walLsn : Option Nat}
    {journalled : EnforcementService} {result : Except EnforcementError Unit}
    (hjournal : service.journalCommand io cmd none .append = .ok (walLsn, journalled))
    (hcommit : (journalled.mergeMutation io none).commit io cmd = (result, next)) :
    Disposed service io.clock cmd result.isOk next := by
  have huntouched := journalCommand_untouched hjournal
  have hleases : journalled.leases = service.leases := congrArg IpDomain.leases huntouched.ip
  have hdisposed := commit_disposed (hleases ▸ hwf : journalled.leases.WellFormed) io cmd
  rw [mergeMutation_none] at hcommit
  rw [hcommit] at hdisposed
  have hsame (detainee : Detainee) : journalled.custody detainee = service.custody detainee := by
    cases detainee with
    | ip ip => exact custody_ip huntouched.ip ip
    | cidr network => exact custody_cidr huntouched.cidr network
  have hstart : journalled.epoch = service.epoch := congrArg Setting.epoch huntouched.setting
  have hgiven : journalled.leaseGiven io.clock cmd = service.leaseGiven io.clock cmd := by
    unfold leaseGiven slot bucketOf
    rw [hstart]
  refine { hdisposed with epoch := hdisposed.epoch.trans hstart, other := ?_, lease := ?_ }
  · exact fun hother => (hdisposed.other hother).trans (hsame _)
  · rw [hdisposed.lease, hgiven, hsame]

def takesEffect (service : EnforcementService) (io : Io) (cmd : EnforceCommand) : Bool :=
  (service.processedResults.lookup cmd.decisionId).isNone && (service.enforce io cmd).1.isOk

lemma enforce_disposed (hwf : service.leases.WellFormed) (io : Io) (cmd : EnforceCommand) :
    Disposed service io.clock cmd (service.takesEffect io cmd) (service.enforce io cmd).2 ∧
      (service.takesEffect io cmd → cmd.ip.isUnspecified = false) := by
  have hexecuted := service.enforceInner_executed io cmd none .append
  unfold takesEffect enforce
  generalize service.enforceInner io cmd none .append = outcome at hexecuted ⊢
  obtain ⟨result, next⟩ := outcome
  dsimp only at hexecuted ⊢
  have hidle : Disposed service io.clock cmd false service := .idle hwf rfl rfl rfl _ _
  cases hexecuted with
  | cached hcached =>
    rw [hcached]
    exact ⟨hidle, fun heffect => nomatch heffect⟩
  | unspecified hfresh _ =>
    rw [hfresh]
    exact ⟨hidle, fun heffect => nomatch heffect⟩
  | unjournalled hfresh _ _ =>
    rw [hfresh]
    exact ⟨hidle, fun heffect => nomatch heffect⟩
  | refused hfresh hip hjournal hcommit =>
    rw [hfresh]
    exact ⟨disposed_of_commit hwf hjournal hcommit, fun heffect => nomatch heffect⟩
  | @committed walLsn journalled next hfresh hip hjournal hcommit =>
    obtain ⟨mesh, suppressions, results, order, hfinish⟩ := next.finish_writes io cmd walLsn
    rw [hfresh, hfinish]
    exact ⟨{ disposed_of_commit hwf hjournal hcommit with }, fun _ => hip⟩

lemma isUnspecified_of_invalid {service : EnforcementService} {io : Io} {cmd : EnforceCommand}
    {message : String} (hinvalid : (service.enforce io cmd).1 = .error (.invalidCommand message)) :
    cmd.ip.isUnspecified := by
  have hexecuted := service.enforceInner_executed io cmd none .append
  unfold enforce at hinvalid
  generalize service.enforceInner io cmd none .append = outcome at hexecuted hinvalid
  obtain ⟨result, next⟩ := outcome
  subst hinvalid
  cases hexecuted with
  | unspecified _ hip => exact hip
  | unjournalled _ _ hjournal => obtain ⟨_, _, ⟨⟩⟩ := journalCommand_error hjournal
  | refused _ _ _ hcommit => obtain ⟨_, _, ⟨⟩, _⟩ := commit_error hcommit

/-- With a working log the release of a detainee succeeds. -/
lemma enforce_ttlUnblock_isOk {service : EnforcementService} (hwf : service.leases.WellFormed)
    {io : Io} {address : IpAddr} {network : Option IpNetwork}
    (hspecified : address.isUnspecified = false) (hwal : io.walFailure = none) :
    (service.enforce io (ttlUnblock io address network)).1.isOk := by
  have hexecuted := service.enforceInner_executed io (ttlUnblock io address network) none .append
  unfold enforce
  generalize service.enforceInner io (ttlUnblock io address network) none .append = outcome
    at hexecuted ⊢
  obtain ⟨result, next⟩ := outcome
  -- Each way to fail is excluded: the address, the log, and a commit of a release never fails.
  cases hexecuted with
  | cached _ => rfl
  | unspecified _ hip =>
    rw [show address.isUnspecified = true from hip] at hspecified
    cases hspecified
  | unjournalled _ _ hjournal =>
    obtain ⟨_, hfailure, _⟩ := journalCommand_error hjournal
    cases hwal.symm.trans hfailure
  | @refused error walLsn journalled next _ _ hjournal hcommit =>
    have hleases : journalled.leases = service.leases :=
      congrArg IpDomain.leases (journalCommand_untouched hjournal).ip
    rw [mergeMutation_none] at hcommit
    cases network with
    | some network =>
      obtain ⟨_, hok, _⟩ := journalled.commit_of_cidr io
        (show (ttlUnblock io address (some network)).cidr = some network from rfl)
      rw [hok] at hcommit
      cases hcommit
    | none =>
      obtain ⟨_, hok, _⟩ := releaseIp_disposed (hleases ▸ hwf : journalled.leases.WellFormed) io
        (show (ttlUnblock io address none).cidr = none from rfl) rfl
      rw [commit] at hcommit
      cases hok.symm.trans hcommit
  | committed _ _ _ _ => rfl

end EnforcementService

/-! ## Histories -/

inductive DetentionEvent
  | detained (who : Detainee) (deadline : Instant)
  | pinned (who : Detainee)
  | released (who : Detainee)
  | failed (who : Detainee) (time : Instant)

def DetentionEvent.who : DetentionEvent → Detainee
  | .detained who _ => who
  | .pinned who => who
  | .released who => who
  | .failed who _ => who

/-- A temporary detention: its deadline, and when its release last failed. -/
structure Term where
  deadline : Instant
  lastFailure : Option Instant
  deriving DecidableEq

/-- At the deadline, or a second after the last failure. -/
def Term.due (term : Term) : Instant :=
  match term.lastFailure with
  | none => term.deadline
  | some time => time + secNs

def DetentionEvent.apply (term : Option Term) : DetentionEvent → Option Term
  | .detained _ deadline => some ⟨deadline, none⟩
  | .pinned _ => none
  | .released _ => none
  | .failed _ time => term.map fun term => { term with lastFailure := some time }

/-- The term of the last detention, unless for good or released since. -/
def termOf (history : List DetentionEvent) (who : Detainee) : Option Term :=
  (history.filter fun event => event.who = who).foldl DetentionEvent.apply none

lemma termOf_snoc_self (history : List DetentionEvent) (event : DetentionEvent) :
    termOf (history ++ [event]) event.who = event.apply (termOf history event.who) := by
  simp [termOf]

lemma termOf_snoc_of_ne (history : List DetentionEvent) {event : DetentionEvent} {who : Detainee}
    (hne : who ≠ event.who) : termOf (history ++ [event]) who = termOf history who := by
  simp [termOf, hne.symm]

def EnforceCommand.event (cmd : EnforceCommand) (clock : Clock) : DetentionEvent :=
  match cmd.action with
  | .block =>
    if 0 < cmd.ttlSeconds then .detained cmd.detainee (clock.leaseDeadline cmd.ttlSeconds)
    else .pinned cmd.detainee
  | .unblock => .released cmd.detainee

@[simp] lemma EnforceCommand.event_who (cmd : EnforceCommand) (clock : Clock) :
    (cmd.event clock).who = cmd.detainee := by
  unfold EnforceCommand.event
  split
  · split <;> rfl
  · rfl

namespace EnforcementService

variable {service : EnforcementService} {history : List DetentionEvent}
variable {pairs : List (Io × Detainee)} {cmd : EnforceCommand}

lemma leaseGiven_eq {clock : Clock} {before : Option Term} {term : Term}
    (hterm : (cmd.event clock).apply before = some term) :
    service.leaseGiven clock cmd = some (service.slot cmd.detainee term.due) := by
  unfold leaseGiven
  cases haction : cmd.action with
  | unblock =>
    rw [EnforceCommand.event, haction] at hterm
    cases hterm
  | block =>
    rw [EnforceCommand.event, haction] at hterm
    dsimp only at hterm ⊢
    by_cases httl : 0 < cmd.ttlSeconds
    · rw [if_pos httl] at hterm ⊢
      cases hterm
      rfl
    · rw [if_neg httl] at hterm
      cases hterm

def commandEvents (service : EnforcementService) (io : Io) (cmd : EnforceCommand) :
    List DetentionEvent :=
  if service.takesEffect io cmd then [cmd.event io.clock] else []

def attempt (service : EnforcementService) (pair : Io × Detainee) : EnforcementService :=
  match pair.2 with
  | .ip ip => service.expireIp pair.1 ip
  | .cidr network => service.expireCidr pair.1 network

/-- The service that runs a release: the lease is drained or removed. -/
def disarmed (service : EnforcementService) : Detainee → EnforcementService
  | .ip _ => service
  | .cidr network => { service with cidrExpirations := service.cidrExpirations.erase network }

def attemptEvents (service : EnforcementService) (pair : Io × Detainee) : List DetentionEvent :=
  let cmd := ttlUnblock pair.1 pair.2.address pair.2.network
  match ((service.disarmed pair.2).enforce pair.1 cmd).1 with
  | .ok _ => (service.disarmed pair.2).commandEvents pair.1 cmd
  | .error (.invalidCommand _) => []
  | .error _ => [.failed pair.2 pair.1.clock.mono]

def passEvents : EnforcementService → List (Io × Detainee) → List DetentionEvent
  | _, [] => []
  | service, pair :: rest => service.attemptEvents pair ++ passEvents (service.attempt pair) rest

def attempts (service : EnforcementService) (ios : Nat → Io) (networks : IterOrder IpNetwork) :
    List (Io × Detainee) :=
  let due := (service.leases.drainDue (((ios 0).clock.mono - service.epoch) / secNs)).1
  scheduled ios 0 (due.map Detainee.ip ++
    (networks.enum (service.dueCidrs (ios due.length).clock.mono)).map Detainee.cidr)

lemma eachDue_eq_attempts {Item : Type}
    {each : EnforcementService → Io → Item → EnforcementService} {who : Item → Detainee}
    (heach : ∀ service io item, each service io item = service.attempt (io, who item))
    (ios : Nat → Io) (service : EnforcementService) (index : Nat) (items : List Item) :
    eachDue each ios service index items =
      run attempt service (scheduled ios index (items.map who)) := by
  induction items generalizing service index with
  | nil => rfl
  | cons item items ih =>
    rw [eachDue, heach, ih]
    rfl

lemma expireDue_eq_attempts (service : EnforcementService) (ios : Nat → Io)
    (networks : IterOrder IpNetwork) :
    service.expireDue ios networks =
      run attempt (service.drained ios) (service.attempts ios networks) := by
  -- The due prefixes are determined before the first release.
  have hcidrs (pairs : List (Io × IpAddr)) (before : EnforcementService) :
      (run (fun service pair => expireIp service pair.1 pair.2) before pairs).cidrExpirations =
        before.cidrExpirations := by
    have hstep (state : EnforcementService) (pair : Io × IpAddr)
        (hstate : state.cidrDomain = before.cidrDomain) :
        (state.expireIp pair.1 pair.2).cidrDomain = before.cidrDomain :=
      (state.expireIp_cidrDomain pair.1 pair.2).trans hstate
    exact congrArg CidrDomain.cidrExpirations (run_invariant hstep rfl pairs)
  unfold expireDue attempts drained
  dsimp only
  rw [scheduled_append, run_append, length_map, Nat.zero_add,
    ← @eachDue_eq_attempts _ expireIp Detainee.ip fun _ _ _ => rfl,
    ← @eachDue_eq_attempts _ expireCidr Detainee.cidr fun _ _ _ => rfl]
  unfold dueCidrs
  rw [eachDue_eq_run expireIp, hcidrs]

/-! ## Releases -/

inductive Attempted (service : EnforcementService) (io : Io) (who : Detainee)
    (next : EnforcementService) : List DetentionEvent → Prop
  | released (hlease : (next.custody who).lease = none)
      (hfree : ∀ later, io.clock.mono ≤ later → (next.custody who).holds later = false) :
      Attempted service io who next [.released who]
  | failed (hlease : (next.custody who).lease =
        some (service.slot who (io.clock.mono + secNs)))
      (hwal : who.address.isUnspecified = false → io.walFailure ≠ none) :
      Attempted service io who next [.failed who io.clock.mono]
  | dropped (hunspecified : who.address.isUnspecified = true) : Attempted service io who next []

lemma detainee_ttlUnblock (io : Io) (who : Detainee) :
    (ttlUnblock io who.address who.network).detainee = who := by
  cases who <;> rfl

lemma disarmed_custody (service : EnforcementService) {who other : Detainee}
    (hother : other ≠ who) : (service.disarmed who).custody other = service.custody other := by
  cases who with
  | ip ip => rfl
  | cidr network =>
    cases other with
    | ip ip => rfl
    | cidr prefixes =>
      have hne : prefixes ≠ network := fun heq => hother (congrArg Detainee.cidr heq)
      exact Custody.ext ((Table.lookup_erase_eq _ network prefixes).trans (if_neg hne)) rfl rfl

def rearm (service : EnforcementService) (who : Detainee) (deadline : Instant) :
    EnforcementService :=
  match who with
  | .ip ip => service.scheduleExpiration ip deadline
  | .cidr network =>
    { service with cidrExpirations := service.cidrExpirations.insert network deadline }

lemma rearm_custody (hwf : service.leases.WellFormed) (who : Detainee) (deadline : Instant) :
    (service.rearm who deadline).leases.WellFormed ∧
      ((service.rearm who deadline).custody who).lease = some (service.slot who deadline) ∧
      ∀ other, other ≠ who →
        (service.rearm who deadline).custody other = service.custody other := by
  cases who with
  | ip ip =>
    refine ⟨hwf.schedule ip _, (hwf.lease_schedule ip ip _).trans (if_pos rfl), ?_⟩
    intro other hother
    cases other with
    | cidr network => rfl
    | ip address =>
      have hne : address ≠ ip := fun heq => hother (congrArg Detainee.ip heq)
      exact Custody.ext ((hwf.lease_schedule ip address _).trans (if_neg hne)) rfl rfl
  | cidr network =>
    refine ⟨hwf, by simp [rearm, custody, slot], ?_⟩
    intro other hother
    cases other with
    | ip address => rfl
    | cidr prefixes =>
      have hne : prefixes ≠ network := fun heq => hother (congrArg Detainee.cidr heq)
      exact Custody.ext
        ((Table.lookup_insert_eq _ network prefixes deadline).trans (if_neg hne)) rfl rfl

lemma attempt_eq (service : EnforcementService) (io : Io) (who : Detainee) :
    service.attempt (io, who) =
      let outcome := (service.disarmed who).enforce io (ttlUnblock io who.address who.network)
      match outcome.1 with
      | .ok _ => outcome.2
      | .error (.invalidCommand _) => outcome.2
      | .error _ => outcome.2.rearm who (io.clock.mono + secNs) := by
  cases who with
  | ip ip =>
    change service.expireIp io ip = _
    unfold expireIp
    dsimp only [disarmed, Detainee.address, Detainee.network]
    generalize service.enforce io (ttlUnblock io ip none) = outcome
    obtain ⟨result, next⟩ := outcome
    cases result with
    | ok result => rfl
    | error error => cases error <;> rfl
  | cidr network =>
    change service.expireCidr io network = _
    unfold expireCidr
    dsimp only [disarmed, Detainee.address, Detainee.network]
    generalize enforce _ io (ttlUnblock io network.addr (some network)) = outcome
    obtain ⟨result, next⟩ := outcome
    cases result with
    | ok result => rfl
    | error error => cases error <;> rfl

@[elab_as_elim]
lemma attempt_keeps {motive : EnforcementService → Prop} (io : Io) (who : Detainee)
    (hcommand : motive ((service.disarmed who).enforce io
      (ttlUnblock io who.address who.network)).2)
    (hrearm : ∀ {next : EnforcementService} (deadline : Instant), motive next →
      motive (next.rearm who deadline)) : motive (service.attempt (io, who)) := by
  rw [attempt_eq]
  dsimp only
  split
  · exact hcommand
  · exact hcommand
  · exact hrearm _ hcommand

lemma attempt_frame (hwf : service.leases.WellFormed) (pair : Io × Detainee) :
    (service.attempt pair).leases.WellFormed ∧ (service.attempt pair).epoch = service.epoch ∧
      ∀ other, other ≠ pair.2 → (service.attempt pair).custody other = service.custody other := by
  obtain ⟨io, who⟩ := pair
  have hdisarmed : (service.disarmed who).leases.WellFormed := by cases who <;> exact hwf
  have hstart : (service.disarmed who).epoch = service.epoch := by cases who <;> rfl
  obtain ⟨hdisposed, _⟩ := enforce_disposed hdisarmed io (ttlUnblock io who.address who.network)
  refine attempt_keeps io who ⟨hdisposed.wellFormed, hdisposed.epoch.trans hstart, ?_⟩ ?_
  · intro other hne
    rw [hdisposed.other (by rw [detainee_ttlUnblock]; exact hne)]
    exact service.disarmed_custody hne
  · rintro next deadline ⟨hnext, hepoch, hother⟩
    obtain ⟨hrearmed, _, hframe⟩ := rearm_custody hnext who deadline
    refine ⟨hrearmed, ?_, fun other hne => (hframe other hne).trans (hother other hne)⟩
    cases who <;> exact hepoch

lemma attempt_attempted (hwf : service.leases.WellFormed) (io : Io) (who : Detainee)
    (hfresh : service.processedResults.lookup io.freshId = none) :
    Attempted service io who (service.attempt (io, who)) (service.attemptEvents (io, who)) := by
  have hdisarmed : (service.disarmed who).leases.WellFormed := by cases who <;> exact hwf
  have hunknown : (service.disarmed who).processedResults.lookup io.freshId = none := by
    cases who <;> exact hfresh
  have hslot (deadline : Instant) :
      (service.disarmed who).slot who deadline = service.slot who deadline := by
    cases who <;> rfl
  obtain ⟨hdisposed, _⟩ := enforce_disposed hdisarmed io (ttlUnblock io who.address who.network)
  have hinvalid {message : String} := @isUnspecified_of_invalid (service.disarmed who) io
    (ttlUnblock io who.address who.network) message
  have hworks := @enforce_ttlUnblock_isOk (service.disarmed who) hdisarmed io who.address
    who.network
  -- Under a new decision a command takes effect exactly if it succeeds.
  have heffect : (service.disarmed who).takesEffect io (ttlUnblock io who.address who.network) =
      ((service.disarmed who).enforce io (ttlUnblock io who.address who.network)).1.isOk := by
    unfold takesEffect
    rw [show (ttlUnblock io who.address who.network).decisionId = io.freshId from rfl, hunknown]
    rfl
  rw [attempt_eq]
  unfold attemptEvents commandEvents
  dsimp only
  rw [heffect] at hdisposed ⊢
  generalize (service.disarmed who).enforce io (ttlUnblock io who.address who.network) = outcome
    at hdisposed hinvalid hworks ⊢
  obtain ⟨result, next⟩ := outcome
  have hlease := hdisposed.lease
  have hfree := hdisposed.free
  rw [detainee_ttlUnblock] at hlease hfree
  cases result with
  | ok result =>
    dsimp only
    rw [if_pos (by rfl), EnforceCommand.event, ttlUnblock, ← ttlUnblock, detainee_ttlUnblock]
    exact .released hlease fun later hlater => hfree rfl rfl hlater
  | error error =>
    -- Every error but that of an invalid command arms the lease again, a second later.
    have hrearmed : Attempted service io who (next.rearm who (io.clock.mono + secNs))
        [.failed who io.clock.mono] := by
      refine .failed ?_ fun hspecified hwal => Bool.false_ne_true (hworks hspecified hwal)
      have hnext : next.slot who = service.slot who := by
        funext deadline
        unfold slot bucketOf
        rw [hdisposed.epoch]
        exact hslot deadline
      rw [(rearm_custody hdisposed.wellFormed who _).2.1, hnext]
    cases error with
    | invalidCommand message => exact .dropped (hinvalid rfl)
    | _ => exact hrearmed

/-! ## The lease of every temporary detention is armed -/

/-- Who serves a term has its lease where the term says, unless its release is to come. -/
structure KeepsTerms (waiting : List Detainee) (service : EnforcementService)
    (history : List DetentionEvent) : Prop where
  wellFormed : service.leases.WellFormed
  armed {who : Detainee} {term : Term} (hterm : termOf history who = some term) :
    who.address.isUnspecified = false ∧
      (who ∈ waiting ∨ (service.custody who).lease = some (service.slot who term.due))

lemma slot_congr {next : EnforcementService} (hepoch : next.epoch = service.epoch) :
    next.slot = service.slot := by
  funext who deadline
  unfold slot bucketOf
  rw [hepoch]

lemma KeepsTerms.command (hkeeps : KeepsTerms [] service history) (io : Io)
    (haddress : ∀ network ∈ cmd.cidr, cmd.ip = network.addr) :
    KeepsTerms [] (service.enforce io cmd).2 (history ++ service.commandEvents io cmd) := by
  obtain ⟨hdisposed, hspecified⟩ := enforce_disposed hkeeps.wellFormed io cmd
  have hslot := slot_congr hdisposed.epoch
  have hown : cmd.detainee.address = cmd.ip := by
    unfold EnforceCommand.detainee
    cases hcidr : cmd.cidr with
    | none => rfl
    | some network => exact (haddress network hcidr).symm
  refine ⟨hdisposed.wellFormed, ?_⟩
  intro who term hterm
  unfold commandEvents at hterm
  split at hterm
  next heffect =>
    -- The event of the command is the latest about its detainee, and about no other.
    have hevent := cmd.event_who io.clock
    by_cases hwho : who = cmd.detainee
    · rw [hwho, ← hevent, termOf_snoc_self] at hterm
      rw [hwho, hown, hdisposed.lease, if_pos heffect, hslot]
      exact ⟨hspecified heffect, .inr (leaseGiven_eq hterm)⟩
    · rw [termOf_snoc_of_ne history (hevent ▸ hwho)] at hterm
      rw [hdisposed.other hwho, hslot]
      exact hkeeps.armed hterm
  next hidle =>
    rw [append_nil] at hterm
    obtain ⟨hreal, hlease⟩ := hkeeps.armed hterm
    refine ⟨hreal, ?_⟩
    by_cases hwho : who = cmd.detainee
    · rw [hwho, hdisposed.lease, if_neg hidle, hslot, ← hwho]
      exact hlease
    · rw [hdisposed.other hwho, hslot]
      exact hlease

lemma KeepsTerms.release {who : Detainee} {waiting : List Detainee}
    (hkeeps : KeepsTerms (who :: waiting) service history) (io : Io)
    (hfresh : service.processedResults.lookup io.freshId = none) :
    KeepsTerms waiting (service.attempt (io, who))
      (history ++ service.attemptEvents (io, who)) := by
  obtain ⟨hwf, hepoch, hframe⟩ := attempt_frame hkeeps.wellFormed (io, who)
  have hslot := slot_congr hepoch
  have hattempted := attempt_attempted hkeeps.wellFormed io who hfresh
  generalize service.attemptEvents (io, who) = events at hattempted ⊢
  refine ⟨hwf, ?_⟩
  intro other term hterm
  by_cases hother : other = who
  · subst hother
    cases hattempted with
    | released hlease hfree => cases (termOf_snoc_self history (.released other)).symm.trans hterm
    | failed hlease hwal =>
      obtain ⟨before, hbefore, rfl⟩ := Option.map_eq_some_iff.mp
        ((termOf_snoc_self history (.failed other io.clock.mono)).symm.trans hterm)
      refine ⟨(hkeeps.armed hbefore).1, .inr ?_⟩
      rw [hlease, hslot]
      rfl
    | dropped hunspecified =>
      rw [append_nil] at hterm
      rw [(hkeeps.armed hterm).1] at hunspecified
      cases hunspecified
  · have hbefore : termOf history other = some term := by
      cases hattempted with
      | released => exact (termOf_snoc_of_ne history hother).symm.trans hterm
      | failed => exact (termOf_snoc_of_ne history hother).symm.trans hterm
      | dropped => rwa [append_nil] at hterm
    obtain ⟨hreal, hlease⟩ := hkeeps.armed hbefore
    rw [hframe other hother, hslot]
    exact ⟨hreal, hlease.imp_left fun hmem => (mem_cons.mp hmem).resolve_left hother⟩

def Fresh (service : EnforcementService) (pair : Io × Detainee) : Prop :=
  service.processedResults.lookup pair.1.freshId = none

lemma KeepsTerms.pass (hkeeps : KeepsTerms (pairs.map Prod.snd) service history)
    (hfresh : Respects attempt Fresh service pairs) :
    KeepsTerms [] (run attempt service pairs) (history ++ passEvents service pairs) := by
  induction pairs generalizing service history with
  | nil =>
    rw [passEvents, append_nil]
    exact hkeeps
  | cons pair pairs ih =>
    rw [passEvents, ← append_assoc]
    exact ih (hkeeps.release pair.1 hfresh.1) hfresh.2

/-- Taking the due leases off the ring leaves the others. -/
lemma KeepsTerms.drain (hkeeps : KeepsTerms [] service history) (ios : Nat → Io)
    (networks : IterOrder IpNetwork) :
    KeepsTerms ((service.attempts ios networks).map Prod.snd) (service.drained ios) history := by
  have hdrained := hkeeps.wellFormed.drainDue (((ios 0).clock.mono - service.epoch) / secNs)
  refine ⟨hdrained.wellFormed, fun {who term} hterm => ?_⟩
  obtain ⟨hreal, hlease⟩ := hkeeps.armed hterm
  refine ⟨hreal, ?_⟩
  replace hlease := hlease.resolve_left not_mem_nil
  cases who with
  | cidr network => exact .inr hlease
  | ip ip =>
    by_cases hdue : service.bucketOf term.due ≤ ((ios 0).clock.mono - service.epoch) / secNs
    · left
      rw [attempts, ActorStep.map_snd_scheduled, mem_append]
      exact .inl (mem_map_of_mem ((hdrained.mem_iff ip).mpr ⟨_, hlease, hdue⟩))
    · right
      refine (hdrained.lease_eq ip).trans ?_
      rw [show service.leases.lease ip = some (service.bucketOf term.due) from hlease,
        Option.filter_some, if_pos (decide_eq_true (Nat.lt_of_not_le hdue))]
      rfl

lemma bucket_reached {deadline now epoch : Nat} (hlate : deadline + secNs ≤ now) :
    divCeil (deadline - epoch) secNs ≤ (now - epoch) / secNs := by
  unfold divCeil secNs at *
  omega

lemma mem_attempts (hwf : service.leases.WellFormed) {who : Detainee} {due : Instant}
    (hlease : (service.custody who).lease = some (service.slot who due)) {ios : Nat → Io}
    (hlate : ∀ index, due + secNs ≤ (ios index).clock.mono) (networks : IterOrder IpNetwork) :
    who ∈ (service.attempts ios networks).map Prod.snd := by
  have hdrained := hwf.drainDue (((ios 0).clock.mono - service.epoch) / secNs)
  rw [attempts, ActorStep.map_snd_scheduled, mem_append]
  cases who with
  | ip ip =>
    refine .inl (mem_map_of_mem ((hdrained.mem_iff ip).mpr ⟨_, hlease, ?_⟩))
    exact bucket_reached (hlate 0)
  | cidr network =>
    refine .inr (mem_map_of_mem (networks.mem_enum.mpr ?_))
    have hexpiry : service.cidrExpirations.lookup network = some due := hlease
    rw [dueCidrs, Finset.mem_filter, hexpiry]
    exact ⟨Table.mem_keys_iff_lookup.mpr ⟨due, hexpiry⟩,
      decide_eq_true (Nat.le_trans (Nat.le_add_right _ _) (hlate _))⟩

lemma nodup_attempts (hwf : service.leases.WellFormed) (ios : Nat → Io)
    (networks : IterOrder IpNetwork) : ((service.attempts ios networks).map Prod.snd).Nodup := by
  have hdrained := hwf.drainDue (((ios 0).clock.mono - service.epoch) / secNs)
  rw [attempts, ActorStep.map_snd_scheduled, nodup_append]
  refine ⟨?_, ?_, ?_⟩
  · exact hdrained.nodup.map fun _ _ heq => Detainee.ip.inj heq
  · exact (networks.nodup_enum _).map fun _ _ heq => Detainee.cidr.inj heq
  · intro who hip other hcidr heq
    obtain ⟨_, _, rfl⟩ := mem_map.mp hip
    obtain ⟨_, _, rfl⟩ := mem_map.mp hcidr
    cases heq

lemma attempt_fresh {pair other : Io × Detainee} (hne : other.1.freshId ≠ pair.1.freshId)
    (hfresh : service.Fresh other) : (service.attempt pair).Fresh other := by
  obtain ⟨io, who⟩ := pair
  have hdisarmed : (service.disarmed who).processedResults.lookup other.1.freshId = none := by
    cases who <;> exact hfresh
  have hafter : ((service.disarmed who).enforce io
      (ttlUnblock io who.address who.network)).2.processedResults.lookup other.1.freshId = none :=
    lookup_enforceInner_of_none io none .append hne hdisarmed
  refine attempt_keeps io who hafter fun _ hnext => ?_
  cases who <;> exact hnext

/-- Distinct new decisions are new when their turn comes. -/
lemma respects_fresh (hdistinct : (pairs.map fun pair => pair.1.freshId).Nodup)
    (hfresh : ∀ pair ∈ pairs, service.Fresh pair) : Respects attempt Fresh service pairs := by
  induction pairs generalizing service with
  | nil => trivial
  | cons pair pairs ih =>
    rw [map_cons, nodup_cons] at hdistinct
    refine ⟨hfresh pair mem_cons_self, ih hdistinct.2 fun other hmem => ?_⟩
    have hne : other.1.freshId ≠ pair.1.freshId := fun heq =>
      hdistinct.1 (heq ▸ mem_map_of_mem hmem)
    exact attempt_fresh hne (hfresh other (mem_cons_of_mem _ hmem))

end EnforcementService

/-! ## Runs -/

/-- What the service does without a mesh, and the rest of the program to the store. -/
inductive DetentionStep
  | command (io : Io) (cmd : EnforceCommand)
  | expire (ios : Nat → Io) (networks : IterOrder IpNetwork)
  | elsewhere (store : Store)

namespace DetentionStep

def step (service : EnforcementService) : DetentionStep → EnforcementService
  | .command io cmd => (service.enforce io cmd).2
  | .expire ios networks => service.expireDue ios networks
  | .elsewhere store => service.withStore store

def events (service : EnforcementService) : DetentionStep → List DetentionEvent
  | .command io cmd => service.commandEvents io cmd
  | .expire ios networks =>
    EnforcementService.passEvents (service.drained ios) (service.attempts ios networks)
  | .elsewhere _ => []

variable (state : EnforcementService × List DetentionEvent)

def watch (action : DetentionStep) : EnforcementService × List DetentionEvent :=
  (action.step state.1, state.2 ++ action.events state.1)

/-- Commands on prefixes carry the network address, and the decisions of a pass are new. -/
def Regular : DetentionStep → Prop
  | .command _ cmd => ∀ network ∈ cmd.cidr, cmd.ip = network.addr
  | .expire ios networks =>
    ((state.1.attempts ios networks).map fun pair => pair.1.freshId).Nodup ∧
      ∀ pair ∈ state.1.attempts ios networks, state.1.processedResults.lookup pair.1.freshId = none
  | .elsewhere _ => True

lemma watch_keepsTerms (action : DetentionStep) (hkeeps : state.1.KeepsTerms [] state.2)
    (hregular : Regular state action) :
    (watch state action).1.KeepsTerms [] (watch state action).2 := by
  obtain ⟨service, history⟩ := state
  cases action with
  | command io cmd => exact hkeeps.command io hregular
  | expire ios networks =>
    change (service.expireDue ios networks).KeepsTerms [] _
    rw [EnforcementService.expireDue_eq_attempts]
    exact (hkeeps.drain ios networks).pass (EnforcementService.respects_fresh hregular.1 hregular.2)
  | elsewhere store =>
    change (service.withStore store).KeepsTerms [] (history ++ [])
    rw [append_nil]
    refine ⟨hkeeps.wellFormed, fun {who term} hterm => ?_⟩
    obtain ⟨hreal, hlease⟩ := hkeeps.armed hterm
    cases who <;> exact ⟨hreal, hlease⟩

end DetentionStep

namespace EnforcementService

lemma KeepsTerms.ends {service : EnforcementService} {history : List DetentionEvent}
    (hkeeps : service.KeepsTerms [] history) {who : Detainee} {term : Term}
    (hterm : termOf history who = some term) {ios : Nat → Io} {networks : IterOrder IpNetwork}
    (hregular : DetentionStep.Regular (service, history) (.expire ios networks))
    (hwal : ∀ index, (ios index).walFailure = none)
    (hlate : ∀ index, term.due + secNs ≤ (ios index).clock.mono) :
    ((service.expireDue ios networks).custody who).lease = none ∧
      ∀ now, (∀ index, (ios index).clock.mono ≤ now) →
        (service.expireDue ios networks).detains now who = false := by
  obtain ⟨hreal, hlease⟩ := hkeeps.armed hterm
  have hmem := mem_attempts hkeeps.wellFormed (hlease.resolve_left not_mem_nil) hlate networks
  obtain ⟨⟨io, detainee⟩, hpair, rfl⟩ := mem_map.mp hmem
  obtain ⟨index, rfl⟩ := exists_of_mem_scheduled hpair
  have hdrained := (hkeeps.drain ios networks).wellFormed
  -- The release of the detainee meets it as the pass found it, and nothing after it matters.
  obtain ⟨middle, hmiddle, hfresh, _, hlast⟩ := view_run_of_mem
    (fun state pair hstate => (attempt_frame hstate pair).1)
    (fun state pair hstate => (attempt_frame hstate pair).2.2) hdrained
    (nodup_attempts hkeeps.wellFormed ios networks)
    (respects_fresh hregular.1 hregular.2) hpair
  rw [← expireDue_eq_attempts] at hlast
  have hattempted := attempt_attempted hmiddle (ios index) detainee hfresh
  generalize middle.attemptEvents (ios index, detainee) = events at hattempted
  cases hattempted with
  | released hfreed hfree =>
    refine ⟨hlast ▸ hfreed, fun now hnow => ?_⟩
    rw [detains_eq, hlast]
    exact hfree now (hnow index)
  | failed _ hfailed => exact absurd (hwal index) (hfailed hreal)
  | dropped hunspecified =>
    rw [hreal] at hunspecified
    cases hunspecified

end EnforcementService

/-- Temporary detentions end. In every run the lease of every detainee that serves a term
is armed, at the deadline or one second after the last release that failed; and an expiry
pass that runs one second after the deadline and two seconds after the last failure, with
a working log, ends the detention. -/
theorem DetentionStep.detention_ends {service : EnforcementService}
    (hwf : service.leases.WellFormed) {steps : List DetentionStep}
    (hregular : Respects watch Regular (service, []) steps) :
    let state := run watch (service, []) steps
    ∀ (who : Detainee) (term : Term), termOf state.2 who = some term →
      (state.1.custody who).lease = some (state.1.slot who term.due) ∧
      ∀ (ios : Nat → Io) (networks : IterOrder IpNetwork),
        Regular state (.expire ios networks) →
        (∀ index, (ios index).walFailure = none) →
        (∀ index, term.deadline + secNs ≤ (ios index).clock.mono) →
        (∀ time ∈ term.lastFailure, ∀ index, time + 2 * secNs ≤ (ios index).clock.mono) →
          ((state.1.expireDue ios networks).custody who).lease = none ∧
          ∀ now, (∀ index, (ios index).clock.mono ≤ now) →
            (state.1.expireDue ios networks).detains now who = false := by
  intro state who term hterm
  have hstart : service.KeepsTerms [] [] := ⟨hwf, fun hnone => nomatch hnone⟩
  have hkeeps : state.1.KeepsTerms [] state.2 :=
    (Along.of_respects watch_keepsTerms hstart hregular).last
  refine ⟨(hkeeps.armed hterm).2.resolve_left not_mem_nil, ?_⟩
  intro ios networks hpass hwal hdeadline hfailure
  refine hkeeps.ends hterm hpass hwal fun index => ?_
  unfold Term.due
  cases hlast : term.lastFailure with
  | none => exact hdeadline index
  | some time =>
    calc
      time + secNs + secNs = time + 2 * secNs := by rw [Nat.add_assoc, Nat.two_mul]
      _ ≤ (ios index).clock.mono := hfailure time hlast index

/-- The log fails when the term of an address ends, and works two seconds later. -/
theorem DetentionStep.detention_ends_retried :
    let service := (EnforcementService.new (Store.new.setRamLimitMb 1) 0).withWal .empty
    let who := Detainee.ip (.v4 1)
    let block := DetentionStep.command (.at ⟨0, 0⟩ 0) (.operator 1 .block (.v4 1) 1)
    let failing := DetentionStep.expire
      (fun _ => { Io.at ⟨2 * secNs, 0⟩ 2 with walFailure := some "disk full" }) IpNetwork.sorted
    let state := run watch (service, []) [block, failing]
    let later := fun _ : Nat => Io.at ⟨4 * secNs, 0⟩ 3
    termOf state.2 who = some ⟨secNs, some (2 * secNs)⟩ ∧
      state.1.detains (4 * secNs) who = true ∧
      (state.1.expireDue later IpNetwork.sorted).detains (4 * secNs) who = false := by
  intro service who block failing state later
  have hterm : termOf state.2 who = some ⟨secNs, some (2 * secNs)⟩ := by decide +kernel
  have hregular : Respects watch Regular (service, []) [block, failing] :=
    ⟨nofun, ⟨by decide +kernel, by decide +kernel⟩, trivial⟩
  obtain ⟨_, hends⟩ := detention_ends DeadlineQueue.empty_wellFormed hregular who _ hterm
  obtain ⟨_, hfree⟩ := hends later IpNetwork.sorted ⟨by decide +kernel, by decide +kernel⟩
    (fun _ => rfl) (fun _ => by decide) (fun time htime _ => by cases htime; decide)
  exact ⟨hterm, by decide +kernel, hfree _ fun _ => Nat.le_refl _⟩

end RamShield
