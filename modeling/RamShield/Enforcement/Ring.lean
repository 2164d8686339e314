import RamShield.Enforcement.Acts

/-! # The ring of leases over whole histories

The calls on the ring of leases, in any order and with anything else happening to
the service in between. A history records every schedule, every detach and every
address that a pass hands to the unblock command. The ring is always the picture
of the history: an address waits in the bucket of the last deadline it was given,
unless it was detached or handed over since.
-/

namespace RamShield

open Foundation Foundation.Machine List

/-- A call on the ring. Between two calls the rest of the service may change in any
way. -/
inductive RingCall
  | schedule (ip : IpAddr) (deadline : Instant)
  | detach (ip : IpAddr)
  | expire (ios : Nat → Io) (networks : IterOrder IpNetwork)
  | elsewhere (other : EnforcementService)

/-- What happens to an address in the ring. -/
inductive RingEvent
  | scheduled (ip : IpAddr) (deadline : Instant)
  | detached (ip : IpAddr)
  | handed (ip : IpAddr) (now : Instant)
  deriving DecidableEq

def RingEvent.ip : RingEvent → IpAddr
  | .scheduled ip _ => ip
  | .detached ip => ip
  | .handed ip _ => ip

def RingEvent.deadline : RingEvent → Option Instant
  | .scheduled _ deadline => some deadline
  | _ => none

def lastEvent (history : List RingEvent) (ip : IpAddr) : Option RingEvent :=
  (history.filter fun event => event.ip = ip).getLast?

def armed (history : List RingEvent) (ip : IpAddr) : Option Instant :=
  (lastEvent history ip).bind RingEvent.deadline

namespace EnforcementService

def rearmed (service : EnforcementService) (io : Io) (ip : IpAddr) : List RingEvent :=
  match (service.enforce io (ttlUnblock io ip none)).1 with
  | .ok _ => []
  | .error (.invalidCommand _) => []
  | .error _ => [.scheduled ip (io.clock.mono + secNs)]

/-- The events of a pass after its drain, which took the addresses out of the ring. -/
def handings (now : Instant) : EnforcementService → List (Io × IpAddr) → List RingEvent
  | _, [] => []
  | service, (io, ip) :: rest =>
    .handed ip now :: (service.rearmed io ip ++ handings now (service.expireIp io ip) rest)

end EnforcementService

namespace RingCall

def step (service : EnforcementService) : RingCall → EnforcementService
  | .schedule ip deadline => service.scheduleExpiration ip deadline
  | .detach ip => service.detachExpiration ip
  | .expire ios networks => service.expireDue ios networks
  | .elsewhere other => { other with leases := service.leases, epoch := service.epoch }

def events (service : EnforcementService) : RingCall → List RingEvent
  | .schedule ip deadline => [.scheduled ip deadline]
  | .detach ip => [.detached ip]
  | .expire ios _ =>
    let (due, leases) := service.leases.drainDue (((ios 0).clock.mono - service.epoch) / secNs)
    EnforcementService.handings (ios 0).clock.mono { service with leases := leases }
      (scheduled ios 0 due)
  | .elsewhere _ => []

def watch (state : EnforcementService × List RingEvent) (call : RingCall) :
    EnforcementService × List RingEvent :=
  (call.step state.1, state.2 ++ call.events state.1)

def After (epoch : Instant) : RingCall → Prop
  | .expire ios _ => epoch ≤ (ios 0).clock.mono
  | _ => True

end RingCall

/-! ## Histories -/

variable (history : List RingEvent)
variable {epoch : Instant} (event : RingEvent)

lemma armed_snoc (ip : IpAddr) :
    armed (history ++ [event]) ip =
      if ip = event.ip then event.deadline else armed history ip := by
  unfold armed lastEvent
  split
  next hip => simp [hip]
  next hip => simp [Ne.symm hip]

lemma armed_iff {history : List RingEvent} {ip : IpAddr} {deadline : Instant} :
    armed history ip = some deadline ↔ lastEvent history ip = some (.scheduled ip deadline) := by
  unfold armed
  cases hlast : lastEvent history ip with
  | none => simp
  | some event =>
    have hip : event.ip = ip := by
      have hmem := mem_of_getLast? hlast
      simpa using (mem_filter.mp hmem).2
    subst hip
    cases event <;> simp [RingEvent.ip, RingEvent.deadline]

lemma deadline_le {deadline now : Instant} (hafter : epoch ≤ now)
    (hreached : divCeil (deadline - epoch) secNs ≤ (now - epoch) / secNs) : deadline ≤ now :=
  calc
    deadline ≤ epoch + divCeil (deadline - epoch) secNs * secNs :=
      EnforcementService.le_bucket_end deadline epoch
    _ ≤ epoch + (now - epoch) / secNs * secNs :=
      Nat.add_le_add_left (Nat.mul_le_mul_right secNs hreached) epoch
    _ ≤ epoch + (now - epoch) := Nat.add_le_add_left (Nat.div_mul_le_self _ _) epoch
    _ = now := Nat.add_sub_cancel' hafter

def Punctual (epoch : Instant) (past : List RingEvent) : RingEvent → Prop
  | .handed ip now => ∃ deadline, armed past ip = some deadline ∧ deadline ≤ now ∧
      divCeil (deadline - epoch) secNs ≤ (now - epoch) / secNs
  | _ => True

def InOrder (epoch : Instant) (past events : List RingEvent) : Prop :=
  Respects (fun past event => past ++ [event]) (Punctual epoch) past events

lemma run_snoc {Event : Type} (past events : List Event) :
    run (fun past event => past ++ [event]) past events = past ++ events := by
  induction events generalizing past with
  | nil => rw [run_nil, append_nil]
  | cons event events ih => rw [run_cons, ih, append_assoc, singleton_append]

lemma inOrder_append {past first second : List RingEvent} :
    InOrder epoch past (first ++ second) ↔
      InOrder epoch past first ∧ InOrder epoch (past ++ first) second := by
  unfold InOrder
  rw [respects_append, run_snoc]

/-! ## One unblock -/

namespace EnforcementService

variable {service : EnforcementService} {history} {now : Instant}

lemma Executed.ring {next : EnforcementService} {io : Io} {cmd : EnforceCommand}
    {mutation : Option PendingMeshMutation} {durability : WalDurability}
    {result : Except EnforcementError EnforceResult} (haction : cmd.action = .unblock)
    (hexecuted : Executed service io cmd mutation durability result next) :
    next.epoch = service.epoch ∧
      (next.leases = service.leases ∨
        cmd.cidr = none ∧ next.leases = service.leases.detach cmd.ip) := by
  refine hexecuted.keeps ⟨rfl, .inl rfl⟩ (fun {_ journalled} hjournal => ?_)
    fun {done} walLsn hdone => ?_
  · have hstanding := journalCommand_standing hjournal
    generalize journalled.mergeMutation io mutation = middle at hstanding ⊢
    have hepoch : middle.epoch = service.epoch := congrArg Standing.epoch hstanding
    have hleases : middle.leases = service.leases := congrArg Standing.leases hstanding
    rw [← hepoch, ← hleases]
    unfold commit
    rw [haction]
    cases hcidr : cmd.cidr with
    | some network => exact ⟨rfl, .inl rfl⟩
    | none =>
      dsimp only
      unfold releaseIp
      split
      · exact ⟨rfl, .inl rfl⟩
      dsimp only
      split <;> exact ⟨rfl, .inr ⟨rfl, rfl⟩⟩
  · have hfinish := done.finish_standing io cmd walLsn
    rw [if_neg (by simp [haction])] at hfinish
    have hepoch : (done.finish io cmd walLsn).epoch = done.epoch := congrArg Standing.epoch hfinish
    have hleases : (done.finish io cmd walLsn).leases = done.leases :=
      congrArg Standing.leases hfinish
    rw [hepoch, hleases]
    exact hdone

structure Handed (service : EnforcementService) (io : Io) (ip : IpAddr)
    (next : EnforcementService) : Prop where
  epoch : next.epoch = service.epoch
  wellFormed : next.leases.WellFormed
  own : next.leases.lease ip = (armed (service.rearmed io ip) ip).map service.bucketOf
  other {address : IpAddr} (hne : address ≠ ip) :
    next.leases.lease address = service.leases.lease address

lemma lease_enforce_ttlUnblock (hwf : service.leases.WellFormed) (io : Io) {ip : IpAddr}
    (hfree : service.leases.lease ip = none) :
    (service.enforce io (ttlUnblock io ip none)).2.epoch = service.epoch ∧
      (service.enforce io (ttlUnblock io ip none)).2.leases.WellFormed ∧
      ∀ address, (service.enforce io (ttlUnblock io ip none)).2.leases.lease address =
        service.leases.lease address := by
  have hexecuted := service.enforceInner_executed io (ttlUnblock io ip none) none .append
  obtain ⟨hepoch, hring⟩ := hexecuted.ring rfl
  refine ⟨hepoch, ?_⟩
  rcases hring with hsame | ⟨_, hdetached⟩
  · exact ⟨hsame ▸ hwf, fun address => congrArg (fun leases => leases.lease address) hsame⟩
  · refine ⟨hdetached ▸ hwf.detach _, fun address => ?_⟩
    refine (congrArg (fun leases => leases.lease address) hdetached).trans ?_
    rw [hwf.lease_detach]
    split
    next heq =>
      rw [heq]
      exact hfree.symm
    · rfl

lemma expireIp_handed (hwf : service.leases.WellFormed) (io : Io) {ip : IpAddr}
    (hfree : service.leases.lease ip = none) : Handed service io ip (service.expireIp io ip) := by
  obtain ⟨hepoch, hnext, hlease⟩ := lease_enforce_ttlUnblock hwf io hfree
  have hnothing (hrearmed : service.rearmed io ip = []) :
      Handed service io ip (service.enforce io (ttlUnblock io ip none)).2 :=
    ⟨hepoch, hnext, by rw [hrearmed, hlease, hfree]; rfl, fun _ => hlease _⟩
  unfold expireIp
  -- Only an error other than that of an invalid command arms the address again.
  generalize houtcome : service.enforce io (ttlUnblock io ip none) = outcome at *
  split
  · apply hnothing
    rw [rearmed, houtcome]
  · apply hnothing
    rw [rearmed, houtcome]
  next error next hvalid =>
    have hrearmed : service.rearmed io ip = [.scheduled ip (io.clock.mono + secNs)] := by
      rw [rearmed, houtcome]
      cases error with
      | invalidCommand message => exact absurd rfl (hvalid message)
      | _ => rfl
    refine ⟨hepoch, hnext.schedule ip _, ?_, ?_⟩
    · have harmed : armed (service.rearmed io ip) ip = some (io.clock.mono + secNs) := by
        rw [hrearmed]
        exact (armed_snoc [] _ ip).trans (if_pos rfl)
      rw [harmed]
      refine (hnext.lease_schedule ip ip _).trans ?_
      rw [if_pos rfl]
      exact congrArg (fun epoch => some (divCeil (io.clock.mono + secNs - epoch) secNs)) hepoch
    · intro address hne
      refine (hnext.lease_schedule ip address _).trans ?_
      rw [if_neg hne]
      exact hlease address

section

variable (service) (io : Io)

lemma rearmed_cases (ip : IpAddr) :
    service.rearmed io ip = [] ∨
      service.rearmed io ip = [.scheduled ip (io.clock.mono + secNs)] := by
  unfold rearmed
  split
  · exact .inl rfl
  · exact .inl rfl
  · exact .inr rfl

lemma armed_handed (history : List RingEvent) (ip : IpAddr) (now : Instant) (other : IpAddr) :
    armed (history ++ .handed ip now :: service.rearmed io ip) other =
      if other = ip then armed (service.rearmed io ip) ip else armed history other := by
  have hhanded := armed_snoc history (.handed ip now) other
  rcases service.rearmed_cases io ip with hnone | hagain
  · rw [hnone]
    exact hhanded
  · rw [hagain, append_cons, armed_snoc, hhanded, ← nil_append [_], armed_snoc]
    by_cases hip : other = ip
    · simp [hip, RingEvent.ip]
    · simp [hip, RingEvent.ip]

end

/-! ## A pass -/

structure Mirrors (service : EnforcementService) (history : List RingEvent) : Prop where
  wellFormed : service.leases.WellFormed
  lease_eq (ip : IpAddr) : service.leases.lease ip = (armed history ip).map service.bucketOf

lemma Mirrors.snoc (hmirrors : service.Mirrors history) {leases : DeadlineQueue IpAddr}
    (hwf : leases.WellFormed) (event : RingEvent)
    (hlease : ∀ ip, leases.lease ip = if ip = event.ip then event.deadline.map service.bucketOf
      else service.leases.lease ip) :
    Mirrors { service with leases := leases } (history ++ [event]) := by
  refine ⟨hwf, fun ip => (hlease ip).trans ?_⟩
  rw [armed_snoc]
  split
  · rfl
  · exact hmirrors.lease_eq ip

/-- In the middle of a pass: some addresses were drained and are not handed over yet. -/
structure Midway (now : Instant) (waiting : List IpAddr) (service : EnforcementService)
    (history : List RingEvent) : Prop where
  wellFormed : service.leases.WellFormed
  nodup : waiting.Nodup
  waits {ip : IpAddr} (hwaits : ip ∈ waiting) : service.leases.lease ip = none ∧
    ∃ deadline, armed history ip = some deadline ∧
      service.bucketOf deadline ≤ (now - service.epoch) / secNs
  settled {ip : IpAddr} (hsettled : ip ∉ waiting) :
    service.leases.lease ip = (armed history ip).map service.bucketOf

lemma Mirrors.drain (hmirrors : service.Mirrors history) (now : Instant) :
    Midway now (service.leases.drainDue ((now - service.epoch) / secNs)).1
      { service with leases := (service.leases.drainDue ((now - service.epoch) / secNs)).2 }
      history := by
  have hdrained := hmirrors.wellFormed.drainDue ((now - service.epoch) / secNs)
  refine ⟨hdrained.wellFormed, hdrained.nodup, ?_, ?_⟩
  · intro ip hwaits
    obtain ⟨bucket, hlease, hdue⟩ := (hdrained.mem_iff ip).mp hwaits
    refine ⟨?_, ?_⟩
    · refine (hdrained.lease_eq ip).trans ?_
      rw [hlease, Option.filter_some, if_neg (by simpa using hdue)]
    · rw [hmirrors.lease_eq, Option.map_eq_some_iff] at hlease
      obtain ⟨deadline, harmed, rfl⟩ := hlease
      exact ⟨deadline, harmed, hdue⟩
  · intro ip hsettled
    refine Eq.trans ?_ (hmirrors.lease_eq ip)
    refine (hdrained.lease_eq ip).trans ?_
    cases hlease : service.leases.lease ip with
    | none => rfl
    | some bucket =>
      have hlate : (now - service.epoch) / secNs < bucket := by
        by_contra hdue
        exact hsettled ((hdrained.mem_iff ip).mpr ⟨bucket, hlease, Nat.le_of_not_lt hdue⟩)
      rw [Option.filter_some, if_pos (decide_eq_true hlate)]

lemma Midway.hand {ip : IpAddr} {waiting : List IpAddr}
    (hmidway : Midway now (ip :: waiting) service history) (io : Io) :
    Midway now waiting (service.expireIp io ip)
      (history ++ .handed ip now :: service.rearmed io ip) := by
  obtain ⟨hfree, _⟩ := hmidway.waits mem_cons_self
  have hhanded := expireIp_handed hmidway.wellFormed io hfree
  have hbucket : (service.expireIp io ip).bucketOf = service.bucketOf := by
    funext deadline
    unfold bucketOf
    rw [hhanded.epoch]
  obtain ⟨hfirst, hrest⟩ := nodup_cons.mp hmidway.nodup
  refine ⟨hhanded.wellFormed, hrest, ?_, ?_⟩
  · intro other hwaits
    have hne : other ≠ ip := fun heq => hfirst (heq ▸ hwaits)
    rw [hhanded.other hne, armed_handed, if_neg hne, hbucket, hhanded.epoch]
    exact hmidway.waits (mem_cons_of_mem _ hwaits)
  · intro other hsettled
    rw [hbucket, armed_handed]
    split
    next heq => rw [heq, hhanded.own]
    next heq =>
      rw [hhanded.other heq]
      exact hmidway.settled fun hmem => (mem_cons.mp hmem).elim heq hsettled

variable {pairs : List (Io × IpAddr)} {ios : Nat → Io}

lemma Midway.pass (hmidway : Midway now (pairs.map Prod.snd) service history)
    (hafter : service.epoch ≤ now) :
    let next := run (fun service pair => expireIp service pair.1 pair.2) service pairs
    next.epoch = service.epoch ∧ next.Mirrors (history ++ handings now service pairs) ∧
      InOrder service.epoch history (handings now service pairs) := by
  induction pairs generalizing service history with
  | nil =>
    rw [handings, append_nil]
    exact ⟨rfl, ⟨hmidway.wellFormed, fun ip => hmidway.settled not_mem_nil⟩, trivial⟩
  | cons pair pairs ih =>
    obtain ⟨io, ip⟩ := pair
    rw [map_cons] at hmidway
    obtain ⟨hfree, deadline, harmed, hdue⟩ := hmidway.waits mem_cons_self
    have hepoch := (expireIp_handed hmidway.wellFormed io hfree).epoch
    obtain ⟨hnext, hmirrors, horder⟩ := ih (hmidway.hand io) (hepoch ▸ hafter)
    rw [hepoch] at hnext horder
    have hevents : handings now service ((io, ip) :: pairs) =
        (.handed ip now :: service.rearmed io ip) ++
          handings now (service.expireIp io ip) pairs := rfl
    rw [hevents, ← append_assoc]
    refine ⟨hnext, hmirrors, inOrder_append.mpr
      ⟨⟨⟨deadline, harmed, deadline_le hafter hdue, hdue⟩, ?_⟩, horder⟩⟩
    rcases service.rearmed_cases io ip with hnone | hagain
    · rw [hnone]
      trivial
    · rw [hagain]
      exact ⟨trivial, trivial⟩

lemma expireCidr_ring (service : EnforcementService) (io : Io) (network : IpNetwork) :
    (service.expireCidr io network).epoch = service.epoch ∧
      (service.expireCidr io network).leases = service.leases := by
  have hexecuted := enforceInner_executed
    { service with cidrExpirations := service.cidrExpirations.erase network } io
    (ttlUnblock io network.addr (some network)) none .append
  obtain ⟨hepoch, hring⟩ := hexecuted.ring rfl
  obtain ⟨expirations, hnext⟩ := service.expireCidr_writes io network
  rw [hnext]
  exact ⟨hepoch, hring.resolve_right fun hnone => by cases hnone.1⟩

lemma Mirrors.cidrs (hmirrors : service.Mirrors history) (pairs : List (Io × IpNetwork)) :
    let next := run (fun service pair => expireCidr service pair.1 pair.2) service pairs
    next.epoch = service.epoch ∧ next.Mirrors history := by
  induction pairs generalizing service with
  | nil => exact ⟨rfl, hmirrors⟩
  | cons pair pairs ih =>
    obtain ⟨hepoch, hleases⟩ := service.expireCidr_ring pair.1 pair.2
    have hnext : (service.expireCidr pair.1 pair.2).Mirrors history := by
      refine ⟨hleases ▸ hmirrors.wellFormed, fun ip => ?_⟩
      unfold bucketOf
      rw [hleases, hepoch]
      exact hmirrors.lease_eq ip
    obtain ⟨hlast, hmirrored⟩ := ih hnext
    exact ⟨hlast.trans hepoch, hmirrored⟩

/-- A whole pass. -/
lemma Mirrors.expireDue (hmirrors : service.Mirrors history)
    (hafter : service.epoch ≤ (ios 0).clock.mono) (networks : IterOrder IpNetwork) :
    (service.expireDue ios networks).epoch = service.epoch ∧
      (service.expireDue ios networks).Mirrors
        (history ++ (RingCall.expire ios networks).events service) ∧
      InOrder service.epoch history ((RingCall.expire ios networks).events service) := by
  have hmidway := hmirrors.drain (ios 0).clock.mono
  rw [RingCall.events]
  unfold EnforcementService.expireDue
  generalize service.leases.drainDue (((ios 0).clock.mono - service.epoch) / secNs) = drained
    at hmidway ⊢
  obtain ⟨due, leases⟩ := drained
  dsimp only at hmidway ⊢
  rw [eachDue_eq_run, eachDue_eq_run]
  have hpairs := ActorStep.map_snd_scheduled ios 0 due
  rw [← hpairs] at hmidway
  obtain ⟨hepoch, hmirrored, horder⟩ := hmidway.pass hafter
  obtain ⟨hlast, hfinal⟩ := hmirrored.cidrs _
  exact ⟨hlast.trans hepoch, hfinal, horder⟩

lemma mem_handings {ip : IpAddr} (hmem : ip ∈ pairs.map Prod.snd) (service : EnforcementService) :
    .handed ip now ∈ handings now service pairs := by
  induction pairs generalizing service with
  | nil => cases hmem
  | cons pair pairs ih =>
    rw [handings]
    rcases mem_cons.mp hmem with rfl | hlater
    · exact mem_cons_self
    · exact mem_cons_of_mem _ (mem_append_right _ (ih hlater _))

lemma Mirrors.handed_of_due (hmirrors : service.Mirrors history) {networks : IterOrder IpNetwork}
    {ip : IpAddr} {deadline : Instant} (harmed : armed history ip = some deadline)
    (hdue : service.bucketOf deadline ≤ ((ios 0).clock.mono - service.epoch) / secNs) :
    .handed ip (ios 0).clock.mono ∈ (RingCall.expire ios networks).events service := by
  have hlease : service.leases.lease ip = some (service.bucketOf deadline) := by
    rw [hmirrors.lease_eq, harmed, Option.map_some]
  apply mem_handings
  rw [ActorStep.map_snd_scheduled]
  exact ((hmirrors.wellFormed.drainDue _).mem_iff ip).mpr ⟨_, hlease, hdue⟩

end EnforcementService

/-! ## Whole histories -/

namespace RingCall

open EnforcementService

lemma step_mirrors {service : EnforcementService} {history : List RingEvent}
    (hmirrors : service.Mirrors history) {call : RingCall} (hafter : call.After service.epoch) :
    (call.step service).epoch = service.epoch ∧
      (call.step service).Mirrors (history ++ call.events service) ∧
      InOrder service.epoch history (call.events service) := by
  cases call with
  | schedule ip deadline =>
    have hsnoc := hmirrors.snoc (hmirrors.wellFormed.schedule ip (service.bucketOf deadline))
      (.scheduled ip deadline) fun other => hmirrors.wellFormed.lease_schedule ip other _
    exact ⟨rfl, hsnoc, trivial, trivial⟩
  | detach ip =>
    have hsnoc := hmirrors.snoc (hmirrors.wellFormed.detach ip) (.detached ip) fun other =>
      hmirrors.wellFormed.lease_detach ip other
    exact ⟨rfl, hsnoc, trivial, trivial⟩
  | expire ios networks => exact hmirrors.expireDue hafter networks
  | elsewhere other =>
    rw [events, append_nil]
    exact ⟨rfl, ⟨hmirrors.wellFormed, hmirrors.lease_eq⟩, trivial⟩

lemma run_mirrors {service : EnforcementService} {history : List RingEvent}
    (hmirrors : service.Mirrors history) (horder : InOrder service.epoch [] history)
    {calls : List RingCall} (hclock : ∀ call ∈ calls, call.After service.epoch) :
    (run watch (service, history) calls).1.epoch = service.epoch ∧
      (run watch (service, history) calls).1.Mirrors (run watch (service, history) calls).2 ∧
      InOrder service.epoch [] (run watch (service, history) calls).2 := by
  induction calls generalizing service history with
  | nil => exact ⟨rfl, hmirrors, horder⟩
  | cons call calls ih =>
    obtain ⟨hepoch, hnext, hevents⟩ := step_mirrors hmirrors (hclock call mem_cons_self)
    rw [run_cons, watch, ← hepoch]
    apply ih hnext
    · rw [hepoch]
      exact inOrder_append.mpr ⟨horder, hevents⟩
    · intro later hlater
      rw [hepoch]
      exact hclock later (mem_cons_of_mem _ hlater)

/-- The ring of leases, over every history of calls with a clock that does not fall
behind the start of the service. Cards and slots describe each other, no address has
two cards, and no bucket is empty. An address is handed over only if the last thing
that happened to it was to be scheduled, at or after its deadline, and by the
first pass at which the whole seconds reach its bucket. -/
theorem ring_punctual (service : EnforcementService) (hempty : service.leases = .empty)
    (calls : List RingCall) (hclock : ∀ call ∈ calls, call.After service.epoch) :
    let final := run watch (service, []) calls
    (∀ ip bucket pos, final.1.leases.slots.lookup ip = some (bucket, pos) ↔
      ∃ cards, final.1.leases.buckets.lookup bucket = some cards ∧ cards[pos]? = some ip) ∧
    (∀ (ip : IpAddr) (bucket bucket' pos pos' : Nat) (cards cards' : List IpAddr),
      final.1.leases.buckets.lookup bucket = some cards → cards[pos]? = some ip →
      final.1.leases.buckets.lookup bucket' = some cards' → cards'[pos']? = some ip →
        bucket = bucket' ∧ pos = pos') ∧
    (∀ bucket, final.1.leases.buckets.lookup bucket ≠ some []) ∧
    (∀ before ip now after, final.2 = before ++ .handed ip now :: after →
      ∃ deadline, lastEvent before ip = some (.scheduled ip deadline) ∧ deadline ≤ now ∧
        service.bucketOf deadline ≤ (now - service.epoch) / secNs) ∧
    ∀ ip deadline ios networks, lastEvent final.2 ip = some (.scheduled ip deadline) →
      service.bucketOf deadline ≤ ((ios 0).clock.mono - service.epoch) / secNs →
        .handed ip (ios 0).clock.mono ∈ (RingCall.expire ios networks).events final.1 := by
  intro final
  have hstart : service.Mirrors [] := by
    refine ⟨?_, fun ip => ?_⟩
    · rw [hempty]
      exact DeadlineQueue.empty_wellFormed
    · rw [hempty, DeadlineQueue.lease_empty]
      rfl
  obtain ⟨hepoch, hmirrors, horder⟩ := run_mirrors hstart trivial hclock
  refine ⟨hmirrors.wellFormed.slot_iff, ?_, ?_, ?_, ?_⟩
  · intro ip bucket bucket' pos pos' cards cards' hcards hpos hcards' hpos'
    exact hmirrors.wellFormed.card_unique (DeadlineQueue.exists_card_iff.mp ⟨_, hcards, hpos⟩)
      (DeadlineQueue.exists_card_iff.mp ⟨_, hcards', hpos'⟩)
  · intro bucket hnil
    exact hmirrors.wellFormed.nonempty hnil rfl
  · intro before ip now after hsplit
    have hall : InOrder service.epoch [] final.2 := horder
    rw [hsplit] at hall
    obtain ⟨deadline, harmed, hdeadline, hreached⟩ := (inOrder_append.mp hall).2.1
    exact ⟨deadline, armed_iff.mp harmed, hdeadline, hreached⟩
  · intro ip deadline ios networks hlast hdue
    apply hmirrors.handed_of_due (armed_iff.mpr hlast)
    unfold bucketOf
    rw [hepoch]
    exact hdue

/-- A lease of one second and a half is handed over at the second second. -/
theorem ring_punctual_lease :
    let service := EnforcementService.new Store.new 0
    let calls := [.schedule (.v4 1) 1500000000,
      .expire (fun n => .at ⟨2000000000, 0⟩ n) IpNetwork.sorted]
    (run watch (service, []) calls).2 =
        [.scheduled (.v4 1) 1500000000, .handed (.v4 1) 2000000000] ∧
      ∃ deadline, lastEvent [.scheduled (.v4 1) 1500000000] (.v4 1) =
        some (.scheduled (.v4 1) deadline) ∧ deadline ≤ 2000000000 ∧
          service.bucketOf deadline ≤ (2000000000 - service.epoch) / secNs := by
  intro service calls
  have hhistory : (run watch (service, []) calls).2 =
      [.scheduled (.v4 1) 1500000000, .handed (.v4 1) 2000000000] := by
    decide +kernel
  have hclock : ∀ call ∈ calls, call.After service.epoch := by
    intro call hcall
    cases call with
    | expire ios networks => exact Nat.zero_le _
    | _ => trivial
  obtain ⟨_, _, _, honTime, _⟩ := ring_punctual service rfl calls hclock
  exact ⟨hhistory, honTime [.scheduled (.v4 1) 1500000000] _ _ [] hhistory⟩

end RingCall

end RamShield
