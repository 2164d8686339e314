import RamShield.Enforcement.Service

/-! # Leases: expiry and restoration

`expire_due`: every due lease is turned into an unblock command of source `ttl`.
A pass runs several commands, so its environment is a family: command `n` of the
pass runs in `ios n`, and the pass itself reads the clock of `ios 0`. After a
restart the leases are armed again from the remaining times that recovery found.
-/

namespace RamShield

open Foundation

namespace EnforcementService

def ttlUnblock (io : Io) (ip : IpAddr) (cidr : Option IpNetwork) : EnforceCommand where
  decisionId := io.freshId
  policyVersion := 0
  source := "ttl"
  actor := "system"
  timestampUtc := (io.clock.wallNs / secNs : Nat)
  ttlSeconds := 0
  reason := "ttl_expired"
  ip := ip
  cidr := cidr
  action := .unblock
  evidenceSource := .localSignals

/-- Release one due address. After a failure it is armed again a second later, unless the command is
invalid. -/
def expireIp (service : EnforcementService) (io : Io) (ip : IpAddr) : EnforcementService :=
  match service.enforce io (ttlUnblock io ip none) with
  | (.ok _, service) => service
  | (.error (.invalidCommand _), service) => service
  | (.error _, service) => service.scheduleExpiration ip (io.clock.mono + secNs)

/-- Release one due prefix; its lease is removed first. -/
def expireCidr (service : EnforcementService) (io : Io) (network : IpNetwork) :
    EnforcementService :=
  let service := { service with cidrExpirations := service.cidrExpirations.erase network }
  match service.enforce io (ttlUnblock io network.addr (some network)) with
  | (.ok _, service) => service
  | (.error (.invalidCommand _), service) => service
  | (.error _, service) =>
    { service with
      cidrExpirations := service.cidrExpirations.insert network (io.clock.mono + secNs) }

variable (service : EnforcementService) (io : Io)

lemma expireIp_writes (ip : IpAddr) :
    ∃ leases, service.expireIp io ip =
      { (service.enforce io (ttlUnblock io ip none)).2 with leases := leases } := by
  unfold expireIp
  split <;> exact ⟨_, by simp only [*]; rfl⟩

lemma expireCidr_writes (network : IpNetwork) :
    ∃ expirations, service.expireCidr io network =
      { ({ service with cidrExpirations := service.cidrExpirations.erase network }.enforce io
          (ttlUnblock io network.addr (some network))).2 with
        cidrExpirations := expirations } := by
  unfold expireCidr
  dsimp only
  split <;> exact ⟨_, by simp only [*]; rfl⟩

def dueCidrs (service : EnforcementService) (now : Instant) : Finset IpNetwork :=
  service.cidrExpirations.keys.filter fun network =>
    (service.cidrExpirations.lookup network).any (· ≤ now)

def eachDue {Item : Type} (run : EnforcementService → Io → Item → EnforcementService)
    (ios : Nat → Io) : EnforcementService → Nat → List Item → EnforcementService
  | service, _, [] => service
  | service, index, item :: items =>
    eachDue run ios (run service (ios index) item) (index + 1) items

def expireDue (service : EnforcementService) (ios : Nat → Io) (networks : IterOrder IpNetwork) :
    EnforcementService :=
  let (due, leases) := service.leases.drainDue (((ios 0).clock.mono - service.epoch) / secNs)
  let service := eachDue expireIp ios { service with leases := leases } 0 due
  let cidrs := networks.enum (service.dueCidrs (ios due.length).clock.mono)
  eachDue expireCidr ios service due.length cidrs

/-! ## Restoration -/

def restoreExpiration (clock : Clock) (service : EnforcementService) (pair : IpAddr × Nat) :
    EnforcementService :=
  if pair.2 = 0 then service
  else
    let deadline := clock.mono + pair.2 * secNs
    (service.scheduleExpiration pair.1 deadline).publish fun shared =>
      { shared with ipExpirations :=
          shared.ipExpirations.insert pair.1 (clock.unixNsFromInstant deadline) }

def restoreExpirations (service : EnforcementService) (clock : Clock)
    (pairs : List (IpAddr × Nat)) : EnforcementService :=
  pairs.foldl (restoreExpiration clock) service

def restoreCidrBlock (clock : Clock) (service : EnforcementService) (pair : IpNetwork × Nat) :
    EnforcementService :=
  let service := { service with
    store := { service.store with activeCidrs := insert pair.1 service.store.activeCidrs } }
  if 0 < pair.2 then
    let deadline := clock.mono + pair.2 * secNs
    { service with
      cidrExpirations := service.cidrExpirations.insert pair.1 deadline }.publish fun shared =>
        { shared with cidrExpirations :=
            shared.cidrExpirations.insert pair.1 (clock.unixNsFromInstant deadline) }
  else
    service.publish fun shared =>
      { shared with cidrExpirations := shared.cidrExpirations.erase pair.1 }

def restoreCidrBlocks (service : EnforcementService) (clock : Clock)
    (pairs : List (IpNetwork × Nat)) : EnforcementService :=
  pairs.foldl (restoreCidrBlock clock) service

def removeRestoredCidr (service : EnforcementService) (network : IpNetwork) :
    EnforcementService :=
  service.releaseCidr network

def refreshMeshAppliedIps (service : EnforcementService) (clock : Clock) : EnforcementService :=
  match service.meshBlocklist with
  | none => service
  | some mesh =>
    let applied := (mesh.activeIps clock.wallMs).filter fun ip =>
      service.store.blockedNow clock.mono ip
    { service with meshAppliedIps := service.meshAppliedIps ∪ applied }

end EnforcementService

end RamShield
