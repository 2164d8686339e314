import RamShield.Enforcement.Recovery
import RamShield.Engine.Boot

/-! # What a boot restores

The arming passes as writes to lease slots, and from them the state after a boot
without mesh records: which addresses are blocked, which prefixes are active and
which of them carry a lease.
-/

namespace RamShield

open Foundation List

/-! ## Arming -/

/-- The bucket of a lease with some seconds left; zero seconds arm nothing. -/
def leaseBucket (epoch : Instant) (clock : Clock) (secs : Nat) : Option Nat :=
  if secs = 0 then none else some (divCeil (clock.mono + secs * secNs - epoch) secNs)

def cidrDeadline (clock : Clock) (secs : Nat) : Option Instant :=
  if secs = 0 then none else some (clock.mono + secs * secNs)

namespace EnforcementService

variable (service : EnforcementService) (clock : Clock)

lemma restoreExpirations_frame (pairs : List (IpAddr × Nat)) : ∃ leases shared,
      service.restoreExpirations clock pairs =
        { service with leases := leases, checkpointShared := shared } := by
  unfold restoreExpirations
  induction pairs generalizing service with
  | nil => exact ⟨_, _, rfl⟩
  | cons pair pairs ih =>
    obtain ⟨leases, shared, hrest⟩ := ih (restoreExpiration clock service pair)
    refine ⟨leases, shared, ?_⟩
    rw [foldl_cons, hrest]
    unfold restoreExpiration
    split <;> rfl

lemma lease_restoreExpirations {service : EnforcementService} (hqueue : service.leases.WellFormed)
    (clock : Clock) {pairs : List (IpAddr × Nat)} {described : IpAddr → Option Nat} {ip : IpAddr}
    (hpairs : ∀ secs, (ip, secs) ∈ pairs ↔ described ip = some secs) :
    (service.restoreExpirations clock pairs).leases.lease ip =
      ((described ip).bind (leaseBucket service.epoch clock)).or (service.leases.lease ip) := by
  have hinvariant : ∀ (state : EnforcementService) (pair : IpAddr × Nat),
      state.leases.WellFormed ∧ state.epoch = service.epoch →
        (restoreExpiration clock state pair).leases.WellFormed ∧
          (restoreExpiration clock state pair).epoch = service.epoch := by
    rintro state pair ⟨hwf, hepoch⟩
    unfold restoreExpiration
    split
    · exact ⟨hwf, hepoch⟩
    · exact ⟨hwf.schedule _ _, hepoch⟩
  have hstep : ∀ (state : EnforcementService) (pair : IpAddr × Nat) (key : IpAddr),
      state.leases.WellFormed ∧ state.epoch = service.epoch →
        (restoreExpiration clock state pair).leases.lease key =
          if key = pair.1 then
            (leaseBucket service.epoch clock pair.2).or (state.leases.lease key)
          else state.leases.lease key := by
    rintro state pair key ⟨hwf, hepoch⟩
    unfold restoreExpiration leaseBucket
    split
    · simp
    have hlease := hwf.lease_schedule pair.1 key (state.bucketOf (clock.mono + pair.2 * secNs))
    rw [Option.some_or, ← hepoch]
    exact hlease
  exact foldl_slots (fun state : EnforcementService => state.leases.lease)
    (leaseBucket service.epoch clock)
    (fun state : EnforcementService => state.leases.WellFormed ∧ state.epoch = service.epoch)
    hinvariant hstep hpairs ⟨hqueue, rfl⟩

lemma restoreExpirations_wellFormed {service : EnforcementService}
    (hqueue : service.leases.WellFormed) (clock : Clock) (pairs : List (IpAddr × Nat)) :
    (service.restoreExpirations clock pairs).leases.WellFormed := by
  unfold restoreExpirations
  induction pairs generalizing service with
  | nil => exact hqueue
  | cons pair pairs ih =>
    apply ih
    unfold restoreExpiration
    split
    · exact hqueue
    · exact hqueue.schedule _ _

/-- Of the rest only prefix leases and the mirror change. -/
lemma restoreCidrBlocks_frame (pairs : List (IpNetwork × Nat)) : ∃ expirations shared,
      service.restoreCidrBlocks clock pairs =
        { service with
          store := { service.store with
            activeCidrs := service.store.activeCidrs ∪ (pairs.map Prod.fst).toFinset }
          cidrExpirations := expirations
          checkpointShared := shared } := by
  unfold restoreCidrBlocks
  induction pairs generalizing service with
  | nil => exact ⟨service.cidrExpirations, service.checkpointShared, by simp⟩
  | cons pair pairs ih =>
    obtain ⟨expirations, shared, hrest⟩ := ih (restoreCidrBlock clock service pair)
    refine ⟨expirations, shared, ?_⟩
    have hunion : insert pair.1 service.store.activeCidrs ∪ (pairs.map Prod.fst).toFinset =
        service.store.activeCidrs ∪ ((pair :: pairs).map Prod.fst).toFinset := by
      ext network
      simp only [map_cons, toFinset_cons, Finset.mem_union, Finset.mem_insert]
      tauto
    rw [foldl_cons, hrest, ← hunion]
    unfold restoreCidrBlock
    dsimp only
    split <;> rfl

lemma lookup_restoreCidrBlocks {pairs : List (IpNetwork × Nat)}
    {described : IpNetwork → Option Nat} {network : IpNetwork}
    (hpairs : ∀ secs, (network, secs) ∈ pairs ↔ described network = some secs) :
    (service.restoreCidrBlocks clock pairs).cidrExpirations.lookup network =
      ((described network).bind (cidrDeadline clock)).or
        (service.cidrExpirations.lookup network) := by
  have hstep : ∀ (state : EnforcementService) (pair : IpNetwork × Nat) (key : IpNetwork), True →
      (restoreCidrBlock clock state pair).cidrExpirations.lookup key =
        if key = pair.1 then
          (cidrDeadline clock pair.2).or (state.cidrExpirations.lookup key)
        else state.cidrExpirations.lookup key := by
    intro state pair key _
    unfold restoreCidrBlock cidrDeadline
    dsimp only
    by_cases hsecs : 0 < pair.2
    · rw [if_pos hsecs, if_neg (Nat.ne_of_gt hsecs), Option.some_or]
      exact Table.lookup_insert_eq _ _ _ _
    · rw [if_neg hsecs, if_pos (Nat.eq_zero_of_not_pos hsecs), Option.none_or, ite_self]
      rfl
  exact foldl_slots (fun (state : EnforcementService) key => state.cidrExpirations.lookup key)
    (cidrDeadline clock)
    (fun _ => True) (fun _ _ _ => trivial) hstep hpairs trivial

lemma removeRestoredCidrs_frame (networks : List IpNetwork)
    (hnone : service.cidrExpirations = ∅) :
    ∃ shared,
      networks.foldl removeRestoredCidr service =
        { service with
          store := { service.store with
            activeCidrs := service.store.activeCidrs \ networks.toFinset }
          checkpointShared := shared } := by
  induction networks generalizing service with
  | nil => exact ⟨service.checkpointShared, by simp⟩
  | cons network networks ih =>
    have herased : (removeRestoredCidr service network).cidrExpirations = ∅ := by
      apply Finmap.ext_lookup
      intro other
      change (service.cidrExpirations.erase network).lookup other = _
      rw [hnone, Table.lookup_erase_eq]
      simp
    obtain ⟨shared, hrest⟩ := ih (removeRestoredCidr service network) herased
    refine ⟨shared, ?_⟩
    have hsdiff : service.store.activeCidrs.erase network \ networks.toFinset =
        service.store.activeCidrs \ (network :: networks).toFinset := by
      ext other
      simp only [toFinset_cons, Finset.mem_sdiff, Finset.mem_erase, Finset.mem_insert]
      tauto
    rw [foldl_cons, hrest, herased, ← hsdiff, hnone]
    rfl

end EnforcementService

/-! ## The restored lists -/

namespace Replay

variable (networks : IterOrder IpNetwork) (nowNs : Nat) (seed : Table IpNetwork (Option Nat))
  (ips : IterOrder IpAddr) (blocked : Table IpAddr BlockFold) (secs : Nat)

lemma mem_restored (nowNs : Nat) (ip : IpAddr) (secs : Nat) :
    (ip, secs) ∈ ((ips.enum blocked.keys).filterMap fun ip =>
      (liveLease blocked nowNs ip).map (ip, ·)) ↔ liveLease blocked nowNs ip = some secs := by
  rw [mem_filterMap]
  constructor
  · rintro ⟨other, _, hother⟩
    obtain ⟨found, hfound, heq⟩ := Option.map_eq_some_iff.mp hother
    cases heq
    exact hfound
  · intro hlease
    refine ⟨ip, ?_, by rw [hlease]; rfl⟩
    obtain ⟨block, hblock, _⟩ := liveLease_isSome.mp (Option.isSome_of_eq_some hlease)
    exact ips.mem_enum.mpr (Table.mem_keys_iff_lookup.mpr ⟨block, hblock⟩)

def cidrLease (blocked : Table IpNetwork (Option Nat)) (nowNs : Nat) (network : IpNetwork) :
    Option Nat :=
  (blocked.lookup network).map fun deadline => remaining deadline nowNs

lemma mem_replayWalCidrsSeeded_fst (log : List WalEntry) (network : IpNetwork) (secs : Nat) :
    (network, secs) ∈ (replayWalCidrsSeeded networks nowNs seed log).1 ↔
      cidrLease (foldCidrs nowNs seed log) nowNs network = some secs := by
  unfold replayWalCidrsSeeded cidrLease
  dsimp only
  rw [mem_map]
  constructor
  · rintro ⟨other, hmem, heq⟩
    cases heq
    obtain ⟨deadline, hdeadline⟩ := Table.mem_keys_iff_lookup.mp (networks.mem_enum.mp hmem)
    rw [hdeadline]
    rfl
  · intro hlease
    obtain ⟨deadline, hdeadline, heq⟩ := Option.map_eq_some_iff.mp hlease
    refine ⟨network, networks.mem_enum.mpr (Table.mem_keys_iff_lookup.mpr ⟨deadline, hdeadline⟩),
      ?_⟩
    rw [hdeadline, ← heq]
    rfl

lemma replayWalCidrsSeeded_networks (log : List WalEntry) :
    ((replayWalCidrsSeeded networks nowNs seed log).1.map Prod.fst).toFinset =
      (foldCidrs nowNs seed log).keys := by
  ext network
  simp [replayWalCidrsSeeded, networks.mem_enum]

end Replay

end RamShield
