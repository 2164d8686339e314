import RamShield.Engine.BootSpec
import RamShield.Foundation.Run

/-! # Snapshot and tail against the full log

Booting from a snapshot that records a prefix of the log, and replaying the rest,
should give what booting from the whole log gives. It does unless the tail
withdraws a lease of the snapshot without arming another one: the first arming
pass arms the leases of the snapshot whatever the tail says, and nothing cancels
them. A record of the snapshot whose block the tail replaced by one that has
already expired stays blocked, too.
-/

namespace RamShield

open Foundation SnapshotRestore List Table EnforcementService Finmap

namespace Replay

/-! ## The fold seen from one key -/

lemma foldIp_overlay (ip : IpAddr) (entry : WalEntry) :
    Table.Overlays ip fun blocked => foldIp blocked entry := by
  cases entry with
  | blockIp target reason ttlSecs tsNs =>
    cases target with
    | none => exact overlays_self ip
    | some target => exact overlays_insert ip target _
  | unblockIp target tsNs =>
    cases target with
    | none => exact overlays_self ip
    | some target => exact overlays_erase ip target
  | _ => exact overlays_self ip

lemma foldCidr_overlay (network : IpNetwork) (entry : WalEntry) :
    Table.Overlays network fun blocked => foldCidr blocked entry := by
  cases entry with
  | blockCidr target reason ttlSecs tsNs => exact overlays_insert network target _
  | unblockCidr target tsNs => exact overlays_erase network target
  | _ => exact overlays_self network

variable {log tail : List WalEntry} {nowNs : Nat} {ip : IpAddr}

lemma liveLease_seeded {seed : Table IpAddr BlockFold}
    (hseed : seed.lookup ip = liveBlock (log.foldl foldIp ∅) nowNs ip) :
    liveLease (tail.foldl foldIp seed) nowNs ip =
      liveLease ((log ++ tail).foldl foldIp ∅) nowNs ip := by
  have hfold := foldl_overlay_filter (foldIp_overlay ip) tail
    (fun block => !expired block.deadlineNs nowNs) hseed
  rw [foldl_append]
  exact congrArg (Option.map fun block => remaining block.deadlineNs nowNs) hfold

lemma mem_seeded {seed : Table IpAddr BlockFold}
    (hseed : seed.lookup ip = liveBlock (log.foldl foldIp ∅) nowNs ip)
    (hlive : (liveBlock (log.foldl foldIp ∅) nowNs ip).isSome) :
    ip ∈ (tail.foldl foldIp seed).keys ↔ ip ∈ ((log ++ tail).foldl foldIp ∅).keys := by
  obtain ⟨block, hblock⟩ := Option.isSome_iff_exists.mp hlive
  obtain ⟨effect, heffect⟩ := foldl_overlay (foldIp_overlay ip) tail
  rw [mem_keys_iff_lookup, mem_keys_iff_lookup, foldl_append, heffect, heffect,
    hseed, hblock, (liveBlock_eq_some.mp hblock).1]

lemma lookup_foldCidrs {network : IpNetwork} {deadline : Option Nat} :
    (foldCidrs nowNs ∅ log).lookup network = some deadline ↔
      (log.foldl foldCidr ∅).lookup network = some deadline ∧ expired deadline nowNs = false := by
  have hempty : (∅ : Table IpNetwork (Option Nat)).filter
      (fun _ deadline => !expired deadline nowNs) = ∅ := rfl
  rw [foldCidrs, hempty, lookup_filter, Option.filter_eq_some_iff, Bool.not_eq_true']

lemma foldCidrs_seeded {seed : Table IpNetwork (Option Nat)}
    (hseed : ∀ network, seed.lookup network =
      ((log.foldl foldCidr ∅).lookup network).filter fun deadline => !expired deadline nowNs) :
    foldCidrs nowNs seed tail = foldCidrs nowNs ∅ (log ++ tail) := by
  apply ext_lookup
  intro network
  unfold foldCidrs
  rw [lookup_filter, lookup_filter, foldl_append]
  refine foldl_overlay_filter (foldCidr_overlay network) tail
    (fun deadline => !expired deadline nowNs) ?_
  rw [lookup_filter, hseed, Option.filter_filter]
  simp only [Bool.and_self]
  rfl

/-- Deadlines of records saturate at the greatest time. -/
lemma deadline_le {block : BlockFold} {deadline : Nat}
    (hblock : (log.foldl foldIp ∅).lookup ip = some block)
    (hdeadline : block.deadlineNs = some deadline) : deadline ≤ u64Max := by
  have hstep (blocked : Table IpAddr BlockFold) (entry : WalEntry)
      (hblocked : ∀ ip block, blocked.lookup ip = some block →
        ∀ deadline ∈ block.deadlineNs, deadline ≤ u64Max) :
      ∀ ip block, (foldIp blocked entry).lookup ip = some block →
        ∀ deadline ∈ block.deadlineNs, deadline ≤ u64Max := by
    intro ip block hlookup
    unfold foldIp at hlookup
    split at hlookup
    · rw [lookup_insert_eq] at hlookup
      split at hlookup
      · cases hlookup
        intro deadline hdeadline
        obtain ⟨secs, _, rfl⟩ := Option.map_eq_some_iff.mp hdeadline
        exact Nat.min_le_right _ _
      · exact hblocked ip block hlookup
    · rw [lookup_erase_eq] at hlookup
      split at hlookup
      · cases hlookup
      · exact hblocked ip block hlookup
    · exact hblocked ip block hlookup
  exact Machine.run_invariant hstep (by simp) log ip block hblock deadline hdeadline

end Replay

/-! ## Restoring the snapshot -/

open Replay

variable {expiresAtNs : Option Nat} {nowNs count : Nat} {clock : Clock} {store : Store}

lemma classify_eq_expired : classify expiresAtNs nowNs = .expired ↔ expired expiresAtNs nowNs := by
  cases expiresAtNs with
  | none => simp [classify, expired]
  | some deadline =>
    unfold classify expired
    by_cases hlive : nowNs < deadline
    · simp [hlive]
    · simp [hlive, Nat.le_of_not_lt hlive]

lemma checkedAddSecs_fits {mono remainingNs : Nat} (hmono : mono ≤ u64Max)
    (hremaining : remainingNs ≤ u64Max) :
    (Instant.checkedAddSecs mono (divCeil remainingNs secNs)).isSome := by
  have hsecs : divCeil remainingNs secNs * secNs ≤ remainingNs + (secNs - 1) :=
    Nat.div_mul_le_self _ _
  have hbound : mono + divCeil remainingNs secNs * secNs < 2 ^ 63 * secNs := by
    unfold u64Max at hmono hremaining
    unfold secNs at hsecs ⊢
    omega
  rw [Instant.checkedAddSecs, if_pos hbound]
  rfl

lemma insertIpSnapshot_spec (hrecords : store.Records) (hroom : Room store (count + 1))
    (entry : IpBlockSnapshot) {ttlSecs : Option Nat}
    (hfits : ∀ secs ∈ ttlSecs, (Instant.checkedAddSecs clock.mono secs).isSome) :
    ∃ next, insertIpSnapshot clock store entry ttlSecs = some next ∧
      Store.Sets store next entry.ip true ∧ Room next count := by
  rcases Store.insert_records hrecords clock.mono entry.ip entry.record hfits
    (ramLimit store) with ⟨_, hrefused, _⟩ | ⟨next, hnext, hsets, hbytes, _⟩
  · rw [hroom.not_refuses] at hrefused
    cases hrefused
  · exact ⟨next, by rw [insertIpSnapshot, hnext], hsets, hroom.after_insert hbytes hsets.ramLimitMb⟩

lemma classify_ne_expired :
    classify expiresAtNs nowNs ≠ .expired ↔ expired expiresAtNs nowNs = false :=
  classify_eq_expired.not.trans Bool.eq_false_iff.symm

lemma remaining_le_of_classify {remainingNs : Nat}
    (hbound : ∀ deadline ∈ expiresAtNs, deadline ≤ u64Max)
    (hclassified : classify expiresAtNs nowNs = .live remainingNs) : remainingNs ≤ u64Max := by
  unfold classify at hclassified
  split at hclassified
  · cases hclassified
  next deadline =>
    split at hclassified
    · cases hclassified
      exact (Nat.sub_le _ _).trans (hbound deadline rfl)
    · cases hclassified

lemma restoreIpSnapshot_inserts (hclock : clock.mono ≤ u64Max) {entry : IpBlockSnapshot}
    (hbound : ∀ deadline ∈ entry.expiresAtNs, deadline ≤ u64Max)
    (hclassified : classify entry.expiresAtNs clock.wallNs ≠ .expired) (store : Store) :
    ∃ ttlSecs : Option Nat,
      restoreIpSnapshot clock store entry = insertIpSnapshot clock store entry ttlSecs ∧
        ∀ secs ∈ ttlSecs, (Instant.checkedAddSecs clock.mono secs).isSome := by
  unfold restoreIpSnapshot
  split
  next hexpired => exact absurd hexpired hclassified
  next remainingNs hremaining =>
    refine ⟨_, rfl, ?_⟩
    intro secs hsecs
    cases hsecs
    exact checkedAddSecs_fits hclock (remaining_le_of_classify hbound hremaining)
  · exact ⟨none, rfl, by simp⟩

lemma restoreIpSnapshot_spec (hclock : clock.mono ≤ u64Max) (hrecords : store.Records)
    (hroom : Room store (count + 1)) {entry : IpBlockSnapshot}
    (hbound : ∀ deadline ∈ entry.expiresAtNs, deadline ≤ u64Max) :
    ∃ next, restoreIpSnapshot clock store entry = some next ∧ next.Records ∧
      next.activeCidrs = store.activeCidrs ∧ Room next count ∧
      ∀ ip, next.holds ip ↔
        (entry.ip = ip ∧ expired entry.expiresAtNs clock.wallNs = false) ∨ store.holds ip := by
  by_cases hclassified : classify entry.expiresAtNs clock.wallNs = .expired
  · have hexpired := classify_eq_expired.mp hclassified
    refine ⟨store, by rw [restoreIpSnapshot, hclassified], hrecords, rfl,
      hroom.mono (Nat.le_succ _) (le_refl _) rfl, ?_⟩
    intro ip
    simp [hexpired]
  · have hlive := classify_ne_expired.mp hclassified
    obtain ⟨ttlSecs, heq, hfits⟩ := restoreIpSnapshot_inserts hclock hbound hclassified store
    obtain ⟨next, hnext, hsets, hleft⟩ := insertIpSnapshot_spec hrecords hroom entry hfits
    refine ⟨next, heq.trans hnext, hsets.records, hsets.activeCidrs, hleft, ?_⟩
    intro ip
    rw [hsets.holds]
    by_cases hip : ip = entry.ip
    · simp [hip, hlive]
    · simp [hip, Ne.symm hip]

lemma restoreIpSnapshots_spec (hclock : clock.mono ≤ u64Max) {entries : List IpBlockSnapshot}
    (hbound : ∀ entry ∈ entries, ∀ deadline ∈ entry.expiresAtNs, deadline ≤ u64Max)
    (hrecords : store.Records) (hroom : Room store (count + entries.length)) :
    ∃ next, entries.foldlM (restoreIpSnapshot clock) store = some next ∧ next.Records ∧
      next.activeCidrs = store.activeCidrs ∧ Room next count ∧
      ∀ ip, next.holds ip ↔
        (∃ entry ∈ entries, entry.ip = ip ∧
          expired entry.expiresAtNs clock.wallNs = false) ∨ store.holds ip := by
  induction entries generalizing store with
  | nil => exact ⟨store, rfl, hrecords, rfl, hroom, fun ip => by simp⟩
  | cons entry entries ih =>
    obtain ⟨middle, hfirst, hmiddle, hcidrs, hleft, hheld⟩ :=
      restoreIpSnapshot_spec hclock hrecords hroom (hbound entry mem_cons_self)
    obtain ⟨next, hrest, hnext, hsame, hfits, hholds⟩ :=
      ih (fun other hmem => hbound other (mem_cons_of_mem _ hmem)) hmiddle hleft
    refine ⟨next, ?_, hnext, hsame.trans hcidrs, hfits, ?_⟩
    · rw [foldlM_cons, hfirst]
      exact hrest
    · intro ip
      rw [hholds, hheld, exists_mem_cons_iff, or_left_comm, or_assoc]

/-! ## Booting without mesh records -/

namespace Boot

def fresh (ramLimitMb : Nat) (epoch : Instant) : EnforcementService :=
  { EnforcementService.new (Store.new.setRamLimitMb ramLimitMb) epoch with
    checkpointShared := some ⟨∅, ∅⟩ }

lemma arm_spec (service : EnforcementService) (hqueue : service.leases.WellFormed)
    (clock : Clock) {ttls : List (IpAddr × Nat)} {ipLease : IpAddr → Option Nat}
    (httls : ∀ ip secs, (ip, secs) ∈ ttls ↔ ipLease ip = some secs)
    {cidrs : List (IpNetwork × Nat)} {cidrLease : IpNetwork → Option Nat}
    (hcidrs : ∀ network secs, (network, secs) ∈ cidrs ↔ cidrLease network = some secs)
    {next : EnforcementService}
    (hnext : next = (service.restoreExpirations clock ttls).restoreCidrBlocks clock cidrs) :
    (∀ ip, next.store.holds ip = service.store.holds ip) ∧
      next.store.activeCidrs = service.store.activeCidrs ∪ (cidrs.map Prod.fst).toFinset ∧
      next.leases.WellFormed ∧ next.epoch = service.epoch ∧
      (∀ ip, next.leases.lease ip =
        ((ipLease ip).bind (leaseBucket service.epoch clock)).or (service.leases.lease ip)) ∧
      ∀ network, next.cidrExpirations.lookup network =
        ((cidrLease network).bind (cidrDeadline clock)).or
          (service.cidrExpirations.lookup network) := by
  subst hnext
  have hleases := fun ip => lease_restoreExpirations hqueue clock (httls ip)
  have hwf := restoreExpirations_wellFormed hqueue clock ttls
  have hexpirations := fun network => lookup_restoreCidrBlocks
    (service.restoreExpirations clock ttls) clock (hcidrs network)
  obtain ⟨leases, shared, harmed⟩ := service.restoreExpirations_frame clock ttls
  obtain ⟨expirations, mirror, hactive⟩ :=
    (service.restoreExpirations clock ttls).restoreCidrBlocks_frame clock cidrs
  refine ⟨?_, ?_, ?_, ?_, ?_, ?_⟩
  · intro ip
    rw [hactive, harmed]
    rfl
  · rw [hactive, harmed]
  · rw [hactive]
    exact hwf
  · rw [hactive, harmed]
  · intro ip
    rw [hactive]
    exact hleases ip
  · intro network
    rw [hexpirations, harmed]

lemma replayAndArm_spec (clock : Clock) (orders : HashOrders) (hardWal : Bool)
    {service : EnforcementService} (hmesh : service.meshBlocklist = none)
    (hrecords : service.store.Records) {wal : Wal}
    (hlocal : ∀ entry ∈ wal.log, entry.isMesh = false) (minLsn : Nat)
    (restore : Option SnapshotRestore) (blocked : Table IpAddr BlockFold)
    (hblocked : blocked = (wal.replayFrom minLsn).foldl foldIp
      (((restore.map ipSeed).getD ∅).mapValues SeedBlock.toFold))
    (hroom : Room service.store blocked.keys.card)
    (cidrs : Table IpNetwork (Option Nat))
    (hcidrs : cidrs = foldCidrs clock.wallNs ((restore.map cidrSeed).getD ∅)
      (wal.replayFrom minLsn)) :
    ∃ store, store.activeCidrs = service.store.activeCidrs ∧
      (∀ ip, store.holds ip ↔
        (liveLease blocked clock.wallNs ip).isSome ∨
          ((ip ∈ ((restore.map ipSeed).getD ∅).keys → ip ∈ blocked.keys) ∧
            service.store.holds ip)) ∧
      ∀ base, base = seedLeases clock orders (service.withStore store) wal restore cidrs.keys →
        base.leases.WellFormed →
        ∃ next, replayAndArm clock orders hardWal service wal minLsn restore none = .ok next ∧
          (∀ ip, next.store.holds ip = base.store.holds ip) ∧
          next.store.activeCidrs = base.store.activeCidrs ∪ cidrs.keys ∧
          (∀ ip, next.leases.lease ip =
            ((liveLease blocked clock.wallNs ip).bind (leaseBucket base.epoch clock)).or
              (base.leases.lease ip)) ∧
          ∀ network, next.cidrExpirations.lookup network =
            ((cidrLease cidrs clock.wallNs network).bind (cidrDeadline clock)).or
              (base.cidrExpirations.lookup network) := by
  have hdots : replayMeshState orders.dots wal minLsn none clock.wallNs = .ok (∅, ∅) :=
    replayMeshState_local hlocal orders.dots minLsn clock.wallNs
  rw [← foldBlocks_local] at hblocked
  obtain ⟨store, hstored, _, hsame, hholds⟩ :=
    replayWalIntoStoreSeeded_spec orders.ips hrecords hdots hblocked hroom
  have hreplay : replayIps clock orders hardWal service wal minLsn ((restore.map ipSeed).getD ∅)
      none = .ok ((orders.ips.enum blocked.keys).filterMap fun ip =>
        (liveLease blocked clock.wallNs ip).map (ip, ·), service.withStore store) := by
    rw [replayIps, hstored]
  refine ⟨store, hsame, hholds, ?_⟩
  intro base hbase hqueue
  -- Without a cluster blocklist there are no applied addresses to refresh.
  have hrefresh : (service.withStore store).refreshMeshAppliedIps clock =
      service.withStore store := by
    have hnone : (service.withStore store).meshBlocklist = none := hmesh
    rw [EnforcementService.refreshMeshAppliedIps, hnone]
  have hnetworks := replayWalCidrsSeeded_networks orders.networks clock.wallNs
    ((restore.map cidrSeed).getD ∅) (wal.replayFrom minLsn)
  have hshape : replayAndArm clock orders hardWal service wal minLsn restore none =
      .ok ((base.restoreExpirations clock ((orders.ips.enum blocked.keys).filterMap fun ip =>
        (liveLease blocked clock.wallNs ip).map (ip, ·))).restoreCidrBlocks clock
          (replayWalCidrsSeeded orders.networks clock.wallNs
            ((restore.map cidrSeed).getD ∅) (wal.replayFrom minLsn)).1) := by
    unfold replayAndArm
    simp only [Option.map_none, hreplay, hrefresh]
    rw [hbase, hcidrs]
    rfl
  obtain ⟨hheld, hactive, _, _, hleases, hexpirations⟩ := arm_spec base hqueue clock
    (mem_restored orders.ips blocked clock.wallNs)
    (mem_replayWalCidrsSeeded_fst orders.networks clock.wallNs
      ((restore.map cidrSeed).getD ∅) (wal.replayFrom minLsn)) rfl
  rw [hnetworks, ← hcidrs] at hactive
  rw [← hcidrs] at hexpirations
  exact ⟨_, hshape, hheld, hactive, hleases, hexpirations⟩

structure FromLog (clock : Clock) (epoch : Instant) (log : List WalEntry)
    (next : EnforcementService) : Prop where
  holds (ip : IpAddr) : next.store.holds ip = true ↔
    (liveLease (log.foldl foldIp ∅) clock.wallNs ip).isSome = true
  activeCidrs : next.store.activeCidrs = (foldCidrs clock.wallNs ∅ log).keys
  leases (ip : IpAddr) : next.leases.lease ip =
    (liveLease (log.foldl foldIp ∅) clock.wallNs ip).bind (leaseBucket epoch clock)
  cidrLeases (network : IpNetwork) : next.cidrExpirations.lookup network =
    (cidrLease (foldCidrs clock.wallNs ∅ log) clock.wallNs network).bind (cidrDeadline clock)

lemma recover_full (clock : Clock) (orders : HashOrders) (hardWal : Bool) {ramLimitMb : Nat}
    (epoch : Instant) {log : List WalEntry} (hlocal : ∀ entry ∈ log, entry.isMesh = false)
    (hroom : Room (Store.new.setRamLimitMb ramLimitMb) log.length) {snapLsn : Nat}
    {file : Option CheckpointSnapshot} (hfile : (if 0 < snapLsn then file else none) = none) :
    ∃ next, recover clock orders hardWal (fresh ramLimitMb epoch) ⟨log⟩ snapLsn file = .ok next ∧
      FromLog clock epoch log next := by
  have hcard := card_foldIp_le log ∅
  have hfits : Room (fresh ramLimitMb epoch).store (log.foldl foldIp ∅).keys.card :=
    hroom.mono (by simpa using hcard) (le_refl _) rfl
  have hempty : (fresh ramLimitMb epoch).store.inner = ∅ := rfl
  obtain ⟨store, hsame, hholds, hrun⟩ := replayAndArm_spec clock orders hardWal rfl
    (Store.plain_of_empty hempty).records hlocal 0 none (log.foldl foldIp ∅) rfl hfits
    (foldCidrs clock.wallNs ∅ log) rfl
  obtain ⟨next, hnext, hheld, hactive, hleases, hexpirations⟩ :=
    hrun _ rfl DeadlineQueue.empty_wellFormed
  refine ⟨next, ?_, fun ip => ?_, ?_, fun ip => ?_, fun network => ?_⟩
  · unfold recover
    rw [hfile]
    exact hnext
  · rw [hheld]
    refine (hholds ip).trans ?_
    rw [Store.holds_of_empty hempty]
    simp
  · rw [hactive]
    refine Eq.trans (congrArg (· ∪ _) hsame) ?_
    exact Finset.empty_union _
  · rw [hleases]
    exact Option.or_none
  · rw [hexpirations]
    exact Option.or_none

end Boot

/-! ## Faithful snapshots -/

def Boot.snapshotSecs (deadline : Option Nat) (nowNs : Nat) : Option Nat :=
  (liveDeadline deadline nowNs).map (remainingSecs nowNs)

def IpBlockSnapshot.toFold (entry : IpBlockSnapshot) : BlockFold :=
  ⟨reasonToBlockReason entry.reason, entry.sinceNs, entry.expiresAtNs⟩

/-- The snapshot records the block state that a log folds to. -/
structure CheckpointSnapshot.Faithful (snapshot : CheckpointSnapshot) (log : List WalEntry) :
    Prop where
  ips_nodup : (snapshot.blockedIps.map IpBlockSnapshot.ip).Nodup
  ips (ip : IpAddr) (block : BlockFold) :
    (log.foldl foldIp ∅).lookup ip = some block ↔
      ∃ entry ∈ snapshot.blockedIps, entry.ip = ip ∧ entry.toFold = block
  cidrs_nodup : (snapshot.activeCidrs.map CidrSnapshot.network).Nodup
  cidrs (network : IpNetwork) (deadline : Option Nat) :
    (log.foldl foldCidr ∅).lookup network = some deadline ↔
      ∃ entry ∈ snapshot.activeCidrs, entry.network = network ∧ entry.expiresAtNs = deadline
  mesh : snapshot.meshState = none

namespace CheckpointSnapshot.Faithful

variable {snapshot : CheckpointSnapshot} {log : List WalEntry}

lemma bound (hfaithful : snapshot.Faithful log) {entry : IpBlockSnapshot}
    (hmem : entry ∈ snapshot.blockedIps) {deadline : Nat}
    (hdeadline : deadline ∈ entry.expiresAtNs) : deadline ≤ u64Max :=
  Replay.deadline_le ((hfaithful.ips entry.ip entry.toFold).mpr ⟨entry, hmem, rfl, rfl⟩) hdeadline

lemma length_le (hfaithful : snapshot.Faithful log) : snapshot.blockedIps.length ≤ log.length := by
  have hsubset : (snapshot.blockedIps.map IpBlockSnapshot.ip).toFinset ⊆
      (log.foldl foldIp ∅).keys := by
    intro ip hip
    obtain ⟨entry, hmem, rfl⟩ := mem_map.mp (mem_toFinset.mp hip)
    exact mem_keys_iff_lookup.mpr ⟨entry.toFold, (hfaithful.ips _ _).mpr ⟨entry, hmem, rfl, rfl⟩⟩
  have hcard := Finset.card_le_card hsubset
  rw [toFinset_card_of_nodup hfaithful.ips_nodup, length_map] at hcard
  have hlog := card_foldIp_le log ∅
  exact hcard.trans (by simpa using hlog)

lemma seed_toFold {entry : IpBlockSnapshot} {nowNs : Nat}
    (hlive : expired entry.expiresAtNs nowNs = false) :
    SeedBlock.toFold ⟨entry.reason, entry.sinceNs, entry.expiresAtNs.getD 0⟩ = entry.toFold := by
  unfold SeedBlock.toFold IpBlockSnapshot.toFold
  cases hexpires : entry.expiresAtNs with
  | none => simp
  | some deadline =>
    have hpositive : 0 < deadline := by
      simp only [hexpires, expired, Option.any_some, decide_eq_false_iff_not] at hlive
      omega
    simp [hpositive]

section

variable (hfaithful : snapshot.Faithful log)

include hfaithful

variable (nowNs) (ip : IpAddr)

lemma lookup_ipSeed :
    ((Boot.ipSeed (.ofSnapshot snapshot nowNs)).mapValues SeedBlock.toFold).lookup ip =
      liveBlock (log.foldl foldIp ∅) nowNs ip := by
  have hnodup : ((ofSnapshot snapshot nowNs).ipStates.map IpBlockSnapshot.ip).Nodup :=
    hfaithful.ips_nodup.sublist (filter_sublist.map _)
  ext block
  rw [lookup_mapValues, Option.map_eq_some_iff, liveBlock_eq_some, hfaithful.ips]
  constructor
  · rintro ⟨seed, hseed, rfl⟩
    obtain ⟨entry, hmem, hip, rfl⟩ := (lookup_foldl_insert hnodup (lookup_empty ip)).mp hseed
    obtain ⟨hentry, hstate⟩ := mem_filter.mp hmem
    have hlive := classify_ne_expired.mp (bne_iff_ne.mp hstate)
    rw [seed_toFold hlive]
    exact ⟨⟨entry, hentry, hip, rfl⟩, hlive⟩
  · rintro ⟨⟨entry, hentry, hip, rfl⟩, hlive⟩
    refine ⟨_, (lookup_foldl_insert hnodup (lookup_empty ip)).mpr
      ⟨entry, mem_filter.mpr ⟨hentry, ?_⟩, hip, rfl⟩, seed_toFold hlive⟩
    exact bne_iff_ne.mpr (classify_ne_expired.mpr hlive)

lemma mem_ipSeed {nowNs : Nat} {ip : IpAddr}
    (hlive : (liveBlock (log.foldl foldIp ∅) nowNs ip).isSome) :
    ip ∈ (Boot.ipSeed (.ofSnapshot snapshot nowNs)).keys := by
  rw [← hfaithful.lookup_ipSeed, lookup_mapValues, Option.isSome_map] at hlive
  exact mem_keys_iff_lookup.mpr (Option.isSome_iff_exists.mp hlive)

lemma lookup_cidrSeed (network : IpNetwork) :
    (Boot.cidrSeed (.ofSnapshot snapshot nowNs)).lookup network =
      ((log.foldl foldCidr ∅).lookup network).filter fun deadline => !expired deadline nowNs := by
  have hnodup : ((ofSnapshot snapshot nowNs).cidrStates.map CidrSnapshot.network).Nodup :=
    hfaithful.cidrs_nodup.sublist (filter_sublist.map _)
  ext deadline
  rw [Option.filter_eq_some_iff, hfaithful.cidrs]
  constructor
  · intro hseed
    obtain ⟨entry, hmem, hnetwork, rfl⟩ :=
      (lookup_foldl_insert hnodup (lookup_empty network)).mp hseed
    obtain ⟨hentry, hstate⟩ := mem_filter.mp hmem
    have hlive := classify_ne_expired.mp (bne_iff_ne.mp hstate)
    exact ⟨⟨entry, hentry, hnetwork, rfl⟩, by simp [hlive]⟩
  · rintro ⟨⟨entry, hentry, hnetwork, rfl⟩, hlive⟩
    refine (lookup_foldl_insert hnodup (lookup_empty network)).mpr
      ⟨entry, mem_filter.mpr ⟨hentry, ?_⟩, hnetwork, rfl⟩
    exact bne_iff_ne.mpr (classify_ne_expired.mpr (by simpa using hlive))

lemma card_seeded_le (tail : List WalEntry) (nowNs : Nat) :
    (tail.foldl foldIp ((Boot.ipSeed (.ofSnapshot snapshot nowNs)).mapValues
      SeedBlock.toFold)).keys.card ≤ log.length + tail.length := by
  have hsubset : ((Boot.ipSeed (.ofSnapshot snapshot nowNs)).mapValues
      SeedBlock.toFold).keys ⊆ (log.foldl foldIp ∅).keys := by
    intro ip hip
    obtain ⟨block, hblock⟩ := mem_keys_iff_lookup.mp hip
    rw [hfaithful.lookup_ipSeed] at hblock
    exact mem_keys_iff_lookup.mpr ⟨block, (liveBlock_eq_some.mp hblock).1⟩
  have hseed := Finset.card_le_card hsubset
  have hlog := card_foldIp_le log ∅
  have htail := card_foldIp_le tail
    ((Boot.ipSeed (.ofSnapshot snapshot nowNs)).mapValues SeedBlock.toFold)
  rw [keys_empty, Finset.card_empty] at hlog
  omega

lemma mem_ipExpirations (secs : Nat) :
    (ip, secs) ∈ ((ofSnapshot snapshot nowNs).ipExpirations.map fun pair =>
        (pair.1, Boot.remainingSecs nowNs pair.2)) ↔
      (((log.foldl foldIp ∅).lookup ip).bind fun block =>
        Boot.snapshotSecs block.deadlineNs nowNs) = some secs := by
  simp only [ofSnapshot, mem_map, mem_filterMap, Option.map_eq_some_iff,
    Option.bind_eq_some_iff, Boot.snapshotSecs, hfaithful.ips]
  constructor
  · rintro ⟨_, ⟨entry, hmem, deadline, hlive, rfl⟩, heq⟩
    cases heq
    exact ⟨entry.toFold, ⟨entry, hmem, rfl, rfl⟩, deadline, hlive, rfl⟩
  · rintro ⟨_, ⟨entry, hmem, rfl, rfl⟩, deadline, hlive, rfl⟩
    exact ⟨(entry.ip, deadline), ⟨entry, hmem, deadline, hlive, rfl⟩, rfl⟩

lemma mem_cidrExpirations (kept : Finset IpNetwork) (network : IpNetwork) (secs : Nat) :
    (network, secs) ∈ (((ofSnapshot snapshot nowNs).cidrExpirations.filter
        fun pair => pair.1 ∈ kept).map fun pair => (pair.1, Boot.remainingSecs nowNs pair.2)) ↔
      (((log.foldl foldCidr ∅).lookup network).bind fun deadline =>
        if network ∈ kept then Boot.snapshotSecs deadline nowNs else none) = some secs := by
  simp only [ofSnapshot, mem_map, mem_filter, mem_filterMap,
    Option.map_eq_some_iff, Option.bind_eq_some_iff, Boot.snapshotSecs, hfaithful.cidrs]
  constructor
  · rintro ⟨_, ⟨⟨entry, hmem, deadline, hlive, rfl⟩, hkept⟩, heq⟩
    cases heq
    refine ⟨entry.expiresAtNs, ⟨entry, hmem, rfl, rfl⟩, ?_⟩
    rw [if_pos (of_decide_eq_true hkept), hlive]
    rfl
  · rintro ⟨_, ⟨entry, hmem, rfl, rfl⟩, harmed⟩
    split at harmed
    next hkept =>
      obtain ⟨deadline, hlive, rfl⟩ := Option.map_eq_some_iff.mp harmed
      exact ⟨(entry.network, deadline), ⟨⟨entry, hmem, deadline, hlive, rfl⟩,
        decide_eq_true hkept⟩, rfl⟩
    · cases harmed

end

end CheckpointSnapshot.Faithful

/-! ## Booting from a snapshot -/

namespace Boot

variable {snapshot : CheckpointSnapshot} {log : List WalEntry} {service : EnforcementService}

lemma loadSnapshot_spec {clock : Clock} (hclock : clock.mono ≤ u64Max)
    (hfaithful : snapshot.Faithful log) (hempty : service.store.inner = ∅) {count : Nat}
    (hroom : Room service.store (count + snapshot.blockedIps.length)) :
    ∃ store, loadSnapshot clock service snapshot =
        .ok (.ofSnapshot snapshot clock.wallNs, service.withStore store) ∧
      store.Records ∧ Room store count ∧
      store.activeCidrs = service.store.activeCidrs ∪
        ((ofSnapshot snapshot clock.wallNs).cidrStates.map CidrSnapshot.network).toFinset ∧
      ∀ ip, store.holds ip ↔ (liveBlock (log.foldl foldIp ∅) clock.wallNs ip).isSome := by
  obtain ⟨store, hrestored, hrecords, hcidrs, hleft, hholds⟩ := restoreIpSnapshots_spec hclock
    (fun entry hmem deadline => hfaithful.bound hmem)
    (Store.plain_of_empty hempty).records hroom
  refine ⟨{ store with activeCidrs := store.activeCidrs ∪
    ((ofSnapshot snapshot clock.wallNs).cidrStates.map
      CidrSnapshot.network).toFinset }, ?_, hrecords, hleft.mono (le_refl _) (le_refl _) rfl,
    congrArg (· ∪ _) hcidrs, ?_⟩
  · unfold loadSnapshot restoreFromSnapshot
    rw [hrestored, hfaithful.mesh]
  · intro ip
    refine (hholds ip).trans ?_
    rw [Store.holds_of_empty hempty, Option.isSome_iff_exists]
    simp only [liveBlock_eq_some, hfaithful.ips, Bool.false_eq_true, or_false]
    constructor
    · rintro ⟨entry, hmem, hip, hlive⟩
      exact ⟨entry.toFold, ⟨entry, hmem, hip, rfl⟩, hlive⟩
    · rintro ⟨_, ⟨entry, hmem, hip, rfl⟩, hlive⟩
      exact ⟨entry, hmem, hip, hlive⟩

lemma dropReleasedCidrs_frame (orders : HashOrders) (hexpirations : service.cidrExpirations = ∅)
    (restore : SnapshotRestore) (kept : Finset IpNetwork) : ∃ shared,
      dropReleasedCidrs orders service restore kept =
        { service with
          store := { service.store with
            activeCidrs := service.store.activeCidrs \
              ((restore.cidrStates.map CidrSnapshot.network).toFinset \ kept) }
          checkpointShared := shared } := by
  obtain ⟨shared, hdropped⟩ := removeRestoredCidrs_frame service
    (orders.networks.enum ((restore.cidrStates.map CidrSnapshot.network).toFinset \ kept))
    hexpirations
  have henum : (orders.networks.enum
      ((restore.cidrStates.map CidrSnapshot.network).toFinset \ kept)).toFinset =
        (restore.cidrStates.map CidrSnapshot.network).toFinset \ kept := by
    ext network
    rw [mem_toFinset, orders.networks.mem_enum]
  rw [henum] at hdropped
  exact ⟨shared, hdropped⟩

lemma seedLeases_spec (clock : Clock) (orders : HashOrders)
    (hleases : service.leases = DeadlineQueue.empty) (hexpirations : service.cidrExpirations = ∅)
    (wal : Wal) (hfaithful : snapshot.Faithful log) (kept : Finset IpNetwork)
    {base : EnforcementService}
    (hbase : base =
      seedLeases clock orders service wal (some (.ofSnapshot snapshot clock.wallNs)) kept) :
    (∀ ip, base.store.holds ip = service.store.holds ip) ∧
      base.store.activeCidrs ∪ kept = (service.store.activeCidrs \
        (((ofSnapshot snapshot clock.wallNs).cidrStates.map
          CidrSnapshot.network).toFinset \ kept)) ∪ kept ∧
      base.leases.WellFormed ∧ base.epoch = service.epoch ∧
      (∀ ip, base.leases.lease ip = (((log.foldl foldIp ∅).lookup ip).bind fun block =>
        snapshotSecs block.deadlineNs clock.wallNs).bind (leaseBucket service.epoch clock)) ∧
      ∀ network, base.cidrExpirations.lookup network =
        (((log.foldl foldCidr ∅).lookup network).bind fun deadline =>
          if network ∈ kept then snapshotSecs deadline clock.wallNs else none).bind
            (cidrDeadline clock) := by
  obtain ⟨shared, hdropped⟩ := dropReleasedCidrs_frame orders hexpirations
    (.ofSnapshot snapshot clock.wallNs) kept
  have hqueue : ((dropReleasedCidrs orders service (.ofSnapshot snapshot clock.wallNs)
      kept).withWal wal).leases.WellFormed := by
    rw [hdropped]
    exact hleases ▸ DeadlineQueue.empty_wellFormed
  obtain ⟨hheld, hactive, hwf, hepoch, harmed, hcidrs⟩ := arm_spec _ hqueue clock
    (hfaithful.mem_ipExpirations clock.wallNs) (hfaithful.mem_cidrExpirations clock.wallNs kept)
    hbase
  rw [hdropped] at hheld hactive hepoch harmed hcidrs
  refine ⟨hheld, ?_, hwf, hepoch, fun ip => ?_, fun network => ?_⟩
  · rw [hactive, Finset.union_assoc]
    refine congrArg _ (Finset.union_eq_right.mpr fun network hmem => ?_)
    obtain ⟨pair, hpair, rfl⟩ := mem_map.mp (mem_toFinset.mp hmem)
    obtain ⟨entry, hentry, rfl⟩ := mem_map.mp hpair
    exact of_decide_eq_true (mem_filter.mp hentry).2
  · rw [harmed]
    change Option.or _ (service.leases.lease ip) = _
    rw [hleases, DeadlineQueue.lease_empty, Option.or_none]
    rfl
  · rw [hcidrs]
    change Option.or _ (service.cidrExpirations.lookup network) = _
    rw [hexpirations, lookup_empty, Option.or_none]

structure FromSnapshot (clock : Clock) (epoch : Instant) (log tail : List WalEntry)
    (next : EnforcementService) : Prop where
  holds (ip : IpAddr) : next.store.holds ip = true ↔
    (liveLease ((log ++ tail).foldl foldIp ∅) clock.wallNs ip).isSome = true ∨
      ((liveBlock (log.foldl foldIp ∅) clock.wallNs ip).isSome = true ∧
        ip ∈ ((log ++ tail).foldl foldIp ∅).keys)
  activeCidrs : next.store.activeCidrs = (foldCidrs clock.wallNs ∅ (log ++ tail)).keys
  leases (ip : IpAddr) : next.leases.lease ip =
    ((liveLease ((log ++ tail).foldl foldIp ∅) clock.wallNs ip).bind (leaseBucket epoch clock)).or
    ((((log.foldl foldIp ∅).lookup ip).bind fun block =>
      snapshotSecs block.deadlineNs clock.wallNs).bind (leaseBucket epoch clock))
  cidrLeases (network : IpNetwork) : next.cidrExpirations.lookup network =
    ((cidrLease (foldCidrs clock.wallNs ∅ (log ++ tail)) clock.wallNs
      network).bind (cidrDeadline clock)).or
    ((((log.foldl foldCidr ∅).lookup network).bind fun deadline =>
      if network ∈ (foldCidrs clock.wallNs ∅ (log ++ tail)).keys then
        snapshotSecs deadline clock.wallNs else none).bind (cidrDeadline clock))

lemma recover_snapshot {clock : Clock} (hclock : clock.mono ≤ u64Max) (orders : HashOrders)
    (hardWal : Bool) {ramLimitMb : Nat} (epoch : Instant) {tail : List WalEntry}
    (hlocal : ∀ entry ∈ log ++ tail, entry.isMesh = false)
    (hroom : Room (Store.new.setRamLimitMb ramLimitMb) (2 * (log ++ tail).length))
    (hfaithful : snapshot.Faithful log) (hcut : 0 < log.length) :
    ∃ next, recover clock orders hardWal (fresh ramLimitMb epoch) ⟨log ++ tail⟩ log.length
        (some snapshot) = .ok next ∧ FromSnapshot clock epoch log tail next := by
  have hlengths : (log ++ tail).length = log.length + tail.length := length_append
  have hshort := hfaithful.length_le
  have hloaded : Room (fresh ramLimitMb epoch).store
      ((log.length + tail.length) + snapshot.blockedIps.length) :=
    hroom.mono (by omega) (le_refl _) rfl
  obtain ⟨loaded, hload, hrecords, hleft, hnetworks, hheld⟩ :=
    loadSnapshot_spec hclock hfaithful rfl hloaded
  have hseed := hfaithful.lookup_ipSeed clock.wallNs
  have htail : (⟨log ++ tail⟩ : Wal).replayFrom log.length = tail := drop_left
  have hfits := hleft.mono (hfaithful.card_seeded_le tail clock.wallNs) (le_refl _) rfl
  have hcidrs : foldCidrs clock.wallNs (cidrSeed (.ofSnapshot snapshot clock.wallNs)) tail =
      foldCidrs clock.wallNs ∅ (log ++ tail) :=
    foldCidrs_seeded (hfaithful.lookup_cidrSeed clock.wallNs)
  have hmesh : ((fresh ramLimitMb epoch).withStore loaded).meshBlocklist = none := rfl
  -- The replay of the tail starts from the leases and prefixes that the snapshot seeds.
  obtain ⟨store, hsame, hholds, hrun⟩ := replayAndArm_spec clock orders hardWal hmesh hrecords
    hlocal log.length (some (.ofSnapshot snapshot clock.wallNs))
    (tail.foldl foldIp _) (by rw [htail]; rfl) hfits
    (foldCidrs clock.wallNs ∅ (log ++ tail)) (by rw [htail]; exact hcidrs.symm)
  have hleases : (((fresh ramLimitMb epoch).withStore loaded).withStore store).leases =
      DeadlineQueue.empty := rfl
  obtain ⟨hkept, hdropped, hwf, hepoch, hfirst, hfirstCidrs⟩ := seedLeases_spec clock orders
    hleases rfl ⟨log ++ tail⟩ hfaithful (foldCidrs clock.wallNs ∅ (log ++ tail)).keys rfl
  obtain ⟨next, hnext, hstored, hactive, hlast, hlastCidrs⟩ := hrun _ rfl hwf
  refine ⟨next, ?_, fun ip => ?_, ?_, fun ip => ?_, fun network => ?_⟩
  · unfold recover
    rw [if_pos hcut]
    dsimp only
    rw [hload, hfaithful.mesh]
    exact hnext
  · rw [hstored, hkept]
    refine (hholds ip).trans ?_
    rw [liveLease_seeded (hseed ip)]
    refine or_congr_right ?_
    rw [and_comm]
    refine Iff.trans (and_congr_left fun _ => hheld ip) (and_congr_right fun hlive => ?_)
    exact (imp_iff_right (hfaithful.mem_ipSeed hlive)).trans (mem_seeded (hseed ip) hlive)
  · rw [hactive, hdropped]
    change store.activeCidrs \ _ ∪ _ = _
    rw [hsame]
    change loaded.activeCidrs \ _ ∪ _ = _
    rw [hnetworks]
    ext network
    simp only [Finset.mem_union, Finset.mem_sdiff]
    change ((network ∈ (∅ : Finset IpNetwork) ∨ _) ∧ _) ∨ _ ↔ _
    tauto
  · rw [hlast, hfirst, liveLease_seeded (hseed ip), hepoch]
    rfl
  · rw [hlastCidrs, hfirstCidrs]

end Boot

/-! ## When the two boots agree -/

def LeaseAgrees (tolerance : Nat) : Option Nat → Option Nat → Prop
  | none, none => True
  | some left, some right => left ≤ right + tolerance ∧ right ≤ left + tolerance
  | _, _ => False

lemma leaseAgrees_self (tolerance : Nat) (lease : Option Nat) :
    LeaseAgrees tolerance lease lease := by
  cases lease <;> simp [LeaseAgrees]

/-- Falling back agrees with not falling back, unless it has to. -/
lemma leaseAgrees_or_iff (tolerance : Nat) (lease fallback : Option Nat) :
    LeaseAgrees tolerance lease (lease.or fallback) ↔ (fallback.isSome → lease.isSome) := by
  cases lease with
  | none => cases fallback <;> simp [LeaseAgrees]
  | some deadline => simp [LeaseAgrees]

/-- The same blocked addresses and prefixes, and leases that agree up to some seconds. -/
structure SameBoot (toleranceSecs : Nat) (left right : EnforcementService) : Prop where
  holds (ip : IpAddr) : left.store.holds ip = true ↔ right.store.holds ip = true
  activeCidrs : left.store.activeCidrs = right.store.activeCidrs
  leases (ip : IpAddr) : LeaseAgrees toleranceSecs (left.leases.lease ip) (right.leases.lease ip)
  cidrLeases (network : IpNetwork) :
    LeaseAgrees (toleranceSecs * secNs) (left.cidrExpirations.lookup network)
      (right.cidrExpirations.lookup network)

namespace Replay

def Leased (blocked : Table IpAddr BlockFold) (nowNs : Nat) (ip : IpAddr) : Prop :=
  ∃ block deadline, blocked.lookup ip = some block ∧ block.deadlineNs = some deadline ∧
    nowNs < deadline

def CidrLeased (blocked : Table IpNetwork (Option Nat)) (nowNs : Nat) (network : IpNetwork) :
    Prop :=
  ∃ deadline, blocked.lookup network = some (some deadline) ∧ nowNs < deadline

lemma divCeil_pos {nowNs deadline : Nat} (hlive : nowNs < deadline) :
    divCeil (deadline - nowNs) secNs ≠ 0 := by
  have hsec : 0 < secNs := by decide
  exact (Nat.div_pos (by omega) hsec).ne'

variable (blocked : Table IpAddr BlockFold) (epoch : Instant) (secs : Nat)
variable (clock) (ip : IpAddr)

lemma isSome_leaseBucket : (leaseBucket epoch clock secs).isSome ↔ secs ≠ 0 := by
  unfold leaseBucket
  split <;> simp_all

lemma isSome_cidrDeadline : (cidrDeadline clock secs).isSome ↔ secs ≠ 0 := by
  unfold cidrDeadline
  split <;> simp_all

section Armed

variable (nowNs) {Slot : Type} (found : Option Slot) (deadlineOf : Slot → Option Nat)
  {arm : Nat → Option Nat} (harm : ∀ secs, (arm secs).isSome ↔ secs ≠ 0)

include harm

/-- The last pass arms the temporary blocks still running. -/
lemma isSome_arm_remaining :
    (((found.filter fun slot => !expired (deadlineOf slot) nowNs).map fun slot =>
        remaining (deadlineOf slot) nowNs).bind arm).isSome ↔
      ∃ slot deadline, found = some slot ∧ deadlineOf slot = some deadline ∧ nowNs < deadline := by
  cases found with
  | none => simp
  | some slot =>
    cases hdeadline : deadlineOf slot with
    | none =>
      have hzero : ¬ (arm 0).isSome := by simp [harm]
      simpa [expired, remaining, hdeadline] using hzero
    | some deadline =>
      by_cases hrunning : nowNs < deadline
      · have hlive : (!expired (deadlineOf slot) nowNs) := by
          simp [expired, hdeadline, hrunning]
        rw [Option.filter_some, if_pos hlive, Option.map_some, Option.bind_some, harm, remaining,
          hdeadline, Option.map_some, Option.getD_some]
        exact iff_of_true (divCeil_pos hrunning) ⟨slot, deadline, rfl, hdeadline, hrunning⟩
      · simp [expired, hdeadline, hrunning, Nat.le_of_not_lt hrunning]

lemma isSome_arm_snapshot :
    ((found.bind fun slot => Boot.snapshotSecs (deadlineOf slot) nowNs).bind arm).isSome ↔
      ∃ slot deadline, found = some slot ∧ deadlineOf slot = some deadline ∧ nowNs < deadline := by
  cases found with
  | none => simp
  | some slot =>
    cases hdeadline : deadlineOf slot with
    | none => simp [Boot.snapshotSecs, liveDeadline, hdeadline]
    | some deadline =>
      by_cases hrunning : nowNs < deadline
      · have hlive : liveDeadline (some deadline) nowNs = some deadline := by
          simp [liveDeadline, hrunning]
        rw [Option.bind_some, hdeadline, Boot.snapshotSecs, hlive, Option.map_some,
          Option.bind_some, harm]
        exact iff_of_true (divCeil_pos hrunning) ⟨slot, deadline, rfl, hdeadline, hrunning⟩
      · simp [Boot.snapshotSecs, liveDeadline, hdeadline, hrunning]

end Armed

lemma isSome_armed :
    ((liveLease blocked clock.wallNs ip).bind (leaseBucket epoch clock)).isSome ↔
      Leased blocked clock.wallNs ip :=
  isSome_arm_remaining _ _ BlockFold.deadlineNs (isSome_leaseBucket clock epoch)

lemma isSome_rearmed :
    (((blocked.lookup ip).bind fun block => Boot.snapshotSecs block.deadlineNs clock.wallNs).bind
      (leaseBucket epoch clock)).isSome ↔ Leased blocked clock.wallNs ip :=
  isSome_arm_snapshot _ _ BlockFold.deadlineNs (isSome_leaseBucket clock epoch)

lemma cidrLeased_iff {blocked : Table IpNetwork (Option Nat)} {nowNs : Nat}
    {network : IpNetwork} :
    CidrLeased blocked nowNs network ↔ ∃ slot deadline, blocked.lookup network = some slot ∧
      id slot = some deadline ∧ nowNs < deadline := by
  simp [CidrLeased]

lemma isSome_cidrArmed (log : List WalEntry) (clock : Clock) (network : IpNetwork) :
    ((cidrLease (foldCidrs clock.wallNs ∅ log) clock.wallNs network).bind
      (cidrDeadline clock)).isSome ↔ CidrLeased (log.foldl foldCidr ∅) clock.wallNs network := by
  rw [cidrLeased_iff, ← isSome_arm_remaining _ _ id (isSome_cidrDeadline clock), cidrLease,
    foldCidrs, lookup_filter]
  rfl

lemma isSome_cidrRearmed (blocked : Table IpNetwork (Option Nat)) (kept : Finset IpNetwork)
    (clock : Clock) (network : IpNetwork) :
    (((blocked.lookup network).bind fun deadline =>
      if network ∈ kept then Boot.snapshotSecs deadline clock.wallNs else none).bind
        (cidrDeadline clock)).isSome ↔
      network ∈ kept ∧ CidrLeased blocked clock.wallNs network := by
  by_cases hkept : network ∈ kept
  · rw [cidrLeased_iff, ← isSome_arm_snapshot _ _ id (isSome_cidrDeadline clock)]
    simp only [hkept, if_true, true_and, id]
  · cases blocked.lookup network <;> simp [hkept]

end Replay

/-- What the tail has to respect. A running lease of the prefix is not withdrawn:
the tail may only replace it by another running lease. A permanent block of the
prefix is not replaced by a block that has already expired. A running lease of a
network is not replaced by a permanent block. -/
structure TailKeeps (log tail : List WalEntry) (nowNs : Nat) : Prop where
  leased (ip : IpAddr) : Leased (log.foldl foldIp ∅) nowNs ip →
    Leased ((log ++ tail).foldl foldIp ∅) nowNs ip
  permanent (ip : IpAddr) (block last : BlockFold) :
    (log.foldl foldIp ∅).lookup ip = some block → block.deadlineNs = none →
    ((log ++ tail).foldl foldIp ∅).lookup ip = some last →
    expired last.deadlineNs nowNs = false
  cidrs (network : IpNetwork) : CidrLeased (log.foldl foldCidr ∅) nowNs network →
    ((log ++ tail).foldl foldCidr ∅).lookup network ≠ some none

namespace TailKeeps

/-- The empty prefix leaves nothing to keep. -/
lemma of_nil (tail : List WalEntry) (nowNs : Nat) : TailKeeps [] tail nowNs where
  leased := by
    rintro ip ⟨block, deadline, hblock, _⟩
    cases hblock
  permanent := by
    intro ip block last hblock
    cases hblock
  cidrs := by
    rintro network ⟨deadline, hdeadline, _⟩
    cases hdeadline

variable {log tail : List WalEntry}

lemma live (hkeeps : TailKeeps log tail nowNs) {ip : IpAddr}
    (hlive : (liveBlock (log.foldl foldIp ∅) nowNs ip).isSome)
    (hmem : ip ∈ ((log ++ tail).foldl foldIp ∅).keys) :
    (liveLease ((log ++ tail).foldl foldIp ∅) nowNs ip).isSome := by
  obtain ⟨block, hblock⟩ := Option.isSome_iff_exists.mp hlive
  obtain ⟨hblock, hunexpired⟩ := liveBlock_eq_some.mp hblock
  obtain ⟨last, hlast⟩ := mem_keys_iff_lookup.mp hmem
  rw [liveLease_isSome]
  cases hdeadline : block.deadlineNs with
  | none => exact ⟨last, hlast, hkeeps.permanent ip block last hblock hdeadline hlast⟩
  | some deadline =>
    have hrunning : nowNs < deadline := by simpa [expired, hdeadline] using hunexpired
    obtain ⟨final, later, hfinal, hlater, hstill⟩ :=
      hkeeps.leased ip ⟨block, deadline, hblock, hdeadline, hrunning⟩
    exact ⟨final, hfinal, by simp [expired, hlater, hstill]⟩

lemma cidrLeased (hkeeps : TailKeeps log tail nowNs) {network : IpNetwork}
    (hmem : network ∈ (foldCidrs nowNs ∅ (log ++ tail)).keys)
    (hleased : CidrLeased (log.foldl foldCidr ∅) nowNs network) :
    CidrLeased ((log ++ tail).foldl foldCidr ∅) nowNs network := by
  obtain ⟨last, hlast⟩ := mem_keys_iff_lookup.mp hmem
  obtain ⟨hlast, hunexpired⟩ := lookup_foldCidrs.mp hlast
  cases last with
  | none => exact absurd hlast (hkeeps.cidrs network hleased)
  | some deadline => exact ⟨deadline, hlast, by simpa [expired] using hunexpired⟩

end TailKeeps

namespace Boot

variable {epoch : Instant} {log tail : List WalEntry} {full cut : EnforcementService}

lemma FromLog.sameBoot (hfull : FromLog clock epoch log full)
    (hcut : FromLog clock epoch log cut) (toleranceSecs : Nat) :
    SameBoot toleranceSecs full cut where
  holds ip := (hfull.holds ip).trans (hcut.holds ip).symm
  activeCidrs := hfull.activeCidrs.trans hcut.activeCidrs.symm
  leases ip := by
    rw [hfull.leases, hcut.leases]
    exact leaseAgrees_self _ _
  cidrLeases network := by
    rw [hfull.cidrLeases, hcut.cidrLeases]
    exact leaseAgrees_self _ _

section

variable (hfull : FromLog clock epoch (log ++ tail) full)
  (hcut : FromSnapshot clock epoch log tail cut)

include hfull hcut

lemma FromSnapshot.sameBoot (hkeeps : TailKeeps log tail clock.wallNs) (toleranceSecs : Nat) :
    SameBoot toleranceSecs full cut where
  holds ip := by
    rw [hfull.holds, hcut.holds]
    exact ⟨.inl, fun hor => hor.elim id fun hboth => hkeeps.live hboth.1 hboth.2⟩
  activeCidrs := hfull.activeCidrs.trans hcut.activeCidrs.symm
  leases ip := by
    rw [hfull.leases, hcut.leases, leaseAgrees_or_iff, isSome_armed, isSome_rearmed]
    exact hkeeps.leased ip
  cidrLeases network := by
    rw [hfull.cidrLeases, hcut.cidrLeases, leaseAgrees_or_iff, isSome_cidrArmed, isSome_cidrRearmed]
    exact fun hboth => hkeeps.cidrLeased hboth.1 hboth.2

lemma FromSnapshot.tailKeeps {toleranceSecs : Nat} (hsame : SameBoot toleranceSecs full cut) :
    TailKeeps log tail clock.wallNs where
  leased := by
    intro ip hleased
    have hagrees := hsame.leases ip
    rw [hfull.leases, hcut.leases, leaseAgrees_or_iff, isSome_armed, isSome_rearmed] at hagrees
    exact hagrees hleased
  permanent := by
    intro ip block last hblock hpermanent hlast
    have hlive : (liveBlock (log.foldl foldIp ∅) clock.wallNs ip).isSome :=
      Option.isSome_iff_exists.mpr
        ⟨block, liveBlock_eq_some.mpr ⟨hblock, by simp [expired, hpermanent]⟩⟩
    have hblocked := (hcut.holds ip).mpr (.inr ⟨hlive, mem_keys_iff_lookup.mpr ⟨last, hlast⟩⟩)
    rw [← hsame.holds, hfull.holds, liveLease_isSome] at hblocked
    obtain ⟨final, hfinal, hunexpired⟩ := hblocked
    rw [hlast] at hfinal
    cases hfinal
    exact hunexpired
  cidrs := by
    intro network hleased hpermanent
    have hagrees := hsame.cidrLeases network
    rw [hfull.cidrLeases, hcut.cidrLeases, leaseAgrees_or_iff, isSome_cidrArmed,
      isSome_cidrRearmed] at hagrees
    have hkept : network ∈ (foldCidrs clock.wallNs ∅ (log ++ tail)).keys :=
      mem_keys_iff_lookup.mpr ⟨none, lookup_foldCidrs.mpr ⟨hpermanent, rfl⟩⟩
    obtain ⟨deadline, hdeadline, _⟩ := hagrees ⟨hkept, hleased⟩
    rw [hpermanent] at hdeadline
    cases hdeadline

end

/-- A boot from a snapshot and the tail agrees with the boot from the whole log,
with whatever tolerance for the deadlines, exactly if the tail keeps what the
snapshot arms. -/
theorem snapshot_boot_agrees_iff (hclock : clock.mono ≤ u64Max)
    (fullOrders cutOrders : HashOrders) (hardWal : Bool) {ramLimitMb : Nat} (epoch : Instant)
    (hlocal : ∀ entry ∈ log ++ tail, entry.isMesh = false)
    (hroom : Replay.Room (Store.new.setRamLimitMb ramLimitMb) (2 * (log ++ tail).length))
    {snapshot : CheckpointSnapshot} (hfaithful : snapshot.Faithful log) (toleranceSecs : Nat) :
    ∃ full cut,
      recover clock fullOrders hardWal (fresh ramLimitMb epoch) ⟨log ++ tail⟩ 0 none = .ok full ∧
      recover clock cutOrders hardWal (fresh ramLimitMb epoch) ⟨log ++ tail⟩ log.length
        (some snapshot) = .ok cut ∧
      (SameBoot toleranceSecs full cut ↔ TailKeeps log tail clock.wallNs) := by
  have hfits : Room (Store.new.setRamLimitMb ramLimitMb) (log ++ tail).length :=
    hroom.mono (by omega) (le_refl _) rfl
  have hnone : (if 0 < 0 then none else none) = (none : Option CheckpointSnapshot) := rfl
  obtain ⟨full, hfull, hfromLog⟩ := recover_full clock fullOrders hardWal epoch hlocal hfits hnone
  rcases Nat.eq_zero_or_pos log.length with hnil | hcut
  · -- A manifest at position zero names no snapshot, so both boots read the whole log.
    have hunused : (if 0 < log.length then some snapshot else none) = none := by
      rw [hnil]
      rfl
    obtain ⟨cut, hcutBoot, hagain⟩ :=
      recover_full clock cutOrders hardWal epoch hlocal hfits hunused
    rw [length_eq_zero_iff] at hnil
    subst hnil
    exact ⟨full, cut, hfull, hcutBoot,
      iff_of_true (hfromLog.sameBoot hagain _) (.of_nil tail clock.wallNs)⟩
  · obtain ⟨cut, hcutBoot, hfromSnapshot⟩ :=
      recover_snapshot hclock cutOrders hardWal epoch hlocal hroom hfaithful hcut
    exact ⟨full, cut, hfull, hcutBoot,
      ⟨hfromSnapshot.tailKeeps hfromLog, fun hkeeps => hfromSnapshot.sameBoot hfromLog hkeeps _⟩⟩

end Boot

def CheckpointSnapshot.single : CheckpointSnapshot :=
  ⟨1, 0, [⟨.v4 1, "manual", 0, some (10 * secNs)⟩], [], none⟩

lemma CheckpointSnapshot.single_faithful :
    CheckpointSnapshot.single.Faithful [.blockIp (some (.v4 1)) "manual" (some 10) 0] where
  ips_nodup := by decide
  ips := by
    intro ip block
    rw [foldl_cons, foldl_nil, foldIp, lookup_insert_eq]
    by_cases hip : ip = .v4 1#32
    · simp [hip, single, IpBlockSnapshot.toFold, reasonToBlockReason]
      rfl
    · simp [hip, Ne.symm hip, single]
  cidrs_nodup := by decide
  cidrs := by
    intro network deadline
    constructor
    · intro hdeadline
      cases hdeadline
    · rintro ⟨entry, hentry, _⟩
      cases hentry
  mesh := rfl

namespace Boot

/-- The tail renews the lease of the snapshot. -/
theorem snapshot_boot_agrees_renewed : ∃ full cut,
      recover ⟨0, 0⟩ .sorted true (fresh 64 0)
        ⟨[.blockIp (some (.v4 1)) "manual" (some 10) 0] ++
          [.blockIp (some (.v4 1)) "manual" (some 20) 0]⟩ 0 none = .ok full ∧
      recover ⟨0, 0⟩ .sorted true (fresh 64 0)
        ⟨[.blockIp (some (.v4 1)) "manual" (some 10) 0] ++
          [.blockIp (some (.v4 1)) "manual" (some 20) 0]⟩ 1 (some .single) = .ok cut ∧
      (SameBoot 1 full cut ↔ TailKeeps [.blockIp (some (.v4 1)) "manual" (some 10) 0]
        [.blockIp (some (.v4 1)) "manual" (some 20) 0] 0) :=
  snapshot_boot_agrees_iff (Nat.zero_le _) .sorted .sorted true 0 (by decide) (by decide)
    CheckpointSnapshot.single_faithful 1

/-- The tail makes the block of the snapshot permanent: the boot from the whole
log arms nothing, the boot from the snapshot keeps the lease of ten seconds. -/
theorem snapshot_boot_agrees_fails : ∃ full cut,
      recover ⟨0, 0⟩ .sorted true (fresh 64 0)
        ⟨[.blockIp (some (.v4 1)) "manual" (some 10) 0] ++
          [.blockIp (some (.v4 1)) "manual" none 0]⟩ 0 none = .ok full ∧
      recover ⟨0, 0⟩ .sorted true (fresh 64 0)
        ⟨[.blockIp (some (.v4 1)) "manual" (some 10) 0] ++
          [.blockIp (some (.v4 1)) "manual" none 0]⟩ 1 (some .single) = .ok cut ∧
      CheckpointSnapshot.single.Faithful [.blockIp (some (.v4 1)) "manual" (some 10) 0] ∧
      full.leases.lease (.v4 1) = none ∧ cut.leases.lease (.v4 1) = some 10 ∧
      ¬ SameBoot 1 full cut := by
  have hlocal : ∀ entry ∈ [WalEntry.blockIp (some (.v4 1)) "manual" (some 10) 0] ++
      [.blockIp (some (.v4 1)) "manual" none 0], entry.isMesh = false := by decide
  obtain ⟨full, hfull, hfromLog⟩ := @recover_full ⟨0, 0⟩ .sorted true 64 0 _ hlocal (by decide) 0
    none rfl
  obtain ⟨cut, hcut, hfromSnapshot⟩ := @recover_snapshot _ _ ⟨0, 0⟩ (Nat.zero_le _) .sorted true
    64 0 _ hlocal (by decide) CheckpointSnapshot.single_faithful Nat.zero_lt_one
  have hnone : full.leases.lease (.v4 1) = none := by
    rw [hfromLog.leases]
    decide
  have harmed : cut.leases.lease (.v4 1) = some 10 := by
    rw [hfromSnapshot.leases]
    decide
  refine ⟨full, cut, hfull, hcut, CheckpointSnapshot.single_faithful, hnone, harmed, ?_⟩
  intro hsame
  have hagrees := hsame.leases (.v4 1)
  rw [hnone, harmed] at hagrees
  exact hagrees

end Boot

end RamShield
