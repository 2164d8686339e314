import RamShield.Enforcement.Replay
import RamShield.Foundation.Run
import RamShield.Storage.BlockRecords

/-! # What recovery leaves in the store

`replay_wal_into_store_seeded_internal` on a store of address records
with room for the folded blocks: it succeeds, and the blocked addresses are the
live ones of the fold together with those that the fold did not release.
-/

namespace RamShield

open Foundation List

namespace Replay

def liveBlock (blocked : Table IpAddr BlockFold) (nowNs : Nat) (ip : IpAddr) : Option BlockFold :=
  (blocked.lookup ip).filter fun block => !expired block.deadlineNs nowNs

def liveLease (blocked : Table IpAddr BlockFold) (nowNs : Nat) (ip : IpAddr) : Option Nat :=
  (liveBlock blocked nowNs ip).map fun block => remaining block.deadlineNs nowNs

variable {blocked : Table IpAddr BlockFold} {nowNs count : Nat} {ip : IpAddr} {block : BlockFold}
  {store : Store}

lemma liveBlock_eq_some : liveBlock blocked nowNs ip = some block ↔
      blocked.lookup ip = some block ∧ expired block.deadlineNs nowNs = false := by
  simp [liveBlock, Option.filter_eq_some_iff]

lemma liveLease_isSome :
    (liveLease blocked nowNs ip).isSome ↔
      ∃ block, blocked.lookup ip = some block ∧ expired block.deadlineNs nowNs = false := by
  simp only [liveLease, Option.isSome_map, Option.isSome_iff_exists, liveBlock_eq_some]

def Room (store : Store) (count : Nat) : Prop :=
  store.ramBytes + (recordSize * count : Nat) ≤ ramLimit store

instance (store : Store) (count : Nat) : Decidable (Room store count) :=
  inferInstanceAs (Decidable (_ ≤ _))

lemma Room.not_refuses (hroom : Room store (count + 1)) :
    store.refuses recordSize (ramLimit store) = false := by
  unfold Room at hroom
  rw [Nat.mul_succ] at hroom
  simp only [Store.refuses, decide_eq_false_iff_not]
  omega

variable {next : Store} {log : List WalEntry} (clock : Clock) (seed : Table IpAddr SeedBlock)
  (tail : List WalEntry)

lemma Room.mono {fewer : Nat} (hroom : Room store count) (hfewer : fewer ≤ count)
    (hbytes : next.ramBytes ≤ store.ramBytes) (hlimit : next.ramLimitMb = store.ramLimitMb) :
    Room next fewer := by
  have hmul : recordSize * fewer ≤ recordSize * count := Nat.mul_le_mul_left _ hfewer
  unfold Room ramLimit at *
  rw [hlimit]
  omega

lemma Room.after_insert (hroom : Room store (count + 1))
    (hbytes : next.ramBytes ≤ store.ramBytes + recordSize)
    (hlimit : next.ramLimitMb = store.ramLimitMb) : Room next count := by
  unfold Room ramLimit at *
  rw [Nat.mul_succ] at hroom
  rw [hlimit]
  omega

/-! ## The final loop -/

lemma restoredRecord_blocked (store : Store) (ip : IpAddr) (block : BlockFold) :
    (restoredRecord clock store ip block).blockState.isBlocked := by
  unfold restoredRecord
  dsimp only
  split <;> rfl

lemma restoreBlock_live (hrecords : store.Records) (hroom : Room store (count + 1))
    (clock : Clock) (ip : IpAddr) (hlive : expired block.deadlineNs clock.wallNs = false) :
    ∃ next, restoreBlock clock store ip block =
        (.ok (some (remaining block.deadlineNs clock.wallNs)), next) ∧
      Store.Sets store next ip true ∧ Room next count := by
  have hfits : ∀ secs ∈ (none : Option Nat),
      (Instant.checkedAddSecs clock.mono secs).isSome := by simp
  rcases Store.insert_records hrecords clock.mono ip
    (restoredRecord clock store ip block) hfits (ramLimit store) with
    ⟨_, hrefused, _⟩ | ⟨next, hinsert, hsets, hbytes, _⟩
  · rw [hroom.not_refuses] at hrefused
    cases hrefused
  · rw [restoredRecord_blocked] at hsets
    refine ⟨next, ?_, hsets, hroom.after_insert hbytes hsets.ramLimitMb⟩
    unfold restoreBlock
    simp only [hlive, Bool.false_eq_true, if_false, hinsert]

lemma restoreBlocks_cons_of_none {head : IpAddr}
    (hnone : liveLease blocked clock.wallNs head = none) (ips : List IpAddr) (store : Store) :
    restoreBlocks clock blocked (head :: ips) store = restoreBlocks clock blocked ips store := by
  rw [restoreBlocks]
  cases hblock : blocked.lookup head with
  | none => rfl
  | some block =>
    have hexpired : expired block.deadlineNs clock.wallNs = true := by
      simpa [liveLease, liveBlock, hblock, Option.filter] using hnone
    dsimp only
    rw [restoreBlock, if_pos hexpired]
    dsimp only
    split
    next hrest => rw [hrest]
    next hrest => rw [hrest]; rfl

lemma restoreBlocks_spec (blocked : Table IpAddr BlockFold) (ips : List IpAddr)
    (hrecords : store.Records) (hroom : Room store ips.length) :
    ∃ next, restoreBlocks clock blocked ips store =
        (.ok (ips.filterMap fun ip => (liveLease blocked clock.wallNs ip).map (ip, ·)), next) ∧
      next.Records ∧ next.activeCidrs = store.activeCidrs ∧
      ∀ ip, next.holds ip ↔
        (ip ∈ ips ∧ (liveLease blocked clock.wallNs ip).isSome) ∨ store.holds ip := by
  induction ips generalizing store with
  | nil => exact ⟨store, rfl, hrecords, rfl, fun ip => by simp⟩
  | cons head ips ih =>
    cases hlease : liveLease blocked clock.wallNs head with
    | none =>
      obtain ⟨next, hrest, hnext, hcidrs, hholds⟩ :=
        ih hrecords (hroom.mono (Nat.le_succ _) (le_refl _) rfl)
      refine ⟨next, ?_, hnext, hcidrs, ?_⟩
      · simp [restoreBlocks_cons_of_none clock hlease, hrest, hlease]
      · intro ip
        rw [hholds, mem_cons]
        by_cases hip : ip = head
        · simp [hip, hlease]
        · simp [hip]
    | some secs =>
      obtain ⟨block, hlive, rfl⟩ := Option.map_eq_some_iff.mp hlease
      obtain ⟨hblock, hexpired⟩ := liveBlock_eq_some.mp hlive
      obtain ⟨middle, hpublish, hsets, hleft⟩ :=
        restoreBlock_live hrecords hroom clock head hexpired
      obtain ⟨next, hrest, hnext, hcidrs, hholds⟩ := ih hsets.records hleft
      refine ⟨next, ?_, hnext, hcidrs.trans hsets.activeCidrs, ?_⟩
      · simp [restoreBlocks, hblock, hpublish, hrest, hlease]
      · intro ip
        rw [hholds, hsets.holds, mem_cons]
        by_cases hip : ip = head
        · simp [hip, hlease]
        · simp [hip]

lemma release_spec (released : List IpAddr) (hrecords : store.Records)
    (hroom : Room store count) :
    let next := released.foldl (fun store ip => (store.remove ip).2) store
    next.Records ∧ next.activeCidrs = store.activeCidrs ∧ Room next count ∧
      ∀ ip, next.holds ip ↔ ip ∉ released ∧ store.holds ip := by
  induction released generalizing store with
  | nil => exact ⟨hrecords, rfl, hroom, fun ip => by simp⟩
  | cons head released ih =>
    obtain ⟨hsets, hbytes⟩ := Store.remove_records hrecords head
    obtain ⟨hnext, hcidrs, hleft, hholds⟩ :=
      ih hsets.records (hroom.mono (le_refl _) hbytes hsets.ramLimitMb)
    refine ⟨hnext, hcidrs.trans hsets.activeCidrs, hleft, ?_⟩
    intro ip
    rw [foldl_cons, hholds, hsets.holds, mem_cons]
    by_cases hip : ip = head
    · simp [hip]
    · simp [hip]

lemma replayWalIntoStoreSeeded_spec {clock : Clock} (ips : IterOrder IpAddr)
    {dots : IterOrder BlockKey} (hrecords : store.Records) {wal : Wal} {minLsn : Nat}
    {seed : Table IpAddr SeedBlock} {meshSeed : Option MeshReplaySeed} {touched : Finset IpAddr}
    {meshActive : Table IpAddr BlockFold}
    (hmesh : replayMeshState dots wal minLsn meshSeed clock.wallNs = .ok (touched, meshActive))
    (hblocked : blocked = foldBlocks seed (wal.replayFrom minLsn) touched meshActive)
    (hroom : Room store blocked.keys.card) :
    ∃ next, replayWalIntoStoreSeeded clock ips dots store wal minLsn seed meshSeed =
        (.ok ((ips.enum blocked.keys).filterMap fun ip =>
          (liveLease blocked clock.wallNs ip).map (ip, ·)), next) ∧
      next.Records ∧ next.activeCidrs = store.activeCidrs ∧
      ∀ ip, next.holds ip ↔
        (liveLease blocked clock.wallNs ip).isSome ∨
          ((ip ∈ seed.keys → ip ∈ blocked.keys) ∧ store.holds ip) := by
  obtain ⟨hreleased, hcidrs, hleft, hkept⟩ :=
    release_spec (ips.enum (seed.keys.filter fun ip => ip ∉ blocked.keys)) hrecords hroom
  rw [← ips.length_enum] at hleft
  obtain ⟨next, hrest, hnext, hsame, hholds⟩ :=
    restoreBlocks_spec clock blocked (ips.enum blocked.keys) hreleased hleft
  refine ⟨next, ?_, hnext, hsame.trans hcidrs, ?_⟩
  · unfold replayWalIntoStoreSeeded
    rw [hmesh]
    dsimp only
    rw [← hblocked]
    exact hrest
  · intro ip
    rw [hholds, hkept, ips.mem_enum, ips.mem_enum, Finset.mem_filter]
    have hlisted : (liveLease blocked clock.wallNs ip).isSome → ip ∈ blocked.keys := by
      intro hlive
      obtain ⟨block, hblock, _⟩ := liveLease_isSome.mp hlive
      exact Table.mem_keys_iff_lookup.mpr ⟨block, hblock⟩
    constructor
    · rintro (⟨_, hlive⟩ | ⟨hnot, hheld⟩)
      · exact .inl hlive
      · refine .inr ⟨fun hseeded => ?_, hheld⟩
        by_contra habsent
        exact hnot ⟨hseeded, habsent⟩
    · rintro (hlive | ⟨himp, hheld⟩)
      · exact .inl ⟨hlisted hlive, hlive⟩
      · exact .inr ⟨fun hboth => hboth.2 (himp hboth.1), hheld⟩

/-! ## Logs without mesh records -/

lemma foldMesh_local (hlocal : ∀ entry ∈ log, entry.isMesh = false) (fold : MeshFold) :
    foldMesh fold log = .ok fold := by
  induction log with
  | nil => rfl
  | cons entry log ih =>
    have hrest := ih fun other hmem => hlocal other (mem_cons_of_mem _ hmem)
    cases entry with
    | meshMutation mutation => exact absurd (hlocal _ mem_cons_self) (by simp [WalEntry.isMesh])
    | _ => exact hrest

lemma replayMeshState_local (hlocal : ∀ entry ∈ log, entry.isMesh = false)
    (dots : IterOrder BlockKey) (minLsn nowNs : Nat) :
    replayMeshState dots ⟨log⟩ minLsn none nowNs = .ok (∅, ∅) := by
  have hempty : dots.enum (∅ : Finset BlockKey) = [] := by
    refine eq_nil_iff_forall_not_mem.mpr fun key hmem => ?_
    simpa using dots.mem_enum.mp hmem
  simp [replayMeshState, foldMesh_local hlocal, MeshFold.empty, hempty]

lemma lookup_foldBlocks (touched : Finset IpAddr) (meshActive : Table IpAddr BlockFold)
    (ip : IpAddr) :
    (foldBlocks seed tail touched meshActive).lookup ip = (meshActive.lookup ip).or
      (((tail.foldl foldIp (seed.mapValues SeedBlock.toFold)).lookup ip).filter
        fun _ => ip ∉ touched) := by
  unfold foldBlocks
  rw [Table.lookup_union, Table.lookup_filter]

lemma foldBlocks_local :
    foldBlocks seed tail ∅ ∅ = tail.foldl foldIp (seed.mapValues SeedBlock.toFold) := by
  apply Finmap.ext_lookup
  intro ip
  rw [lookup_foldBlocks]
  cases (tail.foldl foldIp (seed.mapValues SeedBlock.toFold)).lookup ip <;> simp

/-- Every record adds at most one address. -/
lemma card_foldIp_le (log : List WalEntry) (blocked : Table IpAddr BlockFold) :
    (log.foldl foldIp blocked).keys.card ≤ blocked.keys.card + log.length := by
  induction log generalizing blocked with
  | nil => simp
  | cons entry log ih =>
    have hone : (foldIp blocked entry).keys.card ≤ blocked.keys.card + 1 := by
      unfold foldIp
      split
      · rw [Table.keys_insert]
        exact Finset.card_insert_le _ _
      · rw [Finmap.keys_erase]
        exact (Finset.card_erase_le).trans (Nat.le_succ _)
      · exact Nat.le_succ _
    have hrest := ih (foldIp blocked entry)
    simp only [foldl_cons, length_cons]
    omega

end Replay

end RamShield
