import RamShield.Detection.Merge
import RamShield.Foundation.Buckets
import RamShield.Storage.Accounting

/-! # The subnet index

`subnet_index` lists the addresses of the store under their subnets. The merge of the
detector adds to it, after the record is stored; the paths that drop a record take from it.
The other operations of the store leave it alone, so a record that they publish is not listed.
-/

namespace RamShield

open Foundation Foundation.Machine Finset

namespace Store

/-! ## The index as buckets -/

variable (store : Store)

lemma subnetIndex_updateSubnetIndex_add (ip : IpAddr) (key : BitVec 128) :
    (store.updateSubnetIndex ip (some key) false).subnetIndex =
      Buckets.add maxSubnetIndexKeys store.subnetIndex key ip := by
  unfold updateSubnetIndex Buckets.add
  dsimp only
  cases store.subnetIndex.lookup key with
  | some members => rfl
  | none =>
    dsimp only
    split
    · rfl
    · rfl

lemma subnetIndex_updateSubnetIndex_remove (ip : IpAddr) (key : BitVec 128) :
    (store.updateSubnetIndex ip (some key) true).subnetIndex =
      Buckets.remove store.subnetIndex key ip := by
  unfold updateSubnetIndex Buckets.remove
  dsimp only
  cases store.subnetIndex.lookup key with
  | none => rfl
  | some members =>
    dsimp only
    split
    · rfl
    · rfl

/-- The subnet index names resident addresses, each under its own subnet. -/
structure SubnetIndexSound (store : Store) : Prop where
  tidy : Buckets.Tidy maxSubnetIndexKeys store.subnetIndex
  resident {key : BitVec 128} {ip : IpAddr} (hlists : Buckets.Lists store.subnetIndex key ip) :
    ip ∈ store.inner.keys
  key {key : BitVec 128} {ip : IpAddr} (hlists : Buckets.Lists store.subnetIndex key ip) :
    subnetKeyU128 ip = some key

def SubnetListed (store : Store) (ip : IpAddr) : Prop :=
  ∃ key, subnetKeyU128 ip = some key ∧ Buckets.Lists store.subnetIndex key ip

def SubnetCovers (store : Store) (ips : Finset IpAddr) : Prop :=
  ∀ ip ∈ ips, ip ∈ store.inner.keys → store.SubnetListed ip

lemma new_subnetIndexSound : SubnetIndexSound new := by
  have hnone : ∀ key ip, ¬Buckets.Lists new.subnetIndex key ip := by
    rintro key ip ⟨members, hmembers, _⟩
    cases hmembers
  exact ⟨Buckets.tidy_empty _, fun hlists => (hnone _ _ hlists).elim,
    fun hlists => (hnone _ _ hlists).elim⟩

/-! ## What an operation does to the index -/

structure LeavesSubnetIndex (store next : Store) : Prop where
  index : next.subnetIndex = store.subnetIndex
  resident : store.inner.keys ⊆ next.inner.keys

structure Enlists (store : Store) (ip : IpAddr) (next : Store) : Prop where
  index {key : BitVec 128} (hkey : subnetKeyU128 ip = some key) :
    next.subnetIndex = Buckets.add maxSubnetIndexKeys store.subnetIndex key ip
  resident : Insert.insert ip store.inner.keys ⊆ next.inner.keys

structure Delists (store : Store) (ip : IpAddr) (next : Store) : Prop where
  index {key : BitVec 128} (hkey : subnetKeyU128 ip = some key) :
    next.subnetIndex = Buckets.remove store.subnetIndex key ip
  resident : next.inner.keys = store.inner.keys.erase ip

lemma exists_subnetKeyU128 (ip : IpAddr) : ∃ key, subnetKeyU128 ip = some key := by
  cases ip with
  | v4 bits => exact ⟨_, rfl⟩
  | v6 bits => exact ⟨_, rfl⟩

section Preservation

variable {store} {next : Store} {ips : Finset IpAddr} {ip : IpAddr}

lemma SubnetIndexSound.of_leaves (hsound : store.SubnetIndexSound)
    (hleaves : store.LeavesSubnetIndex next) : next.SubnetIndexSound := by
  obtain ⟨hindex, hresident⟩ := hleaves
  refine ⟨hindex ▸ hsound.tidy, fun hlists => ?_, fun hlists => ?_⟩
  · exact hresident (hsound.resident (hindex ▸ hlists))
  · exact hsound.key (hindex ▸ hlists)

lemma SubnetIndexSound.of_enlists (hsound : store.SubnetIndexSound)
    (henlists : store.Enlists ip next) : next.SubnetIndexSound := by
  obtain ⟨own, hown⟩ := exists_subnetKeyU128 ip
  have hindex := henlists.index hown
  refine ⟨hindex ▸ hsound.tidy.add own ip, fun hlists => ?_, fun hlists => ?_⟩
  · rcases Buckets.lists_of_lists_add (hindex ▸ hlists) with hold | ⟨_, hsame⟩
    · exact henlists.resident (mem_insert_of_mem (hsound.resident hold))
    · exact henlists.resident (hsame ▸ mem_insert_self _ _)
  · rcases Buckets.lists_of_lists_add (hindex ▸ hlists) with hold | ⟨hkey, hsame⟩
    · exact hsound.key hold
    · rw [hkey, hsame, hown]

lemma SubnetIndexSound.of_delists (hsound : store.SubnetIndexSound)
    (hdelists : store.Delists ip next) : next.SubnetIndexSound := by
  obtain ⟨own, hown⟩ := exists_subnetKeyU128 ip
  have hindex := hdelists.index hown
  refine ⟨hindex ▸ hsound.tidy.remove own ip, fun {key listed} hlists => ?_, fun hlists => ?_⟩
  · obtain ⟨hold, hother⟩ := Buckets.lists_remove_iff.mp (hindex ▸ hlists)
    rw [hdelists.resident, mem_erase]
    refine ⟨fun hsame => hother ⟨?_, hsame⟩, hsound.resident hold⟩
    -- The address that leaves is listed under its own subnet at most.
    have hkey := hsound.key hold
    rw [hsame, hown] at hkey
    exact (Option.some.inj hkey).symm
  · exact hsound.key (Buckets.lists_remove_iff.mp (hindex ▸ hlists)).1

lemma SubnetCovers.of_leaves (hcovers : store.SubnetCovers ips)
    (hresident : ips ⊆ store.inner.keys) (hleaves : store.LeavesSubnetIndex next) :
    next.SubnetCovers ips := by
  intro other hother _
  obtain ⟨key, hkey, hlists⟩ := hcovers other hother (hresident hother)
  exact ⟨key, hkey, hleaves.index ▸ hlists⟩

lemma SubnetCovers.of_enlists (hcovers : store.SubnetCovers ips)
    (hresident : ips ⊆ store.inner.keys) (henlists : store.Enlists ip next)
    (hroom : store.subnetIndex.keys.card < maxSubnetIndexKeys) :
    next.SubnetCovers (Insert.insert ip ips) := by
  obtain ⟨own, hown⟩ := exists_subnetKeyU128 ip
  intro other hother _
  unfold SubnetListed
  rw [henlists.index hown]
  rcases mem_insert.mp hother with hsame | hold
  · exact ⟨own, hsame ▸ hown, hsame ▸ Buckets.lists_add_self hroom own ip⟩
  · obtain ⟨key, hkey, hlists⟩ := hcovers other hold (hresident hold)
    exact ⟨key, hkey, hlists.add _ own ip⟩

lemma SubnetCovers.of_delists (hcovers : store.SubnetCovers ips)
    (hdelists : store.Delists ip next) : next.SubnetCovers ips := by
  obtain ⟨own, hown⟩ := exists_subnetKeyU128 ip
  intro other hother hstays
  rw [hdelists.resident, mem_erase] at hstays
  obtain ⟨key, hkey, hlists⟩ := hcovers other hother hstays.2
  refine ⟨key, hkey, ?_⟩
  rw [hdelists.index hown]
  exact Buckets.lists_remove_iff.mpr ⟨hlists, fun hboth => hstays.1 hboth.2⟩

end Preservation

/-! ## The operations -/

@[simp] lemma syncBlockedIndex_subnetIndex (store : Store) (key : IpAddr) (was is : Bool) :
    (store.syncBlockedIndex key was is).subnetIndex = store.subnetIndex := by
  cases was <;> cases is <;> rfl

@[simp] lemma replaceEntry_subnetIndex (store : Store) (key : IpAddr) (old new : Entry) :
    (store.replaceEntry key old new).subnetIndex = store.subnetIndex := by
  simp [replaceEntry, applyGrowthSizeOnly]

@[simp] lemma publishFresh_subnetIndex (store : Store) (key : IpAddr) (entry : Entry) :
    (store.publishFresh key entry).subnetIndex = store.subnetIndex := by
  simp [publishFresh]

lemma LeavesSubnetIndex.refl (store : Store) : store.LeavesSubnetIndex store :=
  ⟨rfl, Finset.Subset.refl _⟩

variable {store} {next : Store}

lemma leavesSubnetIndex_of_insert {key : IpAddr} {entry : Entry}
    (hindex : next.subnetIndex = store.subnetIndex)
    (hinner : next.inner = store.inner.insert key entry) : store.LeavesSubnetIndex next := by
  refine ⟨hindex, ?_⟩
  rw [hinner, Table.keys_insert]
  exact subset_insert key _

lemma Writes.leavesSubnetIndex {now : Instant} {key : IpAddr} {stored : Bool}
    (hwrites : store.Writes now key stored next) : store.LeavesSubnetIndex next := by
  cases hwrites with
  | nothing => exact .refl store
  | replaces _ entry =>
    exact leavesSubnetIndex_of_insert (replaceEntry_subnetIndex ..) (replaceEntry_inner ..)
  | publishes _ entry =>
    exact leavesSubnetIndex_of_insert (publishFresh_subnetIndex ..) (publishFresh_inner ..)
  | restates _ _ updated =>
    exact leavesSubnetIndex_of_insert (syncBlockedIndex_subnetIndex _ _ _ _)
      (syncBlockedIndex_inner _ _ _ _)

section

variable (store) (now : Instant) (key : IpAddr)

lemma leavesSubnetIndex_updateIp {Result : Type} (default : IpRecord) (limit : Nat)
    (f : IpRecord → IpRecord × Result) :
    store.LeavesSubnetIndex (store.updateIp now key default limit f).2 := by
  rcases store.updateIp_writes now key default limit f with hwrites | ⟨_, _, _, _, heq⟩
  · exact hwrites.leavesSubnetIndex
  · rw [heq]
    exact leavesSubnetIndex_of_insert rfl rfl

lemma leavesSubnetIndex_updateBlockState (newState : BlockState) (limit : Nat) :
    store.LeavesSubnetIndex (store.updateBlockState now key newState limit).2 := by
  unfold updateBlockState
  split
  · split
    · exact leavesSubnetIndex_of_insert rfl rfl
    dsimp only
    split
    · exact leavesSubnetIndex_of_insert rfl rfl
    · exact leavesSubnetIndex_of_insert rfl rfl
  · dsimp only
    split
    · exact .refl store
    · exact leavesSubnetIndex_of_insert rfl rfl

end

lemma delists_dropEntry (store : Store) (ip : IpAddr) (entry : Entry) :
    store.Delists ip (store.dropEntry ip entry) := by
  refine ⟨fun {key} hkey => ?_, ?_⟩
  · unfold dropEntry
    dsimp only
    rw [hkey, subnetIndex_updateSubnetIndex_remove]
    dsimp only
    rw [syncBlockedIndex_subnetIndex]
  · ext other
    rw [(dropEntry_writes ..).1, Finmap.mem_keys, Finmap.mem_erase, mem_erase, Finmap.mem_keys]

lemma mem_keys_updateIp {Result : Type} {now : Instant} {key : IpAddr} {default : IpRecord}
    {limit : Nat} {f : IpRecord → IpRecord × Result}
    (hstored : (store.updateIp now key default limit f).1.2) :
    key ∈ (store.updateIp now key default limit f).2.inner.keys := by
  rw [Finmap.mem_keys]
  rcases store.updateIp_writes now key default limit f with hwrites | ⟨_, _, _, _, heq⟩
  · rw [hstored] at hwrites
    generalize (store.updateIp now key default limit f).2 = next at hwrites ⊢
    cases hwrites <;> simp
  · rw [heq]
    exact Finmap.mem_insert.mpr (.inl rfl)

lemma mergeRecord_snd (store : Store) (clock : Instant) (ip : IpAddr) (agg : IpAgg)
    (det : DetectionConfig) (ramLim now : Nat) (subnetKey : Option (BitVec 128)) :
    (store.mergeRecord clock ip agg det ramLim now subnetKey).2 =
      let update := store.updateIp clock ip (.unseen ip agg) ramLim (IpRecord.merge det agg now)
      if update.1.2 then update.2.updateSubnetIndex ip subnetKey false else update.2 := rfl

lemma mergeRecord_cases (store : Store) (clock : Instant) (ip : IpAddr) (agg : IpAgg)
    (det : DetectionConfig) (ramLim now : Nat) :
    let merge := store.mergeRecord clock ip agg det ramLim now (subnetKeyU128 ip)
    merge.1.2 ∧ store.Enlists ip merge.2 ∨ merge.1.2 = false ∧ merge.2 = store := by
  intro merge
  have hmerge := store.mergeRecord_snd clock ip agg det ramLim now (subnetKeyU128 ip)
  have hleaves := store.leavesSubnetIndex_updateIp clock ip (.unseen ip agg) ramLim
    (IpRecord.merge det agg now)
  dsimp only at hmerge
  split at hmerge
  next hstored =>
    refine .inl ⟨hstored, fun {key} hkey => ?_, ?_⟩
    · rw [hmerge, hkey, subnetIndex_updateSubnetIndex_add, hleaves.index]
    · rw [hmerge, inner_updateSubnetIndex]
      exact insert_subset (mem_keys_updateIp hstored) hleaves.resident
  next hstored =>
    have hrefused := Bool.eq_false_of_not_eq_true hstored
    exact .inr ⟨hrefused, hmerge.trans (updateIp_of_not_stored hrefused)⟩

/-! ## Eviction -/

/-- What every drop keeps, an eviction keeps. -/
lemma evictBatch_induction {holds : Store → Prop}
    (hdrop : ∀ store ip next, holds store → store.Delists ip next → holds next)
    (hstart : holds store) (now : Instant) (keys : List IpAddr) :
    holds (store.evictBatch now keys) := by
  refine run_invariant (fun before key hbefore => ?_) hstart keys
  unfold evictOne
  split
  next entry _ =>
    split
    · exact hdrop before key _ hbefore (delists_dropEntry before key entry)
    · exact hbefore
  · exact hbefore

/-- A write leaves the index alone, or drops records. -/
lemma step_induction {holds : Store → Prop}
    (hleave : ∀ next, store.LeavesSubnetIndex next → holds next)
    (hdrop : ∀ store ip next, holds store → store.Delists ip next → holds next) (call : Call) :
    holds (store.step call) := by
  have hstart := hleave store (.refl store)
  obtain ⟨now, op⟩ := call
  cases op with
  | insert key value ttlSecs limit =>
    exact hleave _ (store.insert_writes now key value ttlSecs limit).leavesSubnetIndex
  | blockIp key fallback limit =>
    exact hleave _ (store.blockIp_writes now key fallback limit).leavesSubnetIndex
  | unblockIp key => exact hleave _ (store.unblockIp_writes now key).leavesSubnetIndex
  | updateIp key default limit f =>
    exact hleave _ (store.leavesSubnetIndex_updateIp now key default limit _)
  | updateBlockState key newState limit =>
    exact hleave _ (store.leavesSubnetIndex_updateBlockState now key newState limit)
  | remove key =>
    change holds (store.remove key).2
    unfold remove
    split
    next entry _ => exact hdrop store key _ hstart (delists_dropEntry store key entry)
    · exact hstart
  | evictBatch keys => exact evictBatch_induction hdrop hstart now keys
  | evictExpired order =>
    change holds (store.evictExpired now order).2
    unfold evictExpired
    split
    · exact hstart
    · exact evictBatch_induction hdrop hstart now _

end Store

/-! ## Runs -/

/-- A merge of the detector, for the subnet of its address, or a write to the store. -/
inductive IndexAction
  | merge (clock : Instant) (ip : IpAddr) (agg : IpAgg) (det : DetectionConfig) (ramLim now : Nat)
  | write (call : Store.Call)

/-- The store, and the addresses resident since `merge_record` stored them. -/
structure IndexRun where
  store : Store
  promoted : Finset IpAddr

namespace IndexRun

def new : IndexRun := ⟨.new, ∅⟩

/-- The store after an action, and the addresses that the action promotes. -/
def act (store : Store) : IndexAction → Store × Finset IpAddr
  | .merge clock ip agg det ramLim now =>
    let merge := store.mergeRecord clock ip agg det ramLim now (Store.subnetKeyU128 ip)
    (merge.2, if merge.1.2 then {ip} else ∅)
  | .write call => (store.step call, ∅)

def step (run : IndexRun) (action : IndexAction) : IndexRun :=
  let next := act run.store action
  ⟨next.1, (run.promoted ∪ next.2).filter (· ∈ next.1.inner.keys)⟩

def HasRoom (run : IndexRun) : Prop := run.store.subnetIndex.keys.card < Store.maxSubnetIndexKeys

instance (run : IndexRun) : Decidable run.HasRoom := inferInstanceAs (Decidable (_ < _))

lemma subnetIndexSound_step {run : IndexRun} (hsound : run.store.SubnetIndexSound)
    (action : IndexAction) : (run.step action).store.SubnetIndexSound := by
  cases action with
  | merge clock ip agg det ramLim now =>
    rcases run.store.mergeRecord_cases clock ip agg det ramLim now with
      ⟨_, henlists⟩ | ⟨_, hsame⟩
    · exact hsound.of_enlists henlists
    · change Store.SubnetIndexSound (Store.mergeRecord _ _ _ _ _ _ _ _).2
      exact hsame.symm ▸ hsound
  | write call =>
    exact Store.step_induction (fun _ => hsound.of_leaves)
      (fun _ _ _ hbefore => hbefore.of_delists) call

/-- The promoted addresses are resident and listed. -/
structure Covered (run : IndexRun) : Prop where
  resident : run.promoted ⊆ run.store.inner.keys
  covers : run.store.SubnetCovers run.promoted

lemma covers_act {run : IndexRun} (hcovered : run.Covered) (hroom : run.HasRoom)
    (action : IndexAction) :
    (act run.store action).1.SubnetCovers (run.promoted ∪ (act run.store action).2) := by
  obtain ⟨hresident, hcovers⟩ := hcovered
  cases action with
  | merge clock ip agg det ramLim now =>
    unfold act
    dsimp only
    rcases run.store.mergeRecord_cases clock ip agg det ramLim now with
      ⟨hstored, henlists⟩ | ⟨hrefused, hsame⟩
    · rw [if_pos hstored, union_comm, ← insert_eq]
      exact hcovers.of_enlists hresident henlists hroom
    · rw [hrefused, hsame, if_neg Bool.false_ne_true, union_empty]
      exact hcovers
  | write call =>
    change (run.store.step call).SubnetCovers (run.promoted ∪ ∅)
    rw [union_empty]
    exact Store.step_induction (fun _ => hcovers.of_leaves hresident)
      (fun _ _ _ hbefore => hbefore.of_delists) call

lemma Covered.step {run : IndexRun} (hcovered : run.Covered) (hroom : run.HasRoom)
    (action : IndexAction) : (run.step action).Covered where
  resident _ hmem := (mem_filter.mp hmem).2
  covers ip hmem := covers_act hcovered hroom action ip (mem_filter.mp hmem).1

/-- In every run the subnet index names resident addresses, each under its own subnet, in
buckets that are not empty and not too many. As long as the number of keys has stayed below
the cap, it names every address that a merge stored and that is still resident. -/
theorem subnetIndex_consistent (actions : List IndexAction) :
    (run step new actions).store.SubnetIndexSound ∧
      (Along step HasRoom new actions →
        ∀ ip ∈ (run step new actions).promoted, (run step new actions).store.SubnetListed ip) := by
  refine ⟨?_, fun hroom ip hpromoted => ?_⟩
  · exact @run_invariant _ _ step (fun run => run.store.SubnetIndexSound)
      (fun _ action hsound => subnetIndexSound_step hsound action) new
      Store.new_subnetIndexSound actions
  · have hallowed := @Respects.of_along _ _ step HasRoom (fun run _ => run.HasRoom)
      (fun _ _ hbefore _ => hbefore) new actions hroom
    have hnew : new.Covered := ⟨empty_subset _, fun _ hmem => absurd hmem (by simp [new])⟩
    have hcovered := (@Along.of_respects _ _ step Covered (fun run _ => run.HasRoom)
      (fun _ action hcovered hbefore => hcovered.step hbefore action) new actions hnew
      hallowed).last
    exact hcovered.covers ip hpromoted (hcovered.resident hpromoted)

/-- Two hosts of one /24 are merged and the first is removed. The second is listed. -/
theorem subnetIndex_consistent_removed :
    let host : BitVec 32 → IndexAction := fun bits =>
      .merge 0 (.v4 bits) { IpAgg.default with count := 10 } .default 1000000 0
    let actions := [host 0x0A000001, host 0x0A000002, .write ⟨0, .remove (.v4 0x0A000001)⟩]
    (run step new actions).store.inner.keys = {.v4 0x0A000002} ∧
      (run step new actions).store.SubnetListed (.v4 0x0A000002) := by
  intro host actions
  have hlast : (run step new actions).HasRoom := by decide +kernel
  refine ⟨by decide +kernel, (subnetIndex_consistent actions).2 ⟨?_, ?_, ?_, hlast⟩ _ ?_⟩
  all_goals decide +kernel

end IndexRun

end RamShield
