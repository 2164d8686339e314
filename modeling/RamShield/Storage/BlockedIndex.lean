import RamShield.Foundation.Run
import RamShield.Storage.Store

/-! # The blocked index

`blocked_set` and `blocked_count` repeat what the stored values say: which
addresses are blocked, and how many. Every operation but `update_block_state`
keeps them exact. That one writes a block state past the index, and a run keeps
the index exact precisely when each of its calls leaves the blocked status of
its key as the index already has it.
-/

namespace RamShield.Store

open Foundation Foundation.Machine

/-! ## Operations as actions -/

/-- A closure for `update_ip` that honours its contract. -/
structure StatUpdate where
  apply : IpRecord → IpRecord
  keeps (record : IpRecord) : (apply record).blockState = record.blockState

/-- The operations that write to the store. -/
inductive Op
  | insert (key : IpAddr) (value : Value) (ttlSecs : Option Nat) (limit : Nat)
  | blockIp (key : IpAddr) (fallback : IpRecord) (limit : Nat)
  | unblockIp (key : IpAddr)
  | updateIp (key : IpAddr) (default : IpRecord) (limit : Nat) (f : StatUpdate)
  | updateBlockState (key : IpAddr) (newState : BlockState) (limit : Nat)
  | remove (key : IpAddr)
  | evictBatch (keys : List IpAddr)
  | evictExpired (order : IterOrder IpAddr)

/-- An operation and the clock reading it is made at. -/
structure Call where
  now : Instant
  op : Op

variable (store : Store)

def step (call : Call) : Store :=
  match call.op with
  | .insert key value ttlSecs limit => (store.insert call.now key value ttlSecs limit).2
  | .blockIp key fallback limit => (store.blockIp call.now key fallback limit).2
  | .unblockIp key => (store.unblockIp call.now key).2
  | .updateIp key default limit f =>
    (store.updateIp call.now key default limit fun record => (f.apply record, ())).2
  | .updateBlockState key newState limit => (store.updateBlockState call.now key newState limit).2
  | .remove key => (store.remove key).2
  | .evictBatch keys => store.evictBatch call.now keys
  | .evictExpired order => (store.evictExpired call.now order).2

/-! ## What the primitives do to the index -/

/-- The index holds exactly the addresses whose stored value is blocked. -/
structure IndexExact : Prop where
  mem (ip : IpAddr) : ip ∈ store.blockedSet ↔ store.blockedAt ip = true
  count : store.blockedCount = store.blockedSet.card

lemma new_indexExact : IndexExact new where
  mem ip := by simp [new, blockedAt]
  count := rfl

def syncedSet (set : Finset IpAddr) (key : IpAddr) (was is : Bool) : Finset IpAddr :=
  if !was && is then Insert.insert key set else if was && !is then set.erase key else set

def syncedCount (count : Int) (was is : Bool) : Int :=
  if !was && is then count + 1 else if was && !is then count - 1 else count

@[simp] lemma syncBlockedIndex_blockedSet (key : IpAddr) (was is : Bool) :
    (store.syncBlockedIndex key was is).blockedSet = syncedSet store.blockedSet key was is := by
  cases was <;> cases is <;> rfl

@[simp] lemma syncBlockedIndex_blockedCount (key : IpAddr) (was is : Bool) :
    (store.syncBlockedIndex key was is).blockedCount = syncedCount store.blockedCount was is := by
  cases was <;> cases is <;> rfl

variable {store} {next : Store} {key : IpAddr} {entry : Entry}

lemma blockedAt_of_inner_insert (hinner : next.inner = store.inner.insert key entry)
    (ip : IpAddr) :
    next.blockedAt ip = if ip = key then entry.value.isBlocked else store.blockedAt ip := by
  unfold blockedAt
  rw [hinner, Table.lookup_insert_eq]
  split <;> rfl

lemma blockedAt_of_inner_erase (hinner : next.inner = store.inner.erase key) (ip : IpAddr) :
    next.blockedAt ip = if ip = key then false else store.blockedAt ip := by
  unfold blockedAt
  rw [hinner, Table.lookup_erase_eq]
  split <;> rfl

lemma blockedAt_of_lookup (hentry : store.inner.lookup key = some entry) :
    store.blockedAt key = entry.value.isBlocked := by
  simp [blockedAt, hentry]

lemma blockedAt_of_vacant (hvacant : store.inner.lookup key = none) :
    store.blockedAt key = false := by
  simp [blockedAt, hvacant]

section

variable (hexact : IndexExact store)

include hexact

lemma IndexExact.sync {was is : Bool} (hwas : store.blockedAt key = was)
    (hat : ∀ ip, next.blockedAt ip = if ip = key then is else store.blockedAt ip)
    (hset : next.blockedSet = syncedSet store.blockedSet key was is)
    (hcount : next.blockedCount = syncedCount store.blockedCount was is) : IndexExact next := by
  have hkey : key ∈ store.blockedSet ↔ was := by rw [hexact.mem, hwas]
  constructor
  · intro ip
    rw [hset, hat ip]
    by_cases hip : ip = key
    · subst hip
      cases was <;> cases is <;> simp_all [syncedSet]
    · cases was <;> cases is <;> simp [syncedSet, hip, hexact.mem]
  · rw [hset, hcount, hexact.count]
    cases was <;> cases is
    · rfl
    · have habsent : key ∉ store.blockedSet := by simp [hkey]
      simp [syncedSet, syncedCount, Finset.card_insert_of_notMem habsent]
    · have hpresent : key ∈ store.blockedSet := by simp [hkey]
      have hcard := Finset.card_erase_add_one hpresent
      simp only [syncedSet, syncedCount, Bool.not_true, Bool.not_false, Bool.and_self,
        Bool.false_eq_true, if_false, if_true]
      omega
    · rfl

lemma IndexExact.unchanged (hset : next.blockedSet = store.blockedSet)
    (hcount : next.blockedCount = store.blockedCount)
    (hat : ∀ ip, next.blockedAt ip = store.blockedAt ip) : IndexExact next where
  mem ip := by rw [hset, hat ip, hexact.mem]
  count := by rw [hset, hcount, hexact.count]

lemma replaceEntry_indexExact {old : Entry} (hold : store.inner.lookup key = some old)
    (new : Entry) : IndexExact (store.replaceEntry key old new) := by
  refine hexact.sync (blockedAt_of_lookup hold)
    (blockedAt_of_inner_insert (replaceEntry_inner store key old new)) ?_ ?_
  all_goals simp [replaceEntry, applyGrowthSizeOnly]

lemma publishFresh_indexExact (hvacant : store.inner.lookup key = none) (entry : Entry) :
    IndexExact (store.publishFresh key entry) := by
  refine hexact.sync (blockedAt_of_vacant hvacant)
    (blockedAt_of_inner_insert (publishFresh_inner store key entry)) ?_ ?_
  all_goals simp [publishFresh]

lemma dropEntry_indexExact (hentry : store.inner.lookup key = some entry) :
    IndexExact (store.dropEntry key entry) := by
  unfold dropEntry
  dsimp only
  -- The subnet index plays no part in the statement.
  obtain ⟨index, hindex⟩ := updateSubnetIndex_frame _ key (subnetKeyU128 key) true
  rw [hindex]
  refine hexact.sync (blockedAt_of_lookup hentry) (blockedAt_of_inner_erase ?_) ?_ ?_
  all_goals simp

lemma Writes.indexExact {now : Instant} {stored : Bool}
    (hwrites : store.Writes now key stored next) : IndexExact next := by
  cases hwrites with
  | nothing => exact hexact
  | replaces hold entry => exact replaceEntry_indexExact hexact hold entry
  | publishes hvacant entry => exact publishFresh_indexExact hexact hvacant entry
  | @restates entry record hentry hlive updated =>
    have hwas : store.blockedAt key = (record.blockState != .clean) := by
      rw [blockedAt_of_lookup hentry, Entry.value_of_liveRecord hlive]
      rfl
    exact hexact.sync hwas (blockedAt_of_inner_insert (syncBlockedIndex_inner _ _ _ _))
      (syncBlockedIndex_blockedSet _ _ _ _) (syncBlockedIndex_blockedCount _ _ _ _)

end

/-! ## One call -/

section

variable (hexact : IndexExact store)

include hexact

lemma updateIp_indexExact_of_keeps {Result : Type} {now : Instant} (default : IpRecord)
    (limit : Nat) {f : IpRecord → IpRecord × Result}
    (hkeeps : ∀ entry record, store.inner.lookup key = some entry →
      entry.liveRecord now = some record → ((f record).1.blockState != .clean) =
        (record.blockState != .clean)) :
    IndexExact (store.updateIp now key default limit f).2 := by
  rcases store.updateIp_writes now key default limit f with
    hwrites | ⟨entry, record, hentry, hlive, heq⟩
  · exact hwrites.indexExact hexact
  · rw [heq]
    refine hexact.unchanged rfl rfl ?_
    intro ip
    rw [blockedAt_of_inner_insert rfl]
    split
    next hip =>
      rw [hip, blockedAt_of_lookup hentry, Entry.value_of_liveRecord hlive]
      exact hkeeps entry record hentry hlive
    · rfl

variable (now : Instant)

lemma evictOne_indexExact (key : IpAddr) : IndexExact (evictOne now store key) := by
  unfold evictOne
  split
  next entry hentry =>
    split
    · exact dropEntry_indexExact hexact hentry
    · exact hexact
  · exact hexact

lemma evictBatch_indexExact (keys : List IpAddr) : IndexExact (store.evictBatch now keys) := by
  have hstep : ∀ before key, IndexExact before → IndexExact (evictOne now before key) :=
    fun _ key hbefore => evictOne_indexExact hbefore now key
  exact run_invariant hstep hexact keys

end

/-! ## The call that bypasses the index -/

/-- `update_block_state` leaves the status of its key as the index has it: a live record keeps it,
anything else becomes clean. -/
def StateSynced (store : Store) (now : Instant) (key : IpAddr) (newState : BlockState)
    (limit : Nat) : Prop :=
  match store.inner.lookup key with
  | some entry =>
    match entry.liveRecord now with
    | some record => (newState != .clean) = (record.blockState != .clean)
    | none => newState = .clean
  | none => newState = .clean ∨ store.refuses (sizeOfIpAddr + sizeOfEntry) limit = true

def Synced (store : Store) (call : Call) : Prop :=
  match call.op with
  | .updateBlockState key newState limit => store.StateSynced call.now key newState limit
  | _ => True

section

variable (hexact : IndexExact store)

include hexact

/-- Leaving the index alone is right exactly if the status stays. -/
lemma indexExact_insert_iff (hinner : next.inner = store.inner.insert key entry)
    (hset : next.blockedSet = store.blockedSet) (hcount : next.blockedCount = store.blockedCount) :
    IndexExact next ↔ entry.value.isBlocked = store.blockedAt key := by
  have hat := blockedAt_of_inner_insert hinner
  constructor
  · intro hnext
    have hkey : next.blockedAt key ↔ store.blockedAt key := by rw [← hnext.mem, hset, hexact.mem]
    rw [hat key, if_pos rfl] at hkey
    exact Bool.eq_iff_iff.mpr hkey
  · intro hsame
    refine hexact.unchanged hset hcount ?_
    intro ip
    rw [hat ip]
    split
    next hip => rw [hip, hsame]
    · rfl

lemma indexExact_unlist_iff {old : Entry} (hold : store.inner.lookup key = some old)
    (hinner : next.inner = store.inner.insert key entry)
    (hset : next.blockedSet = syncedSet store.blockedSet key old.value.isBlocked false)
    (hcount : next.blockedCount = syncedCount store.blockedCount old.value.isBlocked false) :
    IndexExact next ↔ entry.value.isBlocked = false := by
  have hat := blockedAt_of_inner_insert hinner
  constructor
  · intro hnext
    have hlisted : key ∈ store.blockedSet ↔ old.value.isBlocked := by
      rw [hexact.mem, blockedAt_of_lookup hold]
    have habsent : key ∉ next.blockedSet := by
      rw [hset]
      cases hwas : old.value.isBlocked <;> simp_all [syncedSet]
    rw [hnext.mem, hat key, if_pos rfl, Bool.not_eq_true] at habsent
    exact habsent
  · intro hclean
    rw [hclean] at hat
    exact hexact.sync (blockedAt_of_lookup hold) hat hset hcount

lemma updateBlockState_indexExact_iff (now : Instant) (key : IpAddr) (newState : BlockState)
    (limit : Nat) :
    IndexExact (store.updateBlockState now key newState limit).2 ↔
      store.StateSynced now key newState limit := by
  have hfresh : (Value.ipRecord (.zeroed key 0 newState)).isBlocked = false ↔
      newState = .clean := by
    simp [Value.isBlocked, IpRecord.zeroed]
  unfold updateBlockState StateSynced
  cases hentry : store.inner.lookup key with
  | none =>
    dsimp only
    by_cases hrefused : store.refuses (sizeOfIpAddr + sizeOfEntry) limit
    · simp [hrefused, hexact]
    · rw [if_neg hrefused]
      refine Iff.trans (indexExact_insert_iff hexact rfl rfl rfl) ?_
      rw [blockedAt_of_vacant hentry, hfresh]
      simp [hrefused]
  | some entry =>
    cases hlive : entry.liveRecord now with
    | some record =>
      simp only [hlive]
      refine Iff.trans (indexExact_insert_iff hexact rfl rfl rfl) ?_
      rw [blockedAt_of_lookup hentry, Entry.value_of_liveRecord hlive]
      rfl
    | none =>
      simp only [hlive]
      rw [← hfresh]
      -- Both values of the old status: the branch unlists the key or finds it unlisted.
      cases hwas : entry.value.isBlocked
      all_goals
        refine Iff.trans (indexExact_unlist_iff hexact hentry rfl ?_ ?_) Iff.rfl
        all_goals
          rw [hwas]
          rfl

lemma step_indexExact_iff (call : Call) : IndexExact (step store call) ↔ Synced store call := by
  obtain ⟨now, op⟩ := call
  cases op with
  | insert key value ttlSecs limit =>
    exact iff_of_true ((insert_writes ..).indexExact hexact) trivial
  | blockIp key fallback limit => exact iff_of_true ((blockIp_writes ..).indexExact hexact) trivial
  | unblockIp key => exact iff_of_true ((unblockIp_writes ..).indexExact hexact) trivial
  | updateIp key default limit f =>
    refine iff_of_true (updateIp_indexExact_of_keeps hexact _ _ fun _ record _ _ => ?_) trivial
    rw [f.keeps]
  | updateBlockState key newState limit =>
    exact updateBlockState_indexExact_iff hexact now key newState limit
  | remove key =>
    refine iff_of_true ?_ trivial
    change IndexExact (store.remove key).2
    unfold remove
    split
    next entry hentry => exact dropEntry_indexExact hexact hentry
    · exact hexact
  | evictBatch keys => exact iff_of_true (evictBatch_indexExact hexact now keys) trivial
  | evictExpired order =>
    refine iff_of_true ?_ trivial
    change IndexExact (store.evictExpired now order).2
    unfold evictExpired
    split
    · exact hexact
    · exact evictBatch_indexExact hexact now _

end

/-! ## Whole runs -/

/-- The reported addresses are those whose value is blocked, and the counter is their number. -/
def ReportsBlocked (store : Store) : Prop :=
  ∀ order : IterOrder IpAddr,
    (∀ ip, ip ∈ store.getAllBlockedIps order ↔ store.blockedAt ip = true) ∧
      store.blockedCount = (store.getAllBlockedIps order).length

lemma reportsBlocked_iff (store : Store) : store.ReportsBlocked ↔ IndexExact store := by
  have hlength (order : IterOrder IpAddr) :
      (store.getAllBlockedIps order).length = store.blockedSet.card := by
    unfold getAllBlockedIps
    rw [← List.toFinset_card_of_nodup (order.nodup_enum store.blockedSet)]
    congr 1
    ext ip
    rw [List.mem_toFinset]
    exact order.mem_enum
  constructor
  · intro hreports
    obtain ⟨hmem, hcount⟩ := hreports IpAddr.sorted
    refine ⟨fun ip => ?_, ?_⟩
    · rw [← hmem ip]
      exact (IterOrder.mem_enum _).symm
    · rw [hcount, hlength]
  · intro hexact order
    refine ⟨fun ip => ?_, ?_⟩
    · rw [← hexact.mem ip]
      exact order.mem_enum
    · rw [hexact.count, hlength]

/-- From an empty store, the blocked index is exact throughout a run if and only
if every `update_block_state` of the run is synced when it is made. -/
theorem reportsBlocked_along_iff (calls : List Call) :
    Along step ReportsBlocked new calls ↔ Respects step Synced new calls := by
  constructor
  · intro halong
    refine Respects.of_along ?_ halong
    intro store call hbefore hafter
    rw [reportsBlocked_iff] at hbefore hafter
    exact (step_indexExact_iff hbefore call).mp hafter
  · intro hrespects
    have hstep : ∀ store call, IndexExact store → Synced store call →
        IndexExact (step store call) :=
      fun _ call hbefore hsynced => (step_indexExact_iff hbefore call).mpr hsynced
    have hexact := Along.of_respects hstep new_indexExact hrespects
    exact hexact.mono fun store hstore => (reportsBlocked_iff store).mpr hstore

/-- Blocking a new address through `update_block_state` stores a blocked record
that the index does not list. -/
theorem reportsBlocked_along_fails :
    ¬ ∀ calls : List Call, Along step ReportsBlocked new calls := by
  intro hall
  have hlast := (hall [⟨0, .updateBlockState (.v4 1) (.blocked .manualBlock 0) 1024⟩]).last
  have hlisted := ((reportsBlocked_iff _).mp hlast).mem (.v4 1)
  revert hlisted
  decide

end RamShield.Store
