import RamShield.Storage.BlockedIndex

/-! # Accounting of the store

The store counts the bytes of its entries twice, in `ram_bytes` and in
`used_bytes`, and the entries with an expiry in `ttl_entries`. Whatever an
operation does to the map it does entry by entry: it replaces one, publishes one
or drops one, and books the difference. So the books are exact in every run. The
fourth counter, `blocked_count`, is not kept by `update_block_state`, and a
removal that follows it takes it below zero.
-/

namespace RamShield.Store

open Foundation Foundation.Machine List Table Option

/-! ## Books -/

def entryBytes (entry : Entry) : Nat := entrySize entry.value

def entryTtl (entry : Entry) : Nat := entry.expiresAt.isSome.toNat

variable (store : Store)

def residentBytes : Nat := store.inner.total entryBytes

def ttlResidents : Finset IpAddr :=
  store.inner.keys.filter fun key =>
    (store.inner.lookup key).any fun entry => entry.expiresAt.isSome

/-- The three counters are exact. -/
structure Accounted : Prop where
  ram : store.ramBytes = store.residentBytes
  used : store.usedBytes = store.residentBytes
  ttl : store.ttlEntries = store.ttlResidents.card

structure Books (store next : Store) (bytes ttl : Int) : Prop where
  ram : next.ramBytes = store.ramBytes + bytes
  used : next.usedBytes = store.usedBytes + bytes
  ttl : next.ttlEntries = store.ttlEntries + ttl

lemma ttlResidents_card : store.ttlResidents.card = store.inner.total entryTtl :=
  (total_count fun entry : Entry => entry.expiresAt.isSome).symm

lemma ttlDelta_eq (old new : Bool) : ttlDelta old new = (new.toNat : Int) - old.toNat := by
  cases old <;> cases new <;> rfl

variable {store} {next : Store} {key : IpAddr} {now : Instant} {limit : Nat}

lemma accounted_iff : store.Accounted ↔
    store.ramBytes = store.residentBytes ∧ store.usedBytes = store.residentBytes ∧
      store.ttlEntries = store.inner.total entryTtl := by
  rw [← ttlResidents_card]
  exact ⟨fun haccounted => ⟨haccounted.ram, haccounted.used, haccounted.ttl⟩,
    fun hall => ⟨hall.1, hall.2.1, hall.2.2⟩⟩

lemma new_accounted : new.Accounted := accounted_iff.mpr ⟨rfl, rfl, rfl⟩

inductive Moves (store : Store) (key : IpAddr) : Store → Prop
  | nothing : Moves store key store
  | replaces {next : Store} {old entry : Entry}
      (hold : store.inner.lookup key = some old)
      (hinner : next.inner = store.inner.insert key entry)
      (hbooks : Books store next (entrySize entry.value - entrySize old.value : Int)
        (ttlDelta old.expiresAt.isSome entry.expiresAt.isSome)) : Moves store key next
  | publishes {next : Store} {entry : Entry}
      (hvacant : store.inner.lookup key = none)
      (hinner : next.inner = store.inner.insert key entry)
      (hbooks : Books store next (entrySize entry.value)
        (ttlDelta false entry.expiresAt.isSome)) : Moves store key next
  | drops {next : Store} {old : Entry}
      (hold : store.inner.lookup key = some old)
      (hinner : next.inner = store.inner.erase key)
      (hbooks : Books store next (-(entrySize old.value : Int))
        (ttlDelta old.expiresAt.isSome false)) : Moves store key next

/-- The other entries stay. -/
lemma Moves.lookup_of_ne {other : IpAddr} (hmoves : store.Moves key next) (hne : other ≠ key) :
    next.inner.lookup other = store.inner.lookup other := by
  cases hmoves with
  | nothing => rfl
  | replaces _ hinner _ => rw [hinner, lookup_insert_eq, if_neg hne]
  | publishes _ hinner _ => rw [hinner, lookup_insert_eq, if_neg hne]
  | drops _ hinner _ => rw [hinner, lookup_erase_eq, if_neg hne]

lemma Moves.accounted (hmoves : store.Moves key next) (haccounted : store.Accounted) :
    next.Accounted := by
  obtain ⟨hram, hused, httl⟩ := accounted_iff.mp haccounted
  rw [accounted_iff]
  unfold residentBytes at hram hused ⊢
  cases hmoves with
  | nothing => exact ⟨hram, hused, httl⟩
  | @replaces _ old entry hold hinner hbooks =>
    have hbytes := total_insert_of_lookup entryBytes hold entry
    have hcount := total_insert_of_lookup entryTtl hold entry
    have hdelta := ttlDelta_eq old.expiresAt.isSome entry.expiresAt.isSome
    rw [hbooks.ram, hbooks.used, hbooks.ttl, hinner, hdelta]
    unfold entryBytes entryTtl at *
    omega
  | @publishes _ entry hvacant hinner hbooks =>
    have hbytes := total_insert_of_vacant entryBytes hvacant entry
    have hcount := total_insert_of_vacant entryTtl hvacant entry
    have hdelta := ttlDelta_eq false entry.expiresAt.isSome
    rw [hbooks.ram, hbooks.used, hbooks.ttl, hinner, hdelta]
    unfold entryBytes entryTtl at *
    rw [Bool.toNat_false]
    omega
  | @drops _ old hold hinner hbooks =>
    have hbytes := total_erase entryBytes hold
    have hcount := total_erase entryTtl hold
    have hdelta := ttlDelta_eq old.expiresAt.isSome false
    rw [hbooks.ram, hbooks.used, hbooks.ttl, hinner, hdelta]
    unfold entryBytes entryTtl at *
    rw [Bool.toNat_false]
    omega

/-! ## One operation -/

lemma replaceEntry_moves {old : Entry} (hold : store.inner.lookup key = some old)
    (entry : Entry) :
    store.Moves key (store.replaceEntry key old entry) := by
  refine .replaces hold (replaceEntry_inner store key old entry) ⟨?_, ?_, ?_⟩
  all_goals simp [replaceEntry, applyGrowthSizeOnly]

lemma dropEntry_moves {old : Entry} (hold : store.inner.lookup key = some old) :
    store.Moves key (store.dropEntry key old) := by
  refine .drops hold (store.dropEntry_writes key old).1 ⟨?_, ?_, ?_⟩
  all_goals
    unfold dropEntry
    obtain ⟨index, hindex⟩ := updateSubnetIndex_frame _ key (subnetKeyU128 key) true
    rw [hindex]
    simp [Int.sub_eq_add_neg]

lemma rewrite_moves {entry : Entry} {record updated : IpRecord} {expiry : Option Instant}
    (hentry : store.inner.lookup key = some entry) (hlive : entry.liveRecord now = some record)
    (hinner : next.inner = store.inner.insert key ⟨.ipRecord updated, expiry⟩)
    (hram : next.ramBytes = store.ramBytes) (hused : next.usedBytes = store.usedBytes)
    (httl : next.ttlEntries = store.ttlEntries + ttlDelta entry.expiresAt.isSome expiry.isSome) :
    store.Moves key next := by
  have hsize : entrySize (.ipRecord updated) = entrySize entry.value := by
    rw [Entry.value_of_liveRecord hlive]
    rfl
  refine .replaces hentry hinner ⟨?_, ?_, httl⟩
  · rw [hram, hsize, Int.sub_self, Int.add_zero]
  · rw [hused, hsize, Int.sub_self, Int.add_zero]

lemma ttlDelta_self (has : Bool) : ttlDelta has has = 0 := by cases has <;> rfl

lemma Writes.moves {stored : Bool} (hwrites : store.Writes now key stored next) :
    store.Moves key next := by
  cases hwrites with
  | nothing => exact .nothing
  | replaces hold entry => exact replaceEntry_moves hold entry
  | publishes hvacant entry =>
    refine .publishes hvacant (publishFresh_inner store key entry) ⟨?_, ?_, ?_⟩
    all_goals simp [publishFresh]
  | restates hentry hlive updated =>
    apply rewrite_moves hentry hlive (syncBlockedIndex_inner _ _ _ _)
    all_goals simp

lemma Writes.eq_of_not_stored {stored : Bool} (hwrites : store.Writes now key stored next)
    (hnot : stored = false) : next = store := by
  cases hwrites with
  | nothing => rfl
  | _ => cases hnot

section

variable (store key now)

lemma updateIp_moves {Result : Type} (default : IpRecord) (limit : Nat)
    (f : IpRecord → IpRecord × Result) :
    store.Moves key (store.updateIp now key default limit f).2 := by
  rcases store.updateIp_writes now key default limit f with
    hwrites | ⟨entry, record, hentry, hlive, heq⟩
  · exact hwrites.moves
  · rw [heq]
    refine rewrite_moves hentry hlive rfl rfl rfl ?_
    rw [ttlDelta_self, Int.add_zero]

lemma updateBlockState_moves (newState : BlockState) (limit : Nat) :
    store.Moves key (store.updateBlockState now key newState limit).2 := by
  unfold updateBlockState
  split
  next entry hentry =>
    split
    next record hlive =>
      refine rewrite_moves hentry hlive rfl rfl rfl ?_
      rw [ttlDelta_self, Int.add_zero]
    · dsimp only
      -- The branch on the old blocked status touches the index only.
      split
      · exact .replaces hentry rfl ⟨rfl, rfl, rfl⟩
      · exact .replaces hentry rfl ⟨rfl, rfl, rfl⟩
  next hvacant =>
    dsimp only
    split
    · exact .nothing
    · exact .publishes hvacant rfl ⟨rfl, rfl, (Int.add_zero _).symm⟩

end

lemma remove_moves (store : Store) (key : IpAddr) : store.Moves key (store.remove key).2 := by
  unfold remove
  split
  next entry hentry => exact dropEntry_moves hentry
  · exact .nothing

lemma evictOne_moves (now : Instant) (store : Store) (key : IpAddr) :
    store.Moves key (evictOne now store key) := by
  unfold evictOne
  split
  next entry hentry =>
    split
    · exact dropEntry_moves hentry
    · exact .nothing
  · exact .nothing

lemma Accounted.evictBatch (haccounted : store.Accounted) (now : Instant) (keys : List IpAddr) :
    (store.evictBatch now keys).Accounted := by
  have hstep : ∀ before key, Accounted before → Accounted (evictOne now before key) :=
    fun before key hbefore => (evictOne_moves now before key).accounted hbefore
  exact run_invariant hstep haccounted keys

/-! ## Eviction -/

lemma lookup_evictOne (now : Instant) (store : Store) (key other : IpAddr) :
    (evictOne now store key).inner.lookup other =
      if other = key then (store.inner.lookup other).filter fun entry => !entry.isExpired now
      else store.inner.lookup other := by
  unfold evictOne
  split
  next entry hentry =>
    split
    next hexpired =>
      rw [(dropEntry_writes ..).1, lookup_erase_eq]
      split
      next heq =>
        rw [heq, hentry, filter_some, hexpired]
        rfl
      · rfl
    next hlive =>
      split
      next heq =>
        rw [heq, hentry, filter_some, Bool.eq_false_of_not_eq_true hlive]
        rfl
      · rfl
  next hvacant =>
    split
    next heq => rw [heq, hvacant, filter_none]
    · rfl

lemma lookup_evictBatch (now : Instant) (keys : List IpAddr) (store : Store) (other : IpAddr) :
    (store.evictBatch now keys).inner.lookup other =
      if other ∈ keys then (store.inner.lookup other).filter fun entry => !entry.isExpired now
      else store.inner.lookup other := by
  unfold evictBatch
  induction keys generalizing store with
  | nil => rw [foldl_nil, if_neg not_mem_nil]
  | cons key keys ih =>
    rw [foldl_cons, ih, lookup_evictOne]
    by_cases hhead : other = key
    · subst hhead
      simp only [if_true, Option.filter_filter, Bool.and_self, mem_cons, true_or, ite_self]
    · rw [if_neg hhead]
      simp only [mem_cons, hhead, false_or]

/-- With exact books the fast path of `evict_expired` loses nothing. -/
lemma Accounted.lookup_evictExpired (haccounted : store.Accounted) (now : Instant)
    (order : IterOrder IpAddr) (key : IpAddr) :
    (store.evictExpired now order).2.inner.lookup key =
      (store.inner.lookup key).filter fun entry => !entry.isExpired now := by
  unfold evictExpired
  split
  next hnone =>
    have hempty : store.ttlResidents = ∅ := by
      rw [haccounted.ttl] at hnone
      exact Finset.card_eq_zero.mp (Int.ofNat_eq_zero.mp hnone)
    cases hentry : store.inner.lookup key with
    | none => rfl
    | some entry =>
      have hkey : key ∉ store.ttlResidents := by
        rw [hempty]
        exact Finset.notMem_empty key
      have hpermanent : entry.expiresAt = none := by
        simpa [ttlResidents, mem_keys_iff_lookup, hentry] using hkey
      rw [filter_some, Entry.isExpired, hpermanent]
      rfl
  · dsimp only
    rw [lookup_evictBatch]
    split
    · rfl
    next hout =>
      have hvacant : store.inner.lookup key = none := by
        rw [← not_mem_keys_iff_lookup]
        exact fun hmem => hout (order.mem_enum.mpr hmem)
      rw [hvacant, filter_none]

/-! ## Refusals -/

lemma updateIp_of_not_stored {Result : Type} {default : IpRecord}
    {f : IpRecord → IpRecord × Result}
    (hnot : (store.updateIp now key default limit f).1.2 = false) :
    (store.updateIp now key default limit f).2 = store := by
  rcases store.updateIp_writes now key default limit f with hwrites | ⟨_, _, _, _, heq⟩
  · exact hwrites.eq_of_not_stored hnot
  · rw [heq] at hnot
    cases hnot

lemma updateBlockState_of_not_stored {newState : BlockState}
    (hnot : (store.updateBlockState now key newState limit).1 = false) :
    (store.updateBlockState now key newState limit).2 = store := by
  unfold updateBlockState at hnot ⊢
  split at hnot
  · split at hnot
    · cases hnot
    · cases hnot
  · dsimp only at hnot ⊢
    split at hnot
    next hrefused => rw [if_pos hrefused]
    · cases hnot

/-! ## Whole runs -/

/-- A write: a call, or `update_ip` with a closure that may break the contract. -/
inductive Write
  | plain (call : Call)
  | updateIp (now : Instant) (key : IpAddr) (default : IpRecord) (limit : Nat)
      (f : IpRecord → IpRecord)

def isCapacityExceeded : Except RsError Unit → Bool
  | .error (.capacityExceeded _) => true
  | _ => false

namespace Write

def step (store : Store) : Write → Store
  | .plain call => Store.step store call
  | .updateIp now key default limit f =>
    (store.updateIp now key default limit fun record => (f record, ())).2

def refused (store : Store) : Write → Bool
  | .plain ⟨now, .insert key value ttlSecs limit⟩ =>
    isCapacityExceeded (store.insert now key value ttlSecs limit).1
  | .plain ⟨now, .blockIp key fallback limit⟩ =>
    isCapacityExceeded (store.blockIp now key fallback limit).1
  | .plain ⟨now, .updateIp key default limit f⟩ =>
    !(store.updateIp now key default limit fun record => (f.apply record, ())).1.2
  | .plain ⟨now, .updateBlockState key newState limit⟩ =>
    !(store.updateBlockState now key newState limit).1
  | .plain _ => false
  | .updateIp now key default limit f =>
    !(store.updateIp now key default limit fun record => (f record, ())).1.2

/-- The write leaves the blocked status of its key as the index has it. -/
def Synced (store : Store) : Write → Prop
  | .plain call => Store.Synced store call
  | .updateIp now key _ _ f => ∀ entry record, store.inner.lookup key = some entry →
      entry.liveRecord now = some record →
        ((f record).blockState != .clean) = (record.blockState != .clean)

lemma step_accounted (haccounted : store.Accounted) (write : Write) :
    (write.step store).Accounted := by
  cases write with
  | plain call =>
    obtain ⟨now, op⟩ := call
    cases op with
    | insert key value ttlSecs limit => exact (insert_writes ..).moves.accounted haccounted
    | blockIp key fallback limit => exact (blockIp_writes ..).moves.accounted haccounted
    | unblockIp key => exact (unblockIp_writes ..).moves.accounted haccounted
    | updateIp key default limit f =>
      exact (store.updateIp_moves key now default limit _).accounted haccounted
    | updateBlockState key newState limit =>
      exact (store.updateBlockState_moves key now newState limit).accounted haccounted
    | remove key => exact (store.remove_moves key).accounted haccounted
    | evictBatch keys => exact haccounted.evictBatch now keys
    | evictExpired order =>
      change (store.evictExpired now order).2.Accounted
      unfold evictExpired
      split
      · exact haccounted
      · exact haccounted.evictBatch now _
  | updateIp now key default limit f =>
    exact (store.updateIp_moves key now default limit _).accounted haccounted

lemma step_of_refused {write : Write} (hrefused : write.refused store) :
    write.step store = store := by
  have herror {answer : Except RsError Unit} (hcapacity : isCapacityExceeded answer) :
      answer.isOk = false := by
    unfold isCapacityExceeded at hcapacity
    split at hcapacity
    · rfl
    · cases hcapacity
  cases write with
  | plain call =>
    obtain ⟨now, op⟩ := call
    cases op with
    | insert key value ttlSecs limit => exact (insert_writes ..).eq_of_not_stored (herror hrefused)
    | blockIp key fallback limit => exact (blockIp_writes ..).eq_of_not_stored (herror hrefused)
    | updateIp key default limit f => exact updateIp_of_not_stored (Bool.not_eq_true' _ ▸ hrefused)
    | updateBlockState key newState limit =>
      exact updateBlockState_of_not_stored (Bool.not_eq_true' _ ▸ hrefused)
    | unblockIp key => cases hrefused
    | remove key => cases hrefused
    | evictBatch keys => cases hrefused
    | evictExpired order => cases hrefused
  | updateIp now key default limit f =>
    exact updateIp_of_not_stored (Bool.not_eq_true' _ ▸ hrefused)

lemma step_indexExact {write : Write} (hexact : IndexExact store) (hsynced : write.Synced store) :
    IndexExact (write.step store) := by
  cases write with
  | plain call => exact (step_indexExact_iff hexact call).mpr hsynced
  | updateIp now key default limit f =>
    exact updateIp_indexExact_of_keeps hexact default limit hsynced

end Write

/-- Exact counters, refusals that change nothing, and evictions of what has expired. -/
structure KeepsAccounts (store : Store) : Prop where
  accounted : store.Accounted
  nonneg : 0 ≤ store.ramBytes ∧ 0 ≤ store.usedBytes ∧ 0 ≤ store.ttlEntries
  refuses (write : Write) : write.refused store = true → write.step store = store
  evicts (now : Instant) (order : IterOrder IpAddr) (key : IpAddr) :
    (store.evictExpired now order).2.inner.lookup key =
      (store.inner.lookup key).filter fun entry => !entry.isExpired now

lemma Accounted.keepsAccounts (haccounted : store.Accounted) : store.KeepsAccounts := by
  refine ⟨haccounted, ⟨?_, ?_, ?_⟩, fun _ => Write.step_of_refused, haccounted.lookup_evictExpired⟩
  · rw [haccounted.ram]
    exact Int.natCast_nonneg _
  · rw [haccounted.used]
    exact Int.natCast_nonneg _
  · rw [haccounted.ttl]
    exact Int.natCast_nonneg _

/-- In every run from an empty store the accounts are kept. If every write of the run
leaves the blocked status of its key as the index has it, then `blocked_count` does not
fall below zero either. -/
theorem keepsAccounts_along (writes : List Write) :
    Along Write.step KeepsAccounts new writes ∧
      (Respects Write.step Write.Synced new writes →
        Along Write.step (fun store => 0 ≤ store.blockedCount) new writes) := by
  constructor
  · have hall : Respects Write.step (fun _ _ => True) new writes :=
      .of_forall fun _ _ _ => trivial
    have hstep : ∀ store write, Accounted store → True → Accounted (Write.step store write) :=
      fun _ write haccounted _ => Write.step_accounted haccounted write
    have halong := Along.of_respects hstep new_accounted hall
    exact halong.mono fun _ haccounted => haccounted.keepsAccounts
  · intro hsynced
    have hstep : ∀ store write, IndexExact store → Write.Synced store write →
        IndexExact (Write.step store write) :=
      fun _ _ hexact hwrite => Write.step_indexExact hexact hwrite
    have halong := Along.of_respects hstep new_indexExact hsynced
    refine halong.mono fun store hexact => ?_
    rw [hexact.count]
    exact Int.natCast_nonneg _

/-- A record that is published, blocked and removed through the calls that keep the
index. -/
theorem keepsAccounts_along_removed :
    let writes := [.plain ⟨0, .insert (.v4 1) (.counter 7) (some 5) 1024⟩,
      .plain ⟨0, .blockIp (.v4 2) (.zeroed (.v4 2) 0 (.blocked .manualBlock 0)) 1024⟩,
      .plain ⟨9, .remove (.v4 2)⟩]
    Respects Write.step Write.Synced new writes ∧
      Along Write.step (fun store => 0 ≤ store.blockedCount) new writes := by
  intro writes
  have hsynced : Respects Write.step Write.Synced new writes := ⟨trivial, trivial, trivial, trivial⟩
  exact ⟨hsynced, (keepsAccounts_along writes).2 hsynced⟩

/-- A block through `update_block_state` is not counted, its removal is. -/
theorem blockedCount_underflows :
    (run Write.step new [.plain ⟨0, .updateBlockState (.v4 1) (.blocked .manualBlock 0) 1024⟩,
      .plain ⟨0, .remove (.v4 1)⟩]).blockedCount = -1 := by
  decide

end RamShield.Store
