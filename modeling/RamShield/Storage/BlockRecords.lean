import RamShield.Storage.Store

/-! # Block state, one address at a time

Enforcement and recovery write only address records. On a store that holds
nothing else every operation they use has the same shape: it sets the block
state of one address, or it is refused and changes nothing. Enforcement moreover
writes no expiry, so that what it reads does not depend on the clock.
-/

namespace RamShield

open Foundation

def recordSize : Nat := sizeOfIpAddr + sizeOfEntry

namespace Store

def Records (store : Store) : Prop :=
  ∀ ip entry, store.inner.lookup ip = some entry → ∃ record, entry.value = .ipRecord record

def Plain (store : Store) : Prop :=
  ∀ ip entry, store.inner.lookup ip = some entry → ∃ record, entry = ⟨.ipRecord record, none⟩

variable {store next : Store} {key : IpAddr}

lemma Plain.records (hplain : store.Plain) : store.Records := by
  intro ip entry hentry
  obtain ⟨record, rfl⟩ := hplain ip entry hentry
  exact ⟨record, rfl⟩

/-- Whether enforcement holds an address in the `Blocked` state. -/
def holds (store : Store) (ip : IpAddr) : Bool :=
  (store.inner.lookup ip).any fun entry => entry.value.isBlockedRecord

lemma plain_of_empty (hempty : store.inner = ∅) : store.Plain := by
  intro ip entry hentry
  simp [hempty] at hentry

lemma holds_of_empty (hempty : store.inner = ∅) (ip : IpAddr) : store.holds ip = false := by
  simp [holds, hempty]

lemma get_plain (hplain : store.Plain) (now : Instant) (ip : IpAddr) :
    store.get now ip = (store.inner.lookup ip).map Entry.value := by
  unfold get
  cases hentry : store.inner.lookup ip with
  | none => rfl
  | some entry =>
    obtain ⟨record, rfl⟩ := hplain ip entry hentry
    rfl

structure Sets (store next : Store) (key : IpAddr) (blocked : Bool) : Prop where
  records : next.Records
  activeCidrs : next.activeCidrs = store.activeCidrs
  ramLimitMb : next.ramLimitMb = store.ramLimitMb
  holds (ip : IpAddr) : next.holds ip = if ip = key then blocked else store.holds ip

lemma Sets.of_insert (hrecords : store.Records) (record : IpRecord) {expiresAt : Option Instant}
    (hinner : next.inner = store.inner.insert key ⟨.ipRecord record, expiresAt⟩)
    (hcidrs : next.activeCidrs = store.activeCidrs) (hlimit : next.ramLimitMb = store.ramLimitMb) :
    Sets store next key record.blockState.isBlocked := by
  refine ⟨?_, hcidrs, hlimit, ?_⟩
  · intro ip entry hentry
    rw [hinner, Table.lookup_insert_eq] at hentry
    split at hentry
    · cases hentry
      exact ⟨record, rfl⟩
    · exact hrecords ip entry hentry
  · intro ip
    unfold Store.holds
    rw [hinner, Table.lookup_insert_eq]
    split <;> rfl

lemma Plain.of_insert (hplain : store.Plain) {record : IpRecord}
    (hinner : next.inner = store.inner.insert key ⟨.ipRecord record, none⟩) : next.Plain := by
  intro ip entry hentry
  rw [hinner, Table.lookup_insert_eq] at hentry
  split at hentry
  · cases hentry
    exact ⟨record, rfl⟩
  · exact hplain ip entry hentry

/-- The removal of one entry. -/
lemma Sets.of_erase (hrecords : store.Records) (hinner : next.inner = store.inner.erase key)
    (hcidrs : next.activeCidrs = store.activeCidrs) (hlimit : next.ramLimitMb = store.ramLimitMb) :
    Sets store next key false := by
  refine ⟨?_, hcidrs, hlimit, ?_⟩
  · intro ip entry hentry
    rw [hinner, Table.lookup_erase_eq] at hentry
    split at hentry
    · cases hentry
    · exact hrecords ip entry hentry
  · intro ip
    unfold Store.holds
    rw [hinner, Table.lookup_erase_eq]
    split <;> rfl

/-- An address without an entry is not blocked. -/
lemma Sets.of_vacant (hrecords : store.Records) (hvacant : store.inner.lookup key = none) :
    Sets store store key false := by
  refine ⟨hrecords, rfl, rfl, ?_⟩
  intro ip
  split
  next heq =>
    subst heq
    simp [Store.holds, hvacant]
  · rfl

lemma updateBlockState_plain (hplain : store.Plain) (now : Instant) (key : IpAddr)
    (state : BlockState) (limit : Nat) :
    (store.updateBlockState now key state limit = (false, store) ∧
        store.inner.lookup key = none ∧ store.refuses recordSize limit) ∨
      ∃ next, store.updateBlockState now key state limit = (true, next) ∧
        Sets store next key state.isBlocked ∧ next.Plain := by
  unfold updateBlockState
  cases hentry : store.inner.lookup key with
  | none =>
    dsimp only
    by_cases hrefused : store.refuses (sizeOfIpAddr + sizeOfEntry) limit
    · rw [if_pos hrefused]
      exact .inl ⟨rfl, rfl, hrefused⟩
    · rw [if_neg hrefused]
      exact .inr ⟨_, rfl, .of_insert hplain.records (.zeroed key 0 state) rfl rfl rfl,
        hplain.of_insert rfl⟩
  | some entry =>
    obtain ⟨record, rfl⟩ := hplain key entry hentry
    exact .inr ⟨_, rfl, .of_insert hplain.records { record with blockState := state } rfl rfl rfl,
      hplain.of_insert rfl⟩

lemma insert_records (hrecords : store.Records) (now : Instant) (key : IpAddr)
    (record : IpRecord) {ttlSecs : Option Nat}
    (hfits : ∀ secs ∈ ttlSecs, (Instant.checkedAddSecs now secs).isSome) (limit : Nat) :
    (store.inner.lookup key = none ∧ store.refuses recordSize limit ∧
        store.insert now key (.ipRecord record) ttlSecs limit =
          (.error (.capacityExceeded (limit / (1024 * 1024))), store)) ∨
      ∃ next, store.insert now key (.ipRecord record) ttlSecs limit = (.ok (), next) ∧
        Sets store next key record.blockState.isBlocked ∧
        next.ramBytes ≤ store.ramBytes + recordSize ∧
        (ttlSecs = none → store.Plain → next.Plain) := by
  -- With an expiry or without one, the code goes on alike.
  obtain ⟨expiresAt, hpermanent, hinsert⟩ : ∃ expiresAt, (ttlSecs = none → expiresAt = none) ∧
      store.insert now key (.ipRecord record) ttlSecs limit =
        (store.inner.lookup key).elim
          (if store.refuses recordSize limit then
            (.error (.capacityExceeded (limit / (1024 * 1024))), store)
          else (.ok (), store.publishFresh key ⟨.ipRecord record, expiresAt⟩))
          fun old => (.ok (), store.replaceEntry key old ⟨.ipRecord record, expiresAt⟩) := by
    unfold insert
    cases ttlSecs with
    | none => exact ⟨none, fun _ => rfl, by cases store.inner.lookup key <;> rfl⟩
    | some secs =>
      obtain ⟨instant, hinstant⟩ := Option.isSome_iff_exists.mp (hfits secs rfl)
      rw [Option.map_some, hinstant]
      exact ⟨some instant, by simp, by cases store.inner.lookup key <;> rfl⟩
  rw [hinsert]
  cases hentry : store.inner.lookup key with
  | none =>
    rw [Option.elim_none]
    split
    next hrefused => exact .inl ⟨rfl, hrefused, rfl⟩
    next hrefused =>
      refine .inr ⟨_, rfl, ?_, ?_, ?_⟩
      · exact .of_insert hrecords record (publishFresh_inner _ _ _)
          (publishFresh_activeCidrs _ _ _) (publishFresh_ramLimitMb _ _ _)
      · rw [publishFresh_ramBytes]
        exact le_refl _
      · intro httl hplain
        rw [hpermanent httl]
        exact hplain.of_insert (publishFresh_inner _ _ _)
  | some entry =>
    obtain ⟨old, hold⟩ := hrecords key entry hentry
    refine .inr ⟨_, rfl, ?_, ?_, ?_⟩
    · exact .of_insert hrecords record (replaceEntry_inner _ _ _ _)
        (replaceEntry_activeCidrs _ _ _ _) (replaceEntry_ramLimitMb _ _ _ _)
    · rw [replaceEntry_ramBytes, hold]
      simp only [entrySize, Value.heapBytes, recordSize]
      omega
    · intro httl hplain
      rw [hpermanent httl]
      exact hplain.of_insert (replaceEntry_inner _ _ _ _)

/-- `remove` never fails and adds no bytes. -/
lemma remove_records (hrecords : store.Records) (key : IpAddr) :
    Sets store (store.remove key).2 key false ∧ (store.remove key).2.ramBytes ≤ store.ramBytes := by
  unfold remove
  cases hentry : store.inner.lookup key with
  | none => exact ⟨.of_vacant hrecords hentry, le_refl _⟩
  | some entry =>
    obtain ⟨hinner, hactive, hlimit, hbytes⟩ := store.dropEntry_writes key entry
    refine ⟨.of_erase hrecords hinner hactive hlimit, ?_⟩
    rw [hbytes]
    omega

end Store

end RamShield
