import RamShield.Storage.Accounting

/-! # How long a block lasts

The store lets entries expire, and a block is not to be lost that way: whoever sets
it takes it out of the expiry. `block_ip` does. `update_block_state` writes into a
live record and leaves its expiry as it is, so that the block ends with it. A block
lasts until it is ended on purpose exactly if no call gives its entry an expiry or
leaves one there.
-/

namespace RamShield.Store

open Foundation Foundation.Machine

variable (key : IpAddr) (store : Store)

def storedRecord (key : IpAddr) : Option IpRecord :=
  match store.inner.lookup key with
  | some ⟨.ipRecord record, _⟩ => some record
  | _ => none

/-- At every time to come the address reads as blocked. -/
def Kept : Prop :=
  ∀ now, ∃ record, store.get now key = some (.ipRecord record) ∧ record.blockState.isBlocked = true

def SetsBlock (call : Call) : Prop :=
  match call.op with
  | .updateBlockState target newState limit => target = key ∧ newState.isBlocked = true ∧
      (store.updateBlockState call.now target newState limit).1 = true
  | .blockIp target fallback limit =>
    target = key ∧ (store.blockIp call.now target fallback limit).1 = .ok ()
  | _ => False

/-- The call ends the block on purpose: it unblocks, removes or overwrites. -/
def Op.Ends : Op → Prop
  | .insert target value _ _ => target = key ∧ value.isBlockedRecord = false
  | .unblockIp target => target = key
  | .updateBlockState target newState _ => target = key ∧ newState.isBlocked = false
  | .remove target => target = key
  | _ => False

/-- The call gives the entry of the address no expiry, and does not leave one in
place. -/
def Lasting (call : Call) : Prop :=
  match call.op with
  | .insert target _ ttlSecs _ => target = key →
      (ttlSecs.map (Instant.checkedAddSecs call.now)).join = none
  | .updateBlockState target _ _ => target = key → ∀ entry record,
      store.inner.lookup key = some entry → entry.liveRecord call.now = some record →
        entry.expiresAt = none
  | _ => True

/-- Neither the detector nor an eviction puts another record in place of the stored
one. -/
def Undefaulted (call : Call) : Prop :=
  match call.op with
  | .updateIp target _ _ f =>
    (step store call).storedRecord key =
      (store.storedRecord key).map (if target = key then f.apply else id)
  | .evictBatch _ => (step store call).storedRecord key = store.storedRecord key
  | .evictExpired _ => (step store call).storedRecord key = store.storedRecord key
  | _ => True

/-! ## Blocks without expiry -/

def Permanent (entry : Entry) : Prop :=
  ∃ record, entry = ⟨.ipRecord record, none⟩ ∧ record.blockState.isBlocked = true

variable {key store} {next : Store}

lemma kept_iff : Kept key store ↔
    ∃ entry, store.inner.lookup key = some entry ∧ Permanent entry := by
  constructor
  · intro hkept
    obtain ⟨record, hget, hblocked⟩ := hkept 0
    unfold get at hget
    split at hget
    · cases hget
    next entry hentry =>
      split at hget
      · cases hget
      obtain ⟨value, expiry⟩ := entry
      cases hget
      refine ⟨_, hentry, record, ?_, hblocked⟩
      -- With an expiry the record is gone one nanosecond later.
      cases expiry with
      | none => rfl
      | some deadline =>
        obtain ⟨later, hlater, _⟩ := hkept (deadline + 1)
        simp [get, hentry, Entry.isExpired] at hlater
  · intro hentry now
    obtain ⟨entry, hentry, record, rfl, hblocked⟩ := hentry
    exact ⟨record, by simp [get, hentry, Entry.isExpired], hblocked⟩

lemma kept_of_lookup (hkept : Kept key store)
    (hsame : next.inner.lookup key = store.inner.lookup key) : Kept key next := by
  rw [kept_iff] at hkept ⊢
  rw [hsame]
  exact hkept

variable {now : Instant} {record : IpRecord} {expiry : Option Instant} {limit : Nat}

lemma kept_iff_of_insert (hinner : next.inner = store.inner.insert key ⟨.ipRecord record, expiry⟩)
    (hblocked : record.blockState.isBlocked) : Kept key next ↔ expiry = none := by
  rw [kept_iff, hinner, Finmap.lookup_insert]
  constructor
  · intro hpermanent
    obtain ⟨entry, hlookup, other, rfl, _⟩ := hpermanent
    rw [Option.some.injEq, Entry.mk.injEq] at hlookup
    exact hlookup.2
  · rintro rfl
    exact ⟨_, rfl, record, rfl, hblocked⟩

/-! ## The calls that set a block -/

lemma updateBlockState_kept_iff {newState : BlockState} (hblocked : newState.isBlocked)
    (hdone : (store.updateBlockState now key newState limit).1) :
    Kept key (store.updateBlockState now key newState limit).2 ↔
      ∀ entry record, store.inner.lookup key = some entry →
        entry.liveRecord now = some record → entry.expiresAt = none := by
  -- Where there is no live record a new one is published, which never expires.
  have hfresh {next : Store}
      (hinner : next.inner = store.inner.insert key ⟨.ipRecord (.zeroed key 0 newState), none⟩) :
      Kept key next :=
    (kept_iff_of_insert hinner hblocked).mpr rfl
  unfold updateBlockState at hdone ⊢
  cases hentry : store.inner.lookup key with
  | none =>
    simp only [hentry] at hdone ⊢
    split at hdone
    · cases hdone
    next hroom =>
      rw [if_neg hroom]
      exact iff_of_true (hfresh rfl) (fun _ _ hnone => by cases hnone)
  | some entry =>
    cases hlive : entry.liveRecord now with
    | some record =>
      simp only [hlive]
      refine (kept_iff_of_insert rfl hblocked).trans ?_
      constructor
      · rintro hnone _ _ ⟨⟩ _
        exact hnone
      · intro hall
        exact hall entry record rfl hlive
    | none =>
      simp only [hlive]
      refine iff_of_true ?_ (by rintro _ _ ⟨⟩ hsome; rw [hlive] at hsome; cases hsome)
      split
      · exact hfresh rfl
      · exact hfresh rfl

lemma blockIp_kept {fallback : IpRecord}
    (hdone : (store.blockIp now key fallback limit).1 = .ok ()) :
    Kept key (store.blockIp now key fallback limit).2 := by
  unfold blockIp at hdone ⊢
  split at hdone
  next reason sinceNs hstate =>
    have hblocked : fallback.blockState.isBlocked := by
      rw [hstate]
      rfl
    split
    next entry hentry =>
      split
      next record hlive => exact (kept_iff_of_insert (syncBlockedIndex_inner _ _ _ _) rfl).mpr rfl
      · exact (kept_iff_of_insert (replaceEntry_inner _ _ _ _) hblocked).mpr rfl
    next hvacant =>
      simp only [hvacant] at hdone
      split at hdone
      · cases hdone
      next hroom =>
        rw [if_neg hroom]
        exact (kept_iff_of_insert (publishFresh_inner _ _ _) hblocked).mpr rfl
  · cases hdone
  · cases hdone

lemma setsBlock_kept_iff {call : Call} (hsets : SetsBlock key store call) :
    Kept key (step store call) ↔ Lasting key store call := by
  obtain ⟨now, op⟩ := call
  cases op with
  | updateBlockState target newState limit =>
    obtain ⟨rfl, hblocked, hdone⟩ := hsets
    refine (updateBlockState_kept_iff hblocked hdone).trans ?_
    exact ⟨fun hall _ => hall, fun hall => hall rfl⟩
  | blockIp target fallback limit =>
    obtain ⟨rfl, hdone⟩ := hsets
    exact iff_of_true (blockIp_kept hdone) trivial
  | _ => cases hsets

/-! ## One call after the block -/

lemma Kept.entry (hkept : Kept key store) :
    ∃ record, store.inner.lookup key = some ⟨.ipRecord record, none⟩ ∧
      record.blockState.isBlocked := by
  obtain ⟨entry, hentry, record, rfl, hblocked⟩ := kept_iff.mp hkept
  exact ⟨record, hentry, hblocked⟩

lemma storedRecord_of_lookup (hentry : store.inner.lookup key = some ⟨.ipRecord record, expiry⟩) :
    store.storedRecord key = some record := by
  unfold storedRecord
  rw [hentry]

lemma storedRecord_congr (hsame : next.inner.lookup key = store.inner.lookup key) :
    next.storedRecord key = store.storedRecord key := by
  unfold storedRecord
  rw [hsame]

section

variable (hkept : Kept key store)

include hkept

variable (now)

lemma Kept.lookup_evictBatch (keys : List IpAddr) :
    (store.evictBatch now keys).inner.lookup key = store.inner.lookup key := by
  obtain ⟨record, hentry, _⟩ := hkept.entry
  rw [Store.lookup_evictBatch, hentry]
  split
  · rfl
  · rfl

lemma Kept.lookup_evictExpired (order : IterOrder IpAddr) :
    (store.evictExpired now order).2.inner.lookup key = store.inner.lookup key := by
  unfold evictExpired
  split
  · rfl
  · exact hkept.lookup_evictBatch now _

lemma Kept.updateIp (target : IpAddr) (default : IpRecord) (limit : Nat) (f : StatUpdate) :
    let next := (store.updateIp now target default limit fun record => (f.apply record, ())).2
    Kept key next ∧ next.storedRecord key =
      (store.storedRecord key).map (if target = key then f.apply else id) := by
  intro next
  by_cases htarget : target = key
  · subst htarget
    obtain ⟨record, hentry, hblocked⟩ := hkept.entry
    have hnext : next.inner = store.inner.insert target ⟨.ipRecord (f.apply record), none⟩ := by
      change (Store.updateIp _ _ _ _ _ _).2.inner = _
      unfold Store.updateIp
      simp only [hentry, Entry.liveRecord, Entry.isExpired, Option.any_none, Bool.false_eq_true,
        if_false]
    refine ⟨(kept_iff_of_insert hnext ?_).mpr rfl, ?_⟩
    · rw [f.keeps]
      exact hblocked
    · rw [if_pos rfl, storedRecord_of_lookup hentry]
      exact storedRecord_of_lookup (by rw [hnext, Finmap.lookup_insert])
  · have hsame := (store.updateIp_moves target now default limit
      fun record => (f.apply record, ())).lookup_of_ne (Ne.symm htarget)
    rw [if_neg htarget, Option.map_id_fun, id]
    exact ⟨kept_of_lookup hkept hsame, storedRecord_congr hsame⟩

lemma Kept.insert_iff {value : Value} (hvalue : value.isBlockedRecord)
    (ttlSecs : Option Nat) (limit : Nat) :
    Kept key (store.insert now key value ttlSecs limit).2 ↔
      (ttlSecs.map (Instant.checkedAddSecs now)).join = none := by
  obtain ⟨record, hentry, _⟩ := hkept.entry
  unfold Store.insert
  split
  next hpanic => exact iff_of_true hkept (by rw [hpanic]; rfl)
  next expiry =>
    simp only [hentry]
    cases value with
    | ipRecord written => exact kept_iff_of_insert (replaceEntry_inner _ _ _ _) hvalue
    | _ => cases hvalue

lemma Kept.step_iff {call : Call} (hcontinues : ¬ call.op.Ends key) :
    (Kept key (step store call) ↔ Lasting key store call) ∧ Undefaulted key store call := by
  -- A call on another key leaves the entry of this one. On this key only an insertion with
  -- an expiry and a new block state can lose the block; removals of it are excluded.
  obtain ⟨now, op⟩ := call
  cases op with
  | insert target value ttlSecs limit =>
    refine ⟨?_, trivial⟩
    by_cases htarget : target = key
    · subst htarget
      have hvalue : value.isBlockedRecord := by
        by_contra hother
        exact hcontinues ⟨rfl, Bool.eq_false_of_not_eq_true hother⟩
      refine (hkept.insert_iff now hvalue ttlSecs limit).trans ?_
      exact ⟨fun hnone _ => hnone, fun hall => hall rfl⟩
    · have hsame := (store.insert_writes now target value ttlSecs limit).moves.lookup_of_ne
        (Ne.symm htarget)
      exact iff_of_true (kept_of_lookup hkept hsame) fun heq => absurd heq htarget
  | blockIp target fallback limit =>
    refine ⟨iff_of_true ?_ trivial, trivial⟩
    by_cases htarget : target = key
    · subst htarget
      cases hdone : (store.blockIp now target fallback limit).1 with
      | ok _ => exact blockIp_kept hdone
      | error error =>
        have hsame : step store ⟨now, .blockIp target fallback limit⟩ = store :=
          (blockIp_writes ..).eq_of_not_stored (by rw [hdone]; rfl)
        rw [hsame]
        exact hkept
    · exact kept_of_lookup hkept
        ((store.blockIp_writes now target fallback limit).moves.lookup_of_ne (Ne.symm htarget))
  | unblockIp target =>
    refine ⟨iff_of_true ?_ trivial, trivial⟩
    exact kept_of_lookup hkept ((store.unblockIp_writes now target).moves.lookup_of_ne
      fun heq => hcontinues heq.symm)
  | updateIp target default limit f =>
    obtain ⟨hnext, hrecord⟩ := hkept.updateIp now target default limit f
    exact ⟨iff_of_true hnext trivial, hrecord⟩
  | updateBlockState target newState limit =>
    refine ⟨?_, trivial⟩
    by_cases htarget : target = key
    · subst htarget
      have hblocked : newState.isBlocked := by
        by_contra hother
        exact hcontinues ⟨rfl, Bool.eq_false_of_not_eq_true hother⟩
      cases hdone : (store.updateBlockState now target newState limit).1 with
      | true => exact setsBlock_kept_iff ⟨rfl, hblocked, hdone⟩
      | false =>
        obtain ⟨record, hentry, _⟩ := hkept.entry
        have hsame : step store ⟨now, .updateBlockState target newState limit⟩ = store :=
          updateBlockState_of_not_stored hdone
        rw [hsame]
        refine iff_of_true hkept fun _ entry _ hlookup _ => ?_
        cases hentry.symm.trans hlookup
        rfl
    · have hsame := (store.updateBlockState_moves target now newState limit).lookup_of_ne
        (Ne.symm htarget)
      exact iff_of_true (kept_of_lookup hkept hsame) fun heq => absurd heq htarget
  | remove target =>
    refine ⟨iff_of_true ?_ trivial, trivial⟩
    exact kept_of_lookup hkept ((store.remove_moves target).lookup_of_ne
      fun heq => hcontinues heq.symm)
  | evictBatch keys =>
    have hsame := hkept.lookup_evictBatch now keys
    exact ⟨iff_of_true (kept_of_lookup hkept hsame) trivial, storedRecord_congr hsame⟩
  | evictExpired order =>
    have hsame := hkept.lookup_evictExpired now order
    exact ⟨iff_of_true (kept_of_lookup hkept hsame) trivial, storedRecord_congr hsame⟩

end

/-! ## Whole runs -/

lemma Kept.along_iff {calls : List Call} (hcontinues : ∀ call ∈ calls, ¬ call.op.Ends key)
    (hkept : Kept key store) :
    (Along step (Kept key) store calls ∧ Respects step (Undefaulted key) store calls) ↔
      Respects step (Lasting key) store calls := by
  induction calls generalizing store with
  | nil => exact iff_of_true ⟨hkept, trivial⟩ trivial
  | cons call calls ih =>
    obtain ⟨hstep, hundefaulted⟩ := hkept.step_iff (hcontinues call List.mem_cons_self)
    have hrest := fun later hlater => hcontinues later (List.mem_cons_of_mem call hlater)
    constructor
    · rintro ⟨⟨_, halong⟩, _, hrespects⟩
      have hnext := halong.start
      exact ⟨hstep.mp hnext, (ih hrest hnext).mp ⟨halong, hrespects⟩⟩
    · rintro ⟨hlasting, hrespects⟩
      have hnext := hstep.mpr hlasting
      obtain ⟨halong, hlater⟩ := (ih hrest hnext).mpr hrespects
      exact ⟨⟨hkept, halong⟩, hundefaulted, hlater⟩

/-- A block that was set, and any calls that do not end it on purpose. The address
reads as blocked at all times, with the same record but for the updates of the
detector, if and only if the call that set the block and all later ones are
lasting. -/
theorem block_kept_iff {key : IpAddr} {store : Store} {call : Call}
    (hsets : SetsBlock key store call) {calls : List Call}
    (hcontinues : ∀ later ∈ calls, ¬ later.op.Ends key) :
    (Along step (Kept key) (step store call) calls ∧
        Respects step (Undefaulted key) (step store call) calls) ↔
      Respects step (Lasting key) store (call :: calls) := by
  have hset := setsBlock_kept_iff hsets
  constructor
  · intro hall
    have hkept := hall.1.start
    exact ⟨hset.mp hkept, (hkept.along_iff hcontinues).mp hall⟩
  · rintro ⟨hlasting, hrespects⟩
    exact ((hset.mpr hlasting).along_iff hcontinues).mpr hrespects

/-- A new address, blocked and seen by a sweep a day later. -/
theorem block_kept_iff_new :
    let call : Call := ⟨0, .updateBlockState (.v4 1) (.blocked .manualBlock 0) 1024⟩
    let calls : List Call := [⟨86400 * secNs, .evictExpired IpAddr.sorted⟩]
    Along step (Kept (.v4 1)) (step new call) calls := by
  intro call calls
  have hsets : SetsBlock (.v4 1) new call := ⟨rfl, rfl, by decide⟩
  have hcontinues : ∀ later ∈ calls, ¬ later.op.Ends (.v4 1) := by simp [calls, Op.Ends]
  refine ((block_kept_iff hsets hcontinues).mpr ⟨fun _ entry _ hentry => ?_, trivial, trivial⟩).1
  cases hentry

/-- A record with a time to live of one second is blocked. Two seconds later the block
is gone. -/
theorem block_kept_fails :
    let store := run step new
      [⟨0, .insert (.v4 1) (.ipRecord (.zeroed (.v4 1) 0 .clean)) (some 1) 1024⟩,
        ⟨0, .updateBlockState (.v4 1) (.blocked .manualBlock 0) 1024⟩]
    store.blockedNow 0 (.v4 1) = true ∧ store.get (2 * secNs) (.v4 1) = none ∧
      (store.evictExpired (2 * secNs) IpAddr.sorted).2.storedRecord (.v4 1) = none := by
  decide

end RamShield.Store
