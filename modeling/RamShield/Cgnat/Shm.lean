import RamShield.Foundation.ProbeTable
import RamShield.Types.Basic

/-! # The shared-memory rule table

`publish_rule` of the daemon writes the table and `ramshield_shm_read_ex` of the C header reads
it. The model is that of a writer that nobody overlaps: each call sees every sequence number as
the previous call left it, so the bounded retries of a lock all see the same.

The table is an instance of bounded probing with expiry. Key 0 marks an empty slot; the writer
refuses it and the reader rejects it.
-/

namespace RamShield

open Foundation Foundation.Machine Function Option

def shmTableCapacity : Nat := 262144

def shmProbeLimit : Nat := 4

instance : NeZero shmTableCapacity := ⟨by decide⟩

abbrev ShmSlot := Fin shmTableCapacity

structure ShmRuleEntry where
  seq : BitVec 32
  clientHash : BitVec 64
  expiresAtMs : Nat
  challengeSeedLo : BitVec 64
  challengeSeedHi : BitVec 64
  maxRps : BitVec 16
  tier : BitVec 8
  flags : BitVec 8
  deriving DecidableEq

/-- `RamshieldShmRuleSnapshot`. -/
structure ShmRuleSnapshot where
  clientHash : BitVec 64
  expiresAtMs : Nat
  maxRps : BitVec 16
  tier : BitVec 8
  flags : BitVec 8
  challengeSeed : List (BitVec 8)
  deriving DecidableEq

/-- `RamshieldShmLookup`, with the snapshot that is written on `FOUND`. -/
inductive ShmLookup
  | found (snapshot : ShmRuleSnapshot)
  | miss
  | contended
  | invalid
  deriving DecidableEq

namespace ShmRuleEntry

def zeroed : ShmRuleEntry where
  seq := 0
  clientHash := 0
  expiresAtMs := 0
  challengeSeedLo := 0
  challengeSeedHi := 0
  maxRps := 0
  tier := 0
  flags := 0

variable (entry : ShmRuleEntry)

def isLocked : Bool := entry.seq &&& 1 != 0

def acquire : Option ShmRuleEntry :=
  if entry.isLocked then none else some { entry with seq := entry.seq + 1 }

def release : ShmRuleEntry := { entry with seq := entry.seq + 1 }

/-- The bytes of a word, least significant first. -/
def seedBytes (word : BitVec 64) : List (BitVec 8) :=
  (List.range 8).map fun index => (word >>> (8 * index)).setWidth 8

def snapshot : ShmRuleSnapshot where
  clientHash := entry.clientHash
  expiresAtMs := entry.expiresAtMs
  maxRps := entry.maxRps
  tier := entry.tier
  flags := entry.flags
  challengeSeed := seedBytes entry.challengeSeedLo ++ seedBytes entry.challengeSeedHi

def clearSlot (nowMs : Nat) : Bool × ShmRuleEntry :=
  match entry.acquire with
  | none => (false, entry)
  | some entry =>
    (true, { entry with
      clientHash := 0
      expiresAtMs := nowMs
      maxRps := 0
      tier := 0
      flags := 0
      challengeSeedLo := 0
      challengeSeedHi := 0 }.release)

end ShmRuleEntry

/-- A call of `publish_rule`, with the time it reads. -/
structure PublishCall where
  nowMs : Nat
  clientHash : BitVec 64
  ttlMs : Nat
  tier : BitVec 8
  maxRps : BitVec 16
  isShared : Bool
  deriving DecidableEq

def PublishCall.write (call : PublishCall) (entry : ShmRuleEntry) : ShmRuleEntry :=
  { entry with
    challengeSeedLo := 0
    challengeSeedHi := 0
    clientHash := call.clientHash
    tier := call.tier
    maxRps := call.maxRps
    flags := if call.isShared then 1 else 0
    expiresAtMs := satAdd call.nowMs call.ttlMs }

def PublishCall.rule (call : PublishCall) : ShmRuleSnapshot where
  clientHash := call.clientHash
  expiresAtMs := satAdd call.nowMs call.ttlMs
  maxRps := call.maxRps
  tier := call.tier
  flags := if call.isShared then 1 else 0
  challengeSeed := List.replicate 16 0

abbrev ShmTable := ShmSlot → ShmRuleEntry

namespace ShmTable

def zeroed : ShmTable := fun _ => .zeroed

/-- The slots of a key in order. The mask by the capacity less one is the remainder. -/
def probes (hash : BitVec 64) : List ShmSlot :=
  let primary := hash.toNat &&& (shmTableCapacity - 1)
  (List.range shmProbeLimit).map fun probe => Fin.ofNat shmTableCapacity (primary + probe)

/-- The slot that `publish_rule` selects: its own, or the first free or expired one. -/
def candidate (table : ShmTable) (call : PublishCall) : Option ShmSlot :=
  ((probes call.clientHash).find? fun slot => (table slot).clientHash == call.clientHash).or
    ((probes call.clientHash).find? fun slot =>
      (table slot).clientHash == 0 || decide ((table slot).expiresAtMs ≤ call.nowMs))

def publishRule (table : ShmTable) (call : PublishCall) : Bool × ShmTable :=
  if call.clientHash = 0 then (false, table)
  else
    match table.candidate call with
    | none => (false, table)
    | some slot =>
      match (table slot).acquire with
      | none => (false, table)
      | some entry =>
        -- Validated again under the lock.
        if entry.clientHash = 0 ∨ entry.clientHash = call.clientHash ∨
            entry.expiresAtMs ≤ call.nowMs then
          (true, Function.update table slot (call.write entry).release)
        else (false, Function.update table slot entry.release)

/-- The probe loop of `ramshield_shm_read_ex`. -/
def readProbes (table : ShmTable) (hash : BitVec 64) (nowMs : Nat) : Bool → List ShmSlot → ShmLookup
  | contended, [] => if contended then .contended else .miss
  | contended, slot :: slots =>
    if (table slot).isLocked then readProbes table hash nowMs true slots
    else if (table slot).clientHash = hash ∧ nowMs < (table slot).expiresAtMs then
      .found (table slot).snapshot
    else readProbes table hash nowMs contended slots

/-- `ramshield_shm_read_ex`. -/
def readEx (table : ShmTable) (hash : BitVec 64) (nowMs : Nat) : ShmLookup :=
  if hash = 0 then .invalid else readProbes table hash nowMs false (probes hash)

end ShmTable

/-! ## The table as cells -/

/-- No writer holds a slot. -/
def ShmTable.Stable (table : ShmTable) : Prop := ∀ slot, (table slot).isLocked = false

def ShmTable.cells (table : ShmTable) : ProbeTable.Cells ShmSlot (BitVec 64) ShmRuleSnapshot :=
  fun slot =>
    if (table slot).clientHash = 0 then none
    else some ((table slot).clientHash, (table slot).snapshot)

namespace ShmRuleEntry

variable {entry : ShmRuleEntry}

lemma acquire_of_not_locked (hfree : entry.isLocked = false) :
    entry.acquire = some { entry with seq := entry.seq + 1 } := by
  rw [acquire, hfree, if_neg Bool.false_ne_true]

lemma isLocked_eq_false_iff : entry.isLocked = false ↔ entry.seq.toNat % 2 = 0 := by
  rw [isLocked, bne_eq_false_iff_eq, ← BitVec.toNat_inj, BitVec.toNat_and]
  exact iff_of_eq (congrArg (· = 0) (Nat.and_one_is_mod _))

end ShmRuleEntry

namespace ShmTable

variable {table : ShmTable} {slot : ShmSlot} {call : PublishCall}

lemma cells_of_ne_zero (hused : (table slot).clientHash ≠ 0) :
    table.cells slot = some ((table slot).clientHash, (table slot).snapshot) := if_neg hused

lemma cells_of_eq_zero (hfree : (table slot).clientHash = 0) :
    table.cells slot = none := if_pos hfree

lemma candidate_eq_select (table : ShmTable) (hhash : call.clientHash ≠ 0) :
    table.candidate call =
      ProbeTable.select probes ShmRuleSnapshot.expiresAtMs table.cells call.nowMs
        call.clientHash := by
  have hown : ∀ slot, ((table slot).clientHash == call.clientHash) =
      (table.cells slot).any fun held => held.1 = call.clientHash := by
    intro slot
    by_cases hfree : (table slot).clientHash = 0
    · rw [cells_of_eq_zero hfree, any_none, hfree]
      exact beq_false_of_ne (Ne.symm hhash)
    · rw [cells_of_ne_zero hfree]
      rfl
  have hvacant : ∀ slot, ((table slot).clientHash == 0 ||
      decide ((table slot).expiresAtMs ≤ call.nowMs)) =
        (table.cells slot).all fun held => held.2.expiresAtMs ≤ call.nowMs := by
    intro slot
    by_cases hfree : (table slot).clientHash = 0
    · rw [cells_of_eq_zero hfree, all_none, hfree]
      rfl
    · rw [cells_of_ne_zero hfree, beq_false_of_ne hfree, Bool.false_or]
      rfl
  unfold candidate ProbeTable.select
  rw [funext hown, funext hvacant]

lemma claimable_of_candidate (hcandidate : table.candidate call = some slot) :
    (table slot).clientHash = 0 ∨ (table slot).clientHash = call.clientHash ∨
      (table slot).expiresAtMs ≤ call.nowMs := by
  rw [candidate, or_eq_some_iff] at hcandidate
  rcases hcandidate with hown | ⟨_, hfree⟩
  · have hholds := List.find?_some hown
    exact .inr (.inl (eq_of_beq hholds))
  · have hholds := List.find?_some hfree
    rw [Bool.or_eq_true, beq_iff_eq, decide_eq_true_eq] at hholds
    exact hholds.imp_right .inr

def published (table : ShmTable) (call : PublishCall) (slot : ShmSlot) : ShmTable :=
  Function.update table slot (call.write { table slot with seq := (table slot).seq + 1 }).release

def cleared (table : ShmTable) (slot : ShmSlot) (nowMs : Nat) : ShmTable :=
  Function.update table slot ((table slot).clearSlot nowMs).2

lemma publishRule_cases (hstable : table.Stable) (call : PublishCall) :
    (call.clientHash = 0 ∨ table.candidate call = none) ∧ table.publishRule call = (false, table) ∨
      call.clientHash ≠ 0 ∧ ∃ slot, table.candidate call = some slot ∧
        table.publishRule call = (true, table.published call slot) := by
  unfold publishRule
  split
  next hzero => exact .inl ⟨.inl hzero, rfl⟩
  next hhash =>
    split
    next hnone => exact .inl ⟨.inr hnone, rfl⟩
    next slot hcandidate =>
      refine .inr ⟨hhash, slot, hcandidate, ?_⟩
      rw [ShmRuleEntry.acquire_of_not_locked (hstable slot)]
      dsimp only
      rw [if_pos (claimable_of_candidate hcandidate)]
      rfl

lemma Stable.update (hstable : table.Stable) {entry : ShmRuleEntry}
    (hseq : entry.seq = (table slot).seq + 1 + 1) : Stable (Function.update table slot entry) := by
  intro other
  rw [update_apply]
  split
  · have hfree := hstable slot
    rw [ShmRuleEntry.isLocked_eq_false_iff] at hfree ⊢
    rw [hseq]
    bv_omega
  · exact hstable other

lemma clearSlot_of_stable (hstable : table.Stable) (slot : ShmSlot) (nowMs : Nat) :
    ((table slot).clearSlot nowMs).1 ∧ (table.cleared slot nowMs).Stable ∧
      (table.cleared slot nowMs slot).clientHash = 0 := by
  unfold cleared ShmRuleEntry.clearSlot
  rw [ShmRuleEntry.acquire_of_not_locked (hstable slot)]
  refine ⟨rfl, hstable.update rfl, ?_⟩
  rw [update_self]
  rfl

lemma cells_update (table : ShmTable) (slot : ShmSlot) (entry : ShmRuleEntry) :
    cells (Function.update table slot entry) = Function.update table.cells slot
      (if entry.clientHash = 0 then none else some (entry.clientHash, entry.snapshot)) := by
  funext other
  unfold cells
  rw [update_apply, update_apply]
  split
  · rfl
  · rfl

lemma cells_published (table : ShmTable) (hhash : call.clientHash ≠ 0) (slot : ShmSlot) :
    (table.published call slot).cells =
      Function.update table.cells slot (some (call.clientHash, call.rule)) := by
  have hseed : ShmRuleEntry.seedBytes 0 ++ ShmRuleEntry.seedBytes 0 = List.replicate 16 0 := by
    decide
  unfold published
  rw [cells_update]
  change Function.update table.cells slot
    (if call.clientHash = 0 then none else some (call.clientHash, _)) = _
  rw [if_neg hhash, PublishCall.rule, ← hseed]
  rfl

/-! ## Reading -/

lemma readProbes_eq (hstable : table.Stable) {hash : BitVec 64} (hhash : hash ≠ 0) (nowMs : Nat)
    (slots : List ShmSlot) :
    table.readProbes hash nowMs false slots =
      ((slots.findSome? fun slot => (table.cells slot).bind fun held =>
        if held.1 = hash ∧ nowMs < held.2.expiresAtMs then some held.2 else none).map
          ShmLookup.found).getD .miss := by
  induction slots with
  | nil => rfl
  | cons slot slots ih =>
    rw [readProbes, hstable slot, if_neg Bool.false_ne_true, List.findSome?_cons]
    by_cases hfree : (table slot).clientHash = 0
    · rw [cells_of_eq_zero hfree, hfree, if_neg fun hlive => hhash hlive.1.symm, ih]
      rfl
    · rw [cells_of_ne_zero hfree, bind_some]
      dsimp only
      by_cases hlive : (table slot).clientHash = hash ∧ nowMs < (table slot).expiresAtMs
      · rw [if_pos hlive, if_pos (show _ ∧ nowMs < (table slot).snapshot.expiresAtMs from hlive)]
        rfl
      · rw [if_neg hlive,
          if_neg (show ¬(_ ∧ nowMs < (table slot).snapshot.expiresAtMs) from hlive), ih]

end ShmTable

/-! ## Runs -/

/-- What the writer does to the table. -/
inductive ShmCall
  | publish (call : PublishCall)
  | clear (slot : ShmSlot) (nowMs : Nat)
  deriving DecidableEq

def ShmCall.nowMs : ShmCall → Nat
  | .publish call => call.nowMs
  | .clear _ nowMs => nowMs

/-- The call as an action of a table with bounded probing. Key 0 is refused. -/
def ShmCall.action : ShmCall → Option (ProbeTable.Action ShmSlot (BitVec 64) ShmRuleSnapshot)
  | .publish call =>
    if call.clientHash = 0 then none else some (.place call.nowMs call.clientHash call.rule)
  | .clear slot nowMs => some (.clear nowMs slot)

/-- The table, and the slot and rule of the last `publish_rule` of each key, if not cleared. -/
structure ShmRun where
  table : ShmTable
  latest : BitVec 64 → Option (ShmSlot × ShmRuleSnapshot)

namespace ShmRun

def new : ShmRun := ⟨.zeroed, fun _ => none⟩

def step (run : ShmRun) : ShmCall → ShmRun
  | .publish call =>
    let result := run.table.publishRule call
    { table := result.2
      latest :=
        if result.1 then
          Function.update run.latest call.clientHash
            ((run.table.candidate call).map fun slot => (slot, call.rule))
        else run.latest }
  | .clear slot nowMs =>
    { table := run.table.cleared slot nowMs
      latest :=
        if ((run.table slot).clearSlot nowMs).1 then
          fun hash => (run.latest hash).filter fun placed => placed.1 ≠ slot
        else run.latest }

def state (run : ShmRun) : ProbeTable.State ShmSlot (BitVec 64) ShmRuleSnapshot :=
  ⟨run.table.cells, run.latest⟩

lemma stable_new : new.table.Stable := by
  intro slot
  exact ShmRuleEntry.isLocked_eq_false_iff.mpr rfl

lemma state_publish {run : ShmRun} (hstable : run.table.Stable) (call : PublishCall) :
    (run.step (.publish call)).table.Stable ∧
      (run.step (.publish call)).state =
        if call.clientHash = 0 then run.state
        else ProbeTable.step ShmTable.probes ShmRuleSnapshot.expiresAtMs run.state
          (.place call.nowMs call.clientHash call.rule) := by
  unfold step
  dsimp only
  rcases ShmTable.publishRule_cases hstable call with
    ⟨hrefused, hresult⟩ | ⟨hhash, slot, hcandidate, hresult⟩
  · rw [hresult]
    refine ⟨hstable, ?_⟩
    by_cases hhash : call.clientHash = 0
    · rw [if_pos hhash]
      rfl
    · have hselect := hrefused.resolve_left hhash
      rw [run.table.candidate_eq_select hhash] at hselect
      rw [if_neg hhash]
      unfold ProbeTable.step
      dsimp only [state]
      rw [hselect]
      rfl
  · have hselect := hcandidate
    rw [run.table.candidate_eq_select hhash] at hselect
    rw [hresult, hcandidate, if_neg hhash]
    refine ⟨hstable.update rfl, ?_⟩
    unfold ProbeTable.step
    dsimp only [state]
    rw [hselect]
    dsimp only [ProbeTable.State.put]
    rw [run.table.cells_published hhash]
    rfl

lemma state_clear {run : ShmRun} (hstable : run.table.Stable) (slot : ShmSlot) (nowMs : Nat) :
    (run.step (.clear slot nowMs)).table.Stable ∧
      (run.step (.clear slot nowMs)).state = run.state.clear slot := by
  obtain ⟨hcleared, hnext, hfree⟩ := ShmTable.clearSlot_of_stable hstable slot nowMs
  refine ⟨hnext, ?_⟩
  unfold ShmTable.cleared at hfree
  rw [update_self] at hfree
  unfold step state ProbeTable.State.clear ShmTable.cleared
  dsimp only
  rw [hcleared, ShmTable.cells_update, if_pos hfree]
  rfl

lemma state_run {start : ShmRun} (hstable : start.table.Stable) (calls : List ShmCall) :
    (run step start calls).table.Stable ∧
      (run step start calls).state =
        run (ProbeTable.step ShmTable.probes ShmRuleSnapshot.expiresAtMs) start.state
          (calls.filterMap ShmCall.action) := by
  induction calls generalizing start with
  | nil => exact ⟨hstable, rfl⟩
  | cons call calls ih =>
    cases call with
    | publish call =>
      obtain ⟨hnext, hstate⟩ := state_publish hstable call
      obtain ⟨hlast, hrun⟩ := ih hnext
      refine ⟨hlast, hrun.trans ?_⟩
      rw [hstate, List.filterMap_cons, ShmCall.action]
      split
      · rfl
      · rfl
    | clear slot nowMs =>
      obtain ⟨hnext, hstate⟩ := state_clear hstable slot nowMs
      obtain ⟨hlast, hrun⟩ := ih hnext
      refine ⟨hlast, hrun.trans ?_⟩
      rw [hstate]
      rfl

/-- The calls are in the order of their times, and none is later than `nowMs`. -/
structure Ordered (calls : List ShmCall) (nowMs : Nat) : Prop where
  sorted : calls.Pairwise fun first second => first.nowMs ≤ second.nowMs
  past : ∀ call ∈ calls, call.nowMs ≤ nowMs

lemma now_of_action {call : ShmCall}
    {action : ProbeTable.Action ShmSlot (BitVec 64) ShmRuleSnapshot}
    (haction : call.action = some action) : action.now = call.nowMs := by
  cases call with
  | publish call =>
    rw [ShmCall.action] at haction
    split at haction
    · cases haction
    cases haction
    rfl
  | clear slot nowMs =>
    cases haction
    rfl

variable {calls : List ShmCall}

lemma Ordered.actions {nowMs : Nat} (hordered : Ordered calls nowMs) :
    ProbeTable.Ordered (calls.filterMap ShmCall.action) nowMs where
  sorted := by
    rw [List.pairwise_filterMap]
    refine hordered.sorted.imp fun {first second} hle before hbefore after hafter => ?_
    rw [now_of_action hbefore, now_of_action hafter]
    exact hle
  past := by
    intro action haction
    obtain ⟨call, hcall, hsome⟩ := List.mem_filterMap.mp haction
    rw [now_of_action hsome]
    exact hordered.past call hcall

lemma agrees_run {nowMs : Nat} (hordered : Ordered calls nowMs) :
    ProbeTable.Agrees ShmTable.probes ShmRuleSnapshot.expiresAtMs (run step new calls).state
      nowMs := by
  rw [(state_run stable_new calls).2]
  exact (ProbeTable.agrees_empty 0).run (Nat.zero_le nowMs) (fun _ _ => Nat.zero_le _)
    hordered.actions

/-- What an expiring map answers: the last rule of the key, as long as it is live. -/
def answer (run : ShmRun) (hash : BitVec 64) (nowMs : Nat) : ShmLookup :=
  match run.latest hash with
  | some (_, rule) => if nowMs < rule.expiresAtMs then .found rule else .miss
  | none => .miss

lemma readEx_run {nowMs : Nat} (hordered : Ordered calls nowMs) {hash : BitVec 64}
    (hhash : hash ≠ 0) :
    (run step new calls).table.readEx hash nowMs = (run step new calls).answer hash nowMs := by
  rw [ShmTable.readEx, if_neg hhash, ShmTable.readProbes_eq (state_run stable_new calls).1 hhash]
  change ((ProbeTable.read _ _ (run step new calls).state.cells _ _).map _).getD _ = _
  rw [(agrees_run hordered).read_eq (Nat.le_refl nowMs)]
  unfold answer
  dsimp only [state]
  cases (run step new calls).latest hash with
  | none => rfl
  | some placed =>
    by_cases hlive : nowMs < placed.2.expiresAtMs
    · simp [hlive, filter_some]
    · simp [hlive, filter_some]

lemma slot_unique {nowMs : Nat} (hordered : Ordered calls nowMs) {first second : ShmSlot}
    (hused : ((run step new calls).table first).clientHash ≠ 0)
    (hsame : ((run step new calls).table second).clientHash =
      ((run step new calls).table first).clientHash) :
    first = second := by
  have hfirst := ShmTable.cells_of_ne_zero hused
  have hsecond := ShmTable.cells_of_ne_zero (hsame ▸ hused)
  rw [hsame] at hsecond
  exact (agrees_run hordered).slot_unique hfirst hsecond

end ShmRun

namespace ShmTable

def HoldsOther (table : ShmTable) (call : PublishCall) (slot : ShmSlot) : Prop :=
  (table slot).clientHash ≠ 0 ∧ (table slot).clientHash ≠ call.clientHash ∧
    call.nowMs < (table slot).expiresAtMs

lemma publishRule_eq_false_iff {table : ShmTable} (hstable : table.Stable) (call : PublishCall) :
    (table.publishRule call).1 = false ↔
      call.clientHash = 0 ∨ ∀ slot ∈ probes call.clientHash, table.HoldsOther call slot := by
  have hnone : call.clientHash ≠ 0 → (table.candidate call = none ↔
      ∀ slot ∈ probes call.clientHash, table.HoldsOther call slot) := by
    intro hhash
    rw [table.candidate_eq_select hhash, ProbeTable.select_eq_none_iff]
    refine forall₂_congr fun slot _ => ?_
    by_cases hfree : (table slot).clientHash = 0
    · simp [cells_of_eq_zero hfree, HoldsOther, hfree]
    · rw [cells_of_ne_zero hfree]
      constructor
      · rintro ⟨other, rule, hcell, hother, hlive⟩
        cases hcell
        exact ⟨hfree, hother, hlive⟩
      · rintro ⟨_, hother, hlive⟩
        exact ⟨_, _, rfl, hother, hlive⟩
  rcases publishRule_cases hstable call with
    ⟨hrefused, hresult⟩ | ⟨hhash, slot, hcandidate, hresult⟩
  · rw [hresult]
    refine iff_of_true rfl ?_
    by_cases hhash : call.clientHash = 0
    · exact .inl hhash
    · exact .inr ((hnone hhash).mp (hrefused.resolve_left hhash))
  · rw [hresult]
    refine iff_of_false Bool.true_eq_false.mp ?_
    rintro (hzero | hall)
    · exact hhash hzero
    · rw [(hnone hhash).mpr hall] at hcandidate
      cases hcandidate

/-- A live rule is not overwritten by another key. -/
lemma publishRule_of_holdsOther {table : ShmTable} (hstable : table.Stable) {call : PublishCall}
    {slot : ShmSlot} (hother : table.HoldsOther call slot) :
    (table.publishRule call).2 slot = table slot := by
  rcases publishRule_cases hstable call with ⟨_, hresult⟩ | ⟨_, selected, hcandidate, hresult⟩
  · rw [hresult]
  · rw [hresult, published]
    refine update_of_ne (fun hsame => ?_) _ _
    rcases claimable_of_candidate (hsame ▸ hcandidate) with hzero | hown | hexpired
    · exact hother.1 hzero
    · exact hother.2.1 hown
    · exact Nat.not_le.mpr hother.2.2 hexpired

end ShmTable

/-- The table is an expiring map. After any calls in the order of their times, a lookup of a
key other than 0 answers with the rule of the key's last successful publication, as long as it
is live and its slot has not been cleared; a key occupies one slot at most; and a publication
fails exactly for key 0 and for a key whose slots all hold live rules of other keys, which no
publication overwrites. -/
theorem ShmRun.behaves_as_expiring_map {calls : List ShmCall} {nowMs : Nat}
    (hordered : Ordered calls nowMs) : let last := run step new calls
    (∀ hash ≠ 0, last.table.readEx hash nowMs = last.answer hash nowMs) ∧
    (∀ first second, (last.table first).clientHash ≠ 0 →
      (last.table second).clientHash = (last.table first).clientHash → first = second) ∧
    (∀ call, (last.table.publishRule call).1 = false ↔ call.clientHash = 0 ∨
      ∀ slot ∈ ShmTable.probes call.clientHash, last.table.HoldsOther call slot) ∧
    ∀ call slot, last.table.HoldsOther call slot →
      (last.table.publishRule call).2 slot = last.table slot := by
  intro last
  have hstable := (state_run stable_new calls).1
  refine ⟨fun hash hhash => readEx_run hordered hhash, fun first second hused hsame => ?_,
    ShmTable.publishRule_eq_false_iff hstable, fun call slot hother => ?_⟩
  · exact slot_unique hordered hused hsame
  · exact ShmTable.publishRule_of_holdsOther hstable hother

/-- Two keys share a slot: the first rule expires and a third takes its slot, the second stays. -/
def shmCollisions : List ShmCall :=
  [.publish ⟨0, 0x1111, 10, 1, 0, true⟩, .publish ⟨1, 0x41111, 100, 3, 0, false⟩,
    .publish ⟨5, 0x1111, 20, 2, 7, true⟩, .publish ⟨25, 0x81111, 100, 3, 0, false⟩]

theorem ShmRun.behaves_as_expiring_map_collisions :
    (run step new shmCollisions).table.readEx 0x1111 30 = .miss ∧
      (run step new shmCollisions).table.readEx 0x41111 30 =
        .found (PublishCall.rule ⟨1, 0x41111, 100, 3, 0, false⟩) ∧
      ((run step new shmCollisions).table.publishRule ⟨30, 0x1111, 10, 1, 0, true⟩).2 0x1111 =
        (run step new shmCollisions).table 0x1111 := by
  have hordered : Ordered shmCollisions 30 := ⟨by decide, by decide⟩
  obtain ⟨hread, _, _, hkeeps⟩ := behaves_as_expiring_map hordered
  refine ⟨?_, ?_, ?_⟩
  · rw [hread _ (by decide)]
    decide +kernel
  · rw [hread _ (by decide)]
    decide +kernel
  · apply hkeeps
    unfold ShmTable.HoldsOther
    decide +kernel

end RamShield
