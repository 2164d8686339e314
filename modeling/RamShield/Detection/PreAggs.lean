import Mathlib.Tactic.Abel
import RamShield.Detection.Batch
import RamShield.Foundation.Run
import RamShield.Foundation.Tally

/-! # Pre-aggregation of connection events

Every worker absorbs the events it receives into a buffer of its own. At a flush boundary
it moves the buffer into a table shared by the workers, and the table is handed to the
batch flush. Both run under one lock. When the shared table is full a merge flushes it
with the aggregate that found no room still in hand.

The holder of the lock takes one step at a time here, so that the other workers receive
events in between, and what it has in hand is part of the state.
-/

namespace RamShield

open Foundation List

/-- A flush that has collected part of the keys it found. -/
structure Flush where
  keys : List IpAddr
  aggs : List (IpAddr × IpAgg)

/-- The holder of `pre_aggs_merge_lock`: the rest of its buffer, and the flush it is in. -/
structure MergeGuard (Worker : Type) where
  worker : Worker
  drain : List (IpAddr × IpAgg)
  flush : Option Flush

/-- The item a holder merges next, unless it is in a flush. -/
def MergeGuard.next {Worker : Type} (guard : MergeGuard Worker) : Option (IpAddr × IpAgg) :=
  match guard.flush with
  | some _ => none
  | none => guard.drain.head?

/-- The buffers before the batch flush, the events received and the batches handed on. -/
structure PreAggregation (Worker : Type) where
  received : List ConnectionEvent
  emergencies : List (IpAddr × Nat)
  locals : Worker → Table IpAddr IpAgg
  preAggs : Table IpAddr IpAgg
  mergeLock : Option (MergeGuard Worker)
  flushed : List (List (IpAddr × IpAgg))

inductive AggregationAction (Worker : Type)
  | receive (worker : Worker) (event : ConnectionEvent) (emergencyThreshold : Nat)
  | mergeLocal (worker : Worker) (order : IterOrder IpAddr)
  | flushPreAggsToStore (worker : Worker) (order : IterOrder IpAddr)
  | proceed (order : IterOrder IpAddr)

def absorbOrEmergency (buffer : Table IpAddr IpAgg) (event : ConnectionEvent)
    (emergencyThreshold : Nat) : Table IpAddr IpAgg × Option (IpAddr × Nat) :=
  let agg := ((buffer.lookup event.ip).getD .default).absorb event
  (buffer.insert event.ip agg,
    if 0 < emergencyThreshold ∧ agg.count = emergencyThreshold then some (event.ip, agg.count)
    else none)

namespace PreAggregation

variable {Worker : Type}

def start : PreAggregation Worker := ⟨[], [], fun _ => ∅, ∅, none, []⟩

/-- A worker takes an event from the channel. It does not while it holds the lock. -/
def receive [DecidableEq Worker] (state : PreAggregation Worker) (worker : Worker)
    (event : ConnectionEvent) (emergencyThreshold : Nat) : PreAggregation Worker :=
  if state.mergeLock.any fun guard => decide (guard.worker = worker) then state
  else
    let absorbed := absorbOrEmergency (state.locals worker) event emergencyThreshold
    { state with
      received := state.received ++ [event]
      emergencies := state.emergencies ++ absorbed.2.toList
      locals := Function.update state.locals worker absorbed.1 }

def mergeLocal [DecidableEq Worker] (state : PreAggregation Worker) (worker : Worker)
    (order : IterOrder IpAddr) : PreAggregation Worker :=
  if state.mergeLock.isSome ∨ (state.locals worker).keys = ∅ then state
  else
    { state with
      locals := Function.update state.locals worker ∅
      mergeLock := some ⟨worker, (state.locals worker).pairs order, none⟩ }

variable (state : PreAggregation Worker)

/-- `flush_pre_aggs_locked` up to its loop. There is nothing to do for an empty table. -/
def flushPreAggsLocked (order : IterOrder IpAddr) : Option Flush :=
  if state.preAggs.keys = ∅ then none else some ⟨order.enum state.preAggs.keys, []⟩

def flushPreAggsToStore (worker : Worker) (order : IterOrder IpAddr) : PreAggregation Worker :=
  if state.mergeLock.isSome then state
  else { state with mergeLock := some ⟨worker, [], state.flushPreAggsLocked order⟩ }

/-- One round of `flush_pre_aggs_locked`, or the call of `flush_batch` after it. -/
def collect (guard : MergeGuard Worker) (flush : Flush) : PreAggregation Worker :=
  match flush.keys with
  | [] =>
    { state with
      flushed := state.flushed ++ [flush.aggs]
      mergeLock := some { guard with flush := none } }
  | key :: keys =>
    match state.preAggs.lookup key with
    | some agg =>
      { state with
        preAggs := state.preAggs.erase key
        mergeLock := some { guard with flush := some ⟨keys, flush.aggs ++ [(key, agg)]⟩ } }
    | none => { state with mergeLock := some { guard with flush := some ⟨keys, flush.aggs⟩ } }

/-- One round of the inner loop of `merge_local`. -/
def mergeItem (maxEntries : Nat) (state : PreAggregation Worker) (guard : MergeGuard Worker)
    (ip : IpAddr) (agg : IpAgg) (drain : List (IpAddr × IpAgg)) (order : IterOrder IpAddr) :
    PreAggregation Worker :=
  match state.preAggs.lookup ip with
  | some current =>
    { state with
      preAggs := state.preAggs.insert ip (current.mergeWith agg)
      mergeLock := some { guard with drain := drain } }
  | none =>
    if state.preAggs.keys.card < maxEntries then
      { state with
        preAggs := state.preAggs.insert ip agg
        mergeLock := some { guard with drain := drain } }
    else
      { state with mergeLock := some { guard with flush := state.flushPreAggsLocked order } }

def proceed (maxEntries : Nat) (state : PreAggregation Worker) (order : IterOrder IpAddr) :
    PreAggregation Worker :=
  match state.mergeLock with
  | none => state
  | some guard =>
    match guard.flush with
    | some flush => state.collect guard flush
    | none =>
      match guard.drain with
      | [] => { state with mergeLock := none }
      | (ip, agg) :: drain => state.mergeItem maxEntries guard ip agg drain order

def step [DecidableEq Worker] (maxEntries : Nat) (state : PreAggregation Worker) :
    AggregationAction Worker → PreAggregation Worker
  | .receive worker event emergencyThreshold => state.receive worker event emergencyThreshold
  | .mergeLocal worker order => state.mergeLocal worker order
  | .flushPreAggsToStore worker order => state.flushPreAggsToStore worker order
  | .proceed order => state.proceed maxEntries order

/-! ## Conservation -/

/-- What the holder of the lock has not merged yet. It is the worker's own still. -/
def draining : List (IpAddr × IpAgg) := (state.mergeLock.map MergeGuard.drain).getD []

/-- What a flush has taken out of the shared table and not handed on yet. -/
def collecting : List (IpAddr × IpAgg) :=
  ((state.mergeLock.bind MergeGuard.flush).map Flush.aggs).getD []

variable {state} {maxEntries : Nat}

lemma draining_of_guard {guard : MergeGuard Worker} (hguard : state.mergeLock = some guard) :
    state.draining = guard.drain := by
  rw [draining, hguard, Option.map_some, Option.getD_some]

lemma collecting_of_guard {guard : MergeGuard Worker} (hguard : state.mergeLock = some guard) :
    state.collecting = (guard.flush.map Flush.aggs).getD [] := by
  rw [collecting, hguard, Option.bind_some]

lemma draining_of_free (hfree : ¬state.mergeLock.isSome) : state.draining = [] := by
  rw [draining, Option.not_isSome_iff_eq_none.mp hfree, Option.map_none, Option.getD_none]

lemma collecting_of_free (hfree : ¬state.mergeLock.isSome) : state.collecting = [] := by
  rw [collecting, Option.not_isSome_iff_eq_none.mp hfree]
  rfl

lemma aggs_flushPreAggsLocked (state : PreAggregation Worker) (order : IterOrder IpAddr) :
    ((state.flushPreAggsLocked order).map Flush.aggs).getD [] = [] := by
  unfold flushPreAggsLocked
  split
  · rfl
  · rfl

def NoSaturation (state : PreAggregation Worker) : AggregationAction Worker → Prop
  | .receive worker event _ =>
    (((state.locals worker).lookup event.ip).map IpAgg.count).getD 0 < u32Max
  | .proceed _ =>
    ∀ guard ∈ state.mergeLock, ∀ item ∈ guard.next,
      ∀ current ∈ state.preAggs.lookup item.1, current.count + item.2.count ≤ u32Max
  | _ => True

instance (state : PreAggregation Worker) :
    ∀ action, Decidable (state.NoSaturation action)
  | .receive _ _ _ => inferInstanceAs (Decidable (_ < _))
  | .mergeLocal _ _ => inferInstanceAs (Decidable True)
  | .flushPreAggsToStore _ _ => inferInstanceAs (Decidable True)
  | .proceed _ =>
    inferInstanceAs (Decidable (∀ guard ∈ state.mergeLock, ∀ item ∈ guard.next,
      ∀ current ∈ state.preAggs.lookup item.1, current.count + item.2.count ≤ u32Max))

section Conservation

variable [Fintype Worker]

noncomputable def counted (state : PreAggregation Worker) : IpAddr →₀ Nat :=
  tally IpAgg.count state.flushed.flatten + tally IpAgg.count state.collecting +
    Table.tally IpAgg.count state.preAggs + tally IpAgg.count state.draining +
    ∑ worker, Table.tally IpAgg.count (state.locals worker)

noncomputable def arrived (state : PreAggregation Worker) : IpAddr →₀ Nat :=
  tally (fun _ => 1) (state.received.map fun event => (event.ip, event))

omit [Fintype Worker] in
lemma count_absorbOrEmergency {buffer : Table IpAddr IpAgg} {event : ConnectionEvent}
    (hroom : ((buffer.lookup event.ip).map IpAgg.count).getD 0 < u32Max) (threshold : Nat) :
    Table.tally IpAgg.count (absorbOrEmergency buffer event threshold).1 =
      Table.tally IpAgg.count buffer + Finsupp.single event.ip 1 := by
  apply Table.tally_insert
  rw [IpAgg.count_absorb, satAdd32]
  cases hbuffer : buffer.lookup event.ip with
  | none => rfl
  | some agg =>
    rw [hbuffer] at hroom
    exact Nat.min_eq_left hroom

variable (hcounted : state.counted = state.arrived)

include hcounted

lemma counted_receive [DecidableEq Worker] {worker : Worker} {event : ConnectionEvent}
    {threshold : Nat} (hroom : state.NoSaturation (.receive worker event threshold)) :
    (state.receive worker event threshold).counted =
      (state.receive worker event threshold).arrived := by
  unfold receive
  split
  · exact hcounted
  have hlocals := sum_update_of_add (count_absorbOrEmergency hroom threshold)
  have harrived : tally (fun _ => 1) ((state.received ++ [event]).map
      fun event => (event.ip, event)) = state.arrived + Finsupp.single event.ip 1 := by
    rw [map_append, tally_append, map_singleton, tally_cons, tally_nil, add_zero]
    rfl
  change _ + _ + _ + _ + ∑ other, _ = tally _ _
  rw [hlocals, harrived, ← hcounted, ← add_assoc]
  rfl

lemma counted_mergeLocal [DecidableEq Worker] (worker : Worker) (order : IterOrder IpAddr) :
    (state.mergeLocal worker order).counted = (state.mergeLocal worker order).arrived := by
  unfold mergeLocal
  split
  · exact hcounted
  next hfree =>
    refine Eq.trans ?_ hcounted
    obtain ⟨hlock, -⟩ := not_or.mp hfree
    have hlocals := sum_update (Table.tally IpAgg.count) state.locals worker ∅
    rw [Table.tally_empty, add_zero] at hlocals
    rw [counted, counted, draining_of_free hlock, collecting_of_free hlock, ← hlocals]
    change _ + tally _ [] + _ + tally _ ((state.locals worker).pairs order) + _ = _
    rw [Table.tally_pairs]
    abel

lemma counted_flushPreAggsToStore (worker : Worker) (order : IterOrder IpAddr) :
    (state.flushPreAggsToStore worker order).counted =
      (state.flushPreAggsToStore worker order).arrived := by
  unfold flushPreAggsToStore
  split
  · exact hcounted
  next hlock =>
    refine Eq.trans ?_ hcounted
    rw [counted, counted, draining_of_free hlock, collecting_of_free hlock]
    change _ + tally _ (Option.getD (Option.map _ (state.flushPreAggsLocked order)) []) + _ +
      tally _ [] + _ = _
    rw [aggs_flushPreAggsLocked]

variable {guard : MergeGuard Worker}

lemma counted_collect {flush : Flush} (hguard : state.mergeLock = some guard)
    (hflush : guard.flush = some flush) :
    (state.collect guard flush).counted = (state.collect guard flush).arrived := by
  have hcollecting : state.collecting = flush.aggs := by
    rw [collecting_of_guard hguard, hflush, Option.map_some, Option.getD_some]
  unfold collect
  split
  next hkeys =>
    refine Eq.trans ?_ hcounted
    rw [counted, counted, draining_of_guard hguard, hcollecting]
    change tally _ (state.flushed ++ [flush.aggs]).flatten + tally _ [] + _ +
      tally _ guard.drain + _ = _
    rw [flatten_append, tally_append, flatten_singleton, tally_nil, add_zero]
  next key keys hkeys =>
    split
    next agg hagg =>
      refine Eq.trans ?_ hcounted
      rw [counted, counted, draining_of_guard hguard, hcollecting,
        ← Table.tally_erase IpAgg.count hagg]
      change _ + tally _ (flush.aggs ++ [(key, agg)]) + Table.tally _ (state.preAggs.erase key) +
        tally _ guard.drain + _ = _
      rw [tally_append, tally_cons, tally_nil, add_zero]
      abel
    · refine Eq.trans ?_ hcounted
      rw [counted, counted, draining_of_guard hguard, hcollecting]
      rfl

lemma counted_mergeItem {ip : IpAddr} {agg : IpAgg} {drain : List (IpAddr × IpAgg)}
    (hguard : state.mergeLock = some guard) (hflush : guard.flush = none)
    (hdrain : guard.drain = (ip, agg) :: drain)
    (hroom : ∀ current ∈ state.preAggs.lookup ip, current.count + agg.count ≤ u32Max)
    (order : IterOrder IpAddr) :
    (state.mergeItem maxEntries guard ip agg drain order).counted =
      (state.mergeItem maxEntries guard ip agg drain order).arrived := by
  -- Both ways into the table move the count of the item there.
  have hmoved {value : IpAgg}
      (hvalue : value.count = ((state.preAggs.lookup ip).map IpAgg.count).getD 0 + agg.count) :
      counted { state with
        preAggs := state.preAggs.insert ip value
        mergeLock := some { guard with drain := drain } } = state.arrived := by
    rw [← hcounted, counted, counted, draining_of_guard hguard, collecting_of_guard hguard, hdrain,
      tally_cons]
    change _ + tally _ (Option.getD (Option.map _ guard.flush) []) +
      Table.tally _ (state.preAggs.insert ip value) + tally _ drain + _ = _
    rw [Table.tally_insert hvalue]
    abel
  unfold mergeItem
  split
  next current hcurrent =>
    apply hmoved
    rw [IpAgg.count_mergeWith, hcurrent, satAdd32]
    exact Nat.min_eq_left (hroom current hcurrent)
  next hvacant =>
    split
    · apply hmoved
      rw [hvacant, Option.map_none, Option.getD_none, Nat.zero_add]
    · refine Eq.trans ?_ hcounted
      rw [counted, counted, draining_of_guard hguard, collecting_of_guard hguard, hflush]
      change _ + tally _ (Option.getD (Option.map _ (state.flushPreAggsLocked order)) []) + _ +
        tally _ guard.drain + _ = _
      rw [aggs_flushPreAggsLocked]
      rfl

lemma counted_proceed {order : IterOrder IpAddr} (hroom : state.NoSaturation (.proceed order)) :
    (state.proceed maxEntries order).counted = (state.proceed maxEntries order).arrived := by
  unfold proceed
  split
  · exact hcounted
  next guard hguard =>
    split
    next flush hflush => exact counted_collect hcounted hguard hflush
    next hflush =>
      split
      next hdrain =>
        refine Eq.trans ?_ hcounted
        rw [counted, counted, draining_of_guard hguard, collecting_of_guard hguard, hflush, hdrain]
        rfl
      next ip agg drain hdrain =>
        apply counted_mergeItem hcounted hguard hflush hdrain
        apply hroom guard hguard (ip, agg)
        rw [MergeGuard.next, hflush, hdrain]
        rfl

end Conservation

/-! ## The bound of the shared table -/

lemma card_collect_le (state : PreAggregation Worker) (guard : MergeGuard Worker)
    (flush : Flush) : (state.collect guard flush).preAggs.keys.card ≤ state.preAggs.keys.card := by
  unfold collect
  split
  · exact le_rfl
  next key keys hkeys =>
    split
    · change (state.preAggs.erase key).keys.card ≤ _
      rw [Finmap.keys_erase]
      exact Finset.card_erase_le
    · exact le_rfl

lemma card_mergeItem_le (hbound : state.preAggs.keys.card ≤ maxEntries)
    (guard : MergeGuard Worker) (ip : IpAddr) (agg : IpAgg) (drain : List (IpAddr × IpAgg))
    (order : IterOrder IpAddr) :
    (state.mergeItem maxEntries guard ip agg drain order).preAggs.keys.card ≤ maxEntries := by
  unfold mergeItem
  split
  next current hcurrent =>
    change (state.preAggs.insert ip _).keys.card ≤ _
    rw [Table.keys_insert,
      Finset.insert_eq_of_mem (Table.mem_keys_iff_lookup.mpr ⟨current, hcurrent⟩)]
    exact hbound
  · split
    next hroom =>
      change (state.preAggs.insert ip _).keys.card ≤ _
      rw [Table.keys_insert]
      exact (Finset.card_insert_le ip _).trans hroom
    · exact hbound

lemma card_proceed_le (hbound : state.preAggs.keys.card ≤ maxEntries) (order : IterOrder IpAddr) :
    (state.proceed maxEntries order).preAggs.keys.card ≤ maxEntries := by
  unfold proceed
  split
  · exact hbound
  next guard hguard =>
    split
    next flush hflush => exact (card_collect_le state guard flush).trans hbound
    split
    · exact hbound
    · exact card_mergeItem_le hbound _ _ _ _ _

lemma card_step_le [DecidableEq Worker] (hbound : state.preAggs.keys.card ≤ maxEntries)
    (action : AggregationAction Worker) :
    (state.step maxEntries action).preAggs.keys.card ≤ maxEntries := by
  cases action with
  | receive worker event threshold =>
    simp only [step, receive]
    split
    · exact hbound
    · exact hbound
  | mergeLocal worker order =>
    simp only [step, mergeLocal]
    split
    · exact hbound
    · exact hbound
  | flushPreAggsToStore worker order =>
    simp only [step, flushPreAggsToStore]
    split
    · exact hbound
    · exact hbound
  | proceed order => exact card_proceed_le hbound order

/-! ## Whole runs -/

def countOf (ip : IpAddr) (aggs : List (IpAddr × IpAgg)) : Nat :=
  ((aggs.filter fun item => decide (item.1 = ip)).map fun item => item.2.count).sum

def countIn (ip : IpAddr) (table : Table IpAddr IpAgg) : Nat :=
  ((table.lookup ip).map IpAgg.count).getD 0

/-- Every event is counted once: by a worker, in the table, or in a batch. -/
structure Conserved [Fintype Worker] (state : PreAggregation Worker) : Prop where
  perIp (ip : IpAddr) :
    countOf ip state.flushed.flatten + countOf ip state.collecting +
        countIn ip state.preAggs + countOf ip state.draining +
        ∑ worker, countIn ip (state.locals worker) =
      (state.received.filter fun event => decide (event.ip = ip)).length
  total :
    (state.flushed.flatten.map fun item => item.2.count).sum +
        (state.collecting.map fun item => item.2.count).sum +
        Table.total IpAgg.count state.preAggs +
        (state.draining.map fun item => item.2.count).sum +
        ∑ worker, Table.total IpAgg.count (state.locals worker) =
      state.received.length
  /-- Between the steps under the lock nothing is in hand. -/
  settled : state.mergeLock = none → state.collecting = [] ∧ state.draining = []

section Runs

variable [Fintype Worker]

lemma counted_step [DecidableEq Worker] {maxEntries : Nat} {state : PreAggregation Worker}
    {action : AggregationAction Worker} (hroom : state.NoSaturation action)
    (hcounted : state.counted = state.arrived) :
    (state.step maxEntries action).counted = (state.step maxEntries action).arrived := by
  cases action with
  | receive worker event threshold => exact counted_receive hcounted hroom
  | mergeLocal worker order => exact counted_mergeLocal hcounted worker order
  | flushPreAggsToStore worker order => exact counted_flushPreAggsToStore hcounted worker order
  | proceed order => exact counted_proceed hcounted hroom

lemma conserved_of_counted {state : PreAggregation Worker}
    (hcounted : state.counted = state.arrived) : state.Conserved where
  perIp ip := by
    have happly := DFunLike.congr_fun hcounted ip
    simp only [counted, arrived, Finsupp.add_apply, Finsupp.finsetSum_apply, tally_apply,
      Table.tally_apply] at happly
    refine Eq.trans happly ?_
    simp [filter_map, Function.comp_def]
  total := by
    have hdegree := congrArg Finsupp.degree hcounted
    simp only [counted, arrived, map_add, map_sum, degree_tally, Table.degree_tally] at hdegree
    refine Eq.trans hdegree ?_
    simp [Function.comp_def]
  settled hfree := by
    have hlock : ¬state.mergeLock.isSome := by
      rw [hfree]
      exact Bool.false_ne_true
    exact ⟨collecting_of_free hlock, draining_of_free hlock⟩

/-- Along every run in which no counter saturates, the workers receiving and the holder of
the lock proceeding in any order, no event is lost or counted twice and the shared table
stays within its limit. -/
theorem aggregation_conserved [DecidableEq Worker] (maxEntries : Nat)
    (actions : List (AggregationAction Worker))
    (hroom : Machine.Respects (step maxEntries) NoSaturation start actions) :
    Machine.Along (step maxEntries)
      (fun state => state.Conserved ∧ state.preAggs.keys.card ≤ maxEntries) start actions := by
  have hcounted : Machine.Along (step maxEntries)
      (fun state => state.counted = state.arrived ∧ state.preAggs.keys.card ≤ maxEntries)
      start actions :=
    Machine.Along.of_respects
      (fun _ action hstate hroom => ⟨counted_step hroom hstate.1, card_step_le hstate.2 action⟩)
      ⟨by simp [counted, arrived, start, collecting, draining], Nat.zero_le _⟩ hroom
  exact hcounted.mono fun state hstate => ⟨conserved_of_counted hstate.1, hstate.2⟩

end Runs

/-- Two workers and room for one address: the second merge has to flush first. -/
def overflowing : List (AggregationAction Bool) :=
  let proceed := .proceed IpAddr.sorted
  [.receive false ⟨.v4 1, 10, 64, 200, 7, none⟩ 0, .receive true ⟨.v4 2, 11, 64, 404, 7, none⟩ 0,
    .receive true ⟨.v4 2, 12, 64, 404, 7, none⟩ 0,
    .mergeLocal false IpAddr.sorted, proceed, proceed,
    .mergeLocal true IpAddr.sorted, proceed, proceed,
    .receive false ⟨.v4 1, 13, 64, 200, 7, none⟩ 0, proceed, proceed]

theorem aggregation_conserved_overflowing :
    Machine.Along (step 1) (fun state => state.Conserved ∧ state.preAggs.keys.card ≤ 1) start
      overflowing :=
  aggregation_conserved 1 overflowing (by decide +kernel)

example :
    let state := Machine.run (step 1) start overflowing
    (countOf (.v4 1) state.flushed.flatten, countIn (.v4 2) state.preAggs,
      countIn (.v4 1) (state.locals false)) = (1, 2, 1) := by
  decide +kernel

/-! ## The lock is released

With room for one address at least, a merge that finds the table full finds it empty
after its flush.
-/

section Release

open Machine

variable {order : IterOrder IpAddr} {worker : Worker} {drain : List (IpAddr × IpAgg)}

lemma eventually_flushed {aggs : List (IpAddr × IpAgg)} {keys : List IpAddr}
    (hguard : state.mergeLock = some ⟨worker, drain, some ⟨keys, aggs⟩⟩) :
    Eventually (proceed maxEntries · order) (fun next =>
      next.mergeLock = some ⟨worker, drain, none⟩ ∧
        ((∀ key ∈ state.preAggs.keys, key ∈ keys) → next.preAggs.keys = ∅)) state := by
  induction keys generalizing state aggs with
  | nil =>
    apply Eventually.next
    rw [proceed, hguard]
    apply Eventually.now
    exact ⟨rfl, fun hkeys =>
      Finset.eq_empty_of_forall_notMem fun key hkey => not_mem_nil (hkeys key hkey)⟩
  | cons key keys ih =>
    apply Eventually.next
    rw [proceed, hguard]
    dsimp only [collect]
    split <;> refine (ih rfl).trans fun next ⟨hlock, hempty⟩ =>
      .now ⟨hlock, fun hkeys => hempty fun other hother => ?_⟩
    · rw [Finmap.keys_erase, Finset.mem_erase] at hother
      exact (mem_cons.mp (hkeys other hother.2)).resolve_left hother.1
    next hmissing _ =>
      apply (mem_cons.mp (hkeys other hother)).resolve_left
      rintro rfl
      exact Table.not_mem_keys_iff_lookup.mpr hmissing hother

/-- With room for one address at least, the loop of a merge ends. -/
lemma eventually_drained (hmax : 0 < maxEntries)
    (hguard : state.mergeLock = some ⟨worker, drain, none⟩) :
    Eventually (proceed maxEntries · order) (fun state => state.mergeLock = none) state := by
  induction drain generalizing state with
  | nil =>
    apply Eventually.next
    rw [proceed, hguard]
    exact Eventually.now rfl
  | cons item drain ih =>
    obtain ⟨ip, agg⟩ := item
    apply Eventually.next
    rw [proceed, hguard]
    dsimp only [mergeItem]
    split
    · exact ih rfl
    next hvacant =>
      split
      · exact ih rfl
      next hfull =>
        have hkeys : state.preAggs.keys ≠ ∅ := by
          intro hempty
          rw [hempty, Finset.card_empty] at hfull
          exact hfull hmax
        -- The flush leaves an empty table, where the item that waited has room.
        rw [flushPreAggsLocked, if_neg hkeys]
        refine (eventually_flushed rfl).trans ?_
        rintro flushed ⟨hlock, hempty⟩
        replace hempty := hempty fun key hkey => order.mem_enum.mpr hkey
        have hroom : flushed.preAggs.lookup ip = none := by
          rw [← Table.not_mem_keys_iff_lookup, hempty]
          exact Finset.notMem_empty ip
        apply Eventually.next
        rw [proceed, hlock]
        dsimp only [mergeItem]
        rw [hroom, hempty, Finset.card_empty, if_pos hmax]
        exact ih rfl

/-- The steps of the holder release the lock from every state, provided that there is room
for one address at least. Without room an item waits for ever: the flush of an empty table
does nothing. -/
theorem eventually_released_iff [Inhabited Worker] :
    (∀ state : PreAggregation Worker,
      Eventually (proceed maxEntries · order) (fun state => state.mergeLock = none) state) ↔
      0 < maxEntries := by
  constructor
  · intro hreleased
    by_contra hmax
    let stuck : PreAggregation Worker :=
      { start with mergeLock := some ⟨default, [(.v4 0, .default)], none⟩ }
    have hfixed : stuck.proceed maxEntries order = stuck := by
      obtain rfl := Nat.eq_zero_of_not_pos hmax
      rfl
    obtain ⟨rounds, hfree⟩ := hreleased stuck
    rw [Function.iterate_fixed hfixed] at hfree
    cases hfree
  · intro hmax state
    cases hguard : state.mergeLock with
    | none => exact Eventually.now hguard
    | some guard =>
      obtain ⟨worker, drain, flush⟩ := guard
      cases flush with
      | none => exact eventually_drained hmax hguard
      | some flush =>
        refine (eventually_flushed hguard).trans ?_
        rintro flushed ⟨hlock, -⟩
        exact eventually_drained hmax hlock

end Release

end PreAggregation

end RamShield
