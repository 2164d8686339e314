import RamShield.Foundation.Run
import RamShield.Types.Basic

/-! # When a peer is synchronized

`ConditionSyncPlanner`: conditions are recorded until a pass is claimed, one pass runs
at a time, failed passes wait for a growing delay, and a pass is due anyway some time
after the last successful one. Times are what the caller supplies.
-/

namespace RamShield

open Foundation Foundation.Machine List Option

/-- `Duration::MAX` in nanoseconds. -/
def durationMax : Nat := u64Max * secNs + 999999999

/-- `Duration`, in nanoseconds. -/
structure Duration where
  ns : Nat
  le_max : ns ≤ durationMax
  deriving DecidableEq

namespace Duration

def fromMillis (millis : UInt64) : Duration :=
  ⟨millis.toNat * msNs, by
    have hlt := millis.toNat_lt
    unfold durationMax u64Max secNs msNs
    omega⟩

def saturatingAdd (left right : Duration) : Duration :=
  ⟨min (left.ns + right.ns) durationMax, Nat.min_le_right _ _⟩

lemma ns_saturatingAdd (left right : Duration) :
    (left.saturatingAdd right).ns = min (left.ns + right.ns) durationMax := rfl

def checkedMul (duration : Duration) (factor : Nat) : Option Duration :=
  if hfits : duration.ns * factor ≤ durationMax then some ⟨duration.ns * factor, hfits⟩ else none

/-- `Ord::min`. -/
def atMost (duration bound : Duration) : Duration :=
  if duration.ns ≤ bound.ns then duration else bound

lemma ns_atMost (duration bound : Duration) :
    (duration.atMost bound).ns = min duration.ns bound.ns := by
  unfold atMost
  split
  next hle => rw [Nat.min_eq_left hle]
  next hlt => rw [Nat.min_eq_right (Nat.le_of_not_le hlt)]

end Duration

inductive SyncCondition
  | localMutation
  | peerReconnected
  | deliveryFailed
  | queueOverflow
  | remoteStateApplied
  deriving DecidableEq

inductive SyncReason
  | stateChanged
  | peerReconnected
  | deliveryRecovery
  | queueOverflowRecovery
  | periodicRepair
  deriving DecidableEq

def SyncCondition.reason : SyncCondition → SyncReason
  | .localMutation | .remoteStateApplied => .stateChanged
  | .peerReconnected => .peerReconnected
  | .deliveryFailed => .deliveryRecovery
  | .queueOverflow => .queueOverflowRecovery

structure SyncPolicy where
  coalesceWindow : Duration
  repairInterval : Duration
  retryInitial : Duration
  retryMax : Duration
  deriving DecidableEq

def SyncPolicy.validate (policy : SyncPolicy) : Except String SyncPolicy :=
  if policy.repairInterval.ns = 0 then .error "repair_interval must be non-zero"
  else if policy.retryInitial.ns = 0 then .error "retry_initial must be non-zero"
  else if policy.retryMax.ns < policy.retryInitial.ns then
    .error "retry_max must be >= retry_initial"
  else .ok policy

abbrev ValidPolicy := { policy : SyncPolicy // policy.validate = .ok policy }

def SyncPolicy.default : ValidPolicy where
  val :=
    { coalesceWindow := .fromMillis 50
      repairInterval := .fromMillis 30000
      retryInitial := .fromMillis 250
      retryMax := .fromMillis 10000 }
  property := by decide +kernel

structure ConditionSyncPlanner where
  policy : ValidPolicy
  dirtySince : Option Duration
  forcedReason : Option SyncReason
  lastSuccess : Option Duration
  retryAt : Option Duration
  consecutiveFailures : Nat
  inFlight : Bool

namespace ConditionSyncPlanner

/-- A planner that has seen nothing. `ConditionSyncPlanner::new` validates the policy first. -/
def new (policy : ValidPolicy) : ConditionSyncPlanner where
  policy := policy
  dirtySince := none
  forcedReason := none
  lastSuccess := none
  retryAt := none
  consecutiveFailures := 0
  inFlight := false

/-- `condition`. Any reason but a mere state change replaces the recorded one. -/
def condition (planner : ConditionSyncPlanner) (condition : SyncCondition) (now : Duration) :
    ConditionSyncPlanner :=
  { planner with
    dirtySince := planner.dirtySince.or (some now)
    forcedReason :=
      if condition.reason ≠ .stateChanged then some condition.reason
      else planner.forcedReason.or (some .stateChanged) }

variable (planner : ConditionSyncPlanner) (now : Duration)

def periodicDue : Bool :=
  match planner.lastSuccess with
  | some last => planner.policy.1.repairInterval.ns ≤ now.ns - last.ns
  | none => true

def coalescedDue : Bool :=
  planner.dirtySince.any fun since => planner.policy.1.coalesceWindow.ns ≤ now.ns - since.ns

def reasonDue : Option SyncReason :=
  match planner.forcedReason with
  | some reason =>
    if reason ≠ .stateChanged ∨ planner.coalescedDue now = true then some reason else none
  | none => if planner.periodicDue now then some .periodicRepair else none

def held : Bool := planner.inFlight || planner.retryAt.any fun deadline => now.ns < deadline.ns

def takeDue : Option SyncReason × ConditionSyncPlanner :=
  if planner.held now then (none, planner)
  else
    match planner.reasonDue now with
    | none => (none, planner)
    | some reason =>
      (some reason, { planner with inFlight := true, dirtySince := none, forcedReason := none })

def retryDelay (policy : SyncPolicy) (failures : Nat) : Duration :=
  ((policy.retryInitial.checkedMul (2 ^ min (failures - 1) 31)).getD policy.retryMax).atMost
    policy.retryMax

def complete (success : Bool) : ConditionSyncPlanner :=
  if !planner.inFlight then planner
  else if success then
    { planner with
      inFlight := false
      lastSuccess := some now
      retryAt := none
      consecutiveFailures := 0 }
  else
    let failures := min (planner.consecutiveFailures + 1) u32Max
    { planner with
      inFlight := false
      consecutiveFailures := failures
      retryAt := some (now.saturatingAdd (retryDelay planner.policy.1 failures))
      dirtySince := planner.dirtySince.or (some now)
      forcedReason := some .deliveryRecovery }

end ConditionSyncPlanner

inductive PlannerCall
  | condition (condition : SyncCondition) (now : Duration)
  | takeDue (now : Duration)
  | complete (now : Duration) (success : Bool)
  deriving DecidableEq

def PlannerCall.time : PlannerCall → Duration
  | .condition _ now | .takeDue now | .complete now _ => now

def PlannerCall.InOrder (calls : List PlannerCall) : Prop :=
  (calls.map PlannerCall.time).Pairwise fun earlier later => earlier.ns ≤ later.ns

lemma PlannerCall.InOrder.le_last {calls : List PlannerCall} {last : PlannerCall}
    (horder : InOrder (calls ++ [last])) : ∀ call ∈ calls, call.time.ns ≤ last.time.ns := by
  intro call hcall
  rw [InOrder, map_append, pairwise_append] at horder
  exact horder.2.2 _ (mem_map_of_mem hcall) _ mem_cons_self

lemma PlannerCall.InOrder.of_append {first second : List PlannerCall}
    (horder : InOrder (first ++ second)) : InOrder first := by
  rw [InOrder, map_append, pairwise_append] at horder
  exact horder.1

/-- A planner with its open passes and the failures since the last success. -/
structure PlannerTrace where
  planner : ConditionSyncPlanner
  passes : Nat
  failures : Nat

namespace PlannerTrace

def start (policy : ValidPolicy) : PlannerTrace where
  planner := .new policy
  passes := 0
  failures := 0

def step (trace : PlannerTrace) : PlannerCall → PlannerTrace
  | .condition condition now => { trace with planner := trace.planner.condition condition now }
  | .takeDue now =>
    { trace with
      planner := (trace.planner.takeDue now).2
      passes := trace.passes + if (trace.planner.takeDue now).1.isSome then 1 else 0 }
  | .complete now success =>
    { planner := trace.planner.complete now success
      passes := trace.passes - 1
      failures :=
        if trace.passes = 0 then trace.failures
        else if success then 0 else trace.failures + 1 }

def after (policy : ValidPolicy) (calls : List PlannerCall) : PlannerTrace :=
  run step (start policy) calls

/-- Some `take_due` among the calls claims a pass. -/
def Claims (trace : PlannerTrace) (calls : List PlannerCall) : Prop :=
  ∃ first now rest, calls = first ++ .takeDue now :: rest ∧
    ((run step trace first).planner.takeDue now).1.isSome = true

end PlannerTrace

/-! ## One call -/

namespace ConditionSyncPlanner

variable {planner : ConditionSyncPlanner} {now : Duration}

lemma takeDue_cases (planner : ConditionSyncPlanner) (now : Duration) :
    planner.takeDue now = (none, planner) ∨
      ∃ reason, planner.held now = false ∧ planner.reasonDue now = some reason ∧
        planner.takeDue now = (some reason,
          { planner with inFlight := true, dirtySince := none, forcedReason := none }) := by
  unfold takeDue
  cases hheld : planner.held now with
  | true => exact .inl rfl
  | false =>
    cases hreason : planner.reasonDue now with
    | none => exact .inl rfl
    | some reason => exact .inr ⟨reason, rfl, rfl, rfl⟩

lemma isSome_takeDue (hidle : planner.inFlight = false)
    (hretry : ∀ deadline ∈ planner.retryAt, deadline.ns ≤ now.ns) :
    (planner.takeDue now).1.isSome = (planner.reasonDue now).isSome := by
  have hheld : planner.held now = false := by
    unfold held
    rw [hidle, Bool.false_or, any_eq_false_iff_get]
    simpa [mem_def, eq_some_iff_get_eq] using hretry
  unfold takeDue
  rw [hheld]
  cases planner.reasonDue now with
  | none => rfl
  | some reason => rfl

lemma complete_of_idle (hidle : planner.inFlight = false) (now : Duration) (success : Bool) :
    planner.complete now success = planner := by
  unfold complete
  rw [hidle]
  rfl

def Pending (time : Duration) (planner : ConditionSyncPlanner) : Prop :=
  planner.forcedReason ≠ none ∧
    (planner.forcedReason = some .stateChanged →
      ∃ since, planner.dirtySince = some since ∧ since.ns ≤ time.ns)

variable {time : Duration}

lemma Pending.reasonDue (hpending : planner.Pending time)
    (hwindow : time.ns + planner.policy.1.coalesceWindow.ns ≤ now.ns) :
    (planner.reasonDue now).isSome := by
  obtain ⟨hsome, hsince⟩ := hpending
  unfold ConditionSyncPlanner.reasonDue
  cases hreason : planner.forcedReason with
  | none => exact absurd hreason hsome
  | some reason =>
    by_cases hurgent : reason = .stateChanged
    · subst hurgent
      obtain ⟨since, hdirty, hle⟩ := hsince hreason
      have hdue : planner.coalescedDue now := by
        unfold coalescedDue
        rw [hdirty, any_some, decide_eq_true_iff]
        omega
      dsimp only
      rw [if_pos (Or.inr hdue)]
      rfl
    · dsimp only
      rw [if_pos (Or.inl hurgent)]
      rfl

lemma condition_pending (condition : SyncCondition)
    (hdirty : ∀ since ∈ planner.dirtySince, since.ns ≤ time.ns) :
    (planner.condition condition time).Pending time := by
  have hsince : ∃ since, planner.dirtySince.or (some time) = some since ∧ since.ns ≤ time.ns := by
    cases hcurrent : planner.dirtySince with
    | none => exact ⟨time, rfl, Nat.le_refl _⟩
    | some since => exact ⟨since, rfl, hdirty since hcurrent⟩
  refine ⟨?_, fun _ => hsince⟩
  unfold ConditionSyncPlanner.condition
  dsimp only
  split
  · exact nofun
  · cases planner.forcedReason <;> exact nofun

lemma Pending.condition (hpending : planner.Pending time) (condition : SyncCondition)
    (now : Duration) : (planner.condition condition now).Pending time := by
  obtain ⟨hsome, hsince⟩ := hpending
  obtain ⟨reason, hreason⟩ := ne_none_iff_exists'.mp hsome
  unfold ConditionSyncPlanner.condition
  refine ⟨?_, ?_⟩
  · dsimp only
    split
    · exact nofun
    rw [hreason]
    exact nofun
  · dsimp only
    split
    next hurgent => exact fun heq => absurd (Option.some.inj heq) hurgent
    rw [hreason, or_some]
    intro heq
    obtain ⟨since, hdirty, hle⟩ := hsince (hreason.trans heq)
    exact ⟨since, by rw [hdirty, or_some]; rfl, hle⟩

lemma Pending.complete (hpending : planner.Pending time) (now : Duration) (success : Bool) :
    (planner.complete now success).Pending time := by
  unfold ConditionSyncPlanner.complete
  split
  · exact hpending
  split
  · exact hpending
  · exact ⟨nofun, nofun⟩

end ConditionSyncPlanner

/-! ## Whole runs -/

namespace PlannerTrace

open ConditionSyncPlanner

variable {trace : PlannerTrace} {policy : ValidPolicy}

lemma after_append (policy : ValidPolicy) (first second : List PlannerCall) :
    after policy (first ++ second) = run step (after policy first) second :=
  run_append step _ first second

lemma step_policy (trace : PlannerTrace) (call : PlannerCall) :
    (trace.step call).planner.policy = trace.planner.policy := by
  cases call with
  | condition condition now => rfl
  | takeDue now =>
    change (trace.planner.takeDue now).2.policy = _
    rcases trace.planner.takeDue_cases now with hnone | ⟨reason, _, _, hsome⟩
    · rw [hnone]
    · rw [hsome]
  | complete now success =>
    change (trace.planner.complete now success).policy = _
    unfold ConditionSyncPlanner.complete
    split
    · rfl
    · split <;> rfl

lemma after_policy (policy : ValidPolicy) (calls : List PlannerCall) :
    (after policy calls).planner.policy = policy :=
  @run_invariant _ _ step (fun trace => trace.planner.policy = policy)
    (fun trace call hpolicy => (step_policy trace call).trans hpolicy) (start policy) rfl calls

/-- The planner knows what its caller knows, and a reason has the time of its first condition. -/
structure Consistent (trace : PlannerTrace) : Prop where
  passes : trace.passes = if trace.planner.inFlight then 1 else 0
  failures : trace.planner.consecutiveFailures = min trace.failures u32Max
  dirty : trace.planner.forcedReason ≠ none → trace.planner.dirtySince ≠ none

section

variable (hconsistent : trace.Consistent)

include hconsistent

lemma Consistent.idle_iff : trace.passes = 0 ↔ trace.planner.inFlight = false := by
  rw [hconsistent.passes]
  cases trace.planner.inFlight <;> decide

lemma Consistent.busy_iff : trace.passes = 1 ↔ trace.planner.inFlight := by
  rw [hconsistent.passes]
  cases trace.planner.inFlight <;> decide

lemma Consistent.takeDue (now : Duration) : (trace.step (.takeDue now)).Consistent := by
  rcases trace.planner.takeDue_cases now with hnone | ⟨reason, hheld, _, hsome⟩
  · have hstep : trace.step (.takeDue now) = trace := by
      rw [step, hnone]
      rfl
    rw [hstep]
    exact hconsistent
  · have hidle : trace.planner.inFlight = false := (Bool.or_eq_false_iff.mp hheld).1
    have hpasses := hconsistent.idle_iff.mpr hidle
    rw [step, hsome]
    exact ⟨by rw [hpasses]; rfl, hconsistent.failures, fun hreason => absurd rfl hreason⟩

lemma Consistent.complete (now : Duration) (success : Bool) :
    (trace.step (.complete now success)).Consistent := by
  cases hflight : trace.planner.inFlight with
  | false =>
    have hpasses := hconsistent.idle_iff.mpr hflight
    have hnone : trace.passes - 1 = trace.passes := by rw [hpasses]
    rw [step, trace.planner.complete_of_idle hflight, if_pos hpasses, hnone]
    exact hconsistent
  | true =>
    have hpasses := hconsistent.busy_iff.mpr hflight
    rw [step, ConditionSyncPlanner.complete, hflight, hpasses]
    cases success with
    | true => exact ⟨rfl, rfl, hconsistent.dirty⟩
    | false =>
      refine ⟨rfl, ?_, fun _ => ?_⟩
      · change min (trace.planner.consecutiveFailures + 1) u32Max = min (trace.failures + 1) u32Max
        rw [hconsistent.failures]
        omega
      · simp

lemma Consistent.condition (condition : SyncCondition) (now : Duration) :
    (trace.step (.condition condition now)).Consistent := by
  refine { hconsistent with dirty := fun _ => ?_ }
  simp [step, ConditionSyncPlanner.condition]

end

lemma after_consistent (policy : ValidPolicy) (calls : List PlannerCall) :
    (after policy calls).Consistent := by
  refine run_invariant ?_ ⟨rfl, rfl, fun hreason => absurd rfl hreason⟩ calls
  intro trace call hconsistent
  cases call with
  | condition condition now => exact hconsistent.condition condition now
  | takeDue now => exact hconsistent.takeDue now
  | complete now success => exact hconsistent.complete now success

/-! ### Conditions -/

variable {calls : List PlannerCall} {deadline : Nat}

/-- The first recorded condition is not later than the calls so far. -/
lemma after_dirty {bound : Nat} (hearlier : ∀ call ∈ calls, call.time.ns ≤ bound) :
    ∀ since ∈ (after policy calls).planner.dirtySince, since.ns ≤ bound := by
  refine (@Along.of_respects _ _ step
    (fun trace => ∀ since ∈ trace.planner.dirtySince, since.ns ≤ bound)
    (fun _ call => call.time.ns ≤ bound) ?_ (start policy) calls nofun
    (Respects.of_forall fun call hmem _ => hearlier call hmem)).last
  · intro trace call hdirty hcall
    have hrecorded : ∀ now : Duration, now.ns ≤ bound →
        ∀ since ∈ trace.planner.dirtySince.or (some now), since.ns ≤ bound := by
      intro now hnow since hsince
      rcases or_eq_some_iff.mp hsince with hcurrent | ⟨_, hfirst⟩
      · exact hdirty since hcurrent
      · exact Option.some.inj hfirst ▸ hnow
    cases call with
    | condition condition now => exact hrecorded now hcall
    | takeDue now =>
      change ∀ since ∈ (trace.planner.takeDue now).2.dirtySince, _
      rcases trace.planner.takeDue_cases now with hnone | ⟨reason, _, _, hsome⟩
      · rw [hnone]
        exact hdirty
      · rw [hsome]
        exact nofun
    | complete now success =>
      change ∀ since ∈ (trace.planner.complete now success).dirtySince, _
      unfold ConditionSyncPlanner.complete
      split
      · exact hdirty
      split
      · exact hdirty
      · exact hrecorded now hcall

lemma Claims.cons {call : PlannerCall} {calls : List PlannerCall}
    (hclaims : (trace.step call).Claims calls) : trace.Claims (call :: calls) := by
  obtain ⟨first, now, rest, rfl, hsome⟩ := hclaims
  exact ⟨call :: first, now, rest, rfl, hsome⟩

lemma pending_run {time : Duration} (calls : List PlannerCall)
    (hpending : trace.planner.Pending time) :
    trace.Claims calls ∨ (run step trace calls).planner.Pending time := by
  induction calls generalizing trace with
  | nil => exact .inr hpending
  | cons call calls ih =>
    have hrest : (trace.step call).planner.Pending time →
        trace.Claims (call :: calls) ∨ (run step trace (call :: calls)).planner.Pending time := by
      intro hnext
      exact (ih hnext).imp_left Claims.cons
    cases call with
    | condition condition now => exact hrest (hpending.condition condition now)
    | complete now success => exact hrest (hpending.complete now success)
    | takeDue now =>
      rcases trace.planner.takeDue_cases now with hnone | ⟨reason, _, _, hsome⟩
      · apply hrest
        change (trace.planner.takeDue now).2.Pending time
        rw [hnone]
        exact hpending
      · refine .inl ⟨[], now, calls, rfl, ?_⟩
        change (trace.planner.takeDue now).1.isSome = true
        rw [hsome]
        rfl

/-- A recorded condition is served. Some later `take_due` claims a pass, at the latest the
first one that finds no pass in flight, no backoff and the coalescing window over; and at
no time are two passes in flight. -/
theorem conditions_served (policy : ValidPolicy) :
    (∀ calls, (after policy calls).passes ≤ 1) ∧
      ∀ (before later : List PlannerCall) (condition : SyncCondition) (time now : Duration),
        PlannerCall.InOrder (before ++ .condition condition time :: later ++ [.takeDue now]) →
        let recorded := after policy (before ++ [.condition condition time])
        let trace := run step recorded later
        trace.passes = 0 →
        (∀ deadline ∈ trace.planner.retryAt, deadline.ns ≤ now.ns) →
        time.ns + policy.1.coalesceWindow.ns ≤ now.ns →
        recorded.Claims later ∨ (trace.planner.takeDue now).1.isSome = true := by
  refine ⟨?_, ?_⟩
  · intro calls
    rw [(after_consistent policy calls).passes]
    split <;> omega
  · intro before later condition time now horder recorded trace hidle hretry hwindow
    have hearlier : ∀ call ∈ before, call.time.ns ≤ time.ns := by
      have hrecorded := horder.of_append
      rw [append_cons] at hrecorded
      exact hrecorded.of_append.le_last
    have hpending : recorded.planner.Pending time := by
      change (after policy (before ++ [.condition condition time])).planner.Pending time
      rw [after_append]
      exact condition_pending condition (after_dirty hearlier)
    refine (pending_run later hpending).imp_right fun hstill => ?_
    have htrace : trace = after policy (before ++ [.condition condition time] ++ later) :=
      (after_append policy _ later).symm
    have hconsistent : trace.Consistent := htrace ▸ after_consistent policy _
    have hflight := hconsistent.idle_iff.mp hidle
    have hpolicy : trace.planner.policy = policy := by rw [htrace, after_policy]
    rw [isSome_takeDue hflight hretry]
    exact hstill.reasonDue (by rw [hpolicy]; exact hwindow)

/-- A mutation during a pass that then succeeds. -/
theorem conditions_served_in_flight :
    let now := Duration.fromMillis
    let recorded := after SyncPolicy.default [.takeDue (now 0), .condition .localMutation (now 1)]
    recorded.Claims [.complete (now 10) true] ∨
      ((recorded.step (.complete (now 10) true)).planner.takeDue (now 51)).1.isSome = true :=
  (conditions_served SyncPolicy.default).2 [.takeDue (.fromMillis 0)]
    [.complete (.fromMillis 10) true]
    .localMutation (.fromMillis 1) (.fromMillis 51)
    (by unfold PlannerCall.InOrder; decide +kernel) (by decide +kernel) (by decide +kernel)
    (by decide +kernel)

/-! ### Repair -/

lemma after_lastSuccess {last : Duration}
    (hlast : (after policy calls).planner.lastSuccess = some last) :
    ∃ first rest, calls = first ++ .complete last true :: rest ∧
      (after policy first).passes = 1 := by
  induction calls using List.reverseRecOn with
  | nil => exact absurd hlast nofun
  | append_singleton calls call ih =>
    have hearlier : (after policy calls).planner.lastSuccess = some last →
        ∃ first rest, calls ++ [call] = first ++ .complete last true :: rest ∧
          (after policy first).passes = 1 := by
      intro hbefore
      obtain ⟨first, rest, rfl, hpasses⟩ := ih hbefore
      exact ⟨first, rest ++ [call], by simp, hpasses⟩
    rw [after_append] at hlast
    cases call with
    | condition condition now => exact hearlier hlast
    | takeDue now =>
      change ((after policy calls).planner.takeDue now).2.lastSuccess = some last at hlast
      rcases (after policy calls).planner.takeDue_cases now with hnone | ⟨reason, _, _, hsome⟩
      · rw [hnone] at hlast
        exact hearlier hlast
      · rw [hsome] at hlast
        exact hearlier hlast
    | complete now success =>
      change ((after policy calls).planner.complete now success).lastSuccess = some last at hlast
      cases hflight : (after policy calls).planner.inFlight with
      | false =>
        rw [complete_of_idle hflight] at hlast
        exact hearlier hlast
      | true =>
        rw [ConditionSyncPlanner.complete, hflight] at hlast
        cases success with
        | false => exact hearlier hlast
        | true =>
          obtain rfl : now = last := Option.some.inj hlast
          exact ⟨calls, [], rfl, (after_consistent policy calls).busy_iff.mpr hflight⟩

/-- The repair ceiling. With no pass in flight, no backoff, and every successful pass at
least the repair interval ago, a pass is claimed exactly if there is no state change that is
still being coalesced. -/
theorem repair_due_iff (policy : ValidPolicy) (calls : List PlannerCall) (now : Duration)
    (horder : PlannerCall.InOrder (calls ++ [.takeDue now]))
    (hidle : (after policy calls).passes = 0)
    (hretry : ∀ deadline ∈ (after policy calls).planner.retryAt, deadline.ns ≤ now.ns)
    (hrepair : ∀ first last rest, calls = first ++ .complete last true :: rest →
      (after policy first).passes = 1 → last.ns + policy.1.repairInterval.ns ≤ now.ns) :
    ((after policy calls).planner.takeDue now).1.isSome = true ↔
      ((after policy calls).planner.forcedReason = some .stateChanged →
        ∀ since ∈ (after policy calls).planner.dirtySince,
          since.ns + policy.1.coalesceWindow.ns ≤ now.ns) := by
  have hconsistent := after_consistent policy calls
  have hlast : ∀ last ∈ (after policy calls).planner.lastSuccess,
      last.ns + policy.1.repairInterval.ns ≤ now.ns := by
    intro last hmem
    obtain ⟨first, rest, hcalls, hpasses⟩ := after_lastSuccess hmem
    exact hrepair first last rest hcalls hpasses
  have hdirty : ∀ since ∈ (after policy calls).planner.dirtySince, since.ns ≤ now.ns :=
    after_dirty horder.le_last
  have hpolicy := after_policy policy calls
  clear hrepair
  -- From here on the calls matter only through the facts collected above.
  generalize after policy calls = trace at *
  have hflight := hconsistent.idle_iff.mp hidle
  rw [isSome_takeDue hflight hretry]
  have hperiodic : trace.planner.periodicDue now := by
    unfold periodicDue
    rw [hpolicy]
    cases hsuccess : trace.planner.lastSuccess with
    | none => rfl
    | some last =>
      have hpassed := hlast last hsuccess
      dsimp only
      rw [decide_eq_true_iff]
      omega
  unfold reasonDue
  cases hreason : trace.planner.forcedReason with
  | none =>
    dsimp only
    rw [if_pos hperiodic]
    exact ⟨fun _ => nofun, fun _ => rfl⟩
  | some reason =>
    dsimp only
    -- Any other forced reason does not wait for the coalescing window.
    by_cases hchanged : reason = .stateChanged
    · subst hchanged
      have hsome : trace.planner.dirtySince ≠ none :=
        hconsistent.dirty (by rw [hreason]; exact nofun)
      obtain ⟨since, hsince⟩ := ne_none_iff_exists'.mp hsome
      have hcoalesced : trace.planner.coalescedDue now ↔
          since.ns + policy.1.coalesceWindow.ns ≤ now.ns := by
        unfold coalescedDue
        have hbefore := hdirty since hsince
        rw [hsince, hpolicy, any_some, decide_eq_true_iff]
        omega
      rw [hsince]
      constructor
      · intro hclaimed _ other hother
        obtain rfl := Option.some.inj hother
        split at hclaimed
        next hdue => exact hcoalesced.mp (hdue.resolve_left fun hne => hne rfl)
        · exact absurd hclaimed Bool.false_ne_true
      · intro hwindow
        rw [if_pos (Or.inr (hcoalesced.mpr (hwindow rfl since rfl)))]
        rfl
    · rw [if_pos (Or.inl hchanged)]
      exact ⟨fun _ heq => absurd (Option.some.inj heq) hchanged, fun _ => rfl⟩

/-- A pass half a minute ago, and since then a mutation that is no longer coalesced. -/
theorem repair_due_iff_settled :
    let now := Duration.fromMillis
    let calls : List PlannerCall := [.takeDue (now 0), .complete (now 0) true,
      .condition .localMutation (now 29900)]
    (after SyncPolicy.default calls).planner.forcedReason = some .stateChanged ∧
      ((after SyncPolicy.default calls).planner.takeDue (now 30000)).1.isSome = true := by
  intro now calls
  refine ⟨by decide +kernel, (repair_due_iff SyncPolicy.default calls (now 30000)
    (by unfold PlannerCall.InOrder; decide +kernel) (by decide +kernel) (by decide +kernel) ?_).mpr
    (by decide +kernel)⟩
  intro first last rest hcalls _
  have hmem : .complete last true ∈ calls := hcalls ▸ mem_append_right _ mem_cons_self
  obtain rfl : last = now 0 := by simpa [calls] using hmem
  decide +kernel

/-- A mutation shortly before the repair is due puts the repair off. -/
theorem mutation_defers_repair :
    let now := Duration.fromMillis
    let calls : List PlannerCall := [.takeDue (now 0), .complete (now 0) true,
      .condition .localMutation (now 29990)]
    PlannerCall.InOrder (calls ++ [.takeDue (now 30000)]) ∧
      (after SyncPolicy.default calls).passes = 0 ∧
      (after SyncPolicy.default calls).planner.retryAt = none ∧
      (after SyncPolicy.default calls).planner.lastSuccess = some (now 0) ∧
      (now 0).ns + SyncPolicy.default.1.repairInterval.ns ≤ (now 30000).ns ∧
      ((after SyncPolicy.default calls).planner.takeDue (now 30000)).1 = none := by
  unfold PlannerCall.InOrder
  decide +kernel

/-! ### Backoff -/

def backoff (policy : SyncPolicy) (failures : Nat) : Nat :=
  min (policy.retryInitial.ns * 2 ^ (failures - 1)) policy.retryMax.ns

/-- Clamped shift and checked product compute the delay. -/
lemma retryDelay_eq {policy : SyncPolicy}
    (hcap : policy.retryMax.ns ≤ 2 ^ 31 * policy.retryInitial.ns) (failures : Nat) :
    (retryDelay policy (min failures u32Max)).ns = backoff policy failures := by
  unfold retryDelay backoff Duration.checkedMul
  rw [Duration.ns_atMost]
  rcases Nat.lt_or_ge (failures - 1) 31 with hshort | hlong
  · -- The shift is not clamped; a product that does not fit is above the cap.
    have hshift : min (min failures u32Max - 1) 31 = failures - 1 := by
      unfold u32Max
      omega
    rw [hshift]
    split
    · rfl
    next hfits =>
      have hbound := policy.retryMax.le_max
      rw [getD_none, Nat.min_self]
      exact (Nat.min_eq_right (by omega)).symm
  · have hshift : min (min failures u32Max - 1) 31 = 31 := by
      unfold u32Max
      omega
    have hpower : 2 ^ 31 ≤ 2 ^ (failures - 1) := Nat.pow_le_pow_right (by decide) hlong
    have hreach : policy.retryMax.ns ≤ policy.retryInitial.ns * 2 ^ 31 := by
      rw [Nat.mul_comm]
      exact hcap
    have hproduct : policy.retryMax.ns ≤ policy.retryInitial.ns * 2 ^ (failures - 1) :=
      hreach.trans (Nat.mul_le_mul_left _ hpower)
    rw [hshift, Nat.min_eq_right hproduct]
    split
    · rw [getD_some]
      exact Nat.min_eq_right hreach
    · rw [getD_none, Nat.min_self]

structure Waiting (deadline : Nat) (trace : PlannerTrace) : Prop where
  idle : trace.planner.inFlight = false
  retry : ∃ retryAt, trace.planner.retryAt = some retryAt ∧ retryAt.ns = deadline
  urgent : ∃ reason, trace.planner.forcedReason = some reason ∧ reason ≠ .stateChanged

lemma Waiting.takeDue (hwaiting : trace.Waiting deadline) (now : Duration) :
    (trace.planner.takeDue now).1.isSome ↔ deadline ≤ now.ns := by
  obtain ⟨hidle, ⟨retryAt, hretry, rfl⟩, reason, hreason, hurgent⟩ := hwaiting
  rcases Nat.lt_or_ge now.ns retryAt.ns with hearly | hdue
  · have hheld : trace.planner.held now := by
      unfold held
      rw [hretry, any_some, decide_eq_true hearly, Bool.or_true]
    have hnone : trace.planner.takeDue now = (none, trace.planner) := by
      unfold ConditionSyncPlanner.takeDue
      rw [if_pos hheld]
    rw [hnone]
    exact ⟨fun hsome => absurd hsome Bool.false_ne_true, fun hle => absurd hle (by omega)⟩
  · have hpassed : ∀ deadline ∈ trace.planner.retryAt, deadline.ns ≤ now.ns := by
      simpa [hretry] using hdue
    rw [isSome_takeDue hidle hpassed, reasonDue, hreason]
    dsimp only
    rw [if_pos (Or.inl hurgent)]
    exact ⟨fun _ => hdue, fun _ => rfl⟩

lemma Waiting.step (hwaiting : trace.Waiting deadline) {call : PlannerCall}
    (hearly : ∀ now, call = .takeDue now → now.ns < deadline) :
    (trace.step call).Waiting deadline := by
  cases call with
  | condition condition now =>
    obtain ⟨hidle, hretry, reason, hreason, hurgent⟩ := hwaiting
    rw [PlannerTrace.step, ConditionSyncPlanner.condition]
    refine ⟨hidle, hretry, ?_⟩
    dsimp only
    split
    next hnew => exact ⟨_, rfl, hnew⟩
    rw [hreason]
    exact ⟨reason, rfl, hurgent⟩
  | complete now success =>
    have hsame := complete_of_idle hwaiting.idle now success
    rw [PlannerTrace.step, hsame]
    exact { hwaiting with }
  | takeDue now =>
    have hnone : ¬ (trace.planner.takeDue now).1.isSome := by
      rw [hwaiting.takeDue]
      exact Nat.not_le.mpr (hearly now rfl)
    rcases trace.planner.takeDue_cases now with hsame | ⟨reason, _, _, hsome⟩
    · rw [PlannerTrace.step, hsame]
      exact { hwaiting with }
    · rw [hsome] at hnone
      exact absurd rfl hnone

lemma Waiting.run (hwaiting : trace.Waiting deadline)
    (hearly : ∀ now, PlannerCall.takeDue now ∈ calls → now.ns < deadline) :
    (Machine.run PlannerTrace.step trace calls).Waiting deadline := by
  induction calls generalizing trace with
  | nil => exact hwaiting
  | cons call calls ih =>
    refine ih (hwaiting.step fun now hcall => hearly now (hcall ▸ mem_cons_self)) ?_
    exact fun now hmem => hearly now (mem_cons_of_mem _ hmem)

/-- Before it no pass is claimed after a failure; times end at `Duration::MAX`. -/
def retryDeadline (policy : SyncPolicy) (failures : Nat) (failed : Duration) : Nat :=
  min (failed.ns + backoff policy failures) durationMax

lemma failed_waiting (hcap : policy.1.retryMax.ns ≤ 2 ^ 31 * policy.1.retryInitial.ns)
    {before : List PlannerCall} (hbusy : (after policy before).passes = 1) (failed : Duration) :
    (after policy (before ++ [.complete failed false])).Waiting
      (retryDeadline policy.1 ((after policy before).failures + 1) failed) := by
  have hconsistent := after_consistent policy before
  have hpolicy := after_policy policy before
  have hcount : min ((after policy before).planner.consecutiveFailures + 1) u32Max =
      min ((after policy before).failures + 1) u32Max := by
    rw [hconsistent.failures]
    omega
  have hdelay := retryDelay_eq hcap ((after policy before).failures + 1)
  rw [after_append]
  change ((after policy before).step (.complete failed false)).Waiting _
  rw [step, ConditionSyncPlanner.complete, hconsistent.busy_iff.mp hbusy]
  refine ⟨rfl, ⟨_, rfl, ?_⟩, _, rfl, nofun⟩
  rw [hcount, hpolicy, Duration.ns_saturatingAdd, hdelay, retryDeadline]

/-- Capped exponential backoff. After a number of failed passes in a row, no pass is claimed
before the deadline of the last failure, whatever conditions arrive, the first `take_due` at
the deadline or later claims one, and a success starts the count again. -/
theorem backoff_capped (policy : ValidPolicy)
    (hcap : policy.1.retryMax.ns ≤ 2 ^ 31 * policy.1.retryInitial.ns)
    (before later : List PlannerCall) (failed now : Duration)
    (hbusy : (after policy before).passes = 1)
    (horder : PlannerCall.InOrder (before ++ .complete failed false :: later ++ [.takeDue now])) :
    let failing := after policy (before ++ [.complete failed false])
    let succeeding := after policy (before ++ [.complete failed true])
    let deadline := retryDeadline policy.1 failing.failures failed
    let claim := ((run step failing later).planner.takeDue now).1
    failing.failures = (after policy before).failures + 1 ∧
      (now.ns < deadline → claim = none) ∧
      ((∀ earlier, .takeDue earlier ∈ later → earlier.ns < deadline) → deadline ≤ now.ns →
        claim.isSome = true) ∧
      succeeding.failures = 0 ∧ succeeding.planner.consecutiveFailures = 0 := by
  intro failing succeeding deadline claim
  have hfailing : failing = (after policy before).step (.complete failed false) :=
    after_append policy before _
  have hsucceeding : succeeding = (after policy before).step (.complete failed true) :=
    after_append policy before _
  have hfailures : failing.failures = (after policy before).failures + 1 := by
    rw [hfailing, step, hbusy]
    rfl
  have hwaiting : failing.Waiting deadline := by
    change failing.Waiting (retryDeadline policy.1 failing.failures failed)
    rw [hfailures]
    exact failed_waiting hcap hbusy failed
  refine ⟨hfailures, ?_, ?_, ?_, ?_⟩
  · intro hearly
    have hbefore : ∀ earlier, PlannerCall.takeDue earlier ∈ later → earlier.ns < deadline := by
      intro earlier hmem
      have hle : earlier.ns ≤ now.ns := horder.le_last (.takeDue earlier) (by simp [hmem])
      omega
    have hnone := ((hwaiting.run hbefore).takeDue now).not.mpr (Nat.not_le.mpr hearly)
    exact not_isSome_iff_eq_none.mp hnone
  · intro hbefore hdue
    exact ((hwaiting.run hbefore).takeDue now).mpr hdue
  · rw [hsucceeding, step, hbusy]
    rfl
  · rw [hsucceeding, step, ConditionSyncPlanner.complete,
      (after_consistent policy before).busy_iff.mp hbusy]
    rfl

/-- A failed pass, and a peer that reconnects while it waits. -/
theorem backoff_capped_reconnected :
    let now := Duration.fromMillis
    let waiting := run step (after SyncPolicy.default [.takeDue (now 0), .complete (now 100) false])
      [.condition .peerReconnected (now 200)]
    (waiting.planner.takeDue (now 349)).1 = none ∧
      (waiting.planner.takeDue (now 350)).1.isSome = true :=
  ⟨(backoff_capped SyncPolicy.default (by decide +kernel) [.takeDue (.fromMillis 0)]
      [.condition .peerReconnected (.fromMillis 200)] (.fromMillis 100) (.fromMillis 349)
      (by decide +kernel) (by unfold PlannerCall.InOrder; decide +kernel)).2.1 (by decide +kernel),
    (backoff_capped SyncPolicy.default (by decide +kernel) [.takeDue (.fromMillis 0)]
      [.condition .peerReconnected (.fromMillis 200)] (.fromMillis 100) (.fromMillis 350)
      (by decide +kernel) (by unfold PlannerCall.InOrder; decide +kernel)).2.2.1
        (by simp) (by decide +kernel)⟩

/-- At the end of time a pass is claimed before its delay has passed. -/
theorem backoff_ends_at_max :
    let last : Duration := ⟨durationMax, Nat.le_refl _⟩
    let failing := after SyncPolicy.default [.takeDue last, .complete last false]
    SyncPolicy.default.1.retryMax.ns ≤ 2 ^ 31 * SyncPolicy.default.1.retryInitial.ns ∧
      failing.failures = 1 ∧ last.ns < last.ns + backoff SyncPolicy.default.1 1 ∧
      (failing.planner.takeDue last).1 = some .deliveryRecovery := by
  decide +kernel

end PlannerTrace

end RamShield
