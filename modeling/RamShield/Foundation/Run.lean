import Mathlib.Data.List.Dedup
import Mathlib.Data.List.Perm.Basic
import Mathlib.Logic.Function.Iterate

/-! # Runs of a deterministic machine

A machine is a step function; the nondeterminism of its environment is part of
the action. Two predicates speak about a whole run: `Along` says that a state
predicate holds in every state passed through, `Respects` that every action was
allowed in the state in which it was taken.
-/

namespace Foundation.Machine

open List

variable {State Action : Type} (step : State → Action → State)

variable {invariant : State → Prop} (state : State)

def run (actions : List Action) : State := actions.foldl step state

@[simp] lemma run_nil : run step state [] = state := rfl

@[simp] lemma run_cons (action : Action) (actions : List Action) :
    run step state (action :: actions) = run step (step state action) actions := rfl

lemma run_append (first second : List Action) :
    run step state (first ++ second) = run step (run step state first) second :=
  foldl_append

/-- The predicate holds in the starting state and after every action. -/
def Along (holds : State → Prop) : State → List Action → Prop
  | state, [] => holds state
  | state, action :: actions => holds state ∧ Along holds (step state action) actions

/-- Every action is allowed in the state in which the run takes it. -/
def Respects (allowed : State → Action → Prop) : State → List Action → Prop
  | _, [] => True
  | state, action :: actions => allowed state action ∧ Respects allowed (step state action) actions

instance Respects.decidable (allowed : State → Action → Prop)
    [∀ state action, Decidable (allowed state action)] (state : State) :
    ∀ actions, Decidable (Respects step allowed state actions)
  | [] => .isTrue trivial
  | action :: actions =>
    have := Respects.decidable allowed (step state action) actions
    inferInstanceAs (Decidable (_ ∧ _))

variable {step}
variable {holds : State → Prop} {state} {actions : List Action} {allowed : State → Action → Prop}

lemma Along.start (halong : Along step holds state actions) : holds state := by
  cases actions with
  | nil => exact halong
  | cons action actions => exact halong.1

lemma Along.last (halong : Along step holds state actions) : holds (run step state actions) := by
  induction actions generalizing state with
  | nil => exact halong
  | cons action actions ih => exact ih halong.2

lemma Along.mono {implied : State → Prop} (himp : ∀ state, holds state → implied state)
    (halong : Along step holds state actions) : Along step implied state actions := by
  induction actions generalizing state with
  | nil => exact himp state halong
  | cons action actions ih => exact ⟨himp state halong.1, ih halong.2⟩

lemma Along.of_respects {allowed : State → Action → Prop}
    (hstep : ∀ state action, invariant state → allowed state action → invariant (step state action))
    {state : State} {actions : List Action} (hstart : invariant state)
    (hrespects : Respects step allowed state actions) : Along step invariant state actions := by
  induction actions generalizing state with
  | nil => exact hstart
  | cons action actions ih => exact ⟨hstart, ih (hstep state action hstart hrespects.1) hrespects.2⟩

/-- A guard is exact if whatever keeps the predicate was allowed. -/
lemma Respects.of_along {holds : State → Prop} {allowed : State → Action → Prop}
    (hexact : ∀ state action, holds state → holds (step state action) → allowed state action)
    {state : State} {actions : List Action} (halong : Along step holds state actions) :
    Respects step allowed state actions := by
  induction actions generalizing state with
  | nil => trivial
  | cons action actions ih => exact ⟨hexact state action halong.1 halong.2.start, ih halong.2⟩

lemma Respects.and {guard : State → Action → Prop}
    (hallowed : Respects step allowed state actions) (hguard : Respects step guard state actions) :
    Respects step (fun state action => allowed state action ∧ guard state action) state
      actions := by
  induction actions generalizing state with
  | nil => trivial
  | cons action actions ih => exact ⟨⟨hallowed.1, hguard.1⟩, ih hallowed.2 hguard.2⟩

lemma respects_append {first second : List Action} :
    Respects step allowed state (first ++ second) ↔
      Respects step allowed state first ∧ Respects step allowed (run step state first) second := by
  induction first generalizing state with
  | nil => exact ⟨fun hsecond => ⟨trivial, hsecond⟩, fun hboth => hboth.2⟩
  | cons action first ih => rw [cons_append, Respects, Respects, ih, run_cons, and_assoc]

lemma respects_congr {guard : State → Action → Prop}
    (hinvariant : ∀ state action, invariant state → invariant (step state action))
    (hiff : ∀ state action, invariant state → (allowed state action ↔ guard state action))
    (hstart : invariant state) (actions : List Action) :
    Respects step allowed state actions ↔ Respects step guard state actions := by
  induction actions generalizing state with
  | nil => exact Iff.rfl
  | cons action actions ih =>
    exact and_congr (hiff state action hstart) (ih (hinvariant state action hstart))

lemma Respects.of_forall (hallowed : ∀ action ∈ actions, ∀ state, allowed state action) :
    Respects step allowed state actions := by
  induction actions generalizing state with
  | nil => trivial
  | cons action actions ih =>
    exact ⟨hallowed action mem_cons_self state,
      ih fun other hmem => hallowed other (mem_cons_of_mem _ hmem)⟩

lemma run_invariant (hstep : ∀ state action, invariant state → invariant (step state action))
    {state : State} (hstart : invariant state) (actions : List Action) :
    invariant (run step state actions) := by
  induction actions generalizing state with
  | nil => exact hstart
  | cons action actions ih => exact ih (hstep state action hstart)

lemma related_run_filter {related : List Action → State → State → Prop} {counts : Action → Bool}
    (hforeign : ∀ action rest left right, related (action :: rest) left right →
      counts action = false → related rest (step left action) right)
    (hown : ∀ action rest left right, related (action :: rest) left right →
      counts action → related rest (step left action) (step right action))
    {actions : List Action} {left right : State} (hrelated : related actions left right) :
    related [] (run step left actions) (run step right (actions.filter counts)) := by
  induction actions generalizing left right with
  | nil => exact hrelated
  | cons action actions ih =>
    cases hcounts : counts action with
    | false =>
      rw [filter_cons_of_neg (by simp [hcounts])]
      exact ih (hforeign action actions left right hrelated hcounts)
    | true =>
      rw [filter_cons_of_pos hcounts]
      exact ih (hown action actions left right hrelated hcounts)

/-! ## Actions that commute -/

section Commuting

/-- An action that is taken later anyway can as well be taken first. -/
lemma run_of_mem {action : Action}
    (hcomm : ∀ other ∈ actions, ∀ state, step (step state action) other =
      step (step state other) action)
    (hidem : ∀ state, step (step state action) action = step state action)
    (hmem : action ∈ actions) (state : State) :
    run step (step state action) actions = run step state actions := by
  induction actions generalizing state with
  | nil => cases hmem
  | cons head actions ih =>
    rw [run_cons, run_cons]
    by_cases heq : head = action
    · rw [heq, hidem]
    · rw [hcomm head mem_cons_self]
      refine ih (fun other hother => hcomm other (mem_cons_of_mem _ hother)) ?_ _
      exact (mem_cons.mp hmem).resolve_left fun hsame => heq hsame.symm

variable (hcomm : ∀ first ∈ actions, ∀ second ∈ actions, ∀ state,
    step (step state first) second = step (step state second) first)
  (hidem : ∀ action ∈ actions, ∀ state, step (step state action) action = step state action)

include hcomm hidem

lemma run_dedup [DecidableEq Action] (state : State) :
    run step state actions.dedup = run step state actions := by
  induction actions generalizing state with
  | nil => rfl
  | cons action actions ih =>
    have hrest := ih
      (fun first hfirst second hsecond => hcomm first (mem_cons_of_mem _ hfirst) second
        (mem_cons_of_mem _ hsecond))
      (fun other hother => hidem other (mem_cons_of_mem _ hother))
    by_cases hmem : action ∈ actions
    · rw [dedup_cons_of_mem hmem, hrest, run_cons]
      refine (run_of_mem (fun other hother => ?_) (hidem action mem_cons_self) hmem state).symm
      exact hcomm action mem_cons_self other (mem_cons_of_mem _ hother)
    · rw [dedup_cons_of_notMem hmem, run_cons, run_cons, hrest]

lemma run_eq_of_mem_iff {other : List Action} (hmem : ∀ action, action ∈ actions ↔ action ∈ other)
    (state : State) : run step state actions = run step state other := by
  classical
  have hperm : actions.dedup.Perm other.dedup := by
    rw [perm_ext_iff_of_nodup (nodup_dedup _) (nodup_dedup _)]
    intro action
    rw [mem_dedup, mem_dedup, hmem]
  rw [← run_dedup hcomm hidem, ← @run_dedup _ _ step other]
  · refine hperm.foldl_eq' (fun first hfirst second hsecond state => ?_) state
    exact hcomm first (mem_dedup.mp hfirst) second (mem_dedup.mp hsecond) state
  · intro first hfirst second hsecond
    exact hcomm first ((hmem first).mpr hfirst) second ((hmem second).mpr hsecond)
  · intro action haction
    exact hidem action ((hmem action).mpr haction)

end Commuting

/-! ## Actions that change one view each -/

section Views

variable {K V : Type} {view : State → K → V} {key : Action → K}
variable (hinvariant : ∀ state action, invariant state → invariant (step state action))
  (hlocal : ∀ state action, invariant state → ∀ other, other ≠ key action →
    view (step state action) other = view state other)
  (hstart : invariant state)

include hinvariant hlocal hstart

lemma view_run_of_absent {other : K} (habsent : other ∉ actions.map key) :
    view (run step state actions) other = view state other := by
  induction actions generalizing state with
  | nil => rfl
  | cons action actions ih =>
    rw [map_cons, mem_cons, not_or] at habsent
    rw [run_cons, ih (hinvariant state action hstart) habsent.2,
      hlocal state action hstart other habsent.1]

lemma view_run_of_mem {allowed : State → Action → Prop} (hnodup : (actions.map key).Nodup)
    (hrespects : Respects step allowed state actions) {action : Action} (hmem : action ∈ actions) :
    ∃ middle, invariant middle ∧ allowed middle action ∧
      view middle (key action) = view state (key action) ∧
      view (run step state actions) (key action) = view (step middle action) (key action) := by
  induction actions generalizing state with
  | nil => cases hmem
  | cons head actions ih =>
    rw [map_cons, nodup_cons] at hnodup
    have hnext := hinvariant state head hstart
    rcases mem_cons.mp hmem with rfl | hlater
    · exact ⟨state, hstart, hrespects.1, rfl, view_run_of_absent hinvariant hlocal hnext hnodup.1⟩
    · have hother : key action ≠ key head := fun heq =>
        hnodup.1 (heq ▸ mem_map.mpr ⟨action, hlater, rfl⟩)
      obtain ⟨middle, hmiddle, hallowed, hview, hlast⟩ := ih hnext hnodup.2 hrespects.2 hlater
      exact ⟨middle, hmiddle, hallowed, hview.trans (hlocal state head hstart _ hother), hlast⟩

lemma relates_run_iff {relates : V → V → Prop} (hrefl : ∀ value, relates value value)
    (hnodup : (actions.map key).Nodup) :
    (∀ other, relates (view state other) (view (run step state actions) other)) ↔
      Respects step (fun state action =>
        relates (view state (key action)) (view (step state action) (key action)))
        state actions := by
  induction actions generalizing state with
  | nil => exact ⟨fun _ => trivial, fun _ other => hrefl _⟩
  | cons action actions ih =>
    rw [map_cons, nodup_cons] at hnodup
    have hnext := hinvariant state action hstart
    have hown := view_run_of_absent hinvariant hlocal hnext hnodup.1
    rw [run_cons, Respects, ← ih hnext hnodup.2]
    constructor
    · intro hall
      refine ⟨hown ▸ hall (key action), fun other => ?_⟩
      by_cases heq : other = key action
      · subst heq
        rw [hown]
        exact hrefl _
      · rw [hlocal state action hstart other heq]
        exact hall other
    · rintro ⟨hhead, hrest⟩ other
      by_cases heq : other = key action
      · subst heq
        rw [hown]
        exact hhead
      · rw [← hlocal state action hstart other heq]
        exact hrest other

end Views

section Eventually

variable {advance : State → State} {goal : State → Prop}

/-- Repeated, the step reaches a state with the property. -/
def Eventually (advance : State → State) (goal : State → Prop) (state : State) : Prop :=
  ∃ rounds, goal (advance^[rounds] state)

lemma Eventually.now (hgoal : goal state) : Eventually advance goal state := ⟨0, hgoal⟩

lemma Eventually.next (hnext : Eventually advance goal (advance state)) :
    Eventually advance goal state := by
  obtain ⟨rounds, hgoal⟩ := hnext
  exact ⟨rounds + 1, hgoal⟩

lemma Eventually.trans {middle : State → Prop} (hmiddle : Eventually advance middle state)
    (hrest : ∀ state, middle state → Eventually advance goal state) :
    Eventually advance goal state := by
  obtain ⟨first, hfirst⟩ := hmiddle
  obtain ⟨second, hsecond⟩ := hrest _ hfirst
  refine ⟨second + first, ?_⟩
  rw [Function.iterate_add_apply]
  exact hsecond

end Eventually

end Foundation.Machine
