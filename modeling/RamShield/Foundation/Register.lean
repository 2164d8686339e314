import Mathlib.Data.Set.Insert
import Mathlib.Tactic.Common

/-! # Add/remove registers with a removal watermark

A register holds at most one live value, stamped with a counter, and the highest
counter that was ever removed. An add at or below the watermark is stale, and of
two adds the higher counter wins. What a register holds depends only on the set
of operations it has absorbed, not on their order or multiplicity.
-/

namespace Foundation

open List

/-- A live stamped value and the removal watermark. -/
@[ext] structure Register (P : Type) where
  live : Option (Nat × P)
  removed : Option Nat
  deriving DecidableEq

namespace Register

variable {P : Type}

def empty : Register P := ⟨none, none⟩

inductive Op (P : Type)
  | add (counter : Nat) (payload : P)
  | remove (counter : Nat)
  deriving DecidableEq

variable (register : Register P)

def stale (counter : Nat) : Bool := register.removed.any (counter ≤ ·)

/-- Absorb an add: stale and superseded ones change nothing. -/
def add (counter : Nat) (payload : P) : Register P :=
  if register.stale counter then register
  else
    match register.live with
    | none => { register with live := some (counter, payload) }
    | some (current, _) =>
      if current < counter then { register with live := some (counter, payload) }
      else register

/-- Absorb a removal: raise the watermark and drop a live value it covers. -/
def remove (counter : Nat) : Register P where
  live := register.live.filter fun value => counter < value.1
  removed := some (match register.removed with
    | none => counter
    | some watermark => if watermark < counter then counter else watermark)

def apply : Op P → Register P
  | .add counter payload => register.add counter payload
  | .remove counter => register.remove counter

lemma add_removed (counter : Nat) (payload : P) :
    (register.add counter payload).removed = register.removed := by
  unfold add
  repeat' split
  all_goals rfl

lemma live_add (counter : Nat) (payload : P) :
    (register.add counter payload).live = register.live ∨
      register.stale counter = false ∧
        (register.add counter payload).live = some (counter, payload) := by
  unfold add
  split
  · exact .inl rfl
  next hfresh =>
    rw [Bool.not_eq_true] at hfresh
    split
    · exact .inr ⟨hfresh, rfl⟩
    split
    · exact .inr ⟨hfresh, rfl⟩
    · exact .inl rfl

variable {register} {op : Op P} {seen : Set (Op P)}

lemma live_remove {counter : Nat} {value : Nat × P} :
    (register.remove counter).live = some value ↔
      register.live = some value ∧ counter < value.1 := by
  simp [remove, Option.filter_eq_some_iff]

/-- The watermark becomes the higher of the old and the new counter. -/
lemma removed_remove_eq (register : Register P) (counter : Nat) :
    (register.remove counter).removed = some (max (register.removed.getD 0) counter) := by
  unfold remove
  cases register.removed with
  | none => simp
  | some watermark => by_cases hlt : watermark < counter <;> simp [hlt] <;> omega

lemma removed_remove (register : Register P) (counter : Nat) :
    ∃ watermark, (register.remove counter).removed = some watermark ∧ counter ≤ watermark ∧
      (watermark = counter ∨ register.removed = some watermark) := by
  refine ⟨_, register.removed_remove_eq counter, le_max_right .., ?_⟩
  cases register.removed with
  | none => exact .inl (Nat.zero_max counter)
  | some watermark =>
    rcases Nat.le_total watermark counter with hle | hle
    · exact .inl (by simp [hle])
    · exact .inr (by simp [hle])

lemma le_removed_remove (register : Register P) (counter : Nat) {old : Nat}
    (hold : register.removed = some old) :
    ∃ watermark, (register.remove counter).removed = some watermark ∧ old ≤ watermark :=
  ⟨_, register.removed_remove_eq counter, by simp [hold]⟩

lemma stale_remove_iff (register : Register P) (current counter : Nat) :
    (register.remove current).stale counter ↔ register.stale counter ∨ counter ≤ current := by
  rw [stale, removed_remove_eq, stale]
  cases register.removed <;> simp

def superseded (register : Register P) (counter : Nat) : Bool :=
  register.stale counter || register.live.any (counter ≤ ·.1)

def Op.counter : Op P → Nat
  | .add counter _ => counter
  | .remove counter => counter

lemma superseded_iff {counter : Nat} :
    register.superseded counter ↔
      (∃ watermark, register.removed = some watermark ∧ counter ≤ watermark) ∨
        ∃ value, register.live = some value ∧ counter ≤ value.1 := by
  simp [superseded, stale, Option.any_eq_true]

lemma add_eq (register : Register P) (counter : Nat) (payload : P) :
    register.add counter payload =
      if register.superseded counter then register
      else { register with live := some (counter, payload) } := by
  unfold add superseded
  cases register.stale counter with
  | true => rfl
  | false =>
    cases hlive : register.live with
    | none => simp
    | some value =>
      by_cases hhigher : value.1 < counter
      · simp [hhigher]
      · simp [hhigher, Nat.le_of_not_lt hhigher]

lemma add_eq_self_iff {counter : Nat} {payload : P} :
    register.add counter payload = register ↔ register.superseded counter := by
  rw [add_eq]
  split
  next hsuperseded => exact iff_of_true rfl hsuperseded
  next hfresh =>
    refine iff_of_false (fun hsame => hfresh ?_) hfresh
    have hlive := congrArg Register.live hsame
    exact superseded_iff.mpr (.inr ⟨(counter, payload), hlive.symm, le_rfl⟩)

lemma remove_eq_self_iff {counter : Nat} :
    register.remove counter = register ↔
      (∃ watermark, register.removed = some watermark ∧ counter ≤ watermark) ∧
        ∀ value, register.live = some value → counter < value.1 := by
  constructor
  · intro hsame
    obtain ⟨watermark, hremoved, hle, _⟩ := register.removed_remove counter
    rw [hsame] at hremoved
    refine ⟨⟨watermark, hremoved, hle⟩, fun value hlive => ?_⟩
    rw [← hsame] at hlive
    exact (live_remove.mp hlive).2
  · rintro ⟨⟨watermark, hremoved, hle⟩, habove⟩
    refine Register.ext ?_ ?_
    · ext value
      rw [live_remove]
      exact and_iff_left_of_imp (habove value)
    · simp [removed_remove_eq, hremoved, hle]

lemma superseded_add (register : Register P) (current : Nat) (payload : P) (counter : Nat) :
    (register.add current payload).superseded counter ↔
      register.superseded counter ∨ counter ≤ current := by
  rw [add_eq]
  split
  next hsuperseded =>
    -- What the add would supersede already is.
    refine ⟨.inl, fun hor => hor.elim id fun hle => ?_⟩
    rw [superseded_iff] at hsuperseded ⊢
    exact hsuperseded.imp (fun ⟨highest, hremoved, habove⟩ => ⟨highest, hremoved, hle.trans habove⟩)
      fun ⟨value, hlive, habove⟩ => ⟨value, hlive, hle.trans habove⟩
  next hfresh =>
    have hlower (value : Nat × P) (hlive : register.live = some value) (hle : counter ≤ value.1) :
        counter ≤ current := by
      by_contra hhigher
      exact hfresh (superseded_iff.mpr (.inr ⟨value, hlive, by omega⟩))
    simp only [superseded, stale, Bool.or_eq_true, Option.any_some, decide_eq_true_eq,
      Option.any_eq_true]
    constructor
    · exact Or.imp_left .inl
    · rintro ((hstale | ⟨value, hlive, hle⟩) | hle)
      · exact .inl hstale
      · exact .inr (hlower value hlive hle)
      · exact .inr hle

lemma superseded_remove (register : Register P) (current counter : Nat) :
    (register.remove current).superseded counter ↔
      register.superseded counter ∨ counter ≤ current := by
  simp only [superseded, Bool.or_eq_true, stale_remove_iff, Option.any_eq_true, live_remove,
    decide_eq_true_eq]
  constructor
  · rintro ((hstale | hle) | ⟨value, ⟨hlive, _⟩, hle⟩)
    · exact .inl (.inl hstale)
    · exact .inr hle
    · exact .inl (.inr ⟨value, hlive, hle⟩)
  · rintro ((hstale | ⟨value, hlive, hle⟩) | hle)
    · exact .inl (.inl hstale)
    · by_cases hkept : current < value.1
      · exact .inr ⟨value, ⟨hlive, hkept⟩, hle⟩
      · exact .inl (.inr (by omega))
    · exact .inl (.inr hle)

lemma stale_apply {register : Register P} {counter : Nat} (op : Op P)
    (hstale : register.stale counter) : (register.apply op).stale counter := by
  cases op with
  | add current payload =>
    unfold stale at hstale ⊢
    rwa [apply, add_removed]
  | remove current => exact (register.stale_remove_iff ..).mpr (.inl hstale)

lemma superseded_apply (register : Register P) (op : Op P) (counter : Nat) :
    (register.apply op).superseded counter ↔
      register.superseded counter ∨ counter ≤ op.counter := by
  cases op with
  | add current payload => exact register.superseded_add current payload counter
  | remove current => exact register.superseded_remove current counter

lemma removed_foldl_apply (register : Register P) (ops : List (Op P)) :
    (ops.foldl apply register).removed = register.removed ∨
      ∃ counter, .remove counter ∈ ops ∧
        ∀ watermark, register.removed = some watermark → watermark < counter := by
  induction ops generalizing register with
  | nil => exact .inl rfl
  | cons op ops ih =>
    rw [foldl_cons]
    by_cases hraises : ∃ counter, op = .remove counter ∧
        ∀ watermark, register.removed = some watermark → watermark < counter
    · obtain ⟨counter, rfl, habove⟩ := hraises
      exact .inr ⟨counter, mem_cons_self, habove⟩
    · have hkept : (register.apply op).removed = register.removed := by
        cases op with
        | add counter payload => exact register.add_removed counter payload
        | remove counter =>
          obtain ⟨watermark, hremoved, hwatermark⟩ : ∃ watermark,
              register.removed = some watermark ∧ ¬ watermark < counter := by
            by_contra hnone
            exact hraises ⟨counter, rfl, fun watermark hremoved =>
              not_not.mp fun hnot => hnone ⟨watermark, hremoved, hnot⟩⟩
          simpa [apply, removed_remove_eq, hremoved] using hwatermark
      rcases ih (register.apply op) with hsame | ⟨counter, hmem, habove⟩
      · exact .inl (hsame.trans hkept)
      · rw [hkept] at habove
        exact .inr ⟨counter, mem_cons_of_mem _ hmem, habove⟩

def Separated (register : Register P) : Prop :=
  ∀ watermark, register.removed = some watermark →
    ∀ value, register.live = some value → watermark < value.1

lemma empty_separated : (empty : Register P).Separated := by
  intro watermark hremoved
  cases hremoved

lemma Separated.add (hseparated : register.Separated) (counter : Nat) (payload : P) :
    (register.add counter payload).Separated := by
  intro watermark hremoved value hvalue
  rw [add_removed] at hremoved
  rcases register.live_add counter payload with hsame | ⟨hfresh, hnew⟩
  · rw [hsame] at hvalue
    exact hseparated watermark hremoved value hvalue
  · rw [hnew] at hvalue
    cases hvalue
    rw [stale, hremoved, Option.any_some, decide_eq_false_iff_not] at hfresh
    exact Nat.lt_of_not_le hfresh

lemma Separated.remove (hseparated : register.Separated) (counter : Nat) :
    (register.remove counter).Separated := by
  intro watermark hremoved value hvalue
  obtain ⟨hlive, habove⟩ := live_remove.mp hvalue
  obtain ⟨raised, hraised, _, hwhich⟩ := register.removed_remove counter
  rw [hraised] at hremoved
  cases hremoved
  rcases hwhich with rfl | hold
  · exact habove
  · exact hseparated watermark hold value hlive

def tombstoned : Option Nat → Register P
  | none => empty
  | some watermark => empty.remove watermark

def refill (register : Register P) : Option (Nat × P) → Register P
  | none => register
  | some value => register.add value.1 value.2

lemma Separated.rebuild (hseparated : register.Separated) :
    (tombstoned register.removed).refill register.live = register := by
  obtain ⟨live, removed⟩ := register
  cases removed with
  | none => cases live <;> rfl
  | some watermark =>
    cases live with
    | none => rfl
    | some value =>
      have habove := hseparated watermark rfl value rfl
      simp [tombstoned, refill, Register.add, stale, Register.remove, empty, Nat.not_le.mpr habove]

lemma remove_add {removed counter : Nat} (hbelow : removed < counter) (register : Register P)
    (payload : P) :
    (register.add counter payload).remove removed =
      (register.remove removed).add counter payload := by
  have hsame : (register.remove removed).superseded counter = register.superseded counter := by
    rw [Bool.eq_iff_iff, superseded_remove]
    exact ⟨fun hor => hor.resolve_right (Nat.not_le.mpr hbelow), .inl⟩
  rw [add_eq, add_eq, hsame]
  split
  · rfl
  · simp [Register.remove, hbelow]

def ops (register : Register P) : List (Op P) :=
  (register.removed.map Op.remove).toList ++
    (register.live.map fun value => Op.add value.1 value.2).toList

lemma mem_ops :
    op ∈ register.ops ↔ (∃ counter, register.removed = some counter ∧ op = .remove counter) ∨
      ∃ value, register.live = some value ∧ op = .add value.1 value.2 := by
  simp only [ops, mem_append, Option.mem_toList, Option.map_eq_some_iff, @eq_comm _ op]

lemma Separated.apply_ops (hseparated : register.Separated) :
    register.ops.foldl Register.apply empty = register := by
  have hrebuild := hseparated.rebuild
  obtain ⟨live, removed⟩ := register
  cases removed <;> cases live <;> exact hrebuild

lemma Separated.ops_comm (hseparated : register.Separated) {first second : Op P}
    (hfirst : first ∈ register.ops) (hsecond : second ∈ register.ops) (base : Register P) :
    (base.apply first).apply second = (base.apply second).apply first := by
  rcases mem_ops.mp hfirst with ⟨counter, hremoved, rfl⟩ | ⟨value, hlive, rfl⟩ <;>
    rcases mem_ops.mp hsecond with ⟨counter', hremoved', rfl⟩ | ⟨value', hlive', rfl⟩
  · obtain rfl := Option.some.inj (hremoved.symm.trans hremoved')
    rfl
  · exact (remove_add (hseparated counter hremoved value' hlive') base value'.2).symm
  · exact remove_add (hseparated counter' hremoved' value hlive) base value.2
  · obtain rfl := Option.some.inj (hlive.symm.trans hlive')
    rfl

lemma apply_apply (register : Register P) (op : Op P) :
    (register.apply op).apply op = register.apply op := by
  cases op with
  | add counter payload =>
    exact (add_eq ..).trans (if_pos ((register.superseded_add ..).mpr (.inr le_rfl)))
  | remove counter =>
    refine Register.ext ?_ ?_
    · simp [apply, Register.remove, Option.filter_filter]
    · simp [apply, removed_remove_eq]

lemma superseded_foldl_apply (register : Register P) (ops : List (Op P)) (counter : Nat) :
    (ops.foldl apply register).superseded counter ↔
      register.superseded counter ∨ ∃ op ∈ ops, counter ≤ op.counter := by
  induction ops generalizing register with
  | nil => simp
  | cons op ops ih =>
    rw [foldl_cons, ih, superseded_apply, or_assoc]
    simp

lemma le_removed_foldl_apply (ops : List (Op P)) {watermark : Nat}
    (hremoved : register.removed = some watermark) :
    ∃ raised, (ops.foldl apply register).removed = some raised ∧ watermark ≤ raised := by
  induction ops generalizing register watermark with
  | nil => exact ⟨watermark, hremoved, le_rfl⟩
  | cons op ops ih =>
    cases op with
    | add counter payload => exact ih ((register.add_removed counter payload).trans hremoved)
    | remove counter =>
      obtain ⟨middle, hmiddle, hle⟩ := register.le_removed_remove counter hremoved
      obtain ⟨raised, hraised, habove⟩ := ih hmiddle
      exact ⟨raised, hraised, hle.trans habove⟩

lemma apply_absorbed (habsorbed : register.apply op = register) (other : Op P) :
    (register.apply other).apply op = register.apply other := by
  cases op with
  | add counter payload =>
    have hsuperseded := add_eq_self_iff.mp habsorbed
    exact add_eq_self_iff.mpr ((register.superseded_apply other counter).mpr (.inl hsuperseded))
  | remove counter =>
    obtain ⟨⟨watermark, hremoved, hle⟩, habove⟩ := remove_eq_self_iff.mp habsorbed
    refine remove_eq_self_iff.mpr ?_
    cases other with
    | add current payload =>
      refine ⟨⟨watermark, (register.add_removed current payload).trans hremoved, hle⟩, ?_⟩
      intro value hlive
      rcases register.live_add current payload with hsame | ⟨hfresh, hnew⟩
      · exact habove value (hsame ▸ hlive)
      · -- A dot that is taken in lies above the watermark.
        cases hnew.symm.trans hlive
        simp only [stale, hremoved, Option.any_some, decide_eq_false_iff_not, not_le] at hfresh
        exact hle.trans_lt hfresh
    | remove current =>
      obtain ⟨raised, hraised, hraise⟩ := register.le_removed_remove current hremoved
      refine ⟨⟨raised, hraised, hle.trans hraise⟩, fun value hlive => ?_⟩
      exact habove value (live_remove.mp hlive).1

lemma foldl_apply_absorbed {ops : List (Op P)} (hmem : op ∈ ops) (register : Register P) :
    (ops.foldl apply register).apply op = ops.foldl apply register := by
  obtain ⟨earlier, later, rfl⟩ := append_of_mem hmem
  rw [foldl_append, foldl_cons]
  generalize earlier.foldl apply register = middle
  exact List.foldlRecOn (motive := fun later => later.apply op = later) later apply
    (middle.apply_apply op) fun absorbed habsorbed other _ => apply_absorbed habsorbed other

structure Represents (register : Register P) (seen : Set (Op P)) : Prop where
  removed_none : register.removed = none → ∀ counter, Op.remove counter ∉ seen
  removed_some {watermark : Nat} : register.removed = some watermark →
    Op.remove watermark ∈ seen ∧ ∀ counter, Op.remove counter ∈ seen → counter ≤ watermark
  live_none : register.live = none →
    ∀ counter payload, Op.add counter payload ∈ seen →
      ∃ watermark, Op.remove watermark ∈ seen ∧ counter ≤ watermark
  live_some {counter : Nat} {payload : P} : register.live = some (counter, payload) →
    Op.add counter payload ∈ seen ∧
      (∀ watermark, Op.remove watermark ∈ seen → watermark < counter) ∧
      ∀ other value, Op.add other value ∈ seen → other ≤ counter

lemma empty_represents : Represents (empty : Register P) ∅ where
  removed_none := by simp
  removed_some h := by simp [empty] at h
  live_none := by simp
  live_some h := by simp [empty] at h

section

variable (hrep : register.Represents seen)

include hrep

lemma Represents.exists_removed {counter : Nat} (hmem : Op.remove counter ∈ seen) :
    ∃ watermark, register.removed = some watermark ∧ counter ≤ watermark := by
  cases hremoved : register.removed with
  | none => exact absurd hmem (hrep.removed_none hremoved counter)
  | some watermark => exact ⟨watermark, rfl, (hrep.removed_some hremoved).2 counter hmem⟩

lemma Represents.add (counter : Nat) (payload : P) :
    (register.add counter payload).Represents (insert (.add counter payload) seen) := by
  have hnone (hnone : register.removed = none) (other : Nat) :
      Op.remove other ∉ insert (.add counter payload) seen := by
    simpa using hrep.removed_none hnone other
  have hsome {watermark : Nat} (hsome : register.removed = some watermark) :
      Op.remove watermark ∈ insert (.add counter payload) seen ∧
        ∀ other, Op.remove other ∈ insert (.add counter payload) seen → other ≤ watermark := by
    simpa using hrep.removed_some hsome
  rw [add_eq]
  split
  next hsuperseded =>
    have hcovered := superseded_iff.mp hsuperseded
    refine ⟨hnone, hsome, ?_, ?_⟩
    · rintro hdead other value (heq | hold)
      · cases heq
        obtain ⟨watermark, hremoved, hle⟩ := hcovered.resolve_right (by simp [hdead])
        exact ⟨watermark, (hsome hremoved).1, hle⟩
      · simpa using hrep.live_none hdead other value hold
    · intro current held hlive
      obtain ⟨hmem, habove, hmax⟩ := hrep.live_some hlive
      refine ⟨.inr hmem, by simpa using habove, ?_⟩
      rintro other value (heq | hold)
      · -- A stale add lies below a watermark, hence below every live value.
        cases heq
        rcases hcovered with ⟨watermark, hremoved, hle⟩ | ⟨kept, hkept, hle⟩
        · exact hle.trans (habove watermark (hrep.removed_some hremoved).1).le
        · cases hlive.symm.trans hkept
          exact hle
      · exact hmax other value hold
  next hfresh =>
    have habove : ∀ watermark, Op.remove watermark ∈ seen → watermark < counter := by
      intro watermark hwatermark
      by_contra hge
      obtain ⟨highest, hremoved, hle⟩ := hrep.exists_removed hwatermark
      exact hfresh (superseded_iff.mpr (.inl ⟨highest, hremoved, by omega⟩))
    refine ⟨hnone, hsome, nofun, ?_⟩
    rintro _ _ ⟨⟩
    refine ⟨.inl rfl, by simpa using habove, ?_⟩
    rintro other value (heq | hold)
    · cases heq
      exact le_rfl
    · by_contra hhigher
      cases hlive : register.live with
      | none =>
        obtain ⟨watermark, hwatermark, hle⟩ := hrep.live_none hlive other value hold
        have hlt := habove watermark hwatermark
        omega
      | some kept =>
        have hmax := (hrep.live_some hlive).2.2 other value hold
        exact hfresh (superseded_iff.mpr (.inr ⟨kept, hlive, by omega⟩))

lemma Represents.remove (counter : Nat) :
    (register.remove counter).Represents (insert (.remove counter) seen) := by
  obtain ⟨watermark, hremoved, hreaches, hwhich⟩ := register.removed_remove counter
  refine ⟨nofun, ?_, ?_, ?_⟩
  · intro raised hsome
    cases hremoved.symm.trans hsome
    refine ⟨hwhich.imp (congrArg Op.remove) fun hold => (hrep.removed_some hold).1, ?_⟩
    rintro other (heq | hold)
    · cases heq
      exact hreaches
    · obtain ⟨prior, hprior, hbelow⟩ := hrep.exists_removed hold
      obtain ⟨_, hraised, hle⟩ := register.le_removed_remove counter hprior
      cases hremoved.symm.trans hraised
      exact hbelow.trans hle
  · intro hnone other value hmem
    have hold : Op.add other value ∈ seen := by simpa using hmem
    cases hlive : register.live with
    | none =>
      obtain ⟨watermark, hwatermark, hle⟩ := hrep.live_none hlive other value hold
      exact ⟨watermark, .inr hwatermark, hle⟩
    | some held =>
      have hmax := (hrep.live_some hlive).2.2 other value hold
      have hcovered : ¬ counter < held.1 := fun hlt => by
        cases (live_remove.mpr ⟨hlive, hlt⟩).symm.trans hnone
      exact ⟨counter, .inl rfl, by omega⟩
  · intro current held hlive
    obtain ⟨hkept, hlt⟩ := live_remove.mp hlive
    obtain ⟨hmem, habove, hmax⟩ := hrep.live_some hkept
    refine ⟨.inr hmem, ?_, by simpa using hmax⟩
    rintro watermark (heq | hold)
    · cases heq
      exact hlt
    · exact habove watermark hold

lemma Represents.apply (op : Op P) : (register.apply op).Represents (insert op seen) := by
  cases op with
  | add counter payload => exact hrep.add counter payload
  | remove counter => exact hrep.remove counter

/-- A fold absorbs exactly its operations. -/
lemma Represents.foldl (ops : List (Op P)) :
    (ops.foldl Register.apply register).Represents (seen ∪ {op | op ∈ ops}) := by
  induction ops generalizing register seen with
  | nil => simpa using hrep
  | cons op ops ih =>
    have hrest := ih (hrep.apply op)
    have hseen : insert op seen ∪ {other | other ∈ ops} = seen ∪ {other | other ∈ op :: ops} := by
      ext other
      simp only [Set.mem_union, Set.mem_insert_iff, Set.mem_ofPred_eq, mem_cons]
      tauto
    rw [hseen] at hrest
    exact hrest

end

lemma Represents.removed_iff (hrep : register.Represents seen) {watermark : Nat} :
    register.removed = some watermark ↔ Op.remove watermark ∈ seen ∧
      ∀ counter, Op.remove counter ∈ seen → counter ≤ watermark := by
  refine ⟨hrep.removed_some, fun ⟨hmem, hmax⟩ => ?_⟩
  obtain ⟨highest, hremoved, hle⟩ := hrep.exists_removed hmem
  rw [hremoved, le_antisymm (hmax highest (hrep.removed_some hremoved).1) hle]

section

variable (hfun : ∀ counter first second, Op.add counter first ∈ seen →
  Op.add counter second ∈ seen → first = second)

include hfun

lemma Represents.live_iff (hrep : register.Represents seen) {counter : Nat} {payload : P} :
    register.live = some (counter, payload) ↔ Op.add counter payload ∈ seen ∧
      (∀ watermark, Op.remove watermark ∈ seen → watermark < counter) ∧
      ∀ other value, Op.add other value ∈ seen → other ≤ counter := by
  refine ⟨hrep.live_some, fun ⟨hmem, habove, hmax⟩ => ?_⟩
  cases hlive : register.live with
  | none =>
    obtain ⟨watermark, hwatermark, hle⟩ := hrep.live_none hlive counter payload hmem
    have hlt := habove watermark hwatermark
    omega
  | some held =>
    obtain ⟨current, kept⟩ := held
    obtain ⟨hheld, _, hhighest⟩ := hrep.live_some hlive
    obtain rfl : current = counter :=
      le_antisymm (hmax current kept hheld) (hhighest counter payload hmem)
    rw [hfun current kept payload hheld hmem]

lemma Represents.unique {left right : Register P} (hleft : left.Represents seen)
    (hright : right.Represents seen) : left = right := by
  refine Register.ext (Option.ext fun value => ?_) (Option.ext fun watermark => ?_)
  · exact (hleft.live_iff hfun).trans (hright.live_iff hfun).symm
  · exact hleft.removed_iff.trans hright.removed_iff.symm

end

lemma Separated.represents (hseparated : register.Separated) :
    register.Represents {op | op ∈ register.ops} := by
  simpa [hseparated.apply_ops] using empty_represents.foldl register.ops

lemma Separated.exchange {left right : Register P} (hleft : left.Separated)
    (hright : right.Separated) (hsame : ∀ counter first second,
      left.live = some (counter, first) → right.live = some (counter, second) → first = second) :
    right.ops.foldl apply left = left.ops.foldl apply right := by
  have hswapped := hright.represents.foldl left.ops
  rw [Set.union_comm] at hswapped
  refine (hleft.represents.foldl right.ops).unique ?_ hswapped
  have hlive {register : Register P} {counter : Nat} {payload : P}
      (hmem : Op.add counter payload ∈ register.ops) : register.live = some (counter, payload) := by
    simpa [mem_ops] using hmem
  rintro counter first second (hfirst | hfirst) (hsecond | hsecond)
  · cases (hlive hfirst).symm.trans (hlive hsecond)
    rfl
  · exact hsame counter first second (hlive hfirst) (hlive hsecond)
  · exact (hsame counter second first (hlive hsecond) (hlive hfirst)).symm
  · cases (hlive hfirst).symm.trans (hlive hsecond)
    rfl

/-! ## Registers with different payloads -/

section Agrees

variable {Q : Type} {related : P → Q → Prop}

/-- Two registers hold the same counters, and related payloads. -/
structure Agrees (related : P → Q → Prop) (left : Register P) (right : Register Q) : Prop where
  live : Option.Rel (fun value other => value.1 = other.1 ∧ related value.2 other.2)
    left.live right.live
  removed : left.removed = right.removed

lemma Agrees.empty : Agrees related empty empty := ⟨.none, rfl⟩

variable {left : Register P} {right : Register Q}

section

variable (hagrees : Agrees related left right) (counter : Nat)

include hagrees

lemma Agrees.superseded : left.superseded counter = right.superseded counter := by
  have hlive : left.live.any (counter ≤ ·.1) = right.live.any (counter ≤ ·.1) := by
    have hlives := hagrees.live
    generalize left.live = live, right.live = other at hlives
    cases hlives with
    | none => rfl
    | some hvalue => exact congrArg (fun stamp => decide (counter ≤ stamp)) hvalue.1
  unfold Register.superseded stale
  rw [hagrees.removed, hlive]

lemma Agrees.add {payload : P} {other : Q} (hrelated : related payload other) :
    Agrees related (left.add counter payload) (right.add counter other) := by
  rw [add_eq, add_eq, hagrees.superseded]
  split
  · exact hagrees
  · exact ⟨.some ⟨rfl, hrelated⟩, hagrees.removed⟩

lemma Agrees.remove : Agrees related (left.remove counter) (right.remove counter) := by
  refine ⟨?_, ?_⟩
  · have hlives := hagrees.live
    unfold Register.remove
    dsimp only
    generalize left.live = live, right.live = other at hlives
    cases hlives with
    | none => exact .none
    | some hvalue =>
      rw [Option.filter_some, Option.filter_some, hvalue.1]
      split
      · exact .some hvalue
      · exact .none
  · unfold Register.remove
    rw [hagrees.removed]

end

end Agrees

end Register

end Foundation
