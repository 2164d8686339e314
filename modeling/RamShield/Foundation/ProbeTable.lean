import RamShield.Foundation.Run

/-! # A table with bounded probing and expiry

Every key has a list of slots it may occupy. A rule goes into the slot that holds its key, or
else into the first of its slots that is empty or holds an expired rule; if there is none, it
is refused. A rule that has expired is not removed, only overwritten.

The history of the table is kept beside it: for each key the slot and the rule of the last
placement, unless that slot has been cleared since. As long as the clock does not go back, the
table answers from the history.
-/

namespace Foundation.ProbeTable

open Machine List Function Option

variable {Slot Key Rule : Type}

abbrev Cells (Slot Key Rule : Type) := Slot → Option (Key × Rule)

structure State (Slot Key Rule : Type) where
  cells : Cells Slot Key Rule
  latest : Key → Option (Slot × Rule)

def State.empty : State Slot Key Rule := ⟨fun _ => none, fun _ => none⟩

/-- What happens to the table, and when. -/
inductive Action (Slot Key Rule : Type)
  | place (now : Nat) (key : Key) (rule : Rule)
  | clear (now : Nat) (slot : Slot)

def Action.now : Action Slot Key Rule → Nat
  | .place now _ _ => now
  | .clear now _ => now

/-- The actions are in the order of their times, and none is later than `now`. -/
structure Ordered (actions : List (Action Slot Key Rule)) (now : Nat) : Prop where
  sorted : actions.Pairwise fun first second => first.now ≤ second.now
  past : ∀ action ∈ actions, action.now ≤ now

variable {probes : Key → List Slot} {expires : Rule → Nat}

/-- The slots hold what the history says, but for rules that have expired. -/
structure Agrees (probes : Key → List Slot) (expires : Rule → Nat)
    (state : State Slot Key Rule) (clock : Nat) : Prop where
  held {slot : Slot} {key : Key} {rule : Rule} (hcell : state.cells slot = some (key, rule)) :
    slot ∈ probes key ∧ state.latest key = some (slot, rule)
  latest {key : Key} {slot : Slot} {rule : Rule}
    (hlatest : state.latest key = some (slot, rule)) :
    state.cells slot = some (key, rule) ∨ expires rule ≤ clock

lemma agrees_empty (clock : Nat) :
    Agrees probes expires (State.empty : State Slot Key Rule) clock where
  held hcell := by cases hcell
  latest hlatest := by cases hlatest

variable {state : State Slot Key Rule} {clock : Nat} {key : Key} {cells : Cells Slot Key Rule}
  {slot : Slot}

lemma Agrees.slot_unique (hagrees : Agrees probes expires state clock) {first second : Slot}
    {rule other : Rule} (hfirst : state.cells first = some (key, rule))
    (hsecond : state.cells second = some (key, other)) : first = second := by
  have hboth := (hagrees.held hfirst).2.symm.trans (hagrees.held hsecond).2
  exact congrArg Prod.fst (Option.some.inj hboth)

variable {now : Nat}

lemma Agrees.mono (hagrees : Agrees probes expires state clock) (hclock : clock ≤ now) :
    Agrees probes expires state now where
  held := hagrees.held
  latest hlatest := (hagrees.latest hlatest).imp_right fun hexpired => Nat.le_trans hexpired hclock

/-! ## Selection -/

variable [DecidableEq Key]
variable (probes expires) in
/-- The slot for a key: its own, or else the first that is free. -/
def select (cells : Cells Slot Key Rule) (now : Nat) (key : Key) : Option Slot :=
  ((probes key).find? fun slot => (cells slot).any fun held => held.1 = key).or
    ((probes key).find? fun slot => (cells slot).all fun held => expires held.2 ≤ now)

variable (probes expires) in
def read (cells : Cells Slot Key Rule) (now : Nat) (key : Key) : Option Rule :=
  (probes key).findSome? fun slot =>
    (cells slot).bind fun held => if held.1 = key ∧ now < expires held.2 then some held.2 else none

lemma select_eq_none_iff :
    select probes expires cells now key = none ↔ ∀ slot ∈ probes key, ∃ other rule,
        cells slot = some (other, rule) ∧ other ≠ key ∧ now < expires rule := by
  rw [select, or_eq_none_iff, List.find?_eq_none, List.find?_eq_none, ← forall₂_and]
  refine forall₂_congr fun slot _ => ?_
  cases cells slot with
  | none => simp
  | some held => simp [Prod.ext_iff]

lemma select_cases (hselect : select probes expires cells now key = some slot) :
    slot ∈ probes key ∧ ((∃ rule, cells slot = some (key, rule)) ∨
      (∀ other rule, cells slot = some (other, rule) → expires rule ≤ now) ∧
        ∀ other ∈ probes key, ∀ rule, cells other ≠ some (key, rule)) := by
  rw [select, or_eq_some_iff] at hselect
  rcases hselect with hown | ⟨hnone, hfree⟩
  · have hholds := List.find?_some hown
    refine ⟨mem_of_find?_eq_some hown, .inl ?_⟩
    cases hcell : cells slot with
    | none =>
      rw [hcell] at hholds
      cases hholds
    | some held =>
      rw [hcell] at hholds
      exact ⟨held.2, by rw [← of_decide_eq_true hholds]⟩
  · have hholds := List.find?_some hfree
    refine ⟨mem_of_find?_eq_some hfree, .inr ⟨fun other rule hcell => ?_, ?_⟩⟩
    · rw [hcell] at hholds
      exact of_decide_eq_true hholds
    · intro other hother rule hcell
      have hnot := List.find?_eq_none.mp hnone other hother
      rw [hcell] at hnot
      exact hnot (decide_eq_true rfl)

/-- The table answers from the history. -/
lemma Agrees.read_eq (hagrees : Agrees probes expires state clock) (hclock : clock ≤ now)
    (key : Key) :
    read probes expires state.cells now key =
      ((state.latest key).map Prod.snd).filter fun rule => now < expires rule := by
  ext rule
  rw [filter_eq_some_iff, map_eq_some_iff, decide_eq_true_eq]
  constructor
  · intro hread
    obtain ⟨slot, _, hslot⟩ := exists_of_findSome?_eq_some hread
    obtain ⟨⟨held, stored⟩, hcell, hheld⟩ := bind_eq_some_iff.mp hslot
    split at hheld
    next hlive =>
      obtain ⟨rfl, hlive⟩ := hlive
      cases hheld
      exact ⟨⟨_, (hagrees.held hcell).2, rfl⟩, hlive⟩
    · cases hheld
  · rintro ⟨⟨⟨slot, _⟩, hlatest, rfl⟩, hlive⟩
    have hcell := (hagrees.latest hlatest).resolve_right
      (Nat.not_le.mpr (Nat.lt_of_le_of_lt hclock hlive))
    cases hread : read probes expires state.cells now key with
    | none =>
      have hnone := List.findSome?_eq_none_iff.mp hread slot (hagrees.held hcell).1
      rw [hcell, bind_some, if_pos ⟨rfl, hlive⟩] at hnone
      cases hnone
    | some found =>
      obtain ⟨other, _, hother⟩ := exists_of_findSome?_eq_some hread
      obtain ⟨⟨held, stored⟩, hstored, hheld⟩ := bind_eq_some_iff.mp hother
      split at hheld
      next hown =>
        obtain ⟨rfl, _⟩ := hown
        cases hheld
        have hboth := (hagrees.held hstored).2.symm.trans hlatest
        rw [congrArg Prod.snd (Option.some.inj hboth)]
      · cases hheld

/-! ## Runs -/

variable [DecidableEq Slot]

def State.put (state : State Slot Key Rule) (slot : Slot) (key : Key) (rule : Rule) :
    State Slot Key Rule where
  cells := Function.update state.cells slot (some (key, rule))
  latest := Function.update state.latest key (some (slot, rule))

def State.clear (state : State Slot Key Rule) (slot : Slot) : State Slot Key Rule where
  cells := Function.update state.cells slot none
  latest key := (state.latest key).filter fun placed => placed.1 ≠ slot

variable (probes expires) in
def step (state : State Slot Key Rule) : Action Slot Key Rule → State Slot Key Rule
  | .place now key rule =>
    match select probes expires state.cells now key with
    | some slot => state.put slot key rule
    | none => state
  | .clear _ slot => state.clear slot

lemma Agrees.put (hagrees : Agrees probes expires state now)
    (hselect : select probes expires state.cells now key = some slot) (rule : Rule) :
    Agrees probes expires (state.put slot key rule) now := by
  obtain ⟨hprobe, hslot⟩ := select_cases hselect
  refine ⟨fun {other held stored} hcell => ?_, fun {held other stored} hlatest => ?_⟩
  · dsimp only [State.put] at hcell ⊢
    rw [update_apply] at hcell
    split at hcell
    next hsame =>
      cases hcell
      exact ⟨hsame ▸ hprobe, by rw [update_self, hsame]⟩
    next hother =>
      refine ⟨(hagrees.held hcell).1, ?_⟩
      rw [update_of_ne, (hagrees.held hcell).2]
      -- The key of another slot is another key.
      rintro rfl
      rcases hslot with ⟨own, hown⟩ | ⟨_, hnone⟩
      · exact hother (hagrees.slot_unique hcell hown)
      · exact hnone other (hagrees.held hcell).1 stored hcell
  · dsimp only [State.put] at hlatest ⊢
    rw [update_apply] at hlatest
    split at hlatest
    next hsame =>
      cases hlatest
      exact .inl (by rw [update_self, hsame])
    next hkey =>
      by_cases hoverwritten : other = slot
      · refine .inr ((hagrees.latest hlatest).elim (fun hcell => ?_) id)
        rw [hoverwritten] at hcell
        rcases hslot with ⟨own, hown⟩ | ⟨hfree, _⟩
        · rw [hcell] at hown
          cases hown
          exact absurd rfl hkey
        · exact hfree held stored hcell
      · rw [update_of_ne hoverwritten]
        exact hagrees.latest hlatest

omit [DecidableEq Key] in
lemma Agrees.clear (hagrees : Agrees probes expires state now) (slot : Slot) :
    Agrees probes expires (state.clear slot) now := by
  refine ⟨fun {other held stored} hcell => ?_, fun {held other stored} hlatest => ?_⟩
  · dsimp only [State.clear] at hcell ⊢
    rw [update_apply] at hcell
    split at hcell
    · cases hcell
    next hother =>
      refine ⟨(hagrees.held hcell).1, ?_⟩
      rw [(hagrees.held hcell).2, filter_some, if_pos (decide_eq_true hother)]
  · dsimp only [State.clear] at hlatest ⊢
    obtain ⟨hlatest, hother⟩ := filter_eq_some_iff.mp hlatest
    rw [update_of_ne (of_decide_eq_true hother)]
    exact hagrees.latest hlatest

lemma Agrees.step (hagrees : Agrees probes expires state clock) {action : Action Slot Key Rule}
    (hclock : clock ≤ action.now) :
    Agrees probes expires (step probes expires state action) action.now := by
  cases action with
  | place now key rule =>
    unfold ProbeTable.step
    dsimp only
    split
    next slot hselect => exact (hagrees.mono hclock).put hselect rule
    · exact hagrees.mono hclock
  | clear now slot => exact (hagrees.mono hclock).clear slot

lemma Agrees.run (hagrees : Agrees probes expires state clock) (hclock : clock ≤ now)
    {actions : List (Action Slot Key Rule)} (hlater : ∀ action ∈ actions, clock ≤ action.now)
    (hordered : Ordered actions now) :
    Agrees probes expires (run (ProbeTable.step probes expires) state actions) now := by
  induction actions generalizing state clock with
  | nil => exact hagrees.mono hclock
  | cons action actions ih =>
    obtain ⟨hsorted, hpast⟩ := hordered
    obtain ⟨hhead, hsorted⟩ := pairwise_cons.mp hsorted
    refine ih (hagrees.step (hlater action mem_cons_self))
      (hpast action mem_cons_self) hhead ⟨hsorted, fun other hother => ?_⟩
    exact hpast other (mem_cons_of_mem action hother)

end Foundation.ProbeTable
