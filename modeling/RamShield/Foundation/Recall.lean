import RamShield.Foundation.Table

/-! # A bounded memory of answers

A service that must give the same answer twice keeps its last answers in a table,
beside a queue that says which key to forget next. What the two implement is a list:
the answers in the order in which they were first given, of which the last few count.
-/

namespace Foundation.Recall

open List Table

variable {K V : Type}

def window (capacity : Nat) (memory : List V) : List V := memory.drop (memory.length - capacity)

lemma length_window (capacity : Nat) (memory : List V) :
    (window capacity memory).length = min memory.length capacity := by
  rw [window, length_drop]
  omega

variable {capacity : Nat} {memory : List V}

lemma window_of_room (hroom : (window capacity memory).length < capacity) :
    window capacity memory = memory := by
  rw [length_window] at hroom
  have hnone : memory.length - capacity = 0 := by omega
  rw [window, hnone, drop_zero]

lemma window_snoc_of_room (hroom : (window capacity memory).length < capacity) (value : V) :
    window capacity (memory ++ [value]) = window capacity memory ++ [value] := by
  rw [window_of_room hroom]
  rw [length_window] at hroom
  have hnone : (memory ++ [value]).length - capacity = 0 := by
    rw [length_append, length_singleton]
    omega
  rw [window, hnone, drop_zero]

lemma window_snoc_of_full {oldest : V} {newer : List V}
    (hwindow : window capacity memory = oldest :: newer) (hfull : capacity ≤ newer.length + 1)
    (value : V) : window capacity (memory ++ [value]) = newer ++ [value] := by
  have hlength := length_window capacity memory
  rw [hwindow, length_cons] at hlength
  have hdrop : (memory ++ [value]).length - capacity = memory.length - capacity + 1 := by
    rw [length_append, length_singleton]
    omega
  rw [window, hdrop, drop_append_of_le_length (by omega), ← drop_drop]
  change (window capacity memory).drop 1 ++ [value] = _
  rw [hwindow, drop_succ_cons, drop_zero]

variable [DecidableEq K]

def remember (capacity : Nat) (key : V → K) (memory : List V) (answer : V) : List V :=
  if key answer ∈ (window capacity memory).map key then memory else memory ++ [answer]

def recollect (capacity : Nat) (key : V → K) (answers : List V) : List V :=
  answers.foldl (remember capacity key) []

lemma recollect_snoc (capacity : Nat) (key : V → K) (answers : List V) (answer : V) :
    recollect capacity key (answers ++ [answer]) =
      remember capacity key (recollect capacity key answers) answer := by
  rw [recollect, foldl_append]
  rfl

/-- The queue and the table hold the last entries of the memory. -/
structure Holds (capacity : Nat) (key : V → K) (order : List K) (table : Table K V)
    (memory : List V) : Prop where
  order_eq : order = (window capacity memory).map key
  nodup : order.Nodup
  lookup_iff {id : K} {value : V} :
    table.lookup id = some value ↔ value ∈ window capacity memory ∧ key value = id

namespace Holds

variable {key : V → K} {order : List K} {table : Table K V}

lemma empty (capacity : Nat) (key : V → K) : Holds capacity key [] ∅ [] where
  order_eq := by simp [window]
  nodup := nodup_nil
  lookup_iff := by simp [window]

lemma length_le (hholds : Holds capacity key order table memory) : order.length ≤ capacity := by
  rw [hholds.order_eq, length_map, length_window]
  exact Nat.min_le_right _ _

lemma mem_order_iff (hholds : Holds capacity key order table memory) {id : K} :
    id ∈ order ↔ id ∈ table.keys := by
  rw [hholds.order_eq, mem_map, mem_keys_iff_lookup]
  exact exists_congr fun value => hholds.lookup_iff.symm

variable {answer : V}

section

variable (hholds : Holds capacity key order table memory)

include hholds

lemma remember_eq_of_fresh (hfresh : table.lookup (key answer) = none) :
    remember capacity key memory answer = memory ++ [answer] := by
  rw [remember, if_neg]
  rw [← hholds.order_eq, hholds.mem_order_iff]
  exact not_mem_keys_iff_lookup.mpr hfresh

lemma remember_eq_of_held (hheld : table.lookup (key answer) = some answer) :
    remember capacity key memory answer = memory := by
  rw [remember, if_pos]
  exact mem_map_of_mem (hholds.lookup_iff.mp hheld).1

lemma lookup_insert_iff (hfresh : table.lookup (key answer) = none) {id : K} {value : V} :
    (table.insert (key answer) answer).lookup id = some value ↔
      (value ∈ window capacity memory ∨ value = answer) ∧ key value = id := by
  rw [lookup_insert_eq]
  split
  next heq =>
    subst heq
    rw [Option.some.injEq]
    constructor
    · rintro rfl
      exact ⟨.inr rfl, rfl⟩
    · rintro ⟨hmem | rfl, hkey⟩
      · cases hfresh.symm.trans (hholds.lookup_iff.mpr ⟨hmem, hkey⟩)
      · rfl
  next hne =>
    rw [hholds.lookup_iff]
    constructor
    · rintro ⟨hmem, hkey⟩
      exact ⟨.inl hmem, hkey⟩
    · rintro ⟨hmem | rfl, hkey⟩
      · exact ⟨hmem, hkey⟩
      · exact absurd hkey.symm hne

lemma push_room (hfresh : table.lookup (key answer) = none) (hroom : order.length < capacity) :
    Holds capacity key (order ++ [key answer]) (table.insert (key answer) answer)
      (memory ++ [answer]) := by
  have hwindow : window capacity (memory ++ [answer]) = window capacity memory ++ [answer] := by
    apply window_snoc_of_room
    rwa [hholds.order_eq, length_map] at hroom
  constructor
  · rw [hwindow, map_append, ← hholds.order_eq]
    rfl
  · refine List.Nodup.append hholds.nodup (nodup_singleton _) ?_
    rw [disjoint_singleton, hholds.mem_order_iff]
    exact not_mem_keys_iff_lookup.mpr hfresh
  · intro id value
    rw [hwindow, mem_append, mem_singleton]
    exact hholds.lookup_insert_iff hfresh

end

lemma push_full {oldest : K} {newer : List K}
    (hholds : Holds capacity key (oldest :: newer) table memory)
    (hfresh : table.lookup (key answer) = none) (hfull : capacity ≤ newer.length + 1) :
    Holds capacity key (newer ++ [key answer])
      ((table.insert (key answer) answer).erase oldest) (memory ++ [answer]) := by
  obtain ⟨oldestValue, newerValues, hbefore, holdest, hnewer⟩ :
      ∃ value values, window capacity memory = value :: values ∧ oldest = key value ∧
        newer = values.map key := by
    have heq := hholds.order_eq
    cases hwindow : window capacity memory with
    | nil => simp [hwindow] at heq
    | cons value values =>
      rw [hwindow, map_cons, List.cons.injEq] at heq
      exact ⟨value, values, rfl, heq.1, heq.2⟩
  have hwindow : window capacity (memory ++ [answer]) = newerValues ++ [answer] := by
    apply window_snoc_of_full hbefore
    rwa [hnewer, length_map] at hfull
  have hnodup := nodup_cons.mp hholds.nodup
  have holdestHeld : oldest ∈ table.keys := hholds.mem_order_iff.mp mem_cons_self
  constructor
  · rw [hwindow, map_append, ← hnewer]
    rfl
  · refine List.Nodup.append hnodup.2 (nodup_singleton _) ?_
    rw [disjoint_singleton]
    intro hmem
    have hheld := hholds.mem_order_iff.mp (mem_cons_of_mem _ hmem)
    exact not_mem_keys_iff_lookup.mpr hfresh hheld
  · intro id value
    rw [hwindow, mem_append, mem_singleton, lookup_erase_eq]
    -- The evicted key is that of no newer answer, since the keys in order are distinct.
    have hother : id = oldest → value ∈ newerValues → key value ≠ id := by
      intro hid hmem heq
      apply hnodup.1
      rw [← hid, hnewer, ← heq]
      exact mem_map_of_mem hmem
    split
    next hid =>
      refine ⟨nofun, ?_⟩
      rintro ⟨hmem | rfl, hkey⟩
      · exact absurd hkey (hother hid hmem)
      · rw [hid] at hkey
        exact absurd (hkey ▸ holdestHeld) (not_mem_keys_iff_lookup.mpr hfresh)
    next hid =>
      rw [hholds.lookup_insert_iff hfresh, hbefore, mem_cons]
      refine and_congr_left fun hkey => or_congr_left (or_iff_right ?_)
      rintro rfl
      exact hid (hkey.symm.trans holdest.symm)

end Holds

end Foundation.Recall
