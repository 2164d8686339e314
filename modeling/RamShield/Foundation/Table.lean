import Mathlib.Algebra.BigOperators.Ring.Finset
import Mathlib.Data.Finmap

/-! # Finite tables and the order in which they are enumerated

A hash container is a finite map together with an enumeration of its keys that
depends on a per-process seed. The map half is Mathlib's `Finmap`; the
enumeration is a parameter about which nothing is known except that it lists
every key once.
-/

namespace Foundation

open List Finmap

/-- A finite map from `K` to `V`. -/
abbrev Table (K V : Type) := Finmap fun _ : K => V

namespace Table

variable {K V : Type} [DecidableEq K] (table : Table K V) (key other : K)

lemma lookup_insert_eq (value : V) :
    (table.insert key value).lookup other =
      if other = key then some value else table.lookup other := by
  split
  next heq => rw [heq, lookup_insert]
  next hne => exact lookup_insert_of_ne table hne

lemma lookup_erase_eq :
    (table.erase key).lookup other = if other = key then none else table.lookup other := by
  split
  next heq => rw [heq, lookup_erase]
  next hne => exact lookup_erase_ne hne

lemma keys_insert (key : K) (value : V) :
    (table.insert key value).keys = insert key table.keys := by
  ext other
  simp [Finmap.mem_keys]

variable {table key} {Item : Type}

lemma mem_keys_iff_lookup : key ∈ table.keys ↔ ∃ value, table.lookup key = some value := by
  rw [Finmap.mem_keys, Finmap.mem_iff]

lemma not_mem_keys_iff_lookup : key ∉ table.keys ↔ table.lookup key = none := by
  rw [Finmap.mem_keys, Finmap.lookup_eq_none]

def filter (table : Table K V) (keep : K → V → Bool) : Table K V where
  entries := table.entries.filter fun pair => keep pair.1 pair.2
  nodupKeys := by
    obtain ⟨⟨entries⟩, hnodup⟩ := table
    exact List.NodupKeys.sublist filter_sublist hnodup

lemma lookup_filter (keep : K → V → Bool) (key : K) :
    (table.filter keep).lookup key = (table.lookup key).filter (keep key) := by
  ext value
  rw [Finmap.lookup_eq_some_iff, Option.filter_eq_some_iff, Finmap.lookup_eq_some_iff]
  exact Multiset.mem_filter

def mapValues {W : Type} (table : Table K V) (f : V → W) : Table K W where
  entries := table.entries.map fun pair => ⟨pair.1, f pair.2⟩
  nodupKeys := by
    obtain ⟨⟨entries⟩, hnodup⟩ := table
    have hkeys : (entries.map fun pair => (⟨pair.1, f pair.2⟩ : (_ : K) × W)).keys =
        entries.keys := by
      simp [List.keys]
    change (List.keys _).Nodup
    rw [hkeys]
    exact hnodup

lemma lookup_mapValues {W : Type} (f : V → W) (key : K) :
    (table.mapValues f).lookup key = (table.lookup key).map f := by
  ext value
  rw [Finmap.lookup_eq_some_iff, Option.map_eq_some_iff]
  simp only [Finmap.lookup_eq_some_iff, mapValues, Multiset.mem_map]
  constructor
  · rintro ⟨⟨stored, old⟩, hmem, heq⟩
    cases heq
    exact ⟨old, hmem, rfl⟩
  · rintro ⟨old, hmem, rfl⟩
    exact ⟨⟨key, old⟩, hmem, rfl⟩

lemma lookup_union (left right : Table K V) (key : K) :
    (left ∪ right).lookup key = (left.lookup key).or (right.lookup key) := by
  by_cases hkey : key ∈ left
  · obtain ⟨value, hvalue⟩ := mem_iff.mp hkey
    rw [lookup_union_left hkey, hvalue, Option.some_or]
  · rw [lookup_union_right hkey, lookup_eq_none.mpr hkey, Option.none_or]

/-! ## Totals -/

def total (weight : V → Nat) (table : Table K V) : Nat :=
  ∑ key ∈ table.keys, ((table.lookup key).map weight).getD 0

variable (weight : V → Nat) (test : V → Bool)

@[simp] lemma total_empty : total weight (∅ : Table K V) = 0 := rfl

lemma sum_lookup_congr {weight : V → Nat} {left right : Table K V} {keys : Finset K}
    (hsame : ∀ key ∈ keys, left.lookup key = right.lookup key) :
    ∑ key ∈ keys, ((left.lookup key).map weight).getD 0 =
      ∑ key ∈ keys, ((right.lookup key).map weight).getD 0 := by
  apply Finset.sum_congr rfl
  intro key hkey
  rw [hsame key hkey]

lemma total_insert_of_vacant (hvacant : table.lookup key = none) (value : V) :
    total weight (table.insert key value) = total weight table + weight value := by
  have hkey : key ∉ table.keys := not_mem_keys_iff_lookup.mpr hvacant
  unfold total
  rw [keys_insert, Finset.sum_insert hkey, lookup_insert, Nat.add_comm]
  congr 1
  apply sum_lookup_congr
  intro other hother
  exact lookup_insert_of_ne table fun heq => hkey (heq ▸ hother)

lemma total_erase {value : V} (hvalue : table.lookup key = some value) :
    total weight (table.erase key) + weight value = total weight table := by
  have hkey : key ∈ table.keys := mem_keys_iff_lookup.mpr ⟨value, hvalue⟩
  have hkeys : (table.erase key).keys = table.keys.erase key := by
    ext other
    simp [Finmap.mem_keys]
  unfold total
  rw [hkeys, ← Finset.sum_erase_add _ _ hkey, hvalue]
  congr 1
  apply sum_lookup_congr
  intro other hother
  exact lookup_erase_ne (Finset.ne_of_mem_erase hother)

lemma total_insert_of_lookup {old : V} (hold : table.lookup key = some old) (value : V) :
    total weight (table.insert key value) + weight old = total weight table + weight value := by
  have hagain : table.insert key value = (table.erase key).insert key value := by
    apply ext_lookup
    intro other
    simp only [lookup_insert_eq, lookup_erase_eq]
    split
    · rfl
    · rfl
  rw [hagain, total_insert_of_vacant weight (lookup_erase key table), ← total_erase weight hold]
  omega

lemma total_insert (table : Table K V) (key : K) (value : V) :
    total weight (table.insert key value) + ((table.lookup key).map weight).getD 0 =
      total weight table + weight value := by
  cases hold : table.lookup key with
  | none => exact total_insert_of_vacant weight hold value
  | some old => exact total_insert_of_lookup weight hold value

lemma total_congr {weight other : V → Nat}
    (hsame : ∀ key value, table.lookup key = some value → weight value = other value) :
    total weight table = total other table := by
  apply Finset.sum_congr rfl
  intro key hkey
  obtain ⟨value, hvalue⟩ := mem_keys_iff_lookup.mp hkey
  rw [hvalue, Option.map_some, Option.map_some, hsame key value hvalue]

lemma weight_le_total (table : Table K V) (key : K) :
    ((table.lookup key).map weight).getD 0 ≤ total weight table := by
  cases hvalue : table.lookup key with
  | none => exact Nat.zero_le _
  | some value =>
    have herase := total_erase weight hvalue
    rw [Option.map_some, Option.getD_some]
    omega

lemma total_count :
    total (fun value => (test value).toNat) table =
      (table.keys.filter fun key => (table.lookup key).any test).card := by
  unfold total
  rw [Finset.card_filter]
  apply Finset.sum_congr rfl
  intro key hkey
  obtain ⟨value, hvalue⟩ := mem_keys_iff_lookup.mp hkey
  rw [hvalue]
  cases htest : test value <;> simp [htest]

/-! ## Folds over a table -/

def Overlays (key : K) (step : Table K V → Table K V) : Prop :=
  ∃ effect : Option (Option V), ∀ table, (step table).lookup key = effect.getD (table.lookup key)

lemma overlays_self (key : K) : Overlays key (id : Table K V → Table K V) := ⟨none, fun _ => rfl⟩

lemma overlays_insert (key target : K) (value : V) :
    Overlays key fun table => table.insert target value := by
  refine ⟨if key = target then some (some value) else none, fun table => ?_⟩
  rw [lookup_insert_eq]
  split <;> rfl

lemma overlays_erase (key target : K) :
    Overlays key fun table : Table K V => table.erase target := by
  refine ⟨if key = target then some none else none, fun table => ?_⟩
  rw [lookup_erase_eq]
  split <;> rfl

section Overlay

variable {step : Table K V → Item → Table K V}
  (hstep : ∀ item, Overlays key fun table => step table item) (items : List Item)

include hstep

lemma foldl_overlay : Overlays key fun table => items.foldl step table := by
  induction items with
  | nil => exact overlays_self key
  | cons item items ih =>
    obtain ⟨first, hfirst⟩ := hstep item
    obtain ⟨rest, hrest⟩ := ih
    refine ⟨rest.or first, fun table => (hrest _).trans ?_⟩
    cases rest with
    | none => exact hfirst table
    | some value => rfl

/-- Values that fail the test can be dropped before such a fold. -/
lemma foldl_overlay_filter (keep : V → Bool) {kept : Table K V}
    (hkept : kept.lookup key = (table.lookup key).filter keep) :
    ((items.foldl step kept).lookup key).filter keep =
      ((items.foldl step table).lookup key).filter keep := by
  obtain ⟨effect, heffect⟩ := foldl_overlay hstep items
  dsimp only at heffect
  rw [heffect, heffect, hkept]
  cases effect with
  | some value => rfl
  | none => simp only [Option.getD_none, Option.filter_filter, Bool.and_self]

end Overlay

end Table

/-! ## Folds that act on one slot per item -/

section Acts

variable {State Item K W : Type} [DecidableEq K] {step : State → Item → State}
  (slot : State → K → W) {keyOf : Item → K} (act : Item → W → W) {items : List Item}

lemma foldl_acts (invariant : State → Prop)
    (hinvariant : ∀ state item, invariant state → invariant (step state item))
    (hstep : ∀ item ∈ items, ∀ state key, invariant state → slot (step state item) key =
      if key = keyOf item then act item (slot state key) else slot state key)
    (key : K) {state : State} (hstate : invariant state) :
    slot (items.foldl step state) key =
      (items.filter (keyOf · = key)).foldl (fun held item => act item held) (slot state key) := by
  induction items generalizing state with
  | nil => rfl
  | cons item items ih =>
    have hrest := fun other hmem => hstep other (mem_cons_of_mem item hmem)
    rw [foldl_cons, ih hrest (hinvariant state item hstate),
      hstep item mem_cons_self state key hstate, filter_cons]
    by_cases hkey : keyOf item = key
    · simp [hkey]
    · simp [hkey, Ne.symm hkey]

variable (hstep : ∀ item ∈ items, ∀ state key, slot (step state item) key =
    if key = keyOf item then act item (slot state key) else slot state key)

include hstep

lemma foldl_acts_of_absent {key : K} (habsent : ∀ item ∈ items, keyOf item ≠ key)
    (state : State) : slot (items.foldl step state) key = slot state key := by
  rw [foldl_acts slot act (fun _ => True) (fun _ _ _ => trivial) (fun item hmem state key _ =>
    hstep item hmem state key) key trivial, filter_eq_nil_iff.mpr (by simpa using habsent)]
  rfl

lemma foldl_acts_of_mem (hnodup : (items.map keyOf).Nodup) {item : Item} (hitem : item ∈ items)
    (state : State) :
    slot (items.foldl step state) (keyOf item) = act item (slot state (keyOf item)) := by
  induction items generalizing state with
  | nil => cases hitem
  | cons head items ih =>
    rw [map_cons, nodup_cons] at hnodup
    have hrest := fun other hmem => hstep other (mem_cons_of_mem head hmem)
    rw [foldl_cons]
    rcases mem_cons.mp hitem with rfl | hlater
    · have habsent : ∀ other ∈ items, keyOf other ≠ keyOf item := fun other hmem heq =>
        hnodup.1 (heq ▸ mem_map.mpr ⟨other, hmem, rfl⟩)
      rw [foldl_acts_of_absent slot act hrest habsent, hstep item mem_cons_self, if_pos rfl]
    · have hother : keyOf item ≠ keyOf head := fun heq =>
        hnodup.1 (heq ▸ mem_map.mpr ⟨item, hlater, rfl⟩)
      rw [ih hrest hnodup.2 hlater, hstep head mem_cons_self, if_neg hother]

end Acts

lemma Table.lookup_foldl_insert {K V Item : Type} [DecidableEq K] {table : Table K V} {key : K}
    {keyOf : Item → K} {valueOf : Item → V} {items : List Item}
    (hnodup : (items.map keyOf).Nodup) (habsent : table.lookup key = none) {value : V} :
    (items.foldl (fun rest item => rest.insert (keyOf item) (valueOf item)) table).lookup key =
        some value ↔ ∃ item ∈ items, keyOf item = key ∧ valueOf item = value := by
  let slot (table : Table K V) (key : K) := table.lookup key
  let write (item : Item) (_ : Option V) := some (valueOf item)
  have hstep (item : Item) (_ : item ∈ items) (table : Table K V) (key : K) :=
    table.lookup_insert_eq (keyOf item) key (valueOf item)
  by_cases hown : ∃ item ∈ items, keyOf item = key
  · obtain ⟨item, hmem, rfl⟩ := hown
    refine (Eq.congr_left (foldl_acts_of_mem slot write hstep hnodup hmem table)).trans ?_
    rw [Option.some.injEq]
    constructor
    · intro heq
      exact ⟨item, hmem, rfl, heq⟩
    · rintro ⟨other, hother, hkey, heq⟩
      rwa [inj_on_of_nodup_map hnodup hother hmem hkey] at heq
  · refine iff_of_false (fun hsome => ?_) fun ⟨item, hmem, hkey, _⟩ => hown ⟨item, hmem, hkey⟩
    have hsame := foldl_acts_of_absent slot write hstep (fun item hmem hkey =>
      hown ⟨item, hmem, hkey⟩) table
    cases habsent.symm.trans (hsame.symm.trans hsome)

lemma foldl_slots {State K V W : Type} [DecidableEq K] {step : State → K × V → State}
    (slot : State → K → Option W) (write : V → Option W) (invariant : State → Prop)
    {pairs : List (K × V)} {key : K} {state : State}
    (hinvariant : ∀ state pair, invariant state → invariant (step state pair))
    (hstep : ∀ state pair key, invariant state → slot (step state pair) key =
      if key = pair.1 then (write pair.2).or (slot state key) else slot state key)
    {described : K → Option V}
    (hpairs : ∀ value, (key, value) ∈ pairs ↔ described key = some value)
    (hstate : invariant state) :
    slot (pairs.foldl step state) key = ((described key).bind write).or (slot state key) := by
  rw [foldl_acts slot (fun pair => ((write pair.2).or ·)) invariant hinvariant
    (fun pair _ state key => hstep state pair key) key hstate]
  have hown : ∀ pair ∈ pairs.filter (·.1 = key), described key = some pair.2 := by
    rintro ⟨other, value⟩ hpair
    obtain ⟨hmem, hkey⟩ := mem_filter.mp hpair
    exact (hpairs value).mp (of_decide_eq_true hkey ▸ hmem)
  have hnonempty (value : V) (hdescribed : described key = some value) :
      pairs.filter (·.1 = key) ≠ [] := ne_nil_of_mem
    (mem_filter.mpr ⟨(hpairs value).mpr hdescribed, decide_eq_true rfl⟩)
  cases hpairs : pairs.filter (·.1 = key) with
  | nil =>
    cases hdescribed : described key with
    | none => rfl
    | some value => exact absurd hpairs (hnonempty value hdescribed)
  | cons first rest =>
    rw [hpairs] at hown
    rw [hown first mem_cons_self, foldl_cons]
    refine List.foldlRecOn (motive := (· = (write first.2).or (slot state key))) rest _ rfl
      fun held hheld pair hpair => ?_
    have hsame := (hown pair (mem_cons_of_mem _ hpair)).symm.trans (hown first mem_cons_self)
    rw [hheld, Option.some.inj hsame]
    cases write first.2 <;> rfl

/-- An enumeration of a hash container: every key once, in some order. -/
structure IterOrder (K : Type) where
  enum : Finset K → List K
  nodup_enum (keys : Finset K) : (enum keys).Nodup
  mem_enum {keys : Finset K} {key : K} : key ∈ enum keys ↔ key ∈ keys

namespace IterOrder

lemma length_enum {K : Type} (order : IterOrder K) (keys : Finset K) :
    (order.enum keys).length = keys.card := by
  classical
  have hset : (order.enum keys).toFinset = keys := by
    ext key
    rw [mem_toFinset, order.mem_enum]
  rw [← toFinset_card_of_nodup (order.nodup_enum keys), hset]

def leading {K : Type} [DecidableEq K] (order : IterOrder K) (key : K) : IterOrder K where
  enum keys := if key ∈ keys then key :: order.enum (keys.erase key) else order.enum keys
  nodup_enum keys := by
    split
    · refine nodup_cons.mpr ⟨fun hmem => ?_, order.nodup_enum _⟩
      exact Finset.notMem_erase key keys (order.mem_enum.mp hmem)
    · exact order.nodup_enum keys
  mem_enum {keys other} := by
    split
    next hkey =>
      rw [mem_cons, order.mem_enum, Finset.mem_erase]
      by_cases hother : other = key
      · simp [hother, hkey]
      · simp [hother]
    · exact order.mem_enum

/-- Enumerate by increasing code. Concrete runs use this order; no theorem depends on it. -/
def ofCode {K : Type} (code : K → Nat) (hcode : Function.Injective code) : IterOrder K where
  enum keys := Quot.liftOn keys.val
    (List.insertionSort fun left right => code left ≤ code right) (by
      intro left right hperm
      have htotal : Std.Total fun a b : K => code a ≤ code b :=
        ⟨fun a b => Nat.le_total (code a) (code b)⟩
      have htrans : IsTrans K fun a b => code a ≤ code b := ⟨fun _ _ _ => Nat.le_trans⟩
      refine List.Perm.eq_of_pairwise
        (fun a b _ _ hab hba => hcode (Nat.le_antisymm hab hba))
        (pairwise_insertionSort _ _) (pairwise_insertionSort _ _) ?_
      exact (perm_insertionSort _ _).trans (hperm.trans (perm_insertionSort _ _).symm))
  nodup_enum := by
    rintro ⟨⟨keys⟩, hnodup⟩
    exact (perm_insertionSort _ keys).nodup_iff.mpr hnodup
  mem_enum := by
    rintro ⟨⟨keys⟩, hnodup⟩ key
    exact (perm_insertionSort _ keys).mem_iff

end IterOrder

end Foundation
