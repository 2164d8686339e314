import Mathlib.Data.Finsupp.Weight
import RamShield.Foundation.Table

/-! # Tallies

A container of keyed values with weights has a tally: the weight under every key. Moving
values between containers leaves the sum of their tallies alone, so an equation between
tallies says at once that nothing is lost under any key and in total.
-/

namespace Foundation

open List

variable {K V : Type}

/-! ## Lists -/

noncomputable def tally (weight : V → Nat) (items : List (K × V)) : K →₀ Nat :=
  (items.map fun item => Finsupp.single item.1 (weight item.2)).sum

variable (weight : V → Nat)

@[simp] lemma tally_nil : tally weight ([] : List (K × V)) = 0 := rfl

lemma tally_cons (item : K × V) (items : List (K × V)) :
    tally weight (item :: items) = Finsupp.single item.1 (weight item.2) + tally weight items := by
  rw [tally, map_cons, sum_cons, tally]

lemma tally_append (first second : List (K × V)) :
    tally weight (first ++ second) = tally weight first + tally weight second := by
  rw [tally, map_append, sum_append, tally, tally]

lemma tally_apply [DecidableEq K] (items : List (K × V)) (key : K) :
    tally weight items key =
      ((items.filter fun item => decide (item.1 = key)).map fun item => weight item.2).sum := by
  induction items with
  | nil => rfl
  | cons item items ih =>
    rw [tally_cons, Finsupp.add_apply, ih, Finsupp.single_apply, filter_cons]
    by_cases hkey : item.1 = key
    · simp [hkey]
    · simp [hkey]

lemma degree_tally (items : List (K × V)) :
    (tally weight items).degree = (items.map fun item => weight item.2).sum := by
  induction items with
  | nil => exact map_zero Finsupp.degree
  | cons item items ih => rw [tally_cons, map_add, ih, Finsupp.degree_single, map_cons, sum_cons]

/-! ## Tables -/

namespace Table

variable [DecidableEq K]

def pairs (order : IterOrder K) (table : Table K V) : List (K × V) :=
  (order.enum table.keys).filterMap fun key => (table.lookup key).map (Prod.mk key)

noncomputable def tally (weight : V → Nat) (table : Table K V) : K →₀ Nat :=
  ∑ key ∈ table.keys, Finsupp.single key (((table.lookup key).map weight).getD 0)

variable (table : Table K V) (order : IterOrder K)

@[simp] lemma tally_empty : tally weight (∅ : Table K V) = 0 := rfl

lemma tally_apply (key : K) : tally weight table key = ((table.lookup key).map weight).getD 0 := by
  simp only [tally, Finsupp.finsetSum_apply, Finsupp.single_apply, Finset.sum_ite_eq']
  split
  · rfl
  next hmissing => rw [not_mem_keys_iff_lookup.mp hmissing, Option.map_none, Option.getD_none]

lemma degree_tally : (tally weight table).degree = total weight table := by
  rw [tally, map_sum]
  exact Finset.sum_congr rfl fun key _ => Finsupp.degree_single _ _

lemma tally_insert {weight : V → Nat} {table : Table K V} {key : K} {value : V} {extra : Nat}
    (hweight : weight value = ((table.lookup key).map weight).getD 0 + extra) :
    tally weight (table.insert key value) = tally weight table + Finsupp.single key extra := by
  ext other
  simp only [Finsupp.add_apply, tally_apply, lookup_insert_eq, Finsupp.single_apply]
  by_cases hother : other = key
  · subst hother
    simp [hweight]
  · simp [hother, Ne.symm hother]

lemma tally_erase {table : Table K V} {key : K} {value : V}
    (hvalue : table.lookup key = some value) :
    tally weight (table.erase key) + Finsupp.single key (weight value) = tally weight table := by
  ext other
  simp only [Finsupp.add_apply, tally_apply, lookup_erase_eq, Finsupp.single_apply]
  by_cases hother : other = key
  · subst hother
    simp [hvalue]
  · simp [hother, Ne.symm hother]

lemma tally_pairs : Foundation.tally weight (table.pairs order) = tally weight table := by
  have hpresent : ∀ key ∈ order.enum table.keys,
      ((table.lookup key).map (Prod.mk key)).map
          (fun item => Finsupp.single item.1 (weight item.2)) =
        some (Finsupp.single key (((table.lookup key).map weight).getD 0)) := by
    intro key hkey
    obtain ⟨value, hvalue⟩ := mem_keys_iff_lookup.mp (order.mem_enum.mp hkey)
    rw [hvalue]
    rfl
  have hkeys : (order.enum table.keys).toFinset = table.keys := by
    ext key
    rw [mem_toFinset, order.mem_enum]
  rw [Foundation.tally, pairs, map_filterMap, filterMap_congr hpresent,
    filterMap_eq_map', ← sum_toFinset _ (order.nodup_enum table.keys), hkeys, tally]

end Table

/-! ## Families -/

section Family

variable {I A M : Type} [Fintype I] [DecidableEq I] [AddCommMonoid M]

lemma sum_update (measure : A → M) (family : I → A) (index : I) (value : A) :
    ∑ other, measure (Function.update family index value other) + measure (family index) =
      ∑ other, measure (family other) + measure value := by
  have hupdate : (fun other => measure (Function.update family index value other)) =
      Function.update (fun other => measure (family other)) index (measure value) := by
    funext other
    exact Function.apply_update (fun _ => measure) family index value other
  rw [hupdate, Finset.sum_update_of_mem (Finset.mem_univ index), ← Finset.sum_sdiff
    (Finset.subset_univ {index}), Finset.sum_singleton, add_assoc, add_comm]

lemma sum_update_of_add [IsCancelAdd M] {measure : A → M} {family : I → A} {index : I}
    {value : A} {extra : M} (hvalue : measure value = measure (family index) + extra) :
    ∑ other, measure (Function.update family index value other) =
      ∑ other, measure (family other) + extra := by
  apply add_right_cancel (b := measure (family index))
  rw [sum_update, hvalue, add_right_comm, add_assoc]

end Family

end Foundation
