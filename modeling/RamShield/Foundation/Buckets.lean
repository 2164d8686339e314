import RamShield.Foundation.Table

/-! # Buckets of members

A reverse index: under each key the set of members that have it. A bucket appears with its
first member and goes with its last. The number of keys is capped; a member whose key would
be one too many is not listed.
-/

namespace Foundation

open Table Finset

abbrev Buckets (K M : Type) := Table K (Finset M)

namespace Buckets

variable {K M : Type} [DecidableEq K]

def Lists (buckets : Buckets K M) (key : K) (member : M) : Prop :=
  ∃ members, buckets.lookup key = some members ∧ member ∈ members

structure Tidy (cap : Nat) (buckets : Buckets K M) : Prop where
  nonempty {key : K} {members : Finset M} (hbucket : buckets.lookup key = some members) :
    members.Nonempty
  card : buckets.keys.card ≤ cap

lemma tidy_empty (cap : Nat) : Tidy cap (∅ : Buckets K M) where
  nonempty hbucket := by
    rw [Finmap.lookup_empty] at hbucket
    cases hbucket
  card := Nat.zero_le cap

variable {buckets : Buckets K M} {key other : K} {member listed : M} {cap : Nat}

lemma lists_insert_iff {members : Finset M} :
    Lists (buckets.insert key members) other member ↔
      if other = key then member ∈ members else Lists buckets other member := by
  unfold Lists
  rw [lookup_insert_eq]
  split
  · simp
  · rfl

lemma Tidy.insert {cap : Nat} {buckets : Buckets K M} (htidy : buckets.Tidy cap) {key : K}
    (hroom : key ∈ buckets.keys ∨ buckets.keys.card < cap) {members : Finset M}
    (hmembers : members.Nonempty) : Tidy cap (buckets.insert key members) where
  nonempty := by
    intro other bucket hbucket
    rw [lookup_insert_eq] at hbucket
    split at hbucket
    · cases hbucket
      exact hmembers
    · exact htidy.nonempty hbucket
  card := by
    rw [keys_insert]
    rcases hroom with hkey | hroom
    · rw [insert_eq_of_mem hkey]
      exact htidy.card
    · exact (card_insert_le _ _).trans hroom

variable [DecidableEq M]

def add (cap : Nat) (buckets : Buckets K M) (key : K) (member : M) : Buckets K M :=
  match buckets.lookup key with
  | some members => buckets.insert key (insert member members)
  | none => if cap ≤ buckets.keys.card then buckets else buckets.insert key {member}

def remove (buckets : Buckets K M) (key : K) (member : M) : Buckets K M :=
  match buckets.lookup key with
  | some members =>
    if members.erase member = ∅ then buckets.erase key
    else buckets.insert key (members.erase member)
  | none => buckets

/-! ## Adding -/

lemma lists_of_lists_add (hlists : Lists (buckets.add cap key member) other listed) :
    Lists buckets other listed ∨ other = key ∧ listed = member := by
  unfold add at hlists
  split at hlists
  next members hmembers =>
    rw [lists_insert_iff] at hlists
    split at hlists
    next hkey =>
      rcases mem_insert.mp hlists with hsame | hold
      · exact .inr ⟨hkey, hsame⟩
      · exact .inl ⟨members, hkey ▸ hmembers, hold⟩
    · exact .inl hlists
  · split at hlists
    · exact .inl hlists
    rw [lists_insert_iff] at hlists
    split at hlists
    next hkey => exact .inr ⟨hkey, mem_singleton.mp hlists⟩
    · exact .inl hlists

lemma Lists.add (hlists : Lists buckets other listed) (cap : Nat) (key : K) (member : M) :
    Lists (buckets.add cap key member) other listed := by
  obtain ⟨bucket, hbucket, hmem⟩ := hlists
  unfold Buckets.add
  split
  next members hmembers =>
    rw [lists_insert_iff]
    split
    next hkey =>
      rw [hkey, hmembers] at hbucket
      cases hbucket
      exact mem_insert_of_mem hmem
    · exact ⟨bucket, hbucket, hmem⟩
  next hvacant =>
    split
    · exact ⟨bucket, hbucket, hmem⟩
    rw [lists_insert_iff, if_neg]
    · exact ⟨bucket, hbucket, hmem⟩
    · intro hkey
      rw [hkey, hvacant] at hbucket
      cases hbucket

lemma lists_add_self (hroom : buckets.keys.card < cap) (key : K) (member : M) :
    Lists (buckets.add cap key member) key member := by
  unfold Buckets.add
  split
  next members hmembers =>
    rw [lists_insert_iff, if_pos rfl]
    exact mem_insert_self member members
  · rw [if_neg (Nat.not_le.mpr hroom), lists_insert_iff, if_pos rfl]
    exact mem_singleton_self member

lemma Tidy.add (htidy : buckets.Tidy cap) (key : K) (member : M) :
    Tidy cap (buckets.add cap key member) := by
  unfold Buckets.add
  split
  next members hmembers =>
    exact htidy.insert (.inl (mem_keys_iff_lookup.mpr ⟨members, hmembers⟩))
      (insert_nonempty member members)
  · split
    · exact htidy
    next hroom => exact htidy.insert (.inr (Nat.not_le.mp hroom)) (singleton_nonempty member)

/-! ## Removing -/

lemma lists_remove_iff :
    Lists (buckets.remove key member) other listed ↔
      Lists buckets other listed ∧ ¬(other = key ∧ listed = member) := by
  by_cases hkey : other = key
  · subst hkey
    unfold remove Lists
    cases hbucket : buckets.lookup other with
    | none => simp [hbucket]
    | some members =>
      dsimp only
      split
      next hempty =>
        have hgone : listed ∉ members.erase member := hempty ▸ notMem_empty listed
        constructor
        · rintro ⟨bucket, hbucket, _⟩
          rw [Finmap.lookup_erase] at hbucket
          cases hbucket
        · rintro ⟨⟨bucket, hsame, hmem⟩, hother⟩
          cases hsame
          exact absurd (mem_erase.mpr ⟨fun heq => hother ⟨rfl, heq⟩, hmem⟩) hgone
      · simp [mem_erase, and_comm]
  · have hframe : (buckets.remove key member).lookup other = buckets.lookup other := by
      unfold remove
      split
      · split
        · rw [lookup_erase_eq, if_neg hkey]
        · rw [lookup_insert_eq, if_neg hkey]
      · rfl
    unfold Lists
    rw [hframe]
    simp [hkey]

lemma Tidy.remove (htidy : buckets.Tidy cap) (key : K) (member : M) :
    Tidy cap (buckets.remove key member) := by
  unfold Buckets.remove
  split
  next members hmembers =>
    split
    · refine ⟨fun {other bucket} hbucket => ?_, ?_⟩
      · rw [lookup_erase_eq] at hbucket
        split at hbucket
        · cases hbucket
        · exact htidy.nonempty hbucket
      · refine (card_le_card fun other hother => ?_).trans htidy.card
        rw [Finmap.mem_keys, Finmap.mem_erase] at hother
        exact Finmap.mem_keys.mpr hother.2
    next hrest =>
      exact htidy.insert (.inl (mem_keys_iff_lookup.mpr ⟨members, hmembers⟩))
        (nonempty_iff_ne_empty.mpr hrest)
  · exact htidy

end Buckets

end Foundation
