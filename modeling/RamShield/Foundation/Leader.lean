import Mathlib.Tactic.Common

/-! # The leader of a list

A loop that keeps the best value seen so far, and replaces it only by a strictly better
one, ends with the first value of the highest score.
-/

namespace Foundation

open List

variable {V : Type} (score : V → Nat)

def challenge (leading : Option V) (challenger : V) : Option V :=
  match leading with
  | none => some challenger
  | some best => if score best < score challenger then some challenger else some best

def leader (values : List V) : Option V := values.foldl (challenge score) none

variable {score}
variable {values : List V}

/-- A leader that nobody beats stays. -/
lemma foldl_challenge_of_le {best : V} (hbest : ∀ value ∈ values, score value ≤ score best) :
    values.foldl (challenge score) (some best) = some best := by
  induction values with
  | nil => rfl
  | cons value values ih =>
    have hkept : challenge score (some best) value = some best :=
      if_neg (Nat.not_lt.mpr (hbest value mem_cons_self))
    rw [foldl_cons, hkept]
    exact ih fun other hmem => hbest other (mem_cons_of_mem _ hmem)

lemma foldl_challenge_some (best : V) (values : List V) :
    ∃ final, values.foldl (challenge score) (some best) = some final ∧
      (final = best ∨ final ∈ values) ∧ score best ≤ score final ∧
      ∀ value ∈ values, score value ≤ score final := by
  induction values generalizing best with
  | nil => exact ⟨best, rfl, .inl rfl, Nat.le_refl _, nofun⟩
  | cons value values ih =>
    rw [foldl_cons, challenge]
    split
    next hbeaten =>
      obtain ⟨final, hfinal, hfrom, hle, hall⟩ := ih value
      refine ⟨final, hfinal, .inr ?_, Nat.le_trans (Nat.le_of_lt hbeaten) hle, ?_⟩
      · rcases hfrom with rfl | hmem
        · exact mem_cons_self
        · exact mem_cons_of_mem _ hmem
      · exact forall_mem_cons.mpr ⟨hle, hall⟩
    next hkept =>
      obtain ⟨final, hfinal, hfrom, hle, hall⟩ := ih best
      refine ⟨final, hfinal, hfrom.imp_right (mem_cons_of_mem _), hle, ?_⟩
      exact forall_mem_cons.mpr ⟨Nat.le_trans (Nat.le_of_not_lt hkept) hle, hall⟩

lemma leader_eq_none_iff : leader score values = none ↔ values = [] := by
  cases values with
  | nil => exact ⟨fun _ => rfl, fun _ => rfl⟩
  | cons value values =>
    obtain ⟨final, hfinal, _⟩ := @foldl_challenge_some _ score value values
    have hleader : leader score (value :: values) = some final := hfinal
    simp [hleader]

lemma leader_spec {final : V} (hleader : leader score values = some final) :
    final ∈ values ∧ ∀ value ∈ values, score value ≤ score final := by
  cases values with
  | nil => cases hleader
  | cons value values =>
    obtain ⟨last, hlast, hfrom, hle, hall⟩ := @foldl_challenge_some _ score value values
    cases hlast.symm.trans hleader
    exact ⟨mem_cons.mpr hfrom, forall_mem_cons.mpr ⟨hle, hall⟩⟩

end Foundation
