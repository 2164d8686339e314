import Mathlib.Data.List.Infix

/-! # Delimited text

The first occurrence of a delimiter in a text.
-/

namespace Foundation

open List

section Position

variable {Symbol : Type}

/-- A delimiter behind the text is its first occurrence: none begins inside the text. -/
def FirstAfter (delimiter : List Symbol) : List Symbol → Prop
  | [] => True
  | symbol :: text => ¬ delimiter <+: symbol :: text ++ delimiter ∧ FirstAfter delimiter text

variable {delimiter : List Symbol}
variable {before after text : List Symbol} {symbol : Symbol}

lemma FirstAfter.append_left {rest : List Symbol} (hfirst : FirstAfter (symbol :: rest) after)
    (hnot : symbol ∉ before) : FirstAfter (symbol :: rest) (before ++ after) := by
  induction before with
  | nil => exact hfirst
  | cons head before ih =>
    rw [mem_cons, not_or] at hnot
    refine ⟨?_, ih hnot.2⟩
    intro hbegins
    exact hnot.1 (cons_prefix_cons.mp hbegins).1

lemma firstAfter_of_not_mem {symbol : Symbol} {rest text : List Symbol} (hnot : symbol ∉ text) :
    FirstAfter (symbol :: rest) text := by
  have hempty : FirstAfter (symbol :: rest) [] := trivial
  simpa using hempty.append_left hnot

private lemma begins_inside {before after : List Symbol} :
    delimiter <+: before ++ delimiter ++ after ↔ delimiter <+: before ++ delimiter := by
  constructor
  · intro hbegins
    refine prefix_of_prefix_length_le hbegins (prefix_append _ _) ?_
    rw [length_append]
    exact Nat.le_add_left _ _
  · intro hbegins
    exact hbegins.trans (prefix_append _ _)

variable [DecidableEq Symbol]

def position (delimiter : List Symbol) : List Symbol → Option Nat
  | [] => if delimiter = [] then some 0 else none
  | symbol :: text =>
    if delimiter <+: symbol :: text then some 0
    else (position delimiter text).map (· + 1)

lemma position_append (hfirst : FirstAfter delimiter before) (after : List Symbol) :
    position delimiter (before ++ delimiter ++ after) = some before.length := by
  induction before with
  | nil =>
    rw [nil_append]
    cases hdelimiter : delimiter ++ after with
    | nil =>
      rw [position, if_pos (append_eq_nil_iff.mp hdelimiter).1]
      rfl
    | cons symbol text =>
      rw [position, if_pos (hdelimiter ▸ prefix_append _ _)]
      rfl
  | cons symbol before ih =>
    have hinside : ¬ delimiter <+: symbol :: (before ++ delimiter ++ after) := by
      intro hbegins
      exact hfirst.1 (@begins_inside _ _ (symbol :: before) after |>.mp hbegins)
    rw [cons_append, cons_append, position, if_neg hinside, ih hfirst.2]
    rfl

lemma FirstAfter.unique {before' after' : List Symbol} (hfirst : FirstAfter delimiter before)
    (hfirst' : FirstAfter delimiter before')
    (heq : before ++ delimiter ++ after = before' ++ delimiter ++ after') :
    before = before' ∧ after = after' := by
  have hposition := position_append hfirst after
  rw [heq, position_append hfirst' after', Option.some.injEq] at hposition
  rw [append_assoc, append_assoc] at heq
  obtain ⟨hbefore, hrest⟩ := append_inj heq hposition.symm
  exact ⟨hbefore, append_cancel_left hrest⟩

lemma exists_of_findIdx {index : Nat} (hfound : text.findIdx? (· == symbol) = some index) :
    ∃ before after, text = before ++ symbol :: after ∧ before.length = index ∧ symbol ∉ before := by
  induction text generalizing index with
  | nil => exact absurd hfound nofun
  | cons head text ih =>
    rw [List.findIdx?_cons] at hfound
    split at hfound
    next heq =>
      obtain rfl := Option.some.inj hfound
      obtain rfl := eq_of_beq heq
      exact ⟨[], text, rfl, rfl, not_mem_nil⟩
    next hne =>
      obtain ⟨below, hbelow, rfl⟩ := Option.map_eq_some_iff.mp hfound
      obtain ⟨before, after, rfl, rfl, hnot⟩ := ih hbelow
      refine ⟨head :: before, after, rfl, rfl, ?_⟩
      rw [mem_cons, not_or]
      exact ⟨fun heq => hne (beq_iff_eq.mpr heq.symm), hnot⟩

lemma not_mem_of_findIdx (hnone : text.findIdx? (· == symbol) = none) : symbol ∉ text := by
  intro hmem
  have habsent := List.findIdx?_eq_none_iff.mp hnone symbol hmem
  rw [beq_self_eq_true] at habsent
  exact Bool.true_eq_false.mp habsent

lemma first_unique {before' after' : List Symbol} (hnot : symbol ∉ before)
    (hnot' : symbol ∉ before') (heq : before ++ symbol :: after = before' ++ symbol :: after') :
    before = before' ∧ after = after' :=
  (@firstAfter_of_not_mem _ symbol [] before hnot).unique (firstAfter_of_not_mem hnot')
    (by simpa using heq)

end Position

end Foundation
