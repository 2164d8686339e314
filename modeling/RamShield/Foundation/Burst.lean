import Mathlib.Data.List.Induction
import RamShield.Foundation.Run

/-! # Bursts of timed items

What remains of a list of items when everything before a pause is forgotten. A pause is a
distance between two items that is longer than the window, so a burst itself may be longer
than the window by any factor.
-/

namespace Foundation

variable {Item : Type} (time : Item → Nat) (window : Nat)

namespace Burst

/-- Continue a burst, or begin a new one after a pause. -/
def push (burst : List Item) (item : Item) : List Item :=
  match burst.getLast? with
  | some last => if window < time item - time last then [item] else burst ++ [item]
  | none => [item]

end Burst

def burst (items : List Item) : List Item := Machine.run (Burst.push time window) [] items

lemma burst_append_singleton (items : List Item) (item : Item) :
    burst time window (items ++ [item]) = Burst.push time window (burst time window items) item :=
  Machine.run_append _ [] items [item]

lemma burst_suffix (items : List Item) : burst time window items <:+ items := by
  induction items using List.reverseRecOn with
  | nil => exact List.suffix_rfl
  | append_singleton items item ih =>
    have hlast : [item] <:+ items ++ [item] := List.suffix_append items [item]
    rw [burst_append_singleton]
    unfold Burst.push
    split
    · split
      · exact hlast
      obtain ⟨earlier, hearlier⟩ := ih
      exact ⟨earlier, by rw [← List.append_assoc, hearlier]⟩
    · exact hlast

end Foundation
