import Mathlib.Tactic.Common

/-! # Cutting a list into chunks

Consecutive chunks of a given size, the last one as long as it gets. For size zero
the chunks are those of size one.
-/

namespace Foundation

open List

variable {Item : Type}

def chunks (size : Nat) : List Item → List (List Item)
  | [] => []
  | item :: items => (item :: items.take (size - 1)) :: chunks size (items.drop (size - 1))
termination_by items => items.length

@[simp] lemma chunks_nil (size : Nat) : chunks size ([] : List Item) = [] := by rw [chunks]

@[simp] lemma flatten_chunks (size : Nat) (items : List Item) :
    (chunks size items).flatten = items := by
  fun_induction chunks size items with
  | case1 => rfl
  | case2 item items ih => rw [flatten_cons, ih, cons_append, take_append_drop]

lemma length_le_of_mem_chunks {size : Nat} (hsize : 0 < size) {items chunk : List Item}
    (hchunk : chunk ∈ chunks size items) : chunk.length ≤ size := by
  fun_induction chunks size items with
  | case1 => cases hchunk
  | case2 item items ih =>
    rcases mem_cons.mp hchunk with rfl | hlater
    · rw [length_cons, length_take]
      omega
    · exact ih hlater

lemma length_chunks_mul_lt {size : Nat} (hsize : 0 < size) (items : List Item) :
    (chunks size items).length * size < items.length + size := by
  fun_induction chunks size items with
  | case1 => simpa using hsize
  | case2 item items ih =>
    rw [length_cons, length_cons, Nat.add_mul, Nat.one_mul]
    rw [length_drop] at ih
    by_cases hlong : size - 1 ≤ items.length
    · omega
    · rw [drop_eq_nil_of_le (by omega), chunks_nil, length_nil]
      omega

end Foundation
