import Mathlib.Data.List.Basic
import Mathlib.Tactic.Ring

/-! # Byte strings

Little-endian integers of a fixed width, and what is left of a sequence of frames
when its bytes are cut at any position.
-/

namespace Foundation

open List

/-! ## Little-endian integers -/

/-- The low bytes of a number, the lowest first. -/
def leBytes : Nat → Nat → List UInt8
  | 0, _ => []
  | width + 1, value => UInt8.ofNat value :: leBytes width (value / 256)

def leValue : List UInt8 → Nat
  | [] => 0
  | byte :: bytes => byte.toNat + 256 * leValue bytes

@[simp] lemma length_leBytes (width value : Nat) : (leBytes width value).length = width := by
  induction width generalizing value with
  | zero => rfl
  | succ width ih => rw [leBytes, length_cons, ih]

lemma leValue_leBytes (width value : Nat) :
    leValue (leBytes width value) = value % 256 ^ width := by
  induction width generalizing value with
  | zero => rw [leBytes, leValue, pow_zero, Nat.mod_one]
  | succ width ih =>
    have hbyte : (UInt8.ofNat value).toNat = value % 256 := UInt8.toNat_ofNat'
    rw [leBytes, leValue, ih, hbyte, pow_succ', Nat.mod_mul]

/-- A number that fits is read back. -/
lemma leValue_leBytes_of_lt {width value : Nat} (hfits : value < 256 ^ width) :
    leValue (leBytes width value) = value := by
  rw [leValue_leBytes, Nat.mod_eq_of_lt hfits]

/-! ## Cutting a sequence of frames -/

section Cut

variable {Item Byte : Type} (frame : Item → List Byte)

/-- What a cut leaves: whole frames, and the beginning of the next one. -/
inductive Cut : List Item → List Item → List Byte → Prop
  | clean (whole rest : List Item) : Cut (whole ++ rest) whole []
  | torn (whole rest : List Item) (item : Item) (start : List Byte) (hpart : start <+: frame item)
      (hproper : start.length < (frame item).length) (hnonempty : start ≠ []) :
      Cut (whole ++ item :: rest) whole start

variable {frame}

lemma Cut.cons {items whole : List Item} {start : List Byte} (hcut : Cut frame items whole start)
    (item : Item) : Cut frame (item :: items) (item :: whole) start := by
  cases hcut with
  | clean _ rest => exact .clean (item :: whole) rest
  | torn _ rest next _ hpart hproper hnonempty =>
    exact .torn (item :: whole) rest next start hpart hproper hnonempty

variable {items whole : List Item} {start : List Byte}

section

variable (hcut : Cut frame items whole start)

include hcut

lemma Cut.append_left (first : List Item) : Cut frame (first ++ items) (first ++ whole) start := by
  induction first with
  | nil => exact hcut
  | cons item first ih => exact ih.cons item

lemma Cut.whole_isPrefix : whole <+: items := by
  cases hcut with
  | clean _ rest => exact prefix_append _ _
  | torn _ rest => exact prefix_append _ _

lemma Cut.next (hframe : ∀ item, frame item ≠ []) (hmore : whole.length < items.length) :
    ∃ item rest, items = whole ++ item :: rest ∧ start.length < (frame item).length := by
  cases hcut with
  | clean _ rest =>
    cases rest with
    | nil =>
      rw [append_nil] at hmore
      exact absurd hmore (Nat.lt_irrefl _)
    | cons item rest => exact ⟨item, rest, rfl, length_pos_iff.mpr (hframe item)⟩
  | torn _ rest item _ hpart hproper hnonempty => exact ⟨item, rest, rfl, hproper⟩

lemma Cut.le_length_iff (hframe : ∀ item, frame item ≠ []) {count : Nat}
    (hcount : count ≤ items.length) :
    count ≤ whole.length ↔
      ((items.take count).flatMap frame).length ≤ (whole.flatMap frame).length + start.length := by
  constructor
  · intro hle
    obtain ⟨rest, rfl⟩ := hcut.whole_isPrefix
    have hsplit : whole.flatMap frame =
        (whole.take count).flatMap frame ++ (whole.drop count).flatMap frame := by
      rw [← flatMap_append, take_append_drop]
    rw [take_append_of_le_length hle, hsplit, length_append]
    omega
  · intro hbytes
    by_contra hshort
    obtain ⟨item, rest, rfl, hproper⟩ := hcut.next hframe (by omega)
    obtain ⟨more, rfl⟩ : ∃ more, count = whole.length + (more + 1) :=
      ⟨count - whole.length - 1, by omega⟩
    rw [take_length_add_append, take_succ_cons, flatMap_append, flatMap_cons,
      length_append, length_append] at hbytes
    omega

end

def wholeFrames (frame : Item → List Byte) : Nat → List Item → List Item
  | _, [] => []
  | count, item :: items =>
    if (frame item).length ≤ count then
      item :: wholeFrames frame (count - (frame item).length) items
    else []

lemma exists_cut (frame : Item → List Byte) (items : List Item) (count : Nat) :
    ∃ start, Cut frame items (wholeFrames frame count items) start ∧
      (items.flatMap frame).take count =
        (wholeFrames frame count items).flatMap frame ++ start := by
  induction items generalizing count with
  | nil => exact ⟨[], .clean [] [], by simp [wholeFrames]⟩
  | cons item items ih =>
    rw [flatMap_cons, wholeFrames]
    split
    next hpast =>
      obtain ⟨start, hcut, htake⟩ := ih (count - (frame item).length)
      refine ⟨start, hcut.cons item, ?_⟩
      rw [take_append, take_of_length_le hpast, htake, flatMap_cons, append_assoc]
    next hinside =>
      -- The cut is inside the first frame.
      have hinside := Nat.lt_of_not_le hinside
      rw [take_append_of_le_length hinside.le]
      by_cases hempty : (frame item).take count = []
      · exact ⟨[], .clean [] (item :: items), by rw [hempty]; rfl⟩
      · have htaken := take_prefix count (frame item)
        refine ⟨(frame item).take count, .torn [] items item _ htaken ?_ hempty, rfl⟩
        rw [length_take]
        omega

end Cut

end Foundation
