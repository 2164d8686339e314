import Mathlib.Data.List.DropRight
import RamShield.Foundation.Run
import RamShield.Storage.Record

/-! # The threat sample queue

The flush path pushes the scores of its addresses and the forecaster drains them. A full
queue takes nothing more, so what a drain returns is the oldest part of what was pushed.
-/

namespace RamShield

open Foundation List

abbrev ThreatSample := IpAddr × F32

def pushThreatSamples (queue : List ThreatSample) : List ThreatSample → List ThreatSample
  | [] => queue
  | item :: samples =>
    if 1024 ≤ queue.length then queue else pushThreatSamples (queue ++ [item]) samples

/-- The loop of `drain_threat_sample`: what it returns, and the queue it leaves. -/
def drainThreatSample (sample : List ThreatSample) :
    List ThreatSample → List ThreatSample × List ThreatSample
  | [] => (sample, [])
  | item :: queue => drainThreatSample (sample ++ [item]) queue

inductive SampleCall
  | push (samples : List ThreatSample)
  | drain

namespace SampleCall

def step (queue : List ThreatSample) : SampleCall → List ThreatSample
  | .push samples => pushThreatSamples queue samples
  | .drain => (drainThreatSample [] queue).2

def record (pushed : List ThreatSample) : SampleCall → List ThreatSample
  | .push samples => pushed ++ samples
  | .drain => []

def pushed (calls : List SampleCall) : List ThreatSample := Machine.run record [] calls

def queue (calls : List SampleCall) : List ThreatSample := Machine.run step [] calls

end SampleCall

lemma drainThreatSample_eq (sample queue : List ThreatSample) :
    drainThreatSample sample queue = (sample ++ queue, []) := by
  induction queue generalizing sample with
  | nil => rw [append_nil, drainThreatSample]
  | cons item queue ih => rw [drainThreatSample, ih, append_assoc, singleton_append]

/-- A push fills the queue up to its limit. -/
lemma pushThreatSamples_take (pushed samples : List ThreatSample) :
    pushThreatSamples (pushed.take 1024) samples = (pushed ++ samples).take 1024 := by
  induction samples generalizing pushed with
  | nil => rw [append_nil, pushThreatSamples]
  | cons item samples ih =>
    rw [pushThreatSamples, length_take]
    split
    next hfull => rw [take_append_of_le_length (hfull.trans (Nat.min_le_right _ _))]
    next hroom =>
      have hshort : (pushed ++ [item]).length ≤ 1024 := by
        rw [length_append, length_singleton]
        omega
      rw [take_of_length_le (by omega), ← take_of_length_le hshort, ih,
        append_assoc, singleton_append]

namespace SampleCall

lemma queue_eq (calls : List SampleCall) : queue calls = (pushed calls).take 1024 := by
  induction calls using List.reverseRecOn with
  | nil => rfl
  | append_singleton calls call ih =>
    rw [queue, pushed, Machine.run_append, Machine.run_append]
    change step (queue calls) call = (record (pushed calls) call).take 1024
    rw [ih]
    cases call with
    | push samples => exact pushThreatSamples_take _ samples
    | drain => exact congrArg Prod.snd (drainThreatSample_eq [] _)

private lemma take_eq_rtake_iff {Item : Type} (items : List Item) (limit : Nat) :
    items.take limit = items.rtake limit ↔
      items.length ≤ limit ∨
        ∀ index < limit, items[index]? = items[items.length - limit + index]? := by
  rw [List.rtake]
  constructor
  · intro heq
    right
    intro index hindex
    rw [← List.getElem?_drop, ← heq, List.getElem?_take_of_lt hindex]
  · rintro (hshort | hrepeats)
    · rw [take_of_length_le hshort, Nat.sub_eq_zero_of_le hshort, drop_zero]
    · apply ext_getElem?
      intro index
      rw [List.getElem?_drop]
      by_cases hindex : index < limit
      · rw [List.getElem?_take_of_lt hindex, hrepeats index hindex]
      · rw [List.getElem?_take_eq_none (Nat.not_lt.mp hindex), List.getElem?_eq_none (by omega)]

/-- A drain returns the most recent samples if no more than the limit were pushed since the
last one, and else only if what was pushed repeats itself. -/
theorem drain_newest_iff (calls : List SampleCall) :
    (queue calls).length ≤ 1024 ∧
      ((drainThreatSample [] (queue calls)).1 = (pushed calls).rtake 1024 ↔
        (pushed calls).length ≤ 1024 ∨
          ∀ index < 1024, (pushed calls)[index]? =
            (pushed calls)[(pushed calls).length - 1024 + index]?) := by
  rw [drainThreatSample_eq, queue_eq]
  exact ⟨length_take_le _ _, take_eq_rtake_iff _ _⟩

/-- The sample behind a full queue is lost. -/
theorem drain_not_newest :
    (drainThreatSample [] (queue [.push (List.replicate 1024 (.v4 1, 0)), .push [(.v4 2, 0)]])).1 ≠
      (pushed [.push (List.replicate 1024 (.v4 1, 0)), .push [(.v4 2, 0)]]).rtake 1024 := by
  rw [drainThreatSample_eq, queue_eq]
  decide +kernel

end SampleCall

end RamShield
