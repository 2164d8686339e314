import Mathlib.Algebra.GroupWithZero.Nat
import RamShield.Foundation.Run

/-! # Block metrics

Four emitters offer block commands to the enforcement queue and keep the books about them:
rows of the block history, a block counter and a counter of dropped commands. The commands
that the queue took and those it refused are counted beside the books.
-/

namespace RamShield

open Foundation

/-- A decision is suppressed by the gate, or the queue takes or refuses its command. -/
inductive Offer
  | suppressed | accepted | refused
  deriving DecidableEq

structure Tally where
  rows : Nat
  blocks : Nat
  delivered : Nat

structure BlockMetrics where
  detection : Tally
  subnet : Tally
  forecast : Tally
  dropped : Nat
  refused : Nat

namespace BlockMetrics

def zero : BlockMetrics := ⟨⟨0, 0, 0⟩, ⟨0, 0, 0⟩, ⟨0, 0, 0⟩, 0, 0⟩

variable (metrics : BlockMetrics)

/-- `emit_l7_block` keeps no books. -/
def emitL7Block : Offer → BlockMetrics
  | .suppressed => metrics
  | .accepted =>
    { metrics with
      detection := { metrics.detection with delivered := metrics.detection.delivered + 1 } }
  | .refused => { metrics with refused := metrics.refused + 1 }

/-- The send loop of `flush_batch`, with `sent_blocks`, and `record_batch` behind it. -/
def sendBlocks (sentBlocks : Nat) (metrics : BlockMetrics) : List Offer → BlockMetrics
  | [] =>
    { metrics with
      detection := { metrics.detection with blocks := metrics.detection.blocks + sentBlocks } }
  | .suppressed :: blocks => sendBlocks sentBlocks metrics blocks
  | .accepted :: blocks =>
    sendBlocks (sentBlocks + 1)
      { metrics with
        detection := { metrics.detection with
          rows := metrics.detection.rows + 1
          delivered := metrics.detection.delivered + 1 } } blocks
  | .refused :: blocks =>
    sendBlocks sentBlocks
      { metrics with dropped := metrics.dropped + 1, refused := metrics.refused + 1 } blocks

def emitEmergencyBlock : Offer → BlockMetrics
  | .suppressed => metrics
  | .accepted =>
    { metrics with
      detection := ⟨metrics.detection.rows + 1, metrics.detection.blocks + 1,
        metrics.detection.delivered + 1⟩ }
  | .refused => { metrics with dropped := metrics.dropped + 1, refused := metrics.refused + 1 }

/-- One hot subnet of `subnet_batch_scan`. The row is written for the decision. -/
def scanSubnet : Bool × Offer → BlockMetrics
  | (false, _) => metrics
  | (true, offer) =>
    let metrics := match offer with
      | .suppressed => metrics
      | .accepted =>
        { metrics with
          subnet := { metrics.subnet with
            blocks := metrics.subnet.blocks + 1
            delivered := metrics.subnet.delivered + 1 } }
      | .refused => { metrics with dropped := metrics.dropped + 1, refused := metrics.refused + 1 }
    { metrics with subnet := { metrics.subnet with rows := metrics.subnet.rows + 1 } }

/-- One sample of `preemptive_block`. Row and counter are written even if the queue is full. -/
def preempt : Bool × Bool → BlockMetrics
  | (false, _) => metrics
  | (true, accepted) =>
    let metrics :=
      if accepted then
        { metrics with
          forecast := { metrics.forecast with delivered := metrics.forecast.delivered + 1 } }
      else { metrics with refused := metrics.refused + 1 }
    { metrics with
      forecast := { metrics.forecast with
        rows := metrics.forecast.rows + 1
        blocks := metrics.forecast.blocks + 1 } }

/-- Rows and counters equal what the queue took, and refusals are counted as drops. -/
structure Exact : Prop where
  detection : metrics.detection.rows = metrics.detection.delivered ∧
    metrics.detection.blocks = metrics.detection.delivered
  subnet : metrics.subnet.rows = metrics.subnet.delivered ∧
    metrics.subnet.blocks = metrics.subnet.delivered
  forecast : metrics.forecast.rows = metrics.forecast.delivered ∧
    metrics.forecast.blocks = metrics.forecast.delivered
  drops : metrics.dropped = metrics.refused

end BlockMetrics

inductive EmitCall
  | flush (l7 blocks : List Offer)
  | emergency (offer : Offer)
  | scan (hot : List (Bool × Offer))
  | preempt (sample : List (Bool × Bool))

namespace EmitCall

open BlockMetrics

def step (metrics : BlockMetrics) : EmitCall → BlockMetrics
  | .flush l7 blocks => sendBlocks 0 (Machine.run emitL7Block metrics l7) blocks
  | .emergency offer => metrics.emitEmergencyBlock offer
  | .scan hot => Machine.run scanSubnet metrics hot
  | .preempt sample => Machine.run BlockMetrics.preempt metrics sample

/-- No L7 block comes to the queue, every hot subnet to block is taken, and no forecast is refused.
-/
def Clean : EmitCall → Prop
  | .flush l7 _ => ∀ offer ∈ l7, offer = .suppressed
  | .emergency _ => True
  | .scan hot => ∀ pair ∈ hot, pair.1 = true → pair.2 = .accepted
  | .preempt sample => ∀ pair ∈ sample, pair.1 = true → pair.2 = true

end EmitCall

structure BlockMetrics.Off (metrics : BlockMetrics) (faults : Nat) : Prop where
  detection : metrics.detection.blocks = metrics.detection.rows
  subnet : metrics.subnet.blocks = metrics.subnet.delivered
  forecast : metrics.forecast.blocks = metrics.forecast.rows
  total : metrics.detection.delivered + metrics.subnet.rows + metrics.forecast.rows +
    metrics.refused = metrics.detection.rows + metrics.subnet.delivered +
      metrics.forecast.delivered + metrics.dropped + faults
  bounds : metrics.detection.rows ≤ metrics.detection.delivered ∧
    metrics.subnet.delivered ≤ metrics.subnet.rows ∧
    metrics.forecast.delivered ≤ metrics.forecast.rows ∧ metrics.dropped ≤ metrics.refused

namespace BlockMetrics

lemma Off.exact_iff {metrics : BlockMetrics} {faults : Nat} (hoff : metrics.Off faults) :
    metrics.Exact ↔ faults = 0 := by
  obtain ⟨hdetection, hsubnet, hforecast, htotal, hbounds⟩ := hoff
  constructor
  · rintro ⟨hdelivered, hrows, hcounted, hdrops⟩
    omega
  · intro hnone
    refine ⟨⟨?_, ?_⟩, ⟨?_, ?_⟩, ⟨?_, ?_⟩, ?_⟩ <;> omega

lemma Off.run {Item : Type} {step : BlockMetrics → Item → BlockMetrics} {fault : Item → Nat}
    (hstep : ∀ metrics faults item, metrics.Off faults →
      (step metrics item).Off (faults + fault item))
    (items : List Item) {metrics : BlockMetrics} {faults : Nat} (hoff : metrics.Off faults) :
    (Machine.run step metrics items).Off (faults + (items.map fault).sum) := by
  induction items generalizing metrics faults with
  | nil => exact hoff
  | cons item items ih =>
    rw [List.map_cons, List.sum_cons, ← Nat.add_assoc]
    exact ih (hstep metrics faults item hoff)

section Step

variable {metrics : BlockMetrics} {faults : Nat} (hoff : metrics.Off faults)

include hoff

lemma Off.emitL7Block (offer : Offer) :
    (metrics.emitL7Block offer).Off (faults + if offer = .suppressed then 0 else 1) := by
  obtain ⟨hdetection, hsubnet, hforecast, htotal, hbounds⟩ := hoff
  cases offer <;> constructor <;> simp [BlockMetrics.emitL7Block] <;> omega

lemma Off.emitEmergencyBlock (offer : Offer) : (metrics.emitEmergencyBlock offer).Off faults := by
  obtain ⟨hdetection, hsubnet, hforecast, htotal, hbounds⟩ := hoff
  cases offer <;> constructor <;> simp [BlockMetrics.emitEmergencyBlock] <;> omega

lemma Off.scanSubnet (pair : Bool × Offer) :
    (metrics.scanSubnet pair).Off (faults + if pair.1 → pair.2 = .accepted then 0 else 1) := by
  obtain ⟨hdetection, hsubnet, hforecast, htotal, hbounds⟩ := hoff
  obtain ⟨block, offer⟩ := pair
  cases block <;> cases offer <;> constructor <;> simp [BlockMetrics.scanSubnet] <;> omega

/-- A refused forecast is a row too many and a drop too few. -/
lemma Off.preempt (pair : Bool × Bool) :
    (metrics.preempt pair).Off (faults + if pair.1 → pair.2 = true then 0 else 2) := by
  obtain ⟨hdetection, hsubnet, hforecast, htotal, hbounds⟩ := hoff
  obtain ⟨severe, accepted⟩ := pair
  cases severe <;> cases accepted <;> constructor <;> simp [BlockMetrics.preempt] <;> omega

end Step

lemma Off.sendBlocks (blocks : List Offer) {metrics : BlockMetrics} {sentBlocks faults : Nat}
    (hoff : (metrics.sendBlocks sentBlocks []).Off faults) :
    (metrics.sendBlocks sentBlocks blocks).Off faults := by
  induction blocks generalizing metrics sentBlocks with
  | nil => exact hoff
  | cons offer blocks ih =>
    cases offer with
    | suppressed => exact ih hoff
    | accepted =>
      apply ih
      obtain ⟨hdetection, hsubnet, hforecast, htotal, hbounds⟩ := hoff
      constructor <;> dsimp only [BlockMetrics.sendBlocks] at * <;> omega
    | refused =>
      apply ih
      obtain ⟨hdetection, hsubnet, hforecast, htotal, hbounds⟩ := hoff
      constructor <;> dsimp only [BlockMetrics.sendBlocks] at * <;> omega

end BlockMetrics

namespace EmitCall

open BlockMetrics

def faults : EmitCall → Nat
  | .flush l7 _ => (l7.map fun offer => if offer = .suppressed then 0 else 1).sum
  | .emergency _ => 0
  | .scan hot => (hot.map fun pair => if pair.1 = true → pair.2 = .accepted then 0 else 1).sum
  | .preempt sample => (sample.map fun pair => if pair.1 = true → pair.2 = true then 0 else 2).sum

private lemma sum_eq_zero_iff {Item : Type} {fault : Item → Nat} {items : List Item} :
    (items.map fault).sum = 0 ↔ ∀ item ∈ items, fault item = 0 := by
  simp only [List.sum_eq_zero_iff_forall_eq_nat, List.mem_map, forall_exists_index, and_imp,
    forall_apply_eq_imp_iff₂]

lemma faults_eq_zero_iff (call : EmitCall) : call.faults = 0 ↔ call.Clean := by
  cases call <;> simp only [faults, Clean, sum_eq_zero_iff, ite_eq_left_iff] <;> simp

lemma step_off (metrics : BlockMetrics) (count : Nat) (call : EmitCall)
    (hoff : metrics.Off count) : (step metrics call).Off (count + call.faults) := by
  cases call with
  | flush l7 blocks =>
    exact Off.sendBlocks blocks (Off.run (fun _ _ offer hoff => hoff.emitL7Block offer) l7 hoff)
  | emergency offer => exact hoff.emitEmergencyBlock offer
  | scan hot => exact Off.run (fun _ _ pair hoff => hoff.scanSubnet pair) hot hoff
  | preempt sample => exact Off.run (fun _ _ pair hoff => hoff.preempt pair) sample hoff

/-- The books of a run are exact if and only if every call of it is clean. -/
theorem metrics_exact_iff (calls : List EmitCall) :
    (Machine.run step zero calls).Exact ↔ ∀ call ∈ calls, call.Clean := by
  have hzero : zero.Off 0 := ⟨rfl, rfl, rfl, rfl, by decide⟩
  rw [(Off.run step_off calls hzero).exact_iff, Nat.zero_add, sum_eq_zero_iff]
  simp only [faults_eq_zero_iff]

/-- A forecast block that the queue refuses, and a suppressed repetition of a subnet
block. -/
theorem metrics_not_exact :
    ¬ (Machine.run step zero [.preempt [(true, false)]]).Exact ∧
      ¬ (Machine.run step zero [.scan [(true, .accepted)], .scan [(true, .suppressed)]]).Exact ∧
      ¬ (Machine.run step zero [.flush [.accepted] []]).Exact := by
  refine ⟨?_, ?_, ?_⟩ <;> rintro ⟨hdetection, hsubnet, hforecast, hdrops⟩ <;>
    revert hdetection hsubnet hforecast hdrops <;> decide

end EmitCall

end RamShield
