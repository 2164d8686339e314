import RamShield.Storage.Record

/-! # The adaptive rate tracker

The detector learns a baseline rate and a variance for each address and accumulates how far
the rate stays above them. An update first validates the sample and the record, then
computes on copies and commits at the end, so that an error leaves the record as it was.

Rates are binary64 numbers; records store their bit patterns.
-/

namespace RamShield

open Foundation

/-! ## Numbers -/

def F64.value (bits : F64) : Float := .ofBits (.ofBitVec bits)

def F64.ofFloat (number : Float) : F64 := number.toBits.toBitVec

def f64Max (left right : Float) : Float :=
  if left.isNaN then right else if right.isNaN then left else if left ≤ right then right else left

def f64Min (left right : Float) : Float :=
  if left.isNaN then right else if right.isNaN then left else if left ≤ right then left else right

/-! ## Helpers of the flush path -/

def ewma (prev sample : Float) : Float := 0.3 * sample + (1.0 - 0.3) * prev

def ewmaAlphaSlow : Float := 0.033

def isExceeded (ewmaRps : Float) (threshold : Nat) : Bool :=
  decide (Float.ofNat threshold < ewmaRps)

def cusumWarmupSamples : Nat := 6

/-- `u8::saturating_add(1)`. -/
def satSucc8 (count : Nat) : Nat := min (count + 1) 255

/-- `pulse_tracker_step`: the samples in the window, its start, and whether they fire. -/
def pulseTrackerStep (prevCount prevWindowStartNs nowNs : Nat) (overThreshold : Bool)
    (windowSecs threshold : Nat) : Nat × Nat × Bool :=
  let windowNs := satMul windowSecs 1000000000
  let expired := prevWindowStartNs = 0 ∨ windowNs < nowNs - prevWindowStartNs
  let count := if expired then 0 else prevCount
  let start := if expired then nowNs else prevWindowStartNs
  let count := if overThreshold then satSucc8 count else count
  (count, start, overThreshold && decide (threshold ≤ count))

/-! ## The detector -/

inductive DetectorMode
  | warmingUp | monitoring | breached
  deriving DecidableEq

/-- `mode as u8`. -/
def DetectorMode.code : DetectorMode → Nat
  | .warmingUp => 0
  | .monitoring => 1
  | .breached => 2

def DetectorMode.ofCode : Nat → DetectorMode
  | 0 => .warmingUp
  | 1 => .monitoring
  | _ => .breached

inductive Hypothesis
  | normal | volumetricDoS | slowRampDoS | flashCrowd
  deriving DecidableEq

structure TrafficContext where
  hypothesis : Hypothesis
  observedAtNs : Nat
  confidence : Float

namespace TrafficContext

def isValid (context : TrafficContext) : Bool :=
  context.confidence.isFinite && decide (0.0 ≤ context.confidence ∧ context.confidence ≤ 1.0)

def isFresh (context : TrafficContext) (nowNs maxStalenessNs : Nat) : Bool :=
  context.isValid && decide (context.observedAtNs ≤ nowNs ∧
    nowNs - context.observedAtNs ≤ maxStalenessNs)

end TrafficContext

structure DetectorProfile where
  minThresholdH : Float
  minSlackK : Float
  minVariance : Float
  alpha : Float
  clearRatio : Float
  warmupSamples : Nat
  recoverySamples : Nat
  maxGapToleranceNs : Nat

def nonnegative (number : Float) : Bool := number.isFinite && !decide (number < 0.0)

def positive (number : Float) : Bool := number.isFinite && !decide (number ≤ 0.0)

def DetectorProfile.isValid (profile : DetectorProfile) : Bool :=
  profile.minThresholdH.isFinite && decide (0.0 < profile.minThresholdH) &&
    profile.minSlackK.isFinite && decide (0.0 < profile.minSlackK) &&
    profile.minVariance.isFinite && decide (0.0 < profile.minVariance) &&
    profile.alpha.isFinite && decide (0.0 < profile.alpha) && decide (profile.alpha ≤ 1.0) &&
    profile.clearRatio.isFinite && decide (0.0 < profile.clearRatio) &&
    decide (profile.clearRatio < 1.0) && decide (0 < profile.warmupSamples) &&
    decide (0 < profile.recoverySamples)

inductive DetectorError
  | invalidCurrentRate
  | nonMonotonicTimestamp
  | invalidInternalBaseline
  | invalidInternalVariance
  | invalidInternalCusum
  | invalidContextConfidence
  | invalidProfile
  | invalidInternalSampleCount
  | numericalCalculationFailure
  deriving DecidableEq

structure DetectionOutcome where
  isBreached : Bool
  cusumScore : Float
  firingThreshold : Float
  baselineRate : Float
  mode : DetectorMode

structure PerIpRecord where
  baselineRate : Float
  variance : Float
  cusumS : Float
  lastBucketNs : Nat
  sampleCount : Nat
  recoveryCount : Nat
  mode : DetectorMode
  profile : DetectorProfile

namespace PerIpRecord

variable (record : PerIpRecord) (currentRate : Float)

def validate (timestampNs : Nat) (context : Option TrafficContext) : Option DetectorError :=
  if !nonnegative currentRate then some .invalidCurrentRate
  else if 0 < record.sampleCount ∧ timestampNs ≤ record.lastBucketNs then
    some .nonMonotonicTimestamp
  else if record.sampleCount = 0 ∧ record.lastBucketNs ≠ 0 then some .invalidInternalSampleCount
  else if !nonnegative record.baselineRate then some .invalidInternalBaseline
  else if !positive record.variance then some .invalidInternalVariance
  else if !nonnegative record.cusumS then some .invalidInternalCusum
  else if context.any fun context => !context.isValid then some .invalidContextConfidence
  else if !record.profile.isValid then some .invalidProfile
  else none

def gapDetected (timestampNs : Nat) : Bool :=
  decide (0 < record.sampleCount ∧
    record.profile.maxGapToleranceNs < timestampNs - record.lastBucketNs)

def workingCusum (timestampNs : Nat) : Float :=
  if record.gapDetected timestampNs then 0.0 else record.cusumS

/-- The slack and the firing threshold. The context never lowers them below the floors. -/
def thresholds (timestampNs : Nat) (context : Option TrafficContext) : Float × Float :=
  let k := f64Max (f64Max (record.baselineRate * 0.2) (0.75 * record.variance.sqrt))
    record.profile.minSlackK
  let h := f64Max (record.baselineRate * 1.5) record.profile.minThresholdH
  let (k, h) :=
    match context with
    | none => (k, h)
    | some context =>
      if context.isFresh timestampNs 2000000000 && decide (0.6 ≤ context.confidence) then
        match context.hypothesis with
        | .flashCrowd => (k * 1.5, h * 2.0)
        | .volumetricDoS => (k, h * 0.8)
        | .slowRampDoS => (k * 0.5, h)
        | .normal => (k, h)
      else (k, h)
  (f64Max k record.profile.minSlackK, f64Max h record.profile.minThresholdH)

def nextMode (gapDetected : Bool) (newSampleCount : Nat) (delta newCusum h : Float) :
    DetectorMode × Float × Nat :=
  let recoveryCount := if record.mode = .breached ∧ ¬gapDetected then record.recoveryCount else 0
  let mode :=
    if record.mode = .warmingUp ∧ record.profile.warmupSamples ≤ newSampleCount then .monitoring
    else record.mode
  if mode = .monitoring ∧ h < newCusum then (.breached, newCusum, 0)
  else if mode = .breached then
    let recoveryCount :=
      if delta ≤ 0.0 ∧ newCusum ≤ h * record.profile.clearRatio then satAdd recoveryCount 1 else 0
    if record.profile.recoverySamples ≤ recoveryCount then (.monitoring, 0.0, 0)
    else (mode, newCusum, recoveryCount)
  else (mode, newCusum, recoveryCount)

def adapt : Float × Float :=
  let alpha := record.profile.alpha
  let baseline := record.baselineRate + alpha * (currentRate - record.baselineRate)
  let diff1 := currentRate - record.baselineRate
  let diff2 := currentRate - baseline
  (baseline, f64Max ((1.0 - alpha) * record.variance + alpha * (diff1 * diff2))
    record.profile.minVariance)

/-- The steps of `PerIpRecord::update` after the validation. -/
def transition (timestampNs : Nat) (context : Option TrafficContext) :
    Except DetectorError DetectionOutcome × PerIpRecord :=
  let (k, h) := record.thresholds timestampNs context
  let delta := currentRate - record.baselineRate - k
  let windupCeiling := h * 3.0
  if !positive k || !positive h || !delta.isFinite || !windupCeiling.isFinite then
    (.error .numericalCalculationFailure, record)
  else
    let newCusum := f64Max (record.workingCusum timestampNs + delta) 0.0
    if !newCusum.isFinite then (.error .numericalCalculationFailure, record)
    else
      let newCusum := if windupCeiling < newCusum then windupCeiling else newCusum
      if u64Max < record.sampleCount + 1 then (.error .invalidInternalSampleCount, record)
      else
        let newSampleCount := record.sampleCount + 1
        let (newMode, newCusum, newRecoveryCount) :=
          record.nextMode (record.gapDetected timestampNs) newSampleCount delta newCusum h
        let (newBaseline, newVariance) :=
          if newMode = .breached then (record.baselineRate, record.variance)
          else record.adapt currentRate
        if newMode ≠ .breached ∧ (!nonnegative newBaseline || !positive newVariance) then
          (.error .numericalCalculationFailure, record)
        else
          (.ok ⟨decide (newMode = .breached), newCusum, h, newBaseline, newMode⟩,
            { record with
              baselineRate := newBaseline
              variance := newVariance
              cusumS := newCusum
              lastBucketNs := timestampNs
              sampleCount := newSampleCount
              recoveryCount := newRecoveryCount
              mode := newMode })

/-- `PerIpRecord::update`, with the record it leaves. -/
def update (timestampNs : Nat) (context : Option TrafficContext) :
    Except DetectorError DetectionOutcome × PerIpRecord :=
  match record.validate currentRate timestampNs context with
  | some error => (.error error, record)
  | none => record.transition currentRate timestampNs context

/-! ### What an update needs -/

lemma exists_error_update (context : Option TrafficContext)
    (hheld : 0 < record.sampleCount ∨ record.lastBucketNs ≠ 0) :
    ∃ error, (record.update currentRate record.lastBucketNs context).1 = .error error := by
  have hvalidate : ∃ error,
      record.validate currentRate record.lastBucketNs context = some error := by
    unfold validate
    split
    · exact ⟨_, rfl⟩
    by_cases hcount : 0 < record.sampleCount
    · rw [if_pos ⟨hcount, le_rfl⟩]
      exact ⟨_, rfl⟩
    · rw [if_neg fun hseen => hcount hseen.1,
        if_pos ⟨Nat.eq_zero_of_not_pos hcount, hheld.resolve_left hcount⟩]
      exact ⟨_, rfl⟩
  obtain ⟨error, herror⟩ := hvalidate
  rw [update, herror]
  exact ⟨error, rfl⟩

/-- The arithmetic of a sample stays finite, and its baseline and variance can be held. -/
structure InRange (timestampNs : Nat) (context : Option TrafficContext) : Prop where
  slack : positive (record.thresholds timestampNs context).1
  threshold : positive (record.thresholds timestampNs context).2
  delta : (currentRate - record.baselineRate - (record.thresholds timestampNs context).1).isFinite
  ceiling : ((record.thresholds timestampNs context).2 * 3.0).isFinite
  cusum : (f64Max (record.workingCusum timestampNs + (currentRate - record.baselineRate -
    (record.thresholds timestampNs context).1)) 0.0).isFinite
  baseline : nonnegative (record.adapt currentRate).1
  variance : positive (record.adapt currentRate).2

lemma nextMode_of_warmingUp {record : PerIpRecord} (hmode : record.mode = .warmingUp)
    {newSampleCount : Nat} (hwarm : newSampleCount < record.profile.warmupSamples)
    (gapDetected : Bool) (delta newCusum h : Float) :
    record.nextMode gapDetected newSampleCount delta newCusum h = (.warmingUp, newCusum, 0) := by
  simp [nextMode, hmode, Nat.not_le.mpr hwarm]

lemma transition_of_warmingUp {record : PerIpRecord} (hmode : record.mode = .warmingUp)
    (hwarm : record.sampleCount + 1 < record.profile.warmupSamples)
    (hcount : record.sampleCount < u64Max) (currentRate : Float) (timestampNs : Nat)
    (context : Option TrafficContext) :
    (∃ error, (record.transition currentRate timestampNs context).1 = .error error ∧
        ¬record.InRange currentRate timestampNs context) ∨
      ∃ outcome next, record.transition currentRate timestampNs context = (.ok outcome, next) ∧
        record.InRange currentRate timestampNs context ∧
        next.sampleCount = record.sampleCount + 1 ∧ outcome.mode = .warmingUp := by
  unfold transition
  simp only [nextMode_of_warmingUp hmode hwarm, ne_eq, reduceCtorEq, not_false_eq_true, true_and,
    if_false]
  split
  next hthresholds =>
    left
    refine ⟨_, rfl, fun hrange => ?_⟩
    simp [hrange.slack, hrange.threshold, hrange.delta, hrange.ceiling] at hthresholds
  next hthresholds =>
    split
    next hcusum =>
      left
      refine ⟨_, rfl, fun hrange => ?_⟩
      simp [hrange.cusum] at hcusum
    next hcusum =>
      rw [if_neg (Nat.not_lt.mpr hcount)]
      split
      next hadapt =>
        left
        refine ⟨_, rfl, fun hrange => ?_⟩
        simp [hrange.baseline, hrange.variance] at hadapt
      next hadapt =>
        right
        refine ⟨_, _, rfl, ?_, rfl, rfl⟩
        simp only [Bool.or_eq_true, Bool.not_eq_true', not_or, Bool.not_eq_false]
          at hthresholds hcusum hadapt
        obtain ⟨⟨⟨hslack, hthreshold⟩, hdelta⟩, hceiling⟩ := hthresholds
        exact ⟨hslack, hthreshold, hdelta, hceiling, hcusum, hadapt.1, hadapt.2⟩

end PerIpRecord

end RamShield
