import RamShield.Detection.Batch
import RamShield.Detection.RateTracker
import RamShield.Foundation.Run
import RamShield.Storage.Store

/-! # Merging an aggregate into a record

`merge_record` updates the record of an address in place: counters, rates, and the adaptive
detector, which is to take one sample for each bucket of a second.
-/

namespace RamShield

open Foundation

/-- `DetectionConfig`, with the fields that a merge reads. -/
structure DetectionConfig where
  rpsThreshold : Nat
  rateWindowSecs : Nat
  pulseWindowSecs : Nat
  pulseThresholdSamples : Nat
  relativeEnabled : Bool
  relativeFactor : Float
  relativeFloorRps : Float
  relativeMinSamples : Nat
  relativeMinBreaches : Nat

def DetectionConfig.default : DetectionConfig where
  rpsThreshold := 500
  rateWindowSecs := 10
  pulseWindowSecs := 5
  pulseThresholdSamples := 3
  relativeEnabled := false
  relativeFactor := 5.0
  relativeFloorRps := 3.0
  relativeMinSamples := 8
  relativeMinBreaches := 3

/-- The instantaneous rate of an aggregate, over its own time span. -/
def IpAgg.instRps (agg : IpAgg) : Float :=
  let spanNs := agg.lastTsNs - agg.firstTsNs
  if 0 < spanNs then Float.ofNat agg.count / (Float.ofNat spanNs / 1e9)
  else Float.ofNat agg.count

def DetectionConfig.profile (det : DetectionConfig) : DetectorProfile where
  minThresholdH := Float.ofNat det.rpsThreshold * 1.5
  minSlackK := Float.ofNat det.rpsThreshold * 0.75
  minVariance := 0.1
  alpha := 0.3
  clearRatio := 0.35
  warmupSamples := cusumWarmupSamples
  recoverySamples := 3
  maxGapToleranceNs := 5000000000

namespace IpRecord

def unseen (ip : IpAddr) (agg : IpAgg) : IpRecord where
  ip := ip
  requestCount := 0
  ewmaRps := .ofFloat 0.0
  cusumS := .ofFloat 0.0
  baselineRps := .ofFloat 0.0
  prevSampleHot := false
  sampleCount := 0
  relativeBreachStreak := 0
  pulseSamplesInWindow := 0
  pulseWindowStartNs := 0
  firstSeenNs := agg.firstTsNs
  lastSeenNs := agg.lastTsNs
  bytesIn := 0
  statusDist := Vector.replicate 5 0
  protoFingerprint := agg.protoFp
  threatScore := 0
  blockState := .clean
  variance := .ofFloat 0.1
  lastBucketNs := 0
  adaptiveSampleCount := 0
  recoveryCount := 0
  bucketAccumPps := .ofFloat 0.0
  detectorMode := 0

variable (record : IpRecord) (det : DetectionConfig)

/-- The counters of the aggregate, the fast average and the sample count. -/
def absorb (agg : IpAgg) : IpRecord :=
  { record with
    requestCount := satAdd record.requestCount agg.count
    lastSeenNs := agg.lastTsNs
    bytesIn := satAdd record.bytesIn agg.bytes
    statusDist := .ofFn fun bucket => satAdd32 record.statusDist[bucket] (agg.statusDist bucket)
    ewmaRps := .ofFloat (ewma record.ewmaRps.value agg.instRps)
    sampleCount := satSucc8 record.sampleCount
    bucketAccumPps := .ofFloat (record.bucketAccumPps.value + agg.instRps) }

def tracker : PerIpRecord where
  baselineRate := record.baselineRps.value
  variance := record.variance.value
  cusumS := record.cusumS.value
  lastBucketNs := record.lastBucketNs
  sampleCount := record.adaptiveSampleCount
  recoveryCount := record.recoveryCount
  mode := .ofCode record.detectorMode
  profile := det.profile

def bucketRate (instRps : Float) : Float :=
  if record.lastBucketNs = 0 then instRps else record.bucketAccumPps.value

def openBucket (now : Nat) : IpRecord :=
  { record with bucketAccumPps := .ofFloat 0.0, lastBucketNs := now }

/-- The adaptive section, and whether the detector is breached. -/
def adaptive (instRps : Float) (now : Nat) : IpRecord × Bool :=
  if record.lastBucketNs = 0 ∨ 1000000000 ≤ now - record.lastBucketNs then
    let opened := record.openBucket now
    match (opened.tracker det).update (record.bucketRate instRps) now none with
    | (.ok outcome, tracker) =>
      ({ opened with
        baselineRps := .ofFloat outcome.baselineRate
        cusumS := .ofFloat outcome.cusumScore
        variance := .ofFloat tracker.variance
        adaptiveSampleCount := tracker.sampleCount
        recoveryCount := tracker.recoveryCount
        detectorMode := outcome.mode.code }, outcome.isBreached)
    | (.error _, _) =>
      ({ opened with
        bucketAccumPps := record.bucketAccumPps
        lastBucketNs := record.lastBucketNs }, false)
  else (record, false)

def relativeBreach (priorBaseline instRps : Float) : Bool :=
  if det.relativeEnabled && priorBaseline.isFinite && decide (0.0 < priorBaseline) &&
      decide (det.relativeMinSamples ≤ record.sampleCount) then
    let need := f64Max (det.relativeFactor * priorBaseline) det.relativeFloorRps
    need.isFinite && instRps.isFinite && decide (need ≤ instRps)
  else false

def learn (relativeBreach : Bool) (priorBaseline instRps : Float) : IpRecord :=
  if relativeBreach then
    { record with relativeBreachStreak := satSucc8 record.relativeBreachStreak }
  else
    { record with
      relativeBreachStreak := 0
      baselineRps := .ofFloat
        (if 0.0 < priorBaseline ∧ priorBaseline.isFinite then
          ewmaAlphaSlow * record.ewmaRps.value + (1.0 - ewmaAlphaSlow) * priorBaseline
        else instRps) }

/-- The threat score, and the request count, which is halved when its window is over. -/
def score (now : Nat) : IpRecord :=
  let rpsScore := f64Min (record.ewmaRps.value / Float.ofNat det.rpsThreshold) 1.0
  let total := record.statusDist.sum
  let errFrac := Float.ofNat record.statusDist[4] / Float.ofNat (max total 1)
  let threat := (f64Min (rpsScore * 0.7 + errFrac * 0.3) 1.0).toFloat32
  let record := { record with threatScore := threat.toBits.toBitVec }
  if det.rateWindowSecs * 1000000000 < now - record.firstSeenNs then
    { record with requestCount := record.requestCount / 2, firstSeenNs := now }
  else record

end IpRecord

/-- What a merge says about the address. -/
structure MergeVerdict where
  wasBlocked : Bool
  ewmaRps : F64
  threat : F32
  block : Bool
  deriving DecidableEq

/-- The debounce latch, the pulse window, and the verdict. -/
def IpRecord.judge (record : IpRecord) (det : DetectionConfig) (now : Nat)
    (wasBlocked relativeBreach adaptiveBlocked : Bool) : IpRecord × MergeVerdict :=
  let overThreshold := isExceeded record.ewmaRps.value det.rpsThreshold
  let hot := overThreshold && record.prevSampleHot
  let pulse := pulseTrackerStep record.pulseSamplesInWindow record.pulseWindowStartNs now
    overThreshold det.pulseWindowSecs det.pulseThresholdSamples
  let relativeFired := det.relativeEnabled && relativeBreach &&
    decide (det.relativeMinBreaches ≤ record.relativeBreachStreak)
  ({ record with
      prevSampleHot := overThreshold
      pulseSamplesInWindow := pulse.1
      pulseWindowStartNs := pulse.2.1 },
    ⟨wasBlocked, record.ewmaRps, record.threatScore,
      hot || pulse.2.2 || relativeFired || adaptiveBlocked⟩)

/-- The closure that `merge_record` gives to `update_ip`. -/
def IpRecord.merge (det : DetectionConfig) (agg : IpAgg) (now : Nat) (record : IpRecord) :
    IpRecord × MergeVerdict :=
  let instRps := agg.instRps
  -- The current sample must not move its own threshold.
  let priorBaseline := record.baselineRps.value
  let adapted := (record.absorb agg).adaptive det instRps now
  let relativeBreach := adapted.1.relativeBreach det priorBaseline instRps
  let learned := adapted.1.learn relativeBreach priorBaseline instRps
  (learned.score det now).judge det now record.blockState.isBlocked relativeBreach adapted.2

/-- `DetectionEngine::merge_record` on the store; `clock` decides on the expiry of the entry. -/
def Store.mergeRecord (store : Store) (clock : Instant) (ip : IpAddr) (agg : IpAgg)
    (det : DetectionConfig) (ramLim now : Nat) (subnetKey : Option (BitVec 128)) :
    (MergeVerdict × Bool) × Store :=
  let (outcome, store) :=
    store.updateIp clock ip (.unseen ip agg) ramLim (IpRecord.merge det agg now)
  (outcome, if outcome.2 then store.updateSubnetIndex ip subnetKey false else store)

end RamShield
