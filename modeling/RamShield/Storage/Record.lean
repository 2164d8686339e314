import RamShield.Types.Command

/-! # Stored values

Statistics that the detector keeps as floating-point numbers are stored here as
their bit patterns: the storage layer copies them and never computes with them.
-/

namespace RamShield

/-- An `f64`, as its bit pattern. -/
abbrev F64 := BitVec 64

/-- An `f32`, as its bit pattern. -/
abbrev F32 := BitVec 32

inductive BlockState
  | clean
  | suspicious
  | blocked (reason : BlockReason) (sinceNs : Nat)
  deriving DecidableEq

/-- `matches!(state, BlockState::Blocked { .. })`. -/
def BlockState.isBlocked : BlockState → Bool
  | .blocked _ _ => true
  | _ => false

structure IpRecord where
  ip : IpAddr
  requestCount : Nat
  ewmaRps : F64
  cusumS : F64
  baselineRps : F64
  prevSampleHot : Bool
  sampleCount : Nat
  relativeBreachStreak : Nat
  pulseSamplesInWindow : Nat
  pulseWindowStartNs : Nat
  firstSeenNs : Nat
  lastSeenNs : Nat
  bytesIn : Nat
  statusDist : Vector Nat 5
  protoFingerprint : Nat
  threatScore : F32
  blockState : BlockState
  variance : F64
  lastBucketNs : Nat
  adaptiveSampleCount : Nat
  recoveryCount : Nat
  bucketAccumPps : F64
  detectorMode : Nat
  deriving DecidableEq

/-- The record of an address without statistics: all counters zero, `variance = 0.1`. -/
def IpRecord.zeroed (ip : IpAddr) (seenNs : Nat) (blockState : BlockState) : IpRecord where
  ip := ip
  requestCount := 0
  ewmaRps := 0
  cusumS := 0
  baselineRps := 0
  prevSampleHot := false
  sampleCount := 0
  relativeBreachStreak := 0
  pulseSamplesInWindow := 0
  pulseWindowStartNs := 0
  firstSeenNs := seenNs
  lastSeenNs := seenNs
  bytesIn := 0
  statusDist := Vector.replicate 5 0
  protoFingerprint := 0
  threatScore := 0
  blockState := blockState
  variance := 0x3FB999999999999A
  lastBucketNs := 0
  adaptiveSampleCount := 0
  recoveryCount := 0
  bucketAccumPps := 0
  detectorMode := 0

/-- `SubnetRecord`. The four 64-bit words of the host bitmap are one vector. -/
structure SubnetRecord where
  network : IpNetwork
  totalRps : Nat
  hostBitmap : BitVec 256
  lastUpdatedNs : Nat
  deriving DecidableEq

inductive Value
  | counter (count : Nat)
  | inline (bytes : List UInt8)
  | blob (bytes : List UInt8)
  | ipRecord (record : IpRecord)
  | subnetRecord (record : SubnetRecord)
  deriving DecidableEq

namespace Value

def heapBytes : Value → Nat
  | .inline bytes => bytes.length
  | .blob bytes => bytes.length
  | _ => 0

/-- `Value::is_blocked`: every state but `Clean` counts. -/
def isBlocked : Value → Bool
  | .ipRecord record => record.blockState != .clean
  | _ => false

def isBlockedRecord : Value → Bool
  | .ipRecord record => record.blockState.isBlocked
  | _ => false

end Value

/-- `Entry`: a value and the instant after which it no longer counts. -/
structure Entry where
  value : Value
  expiresAt : Option Instant
  deriving DecidableEq

def Entry.isExpired (entry : Entry) (now : Instant) : Bool := entry.expiresAt.any (· < now)

/-- The record that `!e.is_expired()` and `let Value::IpRecord(rec)` bind together. -/
def Entry.liveRecord (entry : Entry) (now : Instant) : Option IpRecord :=
  match entry.value with
  | .ipRecord record => if entry.isExpired now then none else some record
  | _ => none

lemma Entry.value_of_liveRecord {entry : Entry} {now : Instant} {record : IpRecord}
    (hlive : entry.liveRecord now = some record) : entry.value = .ipRecord record := by
  unfold liveRecord at hlive
  split at hlive
  next stored hvalue =>
    split at hlive
    · cases hlive
    cases hlive
    exact hvalue
  · cases hlive

/-- `size_of::<IpAddr>()`: a tag and sixteen octets. -/
def sizeOfIpAddr : Nat := 17

/-- `size_of::<Entry>()` on a 64-bit target, with padding and niches counted. -/
def sizeOfEntry : Nat := 192

def entrySize (value : Value) : Nat := sizeOfIpAddr + sizeOfEntry + value.heapBytes

end RamShield
