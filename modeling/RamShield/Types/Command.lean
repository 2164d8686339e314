import RamShield.Types.Basic

/-! # Enforcement commands

The command vocabulary of the enforcement actor, its results and its errors,
and the reason tokens shared by commands, log records and snapshots.
-/

namespace RamShield

inductive BlockReason
  | highRps
  | subnetBatch
  | forecastAnomaly
  | entropyAnomaly
  | manualBlock
  | l7HighRps
  | l7Cost
  | http2StreamAbuse
  deriving DecidableEq

namespace BlockReason

def asStr : BlockReason → String
  | .highRps => "high_rps"
  | .subnetBatch => "subnet_burst"
  | .forecastAnomaly => "forecast_anomaly"
  | .entropyAnomaly => "entropy_anomaly"
  | .manualBlock => "manual"
  | .l7HighRps => "l7_high_rps"
  | .l7Cost => "l7_cost"
  | .http2StreamAbuse => "http2_stream_abuse"

def fromReasonStr (reason : String) : Option BlockReason :=
  if reason ∈ ["high_rps", "syn_flood", "volumetric", "slowloris"] then some .highRps
  else if reason = "subnet_burst" then some .subnetBatch
  else if reason = "forecast_anomaly" then some .forecastAnomaly
  else if reason ∈ ["entropy_anomaly", "anomaly"] then some .entropyAnomaly
  else if reason ∈ ["manual", "manual_unblock", "manual_block"] then some .manualBlock
  else if reason = "l7_high_rps" then some .l7HighRps
  else if reason = "l7_cost" then some .l7Cost
  else if reason = "http2_stream_abuse" then some .http2StreamAbuse
  else if reason ∈ ["mesh_final", "mesh_purge", "mesh-final", "mesh-purge"] then
    some .manualBlock
  else none

end BlockReason

/-- `reason_to_block_reason`: unknown tokens count as a manual block. -/
def reasonToBlockReason (reason : String) : BlockReason :=
  (BlockReason.fromReasonStr reason.toLower).getD .manualBlock

inductive EvidenceSource
  | localSignals
  | fleetSignals
  | operator
  deriving DecidableEq

inductive EnforceAction
  | block
  | unblock
  deriving DecidableEq

/-- `EnforceCommand`. `ttlSeconds = 0` is a permanent block; with a `cidr`, `ip` only represents it.
-/
structure EnforceCommand where
  decisionId : Uuid
  policyVersion : Nat
  source : String
  actor : String
  timestampUtc : Int
  ttlSeconds : Nat
  reason : String
  ip : IpAddr
  cidr : Option IpNetwork
  action : EnforceAction
  evidenceSource : EvidenceSource
  deriving DecidableEq

def EnforceCommand.operator (decisionId : Uuid) (action : EnforceAction) (ip : IpAddr)
    (ttlSeconds : Nat) : EnforceCommand where
  decisionId := decisionId
  policyVersion := 1
  source := "api"
  actor := "operator"
  timestampUtc := 0
  ttlSeconds := ttlSeconds
  reason := "manual"
  ip := ip
  cidr := none
  action := action
  evidenceSource := .operator

structure EnforceResult where
  decisionId : Uuid
  committed : Bool
  applied : Bool
  walLsn : Option Nat
  xdpApplied : Bool
  error : Option String
  deriving DecidableEq

inductive EnforcementError
  | wal (message : String)
  | storage (message : String)
  | xdp (message : String)
  | duplicate (decisionId : Uuid)
  | invalidCommand (message : String)
  deriving DecidableEq

end RamShield
