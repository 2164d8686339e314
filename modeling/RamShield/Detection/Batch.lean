import Mathlib.Data.List.MinMax
import RamShield.Types.Basic

/-! # Aggregates of connection events

The events of one address in a flush window are kept as one aggregate. An event is
absorbed into the aggregate of a worker, and aggregates of the same address are merged.
All counters saturate. Up to four routes are told apart; a new one takes a free slot, or
the place of the rarest if that was seen at most once.
-/

namespace RamShield

open Foundation

inductive HttpMethod
  | other | get | post | put | patch | delete | head | options | connect | trace
  deriving DecidableEq, Inhabited

structure Http2Telemetry where
  activeStreams : Nat
  streamsOpened : Nat
  streamsReset : Nat
  streamsCompleted : Nat
  deriving DecidableEq

/-- `L7Metadata`, with the fields that an aggregate reads. -/
structure L7Metadata where
  routeHash : Nat
  method : HttpMethod
  latencyUs : Nat
  http2 : Option Http2Telemetry
  deriving DecidableEq

structure ConnectionEvent where
  ip : IpAddr
  timestampNs : Nat
  bytes : Nat
  statusCode : Nat
  protoFingerprint : Nat
  l7 : Option L7Metadata
  deriving DecidableEq

/-- `u32::saturating_add`. -/
def satAdd32 (left right : Nat) : Nat := min (left + right) u32Max

def statusBucket (code : Nat) : Option (Fin 5) :=
  if h : 100 ≤ code ∧ code < 600 then some ⟨code / 100 - 1, by omega⟩ else none

/-! ## Routes -/

structure RouteAgg where
  routeHash : Nat
  method : HttpMethod
  count : Nat
  http2Opened : Nat
  http2Reset : Nat
  latencySumUs : Nat
  latencyMaxUs : Nat
  deriving DecidableEq

namespace RouteAgg

def default : RouteAgg := ⟨0, .other, 0, 0, 0, 0, 0⟩

def first (l7 : L7Metadata) : RouteAgg where
  routeHash := l7.routeHash
  method := l7.method
  count := 1
  http2Opened := (l7.http2.map Http2Telemetry.streamsOpened).getD 0
  http2Reset := (l7.http2.map Http2Telemetry.streamsReset).getD 0
  latencySumUs := l7.latencyUs
  latencyMaxUs := l7.latencyUs

def again (route : RouteAgg) (l7 : L7Metadata) : RouteAgg :=
  { route with
    method := l7.method
    count := satAdd32 route.count 1
    http2Opened :=
      (l7.http2.map fun http2 => satAdd32 route.http2Opened http2.streamsOpened).getD
        route.http2Opened
    http2Reset :=
      (l7.http2.map fun http2 => satAdd32 route.http2Reset http2.streamsReset).getD route.http2Reset
    latencySumUs := satAdd route.latencySumUs l7.latencyUs
    latencyMaxUs := max route.latencyMaxUs l7.latencyUs }

def merge (route other : RouteAgg) : RouteAgg :=
  { route with
    method := other.method
    count := satAdd32 route.count other.count
    http2Opened := satAdd32 route.http2Opened other.http2Opened
    http2Reset := satAdd32 route.http2Reset other.http2Reset
    latencySumUs := satAdd route.latencySumUs other.latencySumUs
    latencyMaxUs := max route.latencyMaxUs other.latencyMaxUs }

end RouteAgg

abbrev Routes := Fin 4 → RouteAgg

namespace Routes

/-- The first slot with a route. The hash 0 stands for a free slot. -/
def slotOf (routes : Routes) (routeHash : Nat) : Option (Fin 4) :=
  (List.finRange 4).find? fun slot => decide ((routes slot).routeHash = routeHash)

def absorb (routes : Routes) (l7 : L7Metadata) : Routes :=
  if l7.routeHash = 0 then routes
  else
    match routes.slotOf l7.routeHash with
    | some slot => Function.update routes slot ((routes slot).again l7)
    | none =>
      match routes.slotOf 0 with
      | some slot => Function.update routes slot (.first l7)
      | none =>
        match (List.finRange 4).argmin fun slot => (routes slot).count with
        | some slot =>
          if (routes slot).count ≤ 1 then Function.update routes slot (.first l7) else routes
        | none => routes

def mergeRoute (routes : Routes) (other : RouteAgg) : Routes :=
  if other.routeHash = 0 then routes
  else
    match routes.slotOf other.routeHash with
    | some slot => Function.update routes slot ((routes slot).merge other)
    | none =>
      match routes.slotOf 0 with
      | some slot => Function.update routes slot other
      | none => routes

end Routes

/-! ## Aggregates -/

structure IpAgg where
  count : Nat
  bytes : Nat
  statusDist : Fin 5 → Nat
  protoFp : Nat
  firstTsNs : Nat
  lastTsNs : Nat
  l7Count : Nat
  http2Opened : Nat
  http2Reset : Nat
  http2Completed : Nat
  http2ActiveMax : Nat
  routes : Routes
  deriving DecidableEq

namespace IpAgg

def default : IpAgg := ⟨0, 0, fun _ => 0, 0, 0, 0, 0, 0, 0, 0, 0, fun _ => .default⟩

variable (agg : IpAgg) (event : ConnectionEvent)

def absorbHttp2 (http2 : Http2Telemetry) : IpAgg :=
  { agg with
    http2Opened := satAdd32 agg.http2Opened http2.streamsOpened
    http2Reset := satAdd32 agg.http2Reset http2.streamsReset
    http2Completed := satAdd32 agg.http2Completed http2.streamsCompleted
    http2ActiveMax := max agg.http2ActiveMax http2.activeStreams }

def absorbL7 (l7 : L7Metadata) : IpAgg :=
  let agg := { agg with l7Count := satAdd32 agg.l7Count 1 }
  let agg := (l7.http2.map agg.absorbHttp2).getD agg
  { agg with routes := agg.routes.absorb l7 }

/-- The counters of an event. The first event also gives the fingerprint. -/
def absorbCounters : IpAgg :=
  let count := satAdd32 agg.count 1
  { agg with
    count := count
    bytes := satAdd agg.bytes event.bytes
    statusDist :=
      match statusBucket event.statusCode with
      | some bucket => Function.update agg.statusDist bucket (satAdd32 (agg.statusDist bucket) 1)
      | none => agg.statusDist
    firstTsNs := if count = 1 then event.timestampNs else agg.firstTsNs
    protoFp := if count = 1 then event.protoFingerprint else agg.protoFp }

def absorb : IpAgg :=
  let agg := agg.absorbCounters event
  let agg := (event.l7.map agg.absorbL7).getD agg
  { agg with lastTsNs := event.timestampNs }

def mergeWith (agg other : IpAgg) : IpAgg where
  count := satAdd32 agg.count other.count
  bytes := satAdd agg.bytes other.bytes
  statusDist bucket := satAdd32 (agg.statusDist bucket) (other.statusDist bucket)
  protoFp := if agg.protoFp = 0 then other.protoFp else agg.protoFp
  firstTsNs := min agg.firstTsNs other.firstTsNs
  lastTsNs := max agg.lastTsNs other.lastTsNs
  l7Count := satAdd32 agg.l7Count other.l7Count
  http2Opened := satAdd32 agg.http2Opened other.http2Opened
  http2Reset := satAdd32 agg.http2Reset other.http2Reset
  http2Completed := satAdd32 agg.http2Completed other.http2Completed
  http2ActiveMax := max agg.http2ActiveMax other.http2ActiveMax
  routes := ((List.finRange 4).map other.routes).foldl Routes.mergeRoute agg.routes

@[simp] lemma count_absorbL7 (l7 : L7Metadata) : (agg.absorbL7 l7).count = agg.count := by
  unfold absorbL7
  cases l7.http2 with
  | none => rfl
  | some http2 => rfl

lemma count_absorb : (agg.absorb event).count = satAdd32 agg.count 1 := by
  unfold absorb
  cases event.l7 with
  | none => rfl
  | some l7 => exact count_absorbL7 _ l7

lemma count_mergeWith (agg other : IpAgg) :
    (agg.mergeWith other).count = satAdd32 agg.count other.count := rfl

end IpAgg

end RamShield
