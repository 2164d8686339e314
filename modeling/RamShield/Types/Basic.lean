import Mathlib.Data.Nat.Pairing
import RamShield.Foundation.Table

/-! # Machine integers, clocks and addresses

Counters and times are naturals; where the source saturates or a type has a
greatest value that is used as a sentinel, the bound is written out. The
monotonic clock counts nanoseconds from an arbitrary origin, the wall clock
nanoseconds from the Unix epoch.
-/

namespace RamShield

/-- `u64::MAX`. As an expiry in milliseconds it denotes "never". -/
def u64Max : Nat := 2 ^ 64 - 1

def u32Max : Nat := 2 ^ 32 - 1

/-- `u64::saturating_add`. -/
def satAdd (left right : Nat) : Nat := min (left + right) u64Max

/-- `u64::saturating_mul`. -/
def satMul (left right : Nat) : Nat := min (left * right) u64Max

def divCeil (value divisor : Nat) : Nat := (value + (divisor - 1)) / divisor

def secNs : Nat := 1000000000

def msNs : Nat := 1000000

/-- `MAX_EXPIRY_FALLBACK_SECS`: the lease used when the deadline overflows. -/
def maxExpiryFallbackSecs : Nat := 86400

/-- A reading of the monotonic clock, in nanoseconds. -/
abbrev Instant := Nat

/-- `Instant::checked_add` of whole seconds: the seconds part is an `i64`. -/
def Instant.checkedAddSecs (now : Instant) (secs : Nat) : Option Instant :=
  if now + secs * secNs < 2 ^ 63 * secNs then some (now + secs * secNs) else none

/-- The readings of both clocks during one command or one tick. -/
structure Clock where
  mono : Instant
  wallNs : Nat
  deriving DecidableEq

namespace Clock

/-- `SystemTime::now` in milliseconds. -/
def wallMs (clock : Clock) : Nat := clock.wallNs / msNs

def unixNsFromInstant (clock : Clock) (deadline : Instant) : Nat :=
  if clock.mono ≤ deadline then satAdd clock.wallNs (deadline - clock.mono)
  else clock.wallNs - (clock.mono - deadline)

/-- The deadline of a block committed now: `checked_add`, else the 24 h
fallback. -/
def leaseDeadline (clock : Clock) (ttlSeconds : Nat) : Instant :=
  (Instant.checkedAddSecs clock.mono ttlSeconds).getD (clock.mono + maxExpiryFallbackSecs * secNs)

end Clock

abbrev Uuid := BitVec 128

def Uuid.isNil (uuid : Uuid) : Bool := uuid == 0

/-- An IPv4 or IPv6 address, as its bits in network order. -/
inductive IpAddr
  | v4 (bits : BitVec 32)
  | v6 (bits : BitVec 128)
  deriving DecidableEq

namespace IpAddr

def isUnspecified : IpAddr → Bool
  | .v4 bits => bits == 0
  | .v6 bits => bits == 0

/-- The position of an address in the order of `IpAddr`: IPv4 before IPv6, then
by bits. -/
def rank : IpAddr → Nat
  | .v4 bits => bits.toNat
  | .v6 bits => 2 ^ 32 + bits.toNat

lemma rank_injective : Function.Injective rank := by
  intro left right hrank
  cases left with
  | v4 left =>
    cases right with
    | v4 right => exact congrArg v4 (BitVec.eq_of_toNat_eq hrank)
    | v6 right =>
      have hbound := left.isLt
      simp only [rank] at hrank
      omega
  | v6 left =>
    cases right with
    | v4 right =>
      have hbound := right.isLt
      simp only [rank] at hrank
      omega
    | v6 right => exact congrArg v6 (BitVec.eq_of_toNat_eq (by simp only [rank] at hrank; omega))

def sorted : Foundation.IterOrder IpAddr := .ofCode rank rank_injective

end IpAddr

/-- `IpNetwork`: a network address and its prefix length. -/
structure IpNetwork where
  addr : IpAddr
  prefixLen : Nat
  deriving DecidableEq

def IpNetwork.sorted : Foundation.IterOrder IpNetwork :=
  .ofCode (fun network => Nat.pair network.addr.rank network.prefixLen) (by
    rintro ⟨left, leftLen⟩ ⟨right, rightLen⟩ hcode
    obtain ⟨haddr, hlen⟩ := Nat.pair_eq_pair.mp hcode
    exact congrArg₂ IpNetwork.mk (IpAddr.rank_injective haddr) hlen)

end RamShield
