import RamShield.Foundation.Delimiter
import RamShield.Types.Basic

/-! # The request parser of the web gate

How one buffer is read as an HTTP/1 request: the head up to the first empty line, the
framing that its header fields declare, and the body, chunked or not.
-/

namespace RamShield.Waf

open Foundation

/-- What the gate reports about a request. -/
inductive Finding
  | sqlInjection
  | xss
  | pathTraversal
  | commandInjection
  | ssrf
  | oversized
  | malformed
  | headerSmuggling
  deriving DecidableEq

/-- Why a request is not parsed. The build keeps overflow checks: a sum that overflows panics. -/
inductive Stop
  | found (finding : Finding)
  | panicked
  deriving DecidableEq

def reject {α : Type} (finding : Finding) : Except Stop α := .error (.found finding)

def lf : UInt8 := 0x0A

def cr : UInt8 := 0x0D

def tab : UInt8 := 0x09

def slice (bytes : List UInt8) (start stop : Nat) : List UInt8 := (bytes.take stop).drop start

variable (byte : UInt8) (line : List UInt8)

def isDigit : Bool := 0x30 ≤ byte && byte ≤ 0x39

def isUpper : Bool := 0x41 ≤ byte && byte ≤ 0x5A

def isControl : Bool := byte == 0 || byte == cr || byte == lf || (byte < 0x20 && byte != tab)

def toLower : UInt8 := if isUpper byte then byte + 0x20 else byte

def usizeMax : Nat := 2 ^ 64 - 1

/-- What the header fields read so far say about the framing. -/
structure HeaderScan where
  contentLength : Option Nat
  transferChunked : Bool
  headerCount : Nat
  deriving DecidableEq

def HeaderScan.fresh : HeaderScan where
  contentLength := none
  transferChunked := false
  headerCount := 0

end RamShield.Waf
