import MachineBridge.Error
import MachineBridge.Text.Utf8

/-!
# MachineBridge.RawError

The error object as it crosses the boundary: its strings end at a zero byte,
need not be valid UTF-8 and may be missing altogether.  It is only borrowed for
one call and therefore copied.
-/

namespace MachineBridge

/-- The layout of the runtime's error object. -/
structure RawError where
  domain : Option (List UInt8)
  code : Int64
  description : Option (List UInt8)
deriving DecidableEq, Repr

namespace RawError

/-- Copy a string; a missing one is empty. -/
def copyText : Option (List UInt8) → String
  | some bytes => Text.decodeTerminated bytes
  | none => ""

def copy (e : RawError) : ForeignError :=
  ⟨copyText e.domain, e.code, copyText e.description⟩

def copy? (e : Option RawError) : Option ForeignError := e.map copy

end RawError

end MachineBridge
