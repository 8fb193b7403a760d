import MachineBridge.Error

/-!
# MachineBridge.Platform

Releases of the host platform and the features that need a minimum release.
A gate looks at the major number only and is checked before the runtime is
reached.
-/

namespace MachineBridge

open Decimal

/-- Release of the host platform, as reported by the runtime. -/
structure PlatformVersion where
  major : UInt32
  minor : UInt32
deriving DecidableEq, Repr

namespace PlatformVersion

/-- The requirement that every release meets. -/
def anyRelease : UInt32 := 0

/-- The major release that can create machines. -/
def forMachines : UInt32 := 11

/-- The major release with forced stop, windows and disconnect notifications. -/
def forStopAndGraphics : UInt32 := 12

/-- The major release that can start from the recovery partition. -/
def forRecoveryStart : UInt32 := 13

/-- The major and the minor number, divided by a point. -/
def text (v : PlatformVersion) : String :=
  natText v.major.toNat ++ "." ++ natText v.minor.toNat

/-- Whether the release is of the given major number or newer. -/
def isAtLeast (v : PlatformVersion) (major : UInt32) : Bool := major ≤ v.major

/-- Refuse a release older than the given major number. -/
def require (v : PlatformVersion) (major : UInt32) : Except BridgeError Unit :=
  if v.isAtLeast major then .ok () else .error (.unsupportedOnPlatform major v.text)

/-- Releases are ordered by their major number, then by their minor number. -/
def order (a b : PlatformVersion) : Ordering :=
  (compare a.major b.major).then (compare a.minor b.minor)

/-- A gate passes exactly the releases that are new enough. -/
theorem require_eq_ok_iff {v : PlatformVersion} {major : UInt32} :
    v.require major = .ok () ↔ v.isAtLeast major = true := by
  unfold require; split <;> simp_all

end PlatformVersion

end MachineBridge
