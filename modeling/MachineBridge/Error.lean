import MachineBridge.Handle

/-!
# MachineBridge.Error

What can go wrong, as causes.  `BridgeError` is what an operation returns to its
caller, `HandleError` is a token that does not name what was asked for, and
`CallbackError` is an event of the runtime that could not be delivered.  Each
wording is written once, in the `message` function of its type.
-/

namespace MachineBridge

open Decimal

/-! ## errors of the runtime -/

/-- An error reported by the runtime: a domain, a numeric code and a
description, kept unchanged on the way to the caller. -/
structure ForeignError where
  domain : String
  code : Int64
  description : String
deriving DecidableEq, Repr

namespace ForeignError

/-- What stands in for a failure that was reported without an error object. -/
def unspecified : ForeignError :=
  ⟨"vzlite", -1, "the runtime reported an unspecified error"⟩

def message (e : ForeignError) : String :=
  e.description ++ " (domain: " ++ e.domain ++ ", code: " ++ intText e.code.toInt ++ ")"

end ForeignError

/-! ## tokens that do not resolve -/

/-- Why a token did not resolve. -/
inductive HandleError where
  /-- The token names no live value. -/
  | notFound (handle : Handle)
  /-- The token names a live value of another kind. -/
  | typeMismatch (handle : Handle) (expected found : String)
deriving DecidableEq, Repr

def HandleError.message : HandleError → String
  | .notFound h => "handle " ++ h.text ++ " not found"
  | .typeMismatch h expected found =>
    "handle " ++ h.text ++ " holds " ++ found ++ ", expected " ++ expected

/-! ## errors of operations -/

/-- What can be wrong with a log filter. -/
inductive FilterFault where
  /-- A directive is not of the right form. -/
  | form
  /-- A directive gives a level that there is not. -/
  | level
  /-- A directive compares a field with what is no pattern. -/
  | pattern
  /-- A directive compares a field with a pattern that asks for the boundaries of
  words, which the matcher cannot find in every script. -/
  | wordBoundary
deriving DecidableEq, Repr

def FilterFault.message : FilterFault → String
  | .form => "invalid filter directive"
  | .level =>
    "error parsing level filter: expected one of \"off\", \"error\", \"warn\", \"info\", " ++
      "\"debug\", \"trace\", or a number 0-5"
  | .pattern => "invalid field filter: error building NFA"
  | .wordBoundary =>
    "invalid field filter: unsupported regex feature for DFAs: cannot build DFAs for regexes " ++
      "with Unicode word boundaries; switch to ASCII word boundaries, or heuristically enable " ++
      "Unicode word boundaries or use a different regex engine"

/-- Arguments an operation refuses before it reaches the runtime. -/
inductive InvalidArgument where
  | noCpu
  | noMemory
  /-- The bridged network device at `index` has a blank interface name. -/
  | blankInterface (index : Nat)
  /-- The window size as it is shown. -/
  | windowSize (width height : String)
  | logFilter (filter : String) (fault : FilterFault)
  /-- A refusal worded by the runtime itself. -/
  | worded (text : String)
deriving DecidableEq, Repr

def InvalidArgument.message : InvalidArgument → String
  | .noCpu => "cpu_count must be at least 1"
  | .noMemory => "memory_size_bytes must be greater than zero"
  | .blankInterface index =>
    "network device " ++ natText index ++ " has an empty bridged interface name"
  | .windowSize width height =>
    "window width and height must be positive, got " ++ width ++ "x" ++ height
  | .logFilter filter fault => "invalid log filter '" ++ filter ++ "': " ++ fault.message
  | .worded text => text

/-- Conditions on the state of a machine that an operation found unmet. -/
inductive UnmetCondition where
  /-- The machine was finalized; the wording names it by its identifier. -/
  | finalized
  | neverPresented
  | noWindow
  | windowNotAvailable
  /-- A condition worded by the runtime itself. -/
  | worded (text : String)
deriving DecidableEq, Repr

/-- The wording of an unmet condition. A machine's identifier is random, so it
is shown by a placeholder. -/
def UnmetCondition.message : UnmetCondition → String
  | .finalized => "virtual machine <id> has been finalized"
  | .neverPresented =>
    "GUI was never initialized; call start_graphic_application first"
  | .noWindow => "GUI window does not exist; call start_graphic_application first"
  | .windowNotAvailable => "GUI window is not available"
  | .worded text => text

/-- Promises of the bridge itself that were broken. -/
inductive BrokenPromise where
  /-- The completion of an operation disappeared without firing. -/
  | completionDropped (operation : String)
  /-- A task that someone waits for will never finish on the main thread. -/
  | taskDropped
  | mainLoopNotRunning
  /-- A failure worded by the runtime itself. -/
  | worded (text : String)
deriving DecidableEq, Repr

def BrokenPromise.message : BrokenPromise → String
  | .completionDropped operation =>
    operation ++ " completion was dropped without delivery"
  | .taskDropped => "main thread dropped a synchronous task"
  | .mainLoopNotRunning => "main loop is not running"
  | .worded text => text

/-- Failures of the file system. -/
inductive FileError where
  | noSuchFile
  | fileExists
  | notADirectory
  | nameTooLong
  /-- A path holds the character that ends a path. -/
  | nulInPath
  /-- A failure worded by the system itself. -/
  | worded (text : String)
deriving DecidableEq, Repr

def FileError.message : FileError → String
  | .noSuchFile => "No such file or directory (os error 2)"
  | .fileExists => "File exists (os error 17)"
  | .notADirectory => "Not a directory (os error 20)"
  | .nameTooLong => "File name too long (os error 36)"
  | .nulInPath => "file name contained an unexpected NUL byte"
  | .worded text => text

/-- The error of an operation, returned to the caller that started it. -/
inductive BridgeError where
  | validation (cause : InvalidArgument)
  /-- The platform is older than the feature; `actual` is its version as shown. -/
  | unsupportedOnPlatform (required : UInt32) (actual : String)
  /-- The runtime reported `cause` for the named operation. -/
  | foreign (operation : String) (cause : ForeignError)
  | precondition (cause : UnmetCondition)
  | handle (cause : HandleError)
  | internal (cause : BrokenPromise)
  | io (cause : FileError)
deriving DecidableEq, Repr

namespace BridgeError

def message : BridgeError → String
  | .validation cause => "invalid argument: " ++ cause.message
  | .unsupportedOnPlatform required actual =>
    "requires platform version " ++ natText required.toNat ++ " or newer, running " ++ actual
  | .foreign operation cause => operation ++ " failed: " ++ cause.message
  | .precondition cause => cause.message
  | .handle cause => cause.message
  | .internal cause => "internal error: " ++ cause.message
  | .io cause => "io error: " ++ cause.message

/-- The wordings of the errors underneath, outermost first.  A token error is
the error itself and so has nothing underneath. -/
def sources : BridgeError → List String
  | .foreign _ cause => [cause.message]
  | .io cause => [cause.message]
  | _ => []

/-- The failure of every operation on a finalized machine. -/
def finalized : BridgeError := .precondition .finalized

/-- The failure of a caller whose task will never finish. -/
def taskDropped : BridgeError := .internal .taskDropped

/-- The failure of handing a task to a loop that is gone. -/
def mainLoopNotRunning : BridgeError := .internal .mainLoopNotRunning

end BridgeError

/-! ## events that could not be delivered -/

/-- Why an event of the runtime was not delivered. -/
inductive CallbackError where
  | handle (cause : HandleError)
  | unknownState (code : Int32)
  | alreadyCompleted (handle : Handle)
deriving DecidableEq, Repr

def CallbackError.message : CallbackError → String
  | .handle cause => cause.message
  | .unknownState code => "unknown execution state code " ++ intText code.toInt
  | .alreadyCompleted h => "completion " ++ h.text ++ " was already delivered"

end MachineBridge
