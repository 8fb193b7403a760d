import MachineBridge.Options
import MachineBridge.Platform

/-!
# MachineBridge.Machine.Operation

The operations of a machine's runtime.  Starting, pausing, resuming and stopping
report their outcome later, through a completion token; queries and the request
to stop are answered at once.
-/

namespace MachineBridge

/-- An operation with a completion. -/
inductive Operation where
  | start (options : StartOptions)
  | pause
  | resume
  | stop
deriving DecidableEq, Repr

namespace Operation

def name : Operation → String
  | start _ => "start"
  | pause => "pause"
  | resume => "resume"
  | stop => "stop"

/-- The major release of the platform that an operation needs; any will do for
those that exist since there are machines. -/
def requiredRelease : Operation → UInt32
  | start options =>
    if options.fromRecovery then PlatformVersion.forRecoveryStart
    else PlatformVersion.anyRelease
  | pause => PlatformVersion.anyRelease
  | resume => PlatformVersion.anyRelease
  | stop => PlatformVersion.forStopAndGraphics

end Operation

/-- What a machine can be asked for. -/
inductive Query where
  | canStart
  | canPause
  | canResume
  | canRequestStop
  | canStop
deriving DecidableEq, Repr

namespace Query

def all : List Query := [canStart, canPause, canResume, canRequestStop, canStop]

def name : Query → String
  | canStart => "can_start"
  | canPause => "can_pause"
  | canResume => "can_resume"
  | canRequestStop => "can_request_stop"
  | canStop => "can_stop"

/-- The major release below which the answer is no without asking. -/
def requiredRelease : Query → UInt32
  | canStop => PlatformVersion.forStopAndGraphics
  | _ => PlatformVersion.anyRelease

end Query

/-- A call into the runtime of one machine. -/
inductive RuntimeCall where
  /-- The machine is created with its two persistent tokens. -/
  | create (state disconnect : Handle)
  | perform (operation : Operation) (completion : Handle)
  | requestStop
  | query (q : Query)
  | release
deriving DecidableEq, Repr

/-- What became of a completion that is waited for: it fired, with or without an
error, or it was dropped without firing. -/
inductive Outcome where
  | fired (error : Option ForeignError)
  | dropped
deriving DecidableEq, Repr

/-- A call that waits for its completion. -/
structure ControlCall where
  machine : Nat
  operation : Operation
  token : Handle
  outcome : Option Outcome := none
deriving DecidableEq, Repr

/-- What the caller gets, once the completion is decided. -/
def ControlCall.result? (c : ControlCall) : Option (Except BridgeError Unit) :=
  c.outcome.map fun
    | .fired none => .ok ()
    | .fired (some error) => .error (.foreign c.operation.name error)
    | .dropped => .error (.internal (.completionDropped c.operation.name))

end MachineBridge
