import MachineBridge.Bridge.Callback
import MachineBridge.Bridge.Lifecycle
import MachineBridge.Bridge.Streams

/-!
# MachineBridge.Bridge.Window

Requests for the window of a machine.  A request marks the window open and hands
a task to the main thread of the application; a request that cannot be handed
over marks the window closed.  Whether a window is on screen only the toolkit
knows, and it is asked on the main thread: by a task that the caller waits for,
or in place when the caller is on that thread already.
-/

namespace MachineBridge.Bridge

/-! ## opening and showing -/

/-- Hand over a request to present the window of a machine, with a subscription
to the states of the machine from now on. -/
def present (b : Bridge) (m a : Nat) (id : Handle) (spec : WindowSpec) :
    Bridge × Except BridgeError Unit :=
  let (subscribed, i) := b.subscribeStates m
  match subscribed.dispatch a (.present id spec m i) with
  | (b', .ok ()) => (b', .ok ())
  | (b', .error e) =>
    ((b'.dropStates m i).modifyMachine m fun x => { x with window := x.window.closed }, .error e)

/-- The window token of a machine; the first request registers it. -/
def windowToken (b : Bridge) (m : Nat) (w : WindowState) : Bridge × Handle :=
  match w.token with
  | some id => (b, id)
  | none =>
    let (registry, id) := b.registry.register (.windowBinding m)
    ({ b with registry }, id)

/-- Open a window for a machine in an application. Calling again while the window
is open shows it again. -/
def startGraphics (b : Bridge) (m a : Nat) (width height : Float) (options : GraphicsOptions) :
    Bridge × Except BridgeError Unit :=
  match b.admitted m PlatformVersion.forStopAndGraphics with
  | .error e => (b, .error e)
  | .ok machine =>
    if WindowSpec.isPositiveSize width height then
      let spec := WindowSpec.ofOptions width height options
      let (registered, id) := b.windowToken m machine.window
      (registered.modifyMachine m fun x => { x with window := x.window.opened id a spec }).present
        m a id spec
    else
      (b, .error (.validation
        (.windowSize (Decimal.floatText width) (Decimal.floatText height))))

/-- Show the window of a machine again, as it was asked for last. -/
def showWindow (b : Bridge) (m : Nat) : Bridge × Except BridgeError Unit :=
  match b.admitted m PlatformVersion.forStopAndGraphics with
  | .error e => (b, .error e)
  | .ok machine =>
    match machine.window.reopening? with
    | none => (b, .error (.precondition .neverPresented))
    | some (a, id, spec) =>
      (b.modifyMachine m fun x => { x with window := x.window.opened id a spec }).present
        m a id spec

/-! ## visibility -/

/-- Note calls into the toolkit of an application, up to the first that panics. -/
def callToolkit (env : Environment) (b : Bridge) (a : Nat) (cs : List ToolkitCall) : Bridge :=
  b.modifyApplication a fun x => x.recordUpToPanic (env.panics a) cs

/-- Ask the toolkit whether a window is visible and pass the answer on; after a
panic there will be none. -/
def look (env : Environment) (b : Bridge) (i : Nat) : Bridge :=
  match b.inquiries[i]? with
  | none => b
  | some inquiry =>
    let a := inquiry.application
    let answer : Visibility :=
      if env.panics a (.isVisible inquiry.id) then .unknown .taskDropped
      else .known (env.isVisible a inquiry.id)
    (b.callToolkit env a [.isVisible inquiry.id]).answerInquiry i answer

/-- Ask the toolkit in place, from a task of the host on the main thread; a panic
ends the whole task. -/
def lookInPlace (env : Environment) (b : Bridge) (a : Nat) (i : Nat) (id : Handle) : Bridge :=
  if env.panics a (.isVisible id) then (b.look env i).leaveJob a .dropped else b.look env i

/-- Begin an inquiry. `place` is the application on whose main thread the caller
is, if it is on one. Answers the number of the inquiry. -/
def inquire (env : Environment) (b : Bridge) (a : Nat) (id : Handle) (place : Option Nat) :
    Bridge × Nat :=
  let i := b.inquiries.length
  let asked : Bridge := { b with inquiries := b.inquiries ++ [{ application := a, id }] }
  if place = some a then (asked.lookInPlace env a i id, i)
  else match asked.dispatch a (.inquire i) with
    | (b', .ok ()) => (b', i)
    | (b', .error e) => (b'.answerInquiry i (.unknown e), i)

/-- The answer to an inquiry, once there is one. -/
def visibility? (b : Bridge) (i : Nat) : Option Visibility := (b.inquiries[i]?).bind (·.answer)

/-- Begin to bring the window of a machine to the front, which first asks whether
it is visible. -/
def beginFront (env : Environment) (b : Bridge) (m : Nat) (place : Option Nat) :
    Bridge × Except BridgeError Nat :=
  match b.admitted m PlatformVersion.forStopAndGraphics with
  | .error e => (b, .error e)
  | .ok machine =>
    match machine.window.openIn? with
    | none => (b, .error (.precondition .noWindow))
    | some (a, id) =>
      let (b, i) := b.inquire env a id place
      (b, .ok i)

/-- Go on once it is known whether the window is visible. -/
def finishFront (b : Bridge) (i : Nat) (v : Visibility) : Bridge × Except BridgeError Unit :=
  match v, b.inquiries[i]? with
  | .known true, some inquiry => b.dispatch inquiry.application (.bringToFront inquiry.id)
  | .known _, _ => (b, .error (.precondition .windowNotAvailable))
  | .unknown e, _ => (b, .error e)

/-- Begin to find out whether a machine has a window on screen. Without an open
window there is nothing to ask. -/
def beginHasWindow (env : Environment) (b : Bridge) (m : Nat) (place : Option Nat) :
    Bridge × Option Nat :=
  match (b.machines[m]?).bind (·.window.openIn?) with
  | none => (b, none)
  | some (a, id) =>
    let (b, i) := b.inquire env a id place
    (b, some i)

end MachineBridge.Bridge

namespace MachineBridge

/-- A window counts as being there when it is known to be visible. -/
def Visibility.hasWindow : Visibility → Bool
  | .known isVisible => isVisible
  | .unknown _ => false

end MachineBridge
