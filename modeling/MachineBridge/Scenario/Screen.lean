import MachineBridge.Application

/-!
# MachineBridge.Scenario.Screen

A scripted toolkit for one application.  It knows which windows are on screen,
notes every call that is made into it, and panics in a method as often as it was
told to, each time without changing anything.
-/

namespace MachineBridge.Scenario

/-- The name of the method of a toolkit call. -/
def methodName : ToolkitCall → String
  | .create .. => "create"
  | .show _ => "show"
  | .bringToFront _ => "front"
  | .isVisible _ => "visible"
  | .close _ => "close"

/-- A scripted toolkit: the windows on screen, the identifiers it was asked to
create windows for, the methods that will panic, each as often as it will, and
the calls noted since the last look.  `handled` counts the events it has seen. -/
structure Screen where
  visible : List Handle := []
  created : List Handle := []
  panicking : List String := []
  handled : Nat := 0
  log : List ToolkitCall := []
deriving DecidableEq, Repr

namespace Screen

def reveal (s : Screen) (id : Handle) : Screen :=
  if s.visible.contains id then s else { s with visible := id :: s.visible }

def hide (s : Screen) (id : Handle) : Screen := { s with visible := s.visible.filter (· ≠ id) }

/-- Let a method panic once more. -/
def armPanic (s : Screen) (method : String) : Screen :=
  { s with panicking := method :: s.panicking }

/-- What a call changes when it does not panic. -/
def apply (s : Screen) : ToolkitCall → Screen
  | .create id _ => s.reveal id
  | .show id => s.reveal id
  | .bringToFront _ => s
  | .isVisible _ => s
  | .close id => s.hide id

/-- Note a call and carry it out, or panic. -/
def receive (s : Screen) (c : ToolkitCall) : Screen :=
  let noted := { s with
    log := s.log ++ [c]
    created := match c with
      | .create id _ => s.created ++ [id]
      | _ => s.created }
  if s.panicking.contains (methodName c) then
    { noted with panicking := s.panicking.erase (methodName c) }
  else noted.apply c

/-- See an event of the application. -/
def see (s : Screen) : WindowEvent → Screen
  | .called c => s.receive c
  | .closedByUser _ => s

end Screen

end MachineBridge.Scenario
