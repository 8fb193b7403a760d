import MachineBridge.Handle
import MachineBridge.Options

/-!
# MachineBridge.Machine.WindowState

What a machine knows of its window.  The token is allocated by the first request
and kept for every later window; a request marks the window open, a report of
its closing marks it closed.  Teardown forgets all of it.  It leaves no mark of its
own: a request finds out whether its machine is alive and opens the window in one
step, so a machine that is torn down is refused before its window is looked at.
-/

namespace MachineBridge

/-- The window of a machine: whether it is open, its token, the application that
shows it (by number) and its description. -/
structure WindowState where
  isOpen : Bool := false
  token : Option Handle := none
  application : Option Nat := none
  spec : Option WindowSpec := none
deriving DecidableEq, Repr

namespace WindowState

/-- Mark the window open in an application. -/
def opened (w : WindowState) (token : Handle) (application : Nat) (spec : WindowSpec) :
    WindowState :=
  { w with isOpen := true, token := some token, application := some application, spec := some spec }

def closed (w : WindowState) : WindowState := { w with isOpen := false }

/-- What is needed to show the window again, once it was opened. -/
def reopening? (w : WindowState) : Option (Nat × Handle × WindowSpec) :=
  match w.application, w.token, w.spec with
  | some application, some token, some spec => some (application, token, spec)
  | _, _, _ => none

/-- The application and the token of an open window. -/
def openIn? (w : WindowState) : Option (Nat × Handle) :=
  match w.isOpen, w.application, w.token with
  | true, some application, some token => some (application, token)
  | _, _, _ => none

/-- A window can be shown again exactly when all that it takes is known. -/
theorem reopening?_eq_some_iff {w : WindowState} {application : Nat} {token : Handle}
    {spec : WindowSpec} :
    w.reopening? = some (application, token, spec) ↔
      w.application = some application ∧ w.token = some token ∧ w.spec = some spec := by
  unfold reopening?
  split
  · next h₁ h₂ h₃ => simp [h₁, h₂, h₃]
  · next h =>
    simp only [reduceCtorEq, false_iff]
    rintro ⟨h₁, h₂, h₃⟩
    exact h _ _ _ h₁ h₂ h₃

end WindowState

end MachineBridge
