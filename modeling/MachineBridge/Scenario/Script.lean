import MachineBridge.Bridge.Callback

/-!
# MachineBridge.Scenario.Script

A scripted runtime for one machine.  It keeps a state code of its own, notes
every call that is made into it together with the events it raises in response,
and takes what it does from a queue of plans.
-/

namespace MachineBridge.Scenario

/-- What a scripted runtime does when it is called. -/
structure Plan where
  /-- The state codes to raise, if they are not the usual ones. -/
  states : Option (List Int32) := none
  /-- The lost attachments to report. -/
  disconnects : List (Int32 × Option ForeignError) := []
  /-- The error of the completion, or of the request to stop. -/
  error : Option ForeignError := none
  /-- Whether the completion is withheld. -/
  hold : Bool := false
  /-- Whether the completion is fired a second time. -/
  twice : Bool := false
  /-- Whether the end of the reports is announced on release. -/
  close : Bool := true
  /-- The answer to the request to stop, if it is not the usual one. -/
  value : Option Bool := none
deriving DecidableEq, Repr

/-- The state codes an operation raises usually. -/
def usualStates : Operation → List Int32
  | .start _ => [4, 1]
  | .pause => [5, 2]
  | .resume => [6, 1]
  | .stop => [0]

/-- What a scripted runtime notes: the calls made into it, and the events it
raised with what became of them. -/
inductive RuntimeEntry where
  | created (configuration : MachineConfiguration) (state disconnect : Handle)
  | called (c : RuntimeCall)
  | state (code : Int32) (r : Except CallbackError Unit)
  | disconnected (index : Int32) (r : Except CallbackError Unit)
  | completed (r : Except CallbackError Unit)
  | disconnectsEnded (r : Except CallbackError Unit)
deriving Repr

/-- A scripted runtime: the name of its machine and, once created, its number;
the state code; the tokens it was given, those of completions with their
operations and the latest first; what it will do; and what it has noted since
the last look.  `handled` counts the calls it has responded to. -/
structure Script where
  name : String
  machine : Option Nat := none
  code : Int32 := 0
  stateToken : Handle := .invalid
  disconnectToken : Handle := .invalid
  completions : List (String × Handle) := []
  plans : List (String × Plan) := []
  abilities : List (Query × Bool) := []
  /-- What happens while the machine is created, and the failure of that, if any. -/
  during : Plan := {}
  failure : Option BridgeError := none
  handled : Nat := 0
  log : List RuntimeEntry := []
deriving Repr

namespace Script

def note (s : Script) (e : RuntimeEntry) : Script := { s with log := s.log ++ [e] }

/-- The plan for the next call of an operation. -/
def nextPlan (s : Script) (operation : String) : Plan := (s.plans.lookup operation).getD {}

/-- Use up the plan for the next call of an operation. -/
def dropPlan (s : Script) (operation : String) : Script :=
  { s with plans := s.plans.eraseP fun (name, _) => name == operation }

/-- The name under which plans for the request to stop are kept. -/
def requestStopName : String := "request_stop"

/-- The name under which plans for the release are kept. -/
def releaseName : String := "release"

/-- What the runtime answers to a query, if it was told nothing else. -/
def usualAnswer (code : Int32) : Query → Bool
  | .canStart => code == 0 || code == 3
  | .canPause => code == 1
  | .canResume => code == 2
  | .canRequestStop => code == 1
  | .canStop => code == 1 || code == 2

def answer (s : Script) (q : Query) : Bool :=
  (s.abilities.lookup q).getD (usualAnswer s.code q)

def requestStopAnswer (s : Script) : Except ForeignError Bool :=
  let plan := s.nextPlan requestStopName
  match plan.error with
  | some e => .error e
  | none => .ok (plan.value.getD (s.code == 1))

/-- The completion token that the runtime was given last, for one operation or
for any. -/
def lastCompletion (s : Script) (operation : Option String) : Handle :=
  match operation with
  | some name => (s.completions.lookup name).getD .invalid
  | none => (s.completions.head?.map (·.2)).getD .invalid

end Script

end MachineBridge.Scenario
