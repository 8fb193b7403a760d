import MachineBridge.Scenario

/-!
# MachineBridge.Scenario.Name

Names of a scenario.  A machine or a stream that is given a name takes it from
whatever had it, which is dropped.  A token is given by its number or by the name of whoever
was given it: `a.state` is the state token of the machine `a`, `g.window` the
window that the toolkit of the application `g` was asked to create last.
-/

namespace MachineBridge.Scenario

/-! ## tables of names -/

/-- Give a name, taking it from whatever has it. -/
def rename {α : Type} (name : String) (a : α) (table : List (String × α)) : List (String × α) :=
  (name, a) :: table.filter fun (other, _) => other ≠ name

/-- Take a name away. -/
def unname {α : Type} (name : String) (table : List (String × α)) : List (String × α) :=
  table.filter fun (other, _) => other ≠ name

/-- Give a reference to a machine a name; a reference of that name is dropped. -/
def nameMachine (s : Scenario) (vm : String) (m : Nat) : Scenario :=
  let named := { s with machines := rename vm m s.machines }
  match s.machines.lookup vm with
  | some old => named.change fun _ b => b.dropReference old
  | none => named

def dropStream (s : Scenario) : Stream → Scenario
  | .states m i => s.change fun _ b => b.dropStates m i
  | .disconnects m i => s.change fun _ b => b.dropDisconnects m i

/-- Give a stream a name; a stream of that name is dropped. -/
def nameStream (s : Scenario) (name : String) (stream : Stream) : Scenario :=
  let named := { s with streams := rename name stream s.streams }
  match s.streams.lookup name with
  | some old => named.dropStream old
  | none => named

/-! ## tokens -/

/-- One of the tokens that a runtime was given. -/
inductive RuntimeToken where
  | state
  | disconnect
  /-- The last completion token, of one operation or of any. -/
  | completion (operation : Option String)
deriving DecidableEq, Repr

/-- A token as a scenario gives it. -/
inductive TokenName where
  | number (h : Handle)
  | ofRuntime (name : String) (token : RuntimeToken)
  /-- The window that was created last, or the one created at an index. -/
  | ofWindow (application : String) (index : Option Nat)
  | unknown
deriving DecidableEq, Repr

namespace TokenName

/-- The number written in decimal digits. -/
def digits? (cs : List Char) : Option Nat :=
  if cs.isEmpty || !cs.all Char.isDigit then none else some (Nat.ofDigitChars 10 cs 0)

/-- Read the part of a token's name behind the point. -/
def ofParts (name : String) (what : List Char) : TokenName :=
  let word := String.ofList what
  if word = "state" then .ofRuntime name .state
  else if word = "disconnect" then .ofRuntime name .disconnect
  else if word = "completion" then .ofRuntime name (.completion none)
  else if word = "start" || word = "pause" || word = "resume" || word = "stop" then
    .ofRuntime name (.completion (some word))
  else if word = "window" then .ofWindow name none
  else if what.take 6 = "window".toList then
    match digits? (what.drop 6) with
    | some index => .ofWindow name (some index)
    | none => .unknown
  else .unknown

def ofText (s : String) : TokenName :=
  let cs := s.toList
  let name := cs.takeWhile (· ≠ '.')
  ofParts (String.ofList name) (cs.drop (name.length + 1))

end TokenName

/-- The token of a runtime. -/
def runtimeToken (script : Script) : RuntimeToken → Handle
  | .state => script.stateToken
  | .disconnect => script.disconnectToken
  | .completion operation => script.lastCompletion operation

/-- The token a name stands for. -/
def token? (s : Scenario) : TokenName → Option Handle
  | .number h => some h
  | .ofRuntime name token =>
    ((s.runtimes.lookup name).bind fun k => s.scripts[k]?).map fun script =>
      runtimeToken script token
  | .ofWindow name index =>
    ((s.applications.lookup name).bind fun a => s.screens[a]?).map fun screen =>
      match index with
      | some i => (screen.created[i]?).getD .invalid
      | none => (screen.created.getLast?).getD .invalid
  | .unknown => none

end MachineBridge.Scenario
