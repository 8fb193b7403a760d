import MachineBridge.Registry

/-!
# MachineBridge.Registry.Ledger

Ownership of shared cells.  A cell is a number that several tokens and several
references held outside the registry may share.  The ledger counts those owners
and drops a cell when the last one goes; while a reference is held it reads the
current number of its cell, also after its token was released.
-/

namespace MachineBridge

/-- A shared number with the count of its owners. -/
structure Cell where
  number : Int64
  owners : Nat
  dropped : Bool := false
deriving DecidableEq, Repr

/-- What a caller registers and sees: data, or a cell by the number in it. -/
inductive Content where
  | int32 (n : Int32)
  | uint64 (n : UInt64)
  | word (n : Nat)
  | bool (b : Bool)
  | text (s : String)
  | int32List (ns : List Int32)
  | unit
  | cell (n : Int64)
  /-- A component of the bridge, of which nothing is shown. -/
  | component
deriving DecidableEq, Repr

/-- How a value comes into the registry. -/
inductive Via where
  | plain
  /-- Through a builder that looks at its own token. -/
  | builder
deriving DecidableEq, Repr

/-- A registry, the cells of its values, and the references held under names. -/
structure Ledger where
  registry : Registry := {}
  cells : List Cell := []
  held : List (String × Value) := []
deriving DecidableEq, Repr

namespace Ledger

/-! ## owners -/

/-- One more owner of what a value refers to. -/
def retain (l : Ledger) : Value → Ledger
  | .cell id => { l with cells := l.cells.modify id fun c => { c with owners := c.owners + 1 } }
  | _ => l

/-- One owner less; a cell without owners is dropped. -/
def letGo (l : Ledger) : Value → Ledger
  | .cell id =>
    { l with cells := l.cells.modify id fun c =>
        { c with owners := c.owners - 1, dropped := c.dropped || c.owners == 1 } }
  | _ => l

/-- The number of cells dropped so far. -/
def drops (l : Ledger) : Nat := l.cells.countP (·.dropped)

/-- What a value shows. -/
def content (l : Ledger) : Value → Content
  | .int32 n => .int32 n
  | .uint64 n => .uint64 n
  | .word n => .word n
  | .bool b => .bool b
  | .text s => .text s
  | .int32List ns => .int32List ns
  | .unit => .unit
  | .cell id => .cell ((l.cells[id]?.map (·.number)).getD 0)
  | _ => .component

/-- The value that carries a content; a cell is created for it, without owners. -/
def build (l : Ledger) : Content → Ledger × Value
  | .int32 n => (l, .int32 n)
  | .uint64 n => (l, .uint64 n)
  | .word n => (l, .word n)
  | .bool b => (l, .bool b)
  | .text s => (l, .text s)
  | .int32List ns => (l, .int32List ns)
  | .unit => (l, .unit)
  | .cell n => ({ l with cells := l.cells ++ [⟨n, 0, false⟩] }, .cell l.cells.length)
  | .component => (l, .unit)

/-! ## operations -/

/-- Store a value under an issued token, which becomes an owner of it. -/
def store (l : Ledger) (h : Handle) (v : Value) : Ledger :=
  { l with registry := l.registry.store h v }.retain v

def register (l : Ledger) (v : Value) : Ledger × Handle :=
  let (registry, h) := l.registry.issue
  ({ l with registry }.store h v, h)

/-- Release a token, which stops owning its value. -/
def release (l : Ledger) (h : Handle) : Ledger × Except HandleError Unit :=
  match l.registry.release h with
  | .ok (registry, v) => ({ l with registry }.letGo v, .ok ())
  | .error e => (l, .error e)

/-- Keep a reference under a name, letting go of an older one of that name. -/
def hold (l : Ledger) (k : Kind) (h : Handle) (name : String) :
    Ledger × Except HandleError Unit :=
  match l.registry.resolve k h with
  | .error e => (l, .error e)
  | .ok v =>
    let kept := l.retain v
    let freed := match l.held.lookup name with
      | some old => kept.letGo old
      | none => kept
    ({ freed with held := (name, v) :: freed.held.filter fun (n, _) => n ≠ name }, .ok ())

/-- Let go of the reference of a name; false if there is none. -/
def letGoName (l : Ledger) (name : String) : Ledger × Bool :=
  match l.held.lookup name with
  | some v => ({ l with held := l.held.filter fun (n, _) => n ≠ name }.letGo v, true)
  | none => (l, false)

/-- Add to the number of the cell that a token names; the sum wraps around. -/
def add (l : Ledger) (h : Handle) (n : Int64) : Ledger × Except HandleError Int64 :=
  match l.registry.resolve .cell h with
  | .error e => (l, .error e)
  | .ok (.cell id) =>
    let l := { l with cells := l.cells.modify id fun c => { c with number := c.number + n } }
    (l, .ok ((l.cells[id]?.map (·.number)).getD 0))
  | .ok _ => (l, .error (.notFound h))

/-! ## steps -/

/-- One use of the registry. -/
inductive Step where
  | register (content : Content) (via : Via)
  /-- Register one cell under two tokens. -/
  | registerShared (number : Int64)
  /-- Register a number from inside the builder of a token's own number. -/
  | registerNested (number : Int32)
  /-- Register with a builder that panics. -/
  | registerPanicking
  | resolve (handle : Handle) (kind : Kind)
  | release (handle : Handle)
  | contains (handle : Handle)
  | isEmpty
  | debug
  | hold (handle : Handle) (kind : Kind) (name : String)
  | read (name : String)
  | letGo (name : String)
  | add (handle : Handle) (number : Int64)
  | drops
  /-- Workers that each register, resolve and perhaps release `count` values. -/
  | concurrent (workers count : Nat) (release : Bool)
deriving Repr

/-- What workers found out: the number of distinct tokens, the number of right
answers, and the greatest token. -/
structure Tally where
  unique : Nat := 0
  right : Nat := 0
  greatest : Option Handle := none
deriving DecidableEq, Repr

/-- Count a token and the answer to it. Tokens are issued in their order, so one
that was seen before is not greater than the greatest. -/
def Tally.count (t : Tally) (h : Handle) (right : Bool) : Tally :=
  let isNew := t.greatest.all fun g => g.raw < h.raw
  { unique := if isNew then t.unique + 1 else t.unique
    right := if right then t.right + 1 else t.right
    greatest := if isNew then some h else t.greatest }

inductive Reply where
  | token (handle : Handle)
  | tokens (handles : List Handle)
  /-- What a builder saw: its own token, whether it resolved, and the size. -/
  | built (handle own : Handle) (visible : Bool) (size : Nat)
  | nested (outer inner : Handle)
  | panicked
  | value (content : Content)
  | done
  | failed (e : HandleError)
  | truth (b : Bool)
  | text (s : String)
  | held
  | nothingHeld
  | number (n : Int)
  | tally (tally : Tally)
deriving Repr

/-- An answer that carries nothing but success. -/
def Reply.ofUnit (ok : Reply) : Except HandleError Unit → Reply
  | .ok () => ok
  | .error e => .failed e

/-- Register, resolve and perhaps release `left` values one after the other. A value
that is released at once leaves nothing but its token, which stays used. -/
def churn (release : Bool) : Nat → Ledger → Tally → Ledger × Tally
  | 0, l, tally => (l, tally)
  | left + 1, l, tally =>
    let v := Value.uint64 (UInt64.ofNat left)
    let (stored, h) := l.register v
    let right := (stored.registry.resolve .uint64 h).toOption = some v
    let l := if release then { l with registry := l.registry.issue.1 } else stored
    churn release left l (tally.count h right)

def step (l : Ledger) : Step → Ledger × Reply
  | .register content via =>
    let (registry, h) := l.registry.issue
    let issued := { l with registry }
    let (built, v) := issued.build content
    let stored := built.store h v
    match via with
    | .plain => (stored, .token h)
    | .builder => (stored, .built h h (registry.contains h) registry.size)
  | .registerShared number =>
    let (l, v) := l.build (.cell number)
    let (l, a) := l.register v
    let (l, b) := l.register v
    (l, .tokens [a, b])
  | .registerNested number =>
    let (registry, outer) := l.registry.issue
    let (l, inner) := { l with registry }.register (.int32 number)
    (l.store outer (.word outer.raw), .nested outer inner)
  | .registerPanicking => ({ l with registry := l.registry.issue.1 }, .panicked)
  | .resolve h k =>
    match l.registry.resolve k h with
    | .ok v => (l, .value (l.content v))
    | .error e => (l, .failed e)
  | .release h =>
    let (l, r) := l.release h
    (l, .ofUnit .done r)
  | .contains h => (l, .truth (l.registry.contains h))
  | .isEmpty => (l, .truth l.registry.isEmpty)
  | .debug => (l, .text l.registry.debugText)
  | .hold h k name =>
    let (l, r) := l.hold k h name
    (l, .ofUnit .held r)
  | .read name =>
    match l.held.lookup name with
    | some v => (l, .value (l.content v))
    | none => (l, .nothingHeld)
  | .letGo name =>
    let (l, b) := l.letGoName name
    (l, .truth b)
  | .add h n =>
    match l.add h n with
    | (l, .ok sum) => (l, .number sum.toInt)
    | (l, .error e) => (l, .failed e)
  | .drops => (l, .number l.drops)
  | .concurrent workers count release =>
    let (l, tally) := churn release (workers * count) l {}
    (l, .tally tally)

end Ledger

end MachineBridge
