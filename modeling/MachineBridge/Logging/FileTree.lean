import MachineBridge.Error

/-!
# MachineBridge.Logging.FileTree

The files below a working directory, and making a directory with all directories
above it.  A path is followed name by name through directories that are there.
From the first one that is missing on, each directory on the path is made, unless
it is there, and the first failure ends it.
-/

namespace MachineBridge

/-- What stands at a place. -/
inductive FileNode where
  | directory
  | file
deriving DecidableEq, Repr

/-- A file system around a working directory: what stands at each place, a place
being the names that lead to it from there.  The empty place is the working
directory, and a place of double points only is a directory above it. -/
abbrev FileTree := List (List String × FileNode)

namespace FileTree

/-! ## places -/

/-- The name that leads up. -/
def up : String := ".."

/-- The greatest length of a name, in bytes. -/
def nameLimit : Nat := 255

/-- Whether a place is the working directory or above it. -/
def isAbove (place : List String) : Bool := place.all (· == up)

def parent (place : List String) : List String :=
  if isAbove place then up :: place else place.dropLast

def node? (t : FileTree) (place : List String) : Option FileNode :=
  if isAbove place then some .directory else t.lookup place

/-- Put something at a place where nothing stands. -/
def add (t : FileTree) (place : List String) (node : FileNode) : FileTree := t ++ [(place, node)]

/-- Put something at a place unless something stands there. -/
def create (t : FileTree) (place : List String) (node : FileNode) : FileTree :=
  if (t.node? place).isSome then t else t.add place node

/-! ## following a path -/

/-- What stands between the slashes of a path. -/
def pieces (path : String) : List String := (path.toList.splitOn '/').map String.ofList

/-- The names in a path; a repeated slash and a single point add none. -/
def names (path : String) : List String :=
  (pieces path).filter fun name => name ≠ "" && name ≠ "."

/-- Whether a path ends in a single point. -/
def endsInPoint (path : String) : Bool :=
  ((pieces path).filter (· ≠ "")).getLast? == some "."

/-- Go from a directory to the directory of a name in it. -/
def enter (t : FileTree) (here : List String) (name : String) : Except FileError (List String) :=
  if name = up then .ok (parent here)
  else if name.utf8ByteSize > nameLimit then .error .nameTooLong
  else match t.node? (here ++ [name]) with
    | some .directory => .ok (here ++ [name])
    | some .file => .error .notADirectory
    | none => .error .noSuchFile

/-! ## making directories -/

/-- Go from a directory to the directory of a name in it, which is made if nothing
is there. -/
def enterOrMake (t : FileTree) (here : List String) (name : String) :
    FileTree × Except FileError (List String) :=
  match t.enter here name with
  | .error .noSuchFile => (t.add (here ++ [name]) .directory, .ok (here ++ [name]))
  | .error .notADirectory => (t, .error .fileExists)
  | result => (t, result)

/-- Follow names from a directory and make the directories that are missing. With a
point behind it, the last name leads into its directory, which is not made. -/
def makeAll (t : FileTree) (pointed : Bool) (here : List String) :
    List String → FileTree × Except FileError (List String)
  | [] => (t, .ok here)
  | name :: rest =>
    if pointed && rest.isEmpty then (t, t.enter here name)
    else match t.enterOrMake here name with
      | (t, .ok here) => makeAll t pointed here rest
      | failed => failed

/-- Follow names from a directory. A file on the way is no directory, and at its
end, where a directory is to be made, it is what exists already. -/
def reach (t : FileTree) (pointed : Bool) (here : List String) :
    List String → FileTree × Except FileError (List String)
  | [] => (t, .ok here)
  | name :: rest =>
    match t.enter here name with
    | .ok here => reach t pointed here rest
    | .error .noSuchFile => t.makeAll pointed here (name :: rest)
    | .error .notADirectory =>
      (t, .error (if !pointed && rest.isEmpty then .fileExists else .notADirectory))
    | .error e => (t, .error e)

/-- Make the directory of a path with all directories above it; answers its
place. A path has `pathLimit` bytes at most: how many depends on the path of the
working directory, which is a part of the whole path. -/
def createDirectory (t : FileTree) (pathLimit : Nat) (path : String) :
    FileTree × Except FileError (List String) :=
  if path.toList.contains '\x00' then (t, .error .nulInPath)
  else if path.utf8ByteSize > pathLimit then (t, .error .nameTooLong)
  else t.reach (endsInPoint path) [] (names path)

/-! ## listing -/

/-- How an entry is listed: a directory with a slash behind it. -/
def listed : List String × FileNode → String
  | (place, .directory) => "/".intercalate place ++ "/"
  | (place, .file) => "/".intercalate place

/-- All entries below the working directory, in the order of their texts. -/
def list (t : FileTree) : List String :=
  ((t.filter fun (place, _) => place.head? ≠ some up).map listed).mergeSort
    (fun a b => decide (a ≤ b))

end FileTree

end MachineBridge
