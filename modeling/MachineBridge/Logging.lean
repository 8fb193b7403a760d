import MachineBridge.Logging.FileTree
import MachineBridge.Logging.Filter
import MachineBridge.Options

/-!
# MachineBridge.Logging

Installing the log.  The first call that succeeds fixes the filter and creates
the log file; every later call changes nothing.
-/

namespace MachineBridge

/-! ## surroundings -/

/-- The state of the log of a process: whether it is installed, and the files
below the working directory. -/
structure Logging where
  installed : Bool := false
  tree : FileTree := []
deriving DecidableEq, Repr

namespace Logging

/-- What a process brings to the installation of its log. -/
structure Setting where
  /-- The filter that is set in the environment. -/
  environment : Option String := none
  /-- The reader of filters: what is wrong with one. -/
  fault? : String → Option FilterFault := LogFilter.fault?
  /-- The greatest length of a path below the working directory, in bytes. A whole
  path has 4095 at most; this leaves 27 of them to the path of the working directory. -/
  pathLimit : Nat := 4068

/-! ## installation -/

def fileName : String := "vzlite.log"

/-- The filter of a call: the one of the environment when it is valid, else the
one of the options, which then has to be valid. -/
def chooseFilter (s : Setting) (options : LoggingOptions) : Except BridgeError String :=
  match s.environment.filter fun f => (s.fault? f).isNone with
  | some filter => .ok filter
  | none =>
    match s.fault? options.filter with
    | none => .ok options.filter
    | some fault => .error (.validation (.logFilter options.filter fault))

/-- Create the directory of the log file and the file in it. -/
def openFile (s : Setting) (t : FileTree) (directory : String) :
    FileTree × Except BridgeError Unit :=
  match t.createDirectory s.pathLimit directory with
  | (t, .ok place) => (t.create (place ++ [fileName]) .file, .ok ())
  | (t, .error e) => (t, .error (.io e))

/-- Install the log once.  The filter is checked before the file system is
touched; a call that fails leaves the log uninstalled. -/
def install (s : Setting) (l : Logging) (options : LoggingOptions) :
    Logging × Except BridgeError Unit :=
  if l.installed then (l, .ok ())
  else match chooseFilter s options with
    | .error e => (l, .error e)
    | .ok _ =>
      match options.directory with
      | none => ({ l with installed := true }, .ok ())
      | some directory =>
        match openFile s l.tree directory with
        | (tree, .ok ()) => ({ installed := true, tree }, .ok ())
        | (tree, .error e) => ({ l with tree }, .error e)

def run (s : Setting) (l : Logging) :
    List LoggingOptions → Logging × List (Except BridgeError Unit)
  | [] => (l, [])
  | options :: rest =>
    let (l, result) := l.install s options
    let (l, results) := l.run s rest
    (l, result :: results)

/-- Run a list of calls in order, with the reader of filters that is there. -/
def installAll (environment : Option String) (l : Logging) (calls : List LoggingOptions) :
    Logging × List (Except BridgeError Unit) :=
  l.run { environment } calls

end Logging

end MachineBridge
