import MachineBridge.Logging
import MachineBridge.Proofs.Logging.Directories

/-!
# MachineBridge.Proofs.Logging.Install

A list of calls that install the log.  Calls fail, each with its own error and without
touching a file, until the first that succeeds; that one makes its log file, and nothing
happens after it.  So at most one log file comes to the files there were, the one that
the first success would have made alone.  It would not have succeeded alone only where
its path ends in a point, which makes no directory of its last name, and a call that
failed has made that directory.
-/

namespace MachineBridge.Logging

open FileTree

variable {s : Setting} {t t' t₁ : FileTree} {options : LoggingOptions}
  {calls : List LoggingOptions} {e : BridgeError} {errors : List BridgeError}

/-! ## one call -/

/-- The filter of the environment is unset or invalid, and so is that of the call. -/
def Unfiltered (s : Setting) (options : LoggingOptions) : Prop :=
  (∀ filter ∈ s.environment, s.fault? filter ≠ none) ∧ s.fault? options.filter ≠ none

/-- The files of two trees are the same. -/
def SameFiles (t t' : FileTree) : Prop :=
  ∀ place, t'.node? place = some .file ↔ t.node? place = some .file

/-- A call that fails: with the fault of its filter before anything is done, or with that of
its directory, and no file changes. -/
inductive Refused (s : Setting) (t : FileTree) (options : LoggingOptions) :
    BridgeError → FileTree → Prop
  | filter {fault : FilterFault} : Unfiltered s options → s.fault? options.filter = some fault →
      Refused s t options (.validation (.logFilter options.filter fault)) t
  | directory {path : String} {e : FileError} {t' : FileTree} :
      ¬ Unfiltered s options → options.directory = some path →
      t.createDirectory s.pathLimit path = (t', .error e) → SameFiles t t' →
      Refused s t options (.io e) t'

/-- A call that succeeds: it may make its log file in the directory that it makes. -/
inductive Accepted (s : Setting) (t : FileTree) (options : LoggingOptions) : FileTree → Prop
  | silent : ¬ Unfiltered s options → options.directory = none → Accepted s t options t
  | logged {path : String} {place : List String} {t' : FileTree} :
      ¬ Unfiltered s options → options.directory = some path →
      t.createDirectory s.pathLimit path = (t', .ok place) →
      Accepted s t options (t'.create (place ++ [fileName]) .file)

/-- A call that is refused makes directories at most. -/
theorem Refused.widens (h : Refused s t options e t') : Widens t t' := by
  cases h with
  | filter => exact .refl t
  | @directory path e _ _ _ made _ =>
    have widens := widens_createDirectory t s.pathLimit path
    rwa [made] at widens

/-! ## the log file -/

/-- Where the log file of a call is, if it wants one. -/
def logFile? (options : LoggingOptions) : Option (List String) :=
  options.directory.map fun path => (FileTree.names path).foldl target [] ++ [fileName]

/-- A call that succeeds: the whole path of its directory is there, and its log file is the
only one that comes to the files. -/
structure Logs (t : FileTree) (options : LoggingOptions) (t' : FileTree) : Prop where
  directory : ∀ path ∈ options.directory, ∃ place,
    t'.Reaches [] (FileTree.names path) place ∧ logFile? options = some (place ++ [fileName])
  files : ∀ place, t'.node? place = some .file ↔
    t.node? place = some .file ∨ logFile? options = some place

/-- Calls that all fail, their errors, and the tree they leave. -/
inductive Failing (s : Setting) :
    FileTree → List LoggingOptions → List BridgeError → FileTree → Prop
  | nil (t : FileTree) : Failing s t [] [] t
  | cons {t t₁ t' : FileTree} {options : LoggingOptions} {rest : List LoggingOptions}
      {e : BridgeError} {errors : List BridgeError} :
      Refused s t options e t₁ → Failing s t₁ rest errors t' →
      Failing s t (options :: rest) (e :: errors) t'

/-- Calls that fail make directories at most. -/
theorem Failing.widens (h : Failing s t calls errors t') : Widens t t' := by
  induction h with
  | nil t => exact .refl t
  | cons refused _ ih => exact refused.widens.trans ih

/-- What comes of a list of calls. -/
inductive Outcome (s : Setting) (t : FileTree) (calls : List LoggingOptions) :
    Logging × List (Except BridgeError Unit) → Prop
  /-- All fail, and the files are as before. -/
  | failed {errors : List BridgeError} {t' : FileTree} :
      Failing s t calls errors t' → SameFiles t t' →
      Outcome s t calls (⟨false, t'⟩, errors.map .error)
  /-- The first success comes behind failures; its log file comes to the files, as it would
  alone, where it succeeds alone. -/
  | installed {before after : List LoggingOptions} {options : LoggingOptions}
      {errors : List BridgeError} {t₁ t' : FileTree} :
      calls = before ++ options :: after → Failing s t before errors t₁ →
      SameFiles t t₁ → Accepted s t₁ options t' → Logs t options t' →
      (∀ u, install s ⟨false, t⟩ options = (⟨true, u⟩, .ok ()) → SameFiles u t') →
      ((∀ path ∈ options.directory, endsInPoint path = false) →
        ∃ u, install s ⟨false, t⟩ options = (⟨true, u⟩, .ok ())) →
      Outcome s t calls
        (⟨true, t'⟩, errors.map .error ++ .ok () :: after.map fun _ => .ok ())

end MachineBridge.Logging
