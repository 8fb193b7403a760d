import MachineBridge.Decimal.Positional

/-!
# MachineBridge.Options

Options of the operations on a machine, and the description of a window that
the toolkit is asked to build.
-/

namespace MachineBridge

structure StartOptions where
  /-- Boot from the recovery partition of the guest. -/
  fromRecovery : Bool := false
deriving DecidableEq, Repr, Inhabited

structure GraphicsOptions where
  /-- The window title; empty means the default of the toolkit. -/
  title : String := ""
  /-- Show controls for pausing, resuming and stopping in the toolbar. -/
  enableController : Bool := false
  /-- Ask for confirmation before closing the window stops the machine. -/
  confirmStopOnClose : Bool := true
deriving DecidableEq, Repr, Inhabited

structure LoggingOptions where
  /-- The filter used when the environment names none. -/
  filter : String := "info"
  /-- The directory of the log file, if one is wanted. -/
  directory : Option String := none
deriving DecidableEq, Repr, Inhabited

/-- Everything the toolkit needs to build the window of a machine. -/
structure WindowSpec where
  width : Float
  height : Float
  title : String
  enableController : Bool
  confirmStopOnClose : Bool
deriving DecidableEq, Repr

namespace WindowSpec

/-- The window of the given size with the given options. -/
def ofOptions (width height : Float) (options : GraphicsOptions) : WindowSpec :=
  { width, height
    title := options.title
    enableController := options.enableController
    confirmStopOnClose := options.confirmStopOnClose }

/-- Two descriptions are the same when their sizes are equal as numbers, so a
size that is not a number is never the same as itself. -/
def same (a b : WindowSpec) : Bool :=
  a.width == b.width && a.height == b.height && a.title == b.title &&
    a.enableController == b.enableController && a.confirmStopOnClose == b.confirmStopOnClose

/-- A window size is positive when both numbers are; a size that is not a
number is not positive. -/
def isPositiveSize (width height : Float) : Bool := 0 < width && 0 < height

end WindowSpec

end MachineBridge
