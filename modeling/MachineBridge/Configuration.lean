import MachineBridge.Error
import MachineBridge.Text.Blank

/-!
# MachineBridge.Configuration

Static configuration of a machine.  It is set once at creation and never
changes; the list of network devices is what maps a device index reported by
the runtime back to a device of the caller.

* `MachineConfiguration.validate` reports the first failing check;
* `MachineConfiguration.device?` answers exactly the indices in range.
-/

namespace MachineBridge

open Decimal

/-- How a network device reaches the host. -/
inductive NetworkAttachment where
  | nat
  | bridged (interface : String)
  | fileHandle (fd : Int32)
deriving DecidableEq, Repr

/-- The attachment as it is named in messages. -/
def NetworkAttachment.text : NetworkAttachment → String
  | .nat => "nat attachment"
  | .bridged interface => "bridged attachment (" ++ interface ++ ")"
  | .fileHandle fd => "file handle attachment (fd " ++ intText fd.toInt ++ ")"

/-- Whether an attachment is bridged to an interface with a blank name. -/
def NetworkAttachment.isBlank : NetworkAttachment → Bool
  | .bridged interface => Text.isBlank interface
  | _ => false

/-- Configuration of one network device. Without a `macAddress` the runtime
assigns one. -/
structure NetworkDevice where
  attachment : NetworkAttachment
  macAddress : Option String := none
deriving DecidableEq, Repr

def NetworkDevice.withMacAddress (d : NetworkDevice) (mac : String) : NetworkDevice :=
  { d with macAddress := some mac }

structure MachineConfiguration where
  cpuCount : UInt32
  memorySize : UInt64
  /-- Network devices, in the order in which the runtime numbers them. -/
  networkDevices : List NetworkDevice := []
deriving DecidableEq, Repr

namespace MachineConfiguration

/-- Append a network device; its index is its position in the list. -/
def withNetworkDevice (c : MachineConfiguration) (d : NetworkDevice) : MachineConfiguration :=
  { c with networkDevices := c.networkDevices ++ [d] }

/-- The device at the index the runtime reports; none for a negative index or
one past the end. -/
def device? (c : MachineConfiguration) (index : Int32) : Option NetworkDevice :=
  if index.toInt < 0 then none else c.networkDevices[index.toInt.toNat]?

/-- The position of the first device bridged to a blank interface name,
counted from `start`. -/
def firstBlank? (start : Nat) : List NetworkDevice → Option Nat
  | [] => none
  | d :: rest => if d.attachment.isBlank then some start else firstBlank? (start + 1) rest

/-- Check the configuration before it reaches the runtime: the processors, then
the memory, then the devices in order. -/
def validate (c : MachineConfiguration) : Except BridgeError Unit :=
  if c.cpuCount = 0 then .error (.validation .noCpu)
  else if c.memorySize = 0 then .error (.validation .noMemory)
  else match firstBlank? 0 c.networkDevices with
    | some index => .error (.validation (.blankInterface index))
    | none => .ok ()

end MachineConfiguration

end MachineBridge
