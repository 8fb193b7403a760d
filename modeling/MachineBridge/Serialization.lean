import MachineBridge.Configuration
import MachineBridge.ExecutionState
import MachineBridge.Json.Printer
import MachineBridge.Json.Reader
import MachineBridge.Json.Record
import MachineBridge.Options
import MachineBridge.Platform

/-!
# MachineBridge.Serialization

The JSON form of the public values.  Each type has a writer `toJson` and a
reader `ofJson?`; `Serial.write` and `Serial.read?` go through the text.  The
writer puts the fields in the order of their declaration and writes an absent
value as `null`; the reader takes them in any order and knows the defaults.
-/

namespace MachineBridge

/-- Types with a JSON form. -/
class Serial (α : Type) where
  toJson : α → Json
  ofJson? : Json → Option α

namespace Serial

/-- The compact text of a value. -/
def write {α : Type} [Serial α] (a : α) : String := (toJson a).render

/-- The value a text stands for. -/
def read? {α : Type} [Serial α] (s : String) : Option α := (Json.parse? s).bind ofJson?

end Serial

/-! ## network attachments -/

namespace NetworkAttachment

/-- The tag of an attachment is its first field. -/
def toJson : NetworkAttachment → Json
  | .nat => .ofFields [("type", .ofString "nat")]
  | .bridged interface =>
    .ofFields [("type", .ofString "bridged"), ("interface", .ofString interface)]
  | .fileHandle fd => .ofFields [("type", .ofString "file_handle"), ("fd", .ofInt fd.toInt)]

/-- Read the fields that belong to a tag.  The fields of a `nat` attachment are
skipped when it is written as an object, and there are none in an array. -/
def ofTagged? (tag : String) (rest : Json) : Option NetworkAttachment :=
  if tag = "nat" then
    match rest with
    | .object _ => some .nat
    | .array [] => some .nat
    | _ => none
  else if tag = "bridged" then do
    match ← rest.record? ["interface"] with
    | [interface] => some (.bridged (← Json.required? Json.text? interface))
    | _ => none
  else if tag = "file_handle" then do
    match ← rest.record? ["fd"] with
    | [fd] => some (.fileHandle (← Json.required? Json.int32? fd))
    | _ => none
  else none

/-- Read an attachment that stands `depth` containers deep.  Its tag may be any
of its fields, so the others are kept until the tag is known. -/
def ofJsonAt? (depth : Nat) (v : Json) : Option NetworkAttachment :=
  match v with
  | .object fields =>
    let others := fields.filter fun (name, _) => name != some "type"
    if (Json.object others).isKeepable (Json.deepestNesting - depth) then do
      let tag ← Json.atMostOnce? fields "type"
      ofTagged? (← Json.required? Json.text? tag) (.object others)
    else none
  | .array (tag :: rest) =>
    if (Json.array rest).isKeepable (Json.deepestNesting - depth) then do
      ofTagged? (← tag.text?) (.array rest)
    else none
  | _ => none

end NetworkAttachment

instance : Serial NetworkAttachment where
  toJson := NetworkAttachment.toJson
  ofJson? := NetworkAttachment.ofJsonAt? 0

/-! ## network devices -/

namespace NetworkDevice

/-- The attachment, then the guest address. -/
def toJson (d : NetworkDevice) : Json :=
  .ofFields [("attachment", d.attachment.toJson), ("mac_address", .ofOption d.macAddress)]

/-- Read a device that stands `depth` containers deep. -/
def ofJsonAt? (depth : Nat) (v : Json) : Option NetworkDevice := do
  match ← v.record? ["attachment", "mac_address"] with
  | [attachment, mac] =>
    some {
      attachment := ← Json.required? (NetworkAttachment.ofJsonAt? (depth + 1)) attachment
      macAddress := ← Json.optional? none (Json.nullable? Json.text?) mac }
  | _ => none

end NetworkDevice

instance : Serial NetworkDevice where
  toJson := NetworkDevice.toJson
  ofJson? := NetworkDevice.ofJsonAt? 0

/-! ## machine configurations -/

namespace MachineConfiguration

/-- The processors, the memory, then the devices. -/
def toJson (c : MachineConfiguration) : Json :=
  .ofFields [
    ("cpu_count", .ofInt c.cpuCount.toNat),
    ("memory_size_bytes", .ofInt c.memorySize.toNat),
    ("network_devices", .array (c.networkDevices.map NetworkDevice.toJson))]

/-- Read a configuration; without a list of devices it has none. -/
def ofJson? (v : Json) : Option MachineConfiguration := do
  match ← v.record? ["cpu_count", "memory_size_bytes", "network_devices"] with
  | [cpus, memory, devices] =>
    some {
      cpuCount := ← Json.required? Json.uint32? cpus
      memorySize := ← Json.required? Json.uint64? memory
      networkDevices :=
        ← Json.optional? [] (Json.list? (NetworkDevice.ofJsonAt? 2)) devices }
  | _ => none

end MachineConfiguration

instance : Serial MachineConfiguration where
  toJson := MachineConfiguration.toJson
  ofJson? := MachineConfiguration.ofJson?

/-! ## options -/

def StartOptions.ofJson? (v : Json) : Option StartOptions := do
  match ← v.record? ["start_up_from_macos_recovery"] with
  | [recovery] => some { fromRecovery := ← Json.optional? false Json.bool? recovery }
  | _ => none

instance : Serial StartOptions where
  toJson o := .ofFields [("start_up_from_macos_recovery", .bool o.fromRecovery)]
  ofJson? := StartOptions.ofJson?

def GraphicsOptions.ofJson? (v : Json) : Option GraphicsOptions := do
  match ← v.record? ["title", "enable_controller", "confirm_stop_on_close"] with
  | [title, controller, confirm] =>
    some {
      title := ← Json.optional? "" Json.text? title
      enableController := ← Json.optional? false Json.bool? controller
      confirmStopOnClose := ← Json.optional? true Json.bool? confirm }
  | _ => none

instance : Serial GraphicsOptions where
  toJson o := .ofFields [
    ("title", .ofString o.title),
    ("enable_controller", .bool o.enableController),
    ("confirm_stop_on_close", .bool o.confirmStopOnClose)]
  ofJson? := GraphicsOptions.ofJson?

def LoggingOptions.ofJson? (v : Json) : Option LoggingOptions := do
  match ← v.record? ["filter", "log_dir"] with
  | [filter, directory] =>
    some {
      filter := ← Json.optional? "info" Json.text? filter
      directory := ← Json.optional? none (Json.nullable? Json.text?) directory }
  | _ => none

instance : Serial LoggingOptions where
  toJson o := .ofFields [("filter", .ofString o.filter), ("log_dir", .ofOption o.directory)]
  ofJson? := LoggingOptions.ofJson?

/-! ## platform versions and states -/

def PlatformVersion.ofJson? (v : Json) : Option PlatformVersion := do
  match ← v.record? ["major", "minor"] with
  | [major, minor] =>
    some {
      major := ← Json.required? Json.uint32? major
      minor := ← Json.required? Json.uint32? minor }
  | _ => none

instance : Serial PlatformVersion where
  toJson v := .ofFields [("major", .ofInt v.major.toNat), ("minor", .ofInt v.minor.toNat)]
  ofJson? := PlatformVersion.ofJson?

/-- A state is written by its name, or as an object with the name as its only
field and nothing in it. -/
def ExecutionState.ofJson? : Json → Option ExecutionState
  | .string (some name) => ExecutionState.ofName? name
  | .object [(some name, .null)] => ExecutionState.ofName? name
  | _ => none

instance : Serial ExecutionState where
  toJson s := .ofString s.name
  ofJson? := ExecutionState.ofJson?

end MachineBridge
