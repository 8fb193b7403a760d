import MachineBridge.Configuration
import Mathlib.Data.List.DropRight

/-!
# MachineBridge.Proofs.Validation

Which configurations pass their validation, and what is said of the others.  The checks come
in order: the processors, the memory, then the devices by their position.  A configuration
is refused for the first check that fails (`FirstFault`), and the check of a device fails when
it is bridged and trimming leaves nothing of the name of its interface, which is to say that
the name holds white space only.

So devices further down the list never matter to a configuration that is refused, and a
configuration that is accepted can do without any of its devices (`validates_exactly`).
-/

namespace MachineBridge

namespace Text

/-- Trimming leaves nothing exactly of a text that holds white space only. -/
theorem trim_eq_nil_iff (cs : List Char) : trim cs = [] ↔ ∀ c ∈ cs, isWhiteSpace c = true := by
  rw [trim, List.reverse_eq_nil_iff, List.dropWhile_eq_nil_iff]
  simp only [List.mem_reverse]
  rw [← List.dropWhile_eq_nil_iff, ← List.dropWhile_eq_nil_iff, List.dropWhile_idempotent]

/-- A text is blank exactly when trimming leaves nothing of it. -/
theorem isBlank_iff_trim {s : String} : isBlank s = true ↔ trim s.toList = [] := by
  rw [isBlank, List.all_eq_true, trim_eq_nil_iff]

end Text

open Decimal (natText)

/-! ## devices -/

/-- The device is bridged to an interface, and trimming leaves nothing of its name. -/
def NetworkDevice.Nameless (d : NetworkDevice) : Prop :=
  ∃ interface, d.attachment = .bridged interface ∧ Text.trim interface.toList = []

/-- A device is blank exactly if it is bridged to an interface without a name. -/
theorem NetworkDevice.isBlank_iff {d : NetworkDevice} :
    d.attachment.isBlank = true ↔ d.Nameless := by
  obtain ⟨attachment, mac⟩ := d
  cases attachment with
  | nat | fileHandle fd => simp [NetworkAttachment.isBlank, Nameless]
  | bridged interface => simp [NetworkAttachment.isBlank, Nameless, Text.isBlank_iff_trim]

/-- If a device is bridged, its name has a character that is no white space. -/
theorem NetworkDevice.isBlank_eq_false_iff {d : NetworkDevice} :
    d.attachment.isBlank = false ↔ ∀ interface, d.attachment = .bridged interface →
      ∃ c ∈ interface.toList, Text.isWhiteSpace c = false := by
  obtain ⟨attachment, mac⟩ := d
  cases attachment with
  | nat | fileHandle fd => simp [NetworkAttachment.isBlank]
  | bridged interface => simp [NetworkAttachment.isBlank, Text.isBlank_eq_false_iff]

namespace MachineConfiguration

/-! ## the first nameless device -/

/-- The first blank device is found by its index. -/
theorem firstBlank?_eq (start : Nat) (ds : List NetworkDevice) :
    firstBlank? start ds = (ds.findIdx? (·.attachment.isBlank)).map (· + start) := by
  induction ds generalizing start with
  | nil => rfl
  | cons d ds ih =>
    rw [firstBlank?, List.findIdx?_cons, ih]
    split
    · simp
    · rw [Option.map_map]
      refine congrArg (Option.map · _) (funext fun i => ?_)
      show i + (start + 1) = i + 1 + start
      omega

theorem firstBlank?_zero (ds : List NetworkDevice) :
    firstBlank? 0 ds = ds.findIdx? (·.attachment.isBlank) :=
  (firstBlank?_eq 0 ds).trans Option.map_id_apply

/-- There is no nameless device exactly if every name has a character that shows. -/
theorem firstBlank?_eq_none_iff {ds : List NetworkDevice} :
    firstBlank? 0 ds = none ↔ ∀ d ∈ ds, ∀ interface, d.attachment = .bridged interface →
      ∃ c ∈ interface.toList, Text.isWhiteSpace c = false := by
  rw [firstBlank?_zero, List.findIdx?_eq_none_iff]
  exact forall₂_congr fun d _ => NetworkDevice.isBlank_eq_false_iff

/-- The least position of a nameless device. -/
theorem firstBlank?_eq_some_iff {ds : List NetworkDevice} {i : Nat} :
    firstBlank? 0 ds = some i ↔
      (∃ d, ds[i]? = some d ∧ d.Nameless) ∧
        ∀ j d, j < i → ds[j]? = some d → ¬d.Nameless := by
  rw [firstBlank?_zero, List.findIdx?_eq_some_iff_getElem]
  constructor
  · rintro ⟨lt, blank, least⟩
    refine ⟨⟨ds[i], List.getElem?_eq_getElem lt, NetworkDevice.isBlank_iff.1 blank⟩, ?_⟩
    intro j d before found
    obtain ⟨_, rfl⟩ := List.getElem?_eq_some_iff.1 found
    exact fun nameless => least j before (NetworkDevice.isBlank_iff.2 nameless)
  · rintro ⟨⟨d, found, nameless⟩, least⟩
    obtain ⟨lt, rfl⟩ := List.getElem?_eq_some_iff.1 found
    refine ⟨lt, NetworkDevice.isBlank_iff.2 nameless, fun j before blank => ?_⟩
    exact least j _ before (List.getElem?_eq_getElem (before.trans lt))
      (NetworkDevice.isBlank_iff.1 blank)

/-- Devices that are appended do not change which one is blank first. -/
theorem firstBlank?_append {ds : List NetworkDevice} {i : Nat} (found : firstBlank? 0 ds = some i)
    (more : List NetworkDevice) : firstBlank? 0 (ds ++ more) = some i := by
  rw [firstBlank?_zero] at found ⊢
  rw [List.findIdx?_append, found, Option.some_or]

/-! ## verdicts -/

/-- The first check that a configuration fails, and the wording of the refusal. -/
inductive FirstFault (c : MachineConfiguration) : InvalidArgument → String → Prop
  | cpu (none : c.cpuCount = 0) : FirstFault c .noCpu "cpu_count must be at least 1"
  | memory (cpu : c.cpuCount ≠ 0) (none : c.memorySize = 0) :
      FirstFault c .noMemory "memory_size_bytes must be greater than zero"
  | device {i : Nat} {d : NetworkDevice} (cpu : c.cpuCount ≠ 0) (memory : c.memorySize ≠ 0)
      (found : c.networkDevices[i]? = some d) (nameless : d.Nameless)
      (least : ∀ j d, j < i → c.networkDevices[j]? = some d → ¬d.Nameless) :
      FirstFault c (.blankInterface i)
        ("network device " ++ natText i ++ " has an empty bridged interface name")

variable {c : MachineConfiguration} {e : BridgeError}

/-- What validation finds, one case for each check and one for none. -/
theorem validate_cases (c : MachineConfiguration) :
    c.validate = .ok () ∧ c.cpuCount ≠ 0 ∧ c.memorySize ≠ 0 ∧
        firstBlank? 0 c.networkDevices = none ∨
      ∃ cause text, c.validate = .error (.validation cause) ∧ c.FirstFault cause text ∧
        cause.message = text := by
  by_cases cpu : c.cpuCount = 0
  · exact .inr ⟨_, _, by rw [validate, if_pos cpu], .cpu cpu, rfl⟩
  by_cases memory : c.memorySize = 0
  · exact .inr ⟨_, _, by rw [validate, if_neg cpu, if_pos memory], .memory cpu memory, rfl⟩
  cases blank : firstBlank? 0 c.networkDevices with
  | none =>
    exact .inl ⟨by rw [validate, if_neg cpu, if_neg memory, blank], cpu, memory, rfl⟩
  | some i =>
    obtain ⟨⟨d, found, nameless⟩, least⟩ := firstBlank?_eq_some_iff.1 blank
    exact .inr ⟨_, _, by rw [validate, if_neg cpu, if_neg memory, blank],
      .device cpu memory found nameless least, rfl⟩

/-- The first fault of a configuration is the one that is reported. -/
theorem FirstFault.validate {cause : InvalidArgument} {text : String}
    (fault : c.FirstFault cause text) :
    c.validate = .error (.validation cause) ∧ cause.message = text := by
  cases fault with
  | cpu none => exact ⟨by rw [MachineConfiguration.validate, if_pos none], rfl⟩
  | memory cpu none =>
    exact ⟨by rw [MachineConfiguration.validate, if_neg cpu, if_pos none], rfl⟩
  | device cpu memory found nameless least =>
    have blank := firstBlank?_eq_some_iff.2 ⟨⟨_, found, nameless⟩, least⟩
    exact ⟨by rw [MachineConfiguration.validate, if_neg cpu, if_neg memory, blank], rfl⟩

/-- A configuration is valid exactly if it passes every check. -/
theorem validate_eq_ok_iff : c.validate = .ok () ↔
    c.cpuCount ≠ 0 ∧ c.memorySize ≠ 0 ∧ firstBlank? 0 c.networkDevices = none := by
  constructor
  · intro valid
    obtain ⟨-, passed⟩ | ⟨_, _, refused, -⟩ := c.validate_cases
    · exact passed
    · rw [valid] at refused
      cases refused
  · rintro ⟨cpu, memory, named⟩
    rw [validate, if_neg cpu, if_neg memory, named]

/-- A configuration is invalid exactly with its first fault. -/
theorem validate_eq_error_iff : c.validate = .error e ↔
    ∃ cause text, c.FirstFault cause text ∧ e = .validation cause ∧ cause.message = text := by
  constructor
  · intro refused
    obtain ⟨valid, -⟩ | ⟨cause, text, failed, fault, worded⟩ := c.validate_cases
    · rw [valid] at refused
      cases refused
    · rw [failed] at refused
      cases refused
      exact ⟨cause, text, fault, rfl, worded⟩
  · rintro ⟨cause, text, fault, rfl, -⟩
    exact fault.validate.1

/-- The first fault is the same with more devices behind. -/
theorem FirstFault.append {cause : InvalidArgument} {text : String}
    (fault : c.FirstFault cause text) (more : List NetworkDevice) :
    { c with networkDevices := c.networkDevices ++ more }.FirstFault cause text := by
  cases fault with
  | cpu none => exact .cpu none
  | memory cpu none => exact .memory cpu none
  | device cpu memory found nameless least =>
    have blank := firstBlank?_append (firstBlank?_eq_some_iff.2 ⟨⟨_, found, nameless⟩, least⟩) more
    obtain ⟨⟨d, found, nameless⟩, least⟩ := firstBlank?_eq_some_iff.1 blank
    exact .device cpu memory found nameless least

/-- A configuration that is accepted can do without any of its devices. -/
theorem validate_of_subset (valid : c.validate = .ok ()) {ds : List NetworkDevice}
    (fewer : ds ⊆ c.networkDevices) : { c with networkDevices := ds }.validate = .ok () := by
  obtain ⟨cpu, memory, named⟩ := validate_eq_ok_iff.1 valid
  refine validate_eq_ok_iff.2 ⟨cpu, memory, ?_⟩
  exact firstBlank?_eq_none_iff.2 fun d mem => firstBlank?_eq_none_iff.1 named d (fewer mem)

/-- What validation says of a configuration. -/
structure ValidatesExactly (c : MachineConfiguration) : Prop where
  accepts : c.validate = .ok () ↔ c.cpuCount ≠ 0 ∧ c.memorySize ≠ 0 ∧
    ∀ d ∈ c.networkDevices, ∀ interface, d.attachment = .bridged interface →
      ∃ ch ∈ interface.toList, Text.isWhiteSpace ch = false
  refuses : ∀ e, c.validate = .error e ↔
    ∃ cause text, c.FirstFault cause text ∧ e = .validation cause ∧ cause.message = text
  /-- Devices further down do not change what is reported. -/
  appending : ∀ e more, c.validate = .error e →
    { c with networkDevices := c.networkDevices ++ more }.validate = .error e
  removing : ∀ i, c.validate = .ok () →
    { c with networkDevices := c.networkDevices.eraseIdx i }.validate = .ok ()

/-- A configuration is accepted exactly if it passes all checks, and else it is refused for the
first that it fails. -/
theorem validates_exactly (c : MachineConfiguration) : c.ValidatesExactly where
  accepts := by rw [validate_eq_ok_iff, firstBlank?_eq_none_iff]
  refuses _ := validate_eq_error_iff
  appending e more refused := by
    obtain ⟨cause, text, fault, rfl, worded⟩ := validate_eq_error_iff.1 refused
    exact validate_eq_error_iff.2 ⟨cause, text, fault.append more, rfl, worded⟩
  removing i valid := validate_of_subset valid (List.eraseIdx_subset ..)

/-- An ideographic space is no name, and the first of two such devices is reported. -/
example : validate ⟨1, 1, [⟨.nat, none⟩, ⟨.bridged "\u3000 ", none⟩, ⟨.bridged "", none⟩]⟩ =
    .error (.validation (.blankInterface 1)) := by decide

end MachineConfiguration

end MachineBridge
