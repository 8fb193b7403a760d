import MachineBridge.Proofs.Serialization.Forms

/-!
# MachineBridge.Proofs.Serialization.Texts

The public values and their texts.  Every value is read back from the text that is written for
it (`read?_write`).  A configuration is read from every text of one of its forms, whatever the
order of the fields, the blanks and the fields that are not known; a text in which a known field
of one object stands twice is refused (`read?_of_form`).
-/

namespace MachineBridge

open Json

/-! ## the readers of the other values -/

/-- A text that spells a value is read as the value. -/
theorem read?_of_spelled {α : Type} [Serial α] {v : Json} {t : String} (h : v.Spelled t.toList) :
    (Serial.read? t : Option α) = Serial.ofJson? v := by
  rw [Serial.read?, parse?_of_spelled h, Option.bind_some]

/-- A value is read from its text, if it is read from its form. -/
theorem read?_write_of_toJson {α : Type} [Serial α] {a : α}
    (h : Serial.ofJson? (Serial.toJson a) = some a) : Serial.read? (Serial.write a) = some a := by
  rw [Serial.read?, Serial.write, parse?_render, Option.bind_some, h]

theorem StartOptions.ofJson?_toJson (o : StartOptions) :
    Serial.ofJson? (Serial.toJson o) = some o := by
  simp [Serial.ofJson?, Serial.toJson, StartOptions.ofJson?, ofFields, record?, objectFields?,
    atMostOnce?, valuesOf, optional?, bool?]

theorem GraphicsOptions.ofJson?_toJson (o : GraphicsOptions) :
    Serial.ofJson? (Serial.toJson o) = some o := by
  simp [Serial.ofJson?, Serial.toJson, GraphicsOptions.ofJson?, ofFields, record?, objectFields?,
    atMostOnce?, valuesOf, optional?, bool?]

theorem LoggingOptions.ofJson?_toJson (o : LoggingOptions) :
    Serial.ofJson? (Serial.toJson o) = some o := by
  simp [Serial.ofJson?, Serial.toJson, LoggingOptions.ofJson?, ofFields, record?, objectFields?,
    atMostOnce?, valuesOf, optional?]

theorem PlatformVersion.ofJson?_toJson (o : PlatformVersion) :
    Serial.ofJson? (Serial.toJson o) = some o := by
  simp [Serial.ofJson?, Serial.toJson, PlatformVersion.ofJson?, ofFields, record?, objectFields?,
    atMostOnce?, valuesOf, required?]

theorem ExecutionState.ofJson?_toJson (s : ExecutionState) :
    Serial.ofJson? (Serial.toJson s) = some s := by
  simp [Serial.ofJson?, Serial.toJson, ExecutionState.ofJson?, ofString]

/-! ## every value reads back from its text -/

/-- Every public value is read back from the compact text that is written for it: a
configuration with any devices, an attachment with any name or descriptor, any options, a
version, a state. -/
theorem read?_write :
    (∀ c : MachineConfiguration, Serial.read? (Serial.write c) = some c) ∧
    (∀ d : NetworkDevice, Serial.read? (Serial.write d) = some d) ∧
    (∀ a : NetworkAttachment, Serial.read? (Serial.write a) = some a) ∧
    (∀ o : StartOptions, Serial.read? (Serial.write o) = some o) ∧
    (∀ o : GraphicsOptions, Serial.read? (Serial.write o) = some o) ∧
    (∀ o : LoggingOptions, Serial.read? (Serial.write o) = some o) ∧
    (∀ v : PlatformVersion, Serial.read? (Serial.write v) = some v) ∧
    (∀ s : ExecutionState, Serial.read? (Serial.write s) = some s) := by
  refine ⟨fun c => ?_, fun d => ?_, fun a => ?_, fun o => ?_, fun o => ?_, fun o => ?_,
    fun v => ?_, fun s => ?_⟩ <;> apply read?_write_of_toJson
  · exact MachineConfiguration.ofJson?_of_form c.form_toJson
  · exact NetworkDevice.ofJsonAt?_of_form d.form_toJson (Nat.zero_le 25)
  · exact NetworkAttachment.ofJsonAt?_of_form a.form_toJson (Nat.zero_le 26)
  · exact o.ofJson?_toJson
  · exact o.ofJson?_toJson
  · exact o.ofJson?_toJson
  · exact v.ofJson?_toJson
  · exact s.ofJson?_toJson

/-! ## only the known fields matter -/

/-- A configuration is read from every text of one of its forms, and so are a device and an
attachment that stand alone.  No text in which a known field of one object stands twice is
read. -/
theorem read?_of_form :
    (∀ (c : MachineConfiguration) (v : Json) (t : String),
      c.Form v → v.Spelled t.toList → Serial.read? t = some c) ∧
    (∀ (d : NetworkDevice) (v : Json) (t : String),
      d.Form v → v.Spelled t.toList → Serial.read? t = some d) ∧
    (∀ (a : NetworkAttachment) (v : Json) (t : String),
      a.Form v → v.Spelled t.toList → Serial.read? t = some a) ∧
    (∀ (v : Json) (t : String), MachineConfiguration.Doubled v → v.Spelled t.toList →
      (Serial.read? t : Option MachineConfiguration) = none) ∧
    (∀ (v : Json) (t : String), NetworkDevice.Doubled v → v.Spelled t.toList →
      (Serial.read? t : Option NetworkDevice) = none) ∧
    (∀ (v : Json) (t : String), NetworkAttachment.Doubled v → v.Spelled t.toList →
      (Serial.read? t : Option NetworkAttachment) = none) := by
  refine ⟨fun c v t form spelled => ?_, fun d v t form spelled => ?_,
    fun a v t form spelled => ?_, fun v t doubled spelled => ?_, fun v t doubled spelled => ?_,
    fun v t doubled spelled => ?_⟩ <;> rw [read?_of_spelled spelled]
  · exact MachineConfiguration.ofJson?_of_form form
  · exact NetworkDevice.ofJsonAt?_of_form form (Nat.zero_le 25)
  · exact NetworkAttachment.ofJsonAt?_of_form form (Nat.zero_le 26)
  · exact MachineConfiguration.ofJson?_of_doubled doubled
  · exact NetworkDevice.ofJsonAt?_of_doubled doubled 0
  · exact NetworkAttachment.ofJsonAt?_of_doubled doubled 0

/-- The fields of a configuration of two processors, last first, with one at each level that is
not known.  The device has no address, and its tag stands behind the interface. -/
def reversedFields : List (Option String × Json) :=
  [(some "note", .array [.null]),
    (some "network_devices", .array [.object [
      (some "slot", .bool true),
      (some "attachment", .object [
        (some "speed", .ofInt 10),
        (some "interface", .ofString "en0"),
        (some "type", .ofString "bridged")])]]),
    (some "memory_size_bytes", .ofInt 1),
    (some "cpu_count", .ofInt 2)]

/-- The fields with blanks around them are read; a descriptor that stands twice is not. -/
theorem read?_of_form_reversed :
    Serial.read? (String.ofList ('\x7b' :: ' ' :: (fieldChars reversedFields ++ ['\n', '\x7d']))) =
      some (⟨2, 1, [⟨.bridged "en0", none⟩]⟩ : MachineConfiguration) ∧
    (Serial.read? (Json.object [(some "fd", .ofInt 3), (some "type", .ofString "file_handle"),
      (some "fd", .ofInt 3)]).render : Option NetworkAttachment) = none := by
  have reversed {names : List String} {known : List (Option String × Json)}
      (name : String) (v : Json) (skipped : name ∉ names) (plain : v.isPlain 100 = true) :
      Arranged names known (known ++ [(some name, v)]).reverse :=
    ⟨⟨_, List.reverse_perm _, by simp [skipped, plain]⟩⟩
  have blank (c : Char) (space : isSpace c = true) : Spells [] [c] :=
    .nil fun d mem => List.mem_singleton.1 mem ▸ space
  constructor
  · refine read?_of_form.1 _ (.object reversedFields) _ ?_ ?_
    · exact .object
        (.cons (.object (.object (reversed "speed" (.ofInt 10) (by decide) (by decide)))
          (.omitted rfl) (reversed "slot" (.bool true) (by decide) rfl)) .nil)
        .given (reversed "note" (.array [.null]) (by decide) (by decide))
    · rw [Spelled, tokens, String.toList_ofList]
      exact (spells_mark rfl).append ((blank ' ' rfl).append
        ((spells_fieldChars reversedFields).append ((blank '\n' rfl).append (spells_mark rfl))))
  · refine read?_of_form.2.2.2.2.2 (.object [(some "fd", .ofInt 3),
      (some "type", .ofString "file_handle"), (some "fd", .ofInt 3)]) _ ?_ ?_
    · exact .own (.fileHandle 3) (.tail _ (.head _)) (.head _) (by decide)
    · rw [render, String.toList_ofList]
      exact spelled_chars _

end MachineBridge
