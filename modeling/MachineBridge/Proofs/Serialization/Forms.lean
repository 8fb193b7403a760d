import MachineBridge.Proofs.Json.Fields
import MachineBridge.Proofs.Json.Reading
import MachineBridge.Serialization

/-!
# MachineBridge.Proofs.Serialization.Forms

What the text of a configuration may look like.  `Form` relates an attachment, a device and a
machine configuration to the values that stand for it: objects with the fields in any order
among others that are not known, without the fields that have their default.  `Doubled` are the
values in which a known field of one object stands twice.

The readers answer the configuration for each of its forms (`ofJsonAt?_of_form`,
`ofJson?_of_form`) and nothing for a value with a doubled field (`ofJsonAt?_of_doubled`,
`ofJson?_of_doubled`).  The writer writes one of the forms (`form_toJson`).
-/

namespace MachineBridge

open Json

/-! ## plain values -/

namespace Json

/-- An integer between the bounds is read as itself. -/
theorem intBetween?_ofInt {low high i : Int} (least : low ≤ i) (greatest : i ≤ high) :
    (ofInt i).intBetween? low high = some i := by
  simp [intBetween?, ofInt, least, greatest]

@[simp] theorem text?_ofString (s : String) : (ofString s).text? = some s := rfl

@[simp] theorem nullable?_ofOption (s : Option String) :
    (ofOption s).nullable? text? = some s := by
  cases s <;> rfl

@[simp] theorem uint32?_ofInt (n : UInt32) : (ofInt n.toNat).uint32? = some n := by
  have bound := n.toNat_lt
  rw [uint32?, intBetween?_ofInt (by omega) (by omega)]
  simp

@[simp] theorem uint64?_ofInt (n : UInt64) : (ofInt n.toNat).uint64? = some n := by
  have bound := n.toNat_lt
  rw [uint64?, intBetween?_ofInt (by omega) (by omega)]
  simp

@[simp] theorem int32?_ofInt (i : Int32) : (ofInt i.toInt).int32? = some i := by
  have least := i.le_toInt
  have greatest := i.toInt_lt
  rw [int32?, intBetween?_ofInt (by omega) (by omega)]
  simp

/-- The number of a descriptor can be kept. -/
theorem isKeepable_ofInt (i : Int32) (levels : Nat) :
    (ofInt i.toInt).isKeepable levels = true := by
  have least := i.le_toInt
  have greatest := i.toInt_lt
  have word : (NumberLiteral.ofInt i.toInt).isWord = true := by
    rw [NumberLiteral.ofInt]
    cases decide (i.toInt < 0) <;> simp only [NumberLiteral.isWord, decide_eq_true_eq] <;> omega
  cases levels <;> exact NumberLiteral.inDoubleRange_of_isWord word

end Json

/-- A field of a record, which may be missing if it has its default. -/
inductive Written (name : String) (v : Json) (isDefault : Prop) :
    List (Option String × Json) → Prop
  | given : Written name v isDefault [(some name, v)]
  | omitted (h : isDefault) : Written name v isDefault []

/-! ## attachments -/

namespace NetworkAttachment

def tag : NetworkAttachment → String
  | .nat => "nat"
  | .bridged _ => "bridged"
  | .fileHandle _ => "file_handle"

def ownFields : NetworkAttachment → List (Option String × Json)
  | .nat => []
  | .bridged interface => [(some "interface", .ofString interface)]
  | .fileHandle fd => [(some "fd", .ofInt fd.toInt)]

def ownNames : NetworkAttachment → List String
  | .nat => []
  | .bridged _ => ["interface"]
  | .fileHandle _ => ["fd"]

/-- The values that stand for an attachment. -/
inductive Form (a : NetworkAttachment) : Json → Prop
  | object {fields : List (Option String × Json)}
      (arranged : Arranged ("type" :: a.ownNames) ((some "type", .ofString a.tag) :: a.ownFields)
        fields) : Form a (.object fields)

/-- The tag stands twice, or a field of the variant that a tag names. -/
inductive Doubled : Json → Prop
  | tag {fields : List (Option String × Json)} (twice : 2 ≤ (valuesOf fields "type").length) :
      Doubled (.object fields)
  | own {fields : List (Option String × Json)} {name : String} (a : NetworkAttachment)
      (tagged : (some "type", .ofString a.tag) ∈ fields) (own : name ∈ a.ownNames)
      (twice : 2 ≤ (valuesOf fields name).length) : Doubled (.object fields)

theorem form_toJson (a : NetworkAttachment) : a.Form a.toJson := by
  cases a <;> exact .object (.refl _ _)

/-- The fields of a variant have names that are texts. -/
theorem isSome_name_ownFields (a : NetworkAttachment) : ∀ f ∈ a.ownFields, f.1.isSome = true := by
  cases a <;> simp [ownFields]

/-- No field of a variant has the name of the tag. -/
theorem name_ne_type (a : NetworkAttachment) : ∀ f ∈ a.ownFields, f.1 ≠ some "type" := by
  cases a <;> simp [ownFields]

/-- The fields of a variant can be kept before the tag is known. -/
theorem isKeepable_ownFields (a : NetworkAttachment) (levels : Nat) :
    ∀ f ∈ a.ownFields, f.2.isKeepable levels = true := by
  cases a with
  | nat => simp [ownFields]
  | bridged interface => cases levels <;> simp [ownFields, ofString, isKeepable]
  | fileHandle fd => simp [ownFields, isKeepable_ofInt]

/-- The fields behind the tag are kept until the variant is known. -/
theorem isKeepable_rest {a : NetworkAttachment} {fields : List (Option String × Json)}
    (h : Arranged a.ownNames a.ownFields fields) {levels : Nat} (enough : 101 ≤ levels) :
    (Json.object fields).isKeepable levels = true := by
  obtain ⟨levels, rfl⟩ : ∃ k, levels = k + 1 := ⟨levels - 1, by omega⟩
  rw [isKeepable, List.all_eq_true]
  intro f mem
  obtain known | ⟨name, plain⟩ := h.mem_or_isPlain mem
  · simp [a.isSome_name_ownFields f known, a.isKeepable_ownFields levels f known]
  · simp [name, isKeepable_of_isPlain plain (by omega : 100 ≤ levels)]

/-- The fields of the variant that the tag names are read. -/
theorem ofTagged?_of_arranged {a : NetworkAttachment} {fields : List (Option String × Json)}
    (h : Arranged a.ownNames a.ownFields fields) :
    ofTagged? a.tag (.object fields) = some a := by
  have seen := h.objectFields? a.isSome_name_ownFields
  cases a with
  | nat => simp [ofTagged?, tag]
  | bridged interface =>
    have read : objectFields? ["interface"] fields = some [some (.ofString interface)] := by
      simpa [ownNames, ownFields, Json.atMostOnce?, valuesOf] using seen
    simp [ofTagged?, tag, record?, read, required?]
  | fileHandle fd =>
    have read : objectFields? ["fd"] fields = some [some (.ofInt fd.toInt)] := by
      simpa [ownNames, ownFields, Json.atMostOnce?, valuesOf] using seen
    simp [ofTagged?, tag, record?, read, required?]

/-- An attachment is read from each of its forms, as deep as it can stand. -/
theorem ofJsonAt?_of_form {a : NetworkAttachment} {v : Json} (h : a.Form v) {depth : Nat}
    (shallow : depth ≤ 26) : ofJsonAt? depth v = some a := by
  obtain @⟨fields, arranged⟩ := h
  have rest := arranged.filter a.name_ne_type
  have tagged : Json.atMostOnce? fields "type" = some (some (.ofString a.tag)) := by
    rw [arranged.atMostOnce? List.mem_cons_self]
    cases a <;> simp [Json.atMostOnce?, valuesOf, ownFields]
  have kept := isKeepable_rest rest (by rw [deepestNesting]; omega : 101 ≤ deepestNesting - depth)
  show (if _ then _ else none) = _
  rw [if_pos kept]
  simp [tagged, required?, ofTagged?_of_arranged rest]

/-- A field of the variant is no tag. -/
theorem ne_type_of_own {a : NetworkAttachment} {name : String} (own : name ∈ a.ownNames) :
    name ≠ "type" := by
  cases a <;> simp [ownNames] at own <;> simp [own]

/-- A variant with a field that is given twice is refused. -/
theorem ofTagged?_of_twice {a : NetworkAttachment} {fields : List (Option String × Json)}
    {name : String} (own : name ∈ a.ownNames) (twice : 2 ≤ (valuesOf fields name).length) :
    ofTagged? a.tag (.object fields) = none := by
  have read := objectFields?_of_twice own twice
  cases a with
  | nat => simp [ownNames] at own
  | bridged interface | fileHandle fd =>
    rw [ownNames] at read
    simp [ofTagged?, tag, record?, read]

/-- An attachment with a doubled field is read at no depth. -/
theorem ofJsonAt?_of_doubled {v : Json} (h : Doubled v) (depth : Nat) :
    ofJsonAt? depth v = none := by
  cases h with
  | @tag fields twice =>
    show (if _ then _ else none) = _
    simp [atMostOnce?_of_twice twice]
  | @own fields name a tagged own twice =>
    have others := twice
    rw [← valuesOf_filter (ne_type_of_own own)] at others
    have read := ofTagged?_of_twice own others
    show (if _ then _ else none) = _
    obtain absent | found := atMostOnce?_of_mem tagged
    · simp [absent]
    · simp [found, required?, read]

end NetworkAttachment

/-! ## devices -/

namespace NetworkDevice

/-- The values that stand for a device. -/
inductive Form (d : NetworkDevice) : Json → Prop
  | object {attachment : Json} {address fields : List (Option String × Json)}
      (attached : d.attachment.Form attachment)
      (addressed : Written "mac_address" (.ofOption d.macAddress) (d.macAddress = none) address)
      (arranged : Arranged ["attachment", "mac_address"]
        ((some "attachment", attachment) :: address) fields) : Form d (.object fields)

/-- A field of the device stands twice, or one of its attachment. -/
inductive Doubled : Json → Prop
  | own {fields : List (Option String × Json)} {name : String}
      (known : name ∈ ["attachment", "mac_address"]) (twice : 2 ≤ (valuesOf fields name).length) :
      Doubled (.object fields)
  | attachment {fields : List (Option String × Json)} {v : Json}
      (given : (some "attachment", v) ∈ fields) (doubled : NetworkAttachment.Doubled v) :
      Doubled (.object fields)

theorem form_toJson (d : NetworkDevice) : d.Form d.toJson :=
  .object d.attachment.form_toJson .given (.refl _ _)

/-- A device is read from each of its forms, as deep as it can stand. -/
theorem ofJsonAt?_of_form {d : NetworkDevice} {v : Json} (h : d.Form v) {depth : Nat}
    (shallow : depth ≤ 25) : ofJsonAt? depth v = some d := by
  cases h with
  | @object attachment address fields attached addressed arranged =>
    have inner := NetworkAttachment.ofJsonAt?_of_form attached (by omega : depth + 1 ≤ 26)
    have texts : ∀ f ∈ (some "attachment", attachment) :: address, f.1.isSome = true := by
      cases addressed <;> simp
    have seen := arranged.objectFields? texts
    cases addressed with
    | given =>
      have read : objectFields? ["attachment", "mac_address"] fields =
          some [some attachment, some (.ofOption d.macAddress)] := by
        simpa [Json.atMostOnce?, valuesOf] using seen
      simp [ofJsonAt?, record?, read, required?, optional?, inner]
    | omitted absent =>
      have read : objectFields? ["attachment", "mac_address"] fields =
          some [some attachment, none] := by
        simpa [Json.atMostOnce?, valuesOf] using seen
      simp [ofJsonAt?, record?, read, required?, optional?, inner, ← absent]

/-- A device with a doubled field is read at no depth. -/
theorem ofJsonAt?_of_doubled {v : Json} (h : Doubled v) (depth : Nat) :
    ofJsonAt? depth v = none := by
  cases h with
  | own known twice => simp [ofJsonAt?, record?, objectFields?_of_twice known twice]
  | @attachment fields w given doubled =>
    have inner := NetworkAttachment.ofJsonAt?_of_doubled doubled (depth + 1)
    rw [ofJsonAt?, record?, objectFields?]
    obtain absent | found := atMostOnce?_of_mem given
    · simp [absent]
    · cases others : Json.atMostOnce? fields "mac_address" <;>
        split <;> simp [found, others, required?, inner]

end NetworkDevice

/-! ## machine configurations -/

namespace MachineConfiguration

/-- The values that stand for a configuration. -/
inductive Form (c : MachineConfiguration) : Json → Prop
  | object {items : List Json} {devices fields : List (Option String × Json)}
      (listed : List.Forall₂ NetworkDevice.Form c.networkDevices items)
      (attached : Written "network_devices" (.array items) (c.networkDevices = []) devices)
      (arranged : Arranged ["cpu_count", "memory_size_bytes", "network_devices"]
        ((some "cpu_count", .ofInt c.cpuCount.toNat) ::
          (some "memory_size_bytes", .ofInt c.memorySize.toNat) :: devices) fields) :
      Form c (.object fields)

/-- A field of the configuration stands twice, or one of a device. -/
inductive Doubled : Json → Prop
  | own {fields : List (Option String × Json)} {name : String}
      (known : name ∈ ["cpu_count", "memory_size_bytes", "network_devices"])
      (twice : 2 ≤ (valuesOf fields name).length) : Doubled (.object fields)
  | device {fields : List (Option String × Json)} {items : List Json} {v : Json}
      (given : (some "network_devices", .array items) ∈ fields) (item : v ∈ items)
      (doubled : NetworkDevice.Doubled v) : Doubled (.object fields)

theorem form_toJson (c : MachineConfiguration) : c.Form c.toJson :=
  .object (List.forall₂_map_right_iff.2 (List.forall₂_same.2 fun d _ => d.form_toJson)) .given
    (.refl _ _)

/-- A configuration is read from each of its forms. -/
theorem ofJson?_of_form {c : MachineConfiguration} {v : Json} (h : c.Form v) :
    ofJson? v = some c := by
  cases h with
  | @object items devices fields listed attached arranged =>
    have inner : items.mapM (NetworkDevice.ofJsonAt? 2) = some c.networkDevices :=
      mapM_eq_some (listed.flip.imp fun v d form =>
        NetworkDevice.ofJsonAt?_of_form form (by decide))
    have texts : ∀ f ∈ (some "cpu_count", Json.ofInt c.cpuCount.toNat) ::
        (some "memory_size_bytes", .ofInt c.memorySize.toNat) :: devices, f.1.isSome = true := by
      cases attached <;> simp
    have seen := arranged.objectFields? texts
    cases attached with
    | given =>
      have read : objectFields? ["cpu_count", "memory_size_bytes", "network_devices"] fields =
          some [some (.ofInt c.cpuCount.toNat), some (.ofInt c.memorySize.toNat),
            some (.array items)] := by
        simpa [Json.atMostOnce?, valuesOf] using seen
      simp [ofJson?, record?, read, required?, optional?, list?, inner]
    | omitted absent =>
      have read : objectFields? ["cpu_count", "memory_size_bytes", "network_devices"] fields =
          some [some (.ofInt c.cpuCount.toNat), some (.ofInt c.memorySize.toNat), none] := by
        simpa [Json.atMostOnce?, valuesOf] using seen
      simp [ofJson?, record?, read, required?, optional?, ← absent]

/-- A configuration with a doubled field is not read. -/
theorem ofJson?_of_doubled {v : Json} (h : Doubled v) : ofJson? v = none := by
  cases h with
  | own known twice => simp [ofJson?, record?, objectFields?_of_twice known twice]
  | @device fields items w given item doubled =>
    have inner : items.mapM (NetworkDevice.ofJsonAt? 2) = none :=
      mapM_eq_none item (NetworkDevice.ofJsonAt?_of_doubled doubled 2)
    rw [ofJson?, record?, objectFields?]
    obtain absent | found := atMostOnce?_of_mem given
    · simp [absent]
    · cases cpus : Json.atMostOnce? fields "cpu_count" <;>
        cases memory : Json.atMostOnce? fields "memory_size_bytes" <;>
        split <;> simp [found, cpus, memory, optional?, list?, inner]

end MachineConfiguration

end MachineBridge
