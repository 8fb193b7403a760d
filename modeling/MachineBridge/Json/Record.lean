import MachineBridge.Json.Value

/-!
# MachineBridge.Json.Record

Reading values of a known shape.  A record is written as an object, whose known
fields may stand in any order but at most once and whose unknown fields are
skipped, or as an array of its fields in order, from which trailing fields may
be missing but which holds nothing more.
-/

namespace MachineBridge.Json

/-! ## plain values -/

/-- A string that is a text. -/
def text? : Json → Option String
  | .string s => s
  | _ => none

def bool? : Json → Option Bool
  | .bool b => some b
  | _ => none

/-- An integer between two bounds. -/
def intBetween? (low high : Int) : Json → Option Int
  | .number n => n.toInt?.filter fun i => low ≤ i && i ≤ high
  | _ => none

def uint32? (v : Json) : Option UInt32 :=
  (v.intBetween? 0 4294967295).map fun i => UInt32.ofNat i.toNat

def uint64? (v : Json) : Option UInt64 :=
  (v.intBetween? 0 18446744073709551615).map fun i => UInt64.ofNat i.toNat

def int32? (v : Json) : Option Int32 :=
  (v.intBetween? (-2147483648) 2147483647).map Int32.ofInt

def nullable? {α : Type} (read : Json → Option α) : Json → Option (Option α)
  | .null => some none
  | v => (read v).map some

def list? {α : Type} (read : Json → Option α) : Json → Option (List α)
  | .array items => items.mapM read
  | _ => none

/-! ## records -/

/-- The values of the fields of one name, in order. -/
def valuesOf (fields : List (Option String × Json)) (name : String) : List Json :=
  fields.filterMap fun (n, v) => if n = some name then some v else none

/-- The value of a field that may be missing but not repeated. -/
def atMostOnce? (fields : List (Option String × Json)) (name : String) : Option (Option Json) :=
  match valuesOf fields name with
  | [] => some none
  | [v] => some (some v)
  | _ => none

/-- The fields of an object by their known names.  Every name must be a text,
also of a field that is skipped. -/
def objectFields? (names : List String) (fields : List (Option String × Json)) :
    Option (List (Option Json)) :=
  if fields.all fun (name, _) => name.isSome then names.mapM (atMostOnce? fields) else none

/-- The fields of an array by their places. -/
def arrayFields? (names : List String) (items : List Json) : Option (List (Option Json)) :=
  if items.length ≤ names.length then
    some (items.map some ++ List.replicate (names.length - items.length) none)
  else none

/-- The fields of a record, in the order of the given names. -/
def record? (names : List String) : Json → Option (List (Option Json))
  | .object fields => objectFields? names fields
  | .array items => arrayFields? names items
  | _ => none

/-- A field that must be there. -/
def required? {α : Type} (read : Json → Option α) (field : Option Json) : Option α :=
  field.bind read

/-- A field that has a default. -/
def optional? {α : Type} (fallback : α) (read : Json → Option α) (field : Option Json) : Option α :=
  match field with
  | none => some fallback
  | some v => read v

/-! ## values that are kept before their shape is known -/

/-- Whether a value can be kept whole: its containers nest at most `levels`
deep, all its strings and names are texts, and its numbers are in the range of
the double format. -/
def isKeepable : Nat → Json → Bool
  | _, .null => true
  | _, .bool _ => true
  | _, .number n => n.inDoubleRange
  | _, .string s => s.isSome
  | 0, .array _ => false
  | 0, .object _ => false
  | levels + 1, .array items => items.all (isKeepable levels)
  | levels + 1, .object fields => fields.all fun (name, v) => name.isSome && isKeepable levels v

/-- How deep the containers of a text may nest where its values are kept. -/
def deepestNesting : Nat := 127

end MachineBridge.Json
