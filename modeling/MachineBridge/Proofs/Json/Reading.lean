import MachineBridge.Json.Reader
import MachineBridge.Proofs.Json.Spelling

/-!
# MachineBridge.Proofs.Json.Reading

A value and its texts.  `tokens` are the tokens of a value in order, so that the texts that
stand for a value are those that spell its tokens (`Spelled`).  The printer writes one of them
(`spelled_chars`), and the reader answers the value for each of them (`parse?_of_spelled`).
So every value reads back from its compact text, whatever it contains (`parse?_render`).
-/

namespace MachineBridge.Json

/-! ## the tokens of a value -/

mutual

/-- The tokens of a value. -/
def tokens : Json → List Token
  | .null => [.null]
  | .bool b => [.bool b]
  | .number n => [.number n]
  | .string s => [.string s]
  | .array items => .beginArray :: (itemTokens items ++ [.endArray])
  | .object fields => .beginObject :: (fieldTokens fields ++ [.endObject])

def itemTokens : List Json → List Token
  | [] => []
  | [v] => tokens v
  | v :: rest => tokens v ++ .comma :: itemTokens rest

def fieldTokens : List (Option String × Json) → List Token
  | [] => []
  | [(name, v)] => .string name :: .colon :: tokens v
  | (name, v) :: rest => .string name :: .colon :: (tokens v ++ .comma :: fieldTokens rest)

end

/-- A text stands for a value, with any blanks between its tokens. -/
def Spelled (v : Json) (cs : List Char) : Prop := Spells v.tokens cs

/-! ## the reader -/

namespace Reader

theorem run?_cons (r : Reader) (t : Token) (ts : List Token) :
    r.run? (t :: ts) = (r.step? t).bind (·.run? ts) := by
  rw [run?, List.foldlM_cons]
  rfl

theorem run?_singleton (r : Reader) (t : Token) : r.run? [t] = r.step? t := by
  rw [run?_cons]
  cases r.step? t <;> rfl

/-- A value does not begin with the end of an array. -/
theorem head_tokens (v : Json) : ∃ t ts, v.tokens = t :: ts ∧ t ≠ .endArray := by
  cases v <;> simp [tokens]

/-- The first item of an array is read like any other. -/
theorem run?_firstItem (stack : List Frame) {t : Token} (other : t ≠ .endArray)
    (ts : List Token) :
    (Reader.reading stack .firstItem).run? (t :: ts) =
      (Reader.reading stack .value).run? (t :: ts) := by
  rw [run?_cons, run?_cons, step?, step?, if_neg other]

/-- Items do not begin with the end of an array. -/
theorem head_itemTokens (v : Json) (items : List Json) :
    ∃ t ts, itemTokens (v :: items) = t :: ts ∧ t ≠ .endArray := by
  obtain ⟨t, ts, first, other⟩ := head_tokens v
  cases items with
  | nil => exact ⟨t, ts, by rw [itemTokens, first], other⟩
  | cons w items => exact ⟨t, ts ++ .comma :: itemTokens (w :: items), by
      rw [itemTokens, first, List.cons_append]; simp, other⟩

/-- The first field of an object is read like any other. -/
theorem run?_firstName (stack : List Frame) (name : Option String) (ts : List Token) :
    (Reader.reading stack .firstName).run? (.string name :: ts) =
      (Reader.reading stack .name).run? (.string name :: ts) := by
  rw [run?_cons, run?_cons, step?, step?]
  rfl

/-- Fields begin with a name. -/
theorem head_fieldTokens (field : Option String × Json) (fields : List (Option String × Json)) :
    ∃ ts, fieldTokens (field :: fields) = .string field.1 :: ts := by
  obtain ⟨name, v⟩ := field
  cases fields with
  | nil => exact ⟨_, rfl⟩
  | cons other fields => exact ⟨_, by rw [fieldTokens]; simp⟩

/-- The name of a field is followed by its value. -/
theorem run?_field (stack : List Frame) (fields : List (Option String × Json))
    (name : Option String) (ts : List Token) :
    (Reader.reading (.object fields :: stack) .name).run? (.string name :: .colon :: ts) =
      (Reader.reading (.field fields name :: stack) .value).run? ts := by
  have named : (Reader.reading (.object fields :: stack) .name).step? (.string name) =
      some (.reading (.field fields name :: stack) .colon) := rfl
  have begun : (Reader.reading (.field fields name :: stack) .colon).step? .colon =
      some (.reading (.field fields name :: stack) .value) := rfl
  rw [run?_cons, named, Option.bind_some, run?_cons, begun, Option.bind_some]

mutual

/-- The tokens of a value are read as the value, which is put where it belongs. -/
theorem run?_tokens (stack : List Frame) :
    (v : Json) → (Reader.reading stack .value).run? v.tokens = place? stack v
  | .null => by rw [tokens, run?_singleton]; rfl
  | .bool b => by rw [tokens, run?_singleton]; rfl
  | .number n => by rw [tokens, run?_singleton]; rfl
  | .string s => by rw [tokens, run?_singleton]; rfl
  | .array [] => by
    rw [tokens, itemTokens, List.nil_append, run?_cons]
    show (Reader.reading (.array [] :: stack) .firstItem).run? [.endArray] = _
    rw [run?_singleton]
    rfl
  | .array (v :: items) => by
    obtain ⟨t, ts, first, other⟩ := head_itemTokens v items
    rw [tokens, run?_cons]
    show (Reader.reading (.array [] :: stack) .firstItem).run? _ = _
    rw [run?_append, first, run?_firstItem _ other, ← first,
      run?_itemTokens stack [] (v :: items) (List.cons_ne_nil v items), Option.bind_some,
      run?_singleton, step?, closeArray?, List.append_nil, List.reverse_reverse]
  | .object [] => by
    rw [tokens, fieldTokens, List.nil_append, run?_cons]
    show (Reader.reading (.object [] :: stack) .firstName).run? [.endObject] = _
    rw [run?_singleton]
    rfl
  | .object (field :: fields) => by
    obtain ⟨ts, first⟩ := head_fieldTokens field fields
    rw [tokens, run?_cons]
    show (Reader.reading (.object [] :: stack) .firstName).run? _ = _
    rw [run?_append, first, run?_firstName, ← first,
      run?_fieldTokens stack [] (field :: fields) (List.cons_ne_nil field fields),
      Option.bind_some, run?_singleton, step?, closeObject?, List.append_nil,
      List.reverse_reverse]

/-- The items of an array are read behind those that were read before. -/
theorem run?_itemTokens (stack : List Frame) (before : List Json) :
    (items : List Json) → items ≠ [] →
      (Reader.reading (.array before :: stack) .value).run? (itemTokens items) =
        some (.reading (.array (items.reverse ++ before) :: stack) .separator)
  | [], nonempty => absurd rfl nonempty
  | [v], _ => by rw [itemTokens, run?_tokens]; rfl
  | v :: w :: items, _ => by
    rw [itemTokens, run?_append, run?_tokens]
    · show (Reader.reading (.array (v :: before) :: stack) .separator).run? _ = _
      rw [run?_cons]
      show (Reader.reading (.array (v :: before) :: stack) .value).run? _ = _
      rw [run?_itemTokens stack (v :: before) (w :: items) (List.cons_ne_nil w items)]
      simp
    · simp

/-- The fields of an object are read behind those that were read before. -/
theorem run?_fieldTokens (stack : List Frame) (before : List (Option String × Json)) :
    (fields : List (Option String × Json)) → fields ≠ [] →
      (Reader.reading (.object before :: stack) .name).run? (fieldTokens fields) =
        some (.reading (.object (fields.reverse ++ before) :: stack) .separator)
  | [], nonempty => absurd rfl nonempty
  | [(name, v)], _ => by rw [fieldTokens, run?_field, run?_tokens]; rfl
  | (name, v) :: other :: fields, _ => by
    rw [fieldTokens, run?_field, run?_append, run?_tokens]
    · show (Reader.reading (.object ((name, v) :: before) :: stack) .separator).run? _ = _
      rw [run?_cons]
      show (Reader.reading (.object ((name, v) :: before) :: stack) .name).run? _ = _
      rw [run?_fieldTokens stack ((name, v) :: before) (other :: fields)
        (List.cons_ne_nil other fields)]
      simp
    · simp

end

end Reader

theorem ofTokens?_tokens (v : Json) : ofTokens? v.tokens = some v := by
  rw [ofTokens?, Reader.start, Reader.run?_tokens]
  rfl

/-! ## tokens and texts -/

theorem apart_nil : Apart [] := List.IsChain.nil

theorem apart_singleton (t : Token) : Apart [t] := List.IsChain.singleton t

mutual

/-- Words and numbers are kept apart by the structure of a value. -/
theorem apart_tokens : (v : Json) → Apart v.tokens
  | .null => apart_singleton _
  | .bool b => apart_singleton _
  | .number n => apart_singleton _
  | .string s => apart_singleton _
  | .array items => by
    rw [tokens]
    exact apart_nil.append rfl ((apart_itemTokens items).append rfl apart_nil)
  | .object fields => by
    rw [tokens]
    exact apart_nil.append rfl ((apart_fieldTokens fields).append rfl apart_nil)

/-- Items are divided by marks. -/
theorem apart_itemTokens : (items : List Json) → Apart (itemTokens items)
  | [] => apart_nil
  | [v] => apart_tokens v
  | v :: w :: items => by
    rw [itemTokens]
    · exact (apart_tokens v).append rfl (apart_itemTokens (w :: items))
    · simp

/-- Fields are divided by marks. -/
theorem apart_fieldTokens :
    (fields : List (Option String × Json)) → Apart (fieldTokens fields)
  | [] => apart_nil
  | [(name, v)] => (apart_singleton (.string name)).append rfl (apart_tokens v)
  | (name, v) :: other :: fields => by
    rw [fieldTokens]
    · exact (apart_singleton (.string name)).append rfl
        ((apart_tokens v).append rfl (apart_fieldTokens (other :: fields)))
    · simp

end

/-- A text that stands for a value is read as the value. -/
theorem parse?_of_spelled {v : Json} {s : String} (h : v.Spelled s.toList) :
    parse? s = some v := by
  rw [parse?, scan?_of_spells h v.apart_tokens, Option.bind_some, ofTokens?_tokens]

/-! ## the printer -/

/-- A hexadecimal digit is read as the number it was written for. -/
theorem hexValue?_hexDigit {n : Nat} (small : n < 16) : hexValue? (hexDigit n) = some n := by
  have all : ∀ n < 16, hexValue? (hexDigit n) = some n := by decide
  exact all n small

/-- A character below the space is written by its code point in two digits. -/
theorem spellsUnit_hexDigits {n : Nat} (small : n < 0x100) :
    SpellsUnit n ['0', '0', hexDigit (n / 16), hexDigit (n % 16)] := by
  have zero : hexValue? '0' = some 0 := rfl
  have spelled := SpellsUnit.digits zero zero
    (hexValue?_hexDigit (by omega : n / 16 < 16)) (hexValue?_hexDigit (by omega : n % 16 < 16))
  rwa [show 16 * (16 * (16 * 0 + 0) + n / 16) + n % 16 = n by omega] at spelled

/-- A character is spelled by its escape. -/
theorem spellsChar_escape (c : Char) : SpellsChar c (escape c) := by
  -- the characters that have a letter, one by one
  have letter {d e : Char} (same : c = d) (known : escaped? e = some d) (other : e ≠ 'u') :
      SpellsChar c ['\\', e] := same ▸ .letter known other
  unfold escape
  split
  · next same => exact letter same rfl (by decide)
  split
  · next same => exact letter same rfl (by decide)
  split
  · next same => exact letter same rfl (by decide)
  split
  · next same => exact letter same rfl (by decide)
  split
  · next same => exact letter same rfl (by decide)
  split
  · next same => exact letter same rfl (by decide)
  split
  · next same => exact letter same rfl (by decide)
  split
  · next low => exact .unit (spellsUnit_hexDigits (by omega))
  · next quote backslash _ _ _ _ _ printable =>
    exact .plain quote backslash (Nat.not_lt.1 printable)

theorem spellsChars_escape (s : List Char) : SpellsChars s (s.flatMap escape) := by
  induction s with
  | nil => exact .nil
  | cons c s ih => exact .cons (spellsChar_escape c) ih

/-- A string is spelled between its quotes. -/
theorem spellsToken_stringChars (s : Option String) :
    SpellsToken (.string s) (stringChars s) := by
  cases s with
  | none => exact .half
  | some s => exact .string (spellsChars_escape s.toList)

/-- A mark is spelled by its own character. -/
theorem spells_mark {c : Char} {t : Token} (known : punctuation? c = some t) : Spells [t] [c] :=
  (SpellsToken.mark known).spells

/-- What stands between the marks around it. -/
theorem Spells.enclosed {ts : List Token} {cs : List Char} {first last : Token} {c d : Char}
    (opens : punctuation? c = some first) (h : Spells ts cs)
    (closes : punctuation? d = some last) :
    Spells (first :: (ts ++ [last])) (c :: (cs ++ [d])) :=
  (spells_mark opens).append (h.append (spells_mark closes))

theorem punctuation?_comma : punctuation? ',' = some .comma := rfl

theorem punctuation?_colon : punctuation? ':' = some .colon := rfl

mutual

/-- The compact text of a value stands for it. -/
theorem spelled_chars : (v : Json) → v.Spelled v.chars
  | .null => SpellsToken.null.spells
  | .bool true => SpellsToken.true.spells
  | .bool false => SpellsToken.false.spells
  | .number n => (SpellsToken.number n).spells
  | .string s => (spellsToken_stringChars s).spells
  | .array items => by
    rw [Spelled, tokens, chars]
    exact (spells_itemChars items).enclosed rfl rfl
  | .object fields => by
    rw [Spelled, tokens, chars]
    exact (spells_fieldChars fields).enclosed rfl rfl

/-- Items are spelled as they are printed. -/
theorem spells_itemChars : (items : List Json) → Spells (itemTokens items) (itemChars items)
  | [] => .nil isBlank_nil
  | [v] => spelled_chars v
  | v :: w :: items => by
    rw [itemTokens, itemChars]
    · exact (spelled_chars v).append
        ((spells_mark punctuation?_comma).append (spells_itemChars (w :: items)))
    · simp
    · simp

/-- Fields are spelled as they are printed. -/
theorem spells_fieldChars :
    (fields : List (Option String × Json)) → Spells (fieldTokens fields) (fieldChars fields)
  | [] => .nil isBlank_nil
  | [(name, v)] =>
    (spellsToken_stringChars name).spells.append
      ((spells_mark punctuation?_colon).append (spelled_chars v))
  | (name, v) :: other :: fields => by
    rw [fieldTokens, fieldChars, List.append_assoc]
    · exact (spellsToken_stringChars name).spells.append
        ((spells_mark punctuation?_colon).append ((spelled_chars v).append
          ((spells_mark punctuation?_comma).append (spells_fieldChars (other :: fields)))))
    · simp
    · simp

end

/-- Every value reads back from its compact text. -/
theorem parse?_render (v : Json) : parse? v.render = some v :=
  parse?_of_spelled (by rw [render, String.toList_ofList]; exact v.spelled_chars)

end MachineBridge.Json
