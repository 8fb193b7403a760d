import MachineBridge.Json.Printer
import MachineBridge.Json.Token
import Mathlib.Data.List.Chain

/-!
# MachineBridge.Proofs.Json.Spelling

The texts that stand for a sequence of tokens.  Blanks may stand in front of a token and
behind the last one, and a character of a string can be written in several ways; a number is
written as the printer writes it.  `Spells ts cs` says that `cs` is such a text of `ts`.

The scanner reads all of them: `scan?_of_spells`.  Two words or numbers with nothing between
them are read as one, so the tokens have to be `Apart`, as those of a value always are.
-/

namespace MachineBridge.Json

/-! ## the texts of a sequence of tokens -/

def IsBlank (cs : List Char) : Prop := ∀ c ∈ cs, isSpace c = true

/-- Four hexadecimal digits, in either case, and what they stand for. -/
inductive SpellsUnit : Nat → List Char → Prop
  | digits {c₁ c₂ c₃ c₄ : Char} {d₁ d₂ d₃ d₄ : Nat} (h₁ : hexValue? c₁ = some d₁)
      (h₂ : hexValue? c₂ = some d₂) (h₃ : hexValue? c₃ = some d₃) (h₄ : hexValue? c₄ = some d₄) :
      SpellsUnit (16 * (16 * (16 * d₁ + d₂) + d₃) + d₄) [c₁, c₂, c₃, c₄]

/-- The ways to write a character in a string: as it is, by a letter behind a backslash, or by
its code point in one sixteen bit unit or in two. -/
inductive SpellsChar (c : Char) : List Char → Prop
  | plain (quote : c ≠ '"') (backslash : c ≠ '\\') (printable : 0x20 ≤ c.toNat) : SpellsChar c [c]
  | letter {e : Char} (known : escaped? e = some c) (other : e ≠ 'u') : SpellsChar c ['\\', e]
  | unit {ds : List Char} (digits : SpellsUnit c.toNat ds) : SpellsChar c ('\\' :: 'u' :: ds)
  | pair {ds es : List Char} {high low : Nat} (first : SpellsUnit high ds)
      (second : SpellsUnit low es) (isHigh : 0xD800 ≤ high ∧ high < 0xDC00)
      (isLow : 0xDC00 ≤ low ∧ low < 0xE000)
      (same : c.toNat = 0x10000 + (high - 0xD800) * 0x400 + (low - 0xDC00)) :
      SpellsChar c ('\\' :: 'u' :: (ds ++ '\\' :: 'u' :: es))

/-- The ways to write characters in a string. -/
inductive SpellsChars : List Char → List Char → Prop
  | nil : SpellsChars [] []
  | cons {c : Char} {s cs ds : List Char} (first : SpellsChar c cs) (others : SpellsChars s ds) :
      SpellsChars (c :: s) (cs ++ ds)

/-- The ways to write a token. -/
inductive SpellsToken : Token → List Char → Prop
  | mark {t : Token} {c : Char} (known : punctuation? c = some t) : SpellsToken t [c]
  | null : SpellsToken .null ['n', 'u', 'l', 'l']
  | true : SpellsToken (.bool true) ['t', 'r', 'u', 'e']
  | false : SpellsToken (.bool false) ['f', 'a', 'l', 's', 'e']
  | number (n : NumberLiteral) : SpellsToken (.number n) (numberChars n)
  | string {s : String} {cs : List Char} (characters : SpellsChars s.toList cs) :
      SpellsToken (.string (some s)) ('"' :: (cs ++ ['"']))
  /-- A string that is no text, as the printer writes it. -/
  | half : SpellsToken (.string none) (stringChars none)

/-- A text splits into tokens, with blanks between them. -/
inductive Spells : List Token → List Char → Prop
  | nil {blank : List Char} (blanks : IsBlank blank) : Spells [] blank
  | cons {blank cs rest : List Char} {t : Token} {ts : List Token} (blanks : IsBlank blank)
      (first : SpellsToken t cs) (others : Spells ts rest) : Spells (t :: ts) (blank ++ cs ++ rest)

/-- A token that ends only where something else begins. -/
def Token.isBare : Token → Bool
  | .null => true
  | .bool _ => true
  | .number _ => true
  | _ => false

/-- A token of one punctuation character. -/
def Token.isMark : Token → Bool
  | .beginArray => true
  | .endArray => true
  | .beginObject => true
  | .endObject => true
  | .comma => true
  | .colon => true
  | _ => false

/-- Behind every word or number stands a mark, or nothing. -/
def Apart (ts : List Token) : Prop :=
  ts.IsChain fun t u => t.isBare = true → u.isMark = true

theorem isBlank_nil : IsBlank [] := by simp [IsBlank]

/-- A mark keeps the tokens on its sides apart. -/
theorem Apart.append {ts us : List Token} {t : Token} (first : Apart ts) (mark : t.isMark = true)
    (second : Apart us) : Apart (ts ++ t :: us) := by
  have bare : t.isBare = false := by cases t <;> simp [Token.isBare, Token.isMark] at mark ⊢
  refine List.isChain_append.2 ⟨first, List.isChain_cons.2 ⟨fun u _ => ?_, second⟩, ?_⟩
  · simp [bare]
  · simp [mark]

/-- Blanks may stand before a spelling. -/
theorem Spells.blank_append {ts : List Token} {blank cs : List Char} (blanks : IsBlank blank)
    (h : Spells ts cs) : Spells ts (blank ++ cs) := by
  have joined {more : List Char} (others : IsBlank more) : IsBlank (blank ++ more) := by
    intro c mem
    exact (List.mem_append.1 mem).elim (blanks c) (others c)
  cases h with
  | nil others => exact .nil (joined others)
  | cons others first rest =>
    rw [← List.append_assoc, ← List.append_assoc]
    exact .cons (joined others) first rest

/-- Texts can be joined. -/
theorem Spells.append {ts us : List Token} {cs ds : List Char} (first : Spells ts cs)
    (second : Spells us ds) : Spells (ts ++ us) (cs ++ ds) := by
  induction first with
  | nil blanks => exact second.blank_append blanks
  | cons blanks token _ ih =>
    rw [List.cons_append, List.append_assoc]
    exact .cons blanks token ih

/-- A token by itself is a spelling. -/
theorem SpellsToken.spells {t : Token} {cs : List Char} (h : SpellsToken t cs) : Spells [t] cs := by
  have spelled := Spells.cons isBlank_nil h (.nil isBlank_nil)
  rwa [List.nil_append, List.append_nil] at spelled

/-! ## numbers -/

/-- The digits of a number have no superfluous zero in front. -/
theorem head_natChars (n : Nat) :
    (Decimal.natChars n).head? ≠ some '0' ∨ Decimal.natChars n = ['0'] := by
  induction n using Nat.strongRecOn with
  | ind n ih =>
    rw [Decimal.natChars, Nat.toDigits_eq_if (by decide)]
    by_cases small : n < 10
    · rw [if_pos small]
      by_cases zero : n = 0
      · simp [zero]
      · simp [Nat.digitChar_eq_zero, zero]
    · rw [if_neg small]
      have shorter := ih (n / 10) (by omega)
      rw [Decimal.natChars] at shorter
      obtain head | zero := shorter
      · left
        rwa [List.head?_append_of_ne_nil _ Nat.toDigits_ne_nil]
      · have back := Nat.ofDigitChars_ten_toDigits (n := n / 10)
        rw [zero] at back
        have : n / 10 = 0 := by rw [← back]; decide
        omega

theorem all_isDigit_natChars (n : Nat) : ∀ c ∈ Decimal.natChars n, c.isDigit = true :=
  fun _ mem => Nat.isDigit_of_mem_toDigits (by decide) (by decide) mem

/-- The decimal digits of a number are read as the number. -/
theorem digits?_natChars (n : Nat) : digits? (Decimal.natChars n) = some n := by
  have digits : (Decimal.natChars n).all Char.isDigit = true :=
    List.all_eq_true.2 (all_isDigit_natChars n)
  have written : Decimal.natChars n ≠ [] := Nat.toDigits_ne_nil
  rw [digits?, if_pos ⟨written, digits⟩, Decimal.natChars, Nat.ofDigitChars_ten_toDigits]

/-- A whole number has no leading zero. -/
theorem whole?_natChars (n : Nat) : whole? (Decimal.natChars n) = some n := by
  have sound : ¬((Decimal.natChars n).head? = some '0' ∧ Decimal.natChars n ≠ ['0']) := by
    rintro ⟨zero, other⟩
    exact (head_natChars n).elim (fun h => h zero) other
  rw [whole?, if_neg sound, digits?_natChars]

/-- The digits in front of something else are found. -/
theorem span_natChars (n : Nat) (rest : List Char) (stops : ∀ c ∈ rest.head?, c.isDigit = false) :
    (Decimal.natChars n ++ rest).takeWhile Char.isDigit = Decimal.natChars n ∧
      (Decimal.natChars n ++ rest).dropWhile Char.isDigit = rest := by
  have digits := all_isDigit_natChars n
  rw [List.takeWhile_append_of_pos digits, List.dropWhile_append_of_pos digits]
  cases rest with
  | nil => simp
  | cons c rest =>
    have other := stops c rfl
    simp [other]

/-- Digits do not begin with a sign. -/
theorem natChars_ne_cons (n : Nat) {c : Char} (other : c.isDigit = false) (rest : List Char) :
    Decimal.natChars n ≠ c :: rest := fun same => by
  have digit := all_isDigit_natChars n c (same ▸ List.mem_cons_self)
  rw [other] at digit
  contradiction

/-- An exponent is read with its sign. -/
theorem exponent?_intChars (e : Int) : exponent? ('e' :: Decimal.intChars e) = some e := by
  rw [Decimal.intChars]
  split
  · next negative =>
    have signed : exponent? ('e' :: '-' :: Decimal.natChars e.natAbs) =
        some (-(e.natAbs : Int)) := by
      rw [exponent?, if_pos (.inl rfl), digits?_natChars]
      rfl
    rw [signed]
    exact congrArg some (by omega)
  · next positive =>
    have unsigned : exponent? ('e' :: Decimal.natChars e.natAbs) = some (e.natAbs : Int) := by
      rw [exponent?, if_pos (.inl rfl), digits?_natChars]
      · rfl
      · exact fun digits => natChars_ne_cons _ rfl digits
      · exact fun digits => natChars_ne_cons _ rfl digits
    rw [unsigned]
    exact congrArg some (by omega)

def magnitudeChars : NumberLiteral → List Char
  | .integer _ n => Decimal.natChars n
  | .real _ m e => Decimal.natChars m ++ 'e' :: Decimal.intChars e

def isSigned : NumberLiteral → Bool
  | .integer negative _ => negative
  | .real negative _ _ => negative

/-- A number is written as its sign and its magnitude. -/
theorem numberChars_eq (n : NumberLiteral) :
    numberChars n = (if isSigned n then ['-'] else []) ++ magnitudeChars n := by
  cases n with
  | integer negative n => rfl
  | real negative m e => exact List.append_assoc ..

/-- A magnitude is read back. -/
theorem magnitude?_magnitudeChars (n : NumberLiteral) :
    magnitude? (isSigned n) (magnitudeChars n) = some n := by
  cases n with
  | integer negative n =>
    obtain ⟨taken, left⟩ := span_natChars n [] (by simp)
    rw [List.append_nil] at taken left
    simp only [magnitude?, magnitudeChars, isSigned, taken, left, whole?_natChars]
  | real negative m e =>
    obtain ⟨taken, left⟩ := span_natChars m ('e' :: Decimal.intChars e) (by simp)
    simp only [magnitude?, magnitudeChars, isSigned, taken, left, whole?_natChars]
    show (exponent? ('e' :: Decimal.intChars e)).map _ = _
    rw [exponent?_intChars, Option.map_some]

/-- A number begins with a digit behind its sign. -/
theorem head_magnitudeChars (n : NumberLiteral) :
    ∃ c rest, magnitudeChars n = c :: rest ∧ c.isDigit = true := by
  have digits (k : Nat) (rest : List Char) :
      ∃ c more, Decimal.natChars k ++ rest = c :: more ∧ c.isDigit = true := by
    cases written : Decimal.natChars k with
    | nil => exact absurd written Nat.toDigits_ne_nil
    | cons c more =>
      exact ⟨c, more ++ rest, rfl, all_isDigit_natChars k c (written ▸ List.mem_cons_self)⟩
  cases n with
  | integer negative n => simpa [magnitudeChars] using digits n []
  | real negative m e => exact digits m _

/-- A number literal is read back. -/
theorem number?_numberChars (n : NumberLiteral) : number? (numberChars n) = some n := by
  have read := magnitude?_magnitudeChars n
  rw [numberChars_eq]
  cases signed : isSigned n with
  | true =>
    rw [signed] at read
    exact read
  | false =>
    rw [signed] at read
    obtain ⟨c, rest, written, digit⟩ := head_magnitudeChars n
    have other : c ≠ '-' := by
      rintro rfl
      simp at digit
    rw [if_neg Bool.false_ne_true, List.nil_append, written, number?.eq_def]
    split
    · next same => exact absurd (List.cons.inj same).1 other
    · rw [← written, read]

theorem isNumberChar_of_isDigit {c : Char} (h : c.isDigit = true) : isNumberChar c = true := by
  simp [isNumberChar, h]

theorem all_isNumberChar_numberChars (n : NumberLiteral) :
    ∀ c ∈ numberChars n, isNumberChar c = true := by
  have digits (k : Nat) : ∀ c ∈ Decimal.natChars k, isNumberChar c = true := fun c mem =>
    isNumberChar_of_isDigit (all_isDigit_natChars k c mem)
  have signed (negative : Bool) :
      ∀ c ∈ (if negative then ['-'] else []), isNumberChar c = true := by
    cases negative <;> simp [isNumberChar]
  cases n with
  | integer negative n =>
    intro c mem
    exact (List.mem_append.1 mem).elim (signed negative c) (digits n c)
  | real negative m e =>
    intro c mem
    rw [numberChars, List.mem_append, List.mem_append, List.mem_cons] at mem
    obtain (sign | digit) | rfl | exponent := mem
    · exact signed negative c sign
    · exact digits m c digit
    · rfl
    · rw [Decimal.intChars] at exponent
      split at exponent
      · obtain rfl | digit := List.mem_cons.1 exponent
        · rfl
        · exact digits _ c digit
      · exact digits _ c exponent

namespace Scanner

variable {ts : List Token} {cs : List Char}

theorem run?_cons (s : Scanner) (c : Char) (cs : List Char) :
    s.run? (c :: cs) = (s.step? c).bind (·.run? cs) := by
  rw [run?, List.foldlM_cons]
  rfl

/-! ## strings -/

/-- A unit that is written with four hexadecimal digits is pushed. -/
theorem run?_unit {u : Nat} {ds : List Char} (h : SpellsUnit u ds) (p : Partial) :
    run? ⟨ts, .string p⟩ ('\\' :: 'u' :: ds) = some ⟨ts, .string (p.pushUnit u)⟩ := by
  cases h with
  | digits h₁ h₂ h₃ h₄ => simp [run?, step?, h₁, h₂, h₃, h₄]

theorem push_eq (c : Char) (r : List Char) :
    Partial.push { reversed := r } c = { reversed := c :: r } := rfl

/-- A unit that is a character of its own is no half of a pair. -/
theorem pushUnit_eq (c : Char) (r : List Char) :
    Partial.pushUnit { reversed := r } c.toNat = { reversed := c :: r } := by
  have valid : c.toNat < 0xD800 ∨ 0xDFFF < c.toNat := by
    obtain h | h := c.valid
    · exact .inl h
    · exact .inr h.1
  rw [Partial.pushUnit, if_neg (by omega), if_neg (by omega), Char.ofNat_toNat, push_eq]

/-- Two halves make one character. -/
theorem pushUnit_pair {c : Char} {high low : Nat} (isHigh : 0xD800 ≤ high ∧ high < 0xDC00)
    (isLow : 0xDC00 ≤ low ∧ low < 0xE000)
    (same : c.toNat = 0x10000 + (high - 0xD800) * 0x400 + (low - 0xDC00)) (r : List Char) :
    (Partial.pushUnit { reversed := r } high).pushUnit low = { reversed := c :: r } := by
  have first : Partial.pushUnit { reversed := r } high = { reversed := r, high := some high } := by
    rw [Partial.pushUnit, if_pos isHigh]
    rfl
  rw [first, Partial.pushUnit, if_neg (by omega), if_pos isLow]
  dsimp only
  rw [← same, Char.ofNat_toNat]

/-- A character is read however it is spelled. -/
theorem run?_char {c : Char} (h : SpellsChar c cs) (r : List Char) :
    run? ⟨ts, .string { reversed := r }⟩ cs = some ⟨ts, .string { reversed := c :: r }⟩ := by
  cases h with
  | plain quote backslash printable =>
    simp [run?, step?, quote, backslash, Nat.not_lt.2 printable, push_eq]
  | letter known other => simp [run?, step?, known, other, push_eq]
  | unit digits => rw [run?_unit digits, pushUnit_eq]
  | pair first second isHigh isLow same =>
    rw [← List.cons_append, ← List.cons_append, run?_append, run?_unit first, Option.bind_some,
      run?_unit second, pushUnit_pair isHigh isLow same]

theorem run?_chars {s : List Char} (h : SpellsChars s cs) (r : List Char) :
    run? ⟨ts, .string { reversed := r }⟩ cs =
      some ⟨ts, .string { reversed := s.reverse ++ r }⟩ := by
  induction h generalizing r with
  | nil => rfl
  | cons first _ ih =>
    rw [run?_append, run?_char first, Option.bind_some, ih, List.reverse_cons, List.append_assoc]
    rfl

/-- A string is read up to its closing quote. -/
theorem run?_string {s : String} (h : SpellsChars s.toList cs) :
    run? ⟨ts, .between⟩ ('"' :: (cs ++ ['"'])) =
      some ⟨.string (some s) :: ts, .between⟩ := by
  have opened : step? ⟨ts, .between⟩ '"' = some ⟨ts, .string { reversed := [] }⟩ := rfl
  rw [run?_cons, opened, Option.bind_some, run?_append, run?_chars h, Option.bind_some]
  simp [run?, step?, emit, Partial.finish, Partial.settle]

/-! ## words and numbers -/

/-- The characters of a number are gathered. -/
theorem run?_number {r : List Char} (number : ∀ c ∈ cs, isNumberChar c = true) :
    run? ⟨ts, .number r⟩ cs = some ⟨ts, .number (cs.reverse ++ r)⟩ := by
  induction cs generalizing r with
  | nil => rfl
  | cons c cs ih =>
    have stepped : step? ⟨ts, .number r⟩ c = some ⟨ts, .number (c :: r)⟩ := by
      simp [step?, number c List.mem_cons_self]
    rw [run?_cons, stepped, Option.bind_some, ih fun d mem => number d (List.mem_cons_of_mem c mem)]
    simp

/-- A number is read, and flushed when something else begins. -/
theorem run?_of_number (ts : List Token) (n : NumberLiteral) :
    ∃ s, run? ⟨ts, .between⟩ (numberChars n) = some s ∧
      s.flush? = some ⟨.number n :: ts, .between⟩ := by
  obtain ⟨c, rest, written, begins⟩ :
      ∃ c rest, numberChars n = c :: rest ∧ (c.isDigit = true ∨ c = '-') := by
    rw [numberChars_eq]
    cases isSigned n with
    | true => exact ⟨'-', magnitudeChars n, rfl, .inr rfl⟩
    | false =>
      obtain ⟨c, rest, written, digit⟩ := head_magnitudeChars n
      exact ⟨c, rest, written, .inl digit⟩
  have number := all_isNumberChar_numberChars n
  have read := number?_numberChars n
  rw [written] at number read ⊢
  have between : begin? ⟨ts, .between⟩ c = some ⟨ts, .number [c]⟩ := by
    have other : isSpace c = false ∧ c ≠ '"' := by
      obtain digit | rfl := begins
      · refine ⟨?_, ?_⟩
        · rw [isSpace]
          simp only [Bool.or_eq_false_iff, beq_eq_false_iff_ne]
          refine ⟨⟨⟨?_, ?_⟩, ?_⟩, ?_⟩ <;> rintro rfl <;> exact absurd digit (by decide)
        · rintro rfl
          exact absurd digit (by decide)
      · exact ⟨rfl, by decide⟩
    rw [begin?, if_neg (by simp [other.1]), if_neg other.2, if_pos begins]
  refine ⟨⟨ts, .number (rest.reverse ++ [c])⟩, ?_, ?_⟩
  · rw [run?_cons, step?, between, Option.bind_some,
      run?_number fun d mem => number d (List.mem_cons_of_mem c mem)]
  · rw [flush?]
    dsimp only
    rw [List.reverse_append, List.reverse_reverse, List.reverse_singleton, List.singleton_append,
      read]
    rfl

/-! ## sequences of tokens -/

/-- A character at which a word or a number ends. -/
def IsStop (c : Char) : Prop := isSpace c = true ∨ (punctuation? c).isSome = true

theorem not_lower_of_isStop {c : Char} (h : IsStop c) :
    c.isLower = false ∧ isNumberChar c = false := by
  obtain blank | mark := h
  · simp only [isSpace, Bool.or_eq_true, beq_iff_eq] at blank
    obtain ((rfl | rfl) | rfl) | rfl := blank <;> decide
  · unfold punctuation? at mark
    split at mark <;> first | decide | contradiction

/-- What stands behind a word or a number is read as if that had ended by itself. -/
theorem run?_of_flush {s s' : Scanner} (ends : s.flush? = some s') (between : s'.mode = .between)
    (stops : ∀ c ∈ cs.head?, IsStop c) :
    (s.run? cs).bind flush? = (s'.run? cs).bind flush? := by
  cases cs with
  | nil =>
    show s.flush? = s'.flush?
    rw [ends, flush?, between]
  | cons c cs =>
    obtain ⟨lower, number⟩ := not_lower_of_isStop (stops c rfl)
    have same : s.step? c = s'.step? c := by
      rw [step?.eq_def s', between]
      cases mode : s.mode with
      | between =>
        rw [flush?, mode] at ends
        cases ends
        rw [step?, mode]
      | word r =>
        rw [step?, mode]
        simp only [lower, Bool.false_eq_true, if_false, ends, Option.bind_some]
      | number r =>
        rw [step?, mode]
        simp only [number, Bool.false_eq_true, if_false, ends, Option.bind_some]
      | string p | escape p | unicode p left value =>
        rw [flush?, mode] at ends
        contradiction
    rw [run?_cons, run?_cons, same]

/-- Blanks between tokens are passed over. -/
theorem run?_blank (h : IsBlank cs) : run? ⟨ts, .between⟩ cs = some ⟨ts, .between⟩ := by
  induction cs with
  | nil => rfl
  | cons c cs ih =>
    have skipped : step? ⟨ts, .between⟩ c = some ⟨ts, .between⟩ := by
      rw [step?, begin?, if_pos (h c List.mem_cons_self)]
    rw [run?_cons, skipped, Option.bind_some, ih fun d mem => h d (List.mem_cons_of_mem c mem)]

/-- A mark is read at once. -/
theorem run?_mark {c : Char} {t : Token} (known : punctuation? c = some t) :
    run? ⟨ts, .between⟩ [c] = some ⟨t :: ts, .between⟩ := by
  unfold punctuation? at known
  split at known <;> cases known <;> rfl

/-- A token is read, once it has ended; only a word or a number does not end by itself. -/
theorem run?_token (ts : List Token) {t : Token} (h : SpellsToken t cs) :
    ∃ s, run? ⟨ts, .between⟩ cs = some s ∧ s.flush? = some ⟨t :: ts, .between⟩ ∧
      (t.isBare = false → s = ⟨t :: ts, .between⟩) := by
  cases h with
  | mark known => exact ⟨_, run?_mark known, rfl, fun _ => rfl⟩
  | null => exact ⟨⟨ts, .word ['l', 'l', 'u', 'n']⟩, rfl, rfl, fun bare => by cases bare⟩
  | true => exact ⟨⟨ts, .word ['e', 'u', 'r', 't']⟩, rfl, rfl, fun bare => by cases bare⟩
  | false => exact ⟨⟨ts, .word ['e', 's', 'l', 'a', 'f']⟩, rfl, rfl, fun bare => by cases bare⟩
  | number n =>
    obtain ⟨s, read, ends⟩ := run?_of_number ts n
    exact ⟨s, read, ends, fun bare => by cases bare⟩
  | string characters => exact ⟨_, run?_string characters, rfl, fun _ => rfl⟩
  | half => exact ⟨_, rfl, rfl, fun _ => rfl⟩

end Scanner

/-- A text begins with a character at which a word ends, if its first token is a mark. -/
theorem Spells.head {ts : List Token} {cs : List Char} (h : Spells ts cs)
    (marked : ∀ t ∈ ts.head?, t.isMark = true) : ∀ c ∈ cs.head?, Scanner.IsStop c := by
  intro c first
  cases h with
  | nil blanks => exact .inl (blanks c (List.mem_of_mem_head? first))
  | @cons blank ds rest t ts blanks token others =>
    cases blank with
    | cons d blank =>
      cases first
      exact .inl (blanks _ List.mem_cons_self)
    | nil =>
      have mark := marked t rfl
      cases token with
      | mark known =>
        cases first
        exact .inr (by rw [known]; rfl)
      | null | true | false | number n | string characters | half => cases mark

/-- Every spelling of tokens is read as these tokens. -/
theorem run?_of_spells {ts : List Token} {cs : List Char} (h : Spells ts cs) (apart : Apart ts)
    (before : List Token) :
    (Scanner.run? ⟨before, .between⟩ cs).bind Scanner.flush? =
      some ⟨ts.reverse ++ before, .between⟩ := by
  induction h generalizing before with
  | nil blanks =>
    rw [Scanner.run?_blank blanks]
    rfl
  | @cons blank cs rest t ts blanks token others ih =>
    obtain ⟨next, apart⟩ := List.isChain_cons.1 apart
    obtain ⟨s, read, ends, whole⟩ := Scanner.run?_token before token
    rw [List.append_assoc, Scanner.run?_append, Scanner.run?_blank blanks, Option.bind_some,
      Scanner.run?_append, read, Option.bind_some]
    have same : (s.run? rest).bind Scanner.flush? =
        (Scanner.run? ⟨t :: before, .between⟩ rest).bind Scanner.flush? := by
      cases bare : t.isBare with
      | false => rw [whole bare]
      | true => exact Scanner.run?_of_flush ends rfl (others.head fun u first => next u first bare)
    rw [same, ih apart, List.reverse_cons, List.append_assoc]
    rfl

/-- A text is split into its tokens. -/
theorem scan?_of_spells {ts : List Token} {cs : List Char} (h : Spells ts cs) (apart : Apart ts) :
    Token.scan? cs = some ts := by
  rw [Token.scan?, run?_of_spells h apart []]
  simp

end MachineBridge.Json
