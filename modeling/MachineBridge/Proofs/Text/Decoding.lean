import MachineBridge.Proofs.Text.Encoding
import MachineBridge.RawError
import Mathlib.Data.List.TakeWhile

/-!
# MachineBridge.Proofs.Text.Decoding

What a decoded text is, said without the decoder: its characters stand for
themselves, and each maximal prefix of a character that breaks off is one
U+FFFD.  Every text decodes to exactly one sequence of characters, the one the
decoder gives; what is known of copied strings is read off that relation.
-/

namespace MachineBridge.Text

open String (utf8EncodeChar)

variable {a b bad rest read text bytes : List UInt8} {c : Char} {cs ds : List Char}

/-! ## decoded texts -/

/-- No character comes next, and these are the bytes it is replaced for: one
that begins no character, or the longest beginning of one. -/
structure Broken (bad rest : List UInt8) : Prop where
  nonempty : bad ≠ []
  noCharacter : ∀ c, ¬ utf8EncodeChar c <+: bad ++ rest
  beginning : bad.length = 1 ∨ ∃ c, bad <+: utf8EncodeChar c
  longest : ∀ longer c, longer <+: bad ++ rest → longer <+: utf8EncodeChar c →
    longer.length ≤ bad.length

/-- A text and the characters it is decoded to. -/
inductive Decodes : List UInt8 → List Char → Prop
  | nil : Decodes [] []
  | char {rest : List UInt8} {cs : List Char} (c : Char) :
      Decodes rest cs → Decodes (utf8EncodeChar c ++ rest) (c :: cs)
  | broken {bad rest : List UInt8} {cs : List Char} :
      Broken bad rest → Decodes rest cs → Decodes (bad ++ rest) (replacement :: cs)

theorem encode_ne_nil (c : Char) : utf8EncodeChar c ≠ [] := by
  rw [← List.length_pos_iff, String.length_utf8EncodeChar]
  exact c.utf8Size_pos

/-- No character is the beginning of another. -/
theorem eq_of_encode_begins {c d : Char} (le : utf8EncodeChar c <+: utf8EncodeChar d) : c = d := by
  obtain ⟨tail, eq⟩ := le
  have first : ([c].utf8Encode ++ tail.toByteArray).utf8DecodeChar? 0 = some c :=
    List.utf8DecodeChar?_utf8Encode_singleton_append
  have same : [c].utf8Encode ++ tail.toByteArray = [d].utf8Encode ++ [].toByteArray := by
    rw [List.utf8Encode, List.utf8Encode, ← List.toByteArray_append, ← List.toByteArray_append]
    simp [eq]
  rw [same, List.utf8DecodeChar?_utf8Encode_singleton_append] at first
  exact (Option.some.inj first).symm

/-- The character a text begins with is no part of a character under way. -/
theorem Pending.Follows.not_encode_begins {p : Pending} (h : p.Follows read) :
    ¬ utf8EncodeChar c <+: read := by
  intro le
  obtain ⟨d, begins, shorter⟩ := h.begins
  have same := eq_of_encode_begins (le.trans begins)
  have := le.length_le
  rw [same] at this
  omega

/-- A character under way that the text breaks off, or that ends with it. -/
theorem Pending.Follows.broken {p : Pending} (h : p.Follows read)
    (off : ∀ b ∈ rest.head?, ¬ (p.low ≤ b ∧ b ≤ p.high)) : Broken read rest := by
  have stuck : ∀ longer c, longer <+: read ++ rest → longer <+: utf8EncodeChar c →
      longer.length ≤ read.length := by
    intro longer c le begins
    by_contra more
    obtain ⟨tail, rfl⟩ := List.prefix_of_prefix_length_le (List.prefix_append read rest) le
      (Nat.le_of_not_le more)
    have le := (List.prefix_append_right_inj read).mp le
    cases tail with
    | nil => simp at more
    | cons b tail =>
      obtain ⟨rest, rfl⟩ := le
      refine h.breaksOff (off b rfl) (c := c) (.trans ?_ begins)
      exact (List.prefix_append_right_inj read).mpr (List.prefix_append [b] tail)
  obtain ⟨d, begins, -⟩ := h.begins
  refine ⟨h.nonempty, fun c le => ?_, .inr ⟨d, begins⟩, stuck⟩
  refine h.not_encode_begins (c := c) (List.prefix_of_prefix_length_le le ?_ ?_)
  · exact List.prefix_append read rest
  · exact stuck _ c le (List.prefix_refl _)

/-- A byte that begins no character. -/
theorem broken_of_lead {b : UInt8} (none : ∀ c, ¬ [b] <+: utf8EncodeChar c)
    (rest : List UInt8) : Broken [b] rest := by
  refine ⟨List.cons_ne_nil b [], fun c le => ?_, .inl rfl, fun longer c le begins => ?_⟩
  · obtain ⟨x, tail, eq⟩ := List.exists_cons_of_ne_nil (encode_ne_nil c)
    rw [eq] at le
    obtain rfl := (List.cons_prefix_cons.mp le).1
    exact none c ⟨tail, eq.symm⟩
  · cases longer with
    | nil => exact Nat.zero_le _
    | cons x longer =>
      obtain rfl := (List.cons_prefix_cons.mp le).1
      exact absurd ((List.prefix_append [x] longer).trans begins) (none c)

/-- The decoder gives what a text is decoded to, from any character under way.
The induction is on the bytes to come. -/
theorem decodes_decodeFrom (rest : List UInt8) :
    Decodes rest (decodeFrom none rest) ∧
      ∀ (p : Pending) (read : List UInt8), p.Follows read →
        Decodes (read ++ rest) (decodeFrom (some p) rest) := by
  induction rest with
  | nil =>
    refine ⟨.nil, fun p read follows => ?_⟩
    exact .broken (follows.broken (by simp)) .nil
  | cons b rest ih =>
    have fresh : Decodes (b :: rest) (decodeFrom none (b :: rest)) := by
      rw [decodeFrom, readByte]
      generalize begun : beginChar b = out
      have beginning := beginChar_beginning b
      rw [begun] at beginning
      cases beginning with
      | @char c encodes =>
        have := Decodes.char c ih.1
        rwa [encodes] at this
      | broken none =>
        exact .broken (broken_of_lead none rest) ih.1
      | pending follows => exact ih.2 _ [b] follows
    refine ⟨fresh, fun p read follows => ?_⟩
    rw [decodeFrom, readByte]
    split
    · next inside =>
      rw [List.append_cons]
      split
      · next last =>
        have := Decodes.char (Char.ofNat (p.value * 0x40 + b.toNat % 0x40)) ih.1
        rwa [follows.ends inside last] at this
      · next more => exact ih.2 _ _ (follows.goesOn inside more)
    · next outside =>
      exact .broken (follows.broken (by simpa using outside)) fresh

/-- Every text is decoded. -/
theorem decodes_decodeLossy (bytes : List UInt8) : Decodes bytes (decodeLossy bytes) :=
  (decodes_decodeFrom bytes).1

/-- Two maximal beginnings of one text are the same. -/
theorem Broken.length_le {bad' rest' : List UInt8} (h : Broken bad rest) (h' : Broken bad' rest')
    (same : bad ++ rest = bad' ++ rest') : bad'.length ≤ bad.length := by
  rcases h'.beginning with one | ⟨c, begins⟩
  · rw [one]
    exact List.length_pos_iff.mpr h.nonempty
  · exact h.longest bad' c (same ▸ List.prefix_append bad' rest') begins

/-- A text is decoded to one sequence of characters only. -/
theorem Decodes.unique (first : Decodes bytes cs) (second : Decodes bytes ds) : cs = ds := by
  induction first generalizing ds with
  | nil =>
    generalize none : ([] : List UInt8) = bytes at second
    cases second with
    | nil => rfl
    | char c => exact absurd (List.append_eq_nil_iff.mp none.symm).1 (encode_ne_nil c)
    | broken broken => exact absurd (List.append_eq_nil_iff.mp none.symm).1 broken.nonempty
  | @char rest cs c first ih =>
    generalize same : utf8EncodeChar c ++ rest = bytes at second
    cases second with
    | nil => exact absurd (List.append_eq_nil_iff.mp same).1 (encode_ne_nil c)
    | @char rest' ds d second =>
      have left : utf8EncodeChar c <+: utf8EncodeChar d ++ rest' := ⟨rest, same⟩
      have right : utf8EncodeChar d <+: utf8EncodeChar d ++ rest' := ⟨rest', rfl⟩
      have eq : c = d := (List.prefix_or_prefix_of_prefix left right).elim
        eq_of_encode_begins fun le => (eq_of_encode_begins le).symm
      subst eq
      rw [ih (List.append_cancel_left same ▸ second)]
    | broken broken => exact absurd ⟨rest, same⟩ (broken.noCharacter c)
  | @broken bad rest cs broken first ih =>
    generalize same : bad ++ rest = bytes at second
    cases second with
    | nil => exact absurd (List.append_eq_nil_iff.mp same).1 broken.nonempty
    | @char rest' ds d second => exact absurd ⟨rest', same.symm⟩ (broken.noCharacter d)
    | @broken bad' rest' ds broken' second =>
      have length := Nat.le_antisymm (broken'.length_le broken same.symm)
        (broken.length_le broken' same)
      obtain ⟨-, rfl⟩ := List.append_inj same length
      rw [ih second]

/-- The decoder gives exactly what a text is decoded to. -/
theorem decodes_iff : Decodes bytes cs ↔ cs = decodeLossy bytes := by
  constructor
  · exact fun decodes => decodes.unique (decodes_decodeLossy bytes)
  · rintro rfl
    exact decodes_decodeLossy bytes

/- A character cut short is replaced once, a longer form of a shorter one byte by byte. -/
example : decodeLossy [0xE2, 0x82, 0x41] = [replacement, 'A'] ∧
    decodeLossy [0xE0, 0x82, 0x41] = [replacement, replacement, 'A'] := by decide

/-! ## what is kept -/

def utf8 (s : String) : List UInt8 := s.toUTF8.data.toList

/-- The bytes of a string are those of its characters. -/
theorem utf8_eq (s : String) : utf8 s = s.toList.flatMap utf8EncodeChar := by
  rw [utf8, String.toUTF8, ← s.ofList_toList, String.toByteArray_ofList, List.utf8Encode,
    List.data_toByteArray, String.toList_ofList]

/-- The bytes of characters are decoded to these characters. -/
theorem decodes_flatMap (cs : List Char) : Decodes (cs.flatMap utf8EncodeChar) cs := by
  induction cs with
  | nil => exact .nil
  | cons c cs ih => exact .char c ih

/-- Valid UTF-8 decodes to the characters it encodes. -/
theorem decodes_utf8 (s : String) : Decodes (utf8 s) s.toList := by
  rw [utf8_eq]
  exact decodes_flatMap s.toList

/-- A zero byte is the first character and part of no other. -/
theorem eq_zero_of_mem_encode (zero : 0 ∈ utf8EncodeChar c) : c = '\x00' := by
  obtain ⟨a, tail, eq⟩ := List.exists_cons_of_ne_nil (encode_ne_nil c)
  obtain ⟨lead, tails⟩ := lead_cases eq
  rw [eq] at zero
  cases zero with
  | head =>
    have none : tail = [] := by simpa using lead
    subst none
    exact Char.toNat_inj.mp (encode_eq_one.mp eq).2
  | tail _ inside => exact absurd (tails 0 inside).1 (by decide)

/-- A string without a zero character has no zero byte. -/
theorem zero_not_mem_utf8 {s : String} (clean : '\x00' ∉ s.toList) : 0 ∉ utf8 s := by
  rw [utf8_eq, List.mem_flatMap]
  rintro ⟨c, mem, zero⟩
  exact clean (eq_zero_of_mem_encode zero ▸ mem)

/-- A text without zero bytes is decoded to characters other than the first. -/
theorem Decodes.zero_not_mem (decodes : Decodes bytes cs) (clean : 0 ∉ bytes) : '\x00' ∉ cs := by
  induction decodes with
  | nil => exact List.not_mem_nil
  | char c decodes ih =>
    rw [List.mem_append, not_or] at clean
    rw [List.mem_cons, not_or]
    refine ⟨?_, ih clean.2⟩
    rintro rfl
    exact clean.1 (by decide)
  | broken broken decodes ih =>
    rw [List.mem_append, not_or] at clean
    rw [List.mem_cons, not_or]
    exact ⟨by decide, ih clean.2⟩

/-! ## concatenation -/

/-- No character is left under way at the end of a text. -/
def Finished (bytes : List UInt8) : Prop :=
  ∀ s c, s ≠ [] → s <:+ bytes → s <+: utf8EncodeChar c → s = utf8EncodeChar c

theorem Finished.of_append (h : Finished (a ++ b)) : Finished b :=
  fun s c nonempty suffix => h s c nonempty (suffix.trans (List.suffix_append a b))

/-- A text that ends with a whole character is finished. -/
theorem finished_append_encode (before : List UInt8) (c : Char) :
    Finished (before ++ utf8EncodeChar c) := by
  intro s d nonempty suffix begins
  obtain ⟨a, tail, eq⟩ := List.exists_cons_of_ne_nil (encode_ne_nil c)
  obtain ⟨x, s, rfl⟩ := List.exists_cons_of_ne_nil nonempty
  obtain ⟨more, begun⟩ := begins
  -- The two characters share bytes; their first bytes are no tails, so these are the same.
  rcases List.suffix_or_suffix_of_suffix suffix (List.suffix_append before (utf8EncodeChar c))
    with inside | beyond
  · rw [eq, List.suffix_cons_iff] at inside
    rcases inside with whole | short
    · have same : c = d := eq_of_encode_begins ⟨more, by rw [eq, ← whole, begun]⟩
      rw [whole, ← eq, same]
    · exact absurd ((lead_cases eq).2 x (short.subset List.mem_cons_self))
        (not_isTail_lead begun.symm)
  · obtain ⟨front, split⟩ := beyond
    cases front with
    | nil =>
      rw [List.nil_append] at split
      have same : c = d := eq_of_encode_begins ⟨more, by rw [split, begun]⟩
      rw [← split, same]
    | cons y front =>
      rw [← split, eq] at begun
      have inner : a ∈ front ++ a :: tail ++ more := by simp
      exact absurd ((lead_cases begun.symm).2 a inner) (not_isTail_lead eq)

/-- What begins in a finished text does not reach beyond it. -/
theorem Finished.inside {longer : List UInt8} (h : Finished a) (nonempty : a ≠ [])
    (le : longer <+: a ++ b) (begins : longer <+: utf8EncodeChar c) : longer <+: a := by
  rcases List.prefix_or_prefix_of_prefix le (List.prefix_append a b) with inside | beyond
  · exact inside
  · have whole := h a c nonempty (List.suffix_refl a) (beyond.trans begins)
    rw [whole]
    exact begins

/-- What is broken stays so when more follows. -/
theorem Broken.append (h : Broken bad rest) (finished : Finished (bad ++ rest)) :
    Broken bad (rest ++ b) := by
  have nonempty : bad ++ rest ≠ [] := List.append_ne_nil_of_left_ne_nil h.nonempty rest
  refine ⟨h.nonempty, fun c le => ?_, h.beginning, fun longer c le begins => ?_⟩
  · rw [← List.append_assoc] at le
    exact h.noCharacter c (finished.inside nonempty le (List.prefix_refl _))
  · rw [← List.append_assoc] at le
    exact h.longest longer c (finished.inside nonempty le begins) begins

/-- Decoding goes on behind a finished text as if nothing stood before. -/
theorem Decodes.append (left : Decodes a cs) (finished : Finished a) (right : Decodes b ds) :
    Decodes (a ++ b) (cs ++ ds) := by
  induction left with
  | nil => exact right
  | char c left ih =>
    rw [List.append_assoc]
    exact .char c (ih finished.of_append)
  | broken broken left ih =>
    rw [List.append_assoc]
    exact .broken (broken.append finished) (ih finished.of_append)

/-- Two texts are decoded one after the other if no character is cut. -/
theorem decodeLossy_append (finished : Finished a) :
    decodeLossy (a ++ b) = decodeLossy a ++ decodeLossy b :=
  (decodes_iff.mp ((decodes_decodeLossy a).append finished (decodes_decodeLossy b))).symm

/-! ## terminated strings -/

/-- The text of a string: what stands before its first zero byte, all of it
where it has none. -/
def IsText (bytes text : List UInt8) : Prop :=
  0 ∉ text ∧ (bytes = text ∨ text ++ [0] <+: bytes)

/-- A text ends in front of the first zero byte. -/
theorem takeWhile_of_isText (h : IsText bytes text) : bytes.takeWhile (· ≠ 0) = text := by
  have all : ∀ b ∈ text, decide (b ≠ 0) = true :=
    fun b mem => decide_eq_true fun zero => h.1 (zero ▸ mem)
  rcases h.2 with rfl | ⟨rest, rfl⟩
  · have whole := @List.takeWhile_append_of_pos _ _ bytes [] all
    simpa using whole
  · rw [List.append_assoc, List.takeWhile_append_of_pos all]
    simp

theorem isText_takeWhile (bytes : List UInt8) : IsText bytes (bytes.takeWhile (· ≠ 0)) := by
  refine ⟨fun zero => by simpa using List.mem_takeWhile_imp zero, ?_⟩
  induction bytes with
  | nil => exact .inl rfl
  | cons b rest ih =>
    by_cases zero : b = 0
    · subst zero
      exact .inr ⟨rest, by simp⟩
    · rw [List.takeWhile_cons_of_pos (by simpa using zero), List.cons_append]
      rcases ih with all | ⟨tail, cut⟩
      · exact .inl (congrArg (b :: ·) all)
      · exact .inr ⟨tail, congrArg (b :: ·) cut⟩

theorem isText_iff : IsText bytes text ↔ text = bytes.takeWhile (· ≠ 0) := by
  constructor
  · exact fun h => (takeWhile_of_isText h).symm
  · rintro rfl
    exact isText_takeWhile bytes

/-- The decoded string is that of the text in front of the first zero byte. -/
theorem decodeTerminated_eq_iff {s : String} :
    decodeTerminated bytes = s ↔ ∃ text, IsText bytes text ∧ Decodes text s.toList := by
  simp only [isText_iff, decodes_iff, exists_eq_left, decodeTerminated]
  constructor
  · rintro rfl
    exact String.toList_ofList
  · intro h
    rw [← h, String.ofList_toList]

end MachineBridge.Text

namespace MachineBridge.RawError

open Text

/-- A string or none, and its copy. -/
inductive CopyOf : Option (List UInt8) → String → Prop
  | missing : CopyOf none ""
  | text {bytes text : List UInt8} {s : String} :
      IsText bytes text → Decodes text s.toList → CopyOf (some bytes) s

/-- A copy is determined by what is copied. -/
theorem copyOf_iff {t : Option (List UInt8)} {s : String} : CopyOf t s ↔ s = copyText t := by
  cases t with
  | none =>
    constructor
    · rintro ⟨⟩
      rfl
    · rintro rfl
      exact .missing
  | some bytes =>
    rw [eq_comm, copyText, decodeTerminated_eq_iff]
    constructor
    · rintro ⟨⟩
      next text is decodes => exact ⟨text, is, decodes⟩
    · rintro ⟨text, is, decodes⟩
      exact .text is decodes

/-- The bytes of a string with a zero byte behind them. -/
def terminated (s : String) : List UInt8 := utf8 s ++ [0]

/-- The error object of a copied error. -/
def ofForeign (e : ForeignError) : RawError :=
  ⟨some (terminated e.domain), e.code, some (terminated e.description)⟩

theorem copyText_of_isText {bytes : List UInt8} {s : String} (is : IsText bytes (utf8 s)) :
    copyText (some bytes) = s :=
  (copyOf_iff.mp (.text is (decodes_utf8 s))).symm

/-- A string without a zero character is copied exactly. -/
theorem copyText_terminated {s : String} (clean : '\x00' ∉ s.toList) :
    copyText (some (terminated s)) = s :=
  copyText_of_isText ⟨zero_not_mem_utf8 clean, .inr (List.prefix_refl _)⟩

/-- A copy has no zero character. -/
theorem zero_not_mem_copyText (t : Option (List UInt8)) : '\x00' ∉ (copyText t).toList := by
  cases copyOf_iff.mpr (rfl : copyText t = copyText t) with
  | missing => exact List.not_mem_nil
  | text is decodes => exact decodes.zero_not_mem is.1

/-- The copy of a copy is the copy. -/
theorem copyText_copyText (t : Option (List UInt8)) :
    copyText (some (terminated (copyText t))) = copyText t :=
  copyText_terminated (zero_not_mem_copyText t)

/-- Two strings are copied one after the other if no character is cut. -/
theorem copyText_append {a : List UInt8} (b : List UInt8) (clean : 0 ∉ a) (finished : Finished a) :
    copyText (some (a ++ b)) = copyText (some a) ++ copyText (some b) := by
  have all : ∀ x ∈ a, decide (x ≠ 0) = true :=
    fun x mem => decide_eq_true fun zero => clean (zero ▸ mem)
  simp only [copyText, decodeTerminated]
  rw [takeWhile_of_isText ⟨clean, .inl rfl⟩, List.takeWhile_append_of_pos all,
    decodeLossy_append finished, String.ofList_append]

/-! ## copied errors -/

/-- What is known of the copy of an error object. -/
structure CopiesErrors : Prop where
  /-- An error object that is missing has no copy. -/
  missing : copy? none = none
  /-- The code is kept; the strings are decoded up to their first zero byte. -/
  copies : ∀ (e : RawError) (f : ForeignError), copy? (some e) = some f ↔
    CopyOf e.domain f.domain ∧ f.code = e.code ∧ CopyOf e.description f.description
  /-- Valid UTF-8 is copied exactly. -/
  exactly : ∀ (bytes : List UInt8) (s : String), IsText bytes (utf8 s) → copyText (some bytes) = s
  /-- Strings without the first character survive. -/
  survives : ∀ f : ForeignError, '\x00' ∉ f.domain.toList → '\x00' ∉ f.description.toList →
    copy (ofForeign f) = f
  /-- A copy is copied unchanged. -/
  again : ∀ e : RawError, copy (ofForeign (copy e)) = copy e
  /-- Behind a finished text decoding begins anew. -/
  distributes : ∀ a b : List UInt8, Finished a →
    decodeLossy (a ++ b) = decodeLossy a ++ decodeLossy b
  /-- So do the copies of strings. -/
  joins : ∀ a b : List UInt8, 0 ∉ a → Finished a →
    copyText (some (a ++ b)) = copyText (some a) ++ copyText (some b)
  /-- A text that ends with a whole character is finished. -/
  finished : ∀ (before : List UInt8) (c : Char), Finished (before ++ String.utf8EncodeChar c)

theorem copiesErrors : CopiesErrors where
  missing := rfl
  copies e f := by
    obtain ⟨domain, code, description⟩ := f
    rw [copyOf_iff, copyOf_iff, copy?, Option.map_some, Option.some_inj, copy,
      ForeignError.mk.injEq]
    exact ⟨fun ⟨h, h', h''⟩ => ⟨h.symm, h'.symm, h''.symm⟩,
      fun ⟨h, h', h''⟩ => ⟨h.symm, h'.symm, h''.symm⟩⟩
  exactly bytes s := copyText_of_isText
  survives f domain description := by
    rw [copy, ofForeign, copyText_terminated domain, copyText_terminated description]
  again e := by
    simp only [copy, ofForeign, copyText_copyText]
  distributes a b := decodeLossy_append
  joins a b := copyText_append b
  finished := finished_append_encode

end MachineBridge.RawError
