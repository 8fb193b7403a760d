import MachineBridge.Text.Utf8
import Mathlib.Data.List.Basic

/-!
# MachineBridge.Proofs.Text.Encoding

The bytes of a character, row by row of the table of well-formed UTF-8, and
what the decoder knows of a character under way: the bytes that complete what
was read are those its record of the character allows, so a byte either
completes the character, leaves it under way or begins none with what was
read.
-/

namespace MachineBridge.Text

open String (utf8EncodeChar)

variable {a b x y z : UInt8} {c : Char} {tail : List UInt8}

/-! ## the rows of the table -/

/-- A byte that continues a character. -/
def IsTail (b : UInt8) : Prop := 0x80 ≤ b ∧ b ≤ 0xBF

/-- The code points of characters leave out the surrogates. -/
theorem toNat_valid (c : Char) : c.toNat < 0xD800 ∨ 0xDFFF < c.toNat ∧ c.toNat < 0x110000 :=
  c.valid

theorem byte_eq_iff {n : Nat} (small : n < 256) : UInt8.ofNat n = b ↔ n = b.toNat := by
  rw [← UInt8.toNat_inj, UInt8.toNat_ofNat', Nat.mod_eq_of_lt small]

/-- The bytes of a character, by the number of the character. -/
theorem encode_eq (c : Char) : utf8EncodeChar c =
    if c.toNat < 0x80 then [UInt8.ofNat c.toNat]
    else if c.toNat < 0x800 then
      [UInt8.ofNat (c.toNat / 0x40 + 0xC0), UInt8.ofNat (c.toNat % 0x40 + 0x80)]
    else if c.toNat < 0x10000 then
      [UInt8.ofNat (c.toNat / 0x1000 + 0xE0), UInt8.ofNat (c.toNat / 0x40 % 0x40 + 0x80),
        UInt8.ofNat (c.toNat % 0x40 + 0x80)]
    else
      [UInt8.ofNat (c.toNat / 0x40000 + 0xF0), UInt8.ofNat (c.toNat / 0x1000 % 0x40 + 0x80),
        UInt8.ofNat (c.toNat / 0x40 % 0x40 + 0x80), UInt8.ofNat (c.toNat % 0x40 + 0x80)] := by
  have valid := toNat_valid c
  rw [utf8EncodeChar, show c.val.toNat = c.toNat from rfl]
  repeat' split
  all_goals first | omega | rfl | skip
  · congr 2
    omega
  · congr 2
    omega
  · congr 2
    omega

/-- The characters of one byte. -/
theorem encode_eq_one : utf8EncodeChar c = [a] ↔ a < 0x80 ∧ c.toNat = a.toNat := by
  have ha := a.toNat_lt
  rw [encode_eq, UInt8.lt_iff_toNat_lt]
  split
  · next h =>
    rw [List.cons.injEq, byte_eq_iff (by omega)]
    simp
    omega
  · split
    · simp; omega
    · split <;> (simp; omega)

/-- The characters of two bytes. -/
theorem encode_eq_two : utf8EncodeChar c = [a, x] ↔ (0xC2 ≤ a ∧ a ≤ 0xDF) ∧ IsTail x ∧
    c.toNat = a.toNat % 0x20 * 0x40 + x.toNat % 0x40 := by
  have ha := a.toNat_lt
  have hx := x.toNat_lt
  rw [encode_eq, IsTail]
  simp only [UInt8.le_iff_toNat_le]
  split
  · simp; omega
  · split
    · simp only [List.cons.injEq, and_true]
      rw [byte_eq_iff (by omega), byte_eq_iff (by omega)]
      simp
      omega
    · split <;> (simp; omega)

/-- The characters of three bytes, neither overlong nor a surrogate. -/
theorem encode_eq_three : utf8EncodeChar c = [a, x, y] ↔ (0xE0 ≤ a ∧ a ≤ 0xEF) ∧
    (a = 0xE0 → 0xA0 ≤ x) ∧ (a = 0xED → x ≤ 0x9F) ∧ IsTail x ∧ IsTail y ∧
    c.toNat = (a.toNat % 0x10 * 0x40 + x.toNat % 0x40) * 0x40 + y.toNat % 0x40 := by
  have ha := a.toNat_lt
  have hx := x.toNat_lt
  have hy := y.toNat_lt
  have valid := toNat_valid c
  rw [encode_eq, IsTail, IsTail]
  simp only [UInt8.le_iff_toNat_le, ← UInt8.toNat_inj]
  split
  · simp; omega
  · split
    · simp; omega
    · split
      · simp only [List.cons.injEq, and_true]
        rw [byte_eq_iff (by omega), byte_eq_iff (by omega), byte_eq_iff (by omega)]
        simp
        omega
      · simp; omega

/-- The characters of four bytes, neither overlong nor too great. -/
theorem encode_eq_four : utf8EncodeChar c = [a, x, y, z] ↔ (0xF0 ≤ a ∧ a ≤ 0xF4) ∧
    (a = 0xF0 → 0x90 ≤ x) ∧ (a = 0xF4 → x ≤ 0x8F) ∧ IsTail x ∧ IsTail y ∧ IsTail z ∧
    c.toNat = ((a.toNat % 0x08 * 0x40 + x.toNat % 0x40) * 0x40 + y.toNat % 0x40) * 0x40 +
      z.toNat % 0x40 := by
  have ha := a.toNat_lt
  have hx := x.toNat_lt
  have hy := y.toNat_lt
  have hz := z.toNat_lt
  have valid := toNat_valid c
  rw [encode_eq, IsTail, IsTail, IsTail]
  simp only [UInt8.le_iff_toNat_le, ← UInt8.toNat_inj]
  split
  · simp; omega
  · split
    · simp; omega
    · split
      · simp; omega
      · simp only [List.cons.injEq, and_true]
        rw [byte_eq_iff (by omega), byte_eq_iff (by omega), byte_eq_iff (by omega),
          byte_eq_iff (by omega)]
        simp
        omega

theorem length_encode_le (c : Char) : (utf8EncodeChar c).length ≤ 4 := by
  rw [String.length_utf8EncodeChar]
  exact c.utf8Size_le_four

/-- The first byte of a character tells how many follow, and these are tails. -/
theorem lead_cases (eq : utf8EncodeChar c = a :: tail) :
    (a < 0x80 ∧ tail.length = 0 ∨ (0xC2 ≤ a ∧ a ≤ 0xDF) ∧ tail.length = 1 ∨
      (0xE0 ≤ a ∧ a ≤ 0xEF) ∧ tail.length = 2 ∨ (0xF0 ≤ a ∧ a ≤ 0xF4) ∧ tail.length = 3) ∧
    ∀ b ∈ tail, IsTail b := by
  match tail with
  | [] => exact ⟨.inl ⟨(encode_eq_one.mp eq).1, rfl⟩, by simp⟩
  | [x] =>
    obtain ⟨lead, hx, -⟩ := encode_eq_two.mp eq
    exact ⟨.inr (.inl ⟨lead, rfl⟩), by simpa using hx⟩
  | [x, y] =>
    obtain ⟨lead, -, -, hx, hy, -⟩ := encode_eq_three.mp eq
    exact ⟨.inr (.inr (.inl ⟨lead, rfl⟩)), by simpa using ⟨hx, hy⟩⟩
  | [x, y, z] =>
    obtain ⟨lead, -, -, hx, hy, hz, -⟩ := encode_eq_four.mp eq
    exact ⟨.inr (.inr (.inr ⟨lead, rfl⟩)), by simpa using ⟨hx, hy, hz⟩⟩
  | _ :: _ :: _ :: _ :: rest =>
    have := length_encode_le c
    rw [eq] at this
    simp only [List.length_cons] at this
    omega

/-- No character begins with a tail. -/
theorem not_isTail_lead (eq : utf8EncodeChar c = a :: tail) : ¬ IsTail a := by
  have lead := (lead_cases eq).1
  simp [IsTail, UInt8.lt_iff_toNat_lt, UInt8.le_iff_toNat_le] at lead ⊢
  omega

theorem eq_ofNat_iff {n : Nat} (valid : n.isValidChar) : c = Char.ofNat n ↔ c.toNat = n := by
  have number : (Char.ofNat n).toNat = n := by
    rw [Char.ofNat, dif_pos valid]
    rfl
  rw [← Char.toNat_inj, number]

/-! ## a character under way -/

/-- A character under way, one byte later. -/
def Pending.next (p : Pending) (b : UInt8) : Pending :=
  ⟨p.left - 1, p.value * 0x40 + b.toNat % 0x40, 0x80, 0xBF⟩

/-- The bytes that complete a character under way, and the character. -/
def Pending.Completes (p : Pending) : List UInt8 → Char → Prop
  | [], c => p.left = 0 ∧ c = Char.ofNat p.value
  | b :: tail, c => p.left ≠ 0 ∧ (p.low ≤ b ∧ b ≤ p.high) ∧ (p.next b).Completes tail c

/-- A character is completed by as many bytes as are left. -/
theorem Pending.Completes.length_eq {p : Pending} (completes : p.Completes tail c) :
    tail.length = p.left := by
  induction tail generalizing p with
  | nil => exact completes.1.symm
  | cons b tail ih =>
    have shorter : tail.length = p.left - 1 := ih completes.2.2
    have := completes.1
    rw [List.length_cons]
    omega

/-- Once some bytes were read a character is under way: what completes it are
the bytes that make those a character. -/
structure Pending.Follows (p : Pending) (read : List UInt8) : Prop where
  encode_eq_iff : ∀ tail c, utf8EncodeChar c = read ++ tail ↔ p.Completes tail c
  nonempty : read ≠ []
  left : p.left ≠ 0
  bounds : p.low ≤ p.high

/-- A first byte has a character under way where it tells how many bytes follow
and those many complete it. -/
theorem follows_lead {p : Pending} (left : p.left ≠ 0) (bounds : p.low ≤ p.high)
    (told : ∀ tail c, utf8EncodeChar c = a :: tail → tail.length = p.left)
    (own : ∀ tail c, tail.length = p.left →
      (utf8EncodeChar c = a :: tail ↔ p.Completes tail c)) : p.Follows [a] := by
  refine ⟨fun tail c => ?_, List.cons_ne_nil a [], left, bounds⟩
  rw [List.singleton_append]
  by_cases length : tail.length = p.left
  · exact own tail c length
  · exact iff_of_false (mt (told tail c) length) (mt Pending.Completes.length_eq length)

theorem follows_two (lead : 0xC2 ≤ a ∧ a ≤ 0xDF) :
    Pending.Follows ⟨1, a.toNat % 0x20, 0x80, 0xBF⟩ [a] := by
  refine follows_lead Nat.one_ne_zero (show (0x80 : UInt8) ≤ 0xBF by decide)
    (fun tail c eq => ?_) (fun tail c length => ?_)
  · have cases := (lead_cases eq).1
    simp [UInt8.lt_iff_toNat_lt, UInt8.le_iff_toNat_le] at lead cases ⊢
    omega
  · obtain ⟨x, rfl⟩ := List.length_eq_one_iff.mp length
    have hx := x.toNat_lt
    rw [encode_eq_two]
    simp only [Pending.Completes, Pending.next, IsTail, lead]
    simp [UInt8.le_iff_toNat_le] at lead ⊢
    refine fun _ _ => (eq_ofNat_iff (.inl ?_)).symm
    omega

/-- The bounds of the second of three bytes: no longer form of a shorter
character, and no surrogate. -/
theorem second_of_three {low high : UInt8}
    (least : low = if a = 0xE0 then 0xA0 else 0x80)
    (greatest : high = if a = 0xED then 0x9F else 0xBF) :
    low ≤ x ∧ x ≤ high ↔ (a = 0xE0 → 0xA0 ≤ x) ∧ (a = 0xED → x ≤ 0x9F) ∧ IsTail x := by
  subst least greatest
  by_cases short : a = 0xE0
  · subst short
    simp [IsTail, UInt8.le_iff_toNat_le]
    omega
  · by_cases surrogate : a = 0xED
    · subst surrogate
      simp [IsTail, UInt8.le_iff_toNat_le]
      omega
    · simp [short, surrogate, IsTail]

/-- The bounds of the second of four bytes: no longer form of a shorter
character, and nothing above the last character. -/
theorem second_of_four {low high : UInt8}
    (least : low = if a = 0xF0 then 0x90 else 0x80)
    (greatest : high = if a = 0xF4 then 0x8F else 0xBF) :
    low ≤ x ∧ x ≤ high ↔ (a = 0xF0 → 0x90 ≤ x) ∧ (a = 0xF4 → x ≤ 0x8F) ∧ IsTail x := by
  subst least greatest
  by_cases short : a = 0xF0
  · subst short
    simp [IsTail, UInt8.le_iff_toNat_le]
    omega
  · by_cases above : a = 0xF4
    · subst above
      simp [IsTail, UInt8.le_iff_toNat_le]
      omega
    · simp [short, above, IsTail]

theorem follows_three {low high : UInt8} (lead : 0xE0 ≤ a ∧ a ≤ 0xEF)
    (least : low = if a = 0xE0 then 0xA0 else 0x80)
    (greatest : high = if a = 0xED then 0x9F else 0xBF) :
    Pending.Follows ⟨2, a.toNat % 0x10, low, high⟩ [a] := by
  refine follows_lead (Nat.succ_ne_zero 1) ?_ (fun tail c eq => ?_) (fun tail c length => ?_)
  · subst least greatest
    split <;> split <;> simp_all
  · have cases := (lead_cases eq).1
    simp [UInt8.lt_iff_toNat_lt, UInt8.le_iff_toNat_le] at lead cases ⊢
    omega
  · obtain ⟨x, y, rfl⟩ := List.length_eq_two.mp length
    have ha := a.toNat_lt
    have hx := x.toNat_lt
    have hy := y.toNat_lt
    rw [encode_eq_three]
    simp only [Pending.Completes, Pending.next, second_of_three least greatest, IsTail, lead]
    simp [UInt8.le_iff_toNat_le, ← UInt8.toNat_inj] at lead ⊢
    simp only [and_assoc]
    refine and_congr_right fun _ => and_congr_right fun _ => and_congr_right fun _ =>
      and_congr_right fun _ => and_congr_right fun _ => and_congr_right fun _ =>
      (eq_ofNat_iff ?_).symm
    simp only [Nat.isValidChar]
    omega

theorem follows_four {low high : UInt8} (lead : 0xF0 ≤ a ∧ a ≤ 0xF4)
    (least : low = if a = 0xF0 then 0x90 else 0x80)
    (greatest : high = if a = 0xF4 then 0x8F else 0xBF) :
    Pending.Follows ⟨3, a.toNat % 0x08, low, high⟩ [a] := by
  refine follows_lead (Nat.succ_ne_zero 2) ?_ (fun tail c eq => ?_) (fun tail c length => ?_)
  · subst least greatest
    split <;> split <;> simp_all
  · have cases := (lead_cases eq).1
    simp [UInt8.lt_iff_toNat_lt, UInt8.le_iff_toNat_le] at lead cases ⊢
    omega
  · obtain ⟨x, y, z, rfl⟩ := List.length_eq_three.mp length
    have ha := a.toNat_lt
    have hx := x.toNat_lt
    have hy := y.toNat_lt
    have hz := z.toNat_lt
    rw [encode_eq_four]
    simp only [Pending.Completes, Pending.next, second_of_four least greatest, IsTail, lead]
    simp [UInt8.le_iff_toNat_le, ← UInt8.toNat_inj] at lead ⊢
    simp only [and_assoc]
    refine and_congr_right fun _ => and_congr_right fun _ => and_congr_right fun _ =>
      and_congr_right fun _ => and_congr_right fun _ => and_congr_right fun _ =>
      and_congr_right fun _ => and_congr_right fun _ => (eq_ofNat_iff ?_).symm
    simp only [Nat.isValidChar]
    omega

/-! ## the first byte -/

/-- What the first byte of a character begins: a whole character, nothing, or a
character under way. -/
inductive Beginning (a : UInt8) : List Char × Option Pending → Prop
  | char {c : Char} : utf8EncodeChar c = [a] → Beginning a ([c], none)
  | broken : (∀ c, ¬ [a] <+: utf8EncodeChar c) → Beginning a ([replacement], none)
  | pending {p : Pending} : p.Follows [a] → Beginning a ([], some p)

/-- Some bytes begin no character. -/
theorem not_lead (outside : 0x80 ≤ a ∧ a < 0xC2 ∨ 0xF4 < a) : ¬ [a] <+: utf8EncodeChar c := by
  rintro ⟨tail, eq⟩
  have cases := (lead_cases eq.symm).1
  simp [UInt8.lt_iff_toNat_lt, UInt8.le_iff_toNat_le] at outside cases
  omega

/-- The first byte tells how a character goes on. -/
theorem beginChar_beginning (a : UInt8) : Beginning a (beginChar a) := by
  have ha := a.toNat_lt
  unfold beginChar
  simp only
  split
  · next one =>
    refine .char (encode_eq_one.mpr ⟨one, (eq_ofNat_iff (.inl ?_)).mp rfl⟩)
    omega
  next notOne =>
  split
  · next tail =>
    exact .broken fun _ => not_lead (.inl ⟨UInt8.not_lt.mp notOne, tail⟩)
  next least =>
  have least := UInt8.not_lt.mp least
  split
  · next two =>
    refine .pending (follows_two ⟨least, ?_⟩)
    simp [UInt8.lt_iff_toNat_lt, UInt8.le_iff_toNat_le] at two ⊢
    omega
  next notTwo =>
  have notTwo := UInt8.not_lt.mp notTwo
  split
  · next short =>
    exact .pending (follows_three (by simp [short]) (by simp [short]) (by simp [short]))
  next notShort =>
  split
  · next surrogate =>
    exact .pending (follows_three (by simp [surrogate]) (by simp [surrogate]) (by simp [surrogate]))
  next notSurrogate =>
  split
  · next three =>
    refine .pending (follows_three ⟨notTwo, ?_⟩ (by simp [notShort]) (by simp [notSurrogate]))
    simp [UInt8.lt_iff_toNat_lt, UInt8.le_iff_toNat_le] at three ⊢
    omega
  next notThree =>
  have notThree := UInt8.not_lt.mp notThree
  split
  · next short =>
    exact .pending (follows_four (by simp [short]) (by simp [short]) (by simp [short]))
  next notShort =>
  split
  · next four =>
    refine .pending (follows_four ⟨notThree, ?_⟩ (by simp [notShort]) ?_)
    · simp [UInt8.lt_iff_toNat_lt, UInt8.le_iff_toNat_le] at four ⊢
      omega
    · rw [if_neg (UInt8.ne_of_lt four)]
  next notFour =>
  split
  · next above =>
    exact .pending (follows_four (by simp [above]) (by simp [above]) (by simp [above]))
  next notAbove =>
  refine .broken fun _ => not_lead (.inr ?_)
  simp [UInt8.lt_iff_toNat_lt, ← UInt8.toNat_inj] at notFour notAbove ⊢
  omega

/-! ## one byte more -/

variable {p : Pending} {read : List UInt8}

/-- Every character under way can be completed. -/
theorem Pending.exists_completes (p : Pending) (bounds : p.low ≤ p.high) :
    ∃ tail c, p.Completes tail c := by
  obtain ⟨left, value, low, high⟩ := p
  induction left generalizing value low high with
  | zero => exact ⟨[], Char.ofNat value, rfl, rfl⟩
  | succ left ih =>
    obtain ⟨tail, c, completes⟩ := ih (value * 0x40 + low.toNat % 0x40) 0x80 0xBF
      (show (0x80 : UInt8) ≤ 0xBF by decide)
    exact ⟨low :: tail, c, Nat.succ_ne_zero left, ⟨UInt8.le_refl low, bounds⟩, completes⟩

/-- The bytes of a character under way begin one. -/
theorem Pending.Follows.begins (h : p.Follows read) :
    ∃ c, read <+: utf8EncodeChar c ∧ read.length < (utf8EncodeChar c).length := by
  obtain ⟨tail, c, completes⟩ := p.exists_completes h.bounds
  have eq := (h.encode_eq_iff tail c).mpr completes
  have more : tail ≠ [] := by
    rintro rfl
    exact h.left completes.1
  refine ⟨c, ⟨tail, eq.symm⟩, ?_⟩
  rw [eq, List.length_append]
  exact Nat.lt_add_of_pos_right (List.length_pos_iff.mpr more)

/-- A byte that continues the character under way ends it, where it was the last. -/
theorem Pending.Follows.ends (h : p.Follows read) (inside : p.low ≤ b ∧ b ≤ p.high)
    (last : p.left ≤ 1) :
    utf8EncodeChar (Char.ofNat (p.value * 0x40 + b.toNat % 0x40)) = read ++ [b] := by
  rw [h.encode_eq_iff]
  exact ⟨h.left, inside, by rw [Pending.next]; exact Nat.sub_eq_zero_of_le last, rfl⟩

/-- A byte that continues the character under way leaves one, where it was not the last. -/
theorem Pending.Follows.goesOn (h : p.Follows read) (inside : p.low ≤ b ∧ b ≤ p.high)
    (more : ¬ p.left ≤ 1) : (p.next b).Follows (read ++ [b]) := by
  refine ⟨fun tail c => ?_, by simp, ?_, show (0x80 : UInt8) ≤ 0xBF by decide⟩
  · rw [List.append_assoc, h.encode_eq_iff]
    exact ⟨fun completes => completes.2.2, fun completes => ⟨h.left, inside, completes⟩⟩
  · show p.left - 1 ≠ 0
    omega

/-- No character begins with a byte that cannot continue the one under way. -/
theorem Pending.Follows.breaksOff (h : p.Follows read) (outside : ¬ (p.low ≤ b ∧ b ≤ p.high)) :
    ¬ read ++ [b] <+: utf8EncodeChar c := by
  rintro ⟨tail, eq⟩
  rw [List.append_assoc, eq_comm, h.encode_eq_iff] at eq
  exact outside eq.2.1

end MachineBridge.Text
