import Mathlib

/-! Numbers in texts, as `int` reads them: the digits and blanks of all scripts, by code point. -/

namespace Numerals

/-- The zeros of the scripts of Unicode that have decimal digits; nine digits follow each of them. -/
def zeros : List ℕ :=
  [48, 1632, 1776, 1984, 2406, 2534, 2662, 2790, 2918, 3046, 3174, 3302, 3430, 3558, 3664, 3792,
    3872, 4160, 4240, 6112, 6160, 6470, 6608, 6784, 6800, 6992, 7088, 7232, 7248, 42528, 43216,
    43264, 43472, 43504, 43600, 44016, 65296, 66720, 68912, 69734, 69872, 69942, 70096, 70384,
    70736, 70864, 71248, 71360, 71472, 71904, 72016, 72784, 73040, 73120, 92768, 92864, 93008,
    120782, 120792, 120802, 120812, 120822, 123200, 123632, 125264, 130032]

/-- The value of a decimal digit. -/
def digit (code : ℕ) : Option ℕ :=
  (zeros.find? fun first => first ≤ code ∧ code < first + 10).map (code - ·)

/-- A blank that is skipped at either end; of the separators below it only the space is one. -/
def isBlank (code : ℕ) : Bool :=
  (9 ≤ code ∧ code ≤ 13) ∨ code = 32 ∨ (8192 ≤ code ∧ code ≤ 8202) ∨
    code ∈ [133, 160, 5760, 8232, 8233, 8239, 8287, 12288]

/-- `strip`: without the given elements at either end. -/
def strip {α : Type} (drop : α → Bool) (text : List α) : List α :=
  ((text.dropWhile drop).reverse.dropWhile drop).reverse

/-- The number that some digits write. -/
def digitsValue (digits : List ℕ) : Option ℕ :=
  digits.foldlM (fun value code => (digit code).map (value * 10 + ·)) 0

/-- A number without a sign; single underscores may stand between its digits. -/
def natural (text : List ℕ) : Option ℕ :=
  let groups := text.splitOn 95
  if groups.all fun digits => !digits.isEmpty then digitsValue groups.flatten else none

/-- The number a text without blanks around it writes, behind at most one sign. -/
def literal (text : List ℕ) : Option Int :=
  match text with
  | 43 :: digits => (natural digits).map Int.ofNat
  | 45 :: digits => (natural digits).map fun value => -Int.ofNat value
  | digits => (natural digits).map Int.ofNat

/-- The number a text writes, with as many digits as the interpreter admits. -/
def numeral (text : List ℕ) : Option Int := literal (strip isBlank text)

/-- The code points of a text in UTF-8. -/
def codePoints (utf8 : List UInt8) : List ℕ :=
  utf8.foldl (fun codes byte =>
    -- A byte that continues a sequence has six more bits of the last code point.
    if 128 ≤ byte ∧ byte < 192 then codes.dropLast ++ [codes.getLast?.getD 0 * 64 + (byte - 128).toNat]
    else if byte < 128 then codes ++ [byte.toNat]
    else if byte < 224 then codes ++ [(byte - 192).toNat]
    else if byte < 240 then codes ++ [(byte - 224).toNat]
    else codes ++ [(byte - 240).toNat]) []

section Ascii

/-- A digit of ASCII stands for its distance from zero. -/
theorem digit_ascii {code : ℕ} (inside : 48 ≤ code ∧ code ≤ 57) : digit code = some (code - 48) := by
  -- The zero of ASCII is the first one that is asked.
  have found : (zeros.find? fun first => first ≤ code ∧ code < first + 10) = some 48 :=
    List.find?_cons_of_pos (decide_eq_true (by omega))
  rw [digit, found, Option.map_some]

/-- Digits of ASCII write the number that their values do. -/
theorem digitsValue_ascii {digits : List ℕ} (all : ∀ code ∈ digits, 48 ≤ code ∧ code ≤ 57) :
    digitsValue digits = some (digits.foldl (fun value code => value * 10 + (code - 48)) 0) := by
  -- The induction is on the digits still to be read, behind any value.
  have general : ∀ (digits : List ℕ) (value : ℕ), (∀ code ∈ digits, 48 ≤ code ∧ code ≤ 57) →
      digits.foldlM (fun value code => (digit code).map (value * 10 + ·)) value =
        some (digits.foldl (fun value code => value * 10 + (code - 48)) value) := by
    intro digits
    induction digits with
    | nil => exact fun value _ => rfl
    | cons code later ih =>
      intro value all
      rw [List.foldlM_cons, digit_ascii (all code List.mem_cons_self)]
      exact ih _ fun other member => all other (List.mem_cons_of_mem code member)
  exact general digits 0 all

/-- Stripping keeps what has none of the elements. -/
theorem strip_of_none {α : Type} {drop : α → Bool} {text : List α}
    (kept : ∀ element ∈ text, drop element = false) : strip drop text = text := by
  -- There is nothing to drop from the front, and so nothing from the end.
  have front : ∀ {text : List α}, (∀ element ∈ text, drop element = false) →
      text.dropWhile drop = text := by
    intro text kept
    cases text with
    | nil => rfl
    | cons element later =>
      rw [List.dropWhile_cons_of_neg (by simp [kept element List.mem_cons_self])]
  rw [strip, front kept, front fun element member => kept element (List.mem_reverse.mp member),
    List.reverse_reverse]

variable {digits : List ℕ}

/-- Digits of ASCII have no underscore between them. -/
theorem natural_ascii (some_ : digits ≠ []) (all : ∀ code ∈ digits, 48 ≤ code ∧ code ≤ 57) :
    natural digits = some (digits.foldl (fun value code => value * 10 + (code - 48)) 0) := by
  -- Digits hold no underscore, so that the text is one group.
  have single : digits.splitOn 95 = [digits] := by
    refine List.splitOn_eq_singleton fun member => ?_
    have := all 95 member
    omega
  simp [natural, single, some_, digitsValue_ascii all]

/-- Nothing is stripped of digits, nor of a sign in front of them. -/
theorem strip_ascii (all : ∀ code ∈ digits, 45 ≤ code ∧ code ≤ 57) :
    strip isBlank digits = digits := by
  -- The characters of a number are no blanks.
  refine strip_of_none fun code member => ?_
  have := all code member
  refine decide_eq_false ?_
  simp only [List.mem_cons, List.not_mem_nil, or_false]
  omega

/-- Digits of ASCII are read as the number they write. -/
theorem numeral_digits (some_ : digits ≠ []) (all : ∀ code ∈ digits, 48 ≤ code ∧ code ≤ 57) :
    numeral digits =
      some (Int.ofNat (digits.foldl (fun value code => value * 10 + (code - 48)) 0)) := by
  have stripped : strip isBlank digits = digits := strip_ascii fun code member =>
    ⟨by have := all code member; omega, (all code member).2⟩
  rw [numeral, stripped, literal, natural_ascii some_ all]
  · rfl
  -- The first of them is a digit, and no sign.
  · rintro rest rfl
    exact absurd (all 43 List.mem_cons_self) (by decide)
  · rintro rest rfl
    exact absurd (all 45 List.mem_cons_self) (by decide)

/-- Behind a minus sign they are read as its negation. -/
theorem numeral_negative (some_ : digits ≠ []) (all : ∀ code ∈ digits, 48 ≤ code ∧ code ≤ 57) :
    numeral (45 :: digits) =
      some (-Int.ofNat (digits.foldl (fun value code => value * 10 + (code - 48)) 0)) := by
  -- The minus sign is no blank either.
  have stripped : strip isBlank (45 :: digits) = 45 :: digits := by
    refine strip_ascii fun code member => ?_
    rcases List.mem_cons.mp member with rfl | member
    · decide
    · have := all code member
      omega
  rw [numeral, stripped]
  simp [literal, natural_ascii some_ all]

/-- Bytes of ASCII are their own code points. -/
theorem codePoints_ascii {utf8 : List UInt8} (ascii : ∀ byte ∈ utf8, byte < 128) :
    codePoints utf8 = utf8.map UInt8.toNat := by
  -- The induction is from the end, because code points are put behind those before.
  induction utf8 using List.reverseRecOn with
  | nil => rfl
  | append_singleton earlier byte ih =>
    have before := ih fun other member => ascii other (List.mem_append_left [byte] member)
    have small : byte < 128 := ascii byte (by simp)
    have whole : ¬(128 ≤ byte ∧ byte < 192) := fun both => absurd small (by simpa using both.1)
    rw [codePoints] at before
    rw [codePoints, List.foldl_append, before, List.foldl_cons, List.foldl_nil, if_neg whole,
      if_pos small, List.map_append]
    rfl

end Ascii

/-- `int` reads back what `str` wrote, also of a negative number. -/
theorem numeral_repr (value : Int) : numeral (value.repr.toList.map Char.toNat) = some value := by
  -- The digits that are written are those of ASCII.
  have digits : ∀ value : ℕ, (value.repr.toList.map Char.toNat) ≠ [] ∧
      (∀ code ∈ value.repr.toList.map Char.toNat, 48 ≤ code ∧ code ≤ 57) ∧
      (value.repr.toList.map Char.toNat).foldl (fun value code => value * 10 + (code - 48)) 0 =
        value := by
    intro value
    rw [Nat.toList_repr]
    refine ⟨by simp [Nat.toDigits_ne_nil], fun code member => ?_, ?_⟩
    · obtain ⟨char, listed, rfl⟩ := List.mem_map.mp member
      have isDigit := Nat.isDigit_of_mem_toDigits (by decide) (by decide) listed
      simpa [Char.isDigit, Char.le_def, UInt32.le_iff_toNat_le] using isDigit
    · rw [List.foldl_map]
      simpa [Nat.ofDigitChars, Nat.mul_comm] using Nat.ofDigitChars_ten_toDigits (n := value)
  rw [Int.repr_eq_if]
  split
  case isTrue positive =>
    obtain ⟨some_, all, value_⟩ := digits value.toNat
    rw [numeral_digits some_ all, value_]
    simp [positive]
  case isFalse negative =>
    obtain ⟨some_, all, value_⟩ := digits (-value).toNat
    have signed : (("-" ++ (-value).toNat.repr).toList.map Char.toNat) =
        45 :: (-value).toNat.repr.toList.map Char.toNat := by simp
    rw [signed, numeral_negative some_ all, value_]
    simp only [Int.ofNat_eq_natCast, Option.some.injEq]
    omega

/-- Signs, blanks at the ends, single underscores and digits of any script are read. -/
example : numeral [32, 43, 49, 95, 1632] = some 10 ∧ numeral [49, 95, 95, 48] = none := by decide

end Numerals
