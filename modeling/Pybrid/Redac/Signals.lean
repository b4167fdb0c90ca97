import Pybrid.Client.Control
import Pybrid.Library.Numerals

/-! Paths with typed parts, and the signal of a carrier that an entity stands for. -/

namespace Pybrid

open Client Numerals

/-- A part of a path: a text in UTF-8, or a number. -/
inductive PathPart where
  | text (utf8 : List UInt8)
  | number (value : Int)
  deriving DecidableEq, Repr

/-- The path of an entity with its parts as they are; texts and numbers never compare as equal. -/
abbrev EntityPath := List PathPart

namespace Python

/-- `int` of a text in UTF-8. -/
def int (utf8 : List UInt8) : Except Raised Int :=
  match numeral (codePoints utf8) with
  | some value => .ok value
  | none => .error ⟨.valueError, "invalid literal for int() with base 10"⟩

/-- `str` of a number that is not negative. -/
def decimal (value : ℕ) : List UInt8 :=
  if value = 0 then [48] else ((Nat.digits 10 value).map fun digit => (48 + digit).toUInt8).reverse

/-- A digit as a byte. -/
theorem toNat_digit {digit : ℕ} (small : digit < 10) : (48 + digit).toUInt8.toNat = 48 + digit := by
  simp only [Nat.toUInt8_eq, UInt8.toNat_ofNat']
  omega

/-- A written number consists of digits. -/
theorem decimal_isDigit {value : ℕ} {byte : UInt8} (member : byte ∈ decimal value) :
    48 ≤ byte.toNat ∧ byte.toNat ≤ 57 := by
  unfold decimal at member
  -- Zero is spelled by one digit, every other number by those of its expansion.
  split at member
  · obtain rfl := List.mem_singleton.mp member
    decide
  · obtain ⟨digit, listed, rfl⟩ := List.mem_map.mp (List.mem_reverse.mp member)
    have small := Nat.digits_lt_base (by norm_num : 1 < 10) listed
    rw [toNat_digit small]
    omega

/-- Digits say the number they were written for. -/
theorem foldl_decimal (value : ℕ) :
    ((decimal value).map UInt8.toNat).foldl (fun value code => value * 10 + (code - 48)) 0 =
      value := by
  unfold decimal
  split
  · rename_i zero_
    rw [zero_]
    rfl
  · rw [List.foldl_map, List.foldl_reverse, List.foldr_map]
    -- Reading from the front is folding the digits from the last one on.
    have same : ∀ digits : List ℕ, (∀ digit ∈ digits, digit < 10) →
        digits.foldr (fun digit value => value * 10 + ((48 + digit).toUInt8.toNat - 48)) 0 =
          Nat.ofDigits 10 digits := by
      intro digits
      induction digits with
      | nil => exact fun _ => rfl
      | cons digit later ih =>
        intro small
        rw [List.foldr_cons, ih fun other member => small other (List.mem_cons_of_mem digit member),
          toNat_digit (small digit List.mem_cons_self), Nat.ofDigits_cons]
        omega
    rw [same _ fun digit listed => Nat.digits_lt_base (by norm_num) listed, Nat.ofDigits_digits]

/-- A written number is not empty. -/
theorem decimal_ne_nil (value : ℕ) : decimal value ≠ [] := by
  unfold decimal
  -- Zero is written out, too.
  split
  · exact List.cons_ne_nil _ _
  · rename_i positive
    simpa [Nat.digits_eq_nil_iff_eq_zero] using positive

/-- `int` reads back what `str` wrote. -/
theorem int_decimal (value : ℕ) : int (decimal value) = .ok value := by
  have ascii : ∀ byte ∈ decimal value, byte < 128 := by
    intro byte member
    have := (decimal_isDigit member).2
    rw [UInt8.lt_iff_toNat_lt]
    exact Nat.lt_of_le_of_lt this (by decide)
  -- The bytes are ASCII, and the code points are those of the digits.
  have digits : ∀ code ∈ (decimal value).map UInt8.toNat, 48 ≤ code ∧ code ≤ 57 := by
    intro code member
    obtain ⟨byte, listed, rfl⟩ := List.mem_map.mp member
    exact decimal_isDigit listed
  have some_ : (decimal value).map UInt8.toNat ≠ [] := by simp [decimal_ne_nil]
  rw [int, codePoints_ascii ascii, numeral_digits some_ digits, foldl_decimal]
  rfl

/-- Different numbers are written differently. -/
theorem decimal_injective {value value' : ℕ} (same : decimal value = decimal value') :
    value = value' := by
  -- The number can be read back.
  have read := int_decimal value
  rw [same, int_decimal] at read
  exact Int.ofNat.inj (Except.ok.inj read).symm

end Python

/-- `int` of a part. -/
def PathPart.int : PathPart → Except Raised Int
  | .text utf8 => Python.int utf8
  | .number value => .ok value

/-- `str` of a part. -/
def PathPart.str : PathPart → List UInt8
  | .text utf8 => utf8
  | .number value => (toString value).toUTF8.toList

namespace EntityPath

/-- The path of the root entity. -/
def toRoot (path : EntityPath) : EntityPath := path.take 1

/-- The path with one more part. -/
def join (path : EntityPath) (part : PathPart) : EntityPath := path ++ [part]

/-- `str` of a path. -/
def str (path : EntityPath) : String :=
  (String.fromUTF8? ⟨((path.map PathPart.str).intersperse [47]).flatten.toArray⟩).getD ""

end EntityPath

/-- `Carrier.resolve_signal`: the index of the signal of an entity on a carrier. -/
def resolveSignal (carrier entity : EntityPath) : Except Raised Int :=
  if entity.toRoot ≠ carrier then
    .error ⟨.exception, "Entity does not exist on this carrier."⟩
  else
    match entity with
    | [_, cluster, .text block, element] =>
      -- Only the outputs of M-blocks are signals.
      if block.head? ≠ some 77 then
        .error ⟨.notImplementedError, "Resolving signals is currently only possible for M-Blocks."⟩
      else do
        let clusterIdx ← cluster.int
        let mSlot ← Python.int (strip (· = 77) block)
        let elementIdx ← element.int
        return clusterIdx * 16 + mSlot * 8 + elementIdx
    | [_, _, .number _, _] =>
      .error ⟨.attributeError, "'int' object has no attribute 'startswith'"⟩
    | _ =>
      .error ⟨.notImplementedError, "Resolving signals is currently only possible for M-Blocks."⟩

/-- The path of an M-block, the parts of which are texts. -/
def blockPath (carrier : EntityPath) (cluster slot : ℕ) : EntityPath :=
  (carrier.join (.text (Python.decimal cluster))).join (.text (77 :: Python.decimal slot))

/-- The path of an element of an M-block: a block numbers its elements. -/
def elementPath (root : List UInt8) (cluster slot element : ℕ) : EntityPath :=
  (blockPath [.text root] cluster slot).join (.number element)

namespace Python

/-- The slot behind the letter of an M-block. -/
theorem strip_letter (slot : ℕ) : strip (· = 77) (77 :: decimal slot) = decimal slot := by
  -- There is no letter among the digits.
  have kept : ∀ byte ∈ decimal slot, decide (byte = 77) = false := by
    intro byte member
    refine decide_eq_false fun same => ?_
    exact absurd (decimal_isDigit (same ▸ member)) (by decide)
  have dropped : strip (fun byte => decide (byte = 77)) (77 :: decimal slot) =
      strip (fun byte => decide (byte = 77)) (decimal slot) := rfl
  rw [dropped, strip_of_none kept]

end Python

/-- The elements of the M-blocks of a carrier are its signals, in the order of their places. -/
theorem resolveSignal_element (root : List UInt8) (cluster slot element : ℕ) :
    resolveSignal [.text root] (elementPath root cluster slot element) =
      .ok (cluster * 16 + slot * 8 + element : ℕ) := by
  -- The cluster and the slot are parsed back, the element is a number already.
  have parts : elementPath root cluster slot element = [.text root, .text (Python.decimal cluster),
      .text (77 :: Python.decimal slot), .number element] := rfl
  simp only [resolveSignal, parts, EntityPath.toRoot, List.take_succ_cons, List.take_zero,
    ne_eq, not_true_eq_false, if_false, List.head?_cons, Python.strip_letter,
    Python.int_decimal, PathPart.int]
  rfl

end Pybrid
