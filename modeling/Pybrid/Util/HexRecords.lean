import Pybrid.Library.Reading
import Pybrid.Redac.Entities

/-! The records of an Intel HEX file: how they are spelled, and how they are read. -/

namespace Pybrid

open Reading

namespace Updater

/-- The kinds of records; the values mirror those of the native updater. -/
def hexKindData : ℕ := 0x00

def hexKindEof : ℕ := 0x01

def hexKindExtLinAddr : ℕ := 0x04

def hexKindStartLinAddr : ℕ := 0x05

/-- Whitespace that is skipped between records. -/
def hexWhitespace : List UInt8 := [0x20, 0x09, 0x0A, 0x0B, 0x0C, 0x0D]

/-- A byte as the format `#04x` writes it. -/
def hexLiteral (value : UInt8) : String :=
  "0x" ++ String.ofList [Nat.digitChar (value.toNat / 16), Nat.digitChar (value.toNat % 16)]

/-- Decode a single hex digit to its value. -/
def decodeNibble (value : UInt8) : Except PyError ℕ :=
  if 0x30 ≤ value ∧ value ≤ 0x39 then .ok (value.toNat - 0x30)
  else if 0x41 ≤ value ∧ value ≤ 0x46 then .ok (value.toNat - 0x41 + 10)
  else if 0x61 ≤ value ∧ value ≤ 0x66 then .ok (value.toNat - 0x61 + 10)
  else .error ⟨.value, "Invalid hex digit: " ++ hexLiteral value⟩

/-- Reading behind the end of the file. -/
def endOfData : PyError := ⟨.index, "bytearray index out of range"⟩

/-- One digit, taken off the front of what is left of the file. -/
def nibble : Reader UInt8 PyError ℕ := do
  let value ← token endOfData
  StateT.lift (decodeNibble value)

/-- `decode_8`: two digits. -/
def decode8 : Reader UInt8 PyError ℕ := do
  let high ← nibble
  let low ← nibble
  return (high <<< 4) + low

/-- `decode_16`: four digits. -/
def decode16 : Reader UInt8 PyError ℕ := do
  let hi ← decode8
  let lo ← decode8
  return (hi <<< 8) + lo

/-- What the loop knows of a record, with the buffer that all records share. -/
structure HexFields where
  bytesCount : ℕ
  addr : ℕ
  kind : ℕ
  buffer : Vector UInt8 256
  checksum : ℕ

/-- Read a record behind its colon, its data into the front of the buffer. -/
def readFields (buffer : Vector UInt8 256) : Reader UInt8 PyError HexFields := do
  let bytesCount ← decode8
  let addr ← decode16
  let kind ← decode8
  -- The data overwrite the front of the buffer, what is behind stays.
  let buffer ← (List.range bytesCount).foldlM
    (fun buffer bufIdx =>
      (fun value => buffer.setIfInBounds bufIdx (UInt8.ofNat value)) <$> decode8) buffer
  let checksum ← decode8
  return ⟨bytesCount, addr, kind, buffer, checksum⟩

/-- A hex digit, in either case. -/
def hexDigit (upper : Bool) (value : ℕ) : UInt8 :=
  if value < 10 then UInt8.ofNat (0x30 + value)
  else if upper then UInt8.ofNat (0x41 + (value - 10))
  else UInt8.ofNat (0x61 + (value - 10))

/-- A byte is spelled by two digits. -/
def SpellsByte : Language UInt8 UInt8 := fun byte word =>
  ∃ upper upper', word = [hexDigit upper (byte.toNat / 16), hexDigit upper' (byte.toNat % 16)]

/-- A record of a file. -/
@[ext]
structure HexRecord where
  addr : UInt16
  kind : UInt8
  data : List UInt8
  /-- The number of data bytes is written in one byte. -/
  short : data.length < 256

namespace HexRecord

/-- The bytes of a record up to its checksum. -/
def body (r : HexRecord) : List UInt8 :=
  [UInt8.ofNat r.data.length, UInt8.ofNat (r.addr.toNat / 256), UInt8.ofNat (r.addr.toNat % 256),
    r.kind] ++ r.data

/-- The two's complement of the sum of all bytes. -/
def checksum (r : HexRecord) : UInt8 := -r.body.sum

/-- A record is spelled by a colon and its bytes, the checksum as the last of them. -/
def Spelled : Language UInt8 HexRecord := fun r word =>
  ∃ digits, Sequence SpellsByte (r.body ++ [r.checksum]) digits ∧ word = 0x3A :: digits

/-- Whitespace may stand in front of a record. -/
def Spaced : Language UInt8 HexRecord := fun r text =>
  ∃ blank word, (∀ space ∈ blank, space ∈ hexWhitespace) ∧ Spelled r word ∧ text = blank ++ word

end HexRecord

/-- A digit is decoded to the value it was written for, and nothing else is decoded. -/
theorem decodeNibble_eq_ok {value : UInt8} {digit : ℕ} :
    decodeNibble value = .ok digit ↔ digit < 16 ∧ ∃ upper, value = hexDigit upper digit := by
  -- The three ranges of digits do not meet.
  constructor
  · intro decoded
    unfold decodeNibble at decoded
    simp only [UInt8.le_iff_toNat_le, UInt8.reduceToNat] at decoded
    split at decoded
    · cases decoded
      refine ⟨by omega, true, ?_⟩
      rw [← UInt8.toNat_inj, hexDigit, if_pos (by omega), UInt8.toNat_ofNat']
      omega
    split at decoded
    · cases decoded
      refine ⟨by omega, true, ?_⟩
      rw [← UInt8.toNat_inj, hexDigit, if_neg (by omega), if_pos rfl, UInt8.toNat_ofNat']
      omega
    split at decoded
    · cases decoded
      refine ⟨by omega, false, ?_⟩
      rw [← UInt8.toNat_inj, hexDigit, if_neg (by omega), if_neg Bool.false_ne_true,
        UInt8.toNat_ofNat']
      omega
    · cases decoded
  · rintro ⟨small, upper, rfl⟩
    cases upper <;> interval_cases digit <;> rfl

/-- One digit is read as its value. -/
theorem nibble_exact : Exact nibble fun value word =>
    value < 16 ∧ ∃ upper, word = [hexDigit upper value] := by
  -- A token is taken, and then it is checked to be a digit.
  refine ((Exact.token endOfData).bind fun value => .lift (decodeNibble value)).congr ?_
  intro value word
  constructor
  · rintro ⟨digit, front, back, rfl, ⟨decoded, rfl⟩, rfl⟩
    obtain ⟨small, upper, rfl⟩ := decodeNibble_eq_ok.mp decoded
    exact ⟨small, upper, rfl⟩
  · rintro ⟨small, upper, rfl⟩
    exact ⟨hexDigit upper value, [_], [], rfl, ⟨decodeNibble_eq_ok.mpr ⟨small, upper, rfl⟩, rfl⟩, rfl⟩

/-- Two digits are read as the byte they spell. -/
theorem decode8_exact : Exact decode8 fun value word =>
    ∃ byte, SpellsByte byte word ∧ value = byte.toNat := by
  -- The first digit counts sixteen times; a shift by four bits is that.
  refine (nibble_exact.bind fun high => nibble_exact.bind fun low =>
    .pure ((high <<< 4) + low)).congr ?_
  intro value word
  constructor
  · rintro ⟨high, _, _, ⟨small, upper, rfl⟩, ⟨low, _, _, ⟨small', upper', rfl⟩, ⟨rfl, rfl⟩, rfl⟩, rfl⟩
    have whole : (UInt8.ofNat (high * 16 + low)).toNat = high * 16 + low := by
      rw [UInt8.toNat_ofNat']
      omega
    refine ⟨UInt8.ofNat (high * 16 + low), ⟨upper, upper', ?_⟩, ?_⟩
    · have first : (high * 16 + low) / 16 = high := by omega
      have second : (high * 16 + low) % 16 = low := by omega
      rw [whole, first, second]
      rfl
    · rw [whole, Nat.shiftLeft_eq]
  · rintro ⟨byte, ⟨upper, upper', rfl⟩, rfl⟩
    have bound := byte.toNat_lt
    refine ⟨byte.toNat / 16, [_], [_], ⟨by omega, upper, rfl⟩,
      ⟨byte.toNat % 16, [_], [], ⟨by omega, upper', rfl⟩, ⟨?_, rfl⟩, rfl⟩, rfl⟩
    rw [Nat.shiftLeft_eq]
    omega

/-- Four digits are read as the two bytes they spell. -/
theorem decode16_exact : Exact decode16 fun value word =>
    ∃ hi lo : UInt8, Sequence SpellsByte [hi, lo] word ∧ value = hi.toNat * 256 + lo.toNat := by
  refine (decode8_exact.bind fun hi => decode8_exact.bind fun lo => .pure ((hi <<< 8) + lo)).congr ?_
  intro value word
  simp only [Nat.shiftLeft_eq]
  -- The high byte comes first.
  constructor
  · rintro ⟨_, front, _, ⟨hi, spelled, rfl⟩, ⟨_, back, _, ⟨lo, spelled', rfl⟩, ⟨rfl, rfl⟩, rfl⟩, rfl⟩
    exact ⟨hi, lo, ⟨front, back ++ [], spelled, ⟨back, [], spelled', rfl, rfl⟩, rfl⟩, rfl⟩
  · rintro ⟨hi, lo, ⟨front, _, spelled, ⟨back, _, spelled', rfl, rfl⟩, rfl⟩, rfl⟩
    exact ⟨_, front, _, ⟨hi, spelled, rfl⟩, ⟨_, back, [], ⟨lo, spelled', rfl⟩, ⟨rfl, rfl⟩, rfl⟩, rfl⟩

/-- A buffer whose front has been overwritten. -/
def loaded (buffer : Vector UInt8 256) (data : List UInt8) : Vector UInt8 256 :=
  ((List.range data.length).zip data).foldl
    (fun buffer entry => buffer.setIfInBounds entry.1 entry.2) buffer

/-- The front of a buffer that has been overwritten has the data, and the back what it had. -/
theorem toList_loaded (buffer : Vector UInt8 256) {data : List UInt8} (short : data.length < 256) :
    (loaded buffer data).toList = data ++ buffer.toList.drop data.length := by
  -- The induction is on the data still to come, which starts at some place of the buffer.
  have general : ∀ (data : List UInt8) (place : ℕ) (buffer : Vector UInt8 256),
      place + data.length < 256 →
      (((List.range' place data.length).zip data).foldl
        (fun buffer entry => buffer.setIfInBounds entry.1 entry.2) buffer).toList =
      buffer.toList.take place ++ data ++ buffer.toList.drop (place + data.length) := by
    intro data
    induction data with
    | nil => intro place buffer _; simp
    | cons byte later ih =>
      intro place buffer bound
      rw [List.length_cons] at bound
      have inside : place < buffer.toList.length := by
        rw [Vector.length_toList]
        omega
      rw [List.length_cons, List.range'_succ, List.zip_cons_cons, List.foldl_cons,
        ih (place + 1) _ (by omega), Vector.toList_setIfInBounds]
      have front : (buffer.toList.set place byte).take (place + 1) =
          buffer.toList.take place ++ [byte] := by
        rw [List.take_add_one, List.take_set_of_le (le_refl place), List.getElem?_set_self inside]
        rfl
      have back : (buffer.toList.set place byte).drop (place + 1 + later.length) =
          buffer.toList.drop (place + (later.length + 1)) := by
        rw [List.drop_set_of_lt (by omega)]
        congr 1
        omega
      rw [front, back, List.append_assoc, List.append_assoc, List.append_assoc, List.singleton_append,
        List.cons_append]
  have whole := general data 0 buffer (by omega)
  rw [← List.range_eq_range', List.take_zero, List.nil_append, Nat.zero_add] at whole
  exact whole

namespace HexRecord

/-- What the loop knows of the record when it has read it into a buffer. -/
def fields (r : HexRecord) (buffer : Vector UInt8 256) (checksum : UInt8) : HexFields :=
  ⟨r.data.length, r.addr.toNat, r.kind.toNat, loaded buffer r.data, checksum.toNat⟩

/-- The number of data bytes is read back from its byte. -/
theorem toNat_count (r : HexRecord) : (UInt8.ofNat r.data.length).toNat = r.data.length := by
  rw [UInt8.toNat_ofNat', Nat.mod_eq_of_lt r.short]

/-- The first half of the address is read back from its byte. -/
theorem toNat_high (r : HexRecord) :
    (UInt8.ofNat (r.addr.toNat / 256)).toNat = r.addr.toNat / 256 := by
  -- The upper half of an address fits in a byte.
  have bound := r.addr.toNat_lt
  rw [UInt8.toNat_ofNat']
  omega

/-- The second half of the address is read back from its byte. -/
theorem toNat_low (r : HexRecord) :
    (UInt8.ofNat (r.addr.toNat % 256)).toNat = r.addr.toNat % 256 := by
  rw [UInt8.toNat_ofNat', Nat.mod_mod]

end HexRecord

/-- The loop overwrites the buffer with the values of its bytes. -/
theorem loaded_eq (buffer : Vector UInt8 256) (data : List UInt8) :
    ((List.range data.length).zip (data.map UInt8.toNat)).foldl
      (fun buffer entry => buffer.setIfInBounds entry.1 (UInt8.ofNat entry.2)) buffer =
      loaded buffer data := by
  rw [loaded, List.zip_map_right, List.foldl_map]
  -- The bytes come back from their numbers unchanged.
  simp only [Prod.map_snd, Prod.map_fst, id_eq, UInt8.ofNat_toNat]

/-- A record is read from its bytes and a checksum, which need not be the right one. -/
theorem readFields_exact (buffer : Vector UInt8 256) : Exact (readFields buffer) fun f word =>
    ∃ (r : HexRecord) (checksum : UInt8), f = r.fields buffer checksum ∧
      Sequence SpellsByte (r.body ++ [checksum]) word := by
  refine (decode8_exact.bind fun bytesCount => decode16_exact.bind fun addr =>
    decode8_exact.bind fun kind => (decode8_exact.foldlM
      (fun (buffer : Vector UInt8 256) bufIdx value =>
        buffer.setIfInBounds bufIdx (UInt8.ofNat value)) (List.range bytesCount) buffer).bind
      fun buffer => decode8_exact.bind fun checksum =>
        .pure (⟨bytesCount, addr, kind, buffer, checksum⟩ : HexFields)).congr ?_
  intro f word
  constructor
  · -- What was read is put together to a record, whose own bytes are those that were read.
    rintro ⟨_, word₁, _, ⟨count, spelled₁, rfl⟩, ⟨_, word₂, _, ⟨hi, lo, spelled₂, rfl⟩,
      ⟨_, word₃, _, ⟨kind, spelled₃, rfl⟩, ⟨_, word₄, _, ⟨values, length, spelled₄, rfl⟩,
        ⟨_, word₅, _, ⟨checksum, spelled₅, rfl⟩, ⟨rfl, rfl⟩, rfl⟩, rfl⟩, rfl⟩, rfl⟩, rfl⟩
    obtain ⟨data, spelledData, rfl⟩ := (sequence_change UInt8.toNat).mp spelled₄
    rw [List.length_map, List.length_range] at length
    -- The bytes in front of the data say how many there are, and where they belong.
    have short : data.length < 256 := length ▸ count.toNat_lt
    have address : (UInt16.ofNat (hi.toNat * 256 + lo.toNat)).toNat = hi.toNat * 256 + lo.toNat := by
      have := hi.toNat_lt
      have := lo.toNat_lt
      rw [UInt16.toNat_ofNat']
      omega
    refine ⟨⟨UInt16.ofNat (hi.toNat * 256 + lo.toNat), kind, data, short⟩, checksum, ?_, ?_⟩
    · rw [HexRecord.fields, ← length, loaded_eq, address]
    · have high : (hi.toNat * 256 + lo.toNat) / 256 = hi.toNat := by
        have := lo.toNat_lt
        omega
      have low : (hi.toNat * 256 + lo.toNat) % 256 = lo.toNat := by
        have := lo.toNat_lt
        omega
      have bytes : HexRecord.body ⟨UInt16.ofNat (hi.toNat * 256 + lo.toNat), kind, data, short⟩ =
          [count] ++ ([hi, lo] ++ ([kind] ++ data)) := by
        rw [HexRecord.body, address, high, low, length, UInt8.ofNat_toNat, UInt8.ofNat_toNat,
          UInt8.ofNat_toNat]
        rfl
      rw [bytes]
      simp only [List.append_assoc, sequence_append, sequence_singleton]
      exact ⟨word₁, _, spelled₁, ⟨word₂, _, spelled₂, ⟨word₃, _, spelled₃, ⟨word₄, _, spelledData,
        by rwa [List.append_nil], rfl⟩, rfl⟩, rfl⟩, rfl⟩
  · -- The bytes of a record are read field by field.
    rintro ⟨r, checksum, rfl, spelled⟩
    have bytes : r.body = [UInt8.ofNat r.data.length] ++ ([UInt8.ofNat (r.addr.toNat / 256),
        UInt8.ofNat (r.addr.toNat % 256)] ++ ([r.kind] ++ r.data)) := rfl
    have address : (UInt8.ofNat (r.addr.toNat / 256)).toNat * 256 +
        (UInt8.ofNat (r.addr.toNat % 256)).toNat = r.addr.toNat := by
      rw [r.toNat_high, r.toNat_low]
      omega
    rw [bytes] at spelled
    simp only [List.append_assoc, sequence_append, sequence_singleton] at spelled
    obtain ⟨word₁, _, spelled₁, ⟨word₂, _, spelled₂, ⟨word₃, _, spelled₃, ⟨word₄, word₅, spelled₄,
      spelled₅, rfl⟩, rfl⟩, rfl⟩, rfl⟩ := spelled
    refine ⟨_, word₁, _, ⟨_, spelled₁, rfl⟩, ⟨_, word₂, _, ⟨_, _, spelled₂, rfl⟩,
      ⟨_, word₃, _, ⟨_, spelled₃, rfl⟩, ⟨_, word₄, _, ⟨r.data.map UInt8.toNat, ?_,
        (sequence_change UInt8.toNat).mpr ⟨r.data, spelled₄, rfl⟩, rfl⟩,
        ⟨_, word₅, [], ⟨_, spelled₅, rfl⟩, ⟨?_, rfl⟩, (List.append_nil word₅).symm⟩, rfl⟩, rfl⟩,
        rfl⟩, rfl⟩
    · rw [List.length_map, List.length_range, r.toNat_count]
    · rw [HexRecord.fields, r.toNat_count, address, loaded_eq]

end Updater

end Pybrid
