import Pybrid.Library.Overlay
import Pybrid.Util.HexRecords

/-! Firmware files: the image that is decoded from the records of a file. -/

namespace Pybrid

open Reading

namespace Updater

/-- The address of the flash; the image is rebased from here to zero. -/
def fwBaseAddr : ℕ := 0x60000000

/-- The maximum size of an image that the bootloader accepts. -/
def fwMaxSize : ℕ := 0x37F000

/-- `buffer[i]`, which no count of a record exceeds. -/
def HexFields.byte (f : HexFields) (i : ℕ) : ℕ := (f.buffer.toList.getD i 0).toNat

/-- The sum of all bytes of a record, with its checksum. -/
def HexFields.recordSum (f : HexFields) : ℕ :=
  (List.range f.bytesCount).foldl (fun sum i => sum + f.byte i)
    (f.bytesCount + (f.addr >>> 8) + (f.addr &&& 0xFF) + f.kind) + f.checksum

/-- The variables of the loop of `hex2bin`. -/
structure Hex2Bin where
  result : List UInt8
  buffer : Vector UInt8 256
  currentAddr : ℕ

/-- How a round of the loop ends. -/
inductive Round where
  | goesOn (next : Hex2Bin)
  | returns (image : List UInt8)

/-- Put bytes into the result, which is extended with zeros as far as they reach. -/
def store (result : List UInt8) (fullAddr : ℕ) (bytes : List UInt8) : List UInt8 :=
  let stop := fullAddr + bytes.length
  let result := if result.length < stop then result ++ List.replicate (stop - result.length) 0 else result
  result.take fullAddr ++ bytes ++ result.drop stop

namespace Hex2Bin

/-- What a record does, by its kind; the buffer is the one it was read into. -/
def effect (s : Hex2Bin) (f : HexFields) : Round :=
  if f.kind = hexKindEof then .returns s.result
  else if f.kind = hexKindExtLinAddr then
    -- Whether the record has these two bytes is not asked.
    .goesOn { s with buffer := f.buffer, currentAddr := ((f.byte 0 <<< 8) ||| f.byte 1) <<< 16 }
  else if f.kind = hexKindData then
    if s.currentAddr < fwBaseAddr then .returns []
    else
      .goesOn { s with
        buffer := f.buffer
        result := store s.result (s.currentAddr + f.addr - fwBaseAddr)
          (f.buffer.toList.take f.bytesCount) }
  else if f.kind = hexKindStartLinAddr then .goesOn { s with buffer := f.buffer }
  else .returns []

/-- A record whose checksum is wrong ends the loop. -/
def handle (s : Hex2Bin) (f : HexFields) : Round :=
  if f.recordSum &&& 0xFF ≠ 0 then .returns [] else s.effect f

end Hex2Bin

/-- The loop of `hex2bin` on what is left of the file. -/
def hex2binFrom (s : Hex2Bin) (text : List UInt8) : List UInt8 :=
  match text with
  -- No record has said that the file ends.
  | [] => []
  | colon :: rest =>
    if colon ∈ hexWhitespace then hex2binFrom s rest
    else if colon ≠ 0x3A then []
    else
      match _ : (readFields s.buffer).run rest with
      -- All that is raised here is caught.
      | .error _ => []
      | .ok (f, behind) =>
        match s.handle f with
        | .returns image => image
        | .goesOn next => hex2binFrom next behind
termination_by text.length
decreasing_by
  · simp
  · have shorter := (readFields_exact s.buffer).length_le (by assumption)
    rw [List.length_cons]
    omega

/-- Convert an Intel HEX firmware image into its binary representation. -/
def hex2bin (hexData : List UInt8) : List UInt8 :=
  hex2binFrom ⟨[], Vector.replicate 256 0, 0⟩ hexData

/--
`UpdaterUtils.read_to_bin`: the binary image of a firmware file and its hash.

Files that do not exist are told apart from those that cannot be read.
-/
def readToBin (files : String → Option (Except PyError (List UInt8)))
    (sha256 : List UInt8 → List UInt8) (filename : String) :
    Except PyError (List UInt8 × List UInt8) :=
  match files filename with
  | none => .error ⟨.exception, "Unable to find firmware at " ++ filename⟩
  | some (.error error) => .error error
  | some (.ok firmwareHex) =>
    let firmwareBin := hex2bin firmwareHex
    if firmwareBin = [] then
      .error ⟨.exception, "Unable to convert firmware at " ++ filename ++ " to binary format"⟩
    else .ok (firmwareBin, sha256 firmwareBin)

end Updater

end Pybrid
