import Pybrid.Library.Fuel
import Pybrid.Native.ControlChannel

/-! The firmware upload on a control channel: the limit a device advertises, and its chunks. -/

namespace Pybrid

/-- An image in a buffer; the size of a buffer is a signed word. -/
structure FirmwareImage where
  bytes : List UInt8
  small : bytes.length < 2 ^ 63

/-- A write command. -/
structure UpdateWrite where
  offset : UInt64
  data : List UInt8
  deriving DecidableEq, Repr

/-- How writing an image ends. -/
inductive UploadEnd where
  /-- It returns, with these writes sent. -/
  | returned (writes : List UpdateWrite)
  /-- It throws behind the last of these writes. -/
  | threw (what : String) (writes : List UpdateWrite)
  /-- It divides by zero before it sends anything. -/
  | dividedByZero

namespace ControlChannel

/-- `update_begin`, from the response on: the chunk limit of the device. -/
def updateBegin (response : MessageV1) : Except String UInt64 :=
  match response.kind with
  | some (.errorMessage description) => .error description
  | some (.updateResponse (.failure reason)) => .error reason
  -- That the response is an acknowledgement is only asserted.
  | some (.updateResponse update) => .ok update.chunkSize
  | _ => .error "No update response received"

/-- `update_simple_response_process`: throw if the step has failed. -/
def updateSimpleResponseProcess (response : MessageV1) : Except String Unit :=
  match response.kind with
  | some (.errorMessage description) => .error description
  | some (.updateResponse (.failure reason)) => .error reason
  | some (.updateResponse _) => .ok ()
  | _ => .error "No update response received"

/-- The number of chunks that is shown as the total; there is none if the limit is zero. -/
def totalChunks (newSize maxChunkSize : UInt64) : Option UInt64 :=
  if maxChunkSize = 0 then none else some ((newSize + maxChunkSize - 1) / maxChunkSize)

section

variable (image : FirmwareImage) (maxChunkSize : UInt64)
  (answer : List UpdateWrite → Except String MessageV1)

/-- `new_size`. -/
def newSize : UInt64 := UInt64.ofNat image.bytes.length

/-- The loop of `update_write_full`, which is answered according to the writes sent so far. -/
def writeChunks : ℕ → UInt64 → List UpdateWrite → Option UploadEnd
  | 0, _, _ => none
  | fuel + 1, offset, sent =>
    if offset < newSize image then
      let chunkSize := min maxChunkSize (newSize image - offset)
      let sent := sent ++ [⟨offset, (image.bytes.drop offset.toNat).take chunkSize.toNat⟩]
      match answer sent >>= updateSimpleResponseProcess with
      | .error what => some (.threw what sent)
      -- The offset is a machine word.
      | .ok () => writeChunks fuel (offset + maxChunkSize) sent
    else some (.returned sent)

/-- `update_write_full`: send the image in chunks. -/
def updateWriteFull (fuel : ℕ) : Option UploadEnd :=
  match totalChunks (newSize image) maxChunkSize with
  | none => some .dividedByZero
  | some _ => writeChunks image maxChunkSize answer fuel 0 []

end

end ControlChannel

/-- The writes lay these bytes out from this offset on, without a gap and none of them empty. -/
def Tiles (limit : ℕ) : ℕ → List UInt8 → List UpdateWrite → Prop
  | _, bytes, [] => bytes = []
  | offset, bytes, write :: later =>
    write.offset.toNat = offset ∧ write.data ≠ [] ∧ write.data.length ≤ limit ∧
      ∃ rest, bytes = write.data ++ rest ∧ Tiles limit (offset + write.data.length) rest later

/-- No write lays out nothing. -/
theorem Tiles.of_nil {limit offset : ℕ} {writes : List UpdateWrite}
    (tiles : Tiles limit offset [] writes) : writes = [] := by
  cases writes with
  | nil => rfl
  | cons write later =>
    obtain ⟨_, filled, _, rest, nothing, _⟩ := tiles
    -- A write is never empty.
    exact absurd (List.append_eq_nil_iff.mp nothing.symm).1 filled

/-- The first chunk of some bytes, in front of a tiling of what is behind it. -/
theorem Tiles.cons_take {limit offset : ℕ} {bytes : List UInt8} {write : UpdateWrite}
    {later : List UpdateWrite} (positive : 0 < limit) (filled : bytes ≠ [])
    (place : write.offset.toNat = offset) (data : write.data = bytes.take (min limit bytes.length))
    (tiles : Tiles limit (offset + limit) (bytes.drop limit) later) :
    Tiles limit offset bytes (write :: later) := by
  have some_ : 0 < bytes.length := List.length_pos_iff.mpr filled
  have length : write.data.length = min limit bytes.length := by
    rw [data, List.length_take]
    omega
  refine ⟨place, List.ne_nil_of_length_pos (by omega), by omega,
    bytes.drop (min limit bytes.length), by rw [data, List.take_append_drop], ?_⟩
  rw [length]
  -- The chunk is full, or it is the last one.
  rcases Nat.le_total limit bytes.length with whole | last
  · rw [Nat.min_eq_left whole]
    exact tiles
  · -- Nothing is left behind the last chunk.
    rw [List.drop_eq_nil_of_le last] at tiles
    obtain rfl := tiles.of_nil
    rw [Nat.min_eq_right last, List.drop_length]
    rfl

/-- The data of a tiling is the bytes it lays out. -/
theorem Tiles.flatten {limit offset : ℕ} {bytes : List UInt8} {writes : List UpdateWrite}
    (tiles : Tiles limit offset bytes writes) : (writes.map (·.data)).flatten = bytes := by
  -- Each write takes its data from the front of what is left.
  induction writes generalizing offset bytes with
  | nil => exact tiles.symm
  | cons write later ih =>
    obtain ⟨_, _, _, rest, rfl, tiled⟩ := tiles
    rw [List.map_cons, List.flatten_cons, ih tiled]

/-- Everything is sent where nothing is rejected, and what a chunk is rejected with is thrown. -/
def UploadEnd.Sound (image : FirmwareImage) (maxChunkSize : UInt64)
    (answer : List UpdateWrite → Except String MessageV1) : UploadEnd → Prop
  | .returned writes => Tiles maxChunkSize.toNat 0 image.bytes writes ∧
    (writes.map (·.data)).flatten = image.bytes
  | .threw what writes => answer writes >>= ControlChannel.updateSimpleResponseProcess = .error what
  | .dividedByZero => False

/-- Writing the image comes to an end, and to a sound one. -/
def Finishes (image : FirmwareImage) (maxChunkSize : UInt64)
    (answer : List UpdateWrite → Except String MessageV1) : Prop :=
  ∃ outcome, Fuel.Settles (ControlChannel.updateWriteFull image maxChunkSize answer) outcome ∧
    outcome.Sound image maxChunkSize answer

/-- An update response is a failure, or acknowledges with a limit that leaves room for a byte. -/
def AdvertisesRoom (response : MessageV1) : Prop :=
  ∀ update, response.kind = some (.updateResponse update) →
    (∃ reason, update = .failure reason) ∨ ∃ limit, 0 < limit ∧ update = .ack limit

namespace ControlChannel

/-- The size of an image fits a word. -/
theorem newSize_toNat (image : FirmwareImage) : (newSize image).toNat = image.bytes.length := by
  have small := image.small
  rw [newSize, UInt64.toNat_ofNat']
  omega

/-- A chunk ends at the limit or at the end of the image. -/
theorem chunkSize_toNat {image : FirmwareImage} {maxChunkSize offset : UInt64}
    (inside : offset < newSize image) :
    (min maxChunkSize (newSize image - offset)).toNat =
      min maxChunkSize.toNat (image.bytes.length - offset.toNat) := by
  -- What remains of the image does not wrap, as the offset is inside.
  have rest := UInt64.toNat_sub_of_le (newSize image) offset (UInt64.le_of_lt inside)
  rw [newSize_toNat] at rest
  show (if maxChunkSize ≤ newSize image - offset then maxChunkSize
    else newSize image - offset).toNat = _
  by_cases below : maxChunkSize ≤ newSize image - offset
  · rw [if_pos below]
    have bound := UInt64.le_iff_toNat_le.mp below
    omega
  · rw [if_neg below]
    have bound := mt UInt64.le_iff_toNat_le.mpr below
    omega

/--
From any offset the loop comes to an end that is sound for the rest of the image.

Behind the first chunk the offset is at least the limit, so that it never wraps around.
-/
theorem writeChunks_settles (image : FirmwareImage) {maxChunkSize : UInt64}
    (positive : 0 < maxChunkSize.toNat) (answer : List UpdateWrite → Except String MessageV1)
    (remaining : ℕ) : ∀ (offset : UInt64) (sent : List UpdateWrite),
      (offset.toNat = 0 ∨ maxChunkSize.toNat ≤ offset.toNat) →
      image.bytes.length - offset.toNat ≤ remaining →
      ∃ outcome, Fuel.Settles
        (fun fuel => writeChunks image maxChunkSize answer fuel offset sent) outcome ∧
        match outcome with
        | .returned writes => ∃ later, writes = sent ++ later ∧
          Tiles maxChunkSize.toNat offset.toNat (image.bytes.drop offset.toNat) later
        | .threw what writes => answer writes >>= updateSimpleResponseProcess = .error what
        | .dividedByZero => False := by
  -- The induction is on what is left of the image.
  induction remaining using Nat.strong_induction_on with
  | _ remaining ih =>
    intro offset sent ahead left
    by_cases inside : offset < newSize image
    · have start : offset.toNat < image.bytes.length := by
        rw [← newSize_toNat]
        exact UInt64.lt_iff_toNat_lt.mp inside
      have next : (offset + maxChunkSize).toNat = offset.toNat + maxChunkSize.toNat := by
        have small := image.small
        have word := maxChunkSize.toNat_lt
        rw [UInt64.toNat_add]
        omega
      have size : (min maxChunkSize (newSize image - offset)).toNat =
          min maxChunkSize.toNat (image.bytes.length - offset.toNat) := chunkSize_toNat inside
      let write : UpdateWrite := ⟨offset, (image.bytes.drop offset.toNat).take
        (min maxChunkSize (newSize image - offset)).toNat⟩
      have unrolled : ∀ fuel, writeChunks image maxChunkSize answer (fuel + 1) offset sent =
          match answer (sent ++ [write]) >>= updateSimpleResponseProcess with
          | .error what => some (.threw what (sent ++ [write]))
          | .ok () => writeChunks image maxChunkSize answer fuel (offset + maxChunkSize)
            (sent ++ [write]) := by
        intro fuel
        rw [writeChunks, if_pos inside]
      cases answered : answer (sent ++ [write]) >>= updateSimpleResponseProcess with
      | error what =>
        refine ⟨.threw what (sent ++ [write]), Fuel.Settles.succ (Fuel.settles_pure _)
          fun fuel => ?_, answered⟩
        rw [unrolled, answered]
        rfl
      | ok _ =>
        obtain ⟨outcome, settled, sound⟩ := ih (image.bytes.length - (offset + maxChunkSize).toNat)
          (by omega) (offset + maxChunkSize) (sent ++ [write]) (by omega) (Nat.le_refl _)
        refine ⟨outcome, settled.succ fun fuel => by rw [unrolled, answered], ?_⟩
        cases outcome with
        | threw what writes => exact sound
        | dividedByZero => exact sound
        | returned writes =>
          obtain ⟨later, rfl, tiles⟩ := sound
          rw [next, ← List.drop_drop] at tiles
          refine ⟨write :: later, by rw [List.append_assoc, List.singleton_append], ?_⟩
          refine Tiles.cons_take positive ?_ rfl ?_ tiles
          · exact fun empty => absurd (List.drop_eq_nil_iff.mp empty) (by omega)
          · show (image.bytes.drop offset.toNat).take _ = _
            rw [size, List.length_drop]
    · refine ⟨.returned sent, Fuel.Settles.succ (Fuel.settles_pure _) fun fuel => ?_, [], ?_, ?_⟩
      · rw [writeChunks, if_neg inside]
        rfl
      · rw [List.append_nil]
      · have behind : image.bytes.length ≤ offset.toNat := by
          rw [← newSize_toNat]
          exact Nat.not_lt.mp fun below => inside (UInt64.lt_iff_toNat_lt.mpr below)
        exact List.drop_eq_nil_of_le behind

/-- Writing an image comes to a sound end exactly where there is room for a byte in a chunk. -/
theorem updateWriteFull_finishes (image : FirmwareImage) (maxChunkSize : UInt64)
    (answer : List UpdateWrite → Except String MessageV1) :
    Finishes image maxChunkSize answer ↔ 0 < maxChunkSize := by
  have word : 0 < maxChunkSize ↔ 0 < maxChunkSize.toNat := UInt64.lt_iff_toNat_lt
  constructor
  · rintro ⟨outcome, ⟨enough, returns⟩, sound⟩
    by_contra none_
    obtain rfl : maxChunkSize = 0 := by
      rw [word] at none_
      exact UInt64.toNat_inj.mp (by simpa using none_)
    -- Without room the division comes first.
    obtain rfl : UploadEnd.dividedByZero = outcome := Option.some.inj (returns enough (le_refl _))
    exact sound
  · intro positive
    have counted : totalChunks (newSize image) maxChunkSize =
        some ((newSize image + maxChunkSize - 1) / maxChunkSize) :=
      if_neg fun zero => absurd (zero ▸ positive) (by decide)
    obtain ⟨outcome, settled, sound⟩ := writeChunks_settles image (word.mp positive) answer
      image.bytes.length 0 [] (.inl rfl) (Nat.sub_le _ _)
    have loop : updateWriteFull image maxChunkSize answer =
        fun fuel => writeChunks image maxChunkSize answer fuel 0 [] := by
      funext fuel
      rw [updateWriteFull, counted]
    refine ⟨outcome, ?_, ?_⟩
    · rw [loop]
      exact settled
    · cases outcome with
      | threw what writes => exact sound
      | dividedByZero => exact sound
      | returned writes =>
        obtain ⟨later, rfl, tiles⟩ := sound
        exact ⟨tiles, tiles.flatten⟩

/-- The limits that are accepted are positive exactly where the response advertises room. -/
theorem updateBegin_positive_iff (response : MessageV1) :
    (∀ limit, updateBegin response = .ok limit → 0 < limit) ↔ AdvertisesRoom response := by
  obtain ⟨id, kind⟩ := response
  constructor
  · intro positive update present
    obtain rfl : kind = some (.updateResponse update) := present
    -- A response without an acknowledgement is read as one whose limit is zero.
    cases update with
    | failure reason => exact .inl ⟨reason, rfl⟩
    | ack limit => exact .inr ⟨limit, positive limit rfl, rfl⟩
    | success => exact absurd (positive 0 rfl) (by decide)
    | unset => exact absurd (positive 0 rfl) (by decide)
  · intro advertises limit accepted
    unfold updateBegin at accepted
    split at accepted
    · cases accepted
    · cases accepted
    · rename_i update other present
      rcases advertises update present with ⟨reason, failed⟩ | ⟨limit', positive, rfl⟩
      · exact absurd failed (other reason)
      · cases accepted
        exact positive
    · cases accepted

/--
Writing an image in chunks ends with the chunks sent exactly where the limit is positive, and the
limit that a response brings is positive exactly where that is an acknowledgement with room.
-/
theorem update_chunks_iff (image : FirmwareImage)
    (answer : List UpdateWrite → Except String MessageV1) (maxChunkSize : UInt64)
    (response : MessageV1) :
    (Finishes image maxChunkSize answer ↔ 0 < maxChunkSize) ∧
    ((∀ limit, updateBegin response = .ok limit → 0 < limit ∧ Finishes image limit answer) ↔
      AdvertisesRoom response) := by
  refine ⟨updateWriteFull_finishes image maxChunkSize answer, ?_⟩
  rw [← updateBegin_positive_iff]
  refine forall_congr' fun limit => forall_congr' fun _ => ?_
  rw [updateWriteFull_finishes, and_self]

/-- A device answers with success instead of an acknowledgement, and the upload divides by zero. -/
theorem updateBegin_unacknowledged :
    updateBegin ⟨"1", some (.updateResponse .success)⟩ = .ok 0 ∧
      ∀ image answer fuel, ∃ outcome, updateWriteFull image 0 answer fuel = some outcome ∧
        ¬ outcome.Sound image 0 answer :=
  ⟨rfl, fun _ _ _ => ⟨.dividedByZero, rfl, id⟩⟩

end ControlChannel

end Pybrid
