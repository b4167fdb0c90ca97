import Pybrid.Util.HexFiles

/-! The image of a firmware file: which files have one, what it consists of, and how long it is. -/

namespace Pybrid

open Reading

namespace Updater

namespace HexRecord

/-- The upper half that the two bytes of a record select. -/
def upperHalf (r : HexRecord) : ℕ := (r.data.getD 0 0).toNat * 256 + (r.data.getD 1 0).toNat

/-- The record is known, and an upper half has two bytes. -/
def WellFormed (r : HexRecord) : Prop := r.Known ∧ (r.IsExtLinAddr → r.data.length = 2)

instance (r : HexRecord) : Decidable r.WellFormed := inferInstanceAs (Decidable (_ ∧ (_ → _)))

end HexRecord

/-- Where the records write to, if each of them means what its own bytes say. -/
def placed (upper : ℕ) : List HexRecord → Overlay.Writes UInt8
  | [] => []
  | r :: later =>
    if r.IsExtLinAddr then placed r.upperHalf later
    else if r.IsData then (upper * 65536 + r.addr.toNat, r.data) :: placed upper later
    else placed upper later

/-- A sequence of records that has an image. -/
structure ValidImage (records : List HexRecord) : Prop where
  wellFormed : ∀ r ∈ records, r.WellFormed
  /-- The upper halves are those of the flash. -/
  based : ∀ r ∈ records, r.IsExtLinAddr → 0x6000 ≤ r.upperHalf
  /-- An upper half is selected before anything is written. -/
  led : ∀ before r after, records = before ++ r :: after → r.IsData → ∃ e ∈ before, e.IsExtLinAddr

/-- What a round leaves apart from the buffer: an image, or the result and the address. -/
def Round.visible : Round → List UInt8 ⊕ (List UInt8 × ℕ)
  | .returns image => .inl image
  | .goesOn next => .inr (next.result, next.currentAddr)

/-- What the record does is the same whatever an earlier one has left in the buffer. -/
def HexRecord.OwnEffect (r : HexRecord) : Prop :=
  ∀ (s : Hex2Bin) (leftOver : Vector UInt8 256),
    (Hex2Bin.handle { s with buffer := leftOver } (r.fields leftOver r.checksum)).visible =
      (s.handle (r.fields s.buffer r.checksum)).visible

/-- A file with an image consists of well-formed records, each with its own effect. -/
def RejectsInvalid (text : List UInt8) : Prop :=
  hex2bin text ≠ [] → ∃ records, Listed records text ∧ (∀ r ∈ records, r.WellFormed) ∧
    ∀ r, r ∈ records ∨ r.IsEof → r.OwnEffect

/-- An image that is handed out fits the bootloader. -/
def FitsBootloader (files : String → Option (Except PyError (List UInt8)))
    (sha256 : List UInt8 → List UInt8) (filename : String) : Prop :=
  ∀ image digest, readToBin files sha256 filename = .ok (image, digest) → image.length ≤ fwMaxSize

/-- The bytes of a text. -/
def hexText (text : String) : List UInt8 := text.toList.map fun letter => UInt8.ofNat letter.toNat

/-- A byte as two digits. -/
def spellByte (byte : UInt8) : List UInt8 :=
  [hexDigit true (byte.toNat / 16), hexDigit true (byte.toNat % 16)]

/-- No more bytes fit into a record. -/
theorem length_take_lt (data : List UInt8) : (data.take 255).length < 256 := by
  rw [List.length_take]
  omega

/-- The record with as many of these bytes as fit. -/
def HexRecord.of (kind : UInt8) (addr : UInt16) (data : List UInt8) : HexRecord :=
  ⟨addr, kind, data.take 255, length_take_lt data⟩

/-- A record as a line of a file. -/
def HexRecord.render (r : HexRecord) : List UInt8 :=
  0x3A :: (r.body ++ [r.checksum]).flatMap spellByte

/-- The lines of a file, the last of which ends it. -/
def renderFile (records : List HexRecord) : List UInt8 :=
  (records ++ [HexRecord.of 1 0 []]).flatMap HexRecord.render

/-- A record is rendered as it is spelled. -/
theorem HexRecord.render_spaced (r : HexRecord) : r.Spaced r.render :=
  ⟨[], r.render, fun _ none_ => (List.not_mem_nil none_).elim,
    ⟨_, sequence_flatMap _ fun _ => ⟨true, true, rfl⟩, rfl⟩, rfl⟩

/-- The lines of a file list its records. -/
theorem listed_renderFile {records : List HexRecord} (running : ∀ r ∈ records, ¬ r.IsEof) :
    Listed records (renderFile records) :=
  ⟨running, .of 1 0 [], renderFile records, [], rfl, sequence_flatMap _ HexRecord.render_spaced,
    (List.append_nil _).symm⟩

/-- With two bytes for every upper half nothing is left over from an earlier record. -/
theorem writes_eq_placed {records : List HexRecord}
    (wellFormed : ∀ r ∈ records, r.WellFormed) (a : Addressing) :
    writes a records = placed a.upper records := by
  -- The induction is on the records; the upper half is all that both sides hand on.
  induction records generalizing a with
  | nil => rfl
  | cons r later ih =>
    obtain ⟨here, others⟩ := List.forall_mem_cons.mp wellFormed
    rw [writes, placed, ih others]
    by_cases selects : r.IsExtLinAddr
    · -- Both bytes are the record's own, whatever is in the buffer.
      have two : 0 < r.data.length ∧ 1 < r.data.length := by
        rw [here.2 selects]
        omega
      have own : (a.after r).upper = r.upperHalf := by
        simp only [Addressing.after, if_pos selects, HexRecord.upperHalf,
          List.getD_eq_getElem?_getD, List.getElem?_eq_getElem two.1, List.getElem?_eq_getElem two.2,
          Option.getD_some]
      rw [if_neg (r.kinds_apart.1 selects), if_pos selects, own]
    · have kept : (a.after r).upper = a.upper := if_neg selects
      rw [if_neg selects, kept]

/-- Behind an upper half of the flash, or with one before all data, everything goes to the flash. -/
theorem placed_based {records : List HexRecord} {upper : ℕ}
    (based : ∀ r ∈ records, r.IsExtLinAddr → 0x6000 ≤ r.upperHalf)
    (led : 0x6000 ≤ upper ∨ ∀ before r after, records = before ++ r :: after → r.IsData →
      ∃ e ∈ before, e.IsExtLinAddr) :
    ∀ entry ∈ placed upper records, fwBaseAddr ≤ entry.1 := by
  -- The induction is on the records; from the first upper half on it is in force.
  induction records generalizing upper with
  | nil => exact fun entry none_ => (List.not_mem_nil none_).elim
  | cons r later ih =>
    obtain ⟨here, others⟩ := List.forall_mem_cons.mp based
    rw [placed]
    by_cases selects : r.IsExtLinAddr
    · rw [if_pos selects]
      exact ih others (.inl (here selects))
    rw [if_neg selects]
    -- A record that selects nothing does not lead those behind it either.
    have led' : 0x6000 ≤ upper ∨ ∀ before r after, later = before ++ r :: after → r.IsData →
        ∃ e ∈ before, e.IsExtLinAddr := by
      refine led.imp_right fun led before r' after split stores => ?_
      obtain ⟨e, member, leads⟩ := led (r :: before) r' after (by rw [split, List.cons_append]) stores
      rcases List.mem_cons.mp member with rfl | member
      · exact (selects leads).elim
      · exact ⟨e, member, leads⟩
    by_cases stores : r.IsData
    · rw [if_pos stores, List.forall_mem_cons]
      have inForce : 0x6000 ≤ upper := by
        refine led.resolve_right fun led => ?_
        obtain ⟨e, none_, _⟩ := led [] r later rfl stores
        exact (List.not_mem_nil none_).elim
      refine ⟨?_, ih others led'⟩
      simp only [fwBaseAddr]
      omega
    · rw [if_neg stores]
      exact ih others led'

/-- The records of a valid image are accepted, and write where they say. -/
theorem ValidImage.accepted {records : List HexRecord} (valid : ValidImage records) :
    Accepted records ∧ writes .start records = placed 0 records := by
  have same := writes_eq_placed valid.wellFormed .start
  refine ⟨⟨fun r member => (valid.wellFormed r member).1, ?_⟩, same⟩
  -- Acceptance asks for the places that the writes are given.
  rw [same]
  exact placed_based valid.based (.inr valid.led)

/--
A valid image is decoded from every spelling of its records: it ends where the furthest record does,
and each byte is the last one that was written there.
-/
theorem hex2bin_decodes {records : List HexRecord} {text : List UInt8} (valid : ValidImage records)
    (listed : Listed records text) :
    (hex2bin text).length = Overlay.furthest (placed 0 records) - fwBaseAddr ∧
      ∀ address, fwBaseAddr ≤ address →
        (hex2bin text).getD (address - fwBaseAddr) 0 = Overlay.lastAt 0 (placed 0 records) address := by
  obtain ⟨accepted, same⟩ := valid.accepted
  have based := accepted.based
  rw [(hex2bin_eq listed).1 accepted]
  rw [same] at based ⊢
  -- The image starts at the base of the flash, in front of which nothing was written.
  constructor
  · rw [Overlay.length_cells, Overlay.furthest_rebase based]
  · intro address inside
    rw [Overlay.getD_cells, Overlay.lastAt_rebase 0 based inside]

/-- Of two records that overlap, the second one is seen. -/
theorem hex2bin_overlap :
    (hex2bin (hexText ":0200000460009A:03000000010203F7:0100010009F5:00000001FF")).length = 3 ∧
      ∀ address, fwBaseAddr ≤ address →
        (hex2bin (hexText ":0200000460009A:03000000010203F7:0100010009F5:00000001FF")).getD
          (address - fwBaseAddr) 0 =
            Overlay.lastAt 0 [(fwBaseAddr, [1, 2, 3]), (fwBaseAddr + 1, [9])] address := by
  have rendered : hexText ":0200000460009A:03000000010203F7:0100010009F5:00000001FF" =
      renderFile [.of 4 0 [0x60, 0], .of 0 0 [1, 2, 3], .of 0 1 [9]] := by decide +kernel
  have selects : (HexRecord.of 4 0 [0x60, 0]).IsExtLinAddr := rfl
  -- The first record selects the base that the data records behind it need.
  have valid : ValidImage [.of 4 0 [0x60, 0], .of 0 0 [1, 2, 3], .of 0 1 [9]] := by
    refine ⟨by decide, by decide, fun before r after split stores => ?_⟩
    cases before with
    | nil =>
      obtain ⟨rfl, _⟩ := List.cons.inj split
      exact (HexRecord.kinds_apart _ |>.1 selects stores).elim
    | cons first before =>
      obtain ⟨rfl, _⟩ := List.cons.inj split
      exact ⟨_, List.mem_cons_self, selects⟩
  -- The second data record overwrites a byte of the first.
  have places : placed 0 [.of 4 0 [0x60, 0], .of 0 0 [1, 2, 3], .of 0 1 [9]] =
      [(fwBaseAddr, [1, 2, 3]), (fwBaseAddr + 1, [9])] := by decide
  have decoded := hex2bin_decodes valid (listed_renderFile (by decide))
  rw [places, ← rendered] at decoded
  exact decoded

/-- What is seen of a record depends on the buffer only where an upper half is read from there. -/
theorem Hex2Bin.visible_handle (s : Hex2Bin) (r : HexRecord) :
    (s.handle (r.fields s.buffer r.checksum)).visible =
      if r.IsEof then .inl s.result
      else if r.IsExtLinAddr then
        .inr (s.result, ((r.data.getD 0 (s.buffer.toList.getD 0 0)).toNat * 256 +
          (r.data.getD 1 (s.buffer.toList.getD 1 0)).toNat) * 65536)
      else if r.IsData then
        if s.currentAddr < fwBaseAddr then .inl []
        else
          .inr (Overlay.write 0 s.result (s.currentAddr + r.addr.toNat - fwBaseAddr) r.data,
            s.currentAddr)
      else if r.IsStartLinAddr then .inr (s.result, s.currentAddr)
      else .inl [] := by
  -- The checksum is right, so that the record is handled by its kind.
  have right := (recordSum_eq_zero_iff r s.buffer r.checksum).mpr rfl
  rw [Hex2Bin.handle, if_neg (not_not.mpr right), Hex2Bin.effect_eq]
  simp only [apply_ite Round.visible]
  rfl

/-- The image of accepted records ends where the furthest of them does. -/
theorem length_hex2bin {records : List HexRecord} {text : List UInt8} (listed : Listed records text)
    (accepted : Accepted records) :
    (hex2bin text).length = Overlay.furthest (writes .start records) - fwBaseAddr := by
  rw [(hex2bin_eq listed).1 accepted, Overlay.length_cells, Overlay.furthest_rebase accepted.based]

/-- A record has its own effect exactly if it has the two bytes of an upper half that it selects. -/
theorem HexRecord.ownEffect_iff (r : HexRecord) :
    r.OwnEffect ↔ (r.IsExtLinAddr → 2 ≤ r.data.length) := by
  constructor
  · -- With one byte too few, a buffer of zeros and one of ones select different addresses.
    intro own selects
    have ends : ¬ r.IsEof := r.kinds_apart.2.2.2 (.inl selects)
    have same := own ⟨[], Vector.replicate 256 0, 0⟩ (Vector.replicate 256 1)
    rw [Hex2Bin.visible_handle, Hex2Bin.visible_handle, if_neg ends, if_pos selects, if_neg ends,
      if_pos selects] at same
    by_contra short
    have second : ∀ byte : UInt8, r.data.getD 1 byte = byte := fun byte => by
      rw [List.getD_eq_getElem?_getD, List.getElem?_eq_none (by omega), Option.getD_none]
    simp only [second, Sum.inr.injEq, Prod.mk.injEq, true_and] at same
    have zero : ((Vector.replicate 256 (0 : UInt8)).toList.getD 1 0).toNat = 0 := rfl
    have one : ((Vector.replicate 256 (1 : UInt8)).toList.getD 1 0).toNat = 1 := rfl
    rw [zero, one] at same
    omega
  · intro two s leftOver
    rw [Hex2Bin.visible_handle, Hex2Bin.visible_handle]
    by_cases selects : r.IsExtLinAddr
    · have two := two selects
      -- With two bytes of data the address is made of the record's own bytes.
      have own : ∀ i < 2, ∀ byte other : UInt8, r.data.getD i byte = r.data.getD i other := by
        intro i inside byte other
        have present : i < r.data.length := by omega
        simp only [List.getD_eq_getElem?_getD, List.getElem?_eq_getElem present, Option.getD_some]
      rw [own 0 (by omega) (leftOver.toList.getD 0 0), own 1 (by omega) (leftOver.toList.getD 1 0)]
    · simp only [if_neg selects]

/--
A file with an image consists of well-formed records exactly if no upper half in it has another number
of bytes than two.
-/
theorem rejectsInvalid_iff (text : List UInt8) : RejectsInvalid text ↔
    ∀ records, Listed records text → Accepted records →
      fwBaseAddr < Overlay.furthest (writes .start records) →
      ∀ r ∈ records, r.IsExtLinAddr → r.data.length = 2 := by
  constructor
  · -- The records that are promised are the ones the text has.
    intro rejects records listed accepted reaches r member
    have some_ := (hex2bin_ne_nil_iff text).mpr ⟨records, listed, accepted, reaches⟩
    obtain ⟨others, listed', wellFormed, _⟩ := rejects some_
    obtain rfl := listed.unique listed'
    exact (wellFormed r member).2
  · intro two some_
    obtain ⟨records, listed, accepted, reaches⟩ := (hex2bin_ne_nil_iff text).mp some_
    have two := two records listed accepted reaches
    refine ⟨records, listed, fun r member => ⟨accepted.known r member, two r member⟩, ?_⟩
    -- The record that ends the file selects nothing.
    rintro r (member | ends)
    · exact r.ownEffect_iff.mpr fun selects => (two r member selects).ge
    · exact r.ownEffect_iff.mpr fun selects => (r.kinds_apart.2.2.2 (.inl selects) ends).elim

/-- An upper half without bytes is accepted, and selects what the data in front of it were. -/
theorem hex2bin_leftOver : ¬ RejectsInvalid
    (hexText ":0200000460009A:0200000060019D:00000004FC:01000000AA55:00000001FF") := by
  have rendered : hexText ":0200000460009A:0200000060019D:00000004FC:01000000AA55:00000001FF" =
      renderFile [.of 4 0 [0x60, 0], .of 0 0 [0x60, 1], .of 4 0 [], .of 0 0 [0xAA]] := by decide +kernel
  -- The third record selects an address without giving one.
  have accepted : Accepted [.of 4 0 [0x60, 0], .of 0 0 [0x60, 1], .of 4 0 [], .of 0 0 [0xAA]] :=
    ⟨by decide, by decide⟩
  have listed := listed_renderFile fun r member => r.kinds_apart.2.2.2 (accepted.known r member)
  intro rejects
  rw [rendered] at rejects
  obtain ⟨others, listed', wellFormed, _⟩ :=
    rejects ((hex2bin_ne_nil_iff _).mpr ⟨_, listed, accepted, by decide⟩)
  obtain rfl := listed.unique listed'
  exact absurd wellFormed (by decide)

/-- The image that is handed out is that of the file, unless that has none. -/
theorem readToBin_eq_ok {files : String → Option (Except PyError (List UInt8))}
    {sha256 : List UInt8 → List UInt8} {filename : String} {image digest : List UInt8} :
    readToBin files sha256 filename = .ok (image, digest) ↔
      ∃ content, files filename = some (.ok content) ∧ hex2bin content ≠ [] ∧
        image = hex2bin content ∧ digest = sha256 image := by
  unfold readToBin
  -- A file that cannot be read and an empty image both raise.
  constructor
  · intro read
    split at read
    · cases read
    · cases read
    · rename_i content found
      simp only at read
      split at read
      · cases read
      · rename_i some_
        cases read
        exact ⟨content, found, some_, rfl, rfl⟩
  · rintro ⟨content, found, some_, rfl, rfl⟩
    simp only [found, if_neg some_]

/-- An image that is handed out fits the bootloader exactly if no record reaches beyond its room. -/
theorem fitsBootloader_iff (files : String → Option (Except PyError (List UInt8)))
    (sha256 : List UInt8 → List UInt8) (filename : String) :
    FitsBootloader files sha256 filename ↔
      ∀ content, files filename = some (.ok content) →
        ∀ records, Listed records content → Accepted records →
          ∀ entry ∈ writes .start records, entry.1 + entry.2.length ≤ fwBaseAddr + fwMaxSize := by
  constructor
  · intro fits content found records listed accepted
    rw [← Overlay.furthest_le]
    by_cases none_ : hex2bin content = []
    · -- Without an image no record reaches beyond the start of the flash.
      have ends := length_hex2bin listed accepted
      rw [none_, List.length_nil] at ends
      omega
    · have short := fits _ _ (readToBin_eq_ok.mpr ⟨content, found, none_, rfl, rfl⟩)
      rw [length_hex2bin listed accepted] at short
      omega
  · intro within image digest read
    obtain ⟨content, found, some_, rfl, _⟩ := readToBin_eq_ok.mp read
    obtain ⟨records, listed, accepted, _⟩ := (hex2bin_ne_nil_iff content).mp some_
    -- The length of the image is how far its records reach.
    have furthest := Overlay.furthest_le.mpr (within content found records listed accepted)
    rw [length_hex2bin listed accepted]
    omega

/-- A record behind the room of the bootloader is accepted, and the image is filled up to it. -/
theorem readToBin_stray : ¬ ∃ sha256, FitsBootloader
    (fun _ => some (.ok (hexText ":02000004603862:0100000000FF:00000001FF"))) sha256
    "firmware.hex" := by
  have rendered : hexText ":02000004603862:0100000000FF:00000001FF" =
      renderFile [.of 4 0 [0x60, 0x38], .of 0 0 [0]] := by decide +kernel
  have accepted : Accepted [.of 4 0 [0x60, 0x38], .of 0 0 [0]] := ⟨by decide, by decide⟩
  have listed := listed_renderFile fun r member => r.kinds_apart.2.2.2 (accepted.known r member)
  rintro ⟨sha256, fits⟩
  -- One byte is written right behind the end of the flash.
  have reached : fwBaseAddr < Overlay.furthest
      (writes .start [.of 4 0 [0x60, 0x38], .of 0 0 [0]]) := by decide
  have some_ := (hex2bin_ne_nil_iff _).mpr ⟨_, listed, accepted, reached⟩
  have short := fits _ _ (readToBin_eq_ok.mpr ⟨_, rfl, rendered ▸ some_, rfl, rfl⟩)
  rw [rendered, length_hex2bin listed accepted] at short
  exact absurd short (by decide)

end Updater

end Pybrid
