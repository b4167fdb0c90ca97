import Pybrid.Client.SampleAssembly

/-! Sample blobs, laid out by the native channel, read back by its accessors and by the client. -/

namespace Pybrid

open SampleDecoding Client

/-- The bytes of a text in UTF-8. -/
def utf8 (text : String) : List UInt8 := text.toByteArray.data.toList

/-- The text in these bytes, if they are valid UTF-8. -/
def decodeUtf8 (bytes : List UInt8) : Option String := String.fromUTF8? ⟨bytes.toArray⟩

namespace DecodedSampleBlob

/-- Build a blob; a sample is given by the bits of the double. -/
def build (entityPath : String) (samples : List UInt64) (channelCount sampleType chunkNumber : UInt32)
    (probeIndices : List UInt32) : List UInt8 :=
  buildBlob (utf8 entityPath) ⟨samples, channelCount.toNat, probeIndices⟩ sampleType chunkNumber

/-- A word of the header; the host reads it least significant byte first. -/
def header (data : List UInt8) (field : Nat) : Nat := readLittleEndian data (4 * field) 4

/-- The bytes that the view of the entity path covers. -/
def entityPath (data : List UInt8) : List UInt8 := (data.drop headerSize).take (header data 0)

/-- Where the probe indices start, if there are any. -/
def probeIndices (data : List UInt8) : Option Nat :=
  if header data 5 = 0 then none else some (headerSize + header data 0)

/-- Where the samples start. -/
def samples (data : List UInt8) : Nat :=
  let probeBytes := if header data 5 ≠ 0 then header data 2 * 4 else 0
  alignUpToDouble (headerSize + header data 0 + probeBytes)

end DecodedSampleBlob

/--
Buffer the chunk in a blob, with its path as text; a path that is not valid UTF-8 raises.

What follows for the listeners comes after this and does not take the chunk back.
-/
def Client.bufferSampleBlob (blob : List UInt8) (buffer : List (String × ChunkRecord UInt64)) :
    List (String × ChunkRecord UInt64) :=
  match parseSampleBlob blob with
  -- A blob that cannot be parsed, or whose path is not UTF-8, is dropped.
  | none => buffer
  | some chunk =>
    match decodeUtf8 chunk.entityPath with
    | none => buffer
    | some path => buffer ++ [(path, chunk)]

/-- The blob of these samples is read back as they are, by the client and by the accessors. -/
structure BlobRestored (path : String) (samples : List UInt64)
    (channelCount sampleType chunkNumber : UInt32) (probes : List UInt32) (sampleCount : Nat) :
    Prop where
  /-- The client appends one chunk, with everything the blob was built of. -/
  buffered : ∀ buffer, ∃ chunk : ChunkRecord UInt64,
    bufferSampleBlob
        (DecodedSampleBlob.build path samples channelCount sampleType chunkNumber probes) buffer =
      buffer ++ [(path, chunk)] ∧
    chunk.entityPath = utf8 path ∧ chunk.sampleType = sampleType.toNat ∧
    chunk.chunkNumber = chunkNumber.toNat ∧ chunk.channelCount = channelCount.toNat ∧
    chunk.probeIndices = (if probes = [] then none else some (probes.map UInt32.toNat)) ∧
    chunk.samples.length = channelCount.toNat ∧
    ∀ channel < channelCount.toNat, ∃ row, chunk.samples[channel]? = some row ∧
      row.length = sampleCount ∧
      ∀ sample < sampleCount, row[sample]? = samples[sample * channelCount.toNat + channel]?
  /-- The accessors point at the path, the probe indices and the samples. -/
  accessed :
    let blob := DecodedSampleBlob.build path samples channelCount sampleType chunkNumber probes
    DecodedSampleBlob.entityPath blob = utf8 path ∧
    (probes = [] → DecodedSampleBlob.probeIndices blob = none) ∧
    (probes ≠ [] → ∃ start, DecodedSampleBlob.probeIndices blob = some start ∧
      ∀ i < probes.length, (probes[i]?).map UInt32.toNat =
        some (readLittleEndian blob (start + 4 * i) 4)) ∧
    ∀ i < samples.length, (samples[i]?).map UInt64.toNat =
      some (readLittleEndian blob (DecodedSampleBlob.samples blob + 8 * i) 8)

namespace BlobCodec

/-- Bytes in the middle of a blob are read as the number they stand for. -/
theorem readLittleEndian_middle (front bytes back : List UInt8) :
    readLittleEndian (front ++ bytes ++ back) front.length bytes.length =
      ((List.range bytes.length).map fun i => (bytes.getD i 0).toNat * 256 ^ i).sum := by
  unfold readLittleEndian
  congr 1
  refine List.map_congr_left fun i inside => ?_
  have inside := List.mem_range.mp inside
  -- The offset skips what lies in front, and the index stays inside the bytes.
  rw [List.append_assoc, List.getD_append_right _ _ _ _ (by omega),
    Nat.add_sub_cancel_left, List.getD_append _ _ _ _ inside]

/-- A number is the sum of its digits to the base of a byte, up to the number of digits. -/
theorem sum_digits (number : Nat) : ∀ width,
    ((List.range width).map fun i => number / 256 ^ i % 256 * 256 ^ i).sum =
      number % 256 ^ width := by
  intro width
  -- Each further digit refines the remainder by one power.
  induction width with
  | zero => simp [Nat.mod_one]
  | succ width ih =>
    rw [List.range_succ, List.map_append, List.sum_append, ih, Nat.mod_pow_succ]
    simp [Nat.mul_comm]

/-- The bytes of a word are its digits. -/
theorem wordBytes_digit (word : UInt32) {i : Nat} (inside : i < 4) :
    ((wordBytes word).getD i 0).toNat = word.toNat / 256 ^ i % 256 := by
  -- The shift stays below the width of the word, so that no bits wrap around.
  have shift : (8 * i.toUInt32).toNat = 8 * i := by
    simp [UInt32.toNat_mul]
    omega
  rw [wordBytes, List.getD_eq_getElem _ _ (by simpa using inside), List.getElem_map,
    List.getElem_range, UInt32.toNat_toUInt8, UInt32.toNat_shiftRight, shift,
    Nat.mod_eq_of_lt (by omega : 8 * i < 32), Nat.shiftRight_eq_div_pow, Nat.pow_mul]

/-- The bytes of a double are the digits of its bits. -/
theorem doubleBytes_digit (bits : UInt64) {i : Nat} (inside : i < 8) :
    ((doubleBytes bits).getD i 0).toNat = bits.toNat / 256 ^ i % 256 := by
  -- The shift stays below the width of the word, so that no bits wrap around.
  have shift : (8 * i.toUInt64).toNat = 8 * i := by
    simp [UInt64.toNat_mul]
    omega
  rw [doubleBytes, List.getD_eq_getElem _ _ (by simpa using inside), List.getElem_map,
    List.getElem_range, UInt64.toNat_toUInt8, UInt64.toNat_shiftRight, shift,
    Nat.mod_eq_of_lt (by omega : 8 * i < 64), Nat.shiftRight_eq_div_pow, Nat.pow_mul]

/-- A word is read back as it was written. -/
theorem readLittleEndian_word (front back : List UInt8) (word : UInt32) :
    readLittleEndian (front ++ wordBytes word ++ back) front.length 4 = word.toNat := by
  have middle := readLittleEndian_middle front (wordBytes word) back
  rw [length_wordBytes] at middle
  -- The digits of the bytes are those of the word.
  rw [middle, List.map_congr_left fun i inside => by
    rw [wordBytes_digit word (List.mem_range.mp inside)], sum_digits]
  exact Nat.mod_eq_of_lt word.toNat_lt

/-- A double is read back as it was written. -/
theorem readLittleEndian_double (front back : List UInt8) (bits : UInt64) :
    readLittleEndian (front ++ doubleBytes bits ++ back) front.length 8 = bits.toNat := by
  have middle := readLittleEndian_middle front (doubleBytes bits) back
  rw [length_doubleBytes] at middle
  -- The same for the eight bytes of a double.
  rw [middle, List.map_congr_left fun i inside => by
    rw [doubleBytes_digit bits (List.mem_range.mp inside)], sum_digits]
  exact Nat.mod_eq_of_lt bits.toNat_lt

section Tables

variable {α : Type} {encode : α → List UInt8} {width : Nat}

/-- A table of entries of the same width is as long as all of them together. -/
theorem length_table (each : ∀ entry, (encode entry).length = width) (entries : List α) :
    (entries.flatMap encode).length = entries.length * width := by
  simp [List.length_flatMap, each]

/-- An entry of a table lies behind the entries before it. -/
theorem table_split (entries : List α) {i : Nat} (inside : i < entries.length) :
    entries.flatMap encode = (entries.take i).flatMap encode ++ encode entries[i] ++
      (entries.drop (i + 1)).flatMap encode := by
  conv_lhs => rw [← List.take_append_drop i entries, List.drop_eq_getElem_cons inside]
  rw [List.flatMap_append, List.flatMap_cons, List.append_assoc]

/-- What reads an entry back wherever it stands reads it back from its place in a table. -/
theorem read_table (each : ∀ entry, (encode entry).length = width) {value : α → Nat}
    (reads : ∀ front back entry,
      readLittleEndian (front ++ encode entry ++ back) front.length width = value entry)
    (front back : List UInt8) (entries : List α) {i : Nat} (inside : i < entries.length) :
    readLittleEndian (front ++ entries.flatMap encode ++ back) (front.length + width * i) width =
      value entries[i] := by
  -- The entries before this one belong to the front, those behind it to the back.
  have found := reads (front ++ (entries.take i).flatMap encode)
    ((entries.drop (i + 1)).flatMap encode ++ back) entries[i]
  rw [List.length_append, length_table each, List.length_take, min_eq_left (by omega),
    Nat.mul_comm i] at found
  rw [table_split entries inside, ← found]
  simp [List.append_assoc]

end Tables

/-- The words of the header. -/
def headerWords (path : List UInt8) (samples : List UInt64)
    (channelCount sampleType chunkNumber : UInt32) (probes : List UInt32) : List UInt32 :=
  [path.length.toUInt32, (samples.length / channelCount.toNat).toUInt32, channelCount, sampleType,
    chunkNumber, if probes ≠ [] then 1 else 0]

/-- Where the samples start in a blob. -/
def samplesOffset (path : List UInt8) (probes : List UInt32) : Nat :=
  alignUpToDouble (headerSize + path.length + probes.length * 4)

section Layout

variable {path : String} {samples : List UInt64} {channelCount sampleType chunkNumber : UInt32}
  {probes : List UInt32} (positive : 0 < channelCount.toNat)
  (probed : probes = [] ∨ probes.length = channelCount.toNat)

include positive probed in
/-- The parts of a blob, one after the other. -/
theorem build_eq :
    DecodedSampleBlob.build path samples channelCount sampleType chunkNumber probes =
      (headerWords (utf8 path) samples channelCount sampleType chunkNumber probes).flatMap wordBytes ++
        utf8 path ++ probes.flatMap wordBytes ++
        List.replicate (samplesOffset (utf8 path) probes -
          (headerSize + (utf8 path).length + probes.length * 4)) 0 ++
        samples.flatMap doubleBytes := by
  -- The indices take four bytes each, and none without probes.
  have bytes : (if probes ≠ [] then channelCount.toNat * 4 else 0) = probes.length * 4 := by
    rcases probed with none_ | same
    · simp [none_]
    · by_cases none_ : probes = []
      · simp [none_]
      · rw [if_pos none_, same]
  unfold DecodedSampleBlob.build buildBlob
  simp only [bytes, if_pos positive]
  rw [List.take_of_length_le (length_table length_wordBytes probes).le]
  simp [headerWords, samplesOffset]

/-- The samples start behind the header, the path, the probe indices and the padding. -/
theorem length_front :
    ((headerWords (utf8 path) samples channelCount sampleType chunkNumber probes).flatMap wordBytes ++
        utf8 path ++ probes.flatMap wordBytes ++
        List.replicate (samplesOffset (utf8 path) probes -
          (headerSize + (utf8 path).length + probes.length * 4)) (0 : UInt8)).length =
      samplesOffset (utf8 path) probes := by
  -- The padding fills up to where the samples are aligned.
  have behind := le_alignUpToDouble (headerSize + (utf8 path).length + probes.length * 4)
  simp only [List.length_append, length_table length_wordBytes, List.length_replicate, headerWords,
    List.length_cons, List.length_nil, samplesOffset, headerSize] at behind ⊢
  omega

include positive probed in
/-- The words of the header are read back. -/
theorem header_build {field : Nat} (inside : field < 6) :
    DecodedSampleBlob.header
        (DecodedSampleBlob.build path samples channelCount sampleType chunkNumber probes) field =
      ((headerWords (utf8 path) samples channelCount sampleType chunkNumber probes).getD field
        0).toNat := by
  have listed : field <
      (headerWords (utf8 path) samples channelCount sampleType chunkNumber probes).length := inside
  -- The header is a table of words at the very front.
  have found := read_table length_wordBytes readLittleEndian_word []
    (utf8 path ++ probes.flatMap wordBytes ++ List.replicate (samplesOffset (utf8 path) probes -
      (headerSize + (utf8 path).length + probes.length * 4)) 0 ++ samples.flatMap doubleBytes)
    (headerWords (utf8 path) samples channelCount sampleType chunkNumber probes) listed
  rw [List.getD_eq_getElem _ _ listed, ← found, DecodedSampleBlob.header, build_eq positive probed]
  simp [List.append_assoc]

include positive probed in
/-- The probe indices are read back from behind the path. -/
theorem probe_build {i : Nat} (inside : i < probes.length) :
    readLittleEndian (DecodedSampleBlob.build path samples channelCount sampleType chunkNumber probes)
        (headerSize + (utf8 path).length + 4 * i) 4 = probes[i].toNat := by
  -- The indices are a table of words behind the path.
  have found := read_table length_wordBytes readLittleEndian_word
    ((headerWords (utf8 path) samples channelCount sampleType chunkNumber probes).flatMap wordBytes ++
      utf8 path)
    (List.replicate (samplesOffset (utf8 path) probes -
      (headerSize + (utf8 path).length + probes.length * 4)) 0 ++ samples.flatMap doubleBytes)
    probes inside
  rw [List.length_append, length_table length_wordBytes] at found
  rw [← found, build_eq positive probed]
  simp [headerWords, headerSize, List.append_assoc]

include positive probed in
/-- The samples are read back from behind the padding. -/
theorem sample_build {i : Nat} (inside : i < samples.length) :
    readLittleEndian (DecodedSampleBlob.build path samples channelCount sampleType chunkNumber probes)
        (samplesOffset (utf8 path) probes + 8 * i) 8 = samples[i].toNat := by
  -- The samples are a table of doubles behind the padding.
  have found := read_table length_doubleBytes readLittleEndian_double
    ((headerWords (utf8 path) samples channelCount sampleType chunkNumber probes).flatMap wordBytes ++
      utf8 path ++ probes.flatMap wordBytes ++
      List.replicate (samplesOffset (utf8 path) probes -
        (headerSize + (utf8 path).length + probes.length * 4)) 0) [] samples inside
  rw [length_front] at found
  rw [← found, build_eq positive probed, List.append_nil]

include positive probed in
/-- The path lies behind the header. -/
theorem path_build :
    ((DecodedSampleBlob.build path samples channelCount sampleType chunkNumber probes).drop
      headerSize).take (utf8 path).length = utf8 path := by
  -- The six words of the header are what is dropped in front of the path.
  have length : ((headerWords (utf8 path) samples channelCount sampleType chunkNumber
      probes).flatMap wordBytes).length = headerSize := by
    rw [length_table length_wordBytes]
    rfl
  rw [build_eq positive probed, ← length]
  simp only [List.append_assoc, List.drop_left, List.take_left]

include positive probed in
/-- The length of a blob. -/
theorem length_build :
    (DecodedSampleBlob.build path samples channelCount sampleType chunkNumber probes).length =
      samplesOffset (utf8 path) probes + samples.length * 8 := by
  rw [build_eq positive probed, List.length_append, length_front,
    length_table length_doubleBytes]

end Layout

/-- The text of its own bytes is the text. -/
theorem decodeUtf8_utf8 (text : String) : decodeUtf8 (utf8 text) = some text := by
  unfold decodeUtf8 utf8 String.fromUTF8?
  rw [dif_pos text.isValidUTF8]
  rfl

/-- A number that fits a word is kept by it. -/
theorem toNat_toUInt32 {number : Nat} (fits : number < 2 ^ 32) : number.toUInt32.toNat = number :=
  Nat.mod_eq_of_lt fits

section Reading

variable {path : String} {samples : List UInt64} {channelCount sampleType chunkNumber : UInt32}
  {probes : List UInt32} {sampleCount : Nat} (positive : 0 < channelCount.toNat)
  (probed : probes = [] ∨ probes.length = channelCount.toNat)
  (sampled : samples.length = channelCount.toNat * sampleCount) (some_ : 0 < sampleCount)
  (short : (utf8 path).length < 2 ^ 32) (few : sampleCount < 2 ^ 32)

include positive probed in
/-- The header says whether there are probe indices. -/
theorem header_probes :
    DecodedSampleBlob.header
      (DecodedSampleBlob.build path samples channelCount sampleType chunkNumber probes) 5 ≠ 0 ↔
      probes ≠ [] := by
  rw [header_build positive probed (by decide)]
  -- The sixth word is a flag.
  by_cases none_ : probes = [] <;> simp [headerWords, none_]

include positive probed short in
/-- The header tells the length of a path that fits. -/
theorem header_path :
    DecodedSampleBlob.header
      (DecodedSampleBlob.build path samples channelCount sampleType chunkNumber probes) 0 =
      (utf8 path).length := by
  rw [header_build positive probed (by decide)]
  -- The length has room in its word.
  exact toNat_toUInt32 short

include positive probed sampled few in
/-- The header tells the number of samples of each channel. -/
theorem header_samples :
    DecodedSampleBlob.header
      (DecodedSampleBlob.build path samples channelCount sampleType chunkNumber probes) 1 =
      sampleCount := by
  -- There are as many samples for each channel as the length divides into.
  have count : samples.length / channelCount.toNat = sampleCount := by
    rw [sampled, Nat.mul_div_cancel_left _ positive]
  rw [header_build positive probed (by decide)]
  simp only [headerWords, count, List.getD_cons_succ, List.getD_cons_zero]
  exact toNat_toUInt32 few

end Reading

/-- Where the samples start behind a header with these words. -/
def samplesPlace (words : Nat → Nat) : Nat :=
  alignUpToDouble (headerSize + words 0 + if words 5 = 0 then 0 else words 2 * 4)

section Words

-- The words stand for what is read, so that no arithmetic looks into the bytes.
variable {blob : List UInt8} {words : Nat → Nat}
  (read : ∀ field, DecodedSampleBlob.header blob field = words field)

include read in
/-- The accessor finds the samples where the header puts them. -/
theorem samples_of_words : DecodedSampleBlob.samples blob = samplesPlace words := by
  unfold DecodedSampleBlob.samples samplesPlace
  simp only [read, ne_eq, ite_not]

include read in
/-- The client goes by the same header and finds everything where the accessors find it. -/
theorem parseSampleBlob_of_words (header : headerSize ≤ blob.length) (channels : words 2 ≠ 0)
    (counted : words 1 ≠ 0)
    (inside : samplesPlace words + words 1 * words 2 * 8 ≤ blob.length) :
    parseSampleBlob blob = some {
      chunkNumber := words 4
      entityPath := (blob.drop headerSize).take (words 0)
      sampleType := words 3
      channelCount := words 2
      samples := (List.range (words 2)).map fun channel =>
        (List.range (words 1)).map fun sample =>
          (readLittleEndian blob (samplesPlace words + (sample * words 2 + channel) * 8) 8).toUInt64
      probeIndices := if words 5 = 0 then none else
        some ((List.range (words 2)).map fun i =>
          readLittleEndian blob (headerSize + words 0 + 4 * i) 4) } := by
  -- The parser reads the same six words, each at its offset.
  have word0 : readLittleEndian blob 0 4 = words 0 := read 0
  have word1 : readLittleEndian blob 4 4 = words 1 := read 1
  have word2 : readLittleEndian blob 8 4 = words 2 := read 2
  have word3 : readLittleEndian blob 12 4 = words 3 := read 3
  have word4 : readLittleEndian blob 16 4 = words 4 := read 4
  have word5 : readLittleEndian blob 20 4 = words 5 := read 5
  unfold samplesPlace at inside ⊢
  have behind := le_alignUpToDouble (headerSize + words 0 + if words 5 = 0 then 0 else words 2 * 4)
  unfold parseSampleBlob
  simp only [word0, word1, word2, word3, word4, word5]
  rw [if_neg (by omega), if_neg (by tauto)]
  -- Without probes nothing lies between the path and the padding.
  by_cases none_ : words 5 = 0
  · simp only [none_, ne_eq, not_true_eq_false, if_false, Nat.add_zero, if_true] at inside behind ⊢
    rw [if_neg (by omega)]
  · simp only [none_, ne_eq, not_false_eq_true, if_true, if_false] at inside behind ⊢
    rw [if_neg (by omega)]

end Words

/-- A position inside the samples, sample by sample and channel by channel. -/
theorem position_lt {channels count channel sample : Nat} (inside : channel < channels)
    (before : sample < count) : sample * channels + channel < channels * count := by
  -- The row of the sample ends before the next one begins.
  calc sample * channels + channel < sample * channels + channels := by omega
    _ = (sample + 1) * channels := by ring
    _ ≤ count * channels := Nat.mul_le_mul_right _ before
    _ = channels * count := Nat.mul_comm _ _

/-- The words of the header, and what is read at the places they announce. -/
structure Announced (blob : List UInt8) (words : Nat → Nat) (path : String) (samples : List UInt64)
    (channelCount sampleType chunkNumber : UInt32) (probes : List UInt32) (sampleCount : Nat) :
    Prop where
  read : ∀ field, DecodedSampleBlob.header blob field = words field
  pathWord : words 0 = (utf8 path).length
  countWord : words 1 = sampleCount
  channelWord : words 2 = channelCount.toNat
  typeWord : words 3 = sampleType.toNat
  chunkWord : words 4 = chunkNumber.toNat
  probeWord : words 5 = 0 ↔ probes = []
  place : samplesPlace words = samplesOffset (utf8 path) probes
  length : blob.length = samplesOffset (utf8 path) probes + samples.length * 8
  pathAt : (blob.drop headerSize).take (words 0) = utf8 path
  sampleAt : ∀ {i}, (inside : i < samples.length) →
    readLittleEndian blob (samplesPlace words + 8 * i) 8 = samples[i].toNat
  probeAt : ∀ {i}, (inside : i < probes.length) →
    readLittleEndian blob (headerSize + words 0 + 4 * i) 4 = probes[i].toNat

section Announced

variable {path : String} {samples : List UInt64} {channelCount sampleType chunkNumber : UInt32}
  {probes : List UInt32} {sampleCount : Nat} (positive : 0 < channelCount.toNat)
  (sampled : samples.length = channelCount.toNat * sampleCount)
  (probed : probes = [] ∨ probes.length = channelCount.toNat)

include positive sampled probed in
/-- A blob announces what it was built of, where the lengths fit the words of the header. -/
theorem announced_build (short : (utf8 path).length < 2 ^ 32) (few : sampleCount < 2 ^ 32) :
    ∃ words, Announced (DecodedSampleBlob.build path samples channelCount sampleType chunkNumber probes)
      words path samples channelCount sampleType chunkNumber probes sampleCount := by
  obtain ⟨blob, built⟩ : ∃ blob, DecodedSampleBlob.build path samples channelCount sampleType
      chunkNumber probes = blob := ⟨_, rfl⟩
  obtain ⟨words, read⟩ : ∃ words : Nat → Nat, ∀ field, DecodedSampleBlob.header blob field = words field :=
    ⟨_, fun _ => rfl⟩
  have pathWord : words 0 = (utf8 path).length := by
    rw [← read, ← built, header_path positive probed short]
  have countWord : words 1 = sampleCount := by
    rw [← read, ← built, header_samples positive probed sampled few]
  have channelWord : words 2 = channelCount.toNat := by
    rw [← read, ← built, header_build positive probed (by decide)]
    rfl
  have typeWord : words 3 = sampleType.toNat := by
    rw [← read, ← built, header_build positive probed (by decide)]
    rfl
  have chunkWord : words 4 = chunkNumber.toNat := by
    rw [← read, ← built, header_build positive probed (by decide)]
    rfl
  have probeWord : words 5 = 0 ↔ probes = [] := by
    rw [← read, ← built]
    exact not_iff_not.mp (header_probes positive probed)
  -- The last word says whether there are probes, and the third how many.
  have place : samplesPlace words = samplesOffset (utf8 path) probes := by
    have bytes : (if words 5 = 0 then 0 else words 2 * 4) = probes.length * 4 := by
      simp only [probeWord, channelWord]
      rcases probed with none_ | same
      · simp [none_]
      · by_cases none_ : probes = []
        · simp [none_]
        · rw [if_neg none_, same]
    rw [samplesPlace, bytes, pathWord, samplesOffset]
  have length : blob.length = samplesOffset (utf8 path) probes + samples.length * 8 := by
    rw [← built, length_build positive probed]
  have pathAt : (blob.drop headerSize).take (words 0) = utf8 path := by
    rw [pathWord, ← built, path_build positive probed]
  have sampleAt : ∀ {i}, (inside : i < samples.length) →
      readLittleEndian blob (samplesPlace words + 8 * i) 8 = samples[i].toNat := by
    intro i inside
    rw [place, ← built, sample_build positive probed inside]
  have probeAt : ∀ {i}, (inside : i < probes.length) →
      readLittleEndian blob (headerSize + words 0 + 4 * i) 4 = probes[i].toNat := by
    intro i inside
    rw [pathWord, ← built, probe_build positive probed inside]
  rw [built]
  exact ⟨words, read, pathWord, countWord, channelWord, typeWord, chunkWord, probeWord, place, length,
    pathAt, sampleAt, probeAt⟩

variable {blob : List UInt8} {words : Nat → Nat}
  (announced : Announced blob words path samples channelCount sampleType chunkNumber probes sampleCount)

include positive sampled announced in
/-- The blob is long enough for all it announces, so the client does not drop it. -/
theorem Announced.parsed (some_ : 0 < sampleCount) :
    parseSampleBlob blob = some {
      chunkNumber := words 4
      entityPath := (blob.drop headerSize).take (words 0)
      sampleType := words 3
      channelCount := words 2
      samples := (List.range (words 2)).map fun channel =>
        (List.range (words 1)).map fun sample =>
          (readLittleEndian blob (samplesPlace words + (sample * words 2 + channel) * 8) 8).toUInt64
      probeIndices := if words 5 = 0 then none else
        some ((List.range (words 2)).map fun i =>
          readLittleEndian blob (headerSize + words 0 + 4 * i) 4) } := by
  obtain ⟨read, -, countWord, channelWord, -, -, -, place, length, -, -, -⟩ := announced
  -- What the header announces is inside the blob, so that no check refuses it.
  refine parseSampleBlob_of_words read ?_ (by omega) (by omega) ?_
  · have behind := le_alignUpToDouble (headerSize + (utf8 path).length + probes.length * 4)
    rw [← samplesOffset] at behind
    omega
  · rw [place, length, sampled, countWord, channelWord, Nat.mul_comm sampleCount]

include probed announced in
/-- The probe indices are listed where there are any. -/
theorem Announced.probeIndices :
    (if words 5 = 0 then none else
      some ((List.range (words 2)).map fun i =>
        readLittleEndian blob (headerSize + words 0 + 4 * i) 4)) =
      if probes = [] then none else some (probes.map UInt32.toNat) := by
  obtain ⟨-, -, -, channelWord, -, -, probeWord, -, -, -, -, probeAt⟩ := announced
  -- The word for the probes is zero exactly if there are none.
  by_cases none_ : probes = []
  · rw [if_pos (probeWord.mpr none_), if_pos none_]
  · rw [if_neg (fun zero => none_ (probeWord.mp zero)), if_neg none_, channelWord]
    have same := probed.resolve_left none_
    refine congrArg some (List.ext_getElem ?_ fun i _ inside => ?_)
    · simp only [List.length_map, List.length_range, same]
    have inside : i < probes.length := by simpa using inside
    simp only [List.getElem_map, List.getElem_range]
    exact probeAt inside

include sampled announced in
/-- Each channel has the samples at its places. -/
theorem Announced.row {channel : Nat} (within : channel < channelCount.toNat) :
    ∃ row, ((List.range (words 2)).map fun channel =>
        (List.range (words 1)).map fun sample =>
          (readLittleEndian blob (samplesPlace words + (sample * words 2 + channel) * 8) 8).toUInt64)[channel]? =
        some row ∧
      row.length = sampleCount ∧
      ∀ sample < sampleCount, row[sample]? = samples[sample * channelCount.toNat + channel]? := by
  obtain ⟨-, -, countWord, channelWord, -, -, -, -, -, -, sampleAt, -⟩ := announced
  -- The samples are stored sample by sample, and read channel by channel.
  refine ⟨(List.range (words 1)).map fun sample =>
    (readLittleEndian blob (samplesPlace words + (sample * words 2 + channel) * 8) 8).toUInt64,
    ?_, ?_, fun sample before => ?_⟩
  · rw [List.getElem?_map, List.getElem?_range (by omega), Option.map_some]
  · rw [List.length_map, List.length_range, countWord]
  · have inside : sample * channelCount.toNat + channel < samples.length := by
      rw [sampled]
      exact position_lt within before
    rw [List.getElem?_map, List.getElem?_range (by omega), Option.map_some, channelWord,
      Nat.mul_comm _ 8, sampleAt inside, List.getElem?_eq_getElem inside]
    simp

end Announced

/--
A blob is read back as it was built, by the client and by the accessors.

The length of the path and the number of samples have to fit the words of the header.
-/
theorem blob_restored {path : String} {samples : List UInt64}
    {channelCount sampleType chunkNumber : UInt32} {probes : List UInt32} {sampleCount : Nat}
    (positive : 0 < channelCount.toNat) (sampled : samples.length = channelCount.toNat * sampleCount)
    (some_ : 0 < sampleCount) (probed : probes = [] ∨ probes.length = channelCount.toNat)
    (short : (utf8 path).length < 2 ^ 32) (few : sampleCount < 2 ^ 32) :
    BlobRestored path samples channelCount sampleType chunkNumber probes sampleCount := by
  obtain ⟨blob, built⟩ : ∃ blob, DecodedSampleBlob.build path samples channelCount sampleType
      chunkNumber probes = blob := ⟨_, rfl⟩
  obtain ⟨words, announced⟩ : ∃ words,
      Announced blob words path samples channelCount sampleType chunkNumber probes sampleCount := by
    rw [← built]
    exact announced_build positive sampled probed short few
  refine ⟨fun buffer => ?_, ?_⟩
  · -- The client keeps the one chunk that the header announces.
    rw [built]
    unfold bufferSampleBlob
    rw [announced.parsed positive sampled some_]
    simp only [announced.pathAt, decodeUtf8_utf8]
    refine ⟨_, rfl, rfl, announced.typeWord, announced.chunkWord, announced.channelWord,
      announced.probeIndices probed, ?_, fun channel within => announced.row sampled within⟩
    rw [List.length_map, List.length_range, announced.channelWord]
  · -- The accessors go by the same words.
    rw [built]
    obtain ⟨read, -, -, -, -, -, probeWord, -, -, pathAt, sampleAt, probeAt⟩ := announced
    simp only
    refine ⟨?_, ?_, ?_, ?_⟩
    · rw [DecodedSampleBlob.entityPath, read, pathAt]
    · intro none_
      rw [DecodedSampleBlob.probeIndices, read, if_pos (probeWord.mpr none_)]
    · intro listed
      refine ⟨headerSize + words 0, ?_, fun i inside => ?_⟩
      · rw [DecodedSampleBlob.probeIndices, read, read, if_neg fun zero => listed (probeWord.mp zero)]
      · rw [probeAt inside, List.getElem?_eq_getElem inside, Option.map_some]
    · intro i inside
      rw [samples_of_words read, sampleAt inside, List.getElem?_eq_getElem inside, Option.map_some]

/-- A blob of two channels with two samples each. -/
theorem blob_restored_sample :
    (utf8 "A/0").length < 2 ^ 32 ∧ BlobRestored "A/0" [1, 2, 3, 4] 2 0 7 [5, 6] 2 :=
  ⟨by decide, blob_restored (by decide) (by decide) (by decide) (by decide) (by decide) (by decide)⟩

/-- What is read from so many bytes is less than the power of that width. -/
theorem readLittleEndian_lt (blob : List UInt8) (offset : Nat) : ∀ width,
    readLittleEndian blob offset width < 256 ^ width := by
  intro width
  -- One byte more multiplies the bound by 256.
  induction width with
  | zero => simp [readLittleEndian]
  | succ width ih =>
    unfold readLittleEndian at ih ⊢
    rw [List.range_succ, List.map_append, List.sum_append, Nat.pow_succ]
    have byte := (blob.getD (offset + width) 0).toNat_lt
    have high := Nat.mul_le_mul_right (256 ^ width) (Nat.lt_succ_iff.mp byte)
    simp only [List.map_cons, List.map_nil, List.sum_cons, List.sum_nil, Nat.add_zero]
    omega

/-- The client takes as many bytes for the path as the header says. -/
theorem length_entityPath_le {blob : List UInt8} {chunk : ChunkRecord UInt64}
    (parsed : parseSampleBlob blob = some chunk) :
    chunk.entityPath.length ≤ readLittleEndian blob 0 4 := by
  unfold parseSampleBlob at parsed
  -- The path is cut to the length that the header gives.
  simp only [Option.ite_none_left_eq_some, Option.some.injEq] at parsed
  obtain ⟨-, -, -, rfl⟩ := parsed
  simp

/-- A path of so many letters. -/
def letters (count : Nat) : String := String.ofList (List.replicate count 'a')

/-- Each letter takes one byte. -/
theorem length_letters (count : Nat) : (utf8 (letters count)).length = count := by
  have single : 'a'.utf8Size = 1 := rfl
  simp [utf8, letters, List.utf8Encode, single]

/-- A chunk that is buffered has a path whose length the header can tell. -/
theorem length_buffered_lt {blob : List UInt8} {path : String} {chunk : ChunkRecord UInt64}
    (buffered : bufferSampleBlob blob [] = [(path, chunk)]) :
    chunk.entityPath.length < 256 ^ 4 := by
  unfold bufferSampleBlob at buffered
  -- A blob that is parsed gives a path no longer than its first word says.
  split at buffered
  · simp at buffered
  · rename_i parsed
    split at buffered
    · simp at buffered
    · simp only [List.nil_append, List.cons.injEq, Prod.mk.injEq, and_true] at buffered
      obtain ⟨-, rfl⟩ := buffered
      exact lt_of_le_of_lt (length_entityPath_le parsed) (readLittleEndian_lt blob 0 4)

/-- The header cuts the length of an oversized path off, and the client reads another path. -/
theorem oversized_not_restored {count : Nat} (oversized : 256 ^ 4 ≤ count) :
    ¬ BlobRestored (letters count) [0] 1 0 0 [] 1 := by
  intro restored
  obtain ⟨chunk, buffered, same, -⟩ := restored.buffered []
  -- The first word cannot give the length of this path.
  have fits := length_buffered_lt buffered
  rw [same, length_letters] at fits
  exact absurd fits (not_lt.mpr oversized)

/-- A path of four gibibytes is not restored. -/
theorem oversized_path_lost : ¬ BlobRestored (letters (256 ^ 4)) [0] 1 0 0 [] 1 :=
  oversized_not_restored le_rfl

end BlobCodec
end Pybrid
