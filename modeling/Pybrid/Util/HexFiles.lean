import Pybrid.Library.Transition
import Pybrid.Util.Updater

/-! What `hex2bin` makes of a file: the records it consists of, and the places they write to. -/

namespace Pybrid

open Reading

namespace Updater

namespace HexRecord

/-- The record ends the file. -/
abbrev IsEof (r : HexRecord) : Prop := r.kind.toNat = hexKindEof

/-- The record selects an upper half of the addresses. -/
abbrev IsExtLinAddr (r : HexRecord) : Prop := r.kind.toNat = hexKindExtLinAddr

/-- The record has data to be written. -/
abbrev IsData (r : HexRecord) : Prop := r.kind.toNat = hexKindData

/-- The record tells the entry point, which nobody asks for. -/
abbrev IsStartLinAddr (r : HexRecord) : Prop := r.kind.toNat = hexKindStartLinAddr

/-- The record is one that may stand in front of the end of the file. -/
def Known (r : HexRecord) : Prop := r.IsExtLinAddr ∨ r.IsData ∨ r.IsStartLinAddr

instance (r : HexRecord) : Decidable r.Known := inferInstanceAs (Decidable (_ ∨ _ ∨ _))

end HexRecord

/-- The text starts with these records and the one that ends the file. -/
structure Listed (records : List HexRecord) (text : List UInt8) : Prop where
  running : ∀ r ∈ records, ¬ r.IsEof
  spelled : ∃ eof front rest, eof.IsEof ∧ Sequence HexRecord.Spaced (records ++ [eof]) front ∧
    text = front ++ rest

/-- Without other records a file starts with the one that ends it. -/
theorem listed_nil {text : List UInt8} : Listed [] text ↔
    ∃ eof word rest, eof.IsEof ∧ HexRecord.Spaced eof word ∧ text = word ++ rest := by
  -- Only the end-of-file record is left.
  constructor
  · rintro ⟨_, eof, front, rest, ends, spelled, rfl⟩
    exact ⟨eof, front, rest, ends, sequence_singleton.mp spelled, rfl⟩
  · rintro ⟨eof, word, rest, ends, spaced, rfl⟩
    exact ⟨fun _ none_ => (List.not_mem_nil none_).elim, eof, word, rest, ends,
      sequence_singleton.mpr spaced, rfl⟩

/-- A file starts with the first of its records, and the others are listed behind that. -/
theorem listed_cons {r : HexRecord} {later : List HexRecord} {text : List UInt8} :
    Listed (r :: later) text ↔
      ¬ r.IsEof ∧ ∃ word rest, HexRecord.Spaced r word ∧ text = word ++ rest ∧ Listed later rest := by
  -- The first record is followed by a listing of the others.
  constructor
  · rintro ⟨running, eof, _, behind, ends, ⟨word, front, spaced, spelled, rfl⟩, rfl⟩
    obtain ⟨here, others⟩ := List.forall_mem_cons.mp running
    exact ⟨here, word, front ++ behind, spaced, List.append_assoc _ _ _,
      others, eof, front, behind, ends, spelled, rfl⟩
  · rintro ⟨here, word, _, spaced, rfl, others, eof, front, behind, ends, spelled, rfl⟩
    exact ⟨List.forall_mem_cons.mpr ⟨here, others⟩, eof, word ++ front, behind, ends,
      ⟨word, front, spaced, spelled, rfl⟩, (List.append_assoc _ _ _).symm⟩

/-- The two bytes in front of the shared buffer, and the upper half in force. -/
structure Addressing where
  first : UInt8
  second : UInt8
  upper : ℕ

/-- An empty buffer, and no upper half yet. -/
def Addressing.start : Addressing := ⟨0, 0, 0⟩

/-- A record overwrites as much of the buffer as it has data, and an address is read from there. -/
def Addressing.after (a : Addressing) (r : HexRecord) : Addressing :=
  let first := r.data.getD 0 a.first
  let second := r.data.getD 1 a.second
  ⟨first, second, if r.IsExtLinAddr then first.toNat * 256 + second.toNat else a.upper⟩

/-- Where the data of the records is written to. -/
def writes (a : Addressing) : List HexRecord → Overlay.Writes UInt8
  | [] => []
  | r :: later =>
    if r.IsData then (a.upper * 65536 + r.addr.toNat, r.data) :: writes (a.after r) later
    else writes (a.after r) later

/-- The records are known, and all their data goes to the flash. -/
structure Accepted (records : List HexRecord) : Prop where
  known : ∀ r ∈ records, r.Known
  based : ∀ entry ∈ writes .start records, fwBaseAddr ≤ entry.1

/-- Storing is writing into a row of zeros. -/
theorem store_eq (result : List UInt8) (fullAddr : ℕ) (bytes : List UInt8) :
    store result fullAddr bytes = Overlay.write 0 result fullAddr bytes := by
  -- Both fill up as far as the bytes reach, and nothing where they end inside.
  simp only [store, Overlay.write]
  split
  · rfl
  · rename_i inside
    have enough : fullAddr + bytes.length - result.length = 0 := by omega
    simp only [enough, List.replicate_zero, List.append_nil]

/-- A sum of bytes is the remainder of their sum. -/
theorem toNat_sum (bytes : List UInt8) : bytes.sum.toNat = (bytes.map UInt8.toNat).sum % 256 := by
  -- The sum wraps at every step as it does at the end.
  induction bytes with
  | nil => rfl
  | cons byte later ih =>
    rw [List.sum_cons, List.map_cons, List.sum_cons, UInt8.toNat_add, ih]
    omega

/-- The loop over the buffer adds up the data of the record. -/
theorem foldl_byte (r : HexRecord) (buffer : Vector UInt8 256) (checksum : UInt8) (start : ℕ) :
    (List.range r.data.length).foldl (fun sum i => sum + (r.fields buffer checksum).byte i) start =
      start + (r.data.map UInt8.toNat).sum := by
  have added : ∀ (indices : List ℕ) (byte : ℕ → ℕ) (start : ℕ),
      indices.foldl (fun sum i => sum + byte i) start = start + (indices.map byte).sum := by
    intro indices byte
    induction indices with
    | nil => exact fun start => (Nat.add_zero start).symm
    | cons i later ih =>
      intro start
      rw [List.foldl_cons, ih, List.map_cons, List.sum_cons, Nat.add_assoc]
  -- The bytes that are summed are those just loaded.
  have read : (List.range r.data.length).map (r.fields buffer checksum).byte =
      r.data.map UInt8.toNat := by
    refine List.ext_getElem (by simp) fun i bound _ => ?_
    have inside : i < r.data.length := by simpa using bound
    simp only [List.getElem_map, List.getElem_range, HexFields.byte, HexRecord.fields,
      toList_loaded buffer r.short, List.getD_eq_getElem?_getD, List.getElem?_append_left inside,
      List.getElem?_eq_getElem inside, Option.getD_some]
  rw [added, read]

/-- The bytes of a record add up to zero exactly with the right checksum. -/
theorem recordSum_eq_zero_iff (r : HexRecord) (buffer : Vector UInt8 256) (checksum : UInt8) :
    (r.fields buffer checksum).recordSum &&& 0xFF = 0 ↔ checksum = r.checksum := by
  have masked : ∀ sum : ℕ, sum &&& 0xFF = sum % 256 :=
    fun sum => Nat.and_two_pow_sub_one_eq_mod sum 8
  -- The loop adds the fields, which are the bytes of the record in another order.
  have total : ((r.body ++ [checksum]).map UInt8.toNat).sum =
      (r.fields buffer checksum).recordSum := by
    have high : (UInt8.ofNat (r.addr.toNat / 256)).toNat = r.addr.toNat >>> 8 := by
      rw [r.toNat_high, Nat.shiftRight_eq_div_pow]
    have low : (UInt8.ofNat (r.addr.toNat % 256)).toNat = r.addr.toNat &&& 0xFF := by
      rw [r.toNat_low, masked]
    rw [HexFields.recordSum, HexRecord.body]
    simp only [List.map_append, List.sum_append, List.map_cons, List.map_nil, List.sum_cons,
      List.sum_nil, r.toNat_count, high, low]
    have data := foldl_byte r buffer checksum
      (r.data.length + (r.addr.toNat >>> 8) + (r.addr.toNat &&& 0xFF) + r.kind.toNat)
    simp only [HexRecord.fields] at data ⊢
    rw [data]
    omega
  have wrapped := toNat_sum (r.body ++ [checksum])
  rw [masked, ← total, ← wrapped, List.sum_append, List.sum_singleton, HexRecord.checksum]
  -- The sum wraps around in a byte, where the checksum is the negated sum of the others.
  rw [show (0 : ℕ) = (0 : UInt8).toNat from rfl, UInt8.toNat_inj, add_comm, add_eq_zero_iff_eq_neg]

namespace Hex2Bin

/-- The variables behind a record in front of the end of the file, unless that returns. -/
def next (s : Hex2Bin) (r : HexRecord) : Option Hex2Bin :=
  match s.effect (r.fields s.buffer r.checksum) with
  | .goesOn next => some next
  | .returns _ => none

end Hex2Bin

/-- Whitespace is skipped. -/
theorem hex2binFrom_blank (s : Hex2Bin) {blank : List UInt8} (text : List UInt8)
    (spaces : ∀ space ∈ blank, space ∈ hexWhitespace) :
    hex2binFrom s (blank ++ text) = hex2binFrom s text := by
  -- Each round of the loop takes one blank.
  induction blank with
  | nil => rfl
  | cons space later ih =>
    obtain ⟨here, others⟩ := List.forall_mem_cons.mp spaces
    rw [List.cons_append, hex2binFrom, if_pos here]
    exact ih others

/-- A record that is spelled correctly has its effect. -/
theorem hex2binFrom_spaced (s : Hex2Bin) {r : HexRecord} {word : List UInt8} (rest : List UInt8)
    (spelled : r.Spaced word) :
    hex2binFrom s (word ++ rest) =
      match s.effect (r.fields s.buffer r.checksum) with
      | .returns image => image
      | .goesOn next => hex2binFrom next rest := by
  obtain ⟨blank, _, spaces, ⟨digits, spelled, rfl⟩, rfl⟩ := spelled
  have colon : (0x3A : UInt8) ∉ hexWhitespace := by decide
  have read : (readFields s.buffer).run (digits ++ rest) =
      .ok (r.fields s.buffer r.checksum, rest) :=
    (readFields_exact s.buffer).complete ⟨r, r.checksum, rfl, spelled⟩ rest
  have right := (recordSum_eq_zero_iff r s.buffer r.checksum).mpr rfl
  rw [List.append_assoc, hex2binFrom_blank s _ spaces, List.cons_append, hex2binFrom, if_neg colon,
    if_neg (not_not.mpr rfl)]
  split
  · rename_i error raised
    rw [read] at raised
    cases raised
  · rename_i f behind found
    rw [read] at found
    cases found
    -- The checksum is right, so that the record takes effect.
    have handled : s.handle (r.fields s.buffer r.checksum) =
        s.effect (r.fields s.buffer r.checksum) := if_neg (not_not.mpr right)
    cases effect : s.effect (r.fields s.buffer r.checksum) with
    | returns image => simp only [handled, effect]
    | goesOn next => simp only [handled, effect]

/-- A file whose loop returns something starts with a record that is spelled correctly. -/
theorem spaced_of_hex2binFrom {s : Hex2Bin} {text : List UInt8} (returned : hex2binFrom s text ≠ []) :
    ∃ r word rest, HexRecord.Spaced r word ∧ word ≠ [] ∧ text = word ++ rest := by
  -- The induction is on the whitespace; what is neither that nor a colon returns nothing.
  induction text with
  | nil =>
    rw [hex2binFrom] at returned
    exact (returned rfl).elim
  | cons colon later ih =>
    rw [hex2binFrom] at returned
    by_cases space : colon ∈ hexWhitespace
    · rw [if_pos space] at returned
      obtain ⟨r, word, rest, ⟨blank, digits, spaces, spelled, rfl⟩, _, rfl⟩ := ih returned
      exact ⟨r, colon :: (blank ++ digits), rest, ⟨colon :: blank, digits,
        List.forall_mem_cons.mpr ⟨space, spaces⟩, spelled, rfl⟩, List.cons_ne_nil _ _, rfl⟩
    rw [if_neg space] at returned
    by_cases other : colon ≠ 0x3A
    · rw [if_pos other] at returned
      exact (returned rfl).elim
    rw [if_neg other] at returned
    obtain rfl := not_not.mp other
    split at returned
    · exact (returned rfl).elim
    · rename_i f behind read
      obtain ⟨digits, ⟨r, checksum, rfl, spelled⟩, rfl⟩ := (readFields_exact s.buffer).sound read
      -- With another checksum nothing would have been returned.
      by_cases right : checksum = r.checksum
      · subst right
        exact ⟨r, 0x3A :: digits, behind, ⟨[], 0x3A :: digits, fun _ none_ =>
          (List.not_mem_nil none_).elim, ⟨digits, spelled, rfl⟩, rfl⟩, List.cons_ne_nil _ _, rfl⟩
      · have wrong := mt (recordSum_eq_zero_iff r s.buffer checksum).mp right
        rw [Hex2Bin.handle, if_pos wrong] at returned
        exact (returned rfl).elim

/-- Only the record that ends the file returns an image. -/
theorem Hex2Bin.effect_cases (s : Hex2Bin) (r : HexRecord) (checksum : UInt8) :
    (r.IsEof ∧ s.effect (r.fields s.buffer checksum) = .returns s.result) ∨
      (¬ r.IsEof ∧ s.effect (r.fields s.buffer checksum) = .returns []) ∨
      ¬ r.IsEof ∧ ∃ next, s.effect (r.fields s.buffer checksum) = .goesOn next := by
  -- The kinds are tried in the order of the source.
  unfold Hex2Bin.effect
  split
  · exact .inl ⟨‹_›, rfl⟩
  rename_i other
  split
  · exact .inr (.inr ⟨other, _, rfl⟩)
  split
  · split
    · exact .inr (.inl ⟨other, rfl⟩)
    · exact .inr (.inr ⟨other, _, rfl⟩)
  split
  · exact .inr (.inr ⟨other, _, rfl⟩)
  · exact .inr (.inl ⟨other, rfl⟩)

/-- What is returned of a file is the result behind its records, unless one of them returns. -/
theorem hex2binFrom_listed {records : List HexRecord} {text : List UInt8}
    (listed : Listed records text) (s : Hex2Bin) :
    hex2binFrom s text = ((Transition.run Hex2Bin.next s records).map Hex2Bin.result).getD [] := by
  -- The induction is on the records, each of which leaves the others to the loop.
  induction records generalizing s text with
  | nil =>
    obtain ⟨eof, word, rest, ends, spaced, rfl⟩ := listed_nil.mp listed
    rw [hex2binFrom_spaced s rest spaced]
    obtain ⟨_, returns⟩ | ⟨other, _⟩ | ⟨other, _⟩ := s.effect_cases eof eof.checksum
    · rw [returns]
      rfl
    · exact (other ends).elim
    · exact (other ends).elim
  | cons r later ih =>
    obtain ⟨here, word, rest, spaced, rfl, others⟩ := listed_cons.mp listed
    rw [hex2binFrom_spaced s rest spaced, Transition.run, Hex2Bin.next]
    obtain ⟨stops, _⟩ | ⟨_, returns⟩ | ⟨_, next, goesOn⟩ := s.effect_cases r r.checksum
    · exact (here stops).elim
    · rw [returns]
      rfl
    · rw [goesOn]
      exact ih others next

/-- A file from which something is returned consists of records up to the one that ends it. -/
theorem listed_of_hex2binFrom (s : Hex2Bin) (text : List UInt8) (returned : hex2binFrom s text ≠ []) :
    ∃ records, Listed records text := by
  -- The induction is on what is left of the file, which every record shortens.
  induction measure : text.length using Nat.strongRecOn generalizing s text with
  | ind bound ih =>
    subst measure
    obtain ⟨r, word, rest, spaced, some_, rfl⟩ := spaced_of_hex2binFrom returned
    have shorter : rest.length < (word ++ rest).length := by
      rw [List.length_append]
      have := List.length_pos_of_ne_nil some_
      omega
    rw [hex2binFrom_spaced s rest spaced] at returned
    obtain ⟨ends, _⟩ | ⟨_, returns⟩ | ⟨other, next, goesOn⟩ := s.effect_cases r r.checksum
    · exact ⟨[], listed_nil.mpr ⟨r, word, rest, ends, spaced, rfl⟩⟩
    · rw [returns] at returned
      exact (returned rfl).elim
    · rw [goesOn] at returned
      obtain ⟨records, others⟩ := ih _ shorter next rest returned rfl
      exact ⟨r :: records, listed_cons.mpr ⟨other, word, rest, spaced, rfl, others⟩⟩

/-- The variables of the loop are at these bytes and this upper half. -/
structure Addressing.Tracks (a : Addressing) (s : Hex2Bin) : Prop where
  first : s.buffer.toList.getD 0 0 = a.first
  second : s.buffer.toList.getD 1 0 = a.second
  upper : s.currentAddr = a.upper * 65536

/-- A byte of the buffer is that of the record, or the one that was there before. -/
theorem getD_loaded (buffer : Vector UInt8 256) (r : HexRecord) (i : ℕ) :
    (loaded buffer r.data).toList.getD i 0 = r.data.getD i (buffer.toList.getD i 0) := by
  -- The data lies in front, and behind it the buffer is as before.
  rw [toList_loaded buffer r.short]
  simp only [List.getD_eq_getElem?_getD, List.getElem?_append]
  split
  · rename_i inside
    rw [List.getElem?_eq_getElem inside, Option.getD_some, Option.getD_some]
  · rename_i behind
    rw [List.getElem?_drop, List.getElem?_eq_none (Nat.le_of_not_lt behind), Option.getD_none]
    congr 2
    omega

/-- The address that the two bytes in front of the buffer select. -/
theorem shifted_eq (first second : UInt8) :
    ((first.toNat <<< 8) ||| second.toNat) <<< 16 = (first.toNat * 256 + second.toNat) * 65536 := by
  have joined := Nat.two_pow_add_eq_or_of_lt (show second.toNat < 2 ^ 8 from second.toNat_lt) first.toNat
  rw [Nat.shiftLeft_eq, Nat.shiftLeft_eq, Nat.mul_comm first.toNat, ← joined]

/-- The kinds of records are different. -/
theorem HexRecord.kinds_apart (r : HexRecord) :
    (r.IsExtLinAddr → ¬ r.IsData) ∧ (r.IsExtLinAddr → ¬ r.IsStartLinAddr) ∧
      (r.IsData → ¬ r.IsStartLinAddr) ∧ (r.Known → ¬ r.IsEof) := by
  -- The kinds are different numbers.
  simp only [HexRecord.Known, HexRecord.IsExtLinAddr, HexRecord.IsData, HexRecord.IsStartLinAddr,
    HexRecord.IsEof, hexKindExtLinAddr, hexKindData, hexKindStartLinAddr, hexKindEof]
  omega

/-- What a record does, by its kind, in terms of its own data and what it does not overwrite. -/
theorem Hex2Bin.effect_eq (s : Hex2Bin) (r : HexRecord) :
    s.effect (r.fields s.buffer r.checksum) =
      if r.IsEof then .returns s.result
      else if r.IsExtLinAddr then
        .goesOn { s with
          buffer := loaded s.buffer r.data
          currentAddr := ((r.data.getD 0 (s.buffer.toList.getD 0 0)).toNat * 256 +
            (r.data.getD 1 (s.buffer.toList.getD 1 0)).toNat) * 65536 }
      else if r.IsData then
        if s.currentAddr < fwBaseAddr then .returns []
        else
          .goesOn { s with
            buffer := loaded s.buffer r.data
            result := Overlay.write 0 s.result (s.currentAddr + r.addr.toNat - fwBaseAddr) r.data }
      else if r.IsStartLinAddr then .goesOn { s with buffer := loaded s.buffer r.data }
      else .returns [] := by
  have kind : (r.fields s.buffer r.checksum).kind = r.kind.toNat := rfl
  -- The data are read back from the buffer they were loaded into.
  have data : ((r.fields s.buffer r.checksum).buffer.toList.take
      (r.fields s.buffer r.checksum).bytesCount) = r.data := by
    show (loaded s.buffer r.data).toList.take r.data.length = r.data
    rw [toList_loaded s.buffer r.short, List.take_left]
  -- A byte behind the data is what an earlier record has left there.
  have byte : ∀ i, (r.fields s.buffer r.checksum).byte i =
      (r.data.getD i (s.buffer.toList.getD i 0)).toNat := fun i => by
    rw [← getD_loaded]
    rfl
  rw [Hex2Bin.effect, kind, data, byte, byte, shifted_eq, store_eq]
  rfl

/-- What a record in front of the end of the file leaves, by its kind. -/
theorem Hex2Bin.next_eq (s : Hex2Bin) (r : HexRecord) : s.next r =
    if r.IsExtLinAddr then
      some { s with
        buffer := loaded s.buffer r.data
        currentAddr := ((r.data.getD 0 (s.buffer.toList.getD 0 0)).toNat * 256 +
          (r.data.getD 1 (s.buffer.toList.getD 1 0)).toNat) * 65536 }
    else if r.IsData ∧ fwBaseAddr ≤ s.currentAddr then
      some { s with
        buffer := loaded s.buffer r.data
        result := Overlay.write 0 s.result (s.currentAddr + r.addr.toNat - fwBaseAddr) r.data }
    else if r.IsStartLinAddr then some { s with buffer := loaded s.buffer r.data }
    else none := by
  rw [Hex2Bin.next, Hex2Bin.effect_eq]
  -- The kinds are told apart in the order of the source.
  by_cases ends : r.IsEof
  · have unknown : ¬ r.Known := fun known => r.kinds_apart.2.2.2 known ends
    rw [if_pos ends, if_neg fun selects => unknown (.inl selects),
      if_neg fun both : r.IsData ∧ _ => unknown (.inr (.inl both.1)),
      if_neg fun starts => unknown (.inr (.inr starts))]
  rw [if_neg ends]
  by_cases selects : r.IsExtLinAddr
  · rw [if_pos selects, if_pos selects]
  rw [if_neg selects, if_neg selects]
  by_cases stores : r.IsData
  · rw [if_pos stores]
    by_cases below : s.currentAddr < fwBaseAddr
    · rw [if_pos below, if_neg fun both : r.IsData ∧ _ => absurd both.2 (Nat.not_le.mpr below),
        if_neg (r.kinds_apart.2.2.1 stores)]
    · rw [if_neg below, if_pos ⟨stores, Nat.not_lt.mp below⟩]
  rw [if_neg stores, if_neg fun both : r.IsData ∧ _ => stores both.1]
  by_cases starts : r.IsStartLinAddr
  · rw [if_pos starts, if_pos starts]
  · rw [if_neg starts, if_neg starts]

/-- The loop goes on behind a known record, if its data goes to the flash. -/
theorem Addressing.Tracks.next_isSome {a : Addressing} {s : Hex2Bin} (tracks : a.Tracks s)
    (r : HexRecord) : (s.next r).isSome ↔ r.Known ∧ (r.IsData → fwBaseAddr ≤ a.upper * 65536) := by
  obtain ⟨selects, _, starts, _⟩ := r.kinds_apart
  rw [Hex2Bin.next_eq, tracks.upper, HexRecord.Known]
  -- The kinds are asked for in the order of the code.
  by_cases extends_ : r.IsExtLinAddr
  · rw [if_pos extends_]
    exact iff_of_true rfl ⟨.inl extends_, fun stores => (selects extends_ stores).elim⟩
  rw [if_neg extends_]
  by_cases stores : r.IsData
  · by_cases based : fwBaseAddr ≤ a.upper * 65536
    · rw [if_pos ⟨stores, based⟩]
      exact iff_of_true rfl ⟨.inr (.inl stores), fun _ => based⟩
    · rw [if_neg fun both => based both.2, if_neg (starts stores)]
      exact iff_of_false Bool.false_ne_true fun both => based (both.2 stores)
  rw [if_neg fun both => stores both.1]
  by_cases skips : r.IsStartLinAddr
  · rw [if_pos skips]
    exact iff_of_true rfl ⟨.inr (.inr skips), fun stores' => (stores stores').elim⟩
  · rw [if_neg skips]
    refine iff_of_false Bool.false_ne_true fun both => ?_
    exact both.1.elim extends_ fun later => later.elim stores skips

/-- What a record leaves that goes on: the bytes in front of the buffer, and its data if it has any. -/
theorem Addressing.Tracks.next {a : Addressing} {s s' : Hex2Bin} (tracks : a.Tracks s) {r : HexRecord}
    (stepped : s.next r = some s') :
    (a.after r).Tracks s' ∧ s'.result = if r.IsData then
        Overlay.write 0 s.result (a.upper * 65536 + r.addr.toNat - fwBaseAddr) r.data
      else s.result := by
  obtain ⟨first, second, upper⟩ := tracks
  obtain ⟨selects, _, starts, _⟩ := r.kinds_apart
  -- The first two bytes of the buffer are tracked whatever the record is.
  have buffered : ∀ s' : Hex2Bin, s'.buffer = loaded s.buffer r.data →
      s'.buffer.toList.getD 0 0 = (a.after r).first ∧
        s'.buffer.toList.getD 1 0 = (a.after r).second := by
    intro s' same
    rw [same, getD_loaded, getD_loaded, first, second]
    exact ⟨rfl, rfl⟩
  rw [Hex2Bin.next_eq] at stepped
  split at stepped
  · rename_i extends_
    cases stepped
    rw [if_neg (selects extends_)]
    refine ⟨⟨(buffered _ rfl).1, (buffered _ rfl).2, ?_⟩, rfl⟩
    simp only [Addressing.after, if_pos extends_, first, second]
  rename_i keeps
  have same : (a.after r).upper = a.upper := if_neg keeps
  split at stepped
  · rename_i stores
    obtain rfl := Option.some.inj stepped
    rw [if_pos stores.1, upper]
    exact ⟨⟨(buffered _ rfl).1, (buffered _ rfl).2, by rw [same]⟩, rfl⟩
  split at stepped
  · rename_i skips
    cases stepped
    rw [if_neg fun stores => starts stores skips]
    refine ⟨⟨(buffered _ rfl).1, (buffered _ rfl).2, ?_⟩, rfl⟩
    rw [same]
    exact upper
  · cases stepped

/-- The row behind a run is the one before it with the data of the records written over it. -/
theorem Addressing.Tracks.run {a : Addressing} {s s' : Hex2Bin} (tracks : a.Tracks s)
    {records : List HexRecord} (ran : Transition.run Hex2Bin.next s records = some s') :
    s'.result = (Overlay.rebase fwBaseAddr (writes a records)).foldl
      (fun row entry => Overlay.write 0 row entry.1 entry.2) s.result := by
  -- The induction is on the records; the addressing and the variables take the same steps.
  induction records generalizing a s with
  | nil =>
    cases ran
    rfl
  | cons r later ih =>
    obtain ⟨middle, stepped, rest⟩ := Option.bind_eq_some_iff.mp ran
    obtain ⟨after, stored⟩ := tracks.next stepped
    rw [ih after rest, stored, writes]
    split
    · rw [Overlay.rebase, Overlay.rebase, List.map_cons, List.foldl_cons]
    · rfl

/-- A run goes through exactly if its records are known, and their data goes to the flash. -/
theorem Addressing.Tracks.run_isSome {a : Addressing} {s : Hex2Bin} (tracks : a.Tracks s)
    (records : List HexRecord) : (Transition.run Hex2Bin.next s records).isSome ↔
      (∀ r ∈ records, r.Known) ∧ ∀ entry ∈ writes a records, fwBaseAddr ≤ entry.1 := by
  induction records generalizing a s with
  | nil => simp [writes]
  | cons r later ih =>
    have steps := tracks.next_isSome r
    rw [Transition.run, List.forall_mem_cons, writes]
    -- The base is at a boundary of the upper half, so that the place in it does not matter.
    have boundary : fwBaseAddr ≤ a.upper * 65536 ↔ fwBaseAddr ≤ a.upper * 65536 + r.addr.toNat := by
      have := r.addr.toNat_lt
      simp only [fwBaseAddr]
      omega
    cases stepped : s.next r with
    | none =>
      rw [stepped] at steps
      simp only [Option.bind_none, Option.isSome_none, Bool.false_eq_true, false_iff] at steps ⊢
      rintro ⟨⟨known, _⟩, based⟩
      refine steps ⟨known, fun stores => boundary.mpr ?_⟩
      rw [if_pos stores] at based
      exact based _ List.mem_cons_self
    | some middle =>
      have enabled := steps.mp (by rw [stepped]; rfl)
      rw [Option.bind_some, ih (tracks.next stepped).1]
      split
      · rename_i stores
        rw [List.forall_mem_cons]
        exact ⟨fun both => ⟨⟨enabled.1, both.1⟩, boundary.mp (enabled.2 stores), both.2⟩,
          fun both => ⟨both.1.2, both.2.2⟩⟩
      · exact ⟨fun both => ⟨⟨enabled.1, both.1⟩, both.2⟩, fun both => ⟨both.1.2, both.2⟩⟩

/-- The image of a file is what its records write, if they are accepted, and nothing otherwise. -/
theorem hex2bin_eq {records : List HexRecord} {text : List UInt8} (listed : Listed records text) :
    (Accepted records → hex2bin text =
      Overlay.cells 0 (Overlay.rebase fwBaseAddr (writes .start records))) ∧
    (¬ Accepted records → hex2bin text = []) := by
  have tracks : Addressing.start.Tracks ⟨[], Vector.replicate 256 0, 0⟩ := ⟨rfl, rfl, rfl⟩
  have through := tracks.run_isSome records
  rw [hex2bin, hex2binFrom_listed listed]
  constructor
  · -- The run goes through, and the row starts empty.
    rintro ⟨known, based⟩
    obtain ⟨final, ran⟩ := Option.isSome_iff_exists.mp (through.mpr ⟨known, based⟩)
    rw [ran, Option.map_some, Option.getD_some, tracks.run ran, Overlay.cells]
  · -- The run stops at a record that returns nothing.
    intro refused
    have stopped : Transition.run Hex2Bin.next ⟨[], Vector.replicate 256 0, 0⟩ records = none := by
      rw [← Option.not_isSome_iff_eq_none, through]
      exact fun both => refused ⟨both.1, both.2⟩
    rw [stopped]
    rfl

/-- A file has an image exactly if it consists of accepted records, and one of them reaches somewhere. -/
theorem hex2bin_ne_nil_iff (text : List UInt8) : hex2bin text ≠ [] ↔
    ∃ records, Listed records text ∧ Accepted records ∧
      fwBaseAddr < Overlay.furthest (writes .start records) := by
  -- The image has a byte if some record reaches beyond its base.
  have reaches : ∀ {records : List HexRecord}, Accepted records →
      (Overlay.cells 0 (Overlay.rebase fwBaseAddr (writes .start records)) ≠ [] ↔
        fwBaseAddr < Overlay.furthest (writes .start records)) := by
    intro records accepted
    rw [← List.length_pos_iff, Overlay.length_cells, Overlay.furthest_rebase accepted.based]
    omega
  constructor
  · intro some_
    obtain ⟨records, listed⟩ := listed_of_hex2binFrom _ text some_
    have accepted : Accepted records := by
      by_contra refused
      exact some_ ((hex2bin_eq listed).2 refused)
    rw [(hex2bin_eq listed).1 accepted] at some_
    exact ⟨records, listed, accepted, (reaches accepted).mp some_⟩
  · rintro ⟨records, listed, accepted, reached⟩
    rw [(hex2bin_eq listed).1 accepted]
    exact (reaches accepted).mpr reached

/-- What is known of a record tells which it is. -/
theorem HexRecord.fields_injective {r other : HexRecord} {buffer : Vector UInt8 256}
    {checksum checksum' : UInt8} (same : r.fields buffer checksum = other.fields buffer checksum') :
    r = other := by
  -- The count tells how much of the buffer is data.
  simp only [HexRecord.fields, HexFields.mk.injEq] at same
  obtain ⟨count, place, kind, overwritten, _⟩ := same
  refine HexRecord.ext (UInt16.toNat_inj.mp place) (UInt8.toNat_inj.mp kind) ?_
  have front := congrArg (fun buffer => buffer.toList.take r.data.length) overwritten
  simp only [toList_loaded buffer r.short, toList_loaded buffer other.short, List.take_left] at front
  rwa [count, List.take_left] at front

/-- A text starts with one record at most. -/
theorem HexRecord.spaced_unambiguous {r other : HexRecord} {word word' rest rest' : List UInt8}
    (spaced : r.Spaced word) (spaced' : other.Spaced word') (same : word ++ rest = word' ++ rest') :
    r = other ∧ rest = rest' := by
  obtain ⟨blank, _, spaces, ⟨digits, spelled, rfl⟩, rfl⟩ := spaced
  obtain ⟨blank', _, spaces', ⟨digits', spelled', rfl⟩, rfl⟩ := spaced'
  -- The whitespace ends at the colon, which is none.
  have trimmed : ∀ {blank : List UInt8} (behind : List UInt8),
      (∀ space ∈ blank, space ∈ hexWhitespace) →
      (blank ++ 0x3A :: behind).dropWhile (· ∈ hexWhitespace) = 0x3A :: behind := by
    intro blank behind spaces
    rw [List.dropWhile_append_of_pos fun space member => decide_eq_true (spaces space member)]
    rfl
  have digits_ := congrArg (List.dropWhile (· ∈ hexWhitespace)) same
  simp only [List.append_assoc, List.cons_append, trimmed _ spaces, trimmed _ spaces',
    List.cons.injEq, true_and] at digits_
  obtain ⟨fields, behind⟩ := (readFields_exact (Vector.replicate 256 0)).unambiguous
    ⟨r, r.checksum, rfl, spelled⟩ ⟨other, other.checksum, rfl, spelled'⟩ digits_
  exact ⟨HexRecord.fields_injective fields, behind⟩

/-- The records of a file are determined by its text. -/
theorem Listed.unique {records others : List HexRecord} {text : List UInt8}
    (listed : Listed records text) (listed' : Listed others text) : records = others := by
  -- The first records are the same, and so are the texts behind them.
  induction records generalizing others text with
  | nil =>
    obtain ⟨eof, word, rest, ends, spaced, same⟩ := listed_nil.mp listed
    cases others with
    | nil => rfl
    | cons other later =>
      obtain ⟨running, word', rest', spaced', same', _⟩ := listed_cons.mp listed'
      obtain ⟨rfl, _⟩ := HexRecord.spaced_unambiguous spaced spaced' (same.symm.trans same')
      exact (running ends).elim
  | cons r later ih =>
    obtain ⟨running, word, rest, spaced, same, behind⟩ := listed_cons.mp listed
    cases others with
    | nil =>
      obtain ⟨eof, word', rest', ends, spaced', same'⟩ := listed_nil.mp listed'
      obtain ⟨rfl, _⟩ := HexRecord.spaced_unambiguous spaced spaced' (same.symm.trans same')
      exact (running ends).elim
    | cons other later' =>
      obtain ⟨_, word', rest', spaced', same', behind'⟩ := listed_cons.mp listed'
      obtain ⟨rfl, rfl⟩ := HexRecord.spaced_unambiguous spaced spaced' (same.symm.trans same')
      rw [ih behind behind']

end Updater

end Pybrid
