import Pybrid.Native.Varint

/-! What a varint is: its size, its round trip, and the values that do not fit a word. -/

namespace Pybrid

/-- The loop of `varint_size`, which counts the groups behind the first one. -/
def varintSizeFrom (size : Nat) (value : UInt64) : Nat :=
  if 0x80 ≤ value then varintSizeFrom (size + 1) (value >>> 7) else size
termination_by value.toNat
decreasing_by
  rename_i large
  have large : 128 ≤ value.toNat := by simpa [UInt64.le_iff_toNat_le] using large
  rw [toNat_shiftRight_seven]
  omega

/-- The number of bytes needed to encode a value. -/
def varintSize (value : UInt64) : Nat := varintSizeFrom 1 value

/-- Counting goes on from where it starts. -/
theorem varintSizeFrom_eq (value : UInt64) :
    ∀ size, varintSizeFrom (size + 1) value = size + (encodeVarint value).length := by
  -- The counter and the encoder take the same rounds.
  induction measure : value.toNat using Nat.strongRecOn generalizing value with
  | ind bound ih =>
    subst measure
    intro size
    rw [varintSizeFrom, encodeVarint_eq]
    by_cases large : 128 ≤ value.toNat
    · have reached : (0x80 : UInt64) ≤ value := by simpa [UInt64.le_iff_toNat_le] using large
      rw [if_pos reached, if_pos large, List.length_cons,
        ih (value.toNat / 128) (by omega) (value >>> 7) (toNat_shiftRight_seven value)]
      omega
    · have short : ¬ (0x80 : UInt64) ≤ value := by simpa [UInt64.le_iff_toNat_le] using large
      rw [if_neg short, if_neg large, List.length_singleton]

/-- The size is the number of bytes that are written. -/
theorem varintSize_eq (value : UInt64) : varintSize value = (encodeVarint value).length := by
  rw [varintSize, varintSizeFrom_eq value 0, Nat.zero_add]

/-- No value takes more than ten bytes. -/
theorem encodeVarint_length_le_ten (value : UInt64) : (encodeVarint value).length ≤ 10 := by
  refine encodeVarint_length_le 9 value (lt_trans value.toNat_lt ?_)
  norm_num

/--
A value is decoded from its bytes, whatever comes behind them, and from no part of them.

As many bytes are written as the size says, from one to ten.
-/
theorem varint_round_trip (value : UInt64) (rest : List UInt8) :
    decodeVarint (encodeVarint value ++ rest) = ((encodeVarint value).length, value) ∧
      varintSize value = (encodeVarint value).length ∧
      1 ≤ varintSize value ∧ varintSize value ≤ 10 ∧
      ∀ front, front <+: encodeVarint value → front ≠ encodeVarint value →
        (decodeVarint front).1 = 0 := by
  refine ⟨decodeVarint_encodeVarint value rest, varintSize_eq value, ?_, ?_, ?_⟩
  · rw [varintSize_eq]
    exact List.length_pos_of_ne_nil (encodeVarint_ne_nil value)
  · rw [varintSize_eq]
    exact encodeVarint_length_le_ten value
  · rintro front ⟨missing, spelled⟩ strict
    -- A front that is not the whole leaves bytes missing.
    refine decodeVarint_strict_prefix spelled.symm fun none_ => ?_
    rw [none_, List.append_nil] at spelled
    exact strict spelled

/-- The number that the groups of some bytes stand for, the lowest group first. -/
def groupsValue (bytes : List UInt8) : ℕ := Nat.ofDigits 128 (bytes.map fun byte => byte.toNat % 128)

/-- A whole varint: only its last byte has a clear continuation bit. -/
def CompleteVarint : List UInt8 → Prop
  | [] => False
  | byte :: later => (byte &&& 0x80 = 0 ∧ later = []) ∨ (byte &&& 0x80 ≠ 0 ∧ CompleteVarint later)

/--
What is decoded is exact, and what does not fit is rejected.

The value of a sequence is that of the varint it starts with.
-/
def OverflowRejected (bytes : List UInt8) : Prop :=
  ((decodeVarint bytes).1 ≠ 0 →
    groupsValue (bytes.take (decodeVarint bytes).1) < 2 ^ 64 ∧
      groupsValue (bytes.take (decodeVarint bytes).1) = (decodeVarint bytes).2.toNat) ∧
  ∀ word, word <+: bytes → CompleteVarint word → 2 ^ 64 ≤ groupsValue word →
    (decodeVarint bytes).1 = 0

/-- A tenth byte that closes a value has no bit but the lowest. -/
def TenthFits (bytes : List UInt8) : Prop :=
  ∀ tenth, (∀ byte ∈ bytes.take 9, byte &&& 0x80 ≠ 0) → bytes[9]? = some tenth →
    tenth &&& 0x80 = 0 → tenth.toNat ≤ 1

@[simp] theorem groupsValue_nil : groupsValue [] = 0 := rfl

@[simp] theorem groupsValue_cons (byte : UInt8) (later : List UInt8) :
    groupsValue (byte :: later) = byte.toNat % 128 + 128 * groupsValue later := by
  rw [groupsValue, List.map_cons, Nat.ofDigits_cons]
  rfl

/-- The groups of so many bytes stay below that power. -/
theorem groupsValue_lt (bytes : List UInt8) : groupsValue bytes < 128 ^ bytes.length := by
  induction bytes with
  | nil => decide
  | cons byte later ih =>
    -- A group adds one digit to the base 128.
    rw [groupsValue_cons, List.length_cons, pow_succ]
    omega

/-- The groups of two parts, one behind the other. -/
theorem groupsValue_append (front back : List UInt8) :
    groupsValue (front ++ back) = groupsValue front + 128 ^ front.length * groupsValue back := by
  rw [groupsValue, List.map_append, Nat.ofDigits_append, List.length_map]
  rfl

/-- A byte with a clear continuation bit is its own group. -/
theorem toNat_lt_of_clear {byte : UInt8} (clear : byte &&& 0x80 = 0) : byte.toNat < 128 := by
  -- A byte from 128 on has its high bit set.
  by_contra large
  obtain ⟨group, same⟩ : ∃ group, byte.toNat = group + 128 := ⟨byte.toNat - 128, by omega⟩
  have small : group < 128 := by
    have := byte.toNat_lt
    omega
  refine continuation_set small ?_
  rw [← same, UInt8.ofNat_toNat]
  exact clear

/-- Joining a group adds it at its weight, as far as the word reaches. -/
theorem toNat_or_group {i : Nat} {out : UInt64} (byte : UInt8) (position : i < maxVarintSize)
    (below : out.toNat < 128 ^ i) :
    (out ||| ((byte &&& 0x7F).toUInt64 <<< UInt64.ofNat (7 * i))).toNat =
      (out.toNat + byte.toNat % 128 * 128 ^ i) % 2 ^ 64 := by
  -- The new group lies above the bits collected so far.
  have joined := toNat_or_shiftLeft_cut (byte &&& 0x7F).toUInt64 position below
  have inside := (out ||| ((byte &&& 0x7F).toUInt64 <<< UInt64.ofNat (7 * i))).toNat_lt
  rw [joined, toNat_group] at inside
  rw [joined, toNat_group, ← Nat.add_mod_mod, Nat.mod_eq_of_lt inside]

/-- A whole varint is decoded to its value, cut to a word. -/
theorem decodeVarintFrom_complete {word : List UInt8} (rest : List UInt8) :
    ∀ i out, CompleteVarint word → i + word.length ≤ maxVarintSize → out.toNat < 128 ^ i →
      (decodeVarintFrom i out (word ++ rest)).1 = i + word.length ∧
      (decodeVarintFrom i out (word ++ rest)).2.toNat =
        (out.toNat + groupsValue word * 128 ^ i) % 2 ^ 64 := by
  -- The induction is on the bytes; the loop's weight grows with each of them.
  induction word with
  | nil => exact fun _ _ complete => complete.elim
  | cons byte later ih =>
    intro i out complete admitted below
    rw [List.length_cons] at admitted
    have position : i < maxVarintSize := by omega
    have joined := toNat_or_group byte position below
    rw [List.cons_append, decodeVarintFrom, if_pos position]
    rcases complete with ⟨closed, rfl⟩ | ⟨open_, complete⟩
    · simp only [if_pos closed, joined, groupsValue_cons, groupsValue_nil, List.length_singleton,
        Nat.mul_zero, Nat.add_zero, and_self]
    · rw [if_neg open_]
      have longer : 1 ≤ later.length := by
        cases later with
        | nil => exact complete.elim
        | cons _ _ => simp
      -- More bytes follow, so that this group is not the one that is cut.
      have ninth : (128 : Nat) ^ (i + 1) ≤ 2 ^ 63 := by
        have bound : i + 1 ≤ 9 := by simp only [maxVarintSize] at admitted; omega
        calc (128 : Nat) ^ (i + 1) ≤ 128 ^ 9 := Nat.pow_le_pow_right (by norm_num) bound
          _ = 2 ^ 63 := by norm_num
      have next : out.toNat + byte.toNat % 128 * 128 ^ i < 128 ^ (i + 1) := by
        have group : byte.toNat % 128 + 1 ≤ 128 := Nat.mod_lt _ (by norm_num)
        calc out.toNat + byte.toNat % 128 * 128 ^ i
            < 128 ^ i + byte.toNat % 128 * 128 ^ i := by omega
          _ = (byte.toNat % 128 + 1) * 128 ^ i := by ring
          _ ≤ 128 * 128 ^ i := Nat.mul_le_mul_right _ group
          _ = 128 ^ (i + 1) := by ring
      rw [Nat.mod_eq_of_lt (by omega)] at joined
      have behind := ih (i + 1) _ complete (by omega) (by rw [joined]; exact next)
      rw [joined] at behind
      refine ⟨by rw [behind.1, List.length_cons]; omega, ?_⟩
      rw [behind.2, groupsValue_cons]
      congr 1
      ring

/-- What is decoded was a whole varint. -/
theorem complete_of_decodeVarintFrom {bytes : List UInt8} :
    ∀ i out, (decodeVarintFrom i out bytes).1 ≠ 0 →
      ∃ word, word <+: bytes ∧ CompleteVarint word ∧
        (decodeVarintFrom i out bytes).1 = i + word.length := by
  -- The loop ends with a count at the first byte whose continuation bit is clear.
  induction bytes with
  | nil => exact fun _ _ consumed => (consumed rfl).elim
  | cons byte later ih =>
    intro i out consumed
    unfold decodeVarintFrom at consumed ⊢
    split at consumed
    case isFalse => exact (consumed rfl).elim
    case isTrue position =>
      simp only [if_pos position] at consumed ⊢
      by_cases closed : byte &&& 0x80 = 0
      · refine ⟨[byte], List.prefix_append [byte] later, .inl ⟨closed, rfl⟩, ?_⟩
        simp only [if_pos closed, List.length_singleton]
      · rw [if_neg closed] at consumed ⊢
        obtain ⟨word, ⟨rest, rfl⟩, complete, count⟩ := ih _ _ consumed
        refine ⟨byte :: word, ⟨rest, rfl⟩, .inr ⟨closed, complete⟩, ?_⟩
        rw [count, List.length_cons]
        omega

/-- A whole varint is made of bytes that continue and one that does not. -/
theorem CompleteVarint.split {word : List UInt8} (complete : CompleteVarint word) :
    ∃ init last, word = init ++ [last] ∧ last &&& 0x80 = 0 ∧
      ∀ byte ∈ init, byte &&& 0x80 ≠ 0 := by
  -- The last byte is the first one whose high bit is clear.
  induction word with
  | nil => exact complete.elim
  | cons byte later ih =>
    rcases complete with ⟨closed, rfl⟩ | ⟨open_, complete⟩
    · exact ⟨[], byte, rfl, closed, fun _ none_ => (List.not_mem_nil none_).elim⟩
    · obtain ⟨init, last, rfl, closed, continued⟩ := ih complete
      exact ⟨byte :: init, last, rfl, closed, List.forall_mem_cons.mpr ⟨open_, continued⟩⟩

/-- Nothing can be added to a whole varint. -/
theorem CompleteVarint.append_eq_nil {word more : List UInt8} (complete : CompleteVarint word)
    (longer : CompleteVarint (word ++ more)) : more = [] := by
  -- No complete value is a proper beginning of another one.
  induction word with
  | nil => exact complete.elim
  | cons byte later ih =>
    rcases complete with ⟨closed, rfl⟩ | ⟨open_, complete⟩
    · exact (longer.resolve_right fun other => other.1 closed).2
    · exact ih complete (longer.resolve_left fun other => open_ other.1).2

/-- A sequence starts with one whole varint at most. -/
theorem CompleteVarint.unique {word other bytes : List UInt8} (complete : CompleteVarint word)
    (complete' : CompleteVarint other) (start : word <+: bytes) (start' : other <+: bytes) :
    word = other := by
  -- Of two parts in front one is part of the other, and nothing comes behind a whole varint.
  rcases List.prefix_or_prefix_of_prefix start start' with ⟨more, rfl⟩ | ⟨more, rfl⟩
  · rw [complete.append_eq_nil complete', List.append_nil]
  · rw [complete'.append_eq_nil complete, List.append_nil]

/-- The value of a whole varint fits a word exactly where its tenth byte fits. -/
theorem CompleteVarint.fits_iff {word bytes : List UInt8} (complete : CompleteVarint word)
    (start : word <+: bytes) (admitted : word.length ≤ 10) :
    groupsValue word < 2 ^ 64 ↔ TenthFits bytes := by
  obtain ⟨init, last, rfl, closed, continued⟩ := complete.split
  obtain ⟨rest, rfl⟩ := start
  rw [List.length_append, List.length_singleton] at admitted
  rw [List.append_assoc, List.singleton_append]
  have value := groupsValue_lt (init ++ [last])
  rw [List.length_append, List.length_singleton] at value
  by_cases short : init.length < 9
  · -- Nine groups fit, and one of the first nine bytes closes the value.
    have bound : (128 : Nat) ^ (init.length + 1) ≤ 2 ^ 64 := by
      calc (128 : Nat) ^ (init.length + 1) ≤ 128 ^ 9 := Nat.pow_le_pow_right (by norm_num) short
        _ ≤ 2 ^ 64 := by norm_num
    refine iff_of_true (lt_of_lt_of_le value bound) fun _ open_ _ _ => ?_
    have member : last ∈ (init ++ last :: rest).take 9 := by
      obtain ⟨others, count⟩ : ∃ others, 9 - init.length = others + 1 := ⟨8 - init.length, by omega⟩
      rw [List.take_append, count, List.take_succ_cons]
      exact List.mem_append_right _ List.mem_cons_self
    exact absurd closed (open_ last member)
  -- After nine groups one bit is left for the tenth.
  · have nine : init.length = 9 := by omega
    have before : (init ++ last :: rest).take 9 = init := by rw [← nine, List.take_left]
    have there : (init ++ last :: rest)[9]? = some last := by
      rw [List.getElem?_append_right (by omega), nine]
      rfl
    have low := groupsValue_lt init
    have own : last.toNat % 128 = last.toNat := Nat.mod_eq_of_lt (toNat_lt_of_clear closed)
    rw [groupsValue_append, groupsValue_cons, groupsValue_nil, own, nine]
    rw [nine] at low
    constructor
    · intro fits tenth _ found _
      obtain rfl := Option.some.inj (there.symm.trans found)
      omega
    · intro fits
      have one := fits last (by rw [before]; exact continued) there closed
      omega

/-- The decoded value is exact, and an overflow is rejected, exactly where a tenth byte fits. -/
theorem overflow_rejected_iff (bytes : List UInt8) : OverflowRejected bytes ↔ TenthFits bytes := by
  by_cases nothing : (decodeVarint bytes).1 = 0
  · -- Where nothing is decoded, the first ten bytes all continue.
    have continued := (decodeVarintFrom_eq_zero_iff bytes 0 0).mp nothing
    refine iff_of_true ⟨fun consumed => (consumed nothing).elim, fun _ _ _ _ => nothing⟩ ?_
    intro tenth _ there closed
    obtain ⟨bound, rfl⟩ := List.getElem?_eq_some_iff.mp there
    have member : bytes[9] ∈ bytes.take 10 := List.mem_take_iff_getElem.mpr ⟨9, by omega, rfl⟩
    exact (continued _ member closed).elim
  · obtain ⟨word, start, complete, count⟩ := complete_of_decodeVarintFrom 0 0 nothing
    have admitted : word.length ≤ 10 := by
      have most := (decodeVarintFrom_consumed_le bytes 0 0).2
      rw [count, Nat.zero_add] at most
      exact most
    have taken : bytes.take (decodeVarint bytes).1 = word := by
      rw [decodeVarint, count, Nat.zero_add]
      exact (List.prefix_iff_eq_take.mp start).symm
    -- What is decoded is the value cut to 64 bits.
    have decoded : (decodeVarint bytes).2.toNat = groupsValue word % 2 ^ 64 := by
      obtain ⟨rest, rfl⟩ := start
      have exact_ := (decodeVarintFrom_complete rest 0 0 complete
        (by simpa [maxVarintSize] using admitted) (by decide)).2
      simpa [decodeVarint] using exact_
    rw [← complete.fits_iff start admitted]
    constructor
    · intro rejected
      rw [← taken]
      exact (rejected.1 nothing).1
    · intro fits
      refine ⟨fun _ => ?_, fun other start' complete' large => ?_⟩
      · rw [taken, decoded, Nat.mod_eq_of_lt fits]
        exact ⟨fits, rfl⟩
      · rw [complete'.unique complete start' start] at large
        omega

/-- Nine empty groups and a tenth one of two are decoded to zero, and not to their value. -/
theorem decodeVarint_overflows :
    decodeVarint [0x80, 0x80, 0x80, 0x80, 0x80, 0x80, 0x80, 0x80, 0x80, 0x02] = (10, 0) ∧
      groupsValue [0x80, 0x80, 0x80, 0x80, 0x80, 0x80, 0x80, 0x80, 0x80, 0x02] = 2 ^ 64 ∧
      ¬ OverflowRejected [0x80, 0x80, 0x80, 0x80, 0x80, 0x80, 0x80, 0x80, 0x80, 0x02] := by
  -- The bit that the tenth byte sets is shifted out.
  have decoded : decodeVarint [0x80, 0x80, 0x80, 0x80, 0x80, 0x80, 0x80, 0x80, 0x80, 0x02] =
      (10, 0) := by decide
  refine ⟨decoded, by decide, fun rejected => ?_⟩
  have bound := (rejected.1 (by rw [decoded]; decide)).1
  rw [decoded] at bound
  exact absurd bound (by decide)

end Pybrid
