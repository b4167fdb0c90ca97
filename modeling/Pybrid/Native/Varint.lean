import Mathlib

/-! The variable-length integers that carry message lengths on a TCP stream. -/

namespace Pybrid

/-- A 64-bit value needs at most ten groups of seven bits. -/
def maxVarintSize : Nat := 10

/-- Encode a 64-bit value, seven bits per byte, lowest group first. -/
def encodeVarint (value : UInt64) : List UInt8 :=
  -- Every byte but the last one carries the continuation bit.
  if 0x80 ≤ value then
    ((value &&& 0x7F) ||| 0x80).toUInt8 :: encodeVarint (value >>> 7)
  else
    [(value &&& 0x7F).toUInt8]
termination_by value.toNat
decreasing_by
  rename_i large
  have large : 128 ≤ value.toNat := by simpa [UInt64.le_iff_toNat_le] using large
  simp only [UInt64.toNat_shiftRight, Nat.shiftRight_eq_div_pow]
  change value.toNat / 2 ^ 7 < value.toNat
  omega

/-- The decoding loop, entered at byte position `i` with the groups read so far. -/
def decodeVarintFrom (i : Nat) (out : UInt64) : List UInt8 → Nat × UInt64
  -- Running out of bytes, or of the ten admitted positions, reports zero bytes consumed.
  | [] => (0, out)
  | byte :: rest =>
    if i < maxVarintSize then
      let out := out ||| ((byte &&& 0x7F).toUInt64 <<< UInt64.ofNat (7 * i))
      if byte &&& 0x80 = 0 then (i + 1, out) else decodeVarintFrom (i + 1) out rest
    else
      (0, out)

/-- Decode one value, answering the number of bytes consumed beside it. -/
def decodeVarint (buf : List UInt8) : Nat × UInt64 :=
  decodeVarintFrom 0 0 buf

/-- One round of the encoder, read on natural numbers. -/
theorem encodeVarint_eq (value : UInt64) :
    encodeVarint value =
      if 128 ≤ value.toNat then
        UInt8.ofNat (value.toNat % 128 + 128) :: encodeVarint (value >>> 7)
      else [UInt8.ofNat value.toNat] := by
  have low : value.toNat &&& 127 = value.toNat % 128 := Nat.and_two_pow_sub_one_eq_mod _ 7
  rw [encodeVarint]
  by_cases large : 128 ≤ value.toNat
  · -- Setting the continuation bit adds 128, since the low group never uses that bit.
    have reached : (0x80 : UInt64) ≤ value := by simpa [UInt64.le_iff_toNat_le] using large
    rw [if_pos reached, if_pos large]
    congr 1
    apply UInt8.toNat_inj.mp
    have joined : value.toNat % 128 ||| 128 = value.toNat % 128 + 128 := by
      have disjoint := Nat.two_pow_add_eq_or_of_lt
        (show value.toNat % 128 < 2 ^ 7 from Nat.mod_lt _ (by decide)) 1
      rw [Nat.or_comm, Nat.add_comm]
      simpa only [Nat.mul_one] using disjoint.symm
    simp only [UInt64.toNat_toUInt8, UInt64.toNat_or, UInt64.toNat_and, UInt8.toNat_ofNat']
    change (value.toNat &&& 127 ||| 128) % 2 ^ 8 = _
    rw [low, joined]
  · have short : ¬ (0x80 : UInt64) ≤ value := by simpa [UInt64.le_iff_toNat_le] using large
    rw [if_neg short, if_neg large]
    congr 1
    apply UInt8.toNat_inj.mp
    simp only [UInt64.toNat_toUInt8, UInt64.toNat_and, UInt8.toNat_ofNat']
    change (value.toNat &&& 127) % 2 ^ 8 = _
    omega

/-- Shifting by one group divides by 128. -/
theorem toNat_shiftRight_seven (value : UInt64) : (value >>> 7).toNat = value.toNat / 128 := by
  -- Seven bits are exactly one group.
  simp only [UInt64.toNat_shiftRight, Nat.shiftRight_eq_div_pow]
  rfl

/-- A value is encoded in at least one byte. -/
theorem encodeVarint_ne_nil (value : UInt64) : encodeVarint value ≠ [] := by
  -- Both branches of the encoder write a byte.
  rw [encodeVarint_eq]
  split <;> simp

/-- Values below `128 ^ groups` occupy at most that many bytes. -/
theorem encodeVarint_length_le (groups : Nat) :
    ∀ value : UInt64, value.toNat < 128 ^ (groups + 1) →
      (encodeVarint value).length ≤ groups + 1 := by
  -- Every round removes one group, so the induction is on the number of groups left.
  induction groups with
  | zero =>
    intro value bounded
    rw [encodeVarint_eq, if_neg (by omega)]
    simp
  | succ groups ih =>
    intro value bounded
    rw [encodeVarint_eq]
    split
    · have shifted : (value >>> 7).toNat < 128 ^ (groups + 1) := by
        rw [toNat_shiftRight_seven]
        exact Nat.div_lt_of_lt_mul (by rw [pow_succ] at bounded; omega)
      have tail := ih (value >>> 7) shifted
      simp only [List.length_cons]
      omega
    · simp

/-- Joining one more group adds as much of it as the word has room for, at its own weight. -/
theorem toNat_or_shiftLeft_cut {i : Nat} {out : UInt64} (group : UInt64)
    (position : i < maxVarintSize) (below : out.toNat < 128 ^ i) :
    (out ||| (group <<< UInt64.ofNat (7 * i))).toNat =
      out.toNat + group.toNat * 128 ^ i % 2 ^ 64 := by
  have weight : (128 : Nat) ^ i = 2 ^ (7 * i) := by rw [pow_mul]; norm_num
  have position : 7 * i < 64 := by simp only [maxVarintSize] at position; omega
  have shift : (UInt64.ofNat (7 * i)).toNat % 64 = 7 * i := by
    rw [UInt64.toNat_ofNat']
    omega
  rw [weight] at below ⊢
  have room : 2 ^ (7 * i) * 2 ^ (64 - 7 * i) = 2 ^ 64 := by
    rw [← pow_add]
    congr 1
    omega
  -- What is left of the group stands above the earlier ones, so joining the bits adds the numbers.
  have cut : group.toNat * 2 ^ (7 * i) % 2 ^ 64 = 2 ^ (7 * i) * (group.toNat % 2 ^ (64 - 7 * i)) := by
    rw [← room, Nat.mul_comm group.toNat, Nat.mul_mod_mul_left]
  rw [UInt64.toNat_or, UInt64.toNat_shiftLeft, shift, Nat.shiftLeft_eq, cut, Nat.or_comm,
    ← Nat.two_pow_add_eq_or_of_lt below, Nat.add_comm]

/-- Joining one more group of seven bits adds it at its own weight. -/
theorem toNat_or_shiftLeft {i : Nat} {out : UInt64} (group : UInt64) (position : i < maxVarintSize)
    (below : out.toNat < 128 ^ i) (fits : group.toNat * 128 ^ i < 2 ^ 64) :
    (out ||| (group <<< UInt64.ofNat (7 * i))).toNat = out.toNat + group.toNat * 128 ^ i := by
  rw [toNat_or_shiftLeft_cut group position below, Nat.mod_eq_of_lt fits]

/-- A byte that closes a value has a clear continuation bit. -/
theorem continuation_clear {value : Nat} (small : value < 128) :
    UInt8.ofNat value &&& 0x80 = 0 := by
  -- There are only 128 groups, so each of them is computed.
  interval_cases value <;> rfl

/-- A byte followed by further groups has its continuation bit set. -/
theorem continuation_set {value : Nat} (small : value < 128) :
    UInt8.ofNat (value + 128) &&& 0x80 ≠ 0 := by
  -- Adding 128 is what sets the continuation bit, for each of the 128 groups.
  interval_cases value <;> decide

/-- Masking a byte leaves its group. -/
theorem toNat_group (byte : UInt8) : (byte &&& 0x7F).toUInt64.toNat = byte.toNat % 128 := by
  rw [UInt8.toNat_toUInt64, UInt8.toNat_and]
  exact Nat.and_two_pow_sub_one_eq_mod byte.toNat 7

/-- The low seven bits of an encoded byte are its group, whatever its continuation bit. -/
theorem group_toNat {value : Nat} (small : value < 128) :
    ((UInt8.ofNat value &&& 0x7F).toUInt64).toNat = value ∧
      ((UInt8.ofNat (value + 128) &&& 0x7F).toUInt64).toNat = value := by
  -- Masking removes the continuation bit and nothing else.
  rw [toNat_group, toNat_group, UInt8.toNat_ofNat', UInt8.toNat_ofNat']
  omega

/-- Decoding the bytes of a value consumes them all and adds the value at the loop's weight. -/
theorem decodeVarintFrom_encodeVarint (value : UInt64) :
    ∀ (i : Nat) (out : UInt64) (rest : List UInt8), i < maxVarintSize → out.toNat < 128 ^ i →
      value.toNat * 128 ^ i < 2 ^ 64 →
      (decodeVarintFrom i out (encodeVarint value ++ rest)).1 = i + (encodeVarint value).length ∧
      (decodeVarintFrom i out (encodeVarint value ++ rest)).2.toNat =
        out.toNat + value.toNat * 128 ^ i := by
  -- Each round of the decoder undoes one round of the encoder, one weight higher.
  induction size : value.toNat using Nat.strongRecOn generalizing value with
  | ind size ih =>
    intro i out rest position below fits
    subst size
    rw [encodeVarint_eq]
    by_cases large : 128 ≤ value.toNat
    · have group : value.toNat % 128 < 128 := Nat.mod_lt _ (by decide)
      have split : value.toNat = value.toNat % 128 + 128 * (value.toNat / 128) :=
        (Nat.mod_add_div _ _).symm
      have weight : 0 < 128 ^ i := by positivity
      have headFits : value.toNat % 128 * 128 ^ i < 2 ^ 64 :=
        lt_of_le_of_lt (Nat.mul_le_mul_right _ (Nat.mod_le _ _)) fits
      have tailFits : value.toNat / 128 * 128 ^ (i + 1) < 2 ^ 64 := by
        refine lt_of_le_of_lt ?_ fits
        rw [pow_succ, Nat.mul_comm (128 ^ i) 128, ← Nat.mul_assoc]
        exact Nat.mul_le_mul_right _ (Nat.div_mul_le_self _ _)
      -- A further group can only exist while its weight still fits the 64-bit range.
      have nextPosition : i + 1 < maxVarintSize := by
        by_contra past
        have tenth : i + 1 = 10 := by simp only [maxVarintSize] at position past; omega
        rw [tenth] at tailFits
        have : 1 ≤ value.toNat / 128 := by omega
        omega
      have joined := toNat_or_shiftLeft
        (UInt8.ofNat (value.toNat % 128 + 128) &&& 0x7F).toUInt64 position below
        (by rw [(group_toNat group).2]; exact headFits)
      rw [(group_toNat group).2] at joined
      have nextBelow : out.toNat + value.toNat % 128 * 128 ^ i < 128 ^ (i + 1) := by
        have room : value.toNat % 128 * 128 ^ i ≤ 127 * 128 ^ i :=
          Nat.mul_le_mul_right _ (by omega)
        rw [pow_succ]
        omega
      have tail := ih (value.toNat / 128) (by omega) (value >>> 7)
        (toNat_shiftRight_seven value) _ _ rest nextPosition (by rw [joined]; exact nextBelow) tailFits
      rw [joined] at tail
      simp only [if_pos large, List.cons_append, decodeVarintFrom, if_pos position,
        if_neg (continuation_set group), List.length_cons]
      refine ⟨by rw [tail.1]; omega, ?_⟩
      rw [tail.2, pow_succ]
      conv_rhs => rw [split]
      ring
    · have small : value.toNat < 128 := by omega
      have joined := toNat_or_shiftLeft (UInt8.ofNat value.toNat &&& 0x7F).toUInt64
        position below (by rw [(group_toNat small).1]; exact fits)
      rw [(group_toNat small).1] at joined
      simp only [if_neg large, List.cons_append, List.nil_append, decodeVarintFrom, if_pos position,
        if_pos (continuation_clear small), List.length_singleton]
      exact ⟨trivial, joined⟩

/-- Decoding what was encoded consumes exactly the bytes written and gives the value back. -/
theorem decodeVarint_encodeVarint (value : UInt64) (rest : List UInt8) :
    decodeVarint (encodeVarint value ++ rest) = ((encodeVarint value).length, value) := by
  -- Decoding starts at position zero, where the weight is one and nothing has been read.
  have decoded := decodeVarintFrom_encodeVarint value 0 0 rest (by decide)
    (by decide) (by simpa using value.toNat_lt)
  simp only [Nat.zero_add, pow_zero, Nat.mul_one, UInt64.toNat_zero] at decoded
  exact Prod.ext decoded.1 (UInt64.toNat_inj.mp decoded.2)

/-- The loop reports nothing exactly when all the bytes it may look at continue. -/
theorem decodeVarintFrom_eq_zero_iff (bytes : List UInt8) :
    ∀ i out, (decodeVarintFrom i out bytes).1 = 0 ↔
      ∀ byte ∈ bytes.take (maxVarintSize - i), byte &&& 0x80 ≠ 0 := by
  -- The induction is on the bytes; each round uses up one of the ten positions.
  induction bytes with
  | nil => intro i out; simp [decodeVarintFrom]
  | cons byte rest ih =>
    intro i out
    by_cases position : i < maxVarintSize
    · obtain ⟨left, positions⟩ : ∃ left, maxVarintSize - i = left + 1 :=
        ⟨maxVarintSize - i - 1, by omega⟩
      have later : maxVarintSize - (i + 1) = left := by omega
      by_cases closed : byte &&& 0x80 = 0
      · simp [decodeVarintFrom, position, closed, positions]
      · simp only [decodeVarintFrom, if_pos position, if_neg closed, ih, later, positions,
          List.take_succ_cons, List.forall_mem_cons]
        exact ⟨fun open_ => ⟨closed, open_⟩, fun open_ => open_.2⟩
    · have positions : maxVarintSize - i = 0 := by omega
      simp [decodeVarintFrom, position, positions]

/-- A run of bytes that all continue is never a complete value. -/
theorem decodeVarintFrom_incomplete {bytes : List UInt8}
    (continued : ∀ byte ∈ bytes, byte &&& 0x80 ≠ 0) :
    ∀ i out, (decodeVarintFrom i out bytes).1 = 0 := by
  intro i out
  rw [decodeVarintFrom_eq_zero_iff]
  -- Also among the bytes that are looked at no one ends the number.
  exact fun byte member => continued byte (List.mem_of_mem_take member)

/-- What is consumed was there, and takes up no more than the admitted positions. -/
theorem decodeVarintFrom_consumed_le (bytes : List UInt8) :
    ∀ i out, (decodeVarintFrom i out bytes).1 ≤ i + bytes.length ∧
      (decodeVarintFrom i out bytes).1 ≤ maxVarintSize := by
  induction bytes with
  | nil => intro i out; simp [decodeVarintFrom]
  | cons byte rest ih =>
    intro i out
    unfold decodeVarintFrom
    split
    · simp only [List.length_cons]
      split
      · simp only
        omega
      · have := ih (i + 1) (out ||| ((byte &&& 0x7F).toUInt64 <<< UInt64.ofNat (7 * i)))
        omega
    · simp

/-- A value that is complete ends behind the position the loop was entered at. -/
theorem lt_decodeVarintFrom_consumed (bytes : List UInt8) :
    ∀ i out, (decodeVarintFrom i out bytes).1 ≠ 0 → i < (decodeVarintFrom i out bytes).1 := by
  induction bytes with
  | nil => intro i out complete; simp [decodeVarintFrom] at complete
  | cons byte rest ih =>
    intro i out
    unfold decodeVarintFrom
    split
    · simp only
      split
      · simp
      · intro complete
        exact Nat.lt_of_succ_lt (ih (i + 1) _ complete)
    · simp

/-- A complete value reads the same, whatever lies behind it. -/
theorem decodeVarintFrom_append {bytes : List UInt8} (more : List UInt8) :
    ∀ i out, (decodeVarintFrom i out bytes).1 ≠ 0 →
      decodeVarintFrom i out (bytes ++ more) = decodeVarintFrom i out bytes := by
  induction bytes with
  | nil => intro i out complete; simp [decodeVarintFrom] at complete
  | cons byte rest ih =>
    intro i out complete
    rw [List.cons_append]
    unfold decodeVarintFrom at complete ⊢
    split
    · rename_i position
      simp only [if_pos position] at complete ⊢
      split
      · rfl
      · rename_i open_
        rw [if_neg open_] at complete
        exact ih _ _ complete
    · rfl

/-- A value reads the same from the bytes it consumes and any number of those behind them. -/
theorem decodeVarintFrom_take {bytes : List UInt8} :
    ∀ i out (count : Nat), (decodeVarintFrom i out bytes).1 ≤ i + count →
      (decodeVarintFrom i out bytes).1 ≠ 0 →
      decodeVarintFrom i out (bytes.take count) = decodeVarintFrom i out bytes := by
  induction bytes with
  | nil => intro i out count _ complete; simp [decodeVarintFrom] at complete
  | cons byte rest ih =>
    intro i out count enough complete
    unfold decodeVarintFrom at enough complete
    split at enough
    · rename_i position
      simp only [if_pos position] at enough complete
      split at enough
      · -- The first byte closes the value, so it is among those taken.
        rename_i closed
        obtain ⟨others, taken⟩ : ∃ others, count = others + 1 := ⟨count - 1, by omega⟩
        simp [taken, decodeVarintFrom, position, closed]
      · rename_i open_
        rw [if_neg open_] at complete
        cases count with
        | zero =>
          have behind := lt_decodeVarintFrom_consumed rest _ _ complete
          omega
        | succ count =>
          simp only [List.take_succ_cons, decodeVarintFrom, if_pos position, if_neg open_]
          exact ih _ _ count (by omega) complete
    · rename_i beyond
      simp [beyond] at complete

/-- Only the last byte of an encoded value has a clear continuation bit. -/
theorem encodeVarint_split (value : UInt64) :
    ∃ init last, encodeVarint value = init ++ [last] ∧ ∀ byte ∈ init, byte &&& 0x80 ≠ 0 := by
  -- The induction follows the encoder, which puts a continued byte in front of the rest.
  induction size : value.toNat using Nat.strongRecOn generalizing value with
  | ind size ih =>
    subst size
    rw [encodeVarint_eq]
    by_cases large : 128 ≤ value.toNat
    · obtain ⟨init, last, spelled, continued⟩ := ih (value.toNat / 128) (by omega) (value >>> 7)
        (toNat_shiftRight_seven value)
      refine ⟨UInt8.ofNat (value.toNat % 128 + 128) :: init, last, by simp [large, spelled], ?_⟩
      intro byte member
      rcases List.mem_cons.mp member with rfl | member
      · exact continuation_set (Nat.mod_lt _ (by decide))
      · exact continued byte member
    · exact ⟨[], UInt8.ofNat value.toNat, by simp [large], by simp⟩

/-- No strict prefix of an encoded value decodes to anything. -/
theorem decodeVarint_strict_prefix {value : UInt64} {bytes missing : List UInt8}
    (cut : encodeVarint value = bytes ++ missing) (strict : missing ≠ []) :
    (decodeVarint bytes).1 = 0 := by
  obtain ⟨init, last, spelled, continued⟩ := encodeVarint_split value
  -- The closing byte is missing, so the bytes at hand all belong to the continued ones.
  obtain ⟨front, final, rfl⟩ := List.eq_nil_or_concat missing |>.resolve_left strict
  rw [spelled, List.concat_eq_append, ← List.append_assoc] at cut
  have initial : init = bytes ++ front := (List.append_inj' cut rfl).1
  refine decodeVarintFrom_incomplete (fun byte member => continued byte ?_) 0 0
  rw [initial]
  exact List.mem_append_left _ member

end Pybrid
