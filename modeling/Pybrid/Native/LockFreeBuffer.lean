import Pybrid.Library.Transition

/-! The buffer of variable-sized items, and the queue of byte strings it implements. -/

namespace Pybrid.Native

/-- A slot has room for the largest item, and says how much of it is used. -/
structure Slot (slotDataSize : Nat) where
  size : Nat
  data : Vector UInt8 slotDataSize
  fits : size ≤ slotDataSize

/-- The exceptions of a buffer. -/
inductive BufferError where
  | messageTooLarge (messageSize maxSize : Nat)
  | bufferFull (message : String)
  deriving DecidableEq, Repr

/-- Calls on a buffer. -/
inductive BufferCall (slotDataSize : Nat) where
  /-- Put an item; the slot starts out with whatever is on the stack. -/
  | put (item : List UInt8) (stack : Vector UInt8 slotDataSize) (allocates : Bool)
  /-- Put an item without raising. -/
  | tryPut (item : List UInt8) (stack : Vector UInt8 slotDataSize) (allocates : Bool)
  /-- Get an item into a buffer of this size. -/
  | get (bufferSize : Nat)

/-- What a call comes back with. -/
inductive BufferAnswer where
  | returned
  | raised (error : BufferError)
  | accepted (accepted : Bool)
  /-- The size, and the bytes that were copied into the caller's buffer. -/
  | got (size : Nat) (copied : List UInt8)
  deriving DecidableEq, Repr

/-- The buffer, with its two counters beside the queue of slots. -/
structure LockFreeBuffer (slotDataSize : Nat) where
  queue : List (Slot slotDataSize)
  len : Nat
  size : Nat

/-- Copy an item over the start of a slot. -/
def memcpy {slotDataSize : Nat} (data : Vector UInt8 slotDataSize) (item : List UInt8) :
    Vector UInt8 slotDataSize :=
  -- The bytes behind the item stay as they were.
  Vector.ofFn fun index => (item[index.val]?).getD (data.get index)

/-- The part of a slot that is used. -/
def Slot.bytes {slotDataSize : Nat} (slot : Slot slotDataSize) : List UInt8 :=
  slot.data.toList.take slot.size

namespace LockFreeBuffer

variable {slotDataSize : Nat}

/-- A new buffer. -/
def new : LockFreeBuffer slotDataSize := ⟨[], 0, 0⟩

/-- Put an item, unless it is too large or there is no memory for it. -/
def tryPut (buffer : LockFreeBuffer slotDataSize) (item : List UInt8)
    (stack : Vector UInt8 slotDataSize) (allocates : Bool) : Bool × LockFreeBuffer slotDataSize :=
  if fits : item.length ≤ slotDataSize then
    -- The queue takes the slot first, and the counters follow.
    if allocates then
      (true, ⟨buffer.queue ++ [⟨item.length, memcpy stack item, fits⟩], buffer.len + 1,
        buffer.size + item.length⟩)
    else (false, buffer)
  else (false, buffer)

/-- Put an item or raise. -/
def put (buffer : LockFreeBuffer slotDataSize) (item : List UInt8)
    (stack : Vector UInt8 slotDataSize) (allocates : Bool) :
    BufferAnswer × LockFreeBuffer slotDataSize :=
  if slotDataSize < item.length then
    (.raised (.messageTooLarge item.length slotDataSize), buffer)
  else
    -- The sizes were compared, so that only the allocation can fail.
    match buffer.tryPut item stack allocates with
    | (true, next) => (.returned, next)
    | (false, next) => (.raised (.bufferFull "Enqueue failed (allocation failure)"), next)

/-- Get the oldest item. -/
def get (buffer : LockFreeBuffer slotDataSize) (bufferSize : Nat) :
    BufferAnswer × LockFreeBuffer slotDataSize :=
  match buffer.queue with
  | [] => (.got 0 [], buffer)
  | slot :: later =>
    -- An item that does not fit is put back at the end, and the counters are left alone.
    if bufferSize < slot.size then (.got 0 [], { buffer with queue := later ++ [slot] })
    else (.got slot.size slot.bytes, ⟨later, buffer.len - 1, buffer.size - slot.size⟩)

/-- Perform a call. -/
def perform (buffer : LockFreeBuffer slotDataSize) :
    BufferCall slotDataSize → BufferAnswer × LockFreeBuffer slotDataSize
  | .put item stack allocates => buffer.put item stack allocates
  | .tryPut item stack allocates =>
    ((.accepted (buffer.tryPut item stack allocates).1), (buffer.tryPut item stack allocates).2)
  | .get bufferSize => buffer.get bufferSize

/-- Perform a call, and read both counters behind it. -/
def step (buffer : LockFreeBuffer slotDataSize) (call : BufferCall slotDataSize) :
    (BufferAnswer × Nat × Nat) × LockFreeBuffer slotDataSize :=
  let next := buffer.perform call
  ((next.1, next.2.len, next.2.size), next.2)

end LockFreeBuffer

/-- A queue of byte strings, oldest first. -/
abbrev ByteQueue := List (List UInt8)

namespace ByteQueue

variable {slotDataSize : Nat}

/-- What becomes of the queue when the oldest item does not fit into the caller's buffer. -/
abbrev Refusal := ByteQueue → ByteQueue

/-- The total number of bytes. -/
def size (queue : ByteQueue) : Nat := (queue.map List.length).sum

/-- Perform a call on the queue. -/
def perform (refusal : Refusal) (queue : ByteQueue) :
    BufferCall slotDataSize → BufferAnswer × ByteQueue
  | .put item _ allocates =>
    if slotDataSize < item.length then
      (.raised (.messageTooLarge item.length slotDataSize), queue)
    else if allocates then (.returned, queue ++ [item])
    else (.raised (.bufferFull "Enqueue failed (allocation failure)"), queue)
  | .tryPut item _ allocates =>
    if item.length ≤ slotDataSize ∧ allocates then (.accepted true, queue ++ [item])
    else (.accepted false, queue)
  | .get bufferSize =>
    match queue with
    | [] => (.got 0 [], [])
    | oldest :: later =>
      if oldest.length ≤ bufferSize then (.got oldest.length oldest, later)
      else (.got 0 [], refusal (oldest :: later))

/-- Perform a call, and count the items and the bytes behind it. -/
def step (refusal : Refusal) (queue : ByteQueue) (call : BufferCall slotDataSize) :
    (BufferAnswer × Nat × Nat) × ByteQueue :=
  let next := perform refusal queue call
  ((next.1, next.2.length, size next.2), next.2)

/-- The queue is left as it is. -/
def stay : Refusal := id

/-- The oldest item goes to the end of the queue. -/
def requeue : Refusal := fun queue => queue.rotate 1

end ByteQueue

namespace LockFreeBuffer

variable {slotDataSize : Nat}

/-- The size of a slot is the number of its bytes. -/
theorem length_bytes (slot : Slot slotDataSize) : slot.bytes.length = slot.size := by
  rw [Slot.bytes, List.length_take, Vector.length_toList]
  exact min_eq_left slot.fits

/-- An item that was copied into a slot is what the slot holds. -/
theorem bytes_memcpy (stack : Vector UInt8 slotDataSize) {item : List UInt8}
    (fits : item.length ≤ slotDataSize) :
    Slot.bytes ⟨item.length, memcpy stack item, fits⟩ = item := by
  apply List.ext_getElem
  · rw [length_bytes]
  · intro index inside there
    -- What was on the stack starts behind the item.
    simp [Slot.bytes, memcpy, there]

/-- The buffer holds the items of a queue, and counts them. -/
structure Implements (buffer : LockFreeBuffer slotDataSize) (queue : ByteQueue) : Prop where
  items : buffer.queue.map Slot.bytes = queue
  len : buffer.len = queue.length
  size : buffer.size = ByteQueue.size queue

/-- A new buffer is empty. -/
theorem new_implements : Implements (new : LockFreeBuffer slotDataSize) [] := ⟨rfl, rfl, rfl⟩

/-- An item is put at the end of the queue. -/
theorem Implements.append {buffer : LockFreeBuffer slotDataSize} {queue : ByteQueue}
    (implements : buffer.Implements queue) (stack : Vector UInt8 slotDataSize) {item : List UInt8}
    (fits : item.length ≤ slotDataSize) :
    Implements ⟨buffer.queue ++ [⟨item.length, memcpy stack item, fits⟩], buffer.len + 1,
      buffer.size + item.length⟩ (queue ++ [item]) where
  items := by simp [implements.items, bytes_memcpy]
  len := by simp [implements.len]
  size := by simp [implements.size, ByteQueue.size]

/-- Putting an item appends it or does nothing. -/
theorem Implements.tryPut {buffer : LockFreeBuffer slotDataSize} {queue : ByteQueue}
    (implements : buffer.Implements queue) (item : List UInt8) (stack : Vector UInt8 slotDataSize)
    (allocates : Bool) :
    if item.length ≤ slotDataSize ∧ allocates = true then
      (buffer.tryPut item stack allocates).1 = true ∧
        Implements (buffer.tryPut item stack allocates).2 (queue ++ [item])
    else buffer.tryPut item stack allocates = (false, buffer) := by
  unfold LockFreeBuffer.tryPut
  -- An item that does not fit is refused before the allocation.
  by_cases fits : item.length ≤ slotDataSize
  · cases allocates with
    | true => simpa [fits] using implements.append stack fits
    | false => simp [fits]
  · simp [fits]

/-- Putting an item or raising appends the item or does nothing. -/
theorem Implements.put {buffer : LockFreeBuffer slotDataSize} {queue : ByteQueue}
    (implements : buffer.Implements queue) (item : List UInt8) (stack : Vector UInt8 slotDataSize)
    (allocates : Bool) :
    (buffer.put item stack allocates).1 =
        (ByteQueue.perform ByteQueue.requeue queue (.put item stack allocates)).1 ∧
      Implements (buffer.put item stack allocates).2
        (ByteQueue.perform ByteQueue.requeue queue (.put item stack allocates)).2 := by
  have tried := implements.tryPut item stack allocates
  unfold LockFreeBuffer.put
  -- The same comparison, the other way round.
  by_cases large : slotDataSize < item.length
  · simpa only [ByteQueue.perform, if_pos large, true_and] using implements
  · simp only [ByteQueue.perform, if_neg large]
    cases allocates with
    | true =>
      rw [if_pos ⟨not_lt.mp large, rfl⟩] at tried
      generalize buffer.tryPut item stack true = result at tried
      obtain ⟨accepted, next⟩ := result
      obtain ⟨rfl, next⟩ := tried
      exact ⟨rfl, next⟩
    | false =>
      rw [if_neg (by simp)] at tried
      rw [tried]
      exact ⟨rfl, implements⟩

/-- Getting an item removes the oldest one or puts it at the end. -/
theorem Implements.get {buffer : LockFreeBuffer slotDataSize} {queue : ByteQueue}
    (implements : buffer.Implements queue) (bufferSize : Nat) :
    (buffer.get bufferSize).1 =
        (ByteQueue.perform ByteQueue.requeue queue (.get bufferSize : BufferCall slotDataSize)).1 ∧
      Implements (buffer.get bufferSize).2
        (ByteQueue.perform ByteQueue.requeue queue
          (.get bufferSize : BufferCall slotDataSize)).2 := by
  obtain ⟨items, len, size⟩ := implements
  unfold LockFreeBuffer.get
  -- An empty buffer has nothing to copy.
  cases slots : buffer.queue with
  | nil =>
    rw [slots] at items
    subst items
    exact ⟨rfl, by rw [slots]; rfl, len, size⟩
  | cons slot later =>
    rw [slots] at items
    subst items
    have length := length_bytes slot
    by_cases small : bufferSize < slot.size
    · -- Going round keeps the number of items and of bytes.
      have refused : ¬ slot.bytes.length ≤ bufferSize := by omega
      simp only [if_pos small, ByteQueue.perform, List.map_cons, if_neg refused, ByteQueue.requeue,
        true_and]
      refine ⟨by simp, ?_, ?_⟩
      · simp [len]
      · simp only [size, ByteQueue.size, List.map_cons, List.sum_cons, List.rotate_cons_succ,
          List.rotate_zero, List.map_append, List.map_nil, List.sum_append, List.sum_nil]
        omega
    · have served : slot.size ≤ bufferSize := by omega
      simp only [if_neg small, ByteQueue.perform, List.map_cons, length, if_pos served, true_and]
      refine ⟨rfl, ?_, ?_⟩
      · simp [len]
      · simp [size, ByteQueue.size, length]

/-- Every call on the buffer is a call on the queue. -/
theorem Implements.step {buffer : LockFreeBuffer slotDataSize} {queue : ByteQueue}
    (implements : buffer.Implements queue) (call : BufferCall slotDataSize) :
    (buffer.step call).1 = (ByteQueue.step ByteQueue.requeue queue call).1 ∧
      Implements (buffer.step call).2 (ByteQueue.step ByteQueue.requeue queue call).2 := by
  -- The answer comes with the counters, which are those of the queue.
  have performed : (buffer.perform call).1 = (ByteQueue.perform ByteQueue.requeue queue call).1 ∧
      Implements (buffer.perform call).2 (ByteQueue.perform ByteQueue.requeue queue call).2 := by
    cases call with
    | put item stack allocates => exact implements.put item stack allocates
    | tryPut item stack allocates =>
      have tried := implements.tryPut item stack allocates
      simp only [LockFreeBuffer.perform, ByteQueue.perform]
      split at tried
      case isTrue accepted => simpa only [if_pos accepted, tried.1, true_and] using tried.2
      case isFalse rejected => simpa only [if_neg rejected, tried, true_and] using implements
    | get bufferSize => exact implements.get bufferSize
  obtain ⟨answer, next⟩ := performed
  refine ⟨?_, next⟩
  simp only [LockFreeBuffer.step, ByteQueue.step, answer, next.len, next.size]

/-- The buffer answers every history of calls like a queue that puts back what did not fit. -/
theorem refines_queue (slotDataSize : Nat) (calls : List (BufferCall slotDataSize)) :
    Transition.answers step new calls =
      Transition.answers (ByteQueue.step ByteQueue.requeue) [] calls :=
  Transition.answers_refines (fun _ _ call implements => implements.step call) calls new []
    new_implements

/-- An item that does not fit is overtaken by the one behind it. -/
theorem refused_item_overtaken :
    let stack : Vector UInt8 2 := Vector.replicate 2 0
    let calls : List (BufferCall 2) :=
      [.put [1, 1] stack true, .put [2] stack true, .get 1, .get 2]
    Transition.answers step new calls ≠
      Transition.answers (ByteQueue.step ByteQueue.stay) [] calls := by
  decide +kernel

end LockFreeBuffer

end Pybrid.Native
