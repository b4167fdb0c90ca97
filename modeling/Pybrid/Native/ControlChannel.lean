import Pybrid.Library.Transition
import Pybrid.Native.Message

/-! Concurrent requests on a control channel: the pending table against the receive thread. -/

namespace Pybrid

/-- What a promise has been given. -/
inductive PromiseOutcome where
  /-- A received message, with its position in the sequence of received messages. -/
  | response (position : Nat) (message : MessageV1)
  /-- An exception, because the channel was stopped, closed or reconnected. -/
  | failure (what : String)
  deriving DecidableEq, Repr

/-- How far one attempt of `send_and_recv` has come. -/
inductive AttemptStage where
  /-- The promise is registered, the request is not sent yet. -/
  | registered
  /-- The request is sent, the call waits on its future. -/
  | waiting
  /-- Sending has thrown, the entry is about to be erased. -/
  | sendFailed
  /-- The wait has timed out, the entry is about to be erased. -/
  | timedOut
  deriving DecidableEq, Repr

/-- Where a call of `send_and_recv` stands. -/
inductive CallPhase where
  /-- Not started. -/
  | idle
  /-- In an attempt with this identifier and this promise. -/
  | attempt (stage : AttemptStage) (id : String) (promise : Nat)
  /-- Between two attempts, after a busy response. -/
  | busy
  /-- Returned the message its last attempt was given. -/
  | returned (id : String) (promise : Nat) (position : Nat) (message : MessageV1)
  /-- Ended with an exception. -/
  | threw
  deriving DecidableEq, Repr

/-- The identifier and the promise of the current attempt. -/
def CallPhase.attempt? : CallPhase → Option (String × Nat)
  | .attempt _ id promise => some (id, promise)
  | _ => none

/-- The promise the call depends on, or was answered through. -/
def CallPhase.promise? : CallPhase → Option Nat
  | .attempt _ _ promise => some promise
  | .returned _ promise _ _ => some promise
  | _ => none

/-- A control channel with any number of concurrent calls. -/
structure ControlChannel where
  calls : Nat → CallPhase
  /-- `pending_requests_`: the promise registered under each identifier. -/
  pending : List (String × Nat)
  /-- What each allocated promise has been given. -/
  promises : Nat → Option PromiseOutcome
  /-- The number of promises allocated so far. -/
  allocated : Nat
  /-- The identifiers used so far. -/
  used : List String
  /-- The number of messages received so far. -/
  position : Nat

/-- Atomic steps: sections under `pending_mutex_`, and what a call does between them. -/
inductive ControlAction where
  /-- A call is refused on entry: reconnecting, not connected, or an empty identifier. -/
  | reject (call : Nat)
  /-- A call registers a promise under an identifier, on entry or after a busy response. -/
  | register (call : Nat) (id : String)
  /-- Sending the request succeeds or throws. -/
  | send (call : Nat) (accepted : Bool)
  /-- The wait on the future runs into its timeout. -/
  | timeout (call : Nat)
  /-- A call that is about to throw erases its entry. -/
  | erase (call : Nat)
  /-- A call takes what its future holds. -/
  | collect (call : Nat)
  /-- A call gives up waiting for a busy device. -/
  | giveUp (call : Nat)
  /-- The receive thread processes a message. -/
  | receive (message : MessageV1)
  /-- Stopping, a lost connection or a reconnect fails every pending request. -/
  | failAll (what : String)
  deriving DecidableEq, Repr

namespace ControlChannel

/-- A channel without calls. -/
def initial : ControlChannel where
  calls := fun _ => .idle
  pending := []
  promises := fun _ => none
  allocated := 0
  used := []
  position := 0

/-- Move one call to another phase. -/
def setCall (s : ControlChannel) (call : Nat) (phase : CallPhase) : ControlChannel :=
  -- The other calls stay where they are.
  { s with calls := Function.update s.calls call phase }

/-- Insert an entry unless its identifier is already registered. -/
def emplace (pending : List (String × Nat)) (id : String) (promise : Nat) : List (String × Nat) :=
  -- An identifier that is registered already keeps its promise.
  if pending.any fun entry => entry.1 == id then pending else pending ++ [(id, promise)]

/-- Remove the entry of an identifier. -/
def eraseId (pending : List (String × Nat)) (id : String) : List (String × Nat) :=
  pending.filter fun entry => entry.1 != id

/-- Give a promise an outcome; a promise that has one already keeps it. -/
def setOutcome (promises : Nat → Option PromiseOutcome) (promise : Nat)
    (outcome : PromiseOutcome) : Nat → Option PromiseOutcome :=
  Function.update promises promise (some ((promises promise).getD outcome))

/-- Hand a message to the request registered under its identifier, if there is one. -/
def processMessage (s : ControlChannel) (message : MessageV1) : ControlChannel :=
  let counted := { s with position := s.position + 1 }
  -- Messages without an identifier, and those nobody waits for, go to the callbacks.
  if message.id = "" then counted
  else
    match s.pending.find? fun entry => entry.1 == message.id with
    | some (id, promise) =>
      { counted with
        pending := eraseId s.pending id
        promises := setOutcome s.promises promise (.response s.position message) }
    | none => counted

/-- Fail every pending request and clear the table. -/
def failPending (s : ControlChannel) (what : String) : ControlChannel :=
  { s with
    pending := []
    promises := s.pending.foldl
      (fun promises entry => setOutcome promises entry.2 (.failure what)) s.promises }

/-- One atomic step. -/
def step (s : ControlChannel) : ControlAction → Option ControlChannel
  | .reject call => if s.calls call = .idle then some (s.setCall call .threw) else none
  | .register call id =>
    -- Identifiers are fresh: the caller's is unique, and a retry draws a new one.
    if (s.calls call = .idle ∨ s.calls call = .busy) ∧ id ≠ "" ∧ id ∉ s.used then
      some { s.setCall call (.attempt .registered id s.allocated) with
        pending := emplace s.pending id s.allocated
        allocated := s.allocated + 1
        used := id :: s.used }
    else none
  | .send call accepted =>
    match s.calls call with
    -- The entry is in the table before the request leaves, so that no answer can come too early.
    | .attempt .registered id promise =>
      some (s.setCall call (.attempt (if accepted then .waiting else .sendFailed) id promise))
    | _ => none
  | .timeout call =>
    match s.calls call with
    | .attempt .waiting id promise =>
      -- A future that already holds an outcome is ready, and its wait does not time out.
      if s.promises promise = none then some (s.setCall call (.attempt .timedOut id promise))
      else none
    | _ => none
  | .erase call =>
    match s.calls call with
    | .attempt .sendFailed id _ | .attempt .timedOut id _ =>
      some { s.setCall call .threw with pending := eraseId s.pending id }
    | _ => none
  | .collect call =>
    match s.calls call with
    | .attempt .waiting id promise =>
      match s.promises promise with
      | some (.response position message) =>
        -- A busy device asks for another attempt, under another identifier.
        if message.hasBusyResponse then some (s.setCall call .busy)
        else some (s.setCall call (.returned id promise position message))
      | some (.failure _) => some (s.setCall call .threw)
      | none => none
    | _ => none
  | .giveUp call => if s.calls call = .busy then some (s.setCall call .threw) else none
  | .receive message => some (s.processMessage message)
  | .failAll what => some (s.failPending what)

/--
The correlation invariant.

The pending table is exactly the calls in an attempt whose promise is still empty, promises and
identifiers belong to one call each, and a promise only ever holds a message with the identifier
it was registered under.
-/
structure Correlated (s : ControlChannel) : Prop where
  /-- An entry is a call in an attempt whose promise has been given nothing. -/
  pending : ∀ id promise, (id, promise) ∈ s.pending ↔
    s.promises promise = none ∧ ∃ call, (s.calls call).attempt? = some (id, promise)
  /-- No identifier is registered twice. -/
  distinct : (s.pending.map Prod.fst).Nodup
  /-- No two calls share a promise. -/
  owned : ∀ call other promise, (s.calls call).promise? = some promise →
    (s.calls other).promise? = some promise → call = other
  /-- Promises are numbered in the order of their allocation. -/
  allocated : ∀ call promise, (s.calls call).promise? = some promise → promise < s.allocated
  /-- A promise not allocated yet holds nothing. -/
  empty : ∀ promise, s.allocated ≤ promise → s.promises promise = none
  /-- The identifier of an attempt has been used. -/
  used : ∀ call id promise, (s.calls call).attempt? = some (id, promise) → id ∈ s.used
  /-- No two calls share an identifier. -/
  unique : ∀ call other id promise another, (s.calls call).attempt? = some (id, promise) →
    (s.calls other).attempt? = some (id, another) → call = other
  /-- An attempt is only given a message with its own identifier. -/
  answered : ∀ call id promise position message, (s.calls call).attempt? = some (id, promise) →
    s.promises promise = some (.response position message) → message.id = id
  /-- A returned message answers the last attempt, and is no busy response. -/
  returned : ∀ call id promise position message,
    s.calls call = .returned id promise position message →
    s.promises promise = some (.response position message) ∧ message.id = id ∧
      message.hasBusyResponse = false
  /-- Only messages received so far have been handed out. -/
  past : ∀ promise position message, s.promises promise = some (.response position message) →
    position < s.position
  /-- A received message is given to one promise at most. -/
  once : ∀ promise other position message another,
    s.promises promise = some (.response position message) →
    s.promises other = some (.response position another) → promise = other

/-- The current attempt depends on its promise. -/
theorem promise_of_attempt {phase : CallPhase} {id : String} {promise : Nat}
    (current : phase.attempt? = some (id, promise)) : phase.promise? = some promise := by
  -- Only an attempt has a current identifier, and it names its promise.
  cases phase <;> simp_all [CallPhase.attempt?, CallPhase.promise?]

/-- A channel without calls is correlated. -/
theorem initial_correlated : initial.Correlated := by
  -- No call is in an attempt, and the table is empty.
  constructor <;> simp [initial, CallPhase.attempt?, CallPhase.promise?]

section SetCall

variable (s : ControlChannel) (call : Nat) (phase : CallPhase)

@[simp] theorem setCall_pending : (s.setCall call phase).pending = s.pending := rfl

@[simp] theorem setCall_promises : (s.setCall call phase).promises = s.promises := rfl

@[simp] theorem setCall_allocated : (s.setCall call phase).allocated = s.allocated := rfl

@[simp] theorem setCall_used : (s.setCall call phase).used = s.used := rfl

@[simp] theorem setCall_position : (s.setCall call phase).position = s.position := rfl

/-- Only the call that is moved changes its phase. -/
theorem setCall_calls (other : Nat) :
    (s.setCall call phase).calls other = if other = call then phase else s.calls other := by
  simp [setCall, Function.update_apply]

end SetCall

/-- Advancing an attempt to another stage changes nothing that the invariant speaks about. -/
theorem Correlated.advance {s : ControlChannel} (inv : s.Correlated) {call : Nat}
    {stage : AttemptStage} {id : String} {promise : Nat}
    (current : s.calls call = .attempt stage id promise) (next : AttemptStage) :
    (s.setCall call (.attempt next id promise)).Correlated := by
  -- Neither the identifier nor the promise of any call changes.
  have attempts : ∀ other, ((s.setCall call (.attempt next id promise)).calls other).attempt? =
      (s.calls other).attempt? := by
    intro other
    rw [setCall_calls]
    split <;> simp_all [CallPhase.attempt?]
  have promises : ∀ other, ((s.setCall call (.attempt next id promise)).calls other).promise? =
      (s.calls other).promise? := by
    intro other
    rw [setCall_calls]
    split <;> simp_all [CallPhase.promise?]
  constructor
  case returned =>
    intro other id' promise' position message back
    rw [setCall_calls] at back
    split at back
    · simp at back
    · exact inv.returned other id' promise' position message back
  case pending => simpa only [attempts, setCall_pending, setCall_promises] using inv.pending
  case distinct => exact inv.distinct
  case owned => simpa only [promises] using inv.owned
  case allocated => simpa only [promises, setCall_allocated] using inv.allocated
  case empty => exact inv.empty
  case used => simpa only [attempts, setCall_used] using inv.used
  case unique => simpa only [attempts] using inv.unique
  case answered => simpa only [attempts, setCall_promises] using inv.answered
  case past => exact inv.past
  case once => exact inv.once

/--
A call leaves its attempt, and the table loses the attempt's entry if it still has one.

The call keeps its promise only to return the message in it.
-/
theorem Correlated.leave {s : ControlChannel} (inv : s.Correlated) {call : Nat} {phase : CallPhase}
    {table : List (String × Nat)} (left : phase.attempt? = none)
    (kept : phase.promise? = none ∨ phase.promise? = (s.calls call).promise?)
    (answer : ∀ id promise position message, phase = .returned id promise position message →
      s.promises promise = some (.response position message) ∧ message.id = id ∧
        message.hasBusyResponse = false)
    (remaining : ∀ id promise, (id, promise) ∈ table ↔
      (id, promise) ∈ s.pending ∧ (s.calls call).attempt? ≠ some (id, promise))
    (distinct : (table.map Prod.fst).Nodup) :
    { s.setCall call phase with pending := table }.Correlated := by
  -- The other calls keep their attempts; this one has none any more.
  have attempts : ∀ other id promise,
      (((s.setCall call phase).calls other).attempt? = some (id, promise) ↔
        other ≠ call ∧ (s.calls other).attempt? = some (id, promise)) := by
    intro other id promise
    rw [setCall_calls]
    split <;> simp_all
  have promises : ∀ other promise, ((s.setCall call phase).calls other).promise? = some promise →
      (s.calls other).promise? = some promise := by
    intro other promise held
    rw [setCall_calls] at held
    split at held
    · rename_i same
      subst same
      rcases kept with gone | same
      · simp [gone] at held
      · rwa [same] at held
    · exact held
  constructor
  case pending =>
    intro id promise
    simp only [setCall_promises, attempts, remaining, inv.pending]
    -- An entry is dropped exactly for the call that leaves, which no other call shares it with.
    constructor
    · intro found
      obtain ⟨⟨unset, other, current⟩, foreign⟩ := found
      refine ⟨unset, other, ?_, current⟩
      intro same
      subst same
      exact foreign current
    · intro found
      obtain ⟨unset, other, foreign, current⟩ := found
      refine ⟨⟨unset, other, current⟩, fun own => foreign ?_⟩
      exact inv.unique other call id promise promise current own
  case distinct => exact distinct
  case owned =>
    exact fun first second promise one two => inv.owned first second promise
      (promises first promise one) (promises second promise two)
  case allocated =>
    exact fun other promise held => inv.allocated other promise (promises other promise held)
  case empty => exact inv.empty
  case used => exact fun other id promise held => inv.used other id promise ((attempts _ _ _).mp held).2
  case unique =>
    exact fun first second id promise another one two => inv.unique first second id promise another
      ((attempts _ _ _).mp one).2 ((attempts _ _ _).mp two).2
  case answered =>
    exact fun other id promise position message held => inv.answered other id promise position message
      ((attempts _ _ _).mp held).2
  case returned =>
    intro other id promise position message back
    simp only [setCall_calls] at back
    split at back
    · exact answer id promise position message back
    · exact inv.returned other id promise position message back
  case past => exact inv.past
  case once => exact inv.once

/-- A fresh identifier is not in the table, so that its entry is appended. -/
theorem Correlated.emplace_eq {s : ControlChannel} (inv : s.Correlated) {id : String}
    (fresh : id ∉ s.used) (promise : Nat) :
    emplace s.pending id promise = s.pending ++ [(id, promise)] := by
  -- An entry with this identifier would belong to an attempt that used it.
  have absent : s.pending.any (fun entry => entry.1 == id) = false := by
    simp only [List.any_eq_false, beq_iff_eq]
    rintro ⟨other, held⟩ member rfl
    obtain ⟨_, call, current⟩ := (inv.pending _ _).mp member
    exact fresh (inv.used call _ held current)
  simp [emplace, absent]

/-- Registering a fresh identifier adds one entry for a new, empty promise. -/
theorem Correlated.register {s : ControlChannel} (inv : s.Correlated) {call : Nat} {id : String}
    (free : (s.calls call).attempt? = none ∧ (s.calls call).promise? = none)
    (fresh : id ∉ s.used) :
    { s.setCall call (.attempt .registered id s.allocated) with
      pending := emplace s.pending id s.allocated
      allocated := s.allocated + 1
      used := id :: s.used }.Correlated := by
  -- Of all calls only this one gets an attempt, with the promise allocated for it.
  have attempts : ∀ other id' promise,
      ((s.setCall call (.attempt .registered id s.allocated)).calls other).attempt? =
          some (id', promise) ↔
        (other = call ∧ id' = id ∧ promise = s.allocated) ∨
          (s.calls other).attempt? = some (id', promise) := by
    intro other id' promise
    rw [setCall_calls]
    split
    · rename_i same
      subst same
      rw [free.1]
      simp [CallPhase.attempt?, eq_comm]
    · rename_i foreign
      simp [foreign]
  have promises : ∀ other promise,
      ((s.setCall call (.attempt .registered id s.allocated)).calls other).promise? =
          some promise ↔
        (other = call ∧ promise = s.allocated) ∨ (s.calls other).promise? = some promise := by
    intro other promise
    rw [setCall_calls]
    split
    · rename_i same
      subst same
      rw [free.2]
      simp [CallPhase.promise?, eq_comm]
    · rename_i foreign
      simp [foreign]
  constructor
  case pending =>
    intro id' promise
    simp only [inv.emplace_eq fresh, List.mem_append, List.mem_singleton, Prod.mk.injEq,
      setCall_promises, attempts, inv.pending]
    constructor
    · intro entry
      rcases entry with ⟨unset, other, current⟩ | ⟨rfl, rfl⟩
      · exact ⟨unset, other, .inr current⟩
      · exact ⟨inv.empty _ le_rfl, call, .inl ⟨rfl, rfl, rfl⟩⟩
    · intro attempt
      obtain ⟨unset, other, ⟨_, rfl, rfl⟩ | current⟩ := attempt
      · exact .inr ⟨rfl, rfl⟩
      · exact .inl ⟨unset, other, current⟩
  case distinct =>
    -- The new identifier was never used, so that no entry can have it.
    simp only [inv.emplace_eq fresh, List.map_append, List.map_singleton]
    refine List.nodup_append.mpr ⟨inv.distinct, by simp, ?_⟩
    rintro other member _ (own : _ ∈ [id]) rfl
    obtain ⟨⟨id', promise⟩, held, same⟩ := List.mem_map.mp member
    obtain ⟨_, owner, current⟩ := (inv.pending _ _).mp held
    have registered : id' = id := same.trans (List.mem_singleton.mp own)
    rw [registered] at current
    exact fresh (inv.used owner id promise current)
  case owned =>
    -- The new promise has a number that no earlier promise has.
    intro first second promise one two
    rcases (promises _ _).mp one with ⟨rfl, rfl⟩ | before
    · rcases (promises _ _).mp two with ⟨rfl, _⟩ | later
      · rfl
      · exact absurd (inv.allocated second _ later) (lt_irrefl _)
    · rcases (promises _ _).mp two with ⟨rfl, rfl⟩ | later
      · exact absurd (inv.allocated first _ before) (lt_irrefl _)
      · exact inv.owned first second promise before later
  case allocated =>
    intro other promise held
    rcases (promises _ _).mp held with ⟨_, rfl⟩ | held
    · exact Nat.lt_succ_self _
    · exact Nat.lt_succ_of_lt (inv.allocated other promise held)
  case empty => exact fun promise bound => inv.empty promise (Nat.le_of_succ_le bound)
  case used =>
    intro other id' promise held
    rcases (attempts _ _ _).mp held with ⟨_, rfl, _⟩ | held
    · exact List.mem_cons_self
    · exact List.mem_cons_of_mem _ (inv.used other id' promise held)
  case unique =>
    -- Likewise for the identifier.
    intro first second id' promise another one two
    rcases (attempts _ _ _).mp one with ⟨rfl, rfl, _⟩ | before
    · rcases (attempts _ _ _).mp two with ⟨rfl, _, _⟩ | later
      · rfl
      · exact absurd (inv.used second _ another later) fresh
    · rcases (attempts _ _ _).mp two with ⟨rfl, rfl, _⟩ | later
      · exact absurd (inv.used first _ promise before) fresh
      · exact inv.unique first second id' promise another before later
  case answered =>
    intro other id' promise position message held given
    rcases (attempts _ _ _).mp held with ⟨_, _, rfl⟩ | held
    · simp [inv.empty _ le_rfl] at given
    · exact inv.answered other id' promise position message held given
  case returned =>
    intro other id' promise position message back
    simp only [setCall_calls] at back
    split at back
    · simp at back
    · exact inv.returned other id' promise position message back
  case past => exact inv.past
  case once => exact inv.once

/-- Giving a promise an outcome changes that promise only, and only if it was empty. -/
theorem setOutcome_apply (promises : Nat → Option PromiseOutcome) (promise : Nat)
    (outcome : PromiseOutcome) (other : Nat) :
    setOutcome promises promise outcome other =
      if other = promise then some ((promises promise).getD outcome) else promises other := by
  simp [setOutcome, Function.update_apply]

/-- Failing the pending requests fills the promises of the table and touches no other one. -/
theorem fail_promises (what : String) (table : List (String × Nat))
    (promises : Nat → Option PromiseOutcome)
    (unset : ∀ entry ∈ table, promises entry.2 = none) (promise : Nat) :
    table.foldl (fun promises entry => setOutcome promises entry.2 (.failure what)) promises
        promise =
      if promise ∈ table.map Prod.snd then some (.failure what) else promises promise := by
  -- The fold fills one promise after the other, and the last one is looked at first.
  induction table using List.reverseRecOn with
  | nil => simp
  | append_singleton rest entry ih =>
    have before := ih fun other member => unset other (List.mem_append_left _ member)
    have own : promises entry.2 = none := unset entry (by simp)
    simp only [List.foldl_append, List.foldl_cons, List.foldl_nil, setOutcome_apply,
      List.map_append, List.map_singleton, List.mem_append, List.mem_singleton]
    by_cases same : promise = entry.2
    · subst same
      simp only [before, own, if_true, or_true]
      split <;> rfl
    · rw [if_neg same, before]
      simp only [same, or_false]

/-- Failing every pending request empties the table and answers no call. -/
theorem Correlated.failPending {s : ControlChannel} (inv : s.Correlated) (what : String) :
    (s.failPending what).Correlated := by
  -- The promises of the table are empty, so that all of them take the exception.
  have unset : ∀ entry ∈ s.pending, s.promises entry.2 = none :=
    fun entry member => ((inv.pending entry.1 entry.2).mp member).1
  have promises : ∀ promise, (s.failPending what).promises promise =
      if promise ∈ s.pending.map Prod.snd then some (.failure what) else s.promises promise :=
    fail_promises what s.pending s.promises unset
  -- A promise that holds a message held it before.
  have response : ∀ promise position message,
      (s.failPending what).promises promise = some (.response position message) →
      s.promises promise = some (.response position message) := by
    intro promise position message given
    rw [promises] at given
    split at given
    · simp at given
    · exact given
  constructor
  case pending =>
    intro id promise
    refine ⟨fun member => by simp [ControlChannel.failPending] at member, ?_⟩
    intro found
    obtain ⟨empty, call, current⟩ := found
    rw [promises] at empty
    split at empty
    · simp at empty
    · rename_i absent
      have member := (inv.pending id promise).mpr ⟨empty, call, current⟩
      exact absurd (List.mem_map.mpr ⟨_, member, rfl⟩) absent
  case distinct => simp [ControlChannel.failPending]
  case owned => exact inv.owned
  case allocated => exact inv.allocated
  case empty =>
    intro promise bound
    -- Entries of the table have allocated promises.
    rw [promises, if_neg, inv.empty promise bound]
    intro member
    obtain ⟨⟨id, held⟩, entry, rfl⟩ := List.mem_map.mp member
    obtain ⟨_, call, current⟩ := (inv.pending _ _).mp entry
    exact absurd (inv.allocated call held (promise_of_attempt current)) (not_lt.mpr bound)
  case used => exact inv.used
  case unique => exact inv.unique
  case answered =>
    exact fun call id promise position message current given =>
      inv.answered call id promise position message current (response _ _ _ given)
  case returned =>
    intro call id promise position message back
    obtain ⟨given, rest⟩ := inv.returned call id promise position message back
    refine ⟨?_, rest⟩
    -- The promise of a returned call holds a message, so that it is not in the table.
    rw [promises, if_neg, given]
    intro member
    obtain ⟨⟨id, held⟩, entry, rfl⟩ := List.mem_map.mp member
    simp [((inv.pending _ _).mp entry).1] at given
  case past => exact fun promise position message given => inv.past _ _ _ (response _ _ _ given)
  case once =>
    exact fun promise other position message another one two =>
      inv.once promise other position message another (response _ _ _ one) (response _ _ _ two)

/-- A received message changes at most the promise registered under its identifier. -/
theorem Correlated.processMessage {s : ControlChannel} (inv : s.Correlated)
    (message : MessageV1) : (s.processMessage message).Correlated := by
  -- Counting the message is all that happens when nobody waits for it.
  have counted : { s with position := s.position + 1 }.Correlated :=
    { inv with
      past := fun promise position held given =>
        Nat.lt_succ_of_lt (inv.past promise position held given) }
  unfold ControlChannel.processMessage
  split
  · exact counted
  split
  case h_2 => exact counted
  rename_i id promise found
  have member : (id, promise) ∈ s.pending := List.mem_of_find?_eq_some found
  have named : id = message.id := by simpa using List.find?_some found
  obtain ⟨unset, owner, current⟩ := (inv.pending id promise).mp member
  have promises : ∀ other, setOutcome s.promises promise (.response s.position message) other =
      if other = promise then some (.response s.position message) else s.promises other := by
    intro other
    rw [setOutcome_apply, unset]
    rfl
  constructor
  case pending =>
    intro id' other
    simp only [promises, eraseId, List.mem_filter, bne_iff_ne, ne_eq]
    constructor
    · intro found
      obtain ⟨entry, foreign⟩ := found
      obtain ⟨empty, call, attempt⟩ := (inv.pending id' other).mp entry
      rw [if_neg]
      · exact ⟨empty, call, attempt⟩
      · intro same
        subst same
        -- Two attempts on one promise are one call, and then they have one identifier.
        have same := inv.owned call owner other (promise_of_attempt attempt)
          (promise_of_attempt current)
        rw [same, current] at attempt
        simp only [Option.some.injEq, Prod.mk.injEq] at attempt
        exact foreign attempt.1.symm
    · intro found
      obtain ⟨empty, call, attempt⟩ := found
      split at empty
      · simp at empty
      · rename_i other_ne
        refine ⟨(inv.pending id' other).mpr ⟨empty, call, attempt⟩, ?_⟩
        intro same
        subst same
        have same := inv.unique call owner id' other promise attempt current
        rw [same, current] at attempt
        simp only [Option.some.injEq, Prod.mk.injEq] at attempt
        exact other_ne attempt.2.symm
  case distinct => exact inv.distinct.sublist (List.filter_sublist.map _)
  case owned => exact inv.owned
  case allocated => exact inv.allocated
  case empty =>
    intro other bound
    have live := inv.allocated owner promise (promise_of_attempt current)
    simp only [promises, if_neg (Nat.ne_of_gt (lt_of_lt_of_le live bound))]
    exact inv.empty other bound
  case used => exact inv.used
  case unique => exact inv.unique
  case answered =>
    intro call id' other position held attempt given
    simp only [promises] at given
    split at given
    · rename_i same
      subst same
      have owner_eq := inv.owned call owner other (promise_of_attempt attempt)
        (promise_of_attempt current)
      rw [owner_eq, current] at attempt
      simp_all
    · exact inv.answered call id' other position held attempt given
  case returned =>
    intro call id' other position held back
    obtain ⟨given, rest⟩ := inv.returned call id' other position held back
    refine ⟨?_, rest⟩
    simp only [promises]
    rw [if_neg, given]
    intro same
    subst same
    simp [unset] at given
  case past =>
    intro other position held given
    simp only [promises] at given
    split at given
    · simp only [Option.some.injEq, PromiseOutcome.response.injEq] at given
      exact given.1 ▸ Nat.lt_succ_self _
    · exact Nat.lt_succ_of_lt (inv.past other position held given)
  case once =>
    intro first second position held another one two
    simp only [promises] at one two
    -- The position of this message is new, so that no earlier promise has it.
    split at one <;> split at two
    · simp_all
    · simp only [Option.some.injEq, PromiseOutcome.response.injEq] at one
      exact absurd (inv.past _ _ _ two) (by omega)
    · simp only [Option.some.injEq, PromiseOutcome.response.injEq] at two
      exact absurd (inv.past _ _ _ one) (by omega)
    · exact inv.once first second position held another one two

/-- A call outside an attempt moves on without touching the table. -/
theorem Correlated.leaveIdle {s : ControlChannel} (inv : s.Correlated) {call : Nat}
    (free : (s.calls call).attempt? = none) : (s.setCall call .threw).Correlated := by
  -- Without an attempt there is no entry to lose.
  refine inv.leave rfl (.inl rfl) (fun _ _ _ _ same => by simp at same) ?_ inv.distinct
  simp [free]

/-- A call whose promise holds an outcome has no entry left, and takes the outcome. -/
theorem Correlated.leaveAnswered {s : ControlChannel} (inv : s.Correlated) {call : Nat}
    {stage : AttemptStage} {id : String} {promise : Nat} {phase : CallPhase}
    (current : s.calls call = .attempt stage id promise) (given : s.promises promise ≠ none)
    (left : phase.attempt? = none)
    (kept : phase.promise? = none ∨ phase.promise? = some promise)
    (answer : ∀ id promise position message, phase = .returned id promise position message →
      s.promises promise = some (.response position message) ∧ message.id = id ∧
        message.hasBusyResponse = false) :
    (s.setCall call phase).Correlated := by
  -- The table lists empty promises only, so that there is no entry to remove.
  refine inv.leave left (by rwa [current]) answer ?_ inv.distinct
  intro id' promise'
  refine ⟨fun member => ⟨member, ?_⟩, And.left⟩
  rw [current]
  intro same
  simp only [CallPhase.attempt?, Option.some.injEq, Prod.mk.injEq] at same
  have unset := ((inv.pending id' promise').mp member).1
  rw [← same.2] at unset
  exact given unset

/-- A call that erases its identifier leaves the entries of the other calls. -/
theorem Correlated.leaveErased {s : ControlChannel} (inv : s.Correlated) {call : Nat}
    {stage : AttemptStage} {id : String} {promise : Nat}
    (current : s.calls call = .attempt stage id promise) :
    { s.setCall call .threw with pending := eraseId s.pending id }.Correlated := by
  -- The identifier belongs to this call alone, so that erasing it removes this entry alone.
  have own : (s.calls call).attempt? = some (id, promise) := by rw [current]; rfl
  refine inv.leave rfl (.inl rfl) (fun _ _ _ _ same => by simp at same) ?_
    (inv.distinct.sublist (List.filter_sublist.map _))
  intro id' promise'
  simp only [eraseId, List.mem_filter, bne_iff_ne, own, ne_eq, Option.some.injEq, Prod.mk.injEq]
  refine and_congr_right fun member => ⟨fun foreign same => foreign same.1.symm, ?_⟩
  rintro foreign rfl
  obtain ⟨_, owner, attempt⟩ := (inv.pending _ _).mp member
  have same := inv.unique owner call id' promise' promise attempt own
  rw [same, own] at attempt
  simp only [Option.some.injEq, Prod.mk.injEq] at attempt
  exact foreign ⟨rfl, attempt.2⟩

/-- Every step keeps the channel correlated. -/
theorem step_correlated {s s' : ControlChannel} {action : ControlAction}
    (taken : step s action = some s') (inv : s.Correlated) : s'.Correlated := by
  -- Every action is one of five changes: advancing, leaving, registering, answering or failing.
  cases action with
  | reject call =>
    simp only [step, Option.ite_none_right_eq_some, Option.some.injEq] at taken
    obtain ⟨idle, rfl⟩ := taken
    exact inv.leaveIdle (by rw [idle]; rfl)
  | register call id =>
    simp only [step, Option.ite_none_right_eq_some, Option.some.injEq] at taken
    obtain ⟨⟨ready, _, fresh⟩, rfl⟩ := taken
    refine inv.register ?_ fresh
    -- Neither a call that has not started nor one between two attempts has a promise.
    rcases ready with phase | phase <;> rw [phase] <;> exact ⟨rfl, rfl⟩
  | send call accepted =>
    simp only [step] at taken
    split at taken
    · rename_i current
      cases taken
      exact inv.advance current _
    · simp at taken
  | timeout call =>
    simp only [step] at taken
    split at taken
    · rename_i current
      simp only [Option.ite_none_right_eq_some, Option.some.injEq] at taken
      obtain ⟨_, rfl⟩ := taken
      exact inv.advance current _
    · simp at taken
  | erase call =>
    simp only [step] at taken
    split at taken
    · rename_i current
      cases taken
      exact inv.leaveErased current
    · rename_i current
      cases taken
      exact inv.leaveErased current
    · simp at taken
  | collect call =>
    simp only [step] at taken
    split at taken
    case h_2 => simp at taken
    -- The outcome decides: a busy answer, an answer to return, or an exception.
    rename_i id promise current
    have attempt : (s.calls call).attempt? = some (id, promise) := by rw [current]; rfl
    split at taken
    · rename_i position message given
      split at taken
      · cases taken
        exact inv.leaveAnswered current (by simp [given]) rfl (.inl rfl) (by simp)
      · rename_i ready
        cases taken
        apply inv.leaveAnswered current (by simp [given]) rfl (.inr rfl)
        rintro _ _ _ _ ⟨⟩
        exact ⟨given, inv.answered call id promise position message attempt given,
          by simpa using ready⟩
    · rename_i what given
      cases taken
      exact inv.leaveAnswered current (by simp [given]) rfl (.inl rfl) (by simp)
    · simp at taken
  | giveUp call =>
    simp only [step, Option.ite_none_right_eq_some, Option.some.injEq] at taken
    obtain ⟨waiting, rfl⟩ := taken
    exact inv.leaveIdle (by rw [waiting]; rfl)
  | receive message =>
    cases taken
    exact inv.processMessage message
  | failAll what =>
    cases taken
    exact inv.failPending what

/-- Every reachable channel is correlated. -/
theorem reachable_correlated {s : ControlChannel}
    (reached : Transition.Reachable step initial s) : s.Correlated :=
  -- The invariant holds without calls, and every step keeps it.
  Transition.reachable_preserves initial_correlated
    (fun _ _ _ inv taken => step_correlated taken inv) reached

/--
Responses reach the request they answer, whatever the interleaving.

A call returns a message with the identifier of its last attempt that is no busy response, a
received message is given to one promise of one call at most, and the pending table holds exactly
the identifiers of the attempts whose promise is still empty, each of them once.
-/
theorem responses_correlated {s : ControlChannel}
    (reached : Transition.Reachable step initial s) :
    (∀ call id promise position message, s.calls call = .returned id promise position message →
      message.id = id ∧ message.hasBusyResponse = false) ∧
    (∀ promise other position message another,
      s.promises promise = some (.response position message) →
      s.promises other = some (.response position another) → promise = other) ∧
    (∀ call other promise, (s.calls call).promise? = some promise →
      (s.calls other).promise? = some promise → call = other) ∧
    (∀ call other id promise position message id' promise' another,
      s.calls call = .returned id promise position message →
      s.calls other = .returned id' promise' position another → call = other) ∧
    (∀ id, id ∈ s.pending.map Prod.fst ↔ ∃ call promise,
      (s.calls call).attempt? = some (id, promise) ∧ s.promises promise = none) ∧
    (s.pending.map Prod.fst).Nodup := by
  -- Each clause is read off the invariant; two calls with one message share its promise.
  have inv := reachable_correlated reached
  refine ⟨?_, inv.once, inv.owned, ?_, ?_, inv.distinct⟩
  · exact fun call id promise position message back =>
      (inv.returned call id promise position message back).2
  · intro call other id promise position message id' promise' another back back'
    have given := (inv.returned call id promise position message back).1
    have given' := (inv.returned other id' promise' position another back').1
    obtain rfl := inv.once promise promise' position message another given given'
    exact inv.owned call other promise (by rw [back]; rfl) (by rw [back']; rfl)
  · intro id
    constructor
    · intro member
      obtain ⟨⟨_, promise⟩, entry, rfl⟩ := List.mem_map.mp member
      obtain ⟨unset, call, current⟩ := (inv.pending _ _).mp entry
      exact ⟨call, promise, current, unset⟩
    · intro found
      obtain ⟨call, promise, current, unset⟩ := found
      exact List.mem_map.mpr ⟨(id, promise), (inv.pending _ _).mpr ⟨unset, call, current⟩, rfl⟩

/-- A run of two calls: one is answered busy, retries and is answered twice. -/
def retryRun : List ControlAction :=
  [.register 0 "a", .register 1 "b", .send 0 true, .send 1 true,
    .receive ⟨"a", some .busyResponse⟩, .collect 0, .register 0 "c", .send 0 true,
    .receive ⟨"c", some (.other 9)⟩, .receive ⟨"c", some (.other 9)⟩, .collect 0]

/-- The retried call returns the answer to its second identifier, the other call still waits. -/
theorem responses_correlated_retry :
    ∃ s, Transition.run step initial retryRun = some s ∧
      s.calls 0 = .returned "c" 2 1 ⟨"c", some (.other 9)⟩ ∧ s.pending = [("b", 1)] ∧
      (s.pending.map Prod.fst).Nodup :=
  ⟨_, rfl, rfl, rfl, (responses_correlated ⟨retryRun, rfl⟩).2.2.2.2.2⟩

end ControlChannel

end Pybrid
