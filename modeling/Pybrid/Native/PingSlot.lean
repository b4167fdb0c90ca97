import Pybrid.Library.Transition

/-! Concurrent pings on a control channel: one slot for all of them, and answers without an identifier. -/

namespace Pybrid

/-- Where a call of `ping` stands. -/
inductive PingPhase where
  | idle
  /-- Past the checks of the connection, with a promise of its own. -/
  | checked
  /-- The promise has been put into `pending_ping_`, and the command is about to be sent. -/
  | registered
  /-- The command has been sent, and the call waits on its future. -/
  | waiting
  /-- The slot is about to be reset: the transport refused the command, or the wait timed out. -/
  | givingUp
  | returned
  | threw
  deriving DecidableEq, Repr

/-- What the transport does with a ping command. -/
inductive PingSend where
  | accepted
  /-- `send` returns false. -/
  | refused
  /-- `send` throws, because the connection has gone in the meantime. -/
  | thrown
  deriving DecidableEq, Repr

/-- The pings of a control channel; calls are numbered, and each has a promise of its own. -/
structure PingChannel where
  phase : Nat → PingPhase
  /-- `pending_ping_`: whose promise it points to. -/
  pendingPing : Option Nat
  /-- The promises given an outcome so far, oldest first: true for a value, false for an exception. -/
  outcomes : List (Nat × Bool)
  /-- The ping responses the receive thread has processed. -/
  responses : Nat
  /-- How often stopping, reconnecting or a lost connection has failed the slot. -/
  failures : Nat

/-- Atomic steps: the sections under `ping_mutex_`, and what a call does between them. -/
inductive PingAction where
  /-- A call checks the connection, which may be down or being re-established. -/
  | check (call : Nat) (up : Bool)
  | register (call : Nat)
  | send (call : Nat) (result : PingSend)
  /-- The wait of a call runs into its timeout. -/
  | expire (call : Nat)
  /-- The wait of a call finds its future ready. -/
  | wake (call : Nat)
  /-- A call that is about to throw resets the slot. -/
  | reset (call : Nat)
  /-- The receive thread processes a ping response. -/
  | respond
  /-- `stop`, `reconnect` or the end of the receive loop. -/
  | fail
  deriving DecidableEq, Repr

namespace PingChannel

/-- A channel without pings. -/
def initial : PingChannel where
  phase := fun _ => .idle
  pendingPing := none
  outcomes := []
  responses := 0
  failures := 0

/-- Move one call on. -/
def move (s : PingChannel) (call : Nat) (phase : PingPhase) : PingChannel :=
  { s with phase := Function.update s.phase call phase }

/-- Give the promise in the slot an outcome, and empty the slot. -/
def settle (s : PingChannel) (value : Bool) : PingChannel :=
  match s.pendingPing with
  | some call => { s with pendingPing := none, outcomes := s.outcomes ++ [(call, value)] }
  | none => s

/-- The promise of a call has been given an outcome. -/
def Ready (s : PingChannel) (call : Nat) : Prop :=
  call ∈ s.outcomes.map Prod.fst

instance (s : PingChannel) (call : Nat) : Decidable (s.Ready call) :=
  inferInstanceAs (Decidable (call ∈ s.outcomes.map Prod.fst))

/-- One atomic step. -/
def step (s : PingChannel) : PingAction → Option PingChannel
  | .check call up =>
    if s.phase call = .idle then some (s.move call (if up then .checked else .threw)) else none
  | .register call =>
    -- Whoever was in the slot before is not told.
    if s.phase call = .checked then
      some { s.move call .registered with pendingPing := some call }
    else none
  | .send call result =>
    if s.phase call = .registered then
      match result with
      | .accepted => some (s.move call .waiting)
      | .refused => some (s.move call .givingUp)
      -- The exception passes through `ping`, and the promise stays in the slot.
      | .thrown => some (s.move call .threw)
    else none
  | .expire call =>
    if s.phase call = .waiting ∧ ¬s.Ready call then some (s.move call .givingUp) else none
  | .wake call =>
    -- The future is waited for and not read, so that an exception in it is not noticed.
    if s.phase call = .waiting ∧ s.Ready call then some (s.move call .returned) else none
  | .reset call =>
    -- The slot is emptied whoever is in it by now.
    if s.phase call = .givingUp then
      some { s.move call .threw with pendingPing := none }
    else none
  | .respond => some { s.settle true with responses := s.responses + 1 }
  | .fail => some { s.settle false with failures := s.failures + 1 }

/-- The promise in the slot belongs to a call that has registered, and has no outcome yet. -/
structure Slotted (s : PingChannel) : Prop where
  distinct : (s.outcomes.map Prod.fst).Nodup
  fresh : ∀ call, s.pendingPing = some call → ¬s.Ready call
  /-- Before a call registers, its promise is known to nobody. -/
  unknown : ∀ call, s.phase call = .idle ∨ s.phase call = .checked →
    s.pendingPing ≠ some call ∧ ¬s.Ready call
  settled : ∀ call, s.phase call = .returned → s.Ready call
  answered : (s.outcomes.filter fun outcome => outcome.2).length ≤ s.responses
  failed : (s.outcomes.filter fun outcome => !outcome.2).length ≤ s.failures

@[simp] theorem move_pendingPing (s : PingChannel) (call : Nat) (phase : PingPhase) :
    (s.move call phase).pendingPing = s.pendingPing := rfl

@[simp] theorem move_outcomes (s : PingChannel) (call : Nat) (phase : PingPhase) :
    (s.move call phase).outcomes = s.outcomes := rfl

@[simp] theorem ready_move (s : PingChannel) (call other : Nat) (phase : PingPhase) :
    (s.move call phase).Ready other ↔ s.Ready other := Iff.rfl

theorem move_phase (s : PingChannel) (call other : Nat) (phase : PingPhase) :
    (s.move call phase).phase other = if other = call then phase else s.phase other := by
  simp [move, Function.update_apply]

@[simp] theorem settle_phase (s : PingChannel) (value : Bool) :
    (s.settle value).phase = s.phase := by
  unfold settle
  split <;> rfl

@[simp] theorem settle_responses (s : PingChannel) (value : Bool) :
    (s.settle value).responses = s.responses := by
  unfold settle
  split <;> rfl

@[simp] theorem settle_failures (s : PingChannel) (value : Bool) :
    (s.settle value).failures = s.failures := by
  unfold settle
  split <;> rfl

/-- Settling empties the slot. -/
@[simp] theorem settle_pendingPing (s : PingChannel) (value : Bool) :
    (s.settle value).pendingPing = none := by
  unfold settle
  -- Without a pending ping the slot is empty already.
  split
  · rfl
  · assumption

/-- Settling readies the call in the slot, and no other one. -/
theorem ready_settle (s : PingChannel) (value : Bool) (call : Nat) :
    (s.settle value).Ready call ↔ s.Ready call ∨ s.pendingPing = some call := by
  unfold settle Ready
  split
  -- The call in the slot is the one that becomes ready.
  · rename_i holder slot
    simp [slot, eq_comm]
  · rename_i slot
    simp [slot]

/-- Nobody is in the slot of a new channel. -/
theorem initial_slotted : initial.Slotted where
  distinct := List.nodup_nil
  fresh := by simp [initial]
  unknown := by simp [initial, Ready]
  settled := by simp [initial]
  -- Nothing has been answered, and nothing has failed.
  answered := Nat.le_refl 0
  failed := Nat.le_refl 0

/-- Moving a call keeps the slot in order, as long as it does not go back before its registration. -/
theorem Slotted.move {s : PingChannel} (inv : s.Slotted) (call : Nat) (phase : PingPhase)
    (known : phase = .idle ∨ phase = .checked → s.phase call = .idle ∨ s.phase call = .checked)
    (ready : phase = .returned → s.Ready call) : (s.move call phase).Slotted where
  distinct := inv.distinct
  fresh := inv.fresh
  unknown := by
    intro other early
    rw [move_phase] at early
    -- Only the phase of this call has changed.
    split at early
    · rename_i same
      exact inv.unknown other (same ▸ known early)
    · exact inv.unknown other early
  settled := by
    intro other returned
    rw [move_phase] at returned
    split at returned
    · rename_i same
      exact same ▸ ready returned
    · exact inv.settled other returned
  answered := inv.answered
  failed := inv.failed

/-- An outcome goes to the promise in the slot, which had none. -/
theorem Slotted.settle_outcomes {s : PingChannel} (inv : s.Slotted) (value : Bool) :
    ((s.settle value).outcomes.map Prod.fst).Nodup ∧
      ((s.settle value).outcomes.filter fun outcome => outcome.2).length ≤
        s.responses + (if value then 1 else 0) ∧
      ((s.settle value).outcomes.filter fun outcome => !outcome.2).length ≤
        s.failures + (if value then 0 else 1) := by
  have answered := inv.answered
  have failed := inv.failed
  unfold PingChannel.settle
  -- An empty slot gives nobody an outcome.
  split
  · rename_i call slot
    refine ⟨?_, ?_, ?_⟩
    · have new := inv.fresh call slot
      simp only [Ready] at new
      simp only [List.map_append, List.map_cons, List.map_nil]
      exact List.nodup_append.mpr ⟨inv.distinct, List.nodup_singleton call, by
        intro a member b single
        rw [List.mem_singleton.mp single]
        exact fun same => new (same ▸ member)⟩
    · cases value <;> simp [List.filter_append] <;> omega
    · cases value <;> simp [List.filter_append] <;> omega
  · exact ⟨inv.distinct, by split <;> omega, by split <;> omega⟩

/-- A call that has not registered gains nothing by it, and one that has returned loses nothing. -/
theorem Slotted.settle_calls {s : PingChannel} (inv : s.Slotted) (value : Bool) :
    (∀ call, s.phase call = .idle ∨ s.phase call = .checked →
      (s.settle value).pendingPing ≠ some call ∧ ¬(s.settle value).Ready call) ∧
      ∀ call, s.phase call = .returned → (s.settle value).Ready call := by
  refine ⟨fun call early => ⟨by simp, ?_⟩, fun call returned => ?_⟩
  · rw [ready_settle]
    obtain ⟨absent, unready⟩ := inv.unknown call early
    tauto
  · exact (ready_settle s value call).mpr (.inl (inv.settled call returned))

/-- Every step keeps the slot in order. -/
theorem Slotted.step {s s' : PingChannel} {action : PingAction} (inv : s.Slotted)
    (stepped : s.step action = some s') : s'.Slotted := by
  cases action with
  | check call up =>
    simp only [PingChannel.step, Option.ite_none_right_eq_some, Option.some.injEq] at stepped
    obtain ⟨idle, rfl⟩ := stepped
    exact inv.move call _ (fun _ => .inl idle) (by cases up <;> simp)
  | register call =>
    simp only [PingChannel.step, Option.ite_none_right_eq_some, Option.some.injEq] at stepped
    obtain ⟨checked, rfl⟩ := stepped
    have moved := inv.move call .registered (by simp) (by simp)
    -- The newcomer's promise is the only one that enters the slot, and nobody had settled it.
    refine { moved with fresh := ?_, unknown := ?_ }
    · intro other slot
      obtain rfl := Option.some.inj slot
      exact (inv.unknown call (.inr checked)).2
    · intro other early
      refine ⟨fun slot => ?_, (moved.unknown other early).2⟩
      obtain rfl := Option.some.inj slot
      simp [move_phase] at early
  | send call result =>
    simp only [PingChannel.step, Option.ite_none_right_eq_some] at stepped
    obtain ⟨_, stepped⟩ := stepped
    cases result <;>
    · simp only [Option.some.injEq] at stepped
      exact stepped ▸ inv.move call _ (by simp) (by simp)
  | expire call =>
    simp only [PingChannel.step, Option.ite_none_right_eq_some, Option.some.injEq] at stepped
    obtain ⟨_, rfl⟩ := stepped
    exact inv.move call _ (by simp) (by simp)
  | wake call =>
    simp only [PingChannel.step, Option.ite_none_right_eq_some, Option.some.injEq] at stepped
    obtain ⟨⟨_, ready⟩, rfl⟩ := stepped
    exact inv.move call _ (by simp) (fun _ => ready)
  | reset call =>
    simp only [PingChannel.step, Option.ite_none_right_eq_some, Option.some.injEq] at stepped
    obtain ⟨_, rfl⟩ := stepped
    have moved := inv.move call .threw (by simp) (by simp)
    exact { moved with
      fresh := by simp
      unknown := fun other early => ⟨by simp, (moved.unknown other early).2⟩ }
  | respond =>
    obtain rfl := Option.some.inj stepped
    obtain ⟨distinct, answered, failed⟩ := inv.settle_outcomes true
    obtain ⟨unknown, settled⟩ := inv.settle_calls true
    refine ⟨distinct, by simp, ?_, ?_, answered, by simpa using failed⟩
    · exact fun call early => unknown call (by simpa using early)
    · exact fun call returned => settled call (by simpa using returned)
  | fail =>
    obtain rfl := Option.some.inj stepped
    obtain ⟨distinct, answered, failed⟩ := inv.settle_outcomes false
    obtain ⟨unknown, settled⟩ := inv.settle_calls false
    refine ⟨distinct, by simp, ?_, ?_, by simpa using answered, failed⟩
    · exact fun call early => unknown call (by simpa using early)
    · exact fun call returned => settled call (by simpa using returned)

/-- Every reachable state keeps the slot in order. -/
theorem reachable_slotted {s : PingChannel} (reached : Transition.Reachable step initial s) :
    s.Slotted :=
  Transition.reachable_preserves initial_slotted (fun _ _ _ inv stepped => inv.step stepped) reached

/-- A call that is lost: registered, but with a promise that is neither in the slot nor settled. -/
def Lost (s : PingChannel) (call : Nat) : Prop :=
  s.phase call ≠ .idle ∧ s.phase call ≠ .checked ∧ s.pendingPing ≠ some call ∧ ¬s.Ready call

/-- A phase changes by a step of the call itself, which never goes back before its registration. -/
theorem Lost.move {s : PingChannel} {call : Nat} (lost : s.Lost call) (other : Nat)
    (phase : PingPhase) (forth : other = call → phase ≠ .idle ∧ phase ≠ .checked) : (s.move other phase).Lost call := by
  obtain ⟨begun, checked, absent, unready⟩ := lost
  refine ⟨?_, ?_, absent, unready⟩ <;>
  · rw [move_phase]
    split
    · rename_i same
      simp [forth same.symm]
    · assumption

/-- Who is lost stays lost. -/
theorem Lost.step {s s' : PingChannel} {action : PingAction} {call : Nat} (lost : s.Lost call)
    (stepped : s.step action = some s') : s'.Lost call := by
  have begun := lost.1
  have checked := lost.2.1
  have absent := lost.2.2.1
  have unready := lost.2.2.2
  cases action with
  | check other up =>
    simp only [PingChannel.step, Option.ite_none_right_eq_some, Option.some.injEq] at stepped
    obtain ⟨idle, rfl⟩ := stepped
    exact lost.move other _ fun same => absurd (same ▸ idle) begun
  | register other =>
    simp only [PingChannel.step, Option.ite_none_right_eq_some, Option.some.injEq] at stepped
    obtain ⟨early, rfl⟩ := stepped
    -- Only its own registration could bring a call back into the slot.
    have different : other ≠ call := fun same => checked (same ▸ early)
    obtain ⟨begun', checked', _, _⟩ :=
      lost.move other .registered fun same => absurd same different
    exact ⟨begun', checked', fun slot => different (Option.some.inj slot), unready⟩
  | send other result =>
    simp only [PingChannel.step, Option.ite_none_right_eq_some] at stepped
    obtain ⟨_, stepped⟩ := stepped
    cases result <;>
    · simp only [Option.some.injEq] at stepped
      exact stepped ▸ lost.move other _ (by simp)
  | expire other =>
    simp only [PingChannel.step, Option.ite_none_right_eq_some, Option.some.injEq] at stepped
    obtain ⟨_, rfl⟩ := stepped
    exact lost.move other _ (by simp)
  | wake other =>
    simp only [PingChannel.step, Option.ite_none_right_eq_some, Option.some.injEq] at stepped
    obtain ⟨_, rfl⟩ := stepped
    exact lost.move other _ (by simp)
  | reset other =>
    simp only [PingChannel.step, Option.ite_none_right_eq_some, Option.some.injEq] at stepped
    obtain ⟨_, rfl⟩ := stepped
    obtain ⟨begun', checked', _, _⟩ := lost.move other .threw (by simp)
    exact ⟨begun', checked', by simp, unready⟩
  | respond =>
    obtain rfl := Option.some.inj stepped
    refine ⟨by simpa using begun, by simpa using checked, by simp, ?_⟩
    show ¬(s.settle true).Ready call
    rw [ready_settle]
    tauto
  | fail =>
    obtain rfl := Option.some.inj stepped
    refine ⟨by simpa using begun, by simpa using checked, by simp, ?_⟩
    show ¬(s.settle false).Ready call
    rw [ready_settle]
    tauto

/-- Who is lost is lost after every run. -/
theorem Lost.run {call : Nat} (actions : List PingAction) : ∀ {s s' : PingChannel}, s.Lost call →
    Transition.run PingChannel.step s actions = some s' → s'.Lost call := by
  -- The induction is on the steps still to come.
  induction actions with
  | nil =>
    intro s s' lost ran
    exact Option.some.inj ran ▸ lost
  | cons action later ih =>
    intro s s' lost ran
    obtain ⟨next, stepped, ran⟩ := Option.bind_eq_some_iff.mp ran
    exact ih (lost.step stepped) ran

/--
A waiting ping can still return normally exactly while its promise is in the slot or settled.

So a second ping makes the first one fail whatever the device answers, and so does the timeout of
any other ping.
-/
theorem ping_returns_iff {s : PingChannel} (reached : Transition.Reachable step initial s)
    {call : Nat} (waits : s.phase call = .waiting) :
    (∃ actions s', Transition.run step s actions = some s' ∧ s'.phase call = .returned) ↔
      s.pendingPing = some call ∨ s.Ready call := by
  constructor
  · rintro ⟨actions, s', ran, returned⟩
    by_contra neither
    push Not at neither
    have lost : s.Lost call := ⟨by simp [waits], by simp [waits], neither.1, neither.2⟩
    -- A returned call is ready, and one that is lost never becomes it.
    have after : s'.Slotted := by
      obtain ⟨before, start⟩ := reached
      refine reachable_slotted ⟨before ++ actions, ?_⟩
      rw [Transition.run_append, start, Option.bind_some, ran]
    exact (Lost.run actions lost ran).2.2.2 (after.settled call returned)
  · rintro (slot | ready)
    · -- The next answer is for this call, and wakes it.
      let answered : PingChannel := { s.settle true with responses := s.responses + 1 }
      have ready : answered.Ready call := (ready_settle s true call).mpr (.inr slot)
      have waits' : answered.phase call = .waiting := by simpa [answered] using waits
      refine ⟨[.respond, .wake call], answered.move call .returned, ?_, by simp [move_phase]⟩
      show (answered.step (.wake call)).bind (fun next => some next) = _
      simp [PingChannel.step, waits', ready]
    · refine ⟨[.wake call], s.move call .returned, ?_, by simp [move_phase]⟩
      simp [Transition.run, PingChannel.step, waits, ready]

/-- A second ping takes the slot while the first one waits. -/
def overtakenRun : List PingAction :=
  [.check 0 true, .register 0, .send 0 .accepted, .check 1 true, .register 1]

/-- With a second ping in the slot, the first one can no longer return. -/
theorem ping_returns_iff_overtaken :
    ∃ s, Transition.run step initial overtakenRun = some s ∧
      ¬∃ actions s', Transition.run step s actions = some s' ∧ s'.phase 0 = .returned := by
  refine ⟨_, rfl, fun possible => ?_⟩
  rcases (ping_returns_iff ⟨overtakenRun, rfl⟩ rfl).mp possible with slot | ready
  · exact absurd slot (by decide)
  · exact absurd ready (by decide)

end PingChannel

end Pybrid
