import Pybrid.Library.Locks
import Pybrid.Library.Transition

/-! Python callbacks of a control channel: the interpreter lock against the callback mutex. -/

namespace Pybrid

/-- The two locks between Python and the receive thread. -/
inductive ChannelLock where
  /-- The global interpreter lock. -/
  | gil
  /-- `callback_mutex_` of the control channel. -/
  | callbackMutex
  deriving DecidableEq, Repr

/-- The two threads. -/
inductive ChannelThread where
  | python
  | receive
  deriving DecidableEq, Repr

/-- The bound methods that change the table of callbacks, none of which lets go of the GIL first. -/
inductive CallbackCall where
  | register (fieldNumber : Nat)
  | unregister (fieldNumber : Nat)
  /-- `stop`, which clears the table before it lets go of the GIL and joins the receive thread. -/
  | stop
  deriving DecidableEq, Repr

/-- Where the Python thread is. -/
inductive PythonPoint where
  /-- Executes Python code with the GIL held. -/
  | running
  /-- Has let go of the GIL. -/
  | released
  /-- Waits for the GIL. -/
  | acquiring
  /-- Holds the GIL inside a bound method, and waits for the callback mutex. -/
  | calling (call : CallbackCall)
  /-- Holds the GIL and the callback mutex. -/
  | changing (call : CallbackCall)
  /-- Has let go of the GIL inside `stop`, and joins the receive thread. -/
  | joining
  deriving DecidableEq, Repr

/-- Where the receive thread is. -/
inductive CallbackPoint where
  /-- Between two messages. -/
  | receiving
  /-- Has a message of this kind, and waits for the callback mutex. -/
  | entering (fieldNumber : Nat)
  /-- Holds the callback mutex, and looks the callback up. -/
  | lookup (fieldNumber : Nat)
  /-- Holds the callback mutex inside a callback, and waits for the GIL. -/
  | acquiring
  /-- Holds both, and executes the Python callback. -/
  | calling
  /-- The loop has ended. -/
  | ended
  deriving DecidableEq, Repr

/-- A control channel whose callbacks are Python functions. -/
structure CallbackLocks where
  /-- `running_` of the channel. -/
  channelRunning : Bool
  /-- The kinds with a registered callback. -/
  callbacks : Nat → Bool
  python : PythonPoint
  receive : CallbackPoint

/-- Atomic steps of the two threads. -/
inductive CallbackLocksAction where
  /-- The Python thread lets go of the GIL, at a switch or around a blocking call. -/
  | release
  /-- The Python thread asks for the GIL again. -/
  | request
  /-- The Python thread gets the GIL. -/
  | acquire
  /-- The Python thread calls a bound method. -/
  | call (call : CallbackCall)
  /-- The Python thread gets the callback mutex. -/
  | lockCall
  /-- The Python thread changes the table, and lets go of the callback mutex. -/
  | change
  /-- The receive thread has ended, and `stop` goes on to ask for the GIL. -/
  | join
  /-- The receive thread gets an unsolicited message. -/
  | message (fieldNumber : Nat)
  /-- The receive thread gets the callback mutex. -/
  | lockDispatch
  /-- The receive thread enters the callback it has found, or returns. -/
  | lookup
  /-- The receive thread gets the GIL. -/
  | acquireCallback
  /-- The interpreter takes the GIL from the callback, which asks for it again. -/
  | switchCallback
  /-- The callback returns, and both locks are let go of. -/
  | finish
  /-- The receive loop sees that the channel is stopped. -/
  | exit
  deriving DecidableEq, Repr

/-- The Python thread holds this lock. -/
def PythonPoint.holds : PythonPoint → ChannelLock → Bool
  | .running, .gil | .calling _, .gil | .changing _, .gil => true
  | .changing _, .callbackMutex => true
  | _, _ => false

/-- The Python thread waits for this lock. -/
def PythonPoint.waits : PythonPoint → ChannelLock → Bool
  | .acquiring, .gil => true
  | .calling _, .callbackMutex => true
  | _, _ => false

/-- The receive thread holds this lock. -/
def CallbackPoint.holds : CallbackPoint → ChannelLock → Bool
  | .calling, .gil => true
  | .lookup _, .callbackMutex | .acquiring, .callbackMutex | .calling, .callbackMutex => true
  | _, _ => false

/-- The receive thread waits for this lock. -/
def CallbackPoint.waits : CallbackPoint → ChannelLock → Bool
  | .acquiring, .gil => true
  | .entering _, .callbackMutex => true
  | _, _ => false

/-- The Python thread is inside a bound method before it has the callback mutex. -/
def PythonPoint.isCalling : PythonPoint → Bool
  | .calling _ => true
  | _ => false

namespace CallbackLocks

/-- A started channel with these callbacks, and a Python thread that holds the GIL. -/
def initial (callbacks : Nat → Bool) : CallbackLocks where
  channelRunning := true
  callbacks := callbacks
  python := .running
  receive := .receiving

/-- Which thread holds and waits for which lock. -/
def view (s : CallbackLocks) : Locks.View ChannelThread ChannelLock where
  holds
    | .python, lock => s.python.holds lock = true
    | .receive, lock => s.receive.holds lock = true
  waits
    | .python, lock => s.python.waits lock = true
    | .receive, lock => s.receive.waits lock = true

/-- Neither thread holds this lock. -/
def Free (s : CallbackLocks) (lock : ChannelLock) : Prop :=
  s.python.holds lock = false ∧ s.receive.holds lock = false

instance (s : CallbackLocks) (lock : ChannelLock) : Decidable (s.Free lock) :=
  inferInstanceAs (Decidable (_ ∧ _))

/-- What a bound method does while it holds both locks. -/
def change (s : CallbackLocks) : CallbackCall → CallbackLocks
  | .register fieldNumber =>
    { s with callbacks := Function.update s.callbacks fieldNumber true, python := .running }
  | .unregister fieldNumber =>
    { s with callbacks := Function.update s.callbacks fieldNumber false, python := .running }
  -- Stopping goes on without the GIL.
  | .stop =>
    { s with callbacks := fun _ => false, channelRunning := false, python := .joining }

/-- One atomic step. -/
def step (s : CallbackLocks) : CallbackLocksAction → Option CallbackLocks
  | .release => if s.python = .running then some { s with python := .released } else none
  | .request => if s.python = .released then some { s with python := .acquiring } else none
  | .acquire =>
    if s.python = .acquiring ∧ s.Free .gil then some { s with python := .running } else none
  -- The bindings enter these methods with the GIL held.
  | .call call => if s.python = .running then some { s with python := .calling call } else none
  | .lockCall =>
    match s.python with
    | .calling call =>
      if s.Free .callbackMutex then some { s with python := .changing call } else none
    | _ => none
  | .change =>
    match s.python with
    | .changing call => some (s.change call)
    | _ => none
  | .join =>
    if s.python = .joining ∧ s.receive = .ended then some { s with python := .acquiring } else none
  | .message fieldNumber =>
    -- A receive that is under way when the channel is stopped still delivers.
    if s.receive = .receiving then some { s with receive := .entering fieldNumber } else none
  | .lockDispatch =>
    match s.receive with
    | .entering fieldNumber =>
      if s.Free .callbackMutex then some { s with receive := .lookup fieldNumber } else none
    | _ => none
  | .lookup =>
    match s.receive with
    | .lookup fieldNumber =>
      some { s with receive := if s.callbacks fieldNumber then .acquiring else .receiving }
    | _ => none
  | .acquireCallback =>
    if s.receive = .acquiring ∧ s.Free .gil then some { s with receive := .calling } else none
  -- Python code inside the callback gives the GIL away like any other, still under the mutex.
  | .switchCallback => if s.receive = .calling then some { s with receive := .acquiring } else none
  -- The callback and the dispatch return one after the other.
  | .finish => if s.receive = .calling then some { s with receive := .receiving } else none
  | .exit =>
    if s.receive = .receiving ∧ s.channelRunning = false then some { s with receive := .ended }
    else none

/-- The receive thread holds the callback mutex, and a callback is going to need the GIL. -/
def HeadsForGil (s : CallbackLocks) : Prop :=
  s.receive = .acquiring ∨ ∃ fieldNumber, s.receive = .lookup fieldNumber ∧ s.callbacks fieldNumber

/--
The two sides do not meet.

A bound method is called only when the receive thread is not on its way from the callback mutex to
the GIL, and the receive thread takes the callback mutex for a message that has a callback only when
no bound method waits for it.
-/
def Separated (s : CallbackLocks) : CallbackLocksAction → Prop
  | .call _ => ¬s.HeadsForGil
  | .lockDispatch => ∀ fieldNumber, s.receive = .entering fieldNumber →
    s.callbacks fieldNumber = true → s.python.isCalling = false
  | _ => True

/-- No bound method waits for a receive thread that is on its way, and each lock has one holder. -/
structure Apart (s : CallbackLocks) : Prop where
  calls : s.python.isCalling = true → ¬s.HeadsForGil
  gil : s.python.holds .gil = true → s.receive.holds .gil = false
  mutex : s.python.holds .callbackMutex = true → s.receive.holds .callbackMutex = false

/-- The sides are apart while the Python thread is outside the bound methods. -/
theorem Apart.ofPython {s : CallbackLocks} {point : PythonPoint}
    (outside : point.isCalling = false)
    (gil : point.holds .gil = true → s.receive.holds .gil = false)
    (mutex : point.holds .callbackMutex = false) : { s with python := point }.Apart :=
  ⟨fun calling => by simp [outside] at calling, gil, fun holds => by simp [mutex] at holds⟩

/-- The sides are apart while the receive thread holds nothing. -/
theorem Apart.ofReceive {s : CallbackLocks} {point : CallbackPoint}
    (outside : ∀ lock, point.holds lock = false) : { s with receive := point }.Apart := by
  refine ⟨fun _ heads => ?_, fun _ => outside .gil, fun _ => outside .callbackMutex⟩
  -- Both ways of being on the way to the GIL hold the callback mutex.
  have idle := outside .callbackMutex
  rcases heads with acquiring | ⟨fieldNumber, looking, _⟩
  · simp [show point = .acquiring from acquiring, CallbackPoint.holds] at idle
  · simp [show point = .lookup fieldNumber from looking, CallbackPoint.holds] at idle

/-- Changing the table ends outside the callback mutex, and leaves the receive thread where it is. -/
theorem change_outside (s : CallbackLocks) (call : CallbackCall) :
    (s.change call).receive = s.receive ∧ (s.change call).python.isCalling = false ∧
      (s.change call).python.holds .callbackMutex = false := by
  cases call <;> exact ⟨rfl, rfl, rfl⟩

/-- Changing the table keeps the sides apart. -/
theorem Apart.change {s : CallbackLocks} (apart : s.Apart) {call : CallbackCall}
    (changing : s.python = .changing call) : (s.change call).Apart := by
  obtain ⟨receive, outside, unlocked⟩ := change_outside s call
  refine ⟨fun calling => ?_, fun _ => ?_, fun holds => ?_⟩
  · simp [outside] at calling
  · -- The GIL was held all along, so the receive thread does not have it.
    rw [receive]
    exact apart.gil (by simp [changing, PythonPoint.holds])
  · simp [unlocked] at holds

/-- Every step in which the two sides do not meet keeps them apart. -/
theorem Apart.step {s next : CallbackLocks} {action : CallbackLocksAction} (apart : s.Apart)
    (separated : s.Separated action) (stepped : s.step action = some next) : next.Apart := by
  cases action with
  | release =>
    -- Without the GIL the Python thread is outside the bound methods.
    simp only [CallbackLocks.step, Option.ite_none_right_eq_some, Option.some.injEq] at stepped
    obtain ⟨_, rfl⟩ := stepped
    exact Apart.ofPython rfl (by simp [PythonPoint.holds]) rfl
  | request =>
    simp only [CallbackLocks.step, Option.ite_none_right_eq_some, Option.some.injEq] at stepped
    obtain ⟨_, rfl⟩ := stepped
    exact Apart.ofPython rfl (by simp [PythonPoint.holds]) rfl
  | acquire =>
    -- The GIL was free, so the receive thread does not have it.
    simp only [CallbackLocks.step, Option.ite_none_right_eq_some, Option.some.injEq] at stepped
    obtain ⟨⟨_, free⟩, rfl⟩ := stepped
    exact Apart.ofPython rfl (fun _ => free.2) rfl
  | call call =>
    simp only [CallbackLocks.step, Option.ite_none_right_eq_some, Option.some.injEq] at stepped
    obtain ⟨running, rfl⟩ := stepped
    -- The receive thread is not on its way now, which is what the condition asks for.
    exact ⟨fun _ => separated, fun _ => apart.gil (by simp [running, PythonPoint.holds]),
      fun holds => by simp [PythonPoint.holds] at holds⟩
  | lockCall =>
    -- The callback mutex was free, so the receive thread does not have it.
    simp only [CallbackLocks.step] at stepped
    split at stepped
    · rename_i call calling
      simp only [Option.ite_none_right_eq_some, Option.some.injEq] at stepped
      obtain ⟨free, rfl⟩ := stepped
      exact ⟨fun calling => by simp [PythonPoint.isCalling] at calling,
        fun _ => apart.gil (by simp [calling, PythonPoint.holds]), fun _ => free.2⟩
    · simp at stepped
  | change =>
    simp only [CallbackLocks.step] at stepped
    split at stepped
    · rename_i call changing
      cases stepped
      exact apart.change changing
    · simp at stepped
  | join =>
    simp only [CallbackLocks.step, Option.ite_none_right_eq_some, Option.some.injEq] at stepped
    obtain ⟨_, rfl⟩ := stepped
    exact Apart.ofPython rfl (by simp [PythonPoint.holds]) rfl
  | message fieldNumber =>
    simp only [CallbackLocks.step, Option.ite_none_right_eq_some, Option.some.injEq] at stepped
    obtain ⟨_, rfl⟩ := stepped
    exact Apart.ofReceive (by simp [CallbackPoint.holds])
  | lockDispatch =>
    simp only [CallbackLocks.step] at stepped
    split at stepped
    · rename_i fieldNumber entering
      simp only [Option.ite_none_right_eq_some, Option.some.injEq] at stepped
      obtain ⟨free, rfl⟩ := stepped
      refine ⟨fun calling heads => ?_, fun _ => rfl, fun holds => ?_⟩
      · -- A message without a callback does not need the GIL, and one with a callback was excluded.
        rcases heads with acquiring | ⟨other, looking, registered⟩
        · simp at acquiring
        · obtain rfl : fieldNumber = other := by simpa using looking
          have idle := separated fieldNumber entering registered
          simp [show s.python.isCalling = true from calling] at idle
      · exact absurd free.1 (by simp [show s.python.holds .callbackMutex = true from holds])
    · simp at stepped
  | lookup =>
    simp only [CallbackLocks.step] at stepped
    split at stepped
    · rename_i fieldNumber looking
      cases stepped
      by_cases registered : s.callbacks fieldNumber = true
      · -- The thread was on its way already.
        simp only [registered, ↓reduceIte]
        refine ⟨fun calling _ => ?_, fun _ => rfl, fun holds => ?_⟩
        · exact apart.calls calling (.inr ⟨fieldNumber, looking, registered⟩)
        · have idle := apart.mutex holds
          simp [looking, CallbackPoint.holds] at idle
      · simp only [registered, ↓reduceIte, Bool.false_eq_true]
        exact Apart.ofReceive (by simp [CallbackPoint.holds])
    · simp at stepped
  | acquireCallback =>
    simp only [CallbackLocks.step, Option.ite_none_right_eq_some, Option.some.injEq] at stepped
    obtain ⟨⟨acquiring, free⟩, rfl⟩ := stepped
    -- A callback that has the GIL no longer heads for it.
    refine ⟨fun _ heads => ?_, fun holds => ?_, fun holds => ?_⟩
    · simp [HeadsForGil] at heads
    · exact absurd holds (by simp [free.1])
    · have idle := apart.mutex holds
      simp [acquiring, CallbackPoint.holds] at idle
  | switchCallback =>
    simp only [CallbackLocks.step, Option.ite_none_right_eq_some, Option.some.injEq] at stepped
    obtain ⟨calling, rfl⟩ := stepped
    -- The callback has held the GIL until now, so no bound method is under way.
    have away : s.python.holds .gil ≠ true := by
      intro holds
      have idle := apart.gil holds
      simp [calling, CallbackPoint.holds] at idle
    refine ⟨fun waits _ => ?_, fun _ => rfl, fun holds => ?_⟩
    · cases point : s.python <;>
        simp_all [PythonPoint.isCalling, PythonPoint.holds]
    · have idle := apart.mutex holds
      simp [calling, CallbackPoint.holds] at idle
  | finish =>
    -- The receive thread is back between two messages, and holds nothing.
    simp only [CallbackLocks.step, Option.ite_none_right_eq_some, Option.some.injEq] at stepped
    obtain ⟨_, rfl⟩ := stepped
    exact Apart.ofReceive (by simp [CallbackPoint.holds])
  | exit =>
    simp only [CallbackLocks.step, Option.ite_none_right_eq_some, Option.some.injEq] at stepped
    obtain ⟨_, rfl⟩ := stepped
    exact Apart.ofReceive (by simp [CallbackPoint.holds])

/-- The Python thread nests the callback mutex under the GIL, inside a bound method. -/
theorem python_nested {s : CallbackLocks} {held wanted : ChannelLock}
    (nested : s.view.Nested .python held wanted) :
    held = .gil ∧ wanted = .callbackMutex ∧ s.python.isCalling = true := by
  obtain ⟨holds, waits⟩ := nested
  simp only [view] at holds waits
  -- The Python thread waits for the callback mutex only inside of a call.
  cases point : s.python <;> cases held <;> cases wanted <;>
    simp_all [PythonPoint.holds, PythonPoint.waits, PythonPoint.isCalling]

/-- The receive thread nests the GIL under the callback mutex, before a callback. -/
theorem receive_nested {s : CallbackLocks} {held wanted : ChannelLock}
    (nested : s.view.Nested .receive held wanted) :
    held = .callbackMutex ∧ wanted = .gil ∧ s.receive = .acquiring := by
  obtain ⟨holds, waits⟩ := nested
  simp only [view] at holds waits
  -- The receiving thread waits for the GIL inside a callback, with the mutex held.
  cases point : s.receive <;> cases held <;> cases wanted <;>
    simp_all [CallbackPoint.holds, CallbackPoint.waits]

/-- Sides that are apart are not crossed. -/
theorem Apart.not_crossed {s : CallbackLocks} (apart : s.Apart) : ¬s.view.Crossed := by
  -- Every nesting involves the GIL, from above or from below.
  apply Locks.View.not_crossed_of_guard .gil
  · intro thread held wanted nested
    cases thread with
    | python => exact .inl (python_nested nested).1
    | receive => exact .inr (receive_nested nested).2.1
  · -- One thread holds the GIL in a bound method while the other waits for it: they are not apart.
    intro thread other lock _ outer inner
    cases thread with
    | receive => exact nomatch (receive_nested outer).1
    | python =>
      cases other with
      | python => exact nomatch (python_nested inner).2.1
      | receive =>
        exact apart.calls (python_nested outer).2.2 (.inl (receive_nested inner).2.2)
  · -- Nobody waits for the GIL while holding it.
    intro thread lock nested
    cases thread with
    | python =>
      obtain ⟨rfl, wanted, _⟩ := python_nested nested
      exact nomatch wanted
    | receive =>
      obtain ⟨rfl, wanted, _⟩ := receive_nested nested
      exact nomatch wanted

/--
No lock cycle between Python and the receive thread while calls and callbacks do not meet.

In every run in which no bound method is called while the receive thread heads for the GIL, and no
message with a callback is dispatched while a bound method waits, the Python thread never holds the
GIL waiting for the callback mutex while the receive thread holds that one waiting for the GIL.
-/
theorem callback_not_crossed (callbacks : Nat → Bool) (actions : List CallbackLocksAction)
    (final : CallbackLocks)
    (separated : Transition.Meets step Separated (initial callbacks) actions)
    (ran : Transition.run step (initial callbacks) actions = some final) :
    ¬final.view.Crossed ∧
      ¬(final.view.Nested .python .gil .callbackMutex ∧
        final.view.Nested .receive .callbackMutex .gil) := by
  have apart : final.Apart := Transition.run_preserves
    (fun _ _ _ held condition stepped => Apart.step held condition stepped) actions
    (initial callbacks) final
    ⟨by simp [initial, PythonPoint.isCalling], fun _ => rfl, fun _ => rfl⟩ separated ran
  refine ⟨apart.not_crossed, fun crossed => apart.not_crossed ?_⟩
  exact ⟨.python, .receive, .gil, .callbackMutex, by simp, crossed.1, crossed.2⟩

/-- A state change delivered before the clean-up of a run leaves nobody blocked. -/
theorem callback_then_unregister :
    ∃ final, Transition.run step (initial fun _ => false)
        [.call (.register 305), .lockCall, .change, .release, .message 305, .lockDispatch, .lookup,
          .acquireCallback, .finish, .request, .acquire, .call (.unregister 305)] = some final ∧
      ¬(final.view.Nested .python .gil .callbackMutex ∧
        final.view.Nested .receive .callbackMutex .gil) := by
  refine ⟨_, rfl, (callback_not_crossed (fun _ => false)
    [.call (.register 305), .lockCall, .change, .release, .message 305, .lockDispatch, .lookup,
      .acquireCallback, .finish, .request, .acquire, .call (.unregister 305)] _ ?_ rfl).2⟩
  simp [Transition.Meets, Separated, HeadsForGil, step, initial, Free, CallbackLocks.change,
    PythonPoint.holds, PythonPoint.isCalling, CallbackPoint.holds]

/--
A state change during the clean-up of a run blocks both threads for good.

The run's callback is registered and then unregistered with the GIL held, while the receive thread
has taken the callback mutex for a late state change and waits for the GIL.
-/
theorem callback_meets_unregister :
    ∃ final, Transition.run step (initial fun _ => false)
        [.call (.register 305), .lockCall, .change, .message 305, .lockDispatch, .lookup,
          .call (.unregister 305)] = some final ∧
      final.view.Crossed ∧ final.view.Nested .python .gil .callbackMutex ∧
        final.view.Nested .receive .callbackMutex .gil := by
  refine ⟨_, rfl, ⟨.python, .receive, .gil, .callbackMutex, by simp, ?_, ?_⟩, ?_, ?_⟩ <;>
    exact ⟨rfl, rfl⟩

end CallbackLocks

end Pybrid
