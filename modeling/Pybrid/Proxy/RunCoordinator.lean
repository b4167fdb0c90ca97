import Pybrid.Library.Trace
import Pybrid.Library.Transition

/-! The proxy's completion barrier: a counter of DONE messages shared by all runs. -/

namespace Pybrid

/-- The coordinator's counters. -/
structure RunCoordinator where
  backendCount : Nat
  runId : Nat
  takeOffCount : Nat
  doneCount : Nat
  deriving DecidableEq, Repr

/-- Count a DONE, and tell whether as many have been counted as there are backends. -/
def RunCoordinator.onDone (c : RunCoordinator) : RunCoordinator × Bool :=
  ({ c with doneCount := c.doneCount + 1 }, decide (c.backendCount ≤ c.doneCount + 1))

/-- Count a TAKE_OFF. -/
def RunCoordinator.onTakeOff (c : RunCoordinator) : RunCoordinator :=
  { c with takeOffCount := c.takeOffCount + 1 }

/-- The next statement of `handle_start_run`. -/
inductive StartPoint where
  /-- Not inside. -/
  | outside
  /-- The run identifier is counted up; `take_off_count_` is cleared next. -/
  | resetTakeOff
  /-- `done_count_` is cleared next. -/
  | resetDone
  /-- The session's `done_received` is cleared next. -/
  | clearFlag
  /-- The command is sent to the backends next. -/
  | broadcast
  deriving DecidableEq, Repr

/-- What the barrier has seen and done. -/
inductive BarrierEvent where
  /-- A run has become the current one. -/
  | started
  /-- A forward callback has received the DONE of a backend for a run. -/
  | reported (backend run : Nat)
  /-- `on_done` has returned true. -/
  | completed
  /-- The session's `done_received` has been set by it. -/
  | flagged
  deriving DecidableEq, Repr

/-- The coordinator, the session thread and the threads that run the forward callbacks. -/
structure DoneBarrier where
  coordinator : RunCoordinator
  /-- `done_received` of the active session. -/
  doneReceived : Bool
  start : StartPoint
  /-- The thread has seen `on_done` return true, and sets the flag next. -/
  flags : Nat → Bool
  /-- The last run that has been sent to the backends. -/
  broadcastRun : Nat
  /-- Everything that has happened, newest first. -/
  history : List BarrierEvent

/-- Atomic steps of the session thread and of the threads that run the forward callbacks. -/
inductive BarrierAction where
  /-- A start-run command counts the run identifier up. -/
  | beginRun
  /-- The session thread executes its next statement. -/
  | advance
  /-- A thread forwards a TAKE_OFF. -/
  | takeOff
  /-- A thread forwards the DONE of a backend for a run, and counts it. -/
  | done (thread backend run : Nat)
  /-- A thread sets the flag. -/
  | setFlag (thread : Nat)
  deriving DecidableEq, Repr

/-- The counter of DONE messages has been cleared for the current run. -/
def StartPoint.cleared : StartPoint → Bool
  | .resetTakeOff | .resetDone => false
  | _ => true

namespace DoneBarrier

/-- A configured coordinator before the first run. -/
def initial (backendCount : Nat) : DoneBarrier where
  coordinator := { backendCount, runId := 0, takeOffCount := 0, doneCount := 0 }
  doneReceived := false
  start := .outside
  flags := fun _ => false
  broadcastRun := 0
  history := []

/-- Execute the next statement of `handle_start_run`. -/
def advance (s : DoneBarrier) : Option DoneBarrier :=
  -- The statements of the start, between which others may run.
  match s.start with
  | .outside => none
  | .resetTakeOff =>
    some { s with
      start := .resetDone
      coordinator := { s.coordinator with takeOffCount := 0 } }
  | .resetDone =>
    some { s with
      start := .clearFlag
      coordinator := { s.coordinator with doneCount := 0 } }
  | .clearFlag => some { s with start := .broadcast, doneReceived := false }
  | .broadcast => some { s with start := .outside, broadcastRun := s.coordinator.runId }

/-- The event of `on_done` returning true. -/
def completion (returned : Bool) : List BarrierEvent :=
  if returned then [.completed] else []

/-- One atomic step. -/
def step (s : DoneBarrier) : BarrierAction → Option DoneBarrier
  | .beginRun =>
    if s.start = .outside then
      some { s with
        start := .resetTakeOff
        coordinator := { s.coordinator with runId := s.coordinator.runId + 1 }
        history := .started :: s.history }
    else none
  | .advance => s.advance
  | .takeOff => some { s with coordinator := s.coordinator.onTakeOff }
  | .done thread backend run =>
    -- A backend is done with a run only after it has been told to start it.
    if s.flags thread = false ∧ backend < s.coordinator.backendCount ∧ 0 < run ∧
        run ≤ s.broadcastRun then
      let counted := s.coordinator.onDone
      some { s with
        coordinator := counted.1
        flags := Function.update s.flags thread counted.2
        history := completion counted.2 ++ .reported backend run :: s.history }
    else none
  | .setFlag thread =>
    if s.flags thread then
      some { s with
        doneReceived := true
        flags := Function.update s.flags thread false
        history := .flagged :: s.history }
    else none

/-- The run that is current at the end of a history. -/
def currentRun (history : List BarrierEvent) : Nat :=
  history.count .started

/-- The backends whose DONE for a run has been received, the latest first. -/
def reporters (run : Nat) (history : List BarrierEvent) : List Nat :=
  history.filterMap fun event =>
    match event with
    | .reported backend other => if other = run then some backend else none
    | _ => none

/-- The barrier opens only after every backend has reported DONE for the current run. -/
def OpensLast (backendCount : Nat) (earlier : List BarrierEvent) : BarrierEvent → Prop
  | .completed | .flagged =>
    ∀ backend < backendCount, .reported backend (currentRun earlier) ∈ earlier
  | _ => True

/-- Whenever the barrier opens, every backend has reported DONE for the run current then. -/
def OpensAfterAll (backendCount : Nat) (history : List BarrierEvent) : Prop :=
  ∀ later event earlier, history = later ++ event :: earlier →
    event = .completed ∨ event = .flagged →
    ∀ backend < backendCount, .reported backend (currentRun earlier) ∈ earlier

/--
Every DONE counts for what it is.

It is of the current run and the first one of its backend for that run, and no run is started
between the count that completes a run and the flag it sets.
-/
def Timely (s : DoneBarrier) : BarrierAction → Prop
  | .beginRun => ∀ thread, s.flags thread = false
  | .done _ backend run =>
    run = s.coordinator.runId ∧ .reported backend run ∉ s.history
  | _ => True

/-- What the counter means while every DONE is timely. -/
structure Counts (s : DoneBarrier) : Prop where
  runId : s.coordinator.runId = currentRun s.history
  /-- The run being started has not been sent to the backends. -/
  sent : s.broadcastRun ≤ s.coordinator.runId ∧
    (s.start ≠ .outside → s.broadcastRun < s.coordinator.runId)
  /-- Nobody reports on a run before it has been sent. -/
  known : ∀ backend run, .reported backend run ∈ s.history → run ≤ s.broadcastRun
  /-- The counter is the number of backends that have reported on the current run. -/
  counted : s.start.cleared = true →
    s.coordinator.doneCount = (reporters s.coordinator.runId s.history).length
  distinct : (reporters s.coordinator.runId s.history).Nodup
  backends : ∀ backend ∈ reporters s.coordinator.runId s.history,
    backend < s.coordinator.backendCount
  /-- A thread about to set the flag does so for the current run. -/
  flags : ∀ thread, s.flags thread = true →
    ∀ backend < s.coordinator.backendCount, .reported backend s.coordinator.runId ∈ s.history
  opens : Trace.Always (OpensLast s.coordinator.backendCount) s.history

/-- A report is found by its run. -/
theorem mem_reporters {run backend : Nat} {history : List BarrierEvent} :
    backend ∈ reporters run history ↔ .reported backend run ∈ history := by
  unfold reporters
  rw [List.mem_filterMap]
  -- A reporter is a backend with a report on this run.
  constructor
  · intro found
    obtain ⟨event, member, matched⟩ := found
    cases event <;> simp at matched
    obtain ⟨rfl, rfl⟩ := matched
    exact member
  · exact fun member => ⟨_, member, by simp⟩

/-- As many distinct reports as there are backends are the reports of all of them. -/
theorem all_reported {reports : List Nat} {backendCount : Nat} (distinct : reports.Nodup)
    (backends : ∀ backend ∈ reports, backend < backendCount)
    (enough : backendCount ≤ reports.length) : ∀ backend < backendCount, backend ∈ reports := by
  intro backend bound
  -- A set of numbers below the bound with as many members is all of them.
  have all : reports.toFinset = Finset.range backendCount := by
    apply Finset.eq_of_subset_of_card_le
    · intro reporter member
      simpa using backends reporter (by simpa using member)
    · rw [List.toFinset_card_of_nodup distinct, Finset.card_range]
      exact enough
  have member : backend ∈ Finset.range backendCount := Finset.mem_range.mpr bound
  rw [← all] at member
  simpa using member

/-- A change of counters and points that leaves the runs and the reports alone. -/
theorem Counts.of_same {s next : DoneBarrier} (counts : s.Counts)
    (history : next.history = s.history) (runId : next.coordinator.runId = s.coordinator.runId)
    (backendCount : next.coordinator.backendCount = s.coordinator.backendCount)
    (sent : s.broadcastRun ≤ next.broadcastRun ∧ next.broadcastRun ≤ s.coordinator.runId ∧
      (next.start ≠ .outside → next.broadcastRun < s.coordinator.runId))
    (counted : next.start.cleared = true →
      next.coordinator.doneCount = (reporters s.coordinator.runId s.history).length)
    (flags : ∀ thread, next.flags thread = true → s.flags thread = true) : next.Counts := by
  -- The history and the run are as they were.
  refine ⟨?_, ?_, ?_, ?_, ?_, ?_, ?_, ?_⟩
  · rw [runId, history]
    exact counts.runId
  · rw [runId]
    exact sent.2
  · intro backend run member
    rw [history] at member
    exact (counts.known backend run member).trans sent.1
  · rw [runId, history]
    exact counted
  · rw [runId, history]
    exact counts.distinct
  · rw [runId, history, backendCount]
    exact counts.backends
  · rw [runId, history, backendCount]
    exact fun thread flagged => counts.flags thread (flags thread flagged)
  · rw [history, backendCount]
    exact counts.opens

/-- Nobody has reported on a run that is being started. -/
theorem Counts.unreported {s : DoneBarrier} (counts : s.Counts) (starting : s.start ≠ .outside) :
    reporters s.coordinator.runId s.history = [] := by
  apply List.eq_nil_iff_forall_not_mem.mpr
  intro backend member
  -- A report is for a run that has been started, and this one has not been sent yet.
  have bound := counts.known backend _ (mem_reporters.mp member)
  have pending := counts.sent.2 starting
  omega

/-- Every statement of `handle_start_run` keeps the count. -/
theorem Counts.advance {s next : DoneBarrier} (counts : s.Counts)
    (stepped : s.advance = some next) : next.Counts := by
  -- While a start is going on, its run has not been sent.
  have unsent : s.start ≠ .outside → s.broadcastRun < s.coordinator.runId := counts.sent.2
  unfold DoneBarrier.advance at stepped
  split at stepped
  · simp at stepped
  · rename_i point
    cases stepped
    exact counts.of_same rfl rfl rfl ⟨le_rfl, counts.sent.1, fun _ => unsent (by simp [point])⟩
      (by simp [StartPoint.cleared]) (fun _ flagged => flagged)
  · -- The counter is cleared before anybody can report on the new run.
    rename_i point
    cases stepped
    exact counts.of_same rfl rfl rfl ⟨le_rfl, counts.sent.1, fun _ => unsent (by simp [point])⟩
      (by simp [counts.unreported (by simp [point])]) (fun _ flagged => flagged)
  · rename_i point
    cases stepped
    exact counts.of_same rfl rfl rfl ⟨le_rfl, counts.sent.1, fun _ => unsent (by simp [point])⟩
      (fun _ => counts.counted (by simp [point, StartPoint.cleared])) (fun _ flagged => flagged)
  · -- Only now may the backends report on the new run.
    rename_i point
    cases stepped
    exact counts.of_same rfl rfl rfl ⟨counts.sent.1, le_rfl, by simp⟩
      (fun _ => counts.counted (by simp [point, StartPoint.cleared])) (fun _ flagged => flagged)

/-- Starting a run makes it the current one, on which nobody has reported. -/
theorem Counts.beginRun {s : DoneBarrier} (counts : s.Counts)
    (quiet : ∀ thread, s.flags thread = false) :
    { s with
      start := .resetTakeOff
      coordinator := { s.coordinator with runId := s.coordinator.runId + 1 }
      history := .started :: s.history }.Counts := by
  -- Reports are of runs that have been sent, and the new number is above them all.
  have fresh : reporters (s.coordinator.runId + 1) (.started :: s.history) = [] := by
    apply List.eq_nil_iff_forall_not_mem.mpr
    intro backend member
    have reported : .reported backend (s.coordinator.runId + 1) ∈ s.history := by
      simpa using mem_reporters.mp member
    have bound := counts.known backend _ reported
    have sent := counts.sent.1
    omega
  refine ⟨?_, ?_, ?_, ?_, ?_, ?_, ?_, ⟨trivial, counts.opens⟩⟩
  · simp [currentRun, counts.runId]
  · have sent := counts.sent.1
    exact ⟨by simp only; omega, fun _ => by simp only; omega⟩
  · intro backend run member
    exact counts.known backend run (by simpa using member)
  · simp [StartPoint.cleared]
  · simp [fresh]
  · simp [fresh]
  · intro thread flagged
    simp [quiet thread] at flagged

/-- A timely DONE is counted once, and the last one completes the run. -/
theorem Counts.done {s : DoneBarrier} (counts : s.Counts) {thread backend : Nat}
    (bound : backend < s.coordinator.backendCount)
    (sent : s.coordinator.runId ≤ s.broadcastRun)
    (first : .reported backend s.coordinator.runId ∉ s.history) :
    { s with
      coordinator := s.coordinator.onDone.1
      flags := Function.update s.flags thread s.coordinator.onDone.2
      history := completion s.coordinator.onDone.2 ++
        BarrierEvent.reported backend s.coordinator.runId :: s.history }.Counts := by
  -- The run has been sent, so nothing is being started and the counter is current.
  have outside : s.start = .outside := by
    by_contra starting
    have pending := counts.sent.2 starting
    omega
  have counted := counts.counted (by simp [outside, StartPoint.cleared])
  -- Whether or not the run is completed, the reports are the old ones and the new one.
  have reports : reporters s.coordinator.runId (completion s.coordinator.onDone.2 ++
      .reported backend s.coordinator.runId :: s.history) =
      backend :: reporters s.coordinator.runId s.history := by
    unfold completion
    split <;> simp [reporters]
  have current : currentRun (completion s.coordinator.onDone.2 ++
      .reported backend s.coordinator.runId :: s.history) = s.coordinator.runId := by
    unfold completion
    split <;> simp [currentRun, counts.runId]
  have distinct : (backend :: reporters s.coordinator.runId s.history).Nodup :=
    List.nodup_cons.mpr ⟨fun member => first (mem_reporters.mp member), counts.distinct⟩
  have backends : ∀ reporter ∈ backend :: reporters s.coordinator.runId s.history,
      reporter < s.coordinator.backendCount := by
    intro reporter member
    rcases List.mem_cons.mp member with rfl | old
    · exact bound
    · exact counts.backends reporter old
  have complete : s.coordinator.onDone.2 = true → ∀ other < s.coordinator.backendCount,
      .reported other s.coordinator.runId ∈
        .reported backend s.coordinator.runId :: s.history := by
    intro last other within
    have enough : s.coordinator.backendCount ≤
        (backend :: reporters s.coordinator.runId s.history).length := by
      simp only [RunCoordinator.onDone, decide_eq_true_eq] at last
      simp only [List.length_cons]
      omega
    have member := all_reported distinct backends enough other within
    exact mem_reporters.mp (by simpa [reporters] using member)
  refine ⟨current.symm, ⟨counts.sent.1, fun starting => absurd outside starting⟩, ?_, ?_, ?_, ?_,
    ?_, ?_⟩
  · -- The new report is of a run that has been sent, like the old ones.
    intro other run member
    rcases List.mem_append.mp member with opened | behind
    · unfold completion at opened
      split at opened <;> simp at opened
    · rcases List.mem_cons.mp behind with same | old
      · simp only [BarrierEvent.reported.injEq] at same
        exact same.2 ▸ sent
      · exact counts.known other run old
  · intro _
    simp only [RunCoordinator.onDone] at reports ⊢
    rw [reports, List.length_cons, counted]
  · exact reports ▸ distinct
  · exact reports ▸ backends
  · -- The thread that has counted the last DONE is about to set the flag, and so are others before.
    intro other flagged within bound
    apply List.mem_append_right
    by_cases same : other = thread
    · subst same
      exact complete (by simpa using flagged) within bound
    · have old : s.flags other = true := by
        simpa [Function.update_of_ne same] using flagged
      exact List.mem_cons_of_mem _ (counts.flags other old within bound)
  · have opened : Trace.Always (OpensLast s.coordinator.backendCount)
        (.reported backend s.coordinator.runId :: s.history) := ⟨trivial, counts.opens⟩
    by_cases last : s.coordinator.onDone.2 = true
    · -- The barrier opens now, after the report that makes them complete.
      simp only [completion, last, ↓reduceIte, List.singleton_append]
      refine ⟨fun other within => ?_, opened⟩
      have now : currentRun (.reported backend s.coordinator.runId :: s.history) =
          s.coordinator.runId := by simp [currentRun, counts.runId]
      rw [now]
      exact complete last other within
    · simp only [completion, last, Bool.false_eq_true, ↓reduceIte, List.nil_append]
      exact opened

/-- The number of backends is set before the first run. -/
theorem step_backendCount {s next : DoneBarrier} {action : BarrierAction}
    (stepped : s.step action = some next) :
    next.coordinator.backendCount = s.coordinator.backendCount := by
  -- No action adds or removes a backend.
  cases action with
  | beginRun =>
    simp only [DoneBarrier.step, Option.ite_none_right_eq_some, Option.some.injEq] at stepped
    obtain ⟨_, rfl⟩ := stepped
    rfl
  | advance =>
    simp only [DoneBarrier.step, DoneBarrier.advance] at stepped
    split at stepped <;> simp at stepped <;> rw [← stepped]
  | takeOff =>
    cases stepped
    rfl
  | done thread backend run =>
    simp only [DoneBarrier.step, Option.ite_none_right_eq_some, Option.some.injEq] at stepped
    obtain ⟨_, rfl⟩ := stepped
    rfl
  | setFlag thread =>
    simp only [DoneBarrier.step, Option.ite_none_right_eq_some, Option.some.injEq] at stepped
    obtain ⟨_, rfl⟩ := stepped
    rfl

/-- Every timely step keeps the count. -/
theorem Counts.step {s next : DoneBarrier} {action : BarrierAction} (counts : s.Counts)
    (timely : s.Timely action) (stepped : s.step action = some next) : next.Counts := by
  cases action with
  | beginRun =>
    simp only [DoneBarrier.step, Option.ite_none_right_eq_some, Option.some.injEq] at stepped
    obtain ⟨_, rfl⟩ := stepped
    exact counts.beginRun timely
  | advance => exact counts.advance stepped
  | takeOff =>
    -- The other counter has no part in it.
    cases stepped
    exact counts.of_same rfl rfl rfl ⟨le_rfl, counts.sent⟩ counts.counted
      (fun _ flagged => flagged)
  | done thread backend run =>
    simp only [DoneBarrier.step, Option.ite_none_right_eq_some, Option.some.injEq] at stepped
    obtain ⟨⟨_, bound, _, sent⟩, rfl⟩ := stepped
    obtain ⟨rfl, first⟩ := timely
    exact counts.done bound sent first
  | setFlag thread =>
    simp only [DoneBarrier.step, Option.ite_none_right_eq_some, Option.some.injEq] at stepped
    obtain ⟨flagged, rfl⟩ := stepped
    have complete := counts.flags thread flagged
    have same : reporters s.coordinator.runId (.flagged :: s.history) =
        reporters s.coordinator.runId s.history := by simp [reporters]
    refine ⟨?_, counts.sent, ?_, ?_, ?_, ?_, ?_, ?_, counts.opens⟩
    · simpa [currentRun] using counts.runId
    · exact fun backend run member => counts.known backend run (by simpa using member)
    · exact fun cleared => same ▸ counts.counted cleared
    · exact same ▸ counts.distinct
    · exact same ▸ counts.backends
    · exact fun _ _ backend bound => List.mem_cons_of_mem _ (complete backend bound)
    · intro backend bound
      rw [← counts.runId]
      exact complete backend bound

/--
The barrier opens last while every DONE is timely.

In every run in which each DONE forwarded is of the current run and the first of its backend for
that run, and no run is started between the count that completes a run and the flag it sets,
`on_done` returns true and the session's flag is set only after every backend has reported DONE for
the run that is current at that moment.
-/
theorem barrier_opens_last (backendCount : Nat) (actions : List BarrierAction)
    (final : DoneBarrier)
    (timely : Transition.Meets step Timely (initial backendCount) actions)
    (ran : Transition.run step (initial backendCount) actions = some final) :
    OpensAfterAll backendCount final.history := by
  -- The invariant is about the coordinator's own number of backends.
  have keeps : ∀ s action next, (Counts s ∧ s.coordinator.backendCount = backendCount) →
      Timely s action → step s action = some next →
      (Counts next ∧ next.coordinator.backendCount = backendCount) := by
    intro s action next held condition stepped
    exact ⟨held.1.step condition stepped, (step_backendCount stepped).trans held.2⟩
  have initially : (initial backendCount).Counts := by
    constructor <;> simp [initial, currentRun, reporters, Trace.Always]
  have counts := Transition.run_preserves keeps actions (initial backendCount) final
    ⟨initially, rfl⟩ timely ran
  intro later event earlier whole opened backend bound
  obtain ⟨counts, same⟩ := counts
  have opens := counts.opens
  rw [whole] at opens
  have fits := opens.at
  rw [same] at fits
  -- Completed and flagged ask the same of what came before.
  rcases opened with rfl | rfl
  · exact fits backend bound
  · exact fits backend bound

/-- The statements of one start-run command. -/
def startRun : List BarrierAction :=
  [.beginRun, .advance, .advance, .advance, .advance]

/-- Two backends that each report once open the barrier of their run. -/
theorem barrier_opens_after_both :
    ∃ final, Transition.run step (initial 2) (startRun ++ [.done 0 0 1, .done 1 1 1, .setFlag 1]) =
        some final ∧ final.doneReceived = true ∧ OpensAfterAll 2 final.history := by
  refine ⟨_, rfl, rfl, barrier_opens_last 2
    (startRun ++ [.done 0 0 1, .done 1 1 1, .setFlag 1]) _ ?_ rfl⟩
  simp [startRun, Transition.Meets, Timely, step, initial, advance, completion,
    RunCoordinator.onDone]

/--
A DONE seen twice and a DONE that comes late both open the barrier early.

With two backends, the first one's DONE arriving over UDP and over TCP completes the run, and so
does a DONE of the previous run that is counted for the next one; the second backend has not
reported.
-/
theorem barrier_opens_early :
    (∃ final, Transition.run step (initial 2) (startRun ++ [.done 0 0 1, .done 1 0 1, .setFlag 1]) =
        some final ∧ final.doneReceived = true ∧ ¬OpensAfterAll 2 final.history) ∧
    ∃ final, Transition.run step (initial 2)
        (startRun ++ [.done 0 0 1] ++ startRun ++ [.done 1 1 1, .done 0 0 2, .setFlag 0]) =
        some final ∧ final.doneReceived = true ∧ ¬OpensAfterAll 2 final.history := by
  -- One backend reports twice, or one reports late on the run before.
  refine ⟨⟨_, rfl, rfl, fun opens => ?_⟩, _, rfl, rfl, fun opens => ?_⟩
  · have reported := opens [.flagged] .completed [.reported 0 1, .reported 0 1, .started] rfl
      (.inl rfl) 1 (by decide)
    simp [currentRun] at reported
  · have reported := opens [.flagged] .completed
      [.reported 0 2, .reported 1 1, .started, .reported 0 1, .started] rfl (.inl rfl) 1 (by decide)
    simp [currentRun] at reported

end DoneBarrier

end Pybrid
