import Mathlib.Data.Finset.Basic
import Mathlib.Data.List.Nodup
import Pybrid.Library.Transition
import Pybrid.Native.Message
import Pybrid.Redac.Wire

/-! The state of a run over several carriers, put together from what each of them reports. -/

namespace Pybrid

/-- The states a run passes through, in order; the others lie beside that order. -/
def RunState.stateOrder : List RunState := [.new, .queued, .takeOff, .ic, .op, .opEnd, .done]

/-- A run, as far as its state is concerned; a new one is in the first state. -/
structure RunRecord where
  state : RunState := .new
  deriving DecidableEq, Repr

/-- The reports about one run, per carrier. -/
structure DistributedRunState where
  /-- The states each carrier has reached, which are the events that are set. -/
  states : List (Path × Finset RunState)
  /-- No carrier is listed twice. -/
  distinct : (states.map Prod.fst).Nodup
  run : RunRecord
  /-- The message of the error that ends every wait, once there is one. -/
  anyError : Option String
  deriving DecidableEq

namespace DistributedRunState

/-- One carrier's report that it has reached a state. -/
structure Report where
  path : Path
  state : RunState
  reason : Option String
  deriving DecidableEq, Repr

/-- Track one more path, which must not be tracked yet. -/
def addPath (tracker : DistributedRunState) (path : Path) : Except String DistributedRunState :=
  if tracked : path ∈ tracker.states.map Prod.fst then
    .error ("Path " ++ "/".intercalate path ++ " is already being tracked.")
  else
    .ok { tracker with
      states := tracker.states ++ [(path, ∅)]
      distinct := by
        rw [List.map_append]
        exact List.Nodup.append tracker.distinct (List.nodup_singleton _) (by simpa using tracked) }

/-- Track several paths, up to the first one that is tracked already. -/
def addPaths (tracker : DistributedRunState) (paths : List Path) :
    Except String DistributedRunState :=
  paths.foldlM addPath tracker

/-- The tracker of a run on these paths. -/
def init (run : RunRecord) (paths : List Path) : Except String DistributedRunState :=
  addPaths ⟨[], List.nodup_nil, run, none⟩ paths

/-- Set the run to the highest state all carriers have reached, or to an error if one has failed. -/
def updateRunState (tracker : DistributedRunState) : DistributedRunState :=
  if tracker.states.isEmpty then tracker
  else if tracker.states.any fun carrier => RunState.error ∈ carrier.2 then
    { tracker with run := { state := .error } }
  else
    match RunState.stateOrder.reverse.find? fun state =>
      tracker.states.all fun carrier => state ∈ carrier.2 with
    | some state => { tracker with run := { state } }
    -- Without a common state the run stays in the one it was in.
    | none => tracker

/-- Set the event of a carrier for a state. -/
def setEvent (tracker : DistributedRunState) (path : Path) (state : RunState) :
    DistributedRunState :=
  { tracker with
    states := tracker.states.map fun carrier =>
      (carrier.1, if carrier.1 = path then insert state carrier.2 else carrier.2)
    -- The paths are not changed.
    distinct := by
      have keys : (tracker.states.map fun carrier =>
          (carrier.1, if carrier.1 = path then insert state carrier.2 else carrier.2)).map
            Prod.fst = tracker.states.map Prod.fst := by simp
      exact keys ▸ tracker.distinct }

/-- The error kept after a report; the first one stays. -/
def noteError (tracker : DistributedRunState) (report : Report) : Option String :=
  if report.state = .error ∧ tracker.anyError = none then
    -- An empty reason counts as none.
    let reason := (report.reason.filter (· ≠ "")).getD "Unknown Error"
    some ("Error on entity " ++ "/".intercalate report.path ++ ": " ++ reason)
  else tracker.anyError

/-- Take a report into account; a path that is not tracked raises a `KeyError`. -/
def track (tracker : DistributedRunState) (report : Report) : Option DistributedRunState :=
  if report.path ∈ tracker.states.map Prod.fst then
    some (updateRunState
      { setEvent tracker report.path report.state with anyError := noteError tracker report })
  else none

/-- A carrier has reported a state. -/
def Reported (reports : List Report) (path : Path) (state : RunState) : Prop :=
  ∃ report ∈ reports, report.path = path ∧ report.state = state

/-- All carriers have reported a state. -/
def Common (paths : List Path) (reports : List Report) (state : RunState) : Prop :=
  ∀ path ∈ paths, Reported reports path state

/-- Some carrier has reported an error. -/
def Failed (paths : List Path) (reports : List Report) : Prop :=
  ∃ path ∈ paths, Reported reports path .error

/-- This is the last state of the order that all carriers have reported. -/
def Greatest (paths : List Path) (reports : List Report) (state : RunState) : Prop :=
  state ∈ RunState.stateOrder ∧ Common paths reports state ∧
    ∀ other ∈ RunState.stateOrder, Common paths reports other →
      RunState.stateOrder.idxOf other ≤ RunState.stateOrder.idxOf state

/-- The state a run has to be in after these reports, if it was in the initial one before. -/
structure Settled (initial : RunState) (paths : List Path) (reports : List Report)
    (state : RunState) : Prop where
  failed : Failed paths reports → state = .error
  greatest : ¬ Failed paths reports → (∃ common ∈ RunState.stateOrder, Common paths reports common) →
    Greatest paths reports state
  initial : ¬ Failed paths reports →
    (¬ ∃ common ∈ RunState.stateOrder, Common paths reports common) → state = initial

/-- What the tracker holds after these reports. -/
structure Tracks (initial : RunState) (paths : List Path) (reports : List Report)
    (tracker : DistributedRunState) : Prop where
  keys : tracker.states.map Prod.fst = paths
  reached : ∀ carrier ∈ tracker.states, ∀ state,
    state ∈ carrier.2 ↔ Reported reports carrier.1 state
  settled : Settled initial paths reports tracker.run.state

variable {initial : RunState} {paths : List Path} {reports : List Report}
  {tracker tracker' : DistributedRunState}

/-- The first match from the end of a list lies behind every other match. -/
theorem idxOf_le_of_find?_reverse {order : List RunState} (nodup : order.Nodup)
    {test : RunState → Bool} {found other : RunState}
    (first : order.reverse.find? test = some found) (listed : other ∈ order)
    (passes : test other = true) : order.idxOf other ≤ order.idxOf found := by
  obtain ⟨-, behind, before, split, failing⟩ := List.find?_eq_some_iff_append.mp first
  have split : order = before.reverse ++ found :: behind.reverse := by
    simpa using congrArg List.reverse split
  subst split
  have fresh : found ∉ before.reverse := by
    intro earlier
    exact List.disjoint_of_nodup_append nodup earlier (by simp)
  -- What lies behind the match fails the test, so the other one is the match or lies before it.
  have place : other ∈ before.reverse ∨ other = found := by
    rcases List.mem_append.mp listed with earlier | later
    · exact .inl earlier
    · rcases List.mem_cons.mp later with same | later
      · exact .inr same
      · have fails := failing other (by simpa using later)
        simp [passes] at fails
  rcases place with earlier | rfl
  · rw [List.idxOf_append_of_mem earlier, List.idxOf_append_of_notMem fresh]
    have := List.idxOf_lt_length_of_mem earlier
    omega
  · exact le_rfl

/-- The order lists no state twice. -/
theorem stateOrder_nodup : RunState.stateOrder.Nodup := by decide

/-- A report adds to what was reported before. -/
theorem Reported.append {path : Path} {state : RunState} (reported : Reported reports path state)
    (later : List Report) : Reported (reports ++ later) path state := by
  obtain ⟨report, listed, same⟩ := reported
  exact ⟨report, List.mem_append_left _ listed, same⟩

/-- What is reported after one more report was reported before or is that report. -/
theorem reported_snoc {report : Report} {path : Path} {state : RunState} :
    Reported (reports ++ [report]) path state ↔
      Reported reports path state ∨ report.path = path ∧ report.state = state := by
  -- A report is one of the earlier ones or the last one.
  constructor
  · rintro ⟨other, listed, same⟩
    rcases List.mem_append.mp listed with earlier | last
    · exact .inl ⟨other, earlier, same⟩
    · exact .inr (List.mem_singleton.mp last ▸ same)
  · rintro (earlier | same)
    · exact earlier.append _
    · exact ⟨report, by simp, same⟩

/-- The keys stay, and the events are those of the reports with one more. -/
theorem Tracks.setEvent (tracks : Tracks initial paths reports tracker) (report : Report) :
    (setEvent tracker report.path report.state).states.map Prod.fst = paths ∧
      ∀ carrier ∈ (setEvent tracker report.path report.state).states, ∀ state,
        state ∈ carrier.2 ↔ Reported (reports ++ [report]) carrier.1 state := by
  refine ⟨by simpa [DistributedRunState.setEvent, Function.comp_def] using tracks.keys, ?_⟩
  intro carrier changed state
  obtain ⟨before, listed, rfl⟩ := List.mem_map.mp changed
  have reached := tracks.reached before listed state
  rw [reported_snoc]
  -- Only the events of the reporting carrier change.
  by_cases own : before.1 = report.path
  · simp only [own, if_true, Finset.mem_insert, true_and]
    rw [own] at reached
    rw [reached, or_comm, eq_comm]
  · simp only [own, if_false, Ne.symm own, false_and, or_false]
    exact reached

/-- Whether a carrier has failed, or all have reached a state, can be read off the events. -/
theorem failed_iff (keys : tracker.states.map Prod.fst = paths)
    (reached : ∀ carrier ∈ tracker.states, ∀ state,
      state ∈ carrier.2 ↔ Reported reports carrier.1 state) :
    (tracker.states.any fun carrier => RunState.error ∈ carrier.2) = true ↔
      Failed paths reports := by
  subst keys
  simp only [List.any_eq_true, decide_eq_true_eq, Failed, List.mem_map]
  -- A carrier has failed when it is among those tracked and said so.
  constructor
  · rintro ⟨carrier, listed, failed⟩
    exact ⟨carrier.1, ⟨carrier, listed, rfl⟩, (reached carrier listed _).mp failed⟩
  · rintro ⟨_, ⟨carrier, listed, rfl⟩, failed⟩
    exact ⟨carrier, listed, (reached carrier listed _).mpr failed⟩

theorem common_iff (keys : tracker.states.map Prod.fst = paths)
    (reached : ∀ carrier ∈ tracker.states, ∀ state,
      state ∈ carrier.2 ↔ Reported reports carrier.1 state) (state : RunState) :
    (tracker.states.all fun carrier => state ∈ carrier.2) = true ↔
      Common paths reports state := by
  subst keys
  simp only [List.all_eq_true, decide_eq_true_eq, Common, List.mem_map]
  -- A state is common when every carrier that is tracked has reached it.
  constructor
  · rintro all _ ⟨carrier, listed, rfl⟩
    exact (reached carrier listed _).mp (all carrier listed)
  · intro all carrier listed
    exact (reached carrier listed _).mpr (all carrier.1 ⟨carrier, listed, rfl⟩)

/-- The update settles the run, if it was in its initial state in case nothing is decided. -/
theorem updateRunState_settles (nonempty : paths ≠ [])
    (keys : tracker.states.map Prod.fst = paths)
    (reached : ∀ carrier ∈ tracker.states, ∀ state,
      state ∈ carrier.2 ↔ Reported reports carrier.1 state)
    (undecided : ¬ Failed paths reports →
      (¬ ∃ common ∈ RunState.stateOrder, Common paths reports common) →
      tracker.run.state = initial) :
    Tracks initial paths reports (updateRunState tracker) := by
  have filled : tracker.states.isEmpty = false := by
    rw [List.isEmpty_eq_false_iff]
    intro empty
    exact nonempty (by rw [← keys, empty]; rfl)
  simp only [updateRunState, filled, Bool.false_eq_true, if_false]
  split
  · -- A failed carrier decides the state alone.
    rename_i failed
    have failed := (failed_iff keys reached).mp failed
    exact ⟨keys, reached, fun _ => rfl, fun not => absurd failed not, fun not => absurd failed not⟩
  · rename_i fine
    have fine : ¬ Failed paths reports := fun failed => fine ((failed_iff keys reached).mpr failed)
    split
    · -- The first common state from the end is the greatest one.
      rename_i state found
      have passes := List.find?_some found
      have common := (common_iff keys reached state).mp passes
      have listed : state ∈ RunState.stateOrder := by
        simpa using List.mem_of_find?_eq_some found
      have greatest : Greatest paths reports state := by
        refine ⟨listed, common, fun other known all => ?_⟩
        exact idxOf_le_of_find?_reverse stateOrder_nodup found known
          ((common_iff keys reached other).mpr all)
      exact ⟨keys, reached, fun failed => absurd failed fine, fun _ _ => greatest,
        fun _ none => absurd ⟨state, listed, common⟩ none⟩
    · -- No state is common, so the run is where it was before any report.
      rename_i absent
      have none : ¬ ∃ common ∈ RunState.stateOrder, Common paths reports common := by
        rintro ⟨state, listed, common⟩
        have passes := (common_iff keys reached state).mpr common
        exact List.find?_eq_none.mp absent state (by simpa using listed) passes
      exact ⟨keys, reached, fun failed => absurd failed fine, fun _ some => absurd some none,
        fun _ _ => undecided fine none⟩

/-- A report on a tracked path is taken into account, and leaves the run settled. -/
theorem Tracks.track (nonempty : paths ≠ []) (tracks : Tracks initial paths reports tracker)
    {report : Report} (known : report.path ∈ paths) :
    ∃ tracker', track tracker report = some tracker' ∧
      Tracks initial paths (reports ++ [report]) tracker' := by
  obtain ⟨keys, reached⟩ := tracks.setEvent report
  refine ⟨_, if_pos (tracks.keys ▸ known), ?_⟩
  refine updateRunState_settles nonempty keys reached fun fine none => ?_
  -- What is undecided now was undecided before the report.
  refine tracks.settled.initial ?_ ?_
  · rintro ⟨path, listed, failed⟩
    exact fine ⟨path, listed, failed.append _⟩
  · rintro ⟨state, listed, common⟩
    exact none ⟨state, listed, fun path member => (common path member).append _⟩

/-- All reports on tracked paths are taken into account. -/
theorem Tracks.run (nonempty : paths ≠ []) : ∀ (later : List Report) {reports : List Report}
    {tracker : DistributedRunState}, Tracks initial paths reports tracker →
      (∀ report ∈ later, report.path ∈ paths) →
      ∃ final, Transition.run DistributedRunState.track tracker later = some final ∧
        Tracks initial paths (reports ++ later) final := by
  -- The induction is on the reports still to come.
  intro later
  induction later with
  | nil =>
    intro reports tracker tracks _
    exact ⟨tracker, rfl, by simpa using tracks⟩
  | cons report later ih =>
    intro reports tracker tracks known
    obtain ⟨next, tracked, tracks'⟩ := tracks.track nonempty (known report (by simp))
    obtain ⟨final, ran, settled⟩ := ih tracks' fun other listed => known other (by simp [listed])
    exact ⟨final, by simp [Transition.run, tracked, ran], by simpa using settled⟩

/-- The update of the run's state leaves the error alone. -/
theorem updateRunState_anyError (tracker : DistributedRunState) :
    (updateRunState tracker).anyError = tracker.anyError := by
  unfold updateRunState
  -- Each branch writes the state of the run alone.
  split
  · rfl
  · split
    · rfl
    · split <;> rfl

/-- Reports that are no errors change nothing about the error. -/
theorem run_anyError : ∀ {reports : List Report} {tracker final : DistributedRunState},
    Transition.run DistributedRunState.track tracker reports = some final →
      (∀ report ∈ reports, report.state ≠ .error) → final.anyError = tracker.anyError := by
  -- The error is set by a report of ERROR, and there is none.
  intro reports
  induction reports with
  | nil =>
    intro tracker final ran _
    simp only [Transition.run, Option.some.injEq] at ran
    rw [ran]
  | cons report later ih =>
    intro tracker final ran fine
    obtain ⟨next, tracked, ran⟩ := Option.bind_eq_some_iff.mp ran
    rw [ih ran fun other listed => fine other (List.mem_cons_of_mem _ listed)]
    unfold DistributedRunState.track at tracked
    split at tracked
    · simp only [Option.some.injEq] at tracked
      rw [← tracked, updateRunState_anyError]
      exact if_neg fun failed => fine report List.mem_cons_self failed.1
    · cases tracked

/-- Adding paths puts them behind the ones tracked already, with no event set. -/
theorem addPaths_states : ∀ {paths : List Path} {tracker start : DistributedRunState},
    addPaths tracker paths = .ok start →
      start.states = tracker.states ++ paths.map (·, ∅) ∧ start.run = tracker.run := by
  -- Each path is added behind those before it, with no state reached.
  intro paths
  induction paths with
  | nil =>
    intro tracker start added
    cases added
    simp
  | cons path paths ih =>
    intro tracker start added
    unfold addPaths at added
    rw [List.foldlM_cons] at added
    unfold addPath at added
    split at added
    · cases added
    · obtain ⟨states, run⟩ := ih added
      exact ⟨by simp [states], run⟩

/-- Adding paths leaves the error alone. -/
theorem addPaths_anyError : ∀ {paths : List Path} {tracker start : DistributedRunState},
    addPaths tracker paths = .ok start → start.anyError = tracker.anyError := by
  -- Adding a path does not set the error.
  intro paths
  induction paths with
  | nil =>
    intro tracker start added
    cases added
    rfl
  | cons path paths ih =>
    intro tracker start added
    unfold addPaths at added
    rw [List.foldlM_cons] at added
    unfold addPath at added
    split at added
    · cases added
    · have kept := ih added
      exact kept

/-- The tracker of a run starts with no reports. -/
theorem init_tracks {run : RunRecord} {start : DistributedRunState} (nonempty : paths ≠ [])
    (made : init run paths = .ok start) : Tracks run.state paths [] start := by
  obtain ⟨states, same⟩ := addPaths_states made
  -- Nothing has been reported yet.
  have unreported : ∀ path state, ¬ Reported [] path state := by
    rintro path state ⟨report, listed, -⟩
    exact List.not_mem_nil listed
  obtain ⟨path, listed⟩ := List.exists_mem_of_ne_nil paths nonempty
  refine ⟨by simp [states, Function.comp_def], ?_, ⟨?_, ?_, ?_⟩⟩
  · intro carrier known state
    simp only [states, List.nil_append, List.mem_map] at known
    obtain ⟨path, -, rfl⟩ := known
    simp [unreported]
  · rintro ⟨path, -, failed⟩
    exact absurd failed (unreported path _)
  · rintro - ⟨state, -, common⟩
    exact absurd (common path listed) (unreported path _)
  · intro _ _
    rw [same]

/-- The state a run has to be in is determined by what has been reported. -/
theorem Settled.unique {first second : RunState} {others : List Report}
    (settled : Settled initial paths reports first)
    (same : ∀ path state, Reported reports path state ↔ Reported others path state)
    (settled' : Settled initial paths others second) : first = second := by
  have alike : ∀ state, Common paths reports state ↔ Common paths others state := by
    intro state
    exact forall_congr' fun path => imp_congr_right fun _ => same path state
  have failing : Failed paths reports ↔ Failed paths others := by
    exact exists_congr fun path => and_congr_right fun _ => same path .error
  by_cases failed : Failed paths reports
  · rw [settled.failed failed, settled'.failed (failing.mp failed)]
  · have fine := fun failed' => failed (failing.mpr failed')
    by_cases some : ∃ common ∈ RunState.stateOrder, Common paths reports common
    · have some' : ∃ common ∈ RunState.stateOrder, Common paths others common := by
        obtain ⟨state, listed, common⟩ := some
        exact ⟨state, listed, (alike state).mp common⟩
      -- Each of the two greatest states is at most the other, and positions are unique.
      obtain ⟨listed, common, most⟩ := settled.greatest failed some
      obtain ⟨listed', common', most'⟩ := settled'.greatest fine some'
      have below := most second listed' ((alike second).mpr common')
      have above := most' first listed ((alike first).mp common)
      exact (List.idxOf_inj listed).mp (le_antisymm above below)
    · have none' : ¬ ∃ common ∈ RunState.stateOrder, Common paths others common := by
        rintro ⟨state, listed, common⟩
        exact some ⟨state, listed, (alike state).mpr common⟩
      rw [settled.initial failed some, settled'.initial fine none']

/-- A run that starts in the first state is settled in a state of the order while nothing fails. -/
theorem Settled.mem_order {state : RunState} (settled : Settled .new paths reports state)
    (fine : ¬ Failed paths reports) : state ∈ RunState.stateOrder := by
  -- The state is a common one, or still the first one.
  by_cases some : ∃ common ∈ RunState.stateOrder, Common paths reports common
  · exact (settled.greatest fine some).1
  · rw [settled.initial fine some]
    decide

/-- More reports settle such a run in the same state or in a later one. -/
theorem Settled.mono {first second : RunState} {later : List Report}
    (settled : Settled .new paths reports first)
    (settled' : Settled .new paths (reports ++ later) second)
    (fine : ¬ Failed paths (reports ++ later)) :
    RunState.stateOrder.idxOf first ≤ RunState.stateOrder.idxOf second := by
  have fine' : ¬ Failed paths reports := by
    rintro ⟨path, listed, failed⟩
    exact fine ⟨path, listed, failed.append _⟩
  by_cases some : ∃ common ∈ RunState.stateOrder, Common paths reports common
  · -- A state that was common before is common still.
    obtain ⟨listed, common, -⟩ := settled.greatest fine' some
    have common' : Common paths (reports ++ later) first :=
      fun path member => (common path member).append _
    exact (settled'.greatest fine ⟨first, listed, common'⟩).2.2 first listed common'
  · -- The first state of the order comes before every other one.
    rw [settled.initial fine' some]
    exact Nat.zero_le _

/--
Whatever order the reports come in, and however often, the run ends in the state they decide.

It is an error if a carrier failed, and else the last state that all carriers have reported.
-/
theorem run_state_settled (run : RunRecord) {paths : List Path} (nonempty : paths ≠ [])
    {start : DistributedRunState} (made : init run paths = .ok start) :
    -- Every sequence of reports on tracked paths is taken, and decides the state.
    (∀ reports : List Report, (∀ report ∈ reports, report.path ∈ paths) →
      ∃ final, Transition.run track start reports = some final ∧
        (Failed paths reports → final.run.state = .error) ∧
        (run.state ≠ .error → final.run.state = .error → Failed paths reports) ∧
        (¬ Failed paths reports →
          Greatest paths reports final.run.state ∨
            (¬ ∃ common ∈ RunState.stateOrder, Common paths reports common) ∧
              final.run.state = run.state)) ∧
    -- Two sequences of the same reports, in any order and repetition, lead to the same state.
    (∀ (reports others : List Report) (final final' : DistributedRunState),
      (∀ report ∈ reports, report.path ∈ paths) → (∀ report ∈ others, report.path ∈ paths) →
      (∀ path state, Reported reports path state ↔ Reported others path state) →
      Transition.run track start reports = some final →
      Transition.run track start others = some final' → final.run.state = final'.run.state) ∧
    -- A new run never moves backwards in the order while no carrier fails.
    (run.state = .new → ∀ (reports later : List Report) (middle final : DistributedRunState),
      (∀ report ∈ reports ++ later, report.path ∈ paths) → ¬ Failed paths (reports ++ later) →
      Transition.run track start reports = some middle →
      Transition.run track middle later = some final →
      middle.run.state ∈ RunState.stateOrder ∧ final.run.state ∈ RunState.stateOrder ∧
        RunState.stateOrder.idxOf middle.run.state ≤
          RunState.stateOrder.idxOf final.run.state) := by
  have begun := init_tracks nonempty made
  -- The tracker after a run is the one that the run lemma describes.
  have after : ∀ {reports : List Report} {final : DistributedRunState},
      (∀ report ∈ reports, report.path ∈ paths) →
      Transition.run track start reports = some final →
      Settled run.state paths reports final.run.state := by
    intro reports final known ran
    obtain ⟨_, ran', tracks⟩ := begun.run nonempty reports known
    cases ran.symm.trans ran'
    exact tracks.settled
  refine ⟨?_, ?_, ?_⟩
  · intro reports known
    obtain ⟨final, ran, -⟩ := begun.run nonempty reports known
    have settled := after known ran
    refine ⟨final, ran, settled.failed, ?_, ?_⟩
    · intro unfailed failed
      by_contra fine
      -- Neither the greatest common state nor the initial one is an error.
      by_cases some : ∃ common ∈ RunState.stateOrder, Common paths reports common
      · have listed := (settled.greatest fine some).1
        rw [failed] at listed
        exact absurd listed (by decide)
      · exact unfailed (settled.initial fine some ▸ failed)
    · intro fine
      by_cases some : ∃ common ∈ RunState.stateOrder, Common paths reports common
      · exact .inl (settled.greatest fine some)
      · exact .inr ⟨some, settled.initial fine some⟩
  · intro reports others final final' known known' same ran ran'
    exact (after known ran).unique same (after known' ran')
  · intro fresh reports later middle final known fine ran ran'
    have settled := after (fun report listed => known report (List.mem_append_left _ listed)) ran
    have whole : Transition.run track start (reports ++ later) = some final := by
      rw [Transition.run_append, ran]
      exact ran'
    have settled' := after known whole
    rw [fresh] at settled settled'
    have fine' : ¬ Failed paths reports := by
      rintro ⟨path, listed, failed⟩
      exact fine ⟨path, listed, failed.append _⟩
    exact ⟨settled.mem_order fine', settled'.mem_order fine, settled.mono settled' fine⟩

/-- Two carriers that report in turn take the run to the last state both have reached. -/
theorem run_state_settled_pair :
    ∃ start final, init {} [["A"], ["B"]] = .ok start ∧
      Transition.run track start
        [⟨["A"], .op, none⟩, ⟨["B"], .ic, none⟩, ⟨["A"], .ic, none⟩] = some final ∧
      final.run.state = .ic := by
  obtain ⟨start, made⟩ : ∃ start, init {} [["A"], ["B"]] = .ok start := ⟨_, rfl⟩
  obtain ⟨final, ran, -⟩ := (run_state_settled {} (by simp) made).1
    [⟨["A"], .op, none⟩, ⟨["B"], .ic, none⟩, ⟨["A"], .ic, none⟩] (by simp)
  refine ⟨start, final, made, ran, ?_⟩
  -- Both carriers have reached IC, and only one has reached OP.
  cases made
  cases ran
  rfl

end DistributedRunState
end Pybrid
