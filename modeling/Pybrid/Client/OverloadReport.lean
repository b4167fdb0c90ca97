import Pybrid.Client.Pipeline

/-! The overloads a run reports, and those that the devices it involves have to tell. -/

namespace Pybrid.Client

/-- What a device says of one of its elements. -/
structure ElementStatus where
  element : Path × Nat
  overload : Bool

/-- What a device answers when it is asked for overloads. -/
structure OverloadStatus where
  globalOverload : Bool
  elements : List ElementStatus

/-- The overloaded elements that are stored of it, if there is an overload. -/
def OverloadStatus.overloaded (status : OverloadStatus) : Option (List (Path × Nat)) :=
  if status.globalOverload then some ((status.elements.filter (·.overload)).map (·.element))
  else none

/-- If the event is an answered query for overloads, the answer is what the device has to tell. -/
def Event.tells (status : Connection → OverloadStatus) (event : Event) : Bool :=
  match event.point, event.outcome with
  | .request connection .overloadStatus, .ok answer =>
    answer.overloaded = (status connection).overloaded
  | _, _ => true

/-- The report of a run lists what its devices have to tell. -/
structure Covers (status : Connection → OverloadStatus) (connections : List Connection)
    (overloaded : Option (List (Path × Nat))) : Prop where
  /-- There is none exactly where no device reports an overload. -/
  absent : overloaded = none ↔
    ∀ connection ∈ connections, (status connection).globalOverload = false
  /-- It lists the overloaded elements of the devices that report an overload, and no others. -/
  complete : ∀ listed, overloaded = some listed → ∀ element, element ∈ listed ↔
    ∃ connection ∈ connections, ∃ reported, (status connection).overloaded = some reported ∧
      element ∈ reported

/-- The last device tells everything that any of the devices does. -/
def LastTellsAll (status : Connection → OverloadStatus) (connections : List Connection) : Prop :=
  ∀ connection ∈ connections, ∀ reported, (status connection).overloaded = some reported →
    ∃ last listed, connections.getLast? = some last ∧
      (status last).overloaded = some listed ∧ reported ⊆ listed

/-- The device was asked for overloads, and has answered. -/
def Asked (connection : Connection) (answer : Answer) (start final : State) : Prop :=
  ∃ added, final.log = added ++ start.log ∧ ∃ event ∈ added,
    event.point = .request connection .overloadStatus ∧ event.outcome = .ok answer

/-- A device tells of overloads exactly where it reports one. -/
theorem OverloadStatus.overloaded_eq_none (status : OverloadStatus) :
    status.overloaded = none ↔ status.globalOverload = false := by
  unfold overloaded
  cases status.globalOverload <;> simp

/-- What the last device tells covers all of them exactly where it tells everything. -/
theorem covers_last_iff {status : Connection → OverloadStatus} {connections : List Connection}
    {last : Connection} (final : connections.getLast? = some last) :
    Covers status connections (status last).overloaded ↔ LastTellsAll status connections := by
  have member : last ∈ connections := List.mem_of_getLast? final
  constructor
  · intro covers connection inside reported tells
    -- A device with an overload has to be told of by the last one.
    cases told : (status last).overloaded with
    | none =>
      have silent := covers.absent.mp told connection inside
      rw [(status connection).overloaded_eq_none.mpr silent] at tells
      cases tells
    | some listed =>
      refine ⟨last, listed, final, told, fun element there => ?_⟩
      exact (covers.complete listed told element).mpr ⟨connection, inside, reported, tells, there⟩
  -- What the last one tells is its own, and by assumption that of the others.
  · intro all
    refine ⟨⟨fun silent connection inside => ?_, fun silent => ?_⟩, fun listed told element => ?_⟩
    · cases tells : (status connection).overloaded with
      | none => exact (status connection).overloaded_eq_none.mp tells
      | some reported =>
        obtain ⟨last', listed, final', told, _⟩ := all connection inside reported tells
        obtain rfl := Option.some.inj (final.symm.trans final')
        rw [silent] at told
        cases told
    · exact (status last).overloaded_eq_none.mpr (silent last member)
    · constructor
      · exact fun there => ⟨last, member, listed, told, there⟩
      · rintro ⟨connection, inside, reported, tells, there⟩
        obtain ⟨last', listed', final', told', more⟩ := all connection inside reported tells
        obtain rfl := Option.some.inj (final.symm.trans final')
        obtain rfl := Option.some.inj (told.symm.trans told')
        exact more there

/-- An answer is not lost when the log grows. -/
theorem Asked.grows {connection : Connection} {answer : Answer} {first start middle final : State}
    (before : Grows first start) (asked : Asked connection answer start middle)
    (after : Grows middle final) : Asked connection answer first final := by
  obtain ⟨early, begun⟩ := before
  obtain ⟨added, grown, event, member, query⟩ := asked
  obtain ⟨late, ended⟩ := after
  refine ⟨late ++ added ++ early, ?_, event, ?_, query⟩
  · rw [ended, grown, begun, List.append_assoc, List.append_assoc]
  · exact List.mem_append_left _ (List.mem_append_right _ member)

/-- A log that stays the same has not shrunk. -/
theorem Grows.refl (state : State) : Grows state state := ⟨[], rfl⟩

/-- A log that grows twice has grown. -/
theorem Grows.trans {start middle final : State} (first : Grows start middle)
    (second : Grows middle final) : Grows start final := by
  obtain ⟨early, begun⟩ := first
  obtain ⟨late, ended⟩ := second
  exact ⟨late ++ early, by rw [ended, begun, List.append_assoc]⟩

/-- Code that returns has let the log grow. -/
theorem Tagging.grows_of_ok {α : Type} {code : Code α} (tagging : Tagging code)
    {start final : State} {a : α} (returned : code start = .ok a final) : Grows start final := by
  have grows := tagging.growing start
  rwa [returned] at grows

section

variable {world : World} {controller : Controller}

/-- At its end a run asks the last of its connections. -/
theorem awaitDone_asks {connections : List Connection} {last : Connection}
    (back : connections.getLast? = some last) {start final : State}
    {overloaded : Option (List (Path × Nat))}
    (returned : Session.awaitDone world connections start = .ok overloaded final) :
    ∃ answer, overloaded = answer.overloaded ∧ Asked last answer start final := by
  obtain ⟨_, middle, waited, asks⟩ := Raising.bind_eq_ok.mp returned
  simp only [back] at asks
  obtain ⟨answer, sent, request, handed⟩ := Raising.bind_eq_ok.mp asks
  obtain ⟨rfl, rfl⟩ := Raising.pure_eq_ok.mp handed
  -- A query that fails raises, so one that returns has been answered.
  unfold send at request
  cases replied : reply world last middle with
  | error raised =>
    rw [replied] at request
    cases request
  | ok told =>
    rw [replied] at request
    cases request
    have waiting := (waitAll_checked world .done "RunState.DONE" fun _ _ => rfl).tagging
    have asked : Asked last answer middle
        (middle.record (.request last .overloadStatus) (.ok answer)) :=
      ⟨[_], rfl, _, List.mem_singleton_self _, rfl, rfl⟩
    exact ⟨answer, rfl, asked.grows (waiting.grows_of_ok waited) (Grows.refl _)⟩

/-- A run that returns has asked the last of its connections, and reports what that has told. -/
theorem executeRun_asks {command : RunCommand} {start final : State} {run : Run}
    (returned : Session.executeRun world controller command start = .ok run final) :
    ∃ last answer, (controller.involvedConnections command).getLast? = some last ∧
      run.overloaded = answer.overloaded ∧ Asked last answer start final := by
  by_cases refused : command.Refused controller
  · obtain ⟨raised, ended⟩ := executeRun_refused world refused start
    rw [ended] at returned
    cases returned
  obtain ⟨master, ended⟩ := executeRun_accepted world refused start
  rw [ended] at returned
  obtain ⟨_, watched, registered, supervised⟩ := Raising.bind_eq_ok.mp returned
  obtain ⟨left, supervised, cleaned⟩ := Raising.ensure_eq_ok supervised
  obtain ⟨_, built, message, gathers⟩ := Raising.bind_eq_ok.mp supervised
  obtain ⟨_, started, gathered, follows⟩ := Raising.bind_eq_ok.mp gathers
  obtain ⟨_, draining, created, waits⟩ := Raising.bind_eq_ok.mp follows
  obtain ⟨_, flying, tookOff, ends⟩ := Raising.bind_eq_ok.mp waits
  obtain ⟨overloaded, done, ensured, handed⟩ := Raising.bind_eq_ok.mp ends
  obtain ⟨rfl, rfl⟩ := Raising.pure_eq_ok.mp handed
  obtain ⟨told, asks, finished⟩ := Raising.ensure_eq_ok ensured
  cases back : (controller.involvedConnections command).getLast? with
  | none =>
    -- A run that is not refused involves a connection.
    have nothing := List.getLast?_eq_none_iff.mp back
    exact absurd (.inl (by simpa [Controller.involvedConnections] using nothing)) refused
  | some last =>
    obtain ⟨answer, reported, asked⟩ := awaitDone_asks back asks
    refine ⟨last, answer, rfl, reported, asked.grows ?_ ?_⟩
    · have readied : Grows watched built :=
        (quiet_checked fun state => by cases command.startMessage <;> exact ⟨rfl, rfl⟩ :
          Checked (ofExcept command.startMessage)).tagging.grows_of_ok message
      have registering : Grows { start with begun := start.begun + 1 } watched :=
        (registerAll_checked _).tagging.grows_of_ok registered
      have gathering : Grows built started :=
        (gatherStarts_checked world start.begun master _).tagging.grows_of_ok gathered
      have creating : Grows started draining := by
        cases created
        exact Grows.refl _
      have waiting : Grows draining flying :=
        (waitAll_checked world .takeOff "RunState.TAKE_OFF" fun _ _ => rfl).tagging.grows_of_ok
          tookOff
      exact (((registering.trans readied).trans gathering).trans creating).trans waiting
    · have finishing : Grows told done :=
        (finishRun_checked world controller start.begun).tagging.grows_of_ok finished
      exact finishing.trans ((unregisterAll_checked _).tagging.grows_of_ok cleaned)

end

/--
The report of a run that returns covers its devices exactly where the last one tells everything.

Only that one is asked, whatever the others have to tell.
-/
theorem run_covers_iff {world : World} {controller : Controller} {command : RunCommand}
    {start final : State} {run : Run} {status : Connection → OverloadStatus}
    (returned : Session.executeRun world controller command start = .ok run final)
    (told : Adds (fun event => event.tells status = true) start final) :
    Covers status (controller.involvedConnections command) run.overloaded ↔
      LastTellsAll status (controller.involvedConnections command) := by
  obtain ⟨last, answer, back, reported, added, grown, event, member, query, answered⟩ :=
    executeRun_asks returned
  obtain ⟨added', grown', tells⟩ := told
  obtain rfl : added = added' := List.append_cancel_right (grown.symm.trans grown')
  -- The answer is what the last device had to tell.
  have honest := tells event member
  simp only [Event.tells, query, answered, decide_eq_true_eq] at honest
  rw [reported, honest]
  exact covers_last_iff back

/-- A controller with two carriers, each behind a connection of its own. -/
def Controller.pair : Controller where
  connections := [(["A"], ⟨0, true, true, "192.168.150.1:5732"⟩),
    (["B"], ⟨1, true, true, "192.168.150.2:5732"⟩)]
  carriers := [(["A"], some ⟨0, 0⟩), (["B"], some ⟨0, 1⟩)]
  sampleListeners := 0

/-- One of two devices reports an overload of its first element. -/
def overloadedAt (id : Nat) (connection : Connection) : OverloadStatus :=
  if connection.id = id then ⟨true, [⟨(["A", "0", "M0"], 0), true⟩]⟩ else ⟨false, []⟩

/-- An overload of the last device is reported. -/
theorem run_covers_last :
    Covers (overloadedAt 1) (Controller.pair.involvedConnections .plain)
        (some [(["A", "0", "M0"], 0)]) ↔
      LastTellsAll (overloadedAt 1) (Controller.pair.involvedConnections .plain) := by
  -- Every point is answered alike, and only the query reads the overloads of its answer.
  obtain ⟨final, returned, told⟩ : ∃ final,
      Session.executeRun (fun _ => .ok ⟨true, 0, some [(["A", "0", "M0"], 0)]⟩) .pair .plain
        .fresh = .ok ⟨0, some [(["A", "0", "M0"], 0)]⟩ final ∧
      Adds (fun event => event.tells (overloadedAt 1) = true) .fresh final :=
    ⟨Raising.final (Session.executeRun (fun _ => .ok ⟨true, 0, some [(["A", "0", "M0"], 0)]⟩)
      .pair .plain .fresh), rfl, _, (List.append_nil _).symm, by decide +kernel⟩
  exact run_covers_iff returned told

/-- An overload of the first device is not: that one is never asked, and the run reports none. -/
theorem run_misses_first :
    ∃ final,
      Session.executeRun (fun _ => .ok .confirmed) .pair .plain .fresh = .ok ⟨0, none⟩ final ∧
      Adds (fun event => event.tells (overloadedAt 0) = true) .fresh final ∧
      ¬ Covers (overloadedAt 0) (Controller.pair.involvedConnections .plain) none := by
  refine ⟨Raising.final (Session.executeRun (fun _ => .ok .confirmed) .pair .plain .fresh), rfl,
    ⟨_, (List.append_nil _).symm, by decide +kernel⟩, fun covers => ?_⟩
  have silent := covers.absent.mp rfl ⟨0, true, true, "192.168.150.1:5732"⟩ (by decide)
  cases silent

end Pybrid.Client
