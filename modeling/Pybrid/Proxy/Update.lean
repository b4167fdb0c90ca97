import Pybrid.Native.Message

/-! The proxy's firmware update handler: broadcasting a step and merging the backends' answers. -/

namespace Pybrid

/-- A backend as a broadcast sees it. -/
structure BackendDevice where
  /-- Host name, used in error texts. -/
  host : String
  /-- The control channel exists and its transport is connected. -/
  connected : Bool
  /-- What `send_and_recv` yields for a request: the response, or the text of the exception. -/
  sendAndRecv : MessageV1 → Except String MessageV1

/-- The merged outcome of a broadcast. -/
structure BroadcastResult where
  hadError : Bool
  errorText : String
  /-- The responses in backend order, kept only on request. -/
  responses : List MessageV1
  deriving DecidableEq, Repr

namespace ProxyBackendHandler

/-- Dispatch phase: an unconnected backend is an error, the others are asked. -/
def dispatch (requestFactory : BackendDevice → MessageV1)
    (state : BroadcastResult × List (Except String MessageV1)) (backend : BackendDevice) :
    BroadcastResult × List (Except String MessageV1) :=
  -- The text names the last unconnected backend, since every later one overwrites it.
  if backend.connected then
    (state.1, state.2 ++ [backend.sendAndRecv (requestFactory backend)])
  else
    let errorText := "Backend " ++ backend.host ++ " not connected!"
    ({ state.1 with hadError := true, errorText := errorText }, state.2)

/-- Collect one finished task; the first error seen determines the text. -/
def collect (includeResponses : Bool) (result : BroadcastResult) :
    Except String MessageV1 → BroadcastResult
  | .ok response =>
    let result :=
      if includeResponses then { result with responses := result.responses ++ [response] }
      else result
    if response.hasErrorMessage && !result.hadError then
      { result with hadError := true, errorText := response.errorDescription }
    else result
  | .error what =>
    if !result.hadError then { result with hadError := true, errorText := what } else result

/-- Send a request to every target and merge the answers. -/
def broadcastToBackends (targets : List BackendDevice)
    (requestFactory : BackendDevice → MessageV1) (includeResponses : Bool) : BroadcastResult :=
  -- All requests are under way before the first answer is collected.
  let dispatched := targets.foldl (dispatch requestFactory) (⟨false, "", []⟩, [])
  dispatched.2.foldl (collect includeResponses) dispatched.1

/-- The backend is unconnected, its request failed, or it answered with an error message. -/
def reportsError (backend : BackendDevice) (request : MessageV1) : Bool :=
  if backend.connected then
    match backend.sendAndRecv request with
    | .ok response => response.hasErrorMessage
    | .error _ => true
  else true

/-- A finished task that carries a response rather than an exception. -/
def okResponse : Except String MessageV1 → Option MessageV1
  | .ok response => some response
  | .error _ => none

/-- A finished task that makes the broadcast an error. -/
def taskFails : Except String MessageV1 → Bool
  | .ok response => response.hasErrorMessage
  | .error _ => true

/-- Dispatching flags the unconnected backends and queues one task for each of the others. -/
theorem dispatch_all (requestFactory : BackendDevice → MessageV1) (targets : List BackendDevice) :
    ∀ state, (targets.foldl (dispatch requestFactory) state).1.hadError =
        (state.1.hadError || targets.any fun backend => !backend.connected) ∧
      (targets.foldl (dispatch requestFactory) state).1.responses = state.1.responses ∧
      (targets.foldl (dispatch requestFactory) state).2 = state.2 ++
        (targets.filter fun backend => backend.connected).map
          fun backend => backend.sendAndRecv (requestFactory backend) := by
  -- The induction is on the backends, with the flag and the tasks collected so far.
  induction targets with
  | nil => simp
  | cons backend targets ih =>
    intro state
    obtain ⟨flagged, kept, tasks⟩ := ih (dispatch requestFactory state backend)
    simp only [List.foldl_cons, flagged, kept, tasks]
    cases connected : backend.connected <;> simp [dispatch, connected]

/-- Collecting flags every failed task and keeps the responses that are asked for. -/
theorem collect_all (includeResponses : Bool) (tasks : List (Except String MessageV1)) :
    ∀ result, (tasks.foldl (collect includeResponses) result).hadError =
        (result.hadError || tasks.any taskFails) ∧
      (tasks.foldl (collect includeResponses) result).responses =
        result.responses ++ if includeResponses then tasks.filterMap okResponse else [] := by
  -- The induction is on the tasks, in the order of their dispatch.
  induction tasks with
  | nil => simp
  | cons task tasks ih =>
    intro result
    obtain ⟨flagged, kept⟩ := ih (collect includeResponses result task)
    simp only [List.foldl_cons, flagged, kept]
    -- A response is appended first, and its error only counts while none has been seen.
    cases task with
    | error what =>
      cases includeResponses <;> cases seen : result.hadError <;>
        simp [collect, seen, okResponse, taskFails, List.filterMap_cons]
    | ok response =>
      cases includeResponses <;> cases seen : result.hadError <;>
        cases failed : response.hasErrorMessage <;>
        simp [collect, seen, failed, okResponse, taskFails]

/-- A broadcast reports an error exactly when some backend does. -/
theorem broadcastToBackends_hadError (targets : List BackendDevice)
    (requestFactory : BackendDevice → MessageV1) (includeResponses : Bool) :
    (broadcastToBackends targets requestFactory includeResponses).hadError =
      targets.any fun backend => reportsError backend (requestFactory backend) := by
  -- The flag is raised in one of the two phases, and each backend is looked at in one of them.
  simp only [broadcastToBackends, (collect_all _ _ _).1, (dispatch_all _ _ _).1,
    (dispatch_all _ _ _).2.2]
  induction targets with
  | nil => rfl
  | cons backend targets ih =>
    simp only [Bool.false_or, List.nil_append] at ih
    have cases_ : reportsError backend (requestFactory backend) =
        (!backend.connected || taskFails (backend.sendAndRecv (requestFactory backend))) := by
      cases connected : backend.connected <;>
        cases answered : backend.sendAndRecv (requestFactory backend) <;>
        simp [reportsError, taskFails, connected, answered]
    cases connected : backend.connected <;>
      simp [List.any_cons, cases_, connected, ← ih, Bool.or_left_comm]

/-- Without an error the responses kept are those of all backends, in order. -/
theorem broadcastToBackends_responses {targets : List BackendDevice}
    {requestFactory : BackendDevice → MessageV1}
    (healthy : ∀ backend ∈ targets, reportsError backend (requestFactory backend) = false) :
    (broadcastToBackends targets requestFactory true).responses =
      targets.filterMap fun backend => okResponse (backend.sendAndRecv (requestFactory backend)) := by
  -- Without an error every backend is connected, so that none is skipped.
  simp only [broadcastToBackends, (collect_all _ _ _).2, (dispatch_all _ _ _).2.1,
    (dispatch_all _ _ _).2.2, List.nil_append, if_true, List.filterMap_map]
  have everyone : (targets.filter fun backend => backend.connected) = targets := by
    rw [List.filter_eq_self]
    intro backend member
    have fine := healthy backend member
    by_contra unconnected
    simp [reportsError, unconnected] at fine
  rw [everyone]
  rfl

end ProxyBackendHandler

namespace ProxyServer

/-- The smallest acknowledged chunk size, starting from `SIZE_MAX`. -/
def minChunk (responses : List MessageV1) : UInt64 :=
  -- A response that is no acknowledgement counts as zero.
  responses.foldl (fun chunk response => min chunk response.updateResponse.chunkSize) (-1)

/-- The request broadcast for an update command, under a fresh identifier for each backend. -/
def updateRequest (freshId : BackendDevice → String) (command : UpdateCommand)
    (backend : BackendDevice) : MessageV1 :=
  ⟨freshId backend, some (.updateCommand command)⟩

/-- The answer sent to the client for an update command. -/
def handleUpdate (targets : List BackendDevice) (freshId : BackendDevice → String) (id : String)
    (command : UpdateCommand) : MessageV1 :=
  let request := updateRequest freshId command
  match command with
  | .commit =>
    -- Devices close their connection while rebooting, so the broadcast's outcome is not looked at.
    ⟨id, some (.updateResponse .success)⟩
  | .begin _ _ =>
    let result := ProxyBackendHandler.broadcastToBackends targets request true
    if result.hadError then ⟨id, some (.updateResponse (.failure result.errorText))⟩
    else ⟨id, some (.updateResponse (.ack (minChunk result.responses)))⟩
  | _ =>
    let result := ProxyBackendHandler.broadcastToBackends targets request false
    if result.hadError then ⟨id, some (.updateResponse (.failure result.errorText))⟩
    else ⟨id, some (.updateResponse .success)⟩

/-- The backend answered, with neither an error message nor an update failure. -/
def AnsweredWell (backend : BackendDevice) (request : MessageV1) : Prop :=
  backend.connected = true ∧ ∃ response, backend.sendAndRecv request = .ok response ∧
    response.hasErrorMessage = false ∧ ∀ reason, response.updateResponse ≠ .failure reason

/--
The verdict a client may rely on.

Success and acknowledgement need every backend's consent, and an acknowledged chunk size is
positive and within what every backend acknowledged.
-/
def VerdictSound (targets : List BackendDevice) (request : BackendDevice → MessageV1)
    (reply : MessageV1) : Prop :=
  ((reply.updateResponse = .success ∨ ∃ chunk, reply.updateResponse = .ack chunk) →
    ∀ backend ∈ targets, AnsweredWell backend (request backend)) ∧
  ∀ chunk, reply.updateResponse = .ack chunk →
    0 < chunk ∧ ∀ backend ∈ targets, ∀ response acknowledged,
      backend.sendAndRecv (request backend) = .ok response →
      response.updateResponse = .ack acknowledged → chunk ≤ acknowledged

/--
The merge sees every failure there is.

Either some backend reports an error the broadcast looks for, or no backend hides a failure in
its update payload and, for a begin, every one of them acknowledges a positive chunk size.
-/
def FailuresVisible (targets : List BackendDevice) (request : BackendDevice → MessageV1)
    (command : UpdateCommand) : Prop :=
  (∃ backend ∈ targets, ProxyBackendHandler.reportsError backend (request backend) = true) ∨
  ∀ backend ∈ targets, ∀ response, backend.sendAndRecv (request backend) = .ok response →
    (∀ reason, response.updateResponse ≠ .failure reason) ∧
    (∀ size hash, command = .begin size hash → 0 < response.updateResponse.chunkSize)

/-- The minimum is the starting value or one of the acknowledged sizes, and bounds all of them. -/
theorem foldl_min_chunk (responses : List MessageV1) :
    ∀ start : UInt64,
      (responses.foldl (fun chunk response => min chunk response.updateResponse.chunkSize) start ≤
        start) ∧
      (∀ response ∈ responses,
        responses.foldl (fun chunk response => min chunk response.updateResponse.chunkSize) start ≤
          response.updateResponse.chunkSize) ∧
      (0 < start → (∀ response ∈ responses, 0 < response.updateResponse.chunkSize) →
        0 < responses.foldl (fun chunk response => min chunk response.updateResponse.chunkSize)
          start) := by
  -- The induction is on the responses, with the minimum so far as the starting value.
  induction responses with
  | nil => intro start; simp
  | cons response responses ih =>
    intro start
    obtain ⟨below, each, positive⟩ := ih (min start response.updateResponse.chunkSize)
    refine ⟨Std.le_trans below Std.min_le_left, ?_, ?_⟩
    · intro other member
      rcases List.mem_cons.mp member with rfl | member
      · exact Std.le_trans below Std.min_le_right
      · exact each other member
    · intro room all
      have next : 0 < min start response.updateResponse.chunkSize := by
        rcases Std.MinEqOr.min_eq_or start response.updateResponse.chunkSize with same | same
        · rw [same]; exact room
        · rw [same]; exact all response (by simp)
      exact positive next (fun other member => all other (by simp [member]))

/-- A backend that reports no error was connected and answered without an error message. -/
theorem answered_of_reportsError {backend : BackendDevice} {request : MessageV1}
    (fine : ProxyBackendHandler.reportsError backend request = false) :
    backend.connected = true ∧ ∃ response, backend.sendAndRecv request = .ok response ∧
      response.hasErrorMessage = false := by
  -- An unconnected backend and a failed request would both have been reported.
  unfold ProxyBackendHandler.reportsError at fine
  split at fine
  · rename_i connected
    split at fine
    · rename_i response answered
      exact ⟨connected, response, answered, fine⟩
    · simp at fine
  · simp at fine

/-- An error reported by some backend is answered with a failure. -/
theorem handleUpdate_failure {targets : List BackendDevice} {freshId : BackendDevice → String}
    {command : UpdateCommand} (step : command ≠ .commit) (id : String)
    (seen : ∃ backend ∈ targets,
      ProxyBackendHandler.reportsError backend (updateRequest freshId command backend) = true) :
    ∃ reason, (handleUpdate targets freshId id command).updateResponse = .failure reason := by
  -- The flag of the broadcast is tested by every step but the commit.
  have flagged : ∀ includeResponses, (ProxyBackendHandler.broadcastToBackends targets
      (updateRequest freshId command) includeResponses).hadError = true := by
    intro includeResponses
    rw [ProxyBackendHandler.broadcastToBackends_hadError]
    simpa using seen
  cases command <;> simp_all [handleUpdate, MessageV1.updateResponse]

/-- Without a reported error a begin is acknowledged, and every other step succeeds. -/
theorem handleUpdate_verdict {targets : List BackendDevice} {freshId : BackendDevice → String}
    {command : UpdateCommand} (step : command ≠ .commit) (id : String)
    (unseen : ∀ backend ∈ targets,
      ProxyBackendHandler.reportsError backend (updateRequest freshId command backend) = false) :
    (handleUpdate targets freshId id command).updateResponse =
      match command with
      | .begin _ _ => .ack (minChunk (targets.filterMap fun backend =>
          ProxyBackendHandler.okResponse
            (backend.sendAndRecv (updateRequest freshId command backend))))
      | _ => .success := by
  -- With the flag clear, only the begin looks at the responses.
  have clear : ∀ includeResponses, (ProxyBackendHandler.broadcastToBackends targets
      (updateRequest freshId command) includeResponses).hadError = false := by
    intro includeResponses
    rw [ProxyBackendHandler.broadcastToBackends_hadError]
    simpa using unseen
  have kept := ProxyBackendHandler.broadcastToBackends_responses unseen
  cases command <;> simp_all [handleUpdate, MessageV1.updateResponse]

/-- The answers of all backends, in order, without the requests that failed. -/
def answers (targets : List BackendDevice) (request : BackendDevice → MessageV1) :
    List MessageV1 :=
  targets.filterMap fun backend => ProxyBackendHandler.okResponse
    (backend.sendAndRecv (request backend))

/-- An answer is what some backend has sent. -/
theorem mem_answers {targets : List BackendDevice} {request : BackendDevice → MessageV1}
    {response : MessageV1} :
    response ∈ answers targets request ↔
      ∃ backend ∈ targets, backend.sendAndRecv (request backend) = .ok response := by
  -- A failed request has no response, so that it is not among the answers.
  simp only [answers, List.mem_filterMap]
  refine exists_congr fun backend => and_congr_right fun _ => ?_
  cases backend.sendAndRecv (request backend) <;> simp [ProxyBackendHandler.okResponse]

/-- Without a reported error, a sound verdict means that no failure was hidden. -/
theorem failuresVisible_of_sound {targets : List BackendDevice}
    {freshId : BackendDevice → String} {id : String} {command : UpdateCommand}
    (step : command ≠ .commit)
    (unseen : ∀ backend ∈ targets,
      ProxyBackendHandler.reportsError backend (updateRequest freshId command backend) = false)
    (sound : VerdictSound targets (updateRequest freshId command)
      (handleUpdate targets freshId id command)) :
    FailuresVisible targets (updateRequest freshId command) command := by
  have verdict := handleUpdate_verdict step id unseen
  have granted : (handleUpdate targets freshId id command).updateResponse = .success ∨
      ∃ chunk, (handleUpdate targets freshId id command).updateResponse = .ack chunk := by
    rw [verdict]
    cases command <;> simp
  refine .inr fun backend member response answered => ⟨?_, ?_⟩
  · -- The verdict grants the step, so that this backend has answered well.
    obtain ⟨_, other, same, _, fine⟩ := sound.1 granted backend member
    rw [answered, Except.ok.injEq] at same
    exact same ▸ fine
  · -- A begin acknowledges the minimum, and a positive minimum bounds every size from below.
    intro size hash begun
    subst begun
    have positive := (sound.2 _ verdict).1
    exact Std.lt_of_lt_of_le positive
      ((foldl_min_chunk _ _).2.1 response (mem_answers.mpr ⟨backend, member, answered⟩))

/-- Without a reported or a hidden failure, the verdict is sound. -/
theorem sound_of_visible {targets : List BackendDevice} {freshId : BackendDevice → String}
    {id : String} {command : UpdateCommand} (step : command ≠ .commit)
    (unseen : ∀ backend ∈ targets,
      ProxyBackendHandler.reportsError backend (updateRequest freshId command backend) = false)
    (fine : ∀ backend ∈ targets, ∀ response,
      backend.sendAndRecv (updateRequest freshId command backend) = .ok response →
      (∀ reason, response.updateResponse ≠ .failure reason) ∧
      (∀ size hash, command = .begin size hash → 0 < response.updateResponse.chunkSize)) :
    VerdictSound targets (updateRequest freshId command)
      (handleUpdate targets freshId id command) := by
  have verdict := handleUpdate_verdict step id unseen
  refine ⟨fun _ backend member => ?_, fun chunk acknowledged => ?_⟩
  · obtain ⟨connected, response, answered, noError⟩ := answered_of_reportsError (unseen backend member)
    exact ⟨connected, response, answered, noError, (fine backend member response answered).1⟩
  · -- Only a begin is acknowledged, with the minimum of what the backends acknowledged.
    cases command with
    | begin size hash =>
      simp only [verdict, UpdateResponse.ack.injEq] at acknowledged
      subst acknowledged
      refine ⟨(foldl_min_chunk _ _).2.2 (by decide) ?_, ?_⟩
      · intro response member
        obtain ⟨backend, known, answered⟩ := mem_answers.mp member
        exact (fine backend known response answered).2 size hash rfl
      · intro backend member response size' answered reported
        have bounded := (foldl_min_chunk _ (-1)).2.1 response
          (mem_answers.mpr ⟨backend, member, answered⟩)
        rwa [reported] at bounded
    | commit => exact absurd rfl step
    | write data offset => simp [verdict] at acknowledged
    | abort => simp [verdict] at acknowledged
    | verify => simp [verdict] at acknowledged
    | unset => simp [verdict] at acknowledged

/-- The client's verdict is sound exactly when the merge sees every failure. -/
theorem handleUpdate_sound_iff (targets : List BackendDevice) (freshId : BackendDevice → String)
    (id : String) (command : UpdateCommand) (step : command ≠ .commit) :
    VerdictSound targets (updateRequest freshId command)
        (handleUpdate targets freshId id command) ↔
      FailuresVisible targets (updateRequest freshId command) command := by
  by_cases seen : ∃ backend ∈ targets,
      ProxyBackendHandler.reportsError backend (updateRequest freshId command backend) = true
  · -- A reported error turns the reply into a failure, which promises nothing.
    obtain ⟨reason, reply⟩ := handleUpdate_failure step id seen
    exact ⟨fun _ => .inl seen, fun _ => by simp [VerdictSound, reply]⟩
  · have unseen : ∀ backend ∈ targets, ProxyBackendHandler.reportsError backend
        (updateRequest freshId command backend) = false := by simpa using seen
    constructor
    · exact failuresVisible_of_sound step unseen
    · exact fun visible => sound_of_visible step unseen (visible.resolve_left seen)

/-- A device whose stored image does not match the announced hash. -/
def mismatchingBackend : BackendDevice where
  host := "device"
  connected := true
  sendAndRecv := fun request => .ok ⟨request.id, some (.updateResponse (.failure "hash mismatch"))⟩

/-- A failed verification is answered to the client as a success. -/
theorem handleUpdate_hides_failure :
    handleUpdate [mismatchingBackend] (fun _ => "request") "client" .verify =
      ⟨"client", some (.updateResponse .success)⟩ ∧
    ¬ VerdictSound [mismatchingBackend] (updateRequest (fun _ => "request") .verify)
      (handleUpdate [mismatchingBackend] (fun _ => "request") "client" .verify) := by
  -- The failure is in the update payload, where the broadcast does not look.
  refine ⟨by decide, fun sound => ?_⟩
  have granted : (handleUpdate [mismatchingBackend] (fun _ => "request") "client"
      .verify).updateResponse = .success := by decide
  obtain ⟨_, response, answered, _, fine⟩ := sound.1 (.inl granted) mismatchingBackend (by simp)
  simp only [mismatchingBackend, Except.ok.injEq] at answered
  exact fine "hash mismatch" (by rw [← answered]; rfl)

/-- A device that acknowledges a begin with the given chunk size. -/
def ackingBackend (chunkSize : UInt64) : BackendDevice where
  host := "device"
  connected := true
  sendAndRecv := fun request => .ok ⟨request.id, some (.updateResponse (.ack chunkSize))⟩

/-- Two acknowledging backends give a sound acknowledgement of the smaller chunk size. -/
theorem handleUpdate_sound_begin :
    handleUpdate [ackingBackend 4096, ackingBackend 1024] (fun _ => "request") "client"
        (.begin 9000 []) = ⟨"client", some (.updateResponse (.ack 1024))⟩ ∧
      VerdictSound [ackingBackend 4096, ackingBackend 1024]
        (updateRequest (fun _ => "request") (.begin 9000 []))
        (handleUpdate [ackingBackend 4096, ackingBackend 1024] (fun _ => "request") "client"
          (.begin 9000 [])) := by
  -- Both sizes are positive, and no device hides a failure.
  refine ⟨by decide, (handleUpdate_sound_iff _ _ _ _ (by decide)).mpr (.inr ?_)⟩
  intro backend member response answered
  simp only [List.mem_cons, List.not_mem_nil, or_false] at member
  rcases member with rfl | rfl <;>
    simp only [ackingBackend, Except.ok.injEq] at answered <;>
    subst answered <;>
    exact ⟨by simp [MessageV1.updateResponse], fun _ _ _ => by decide⟩

end ProxyServer

end Pybrid
