import Pybrid.Proxy.Update

/-! The proxy's request handlers: what each asks of the backends and what it answers the client. -/

namespace Pybrid

/-- The payload of a client's request, with the fields its handler reads. -/
inductive RequestKind where
  | resetCommand
  /-- The path of the entity, empty for all of them. -/
  | extractCommand (path : String)
  /-- The entity paths of the configuration items. -/
  | configCommand (paths : List String)
  | startRunCommand
  /-- The bearer token. -/
  | authRequest (token : String)
  | calibrationCommand
  | udpDataStreamingCommand
  | updateCommand (command : UpdateCommand)
  | pingCommand
  | getOverloadStatusCommand
  /-- A payload that no handler is for. -/
  | other (fieldNumber : Nat)
  deriving DecidableEq, Repr

/-- The request is an authentication request. -/
def RequestKind.isAuthRequest : RequestKind → Bool
  | .authRequest _ => true
  | _ => false

/-- A version-one message from a client. -/
structure ClientRequest where
  id : String
  kind : RequestKind
  deriving DecidableEq, Repr

/-- What a client's transport delivers. -/
inductive ClientPayload where
  /-- An envelope-level ping. -/
  | ping
  | request (request : ClientRequest)
  /-- No envelope, or one with neither a ping nor a message. -/
  | unreadable
  deriving DecidableEq, Repr

/-- A command sent to one or all of the backends. -/
inductive BackendCommand where
  | reset
  | extract (backend : Nat) (path : String)
  /-- The entity paths sent to each of the backends concerned. -/
  | config (perBackend : List (Nat × List String))
  | startRun
  | calibration
  | update (command : UpdateCommand)
  | ping
  | getOverloadStatus
  deriving DecidableEq, Repr

/-- The payload of an answer to a client. -/
inductive ReplyPayload where
  | errorMessage (description : String)
  | successMessage
  | busyResponse
  | resetResponse
  /-- The modules of all backends, as cached by the proxy. -/
  | extractResponse
  /-- A backend's own answer to an extract command. -/
  | relayed
  | configResponse
  | startRunResponse
  | calibrationResponse
  | updateResponse (response : UpdateResponse)
  | getOverloadStatusResponse
  deriving DecidableEq, Repr

/-- What the proxy sends to a client. -/
inductive ClientReply where
  | message (id : String) (payload : ReplyPayload)
  /-- An envelope-level ping response. -/
  | pong
  deriving DecidableEq, Repr

/-- The settings of a proxy, fixed before it is started. -/
structure ProxyConfig where
  requiresAuth : Bool
  authToken : String
  /-- The constructor throws without a token to compare with. -/
  tokenSet : requiresAuth = true → authToken ≠ ""
  maxSessions : Nat
  /-- `set_max_sessions` throws for zero. -/
  roomForOne : 0 < maxSessions
  /-- The number of backends. -/
  backends : Nat
  /-- The backend of each carrier, by the carrier's path without a leading slash. -/
  pathToBackend : List (List Char × Nat)

/-- What the backends have made of a command. -/
structure BackendOutcome where
  /-- The merged answers. -/
  result : BroadcastResult
  /-- Every answer carries an overload status. -/
  reportsStatus : Bool
  deriving DecidableEq, Repr

/-- How the answer to a request follows from what the backends have made of it. -/
inductive Answer where
  /-- Nothing is sent. -/
  | nothing
  /-- The answer is known before any backend is asked. -/
  | fixed (payload : ReplyPayload)
  /-- The error of a broadcast, or else this payload. -/
  | broadcast (success : ReplyPayload)
  | extract
  | update (command : UpdateCommand)
  | overloadStatus
  | ping
  deriving DecidableEq, Repr

/-- What a handler does with a request. -/
structure Handling where
  /-- The command sent to the backends. -/
  command : Option BackendCommand
  answer : Answer
  /-- The session counts as authenticated from now on. -/
  authenticates : Bool
  deriving DecidableEq, Repr

/-- The update response that a merged result is answered with. -/
def updateReply (command : UpdateCommand) (result : BroadcastResult) : UpdateResponse :=
  match command with
  -- A commit reboots the backends, and what they answer is not looked at.
  | .commit => .success
  | .begin _ _ =>
    if result.hadError then .failure result.errorText
    else .ack (ProxyServer.minChunk result.responses)
  | _ => if result.hadError then .failure result.errorText else .success

/-- The answer sent once the backends have answered. -/
def Answer.reply (answer : Answer) (id : String) (outcome : BackendOutcome) : Option ClientReply :=
  match answer with
  | .nothing => none
  | .fixed payload => some (.message id payload)
  | .broadcast success =>
    some (.message id
      (if outcome.result.hadError then .errorMessage outcome.result.errorText else success))
  | .extract =>
    some (.message id
      (if outcome.result.hadError then .errorMessage ("Extract failed: " ++ outcome.result.errorText)
       else .relayed))
  | .update command => some (.message id (.updateResponse (updateReply command outcome.result)))
  | .overloadStatus =>
    some (.message id
      (if outcome.result.hadError then .errorMessage outcome.result.errorText
       else if outcome.reportsStatus then .getOverloadStatusResponse
       else .errorMessage "Backend returned no overload status"))
  | .ping =>
    -- The error is sent without an identifier, since a ping has none.
    if outcome.result.hadError then
      some (.message "" (.errorMessage ("Ping failed for " ++ outcome.result.errorText)))
    else some .pong

namespace Handling

/-- Answer with an error without asking any backend. -/
def sendErrorToClient (errorText : String) : Handling :=
  ⟨none, .fixed (.errorMessage errorText), false⟩

/-- Pass a command to all backends, and answer with this payload if none reports an error. -/
def broadcastToBackends (command : BackendCommand) (success : ReplyPayload) : Handling :=
  ⟨some command, .broadcast success, false⟩

/-- Reset all backends. -/
def handleReset : Handling := broadcastToBackends .reset .resetResponse

/-- Start a run on all backends. -/
def handleStartRun : Handling := broadcastToBackends .startRun .startRunResponse

/-- Calibrate all backends. -/
def handleCalibrate : Handling := broadcastToBackends .calibration .calibrationResponse

/-- The backend whose carrier is the first segment of a path. -/
def findBackendForPath (config : ProxyConfig) (path : String) : Option Nat :=
  let chars := path.toList
  if chars = [] then none
  else
    let stripped := if chars.head? = some '/' then chars.tail else chars
    config.pathToBackend.lookup (stripped.takeWhile (· ≠ '/'))

/-- Answer an extract command from the cache, or have its backend answer it. -/
def handleExtract (config : ProxyConfig) (reachable : Bool) (path : String) : Handling :=
  -- Without a path the modules cached for all backends are merged and answered.
  if path = "" then ⟨none, .fixed .extractResponse, false⟩
  else
    match findBackendForPath config path with
    | some backend =>
      if reachable then ⟨some (.extract backend path), .extract, false⟩
      else sendErrorToClient ("No backend found for entity path: " ++ path)
    | none => sendErrorToClient ("No backend found for entity path: " ++ path)

/-- The paths that no backend is found for. -/
def unroutablePaths (config : ProxyConfig) (paths : List String) : List String :=
  paths.filter fun path => path ≠ "" && (findBackendForPath config path).isNone

/-- The paths for each backend; an empty path is for all of them. -/
def perBackend (config : ProxyConfig) (paths : List String) : List (Nat × List String) :=
  let routed := (List.range config.backends).map fun backend =>
    (backend, paths.filter fun path => path = "" || findBackendForPath config path = some backend)
  routed.filter fun module => module.2 ≠ []

/-- Send a configuration to the backends it is for, or reject it as a whole. -/
def handleConfig (config : ProxyConfig) (paths : List String) : Handling :=
  if unroutablePaths config paths ≠ [] then
    sendErrorToClient ("Config rejected — no backend found for entity path(s): " ++
      String.intercalate ", " (unroutablePaths config paths))
  else
    -- Without items there is no backend to send to, and the answer is a success.
    ⟨if perBackend config paths = [] then none else some (.config (perBackend config paths)),
      .broadcast .configResponse, false⟩

/-- Compare the token; without authentication any token is accepted. -/
def handleAuth (config : ProxyConfig) (token : String) : Handling :=
  if config.requiresAuth then
    if token = config.authToken then ⟨none, .fixed .successMessage, true⟩
    else sendErrorToClient "Authentication failed"
  else ⟨none, .fixed .successMessage, false⟩

/-- UDP streaming is refused. -/
def handleUdpStreaming : Handling :=
  sendErrorToClient "UDP streaming is not supported by the proxy; data is delivered over TCP."

/-- Ping all backends. -/
def handlePing : Handling := ⟨some .ping, .ping, false⟩

/-- Pass an update command on and merge the answers. -/
def handleUpdate (command : UpdateCommand) : Handling :=
  ⟨some (.update command), .update command, false⟩

/-- Ask all backends for their overload status and merge the answers. -/
def handleGetOverloadStatus : Handling := ⟨some .getOverloadStatus, .overloadStatus, false⟩

/-- Handle a request of the active session. -/
def dispatchMessage (config : ProxyConfig) (authenticated reachable : Bool)
    (request : ClientRequest) : Handling :=
  -- The gate comes before the switch.
  if config.requiresAuth && !authenticated && !request.kind.isAuthRequest then
    sendErrorToClient "Authentication required"
  else
    match request.kind with
    | .resetCommand => handleReset
    | .extractCommand path => handleExtract config reachable path
    | .configCommand paths => handleConfig config paths
    | .startRunCommand => handleStartRun
    | .authRequest token => handleAuth config token
    | .calibrationCommand => handleCalibrate
    | .udpDataStreamingCommand => handleUdpStreaming
    | .updateCommand command => handleUpdate command
    | .pingCommand => handlePing
    | .getOverloadStatusCommand => handleGetOverloadStatus
    -- Everything else is ignored.
    | .other _ => ⟨none, .nothing, false⟩

/-- Handle a request of a session that waits in the queue. -/
def pollMessage (config : ProxyConfig) (authenticated reachable : Bool)
    (request : ClientRequest) : Handling :=
  match request.kind with
  | .authRequest token => handleAuth config token
  | kind =>
    if config.requiresAuth && !authenticated then sendErrorToClient "Authentication required"
    else
      match kind with
      | .extractCommand path => handleExtract config reachable path
      -- Whatever needs the backends for itself has to wait for its turn.
      | _ => ⟨none, .fixed .busyResponse, false⟩

/-- The update handler's answer is the one computed for the backends it is given. -/
theorem handleUpdate_answers (targets : List BackendDevice) (freshId : BackendDevice → String)
    (id : String) (command : UpdateCommand) :
    ∃ result, ProxyServer.handleUpdate targets freshId id command =
        ⟨id, some (.updateResponse (updateReply command result))⟩ ∧
      ∀ status, (handleUpdate command).answer.reply id ⟨result, status⟩ =
        some (.message id (.updateResponse
          (ProxyServer.handleUpdate targets freshId id command).updateResponse)) := by
  -- Only a begin keeps the answers, which its acknowledgement is computed from.
  let broadcast (keepsAnswers : Bool) :=
    ProxyBackendHandler.broadcastToBackends targets
      (ProxyServer.updateRequest freshId command) keepsAnswers
  cases command with
  | begin =>
    refine ⟨broadcast true, ?_, fun status => ?_⟩
    all_goals
      simp only [ProxyServer.handleUpdate, handleUpdate, Answer.reply, updateReply,
        MessageV1.updateResponse]
      split <;> rfl
  | commit => exact ⟨broadcast false, rfl, fun status => rfl⟩
  | _ =>
    refine ⟨broadcast false, ?_, fun status => ?_⟩
    all_goals
      simp only [ProxyServer.handleUpdate, handleUpdate, Answer.reply, updateReply,
        MessageV1.updateResponse]
      split <;> rfl

end Handling

end Pybrid
