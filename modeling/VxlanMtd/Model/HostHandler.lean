import VxlanMtd.Model.Configurator
import VxlanMtd.Model.Participant

/-!
# The protocol handler of a host

`VMTDHostProtocolHandler`: JSON-RPC between the server and a host. On the
server's side it queues request documents, sends one at a time and waits for a
ticket, the response or a timeout (`queueState`, the ticket timer). On the
host's side it checks a request and hands it to the configurator
(`handleClient`).

Signals are outputs (`HostSignal`). Parsing a text as JSON is Qt's part and an
argument, `fromJson`.
-/

namespace VxlanMtd

/-- `VMTDHostProtocolHandler::EnError`. -/
inductive EnError where
  | parseError
  | invalidRequest
  | methodNotFound
  | invalidParams
  | internalError
  deriving DecidableEq, Repr

/-- The number of an error. -/
def EnError.code : EnError → Int
  | .parseError => -32700
  | .invalidRequest => -32600
  | .methodNotFound => -32601
  | .invalidParams => -32602
  | .internalError => -32603

/-- `enErrorToS`. -/
def EnError.text : EnError → String
  | .parseError => "Parse error"
  | .invalidRequest => "Invalid request"
  | .methodNotFound => "Method not found"
  | .invalidParams => "Invalid params"
  | .internalError => "Internal error"

/-- `VMTDProtocolHandler::EnQueueState`. -/
inductive EnQueueState where
  | readyToSend
  | waitForTicket
  deriving DecidableEq, Repr

/-- A `VMTDHostProtocolHandler` on the server's side. `commandCounter` is an `int`
in the source; its overflow, after 2³¹ requests, is left out. -/
structure VMTDHostProtocolHandler where
  hostIp : String
  hostPort : Int
  queueState : EnQueueState := .readyToSend
  isTicketTimerActive : Bool := false
  commandCounter : Int := 0
  requests : List QJsonDocument := []

/-- The signals of a handler on the server's side. -/
inductive HostSignal where
  | sendMessage (ip : String) (port : Int) (data : QJsonDocument)
  | updateIpOnline (ip : String) (isOnline : Bool)
  | handleResult (result : QJsonValue)

-- ---------------------------------------------------------------------------
-- Requests and responses
-- ---------------------------------------------------------------------------

/-- `isRequest`. -/
def isRequest (request : QJsonObject) : Bool :=
  2 ≤ request.size
    && (request.contains "jsonrpc" && (request.value "jsonrpc").toString == "2.0")
    && (request.contains "method" && (request.value "method").isString)

/-- `buildRequest`, with the value of the command counter. -/
def buildRequest (commandCounter : Int) (method : String) (params : QJsonObject) : QJsonObject :=
  let jsonObj := QJsonObject.insert [] "jsonrpc" (.string "2.0")
  let jsonObj := jsonObj.insert "method" (.string method)
  let jsonObj := jsonObj.insert "params" (.object params)
  jsonObj.insert "id" (.string (PlaceMarker.arg "%1" (toString commandCounter)))

/-- `isResponse`. With a `result` and no error object, the other checks do not
count. -/
def isResponse (response : QJsonObject) : Bool :=
  let isValid := 2 ≤ response.size
    && (response.contains "jsonrpc" && (response.value "jsonrpc").toString == "2.0")
  if response.contains "error" && (response.value "error").isObject then
    let errorObj := (response.value "error").toObject
    isValid && QJsonObject.contains errorObj "code"
      && !(QJsonObject.value errorObj "code").isNull
      && QJsonObject.contains errorObj "message"
      && (QJsonObject.value errorObj "message").isString
  else response.contains "result"

/-- `buildResponse`. -/
def buildResponse (id result : QJsonValue) : QJsonObject :=
  let jsonObj := QJsonObject.insert [] "jsonrpc" (.string "2.0")
  let jsonObj := jsonObj.insert "result" result
  jsonObj.insert "id" id

/-- `buildError`. -/
def buildError (id : QJsonValue) (code : Int) (message : String) : QJsonObject :=
  let errorObj := QJsonObject.insert [] "code" (.ofInt code)
  let errorObj := errorObj.insert "message" (.string message)
  let jsonObj := QJsonObject.insert [] "jsonrpc" (.string "2.0")
  let jsonObj := jsonObj.insert "error" (.object errorObj)
  jsonObj.insert "id" id

-- ---------------------------------------------------------------------------
-- The host's side
-- ---------------------------------------------------------------------------

/-- The checks of `handleClient`: the error of a request that fails one. -/
def requestError (request : QJsonObject) : Option EnError :=
  if !isRequest request then some .invalidRequest
  else
    let method := (request.value "method").toString
    if method ∉ methods.map Prod.snd then some .methodNotFound
    else
      let params := (request.value "params").toObject
      if (methodParams (methodKey method)).all fun methodParam =>
          QJsonObject.contains params methodParam.text
            && checkParam methodParam (QJsonObject.value params methodParam.text) then none
      else some .invalidParams

/-- `handleClient`, with the configurator its `handleMethodSignal` is connected
to: the response, the configurator afterwards and what was applied. -/
def handleClient (request : QJsonObject) (configurator : VMTDConfigurator) :
    QJsonObject × VMTDConfigurator × Option Application :=
  match requestError request with
  | some error => (buildError (request.value "id") error.code error.text, configurator, none)
  | none =>
    let handled := configurator.handleMethodSlot (request.value "method").toString
      (request.value "params").toObject
    (buildResponse (request.value "id") handled.result, handled.configurator, handled.application)

/-- The requests of one message, handled in order: the responses, the
configurator afterwards and what was applied on the way. -/
def handleClients : List QJsonObject → VMTDConfigurator →
    List QJsonObject × VMTDConfigurator × List Application
  | [], configurator => ([], configurator, [])
  | request :: requests, configurator =>
    let (response, configurator, application) := handleClient request configurator
    let (responses, configurator, applications) := handleClients requests configurator
    (response :: responses, configurator, application.toList ++ applications)

/-- What the client replies to a document; replies without members would be
left out. -/
def replyTo (inputDoc : QJsonDocument) (configurator : VMTDConfigurator) :
    Option QJsonDocument × VMTDConfigurator × List Application :=
  match inputDoc with
  | .object request =>
    let (response, configurator, application) := handleClient request configurator
    (if response.isEmpty then none else some (.object response), configurator,
      application.toList)
  | .array elements =>
    let (responses, configurator, applications) :=
      handleClients (elements.map QJsonValue.toObject) configurator
    let jsonArr := (responses.filter fun response => !response.isEmpty).map QJsonValue.object
    (if jsonArr.isEmpty then none else some (.array jsonArr), configurator, applications)

/-- `receiveMessageSlot` on the client's side: the reply it sends, if any. -/
def receiveRequestSlot (fromJson : String → Option QJsonDocument) (data : String)
    (configurator : VMTDConfigurator) :
    Option QJsonDocument × VMTDConfigurator × List Application :=
  if data.isEmpty then (none, configurator, [])
  else
    match fromJson data with
    | none =>
      (some (.object (buildError .null EnError.parseError.code EnError.parseError.text)),
        configurator, [])
    | some inputDoc => replyTo inputDoc configurator

-- ---------------------------------------------------------------------------
-- The server's side
-- ---------------------------------------------------------------------------

namespace VMTDHostProtocolHandler

/-- Requests with the next values of the command counter. -/
def buildRequests (commandCounter : Int) : RequestList → List QJsonObject
  | [] => []
  | (method, params) :: requests =>
    buildRequest commandCounter method params :: buildRequests (commandCounter + 1) requests

/-- `appendRequestListSlot`: one request goes out as an object, several as an
array. -/
def appendRequestListSlot (requests : RequestList) (handler : VMTDHostProtocolHandler) :
    VMTDHostProtocolHandler :=
  match buildRequests handler.commandCounter requests with
  | [] => handler
  | [jsonObj] =>
    { handler with
      commandCounter := handler.commandCounter + 1
      requests := handler.requests ++ [.object jsonObj] }
  | jsonArr =>
    { handler with
      commandCounter := handler.commandCounter + jsonArr.length
      requests := handler.requests ++ [.array (jsonArr.map .object)] }

/-- `clearQueueSlot`. -/
def clearQueueSlot (handler : VMTDHostProtocolHandler) : VMTDHostProtocolHandler :=
  { handler with requests := [] }

/-- `checkConnection`. -/
def checkConnection (handler : VMTDHostProtocolHandler) : VMTDHostProtocolHandler :=
  handler.appendRequestListSlot [(EnName.checkConnection.text, [])]

/-- `handleServer`. Whatever the response is, the ticket is given back. -/
def handleServer (response : QJsonObject) (handler : VMTDHostProtocolHandler) :
    VMTDHostProtocolHandler × List HostSignal :=
  ({ handler with isTicketTimerActive := false, queueState := .readyToSend },
    .updateIpOnline handler.hostIp true ::
      if isResponse response && !response.contains "error" && response.contains "result"
          && !(response.value "result").isBool then
        [.handleResult (response.value "result")]
      else [])

/-- The loop over the elements of an array. -/
def handleServers (responses : List QJsonObject) (handler : VMTDHostProtocolHandler) :
    VMTDHostProtocolHandler × List HostSignal :=
  responses.foldl
    (fun handled response =>
      let next := handleServer response handled.1
      (next.1, handled.2 ++ next.2))
    (handler, [])

/-- The responses of a document: the object, or the elements of the array. -/
def responses : QJsonDocument → List QJsonObject
  | .object o => [o]
  | .array a => a.map QJsonValue.toObject

/-- The responses of a received text; there are none when it is empty or
cannot be parsed. -/
def receivedResponses (fromJson : String → Option QJsonDocument) (data : String) :
    List QJsonObject :=
  if data.isEmpty then []
  else
    match fromJson data with
    | none => []
    | some inputDoc => responses inputDoc

/-- `receiveMessageSlot`. The sender is compared with the handler's host for a
debug message only. -/
def receiveMessageSlot (fromJson : String → Option QJsonDocument) (_ip : String) (_port : Int)
    (data : String) (handler : VMTDHostProtocolHandler) :
    VMTDHostProtocolHandler × List HostSignal :=
  handler.handleServers (receivedResponses fromJson data)

/-- `checkQueueTimerSlot`. -/
def checkQueueTimerSlot (handler : VMTDHostProtocolHandler) :
    VMTDHostProtocolHandler × List HostSignal :=
  match handler.requests, handler.queueState with
  | outputDoc :: requests, .readyToSend =>
    ({ handler with
        queueState := .waitForTicket
        requests := requests
        isTicketTimerActive := true },
      [.sendMessage handler.hostIp handler.hostPort outputDoc])
  | _, _ => (handler, [])

/-- `ticketTimeoutSlot`; the timer is a single shot. -/
def ticketTimeoutSlot (handler : VMTDHostProtocolHandler) :
    VMTDHostProtocolHandler × List HostSignal :=
  ({ handler with queueState := .readyToSend, isTicketTimerActive := false },
    [.updateIpOnline handler.hostIp false])

/-- What a handler on the server's side is told. -/
inductive HostEvent where
  | appendRequestList (requests : RequestList)
  | clearQueue
  | checkConnection
  | messageReceived (ip : String) (port : Int) (data : String)
  | checkQueueTimer
  | ticketTimeout

/-- Its reaction. The ticket timer fires only while it is active. -/
def react (fromJson : String → Option QJsonDocument) (handler : VMTDHostProtocolHandler) :
    HostEvent → VMTDHostProtocolHandler × List HostSignal
  | .appendRequestList requests => (handler.appendRequestListSlot requests, [])
  | .clearQueue => (handler.clearQueueSlot, [])
  | .checkConnection => (handler.checkConnection, [])
  | .messageReceived ip port data => handler.receiveMessageSlot fromJson ip port data
  | .checkQueueTimer => handler.checkQueueTimerSlot
  | .ticketTimeout =>
    if handler.isTicketTimerActive then handler.ticketTimeoutSlot else (handler, [])

-- ---------------------------------------------------------------------------
-- What a message changes
-- ---------------------------------------------------------------------------

@[simp] theorem handleServer_fst (response : QJsonObject) (handler : VMTDHostProtocolHandler) :
    (handler.handleServer response).1 =
      { handler with isTicketTimerActive := false, queueState := .readyToSend } := rfl

/-- Each response emits its own signals, in turn. -/
theorem signals_handleServers (responses : List QJsonObject) (handler : VMTDHostProtocolHandler) :
    (handler.handleServers responses).2 =
      responses.flatMap fun response => (handler.handleServer response).2 := by
  -- the signals depend on the host only, which no response changes
  have hFold : ∀ (responses : List QJsonObject) (h : VMTDHostProtocolHandler) signals,
      (responses.foldl (fun handled response =>
          ((handleServer response handled.1).1, handled.2 ++ (handleServer response handled.1).2))
          (h, signals)).2 = signals ++ responses.flatMap fun response => (handleServer response h).2 := by
    intro responses
    induction responses with
    | nil => exact fun h signals => (List.append_nil signals).symm
    | cons response responses ih =>
      intro h signals
      rw [List.foldl_cons, ih, List.flatMap_cons, List.append_assoc]
      rfl
  exact hFold responses handler []

/-- A message without responses changes nothing; any other gives the ticket
back and reports the host online. -/
theorem handleServers_spec (responses : List QJsonObject) (handler : VMTDHostProtocolHandler) :
    (handler.handleServers responses).1 =
      (if responses = [] then handler
        else { handler with isTicketTimerActive := false, queueState := .readyToSend }) ∧
    (responses ≠ [] →
      HostSignal.updateIpOnline handler.hostIp true ∈ (handler.handleServers responses).2) := by
  -- the state after the first response is a fixed point
  have hFold : ∀ (responses : List QJsonObject) (h : VMTDHostProtocolHandler) signals,
      h.queueState = .readyToSend → h.isTicketTimerActive = false →
        (responses.foldl (fun handled response =>
          ((handleServer response handled.1).1, handled.2 ++ (handleServer response handled.1).2))
          (h, signals)).1 = h := by
    intro responses
    induction responses with
    | nil => exact fun h signals _ _ => rfl
    | cons response responses ih =>
      intro h signals hReady hTimer
      have hSame : (handleServer response h).1 = h := by
        rw [handleServer_fst, ← hReady, ← hTimer]
      rw [List.foldl_cons]
      dsimp only
      rw [hSame]
      exact ih h _ hReady hTimer
  constructor
  · cases responses with
    | nil => rw [if_pos rfl, handleServers, List.foldl_nil]
    | cons response responses =>
      rw [if_neg (List.cons_ne_nil _ _)]
      exact hFold responses (handleServer response handler).1 _ rfl rfl
  · intro hSome
    obtain ⟨response, hResponse⟩ := List.exists_mem_of_ne_nil responses hSome
    rw [signals_handleServers]
    exact List.mem_flatMap.mpr ⟨response, hResponse, List.mem_cons_self⟩

end VMTDHostProtocolHandler

-- ---------------------------------------------------------------------------
-- What a request brings about
-- ---------------------------------------------------------------------------

/-- The members of a request. -/
theorem buildRequest_members (commandCounter : Int) (method : String) (params : QJsonObject) :
    (buildRequest commandCounter method params).value "jsonrpc" = .string "2.0" ∧
    (buildRequest commandCounter method params).value "method" = .string method ∧
    (buildRequest commandCounter method params).value "params" = .object params ∧
    (buildRequest commandCounter method params).value "id" =
      .string (PlaceMarker.arg "%1" (toString commandCounter)) := by
  have hString : ∀ s, (QJsonValue.string s).isUndefined = false := fun _ => rfl
  have hObject : ∀ o, (QJsonValue.object o).isUndefined = false := fun _ => rfl
  unfold buildRequest
  dsimp only
  refine ⟨?_, ?_, ?_, ?_⟩
  · rw [QJsonObject.value_insert_of_ne _ (by decide), QJsonObject.value_insert_of_ne _ (by decide),
      QJsonObject.value_insert_of_ne _ (by decide), QJsonObject.value_insert _ _ (hString _)]
  · rw [QJsonObject.value_insert_of_ne _ (by decide), QJsonObject.value_insert_of_ne _ (by decide),
      QJsonObject.value_insert _ _ (hString _)]
  · rw [QJsonObject.value_insert_of_ne _ (by decide), QJsonObject.value_insert _ _ (hObject _)]
  · rw [QJsonObject.value_insert _ _ (hString _)]

/-- What is built as a request is one. -/
theorem isRequest_buildRequest (commandCounter : Int) (method : String) (params : QJsonObject) :
    isRequest (buildRequest commandCounter method params) = true := by
  obtain ⟨hVersion, hMethod, -, -⟩ := buildRequest_members commandCounter method params
  have hKeys : (buildRequest commandCounter method params).map Prod.fst =
      ["id", "params", "method", "jsonrpc"] := rfl
  have hSize : (buildRequest commandCounter method params).size = 4 := by
    rw [QJsonObject.size, hKeys]
    decide
  have hVersion' : (buildRequest commandCounter method params).contains "jsonrpc" = true :=
    QJsonObject.contains_of_value (by rw [hVersion]; rfl)
  have hMethod' : (buildRequest commandCounter method params).contains "method" = true :=
    QJsonObject.contains_of_value (by rw [hMethod]; rfl)
  rw [isRequest, hSize, hVersion', hMethod', hVersion, hMethod]
  rfl

/-- The parameters a method of that name is called with. -/
def HasParams (name : EnName) (params : QJsonObject) : Prop :=
  ∀ methodParam ∈ methodParams name, (params.value methodParam.text).isUndefined = false ∧
    checkParam methodParam (params.value methodParam.text) = true

/-- A request with the parameters of its method passes every check. -/
theorem requestError_buildRequest {name : EnName} {params : QJsonObject}
    (h : HasParams name params) (commandCounter : Int) :
    requestError (buildRequest commandCounter name.text params) = none := by
  obtain ⟨-, hMethod, hParams, -⟩ := buildRequest_members commandCounter name.text params
  have hAll : ((methodParams name).all fun methodParam =>
      QJsonObject.contains params methodParam.text
        && checkParam methodParam (QJsonObject.value params methodParam.text)) = true := by
    rw [List.all_eq_true]
    intro methodParam hMem
    obtain ⟨hDefined, hCheck⟩ := h methodParam hMem
    rw [QJsonObject.contains_of_value hDefined, hCheck]
    rfl
  unfold requestError
  dsimp only
  rw [isRequest_buildRequest, hMethod, hParams, QJsonValue.toString_string,
    QJsonValue.toObject_object, methodKey_text, hAll, if_neg (by simp),
    if_neg (not_not.mpr (text_mem_methods name)), if_pos rfl]

theorem handleClient_buildRequest {name : EnName} {params : QJsonObject}
    (h : HasParams name params) (commandCounter : Int) (configurator : VMTDConfigurator) :
    handleClient (buildRequest commandCounter name.text params) configurator =
      (buildResponse (.string (PlaceMarker.arg "%1" (toString commandCounter)))
          (configurator.handleMethodSlot name.text params).result,
        (configurator.handleMethodSlot name.text params).configurator,
        (configurator.handleMethodSlot name.text params).application) := by
  obtain ⟨-, hMethod, hParams, hId⟩ := buildRequest_members commandCounter name.text params
  rw [handleClient, requestError_buildRequest h, hMethod, hParams, hId,
    QJsonValue.toString_string, QJsonValue.toObject_object]

/-- Requests that pass the checks are calls of their methods, one after the
other. -/
theorem handleClients_buildRequests {calls : List (EnName × QJsonObject)}
    (h : ∀ call ∈ calls, HasParams call.1 call.2) (commandCounter : Int)
    (configurator : VMTDConfigurator) :
    (∀ request ∈ VMTDHostProtocolHandler.buildRequests commandCounter
        (calls.map fun call => (call.1.text, call.2)), requestError request = none) ∧
    (handleClients (VMTDHostProtocolHandler.buildRequests commandCounter
        (calls.map fun call => (call.1.text, call.2))) configurator).2.1 =
      calls.foldl (fun configurator call =>
        (configurator.handleMethodSlot call.1.text call.2).configurator) configurator := by
  induction calls generalizing commandCounter configurator with
  | nil => exact ⟨fun _ hMem => absurd hMem List.not_mem_nil, rfl⟩
  | cons call calls ih =>
    have hCall := h call List.mem_cons_self
    have hRest := ih (fun c hc => h c (List.mem_cons_of_mem _ hc)) (commandCounter + 1)
    rw [List.map_cons, VMTDHostProtocolHandler.buildRequests, List.foldl_cons, handleClients]
    dsimp only
    rw [handleClient_buildRequest hCall]
    refine ⟨fun request hMem => ?_, (hRest _).2⟩
    rcases List.mem_cons.mp hMem with rfl | hMem
    · exact requestError_buildRequest hCall _
    · exact (hRest configurator).1 request hMem

end VxlanMtd
