import VxlanMtd.Model.HostHandler

/-!
# Replies of a client

What a client replies to the requests of a message.

* `Succeeds`, `Fails` — how a request is to be answered, in terms of the
  request alone (`succeeds_or_fails`);
* `Reply` — one reply against its request, and `Replies` for the requests of a
  batch, one after the other;
* **`client_replies`** — whatever text arrives, what is sent back corresponds
  to it.
-/

namespace VxlanMtd

-- ---------------------------------------------------------------------------
-- What a request asks for
-- ---------------------------------------------------------------------------

/-- The request is well formed and calls that method. -/
def Calls (request : QJsonObject) (name : EnName) : Prop :=
  isRequest request = true ∧ (request.value "method").toString = name.text

/-- Its parameters pass the check of that method. -/
def PassesChecks (request : QJsonObject) (name : EnName) : Prop :=
  ∀ methodParam ∈ methodParams name,
    QJsonObject.contains (request.value "params").toObject methodParam.text = true ∧
      checkParam methodParam
        (QJsonObject.value (request.value "params").toObject methodParam.text) = true

/-- The request has to be answered with a result. -/
def Succeeds (request : QJsonObject) : Prop := ∃ name, Calls request name ∧ PassesChecks request name

/-- The request has to be answered with that error. -/
def Fails (request : QJsonObject) : EnError → Prop
  | .invalidRequest => isRequest request = false
  | .methodNotFound =>
    isRequest request = true ∧ ∀ name : EnName, (request.value "method").toString ≠ name.text
  | .invalidParams => ∃ name, Calls request name ∧ ¬PassesChecks request name
  | .parseError => False
  | .internalError => False

/-- The known methods are those with a name. -/
theorem mem_methods {method : String} :
    method ∈ methods.map Prod.snd ↔ ∃ name : EnName, method = name.text := by
  constructor
  · intro hMem
    obtain ⟨entry, hEntry, rfl⟩ := List.mem_map.mp hMem
    have hTable : ∀ entry ∈ methods, entry.2 = entry.1.text := by decide
    exact ⟨entry.1, hTable entry hEntry⟩
  · rintro ⟨name, rfl⟩
    exact text_mem_methods name

/-- The checks of `handleClient` on a call. -/
theorem requestError_of_calls {request : QJsonObject} {name : EnName} (h : Calls request name) :
    (PassesChecks request name → requestError request = none) ∧
      (¬PassesChecks request name → requestError request = some .invalidParams) := by
  have hAll : ((methodParams name).all fun methodParam =>
      QJsonObject.contains (request.value "params").toObject methodParam.text
        && checkParam methodParam
          (QJsonObject.value (request.value "params").toObject methodParam.text)) = true ↔
        PassesChecks request name := by
    simp only [List.all_eq_true, Bool.and_eq_true]
    rfl
  have hError : requestError request =
      if ((methodParams name).all fun methodParam =>
        QJsonObject.contains (request.value "params").toObject methodParam.text
          && checkParam methodParam
            (QJsonObject.value (request.value "params").toObject methodParam.text)) then none
      else some .invalidParams := by
    unfold requestError
    dsimp only
    rw [h.1, h.2, methodKey_text, if_neg (by simp), if_neg (not_not.mpr (text_mem_methods name))]
  rw [hError]
  exact ⟨fun hPasses => if_pos (hAll.mpr hPasses), fun hPasses => if_neg fun h => hPasses (hAll.mp h)⟩

/-- A request that should succeed passes the checks. -/
theorem requestError_of_succeeds {request : QJsonObject} (h : Succeeds request) :
    requestError request = none := by
  obtain ⟨name, hCalls, hPasses⟩ := h
  exact (requestError_of_calls hCalls).1 hPasses

/-- A request that should fail fails with that error. -/
theorem requestError_of_fails {request : QJsonObject} {error : EnError} (h : Fails request error) :
    requestError request = some error := by
  cases error with
  | parseError => exact h.elim
  | internalError => exact h.elim
  | invalidRequest =>
    have hRequest : isRequest request = false := h
    unfold requestError
    rw [hRequest]
    rfl
  | methodNotFound =>
    obtain ⟨hRequest, hMethod⟩ := h
    have hUnknown : (request.value "method").toString ∉ methods.map Prod.snd := fun hMem => by
      obtain ⟨name, hName⟩ := mem_methods.mp hMem
      exact hMethod name hName
    unfold requestError
    dsimp only
    rw [hRequest, if_neg (by simp), if_pos hUnknown]
  | invalidParams =>
    obtain ⟨name, hCalls, hPasses⟩ := h
    exact (requestError_of_calls hCalls).2 hPasses

/-- Every request is to be answered in one of the two ways. -/
theorem succeeds_or_fails (request : QJsonObject) : Succeeds request ∨ ∃ error, Fails request error := by
  cases hRequest : isRequest request with
  | false => exact Or.inr ⟨.invalidRequest, hRequest⟩
  | true =>
    by_cases hMethod : ∃ name : EnName, (request.value "method").toString = name.text
    · obtain ⟨name, hName⟩ := hMethod
      by_cases hPasses : PassesChecks request name
      · exact Or.inl ⟨name, ⟨hRequest, hName⟩, hPasses⟩
      · exact Or.inr ⟨.invalidParams, name, ⟨hRequest, hName⟩, hPasses⟩
    · exact Or.inr ⟨.methodNotFound, hRequest, fun name hName => hMethod ⟨name, hName⟩⟩

-- ---------------------------------------------------------------------------
-- Replies
-- ---------------------------------------------------------------------------

/-- One reply to a request that was handled by `configurator` and left it as
`next`. -/
structure Reply (configurator : VMTDConfigurator) (request reply : QJsonObject)
    (next : VMTDConfigurator) : Prop where
  /-- The reply carries the id of its request. -/
  id : (request.value "id").isUndefined = false → reply.value "id" = request.value "id"
  accepted : isResponse reply = true
  holds_result : QJsonObject.contains reply "result" = true ↔ Succeeds request
  result : Succeeds request →
    reply.value "result" = (configurator.handleMethodSlot (request.value "method").toString
      (request.value "params").toObject).result ∧
    QJsonObject.contains reply "error" = false ∧
    next = (configurator.handleMethodSlot (request.value "method").toString
      (request.value "params").toObject).configurator
  error : ∀ error, Fails request error →
    (∃ errorObj, reply.value "error" = .object errorObj ∧
      QJsonObject.value errorObj "code" = .ofInt error.code ∧
      QJsonObject.value errorObj "message" = .string error.text) ∧
    next = configurator

/-- Replies to requests that were handled one after the other. -/
inductive Replies : VMTDConfigurator → List QJsonObject → List QJsonObject → VMTDConfigurator → Prop
  | nil (configurator : VMTDConfigurator) : Replies configurator [] [] configurator
  | cons {configurator next last : VMTDConfigurator} {request reply : QJsonObject}
      {requests replies : List QJsonObject} (first : Reply configurator request reply next)
      (rest : Replies next requests replies last) :
      Replies configurator (request :: requests) (reply :: replies) last

/-- As many replies as requests. -/
theorem Replies.length_eq {configurator last : VMTDConfigurator}
    {requests replies : List QJsonObject} (h : Replies configurator requests replies last) :
    replies.length = requests.length := by
  induction h with
  | nil configurator => rfl
  | cons first rest ih => rw [List.length_cons, List.length_cons, ih]

-- ---------------------------------------------------------------------------
-- The two reply builders
-- ---------------------------------------------------------------------------

/-- The members of a result. -/
theorem buildResponse_members (id : QJsonValue) {result : QJsonValue}
    (hResult : result.isUndefined = false) :
    (buildResponse id result).contains "result" = true ∧
    (buildResponse id result).contains "error" = false ∧
    (buildResponse id result).value "result" = result := by
  unfold buildResponse
  dsimp only
  refine ⟨?_, ?_, ?_⟩
  · rw [QJsonObject.contains_insert_of_ne _ (by decide), QJsonObject.contains_insert _ _ hResult]
  · rw [QJsonObject.contains_insert_of_ne _ (by decide),
      QJsonObject.contains_insert_of_ne _ (by decide),
      QJsonObject.contains_insert_of_ne _ (by decide)]
    rfl
  · rw [QJsonObject.value_insert_of_ne _ (by decide), QJsonObject.value_insert _ _ hResult]

/-- A result is accepted as a response. -/
theorem isResponse_buildResponse (id : QJsonValue) {result : QJsonValue}
    (hResult : result.isUndefined = false) : isResponse (buildResponse id result) = true := by
  obtain ⟨hHolds, hError, -⟩ := buildResponse_members id hResult
  unfold isResponse
  dsimp only
  rw [hError, Bool.false_and, if_neg Bool.false_ne_true, hHolds]

/-- The error object of a reply. -/
def errorObject (code : Int) (message : String) : QJsonObject :=
  (QJsonObject.insert [] "code" (.ofInt code)).insert "message" (.string message)

theorem errorObject_members (code : Int) (message : String) :
    QJsonObject.value (errorObject code message) "code" = .ofInt code ∧
    QJsonObject.value (errorObject code message) "message" = .string message := by
  have hInt : (QJsonValue.ofInt code).isUndefined = false := rfl
  have hString : (QJsonValue.string message).isUndefined = false := rfl
  unfold errorObject
  constructor
  · rw [QJsonObject.value_insert_of_ne _ (by decide), QJsonObject.value_insert _ _ hInt]
  · rw [QJsonObject.value_insert _ _ hString]

/-- The members of an error. -/
theorem buildError_members (id : QJsonValue) (code : Int) (message : String) :
    (buildError id code message).contains "error" = true ∧
    (buildError id code message).contains "result" = false ∧
    (buildError id code message).value "error" = .object (errorObject code message) ∧
    (buildError id code message).contains "jsonrpc" = true ∧
    (buildError id code message).value "jsonrpc" = .string "2.0" ∧
    2 ≤ (buildError id code message).size := by
  have hObject : ∀ o, (QJsonValue.object o).isUndefined = false := fun _ => rfl
  have hString : ∀ s, (QJsonValue.string s).isUndefined = false := fun _ => rfl
  have hValue : (buildError id code message).value "jsonrpc" = .string "2.0" := by
    unfold buildError
    dsimp only
    rw [QJsonObject.value_insert_of_ne _ (by decide), QJsonObject.value_insert_of_ne _ (by decide),
      QJsonObject.value_insert _ _ (hString _)]
  have hError : (buildError id code message).value "error" =
      .object (errorObject code message) := by
    unfold buildError errorObject
    dsimp only
    rw [QJsonObject.value_insert_of_ne _ (by decide), QJsonObject.value_insert _ _ (hObject _)]
  have hSize : 2 ≤ (buildError id code message).size := by
    -- without an id there are two members, with one three
    cases hId : id.isUndefined with
    | true =>
      have hKeys : (buildError id code message).map Prod.fst = ["error", "jsonrpc"] := by
        unfold buildError QJsonObject.insert
        rw [hId]
        rfl
      rw [QJsonObject.size, hKeys]
      decide
    | false =>
      have hKeys : (buildError id code message).map Prod.fst = ["id", "error", "jsonrpc"] := by
        unfold buildError QJsonObject.insert
        rw [hId]
        rfl
      rw [QJsonObject.size, hKeys]
      decide
  refine ⟨QJsonObject.contains_of_value (by rw [hError]; rfl), ?_, hError,
    QJsonObject.contains_of_value (by rw [hValue]; rfl), hValue, hSize⟩
  unfold buildError
  dsimp only
  rw [QJsonObject.contains_insert_of_ne _ (by decide),
    QJsonObject.contains_insert_of_ne _ (by decide),
    QJsonObject.contains_insert_of_ne _ (by decide)]
  rfl

/-- So is an error. -/
theorem isResponse_buildError (id : QJsonValue) (code : Int) (message : String) :
    isResponse (buildError id code message) = true := by
  obtain ⟨hHolds, -, hError, hVersion, hVersion', hSize⟩ := buildError_members id code message
  obtain ⟨hCode, hMessage⟩ := errorObject_members code message
  have hCode' : QJsonObject.contains (errorObject code message) "code" = true :=
    QJsonObject.contains_of_value (by rw [hCode]; rfl)
  have hMessage' : QJsonObject.contains (errorObject code message) "message" = true :=
    QJsonObject.contains_of_value (by rw [hMessage]; rfl)
  unfold isResponse
  dsimp only
  rw [hHolds, hError, hVersion, hVersion', decide_eq_true hSize]
  -- the first branch: there is an error and it is an object
  refine (if_pos rfl).trans ?_
  rw [QJsonValue.toObject_object, hCode', hMessage', hCode, hMessage]
  rfl

/-- Both builders end with the id, and both are told the request's. -/
theorem id_buildResponse {id : QJsonValue} (hId : id.isUndefined = false) (result : QJsonValue) :
    (buildResponse id result).value "id" = id :=
  QJsonObject.value_insert _ _ hId

/-- An error carries the id it is given. -/
theorem id_buildError {id : QJsonValue} (hId : id.isUndefined = false) (code : Int)
    (message : String) : (buildError id code message).value "id" = id :=
  QJsonObject.value_insert _ _ hId

-- ---------------------------------------------------------------------------
-- One request
-- ---------------------------------------------------------------------------

/-- No method leaves its result undefined. -/
theorem isUndefined_result (method : String) (params : QJsonObject)
    (configurator : VMTDConfigurator) :
    (configurator.handleMethodSlot method params).result.isUndefined = false := by
  by_cases hGet : method = EnName.getScanners.text
  · rw [hGet, VMTDConfigurator.handleMethodSlot_text]
    rfl
  · obtain ⟨-, b, hResult⟩ := configurator.watchdog_handleMethodSlot hGet params
    rw [hResult]
    rfl

/-- The method is called, and its result is the reply. -/
theorem handleClient_of_succeeds {request : QJsonObject} (h : Succeeds request)
    (configurator : VMTDConfigurator) :
    handleClient request configurator =
      (buildResponse (request.value "id")
          (configurator.handleMethodSlot (request.value "method").toString
            (request.value "params").toObject).result,
        (configurator.handleMethodSlot (request.value "method").toString
          (request.value "params").toObject).configurator,
        (configurator.handleMethodSlot (request.value "method").toString
          (request.value "params").toObject).application) := by
  rw [handleClient, requestError_of_succeeds h]

/-- Nothing is called, and the error is the reply. -/
theorem handleClient_of_fails {request : QJsonObject} {error : EnError} (h : Fails request error)
    (configurator : VMTDConfigurator) :
    handleClient request configurator =
      (buildError (request.value "id") error.code error.text, configurator, none) := by
  rw [handleClient, requestError_of_fails h]

/-- What `handleClient` answers. -/
theorem reply_handleClient (request : QJsonObject) (configurator : VMTDConfigurator) :
    Reply configurator request (handleClient request configurator).1
      (handleClient request configurator).2.1 := by
  rcases succeeds_or_fails request with hSucceeds | ⟨error, hFails⟩
  · rw [handleClient_of_succeeds hSucceeds]
    have hResult := isUndefined_result (request.value "method").toString
      (request.value "params").toObject configurator
    obtain ⟨hHolds, hError, hValue⟩ := buildResponse_members (request.value "id") hResult
    exact {
      id := fun hId => id_buildResponse hId _
      accepted := isResponse_buildResponse _ hResult
      holds_result := ⟨fun _ => hSucceeds, fun _ => hHolds⟩
      result := fun _ => ⟨hValue, hError, rfl⟩
      error := fun error hFails => by
        -- the checks find an error or they do not
        have hSome := requestError_of_fails hFails
        rw [requestError_of_succeeds hSucceeds] at hSome
        exact nomatch hSome }
  · have hFails' : ¬Succeeds request := fun hSucceeds => by
      have hSome := requestError_of_fails hFails
      rw [requestError_of_succeeds hSucceeds] at hSome
      exact nomatch hSome
    rw [handleClient_of_fails hFails]
    obtain ⟨-, hResult, hError, -, -, -⟩ :=
      buildError_members (request.value "id") error.code error.text
    exact {
      id := fun hId => id_buildError hId _ _
      accepted := isResponse_buildError _ _ _
      holds_result := ⟨fun hHolds => absurd (hResult.symm.trans hHolds) Bool.false_ne_true,
        fun hSucceeds => absurd hSucceeds hFails'⟩
      result := fun hSucceeds => absurd hSucceeds hFails'
      error := fun error' hFails'' => by
        have hSame := (requestError_of_fails hFails'').symm.trans (requestError_of_fails hFails)
        obtain rfl : error' = error := Option.some.inj hSame
        exact ⟨⟨_, hError, errorObject_members _ _⟩, rfl⟩ }

/-- No reply is without members, so none is left out. -/
theorem Reply.isEmpty {configurator next : VMTDConfigurator} {request reply : QJsonObject}
    (h : Reply configurator request reply next) : reply.isEmpty = false := by
  cases reply with
  | nil => exact absurd h.accepted (by decide)
  | cons entry reply => rfl

-- ---------------------------------------------------------------------------
-- The requests of a message
-- ---------------------------------------------------------------------------

/-- A batch, from one configurator to the next. -/
theorem replies_handleClients (requests : List QJsonObject) (configurator : VMTDConfigurator) :
    Replies configurator requests (handleClients requests configurator).1
      (handleClients requests configurator).2.1 := by
  induction requests generalizing configurator with
  | nil => exact Replies.nil configurator
  | cons request requests ih =>
    exact Replies.cons (reply_handleClient request configurator) (ih _)

/-- No reply is dropped as empty. -/
theorem Replies.isEmpty {configurator last : VMTDConfigurator}
    {requests replies : List QJsonObject} (h : Replies configurator requests replies last) :
    ∀ reply ∈ replies, reply.isEmpty = false := by
  induction h with
  | nil configurator => exact fun _ hMem => absurd hMem List.not_mem_nil
  | cons first rest ih =>
    rintro reply hMem
    rcases List.mem_cons.mp hMem with rfl | hMem
    · exact first.isEmpty
    · exact ih reply hMem

/-- The reply to a text: it depends on what the text parses to. -/
def AnswersTo (configurator : VMTDConfigurator) (reply : Option QJsonDocument)
    (last : VMTDConfigurator) : Option QJsonDocument → Prop
  | none =>
    ∃ error, reply = some (.object error) ∧ last = configurator ∧ isResponse error = true ∧
      QJsonObject.contains error "result" = false ∧
      ∃ errorObj, error.value "error" = .object errorObj ∧
        QJsonObject.value errorObj "code" = .ofInt EnError.parseError.code ∧
        QJsonObject.value errorObj "message" = .string EnError.parseError.text
  | some (.object request) =>
    ∃ response, reply = some (.object response) ∧ Reply configurator request response last
  | some (.array elements) =>
    elements ≠ [] →
      ∃ responses, reply = some (.array (responses.map .object)) ∧
        responses.length = elements.length ∧
        Replies configurator (elements.map QJsonValue.toObject) responses last

/-- A client answers every text: a document of requests with one reply each, in
their order, and anything else with a parse error. -/
theorem client_replies (fromJson : String → Option QJsonDocument) {data : String}
    (hData : data ≠ "") (configurator : VMTDConfigurator) :
    AnswersTo configurator (receiveRequestSlot fromJson data configurator).1
      (receiveRequestSlot fromJson data configurator).2.1 (fromJson data) := by
  have hEmpty : data.isEmpty = false := by
    rw [Bool.eq_false_iff, Ne, String.isEmpty_iff]
    exact hData
  unfold receiveRequestSlot
  rw [if_neg (by rw [hEmpty]; exact Bool.false_ne_true)]
  cases fromJson data with
  | none =>
    obtain ⟨-, hResult, hError, -, -, -⟩ :=
      buildError_members .null EnError.parseError.code EnError.parseError.text
    exact ⟨_, rfl, rfl, isResponse_buildError _ _ _, hResult, _, hError, errorObject_members _ _⟩
  | some inputDoc =>
    cases inputDoc with
    | object request =>
      have hReply := reply_handleClient request configurator
      refine ⟨(handleClient request configurator).1, ?_, hReply⟩
      show (if (handleClient request configurator).1.isEmpty then none
        else some (QJsonDocument.object _)) = _
      rw [hReply.isEmpty, if_neg Bool.false_ne_true]
      rfl
    | array elements =>
      intro hElements
      have hReplies := replies_handleClients (elements.map QJsonValue.toObject) configurator
      have hLength := hReplies.length_eq
      rw [List.length_map] at hLength
      refine ⟨_, ?_, hLength, hReplies⟩
      -- the filter keeps every reply, and there is at least one
      have hAll : (handleClients (elements.map QJsonValue.toObject) configurator).1.filter
          (fun response => !response.isEmpty) =
            (handleClients (elements.map QJsonValue.toObject) configurator).1 := by
        rw [List.filter_eq_self]
        intro reply hMem
        rw [hReplies.isEmpty reply hMem]
        rfl
      have hSome : ((handleClients (elements.map QJsonValue.toObject) configurator).1.map
          QJsonValue.object).isEmpty = false := by
        rw [Bool.eq_false_iff, Ne, List.isEmpty_iff, List.map_eq_nil_iff]
        intro hNil
        rw [hNil, List.length_nil] at hLength
        exact hElements (List.eq_nil_of_length_eq_zero hLength.symm)
      unfold replyTo
      dsimp only
      rw [hAll, hSome, if_neg Bool.false_ne_true]

/-- A batch of something that is no request and of a call. -/
def batch : String :=
  "[1, \x7b\"id\": \"7\", \"jsonrpc\": \"2.0\", \"method\": \"clearHosts\", \"params\": \x7b\x7d\x7d]"

/-- What the batch is as JSON, and no other text is. -/
def readBatch (data : String) : Option QJsonDocument :=
  if data = batch then some (.array [.double 1, .object (buildRequest 7 "clearHosts" [])])
  else none

/-- The batch has a reply for each element, and a broken text has one too. -/
theorem client_replies_batch :
    (∃ responses : List QJsonObject,
      (receiveRequestSlot readBatch batch {}).1 = some (.array (responses.map .object)) ∧
      Replies {} [[], buildRequest 7 "clearHosts" []] responses
        (receiveRequestSlot readBatch batch {}).2.1) ∧
    ∃ error : QJsonObject, (receiveRequestSlot readBatch "[1, \x7b" {}).1 = some (.object error) := by
  have hBatch : readBatch batch =
      some (.array [.double 1, .object (buildRequest 7 "clearHosts" [])]) := if_pos rfl
  have hBroken : readBatch "[1, \x7b" = none := if_neg (by decide)
  have hReply := client_replies readBatch (show batch ≠ "" by decide) {}
  have hError := client_replies readBatch (show "[1, \x7b" ≠ "" by decide) {}
  rw [hBatch] at hReply
  rw [hBroken] at hError
  obtain ⟨responses, hResponses, -, hReplies⟩ := hReply (List.cons_ne_nil _ _)
  obtain ⟨error, hError, -⟩ := hError
  exact ⟨⟨responses, hResponses, hReplies⟩, error, hError⟩

end VxlanMtd
