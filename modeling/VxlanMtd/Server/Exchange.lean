import Mathlib.Data.List.Flatten
import VxlanMtd.Lib.Channel
import VxlanMtd.Lib.Run
import VxlanMtd.Lib.Text
import VxlanMtd.Model.HostHandler

/-!
# The exchange with one host

The handler of a host on the server's side and the one on the host's side, with
its configurator, joined by two channels. `ExchangeEvent` has whatever the
server's handler may be told, deliveries in both directions and the breaking of
either channel, in any order.

A channel carries documents, for the text of a document parses to it again. The
exchange records the request lists that were appended, the documents made of
them and those the host has received.

* `react_spec` — what one event does to the queue, the command counter and the
  messages to send;
* `Ordered` — what was received, is in flight or queued is a sublist of what was
  appended; kept by every event (`ordered_step`);
* **`requests_inOrder`** — every request is executed at most once, in the order
  of appending.
-/

namespace VxlanMtd

open EventRun VMTDHostProtocolHandler

-- ---------------------------------------------------------------------------
-- Requests and calls
-- ---------------------------------------------------------------------------

/-- What a request calls. -/
def call (request : QJsonObject) : String × QJsonObject :=
  ((request.value "method").toString, (request.value "params").toObject)

/-- The calls of a document's requests. -/
def calls (document : QJsonDocument) : RequestList := (responses document).map call

/-- The configurator after a call. -/
def execute (configurator : VMTDConfigurator) (called : String × QJsonObject) :
    VMTDConfigurator :=
  (configurator.handleMethodSlot called.1 called.2).configurator

/-- A request keeps its method and its parameters. -/
theorem call_buildRequest (commandCounter : Int) (method : String) (params : QJsonObject) :
    call (buildRequest commandCounter method params) = (method, params) := by
  obtain ⟨-, hMethod, hParams, -⟩ := buildRequest_members commandCounter method params
  rw [call, hMethod, hParams]
  rfl

/-- So do those of a list. -/
theorem map_call_buildRequests (commandCounter : Int) (requests : RequestList) :
    (buildRequests commandCounter requests).map call = requests := by
  induction requests generalizing commandCounter with
  | nil => rfl
  | cons request requests ih =>
    rw [buildRequests, List.map_cons, call_buildRequest, ih]

/-- The ids go on where the first list ends. -/
theorem buildRequests_append (commandCounter : Int) (requests more : RequestList) :
    buildRequests commandCounter (requests ++ more) =
      buildRequests commandCounter requests ++
        buildRequests (commandCounter + requests.length) more := by
  induction requests generalizing commandCounter with
  | nil => simp [buildRequests]
  | cons request requests ih =>
    rw [List.cons_append, buildRequests, buildRequests, ih, List.cons_append, List.length_cons]
    congr 3
    push_cast
    omega

/-- The ids of requests built one after the other are all different. -/
theorem nodup_ids_buildRequests (commandCounter : Int) (requests : RequestList) :
    ((buildRequests commandCounter requests).map fun request =>
      (request.value "id").toString).Nodup := by
  -- an id is the counter's text, and later requests have larger counters
  have hId : ∀ counter method params, ((buildRequest counter method params).value "id").toString =
      toString counter := fun counter method params => by
    rw [(buildRequest_members counter method params).2.2.2, QJsonValue.toString_string]
    exact @PlaceMarker.arg_suffix "" (by decide) (toString counter)
  have hLater : ∀ (requests : RequestList) (counter : Int),
      ∀ id ∈ (buildRequests counter requests).map fun request => (request.value "id").toString,
        ∃ k, counter ≤ k ∧ id = toString k := by
    intro requests
    induction requests with
    | nil => exact fun _ _ hMem => absurd hMem List.not_mem_nil
    | cons request requests ih =>
      intro counter id hMem
      rcases List.mem_cons.mp hMem with rfl | hMem
      · exact ⟨counter, Int.le_refl _, hId _ _ _⟩
      · obtain ⟨k, hk, rfl⟩ := ih (counter + 1) id hMem
        exact ⟨k, by omega, rfl⟩
  induction requests generalizing commandCounter with
  | nil => exact List.nodup_nil
  | cons request requests ih =>
    refine List.nodup_cons.mpr ⟨fun hMem => ?_, ih (commandCounter + 1)⟩
    obtain ⟨k, hk, hText⟩ := hLater requests (commandCounter + 1) _ hMem
    have hSame : commandCounter = k :=
      Text.repr_inj (congrArg String.toList ((hId _ _ _).symm.trans hText))
    omega

-- ---------------------------------------------------------------------------
-- One event of the server's handler
-- ---------------------------------------------------------------------------

/-- The document of a signal that sends one. -/
def HostSignal.message : HostSignal → Option QJsonDocument
  | .sendMessage _ _ data => some data
  | _ => none

/-- The request lists an event appends. -/
def VMTDHostProtocolHandler.HostEvent.lists : HostEvent → List RequestList
  | .appendRequestList requests => [requests]
  | .checkConnection => [[(EnName.checkConnection.text, [])]]
  | _ => []

/-- What an event does to the queue and the counter, with the documents that are
new in the queue and the messages to send. -/
structure Reacts (handler : VMTDHostProtocolHandler) (event : HostEvent)
    (next : VMTDHostProtocolHandler) (messages appended : List QJsonDocument) : Prop where
  queue : (messages ++ next.requests).Sublist (handler.requests ++ appended)
  counter : next.commandCounter = handler.commandCounter + event.lists.flatten.length
  built : appended.flatMap responses = buildRequests handler.commandCounter event.lists.flatten
  calls : appended.map calls = event.lists.filter fun requests => !requests.isEmpty

namespace VMTDHostProtocolHandler

variable {handler : VMTDHostProtocolHandler}

/-- An event that appends nothing. -/
theorem reacts_of_queue {event : HostEvent} {next : VMTDHostProtocolHandler}
    {messages : List QJsonDocument} (hLists : event.lists = [])
    (hQueue : (messages ++ next.requests).Sublist handler.requests)
    (hCounter : next.commandCounter = handler.commandCounter) :
    Reacts handler event next messages [] where
  queue := by
    rw [List.append_nil]
    exact hQueue
  counter := by
    rw [hLists, hCounter]
    exact (Int.add_zero _).symm
  built := by
    rw [hLists]
    rfl
  calls := by
    rw [hLists]
    rfl

/-- A request list makes one document, unless it is empty. -/
theorem appendRequestListSlot_spec (requests : RequestList) (handler : VMTDHostProtocolHandler) :
    ∃ appended, (handler.appendRequestListSlot requests).requests = handler.requests ++ appended ∧
      (handler.appendRequestListSlot requests).commandCounter =
        handler.commandCounter + requests.length ∧
      appended.flatMap responses = buildRequests handler.commandCounter requests ∧
      appended.map VxlanMtd.calls = [requests].filter fun requests => !requests.isEmpty := by
  have hCalls := map_call_buildRequests handler.commandCounter requests
  unfold appendRequestListSlot
  match requests with
  | [] => exact ⟨[], by simp [buildRequests]⟩
  | [(method, params)] =>
    refine ⟨[.object (buildRequest handler.commandCounter method params)], rfl, rfl, rfl, ?_⟩
    exact congrArg (fun l => [l]) hCalls
  | first :: second :: rest =>
    have hObjects : ∀ a : List QJsonObject, (a.map QJsonValue.object).map QJsonValue.toObject = a := by
      intro a
      rw [List.map_map]
      exact List.map_id a
    refine ⟨[.array ((buildRequests handler.commandCounter (first :: second :: rest)).map .object)],
      rfl, ?_, ?_, ?_⟩
    · have hLength := congrArg List.length hCalls
      rw [List.length_map] at hLength
      show handler.commandCounter + ((buildRequests handler.commandCounter
        (first :: second :: rest)).length : Int) = _
      rw [hLength]
    · rw [List.flatMap_singleton]
      exact hObjects _
    · refine congrArg (fun l => [l]) ?_
      rw [VxlanMtd.calls, responses, hObjects, hCalls]

/-- Responses are not answered. -/
theorem messages_handleServers (responses : List QJsonObject) (handler : VMTDHostProtocolHandler) :
    (handler.handleServers responses).2.filterMap HostSignal.message = [] := by
  rw [signals_handleServers, List.filterMap_eq_nil_iff]
  intro signal hSignal
  obtain ⟨response, -, hSignal⟩ := List.mem_flatMap.mp hSignal
  -- a report, and possibly a result
  unfold handleServer at hSignal
  rcases List.mem_cons.mp hSignal with rfl | hSignal
  · rfl
  · split at hSignal
    · rw [List.mem_singleton.mp hSignal]
      rfl
    · exact absurd hSignal List.not_mem_nil

/-- Appending a list. -/
theorem reacts_appendRequestListSlot (handler : VMTDHostProtocolHandler) {event : HostEvent}
    {requests : RequestList} (hLists : event.lists = [requests]) :
    ∃ appended, Reacts handler event (handler.appendRequestListSlot requests) [] appended ∧
      (handler.appendRequestListSlot requests).requests.drop handler.requests.length = appended := by
  obtain ⟨appended, hQueue, hCounter, hBuilt, hCalls⟩ := appendRequestListSlot_spec requests handler
  have hFlatten : event.lists.flatten = requests := by
    rw [hLists, List.flatten_cons, List.flatten_nil, List.append_nil]
  refine ⟨appended, ⟨?_, ?_, ?_, ?_⟩, ?_⟩
  · rw [List.nil_append, hQueue]
  · rw [hFlatten, hCounter]
  · rw [hFlatten, hBuilt]
  · rw [hLists, hCalls]
  · rw [hQueue, List.drop_left]

/-- **One event**: what it takes from the queue is sent, and what it appends is
new in the queue. -/
theorem react_spec (fromJson : String → Option QJsonDocument) (handler : VMTDHostProtocolHandler)
    (event : HostEvent) :
    ∃ appended, Reacts handler event (handler.react fromJson event).1
        ((handler.react fromJson event).2.filterMap HostSignal.message) appended ∧
      (handler.react fromJson event).1.requests.drop handler.requests.length = appended := by
  cases event with
  | appendRequestList requests => exact reacts_appendRequestListSlot handler rfl
  | checkConnection =>
    exact @reacts_appendRequestListSlot handler .checkConnection
      [(EnName.checkConnection.text, [])] rfl
  | clearQueue =>
    exact ⟨[], reacts_of_queue rfl (List.nil_sublist _) rfl, List.drop_nil⟩
  | messageReceived ip port data =>
    have hState := (handleServers_spec (receivedResponses fromJson data) handler).1
    have hSame : (handler.receiveMessageSlot fromJson ip port data).1.requests = handler.requests ∧
        (handler.receiveMessageSlot fromJson ip port data).1.commandCounter =
          handler.commandCounter := by
      unfold receiveMessageSlot
      rw [hState]
      split <;> exact ⟨rfl, rfl⟩
    refine ⟨[], reacts_of_queue rfl ?_ hSame.2, ?_⟩
    · show (List.filterMap _ (handler.handleServers _).2 ++ _).Sublist _
      rw [messages_handleServers]
      exact hSame.1 ▸ List.Sublist.refl _
    · exact hSame.1 ▸ List.drop_length
  | checkQueueTimer =>
    show ∃ appended, Reacts handler .checkQueueTimer (checkQueueTimerSlot handler).1
      ((checkQueueTimerSlot handler).2.filterMap HostSignal.message) appended ∧
        (checkQueueTimerSlot handler).1.requests.drop handler.requests.length = appended
    unfold checkQueueTimerSlot
    split
    · rename_i outputDoc requests hQueue _
      -- the first document of the queue becomes the message
      refine ⟨[], reacts_of_queue rfl ?_ rfl, List.drop_eq_nil_of_le ?_⟩
      · rw [hQueue]
        exact List.Sublist.refl _
      · rw [hQueue]
        exact Nat.le_succ _
    · exact ⟨[], reacts_of_queue rfl (List.Sublist.refl _) rfl, List.drop_length⟩
  | ticketTimeout =>
    unfold react
    dsimp only
    split
    · exact ⟨[], reacts_of_queue rfl (List.Sublist.refl _) rfl, List.drop_length⟩
    · exact ⟨[], reacts_of_queue rfl (List.Sublist.refl _) rfl, List.drop_length⟩

end VMTDHostProtocolHandler

-- ---------------------------------------------------------------------------
-- The host
-- ---------------------------------------------------------------------------

/-- The calls that reach the configurator: those of the requests that pass every
check. -/
def executed (requests : List QJsonObject) : List QJsonObject :=
  requests.filter fun request => (requestError request).isNone

/-- A batch that is handled executes its accepted requests in order. -/
theorem configurator_handleClients (requests : List QJsonObject) (configurator : VMTDConfigurator) :
    (handleClients requests configurator).2.1 =
      ((executed requests).map call).foldl execute configurator := by
  induction requests generalizing configurator with
  | nil => rfl
  | cons request requests ih =>
    show (handleClients requests (handleClient request configurator).2.1).2.1 = _
    rw [ih]
    unfold executed handleClient
    rw [List.filter_cons]
    cases requestError request with
    | some error => rfl
    | none => rfl

/-- The configurator after a document. -/
theorem configurator_replyTo (document : QJsonDocument) (configurator : VMTDConfigurator) :
    (replyTo document configurator).2.1 =
      ((executed (responses document)).map call).foldl execute configurator := by
  cases document with
  | object request => exact configurator_handleClients [request] configurator
  | array elements => exact configurator_handleClients _ configurator

-- ---------------------------------------------------------------------------
-- Both sides
-- ---------------------------------------------------------------------------

/-- Server and host, the channels between them, and the record of the run: the
request lists appended, the documents they made, and those the host received. -/
structure Exchange where
  handler : VMTDHostProtocolHandler
  configurator : VMTDConfigurator
  toClient : Channel QJsonDocument := {}
  toServer : Channel QJsonDocument := {}
  lists : List RequestList := []
  appended : List QJsonDocument := []
  delivered : List QJsonDocument := []

/-- An event of the server's handler, a delivery, or the breaking of a channel
that lets the first `keep` messages in flight through. -/
inductive ExchangeEvent where
  | host (event : HostEvent)
  | deliverToClient
  | deliverToServer
  | cutToClient (keep : Nat)
  | cutToServer (keep : Nat)

namespace Exchange

/-- One event. -/
def step (fromJson : String → Option QJsonDocument) (exchange : Exchange) :
    ExchangeEvent → Exchange
  | .host event =>
    let (handler, signals) := exchange.handler.react fromJson event
    { exchange with
      handler := handler
      toClient := exchange.toClient.send (signals.filterMap HostSignal.message)
      lists := exchange.lists ++ event.lists
      appended := exchange.appended ++ handler.requests.drop exchange.handler.requests.length }
  | .deliverToClient =>
    match exchange.toClient.receive with
    | none => exchange
    | some (document, toClient) =>
      let (reply, configurator, _) := replyTo document exchange.configurator
      { exchange with
        configurator := configurator
        toClient := toClient
        toServer := exchange.toServer.send reply.toList
        delivered := exchange.delivered ++ [document] }
  | .deliverToServer =>
    match exchange.toServer.receive with
    | none => exchange
    | some (document, toServer) =>
      { exchange with
        handler := (exchange.handler.handleServers (responses document)).1
        toServer := toServer }
  | .cutToClient keep => { exchange with toClient := exchange.toClient.cut keep }
  | .cutToServer keep => { exchange with toServer := exchange.toServer.cut keep }

/-- A new handler, a host whose configurator is in some state, and nothing in
flight. -/
def start (ip : String) (port : Int) (configurator : VMTDConfigurator) : Exchange where
  handler := { hostIp := ip, hostPort := port }
  configurator := configurator

/-- The requests the host has executed, in order. -/
def history (exchange : Exchange) : List QJsonObject :=
  executed (exchange.delivered.flatMap responses)

/-- The invariant of a run. -/
structure Ordered (initial : VMTDConfigurator) (exchange : Exchange) : Prop where
  inOrder : (exchange.delivered ++ exchange.toClient.inFlight ++ exchange.handler.requests).Sublist
    exchange.appended
  counter : exchange.handler.commandCounter = exchange.lists.flatten.length
  built : exchange.appended.flatMap responses = buildRequests 0 exchange.lists.flatten
  calls : exchange.appended.map VxlanMtd.calls =
    exchange.lists.filter fun requests => !requests.isEmpty
  state : exchange.configurator = (exchange.history.map call).foldl execute initial

variable {initial : VMTDConfigurator} {exchange : Exchange}

/-- At the start nothing is queued, in flight or executed. -/
theorem ordered_start (ip : String) (port : Int) (initial : VMTDConfigurator) :
    Ordered initial (start ip port initial) :=
  ⟨List.Sublist.refl _, rfl, rfl, rfl, rfl⟩

/-- What happens to the handler. -/
theorem ordered_host (h : Ordered initial exchange) (fromJson : String → Option QJsonDocument)
    (event : HostEvent) : Ordered initial (exchange.step fromJson (.host event)) := by
  obtain ⟨appended, hReacts, hDrop⟩ := react_spec fromJson exchange.handler event
  have hAppended : (exchange.step fromJson (.host event)).appended =
      exchange.appended ++ appended := congrArg (exchange.appended ++ ·) hDrop
  constructor
  · rw [hAppended]
    show (exchange.delivered ++
      (exchange.toClient.send ((exchange.handler.react fromJson event).2.filterMap
        HostSignal.message)).inFlight ++ (exchange.handler.react fromJson event).1.requests).Sublist _
    -- at most the messages are added in flight; they come from the queue's front
    refine (((List.Sublist.refl exchange.delivered).append (Channel.sublist_send _)).append
      (List.Sublist.refl _)).trans ?_
    rw [← List.append_assoc, List.append_assoc]
    refine ((List.Sublist.refl _).append hReacts.queue).trans ?_
    rw [← List.append_assoc]
    exact h.inOrder.append (List.Sublist.refl appended)
  · show (exchange.handler.react fromJson event).1.commandCounter =
      ((exchange.lists ++ event.lists).flatten.length : Int)
    rw [hReacts.counter, h.counter, List.flatten_append, List.length_append]
    push_cast
    rfl
  · rw [hAppended, List.flatMap_append, h.built, hReacts.built, h.counter]
    show _ = buildRequests 0 (exchange.lists ++ event.lists).flatten
    rw [List.flatten_append, buildRequests_append, Int.zero_add]
  · rw [hAppended, List.map_append, h.calls, hReacts.calls]
    exact (List.filter_append _ _).symm
  · exact h.state

/-- A document arrives at the host. -/
theorem ordered_deliverToClient (h : Ordered initial exchange)
    (fromJson : String → Option QJsonDocument) :
    Ordered initial (exchange.step fromJson .deliverToClient) := by
  unfold step
  dsimp only
  cases hReceive : exchange.toClient.receive with
  | none => exact h
  | some received =>
    obtain ⟨document, toClient⟩ := received
    have hInFlight := Channel.inFlight_receive hReceive
    constructor
    · -- the document moves from the channel to the delivered ones
      have hOrder := h.inOrder
      rw [hInFlight] at hOrder
      simpa using hOrder
    · exact h.counter
    · exact h.built
    · exact h.calls
    · show (replyTo document exchange.configurator).2.1 =
        ((executed ((exchange.delivered ++ [document]).flatMap responses)).map call).foldl execute
          initial
      have hHistory : executed ((exchange.delivered ++ [document]).flatMap responses) =
          exchange.history ++ executed (responses document) := by
        rw [List.flatMap_append, List.flatMap_singleton, executed, List.filter_append]
        rfl
      rw [configurator_replyTo, hHistory, List.map_append, List.foldl_append, ← h.state]

/-- **Every event keeps the order.** -/
theorem ordered_step (h : Ordered initial exchange) (fromJson : String → Option QJsonDocument)
    (event : ExchangeEvent) : Ordered initial (exchange.step fromJson event) := by
  cases event with
  | host event => exact ordered_host h fromJson event
  | deliverToClient => exact ordered_deliverToClient h fromJson
  | deliverToServer =>
    unfold step
    dsimp only
    cases hReceive : exchange.toServer.receive with
    | none => exact h
    | some received =>
      obtain ⟨document, toServer⟩ := received
      -- a reply changes the ticket only
      have hState := (handleServers_spec (responses document) exchange.handler).1
      have hSame : (exchange.handler.handleServers (responses document)).1.requests =
          exchange.handler.requests ∧
          (exchange.handler.handleServers (responses document)).1.commandCounter =
            exchange.handler.commandCounter := by
        rw [hState]
        split <;> exact ⟨rfl, rfl⟩
      refine ⟨?_, hSame.2.trans h.counter, h.built, h.calls, h.state⟩
      show (exchange.delivered ++ exchange.toClient.inFlight ++
        (exchange.handler.handleServers (responses document)).1.requests).Sublist _
      rw [hSame.1]
      exact h.inOrder
  | cutToClient keep =>
    refine ⟨?_, h.counter, h.built, h.calls, h.state⟩
    exact (((List.Sublist.refl _).append (Channel.sublist_cut keep)).append
      (List.Sublist.refl _)).trans h.inOrder
  | cutToServer keep => exact ⟨h.inOrder, h.counter, h.built, h.calls, h.state⟩

/-- What a run leaves of the requests that were appended. -/
structure InOrder (initial : VMTDConfigurator) (exchange : Exchange) : Prop where
  /-- Every appended list that is not empty made one document. -/
  appended : exchange.appended.map VxlanMtd.calls =
    exchange.lists.filter fun requests => !requests.isEmpty
  /-- The host received whole documents, in their order and none twice. -/
  delivered : exchange.delivered.Sublist exchange.appended
  /-- All requests that were ever built have different ids: the counter they are
  made from does not overflow here. -/
  ids : ((exchange.appended.flatMap responses).map fun request =>
    (request.value "id").toString).Nodup
  /-- No request was executed twice. -/
  once : (exchange.history.map fun request => (request.value "id").toString).Nodup
  /-- The executed calls are a subsequence of the appended ones. -/
  executed : (exchange.history.map call).Sublist exchange.lists.flatten
  /-- They are all that happened to the configurator. -/
  state : exchange.configurator = (exchange.history.map call).foldl execute initial

/-- What the order says about the executed requests. -/
theorem Ordered.final (h : Ordered initial exchange) : InOrder initial exchange := by
  have hDelivered : exchange.delivered.Sublist exchange.appended := by
    refine List.Sublist.trans ?_ h.inOrder
    rw [List.append_assoc]
    exact List.sublist_append_left _ _
  have hIds : ((exchange.appended.flatMap responses).map fun request =>
      (request.value "id").toString).Nodup := by
    rw [h.built]
    exact nodup_ids_buildRequests 0 _
  have hHistory : exchange.history.Sublist (exchange.appended.flatMap responses) :=
    List.filter_sublist.trans (hDelivered.flatMap responses)
  have hCalls : (exchange.appended.flatMap responses).map call = exchange.lists.flatten := by
    rw [h.built, map_call_buildRequests]
  exact ⟨h.calls, hDelivered, hIds, hIds.sublist (hHistory.map _), hCalls ▸ hHistory.map call,
    h.state⟩

end Exchange

/-- **At most once, in order**: in every run of a server's and a host's handler,
whatever times out, is cleared, answered late or lost, the host executes each
appended request at most once and in the order of appending, whole lists in one
piece, and nothing else changes its configurator. -/
theorem requests_inOrder (fromJson : String → Option QJsonDocument) (ip : String) (port : Int)
    (configurator : VMTDConfigurator) (events : List ExchangeEvent) :
    Exchange.InOrder configurator
      (run (Exchange.step fromJson) (Exchange.start ip port configurator) events) :=
  Exchange.Ordered.final <|
    invariant_of_reachable (Exchange.ordered_start ip port configurator)
      (fun _ event hOrdered => Exchange.ordered_step hOrdered fromJson event) ⟨events, rfl⟩

end VxlanMtd
