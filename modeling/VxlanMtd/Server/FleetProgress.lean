import VxlanMtd.Server.Fleet
import VxlanMtd.Server.Progress

/-!
# Requests get through to every host

The handler of an address, the connection its messages go over and the host at
its end, while anything may happen to the rest of the fleet.

* `Fleet.Linked` — the handler has a connection that is whole, and sends over it;
* `progresses_step` — every event that spares them is an action of the handler's
  queue, and hands on what the queue sends;
* `Fleet.Fair` — the timers of the handler go on firing, and the connection goes
  on delivering;
* **`asked_eventually_executed`** — then whatever was asked for the address, and
  passes the checks of the host, is executed some time later.
-/

namespace VxlanMtd

open EventRun Progress Tally VMTDHostProtocolHandler

-- ---------------------------------------------------------------------------
-- Requests that pass the checks
-- ---------------------------------------------------------------------------

/-- The calls of a list that pass the checks of a host. -/
def accepted (requests : RequestList) : RequestList :=
  requests.filter fun called => (requestError (buildRequest 0 called.1 called.2)).isNone

/-- The number of a request is not checked. -/
theorem requestError_buildRequest_eq (commandCounter : Int) (method : String)
    (params : QJsonObject) : requestError (buildRequest commandCounter method params) =
      requestError (buildRequest 0 method params) := by
  obtain ⟨-, hMethod, hParams, -⟩ := buildRequest_members commandCounter method params
  obtain ⟨-, hMethod', hParams', -⟩ := buildRequest_members 0 method params
  unfold requestError
  rw [isRequest_buildRequest, isRequest_buildRequest, hMethod, hMethod', hParams, hParams']

/-- The accepted requests of two lists. -/
theorem accepted_append (requests more : RequestList) :
    accepted (requests ++ more) = accepted requests ++ accepted more :=
  List.filter_append _ _

/-- What is executed of the requests built for a list. -/
theorem map_call_executed (commandCounter : Int) (requests : RequestList) :
    (executed (buildRequests commandCounter requests)).map call = accepted requests := by
  induction requests generalizing commandCounter with
  | nil => rfl
  | cons called requests ih =>
    have hRest := ih (commandCounter + 1)
    unfold executed at hRest ⊢
    unfold accepted at hRest ⊢
    rw [buildRequests, List.filter_cons, List.filter_cons, requestError_buildRequest_eq]
    split
    · rw [List.map_cons, call_buildRequest, hRest]
    · exact hRest

/-- The calls of documents that pass the checks. -/
def acceptedCalls (documents : List QJsonDocument) : RequestList :=
  (executed (documents.flatMap responses)).map call

/-- The accepted requests of documents in a row. -/
theorem acceptedCalls_append (documents more : List QJsonDocument) :
    acceptedCalls (documents ++ more) = acceptedCalls documents ++ acceptedCalls more := by
  rw [acceptedCalls, List.flatMap_append, executed, List.filter_append, List.map_append]
  rfl

theorem acceptedCalls_eq_flatten (documents : List QJsonDocument) : acceptedCalls documents =
    (documents.map fun document => (executed (responses document)).map call).flatten := by
  induction documents with
  | nil => rfl
  | cons document documents ih =>
    rw [List.map_cons, List.flatten_cons, ← ih, ← List.singleton_append, acceptedCalls_append]
    refine congrArg (· ++ acceptedCalls documents) ?_
    rw [acceptedCalls, List.flatMap_singleton]

-- ---------------------------------------------------------------------------
-- A handler among others
-- ---------------------------------------------------------------------------

/-- The document of a signal that sends one to a host. -/
def HostSignal.messageTo (ip : String) (port : Int) : HostSignal → Option QJsonDocument
  | .sendMessage hostIp hostPort data => if hostIp = ip ∧ hostPort = port then some data else none
  | _ => none

/-- A handler keeps its address and port. -/
theorem VMTDHostProtocolHandler.endpoint_react (fromJson : String → Option QJsonDocument)
    (handler : VMTDHostProtocolHandler) (event : HostEvent) :
    (handler.react fromJson event).1.endpoint = handler.endpoint := by
  cases event with
  | appendRequestList requests => exact handler.endpoint_appendRequestListSlot requests
  | clearQueue => rfl
  | checkConnection => exact handler.endpoint_appendRequestListSlot _
  | messageReceived ip port data => exact handler.endpoint_receiveMessageSlot fromJson ip port data
  | checkQueueTimer => exact handler.endpoint_checkQueueTimerSlot
  | ticketTimeout =>
    unfold react
    dsimp only
    split <;> rfl

theorem VMTDHostProtocolHandler.endpoint_handleServers (handler : VMTDHostProtocolHandler)
    (responses : List QJsonObject) : (handler.handleServers responses).1.endpoint = handler.endpoint := by
  rw [(handleServers_spec _ handler).1]
  split <;> rfl

namespace VMTDServer

variable {server : VMTDServer} {ip : String} {handler : VMTDHostProtocolHandler}
  {slot : String → VMTDHostProtocolHandler → VMTDHostProtocolHandler × List HostSignal}

/-- What a handler sends goes to its own address and port. -/
theorem endpoint_of_mem_reactTo {fromJson : String → Option QJsonDocument}
    {told : Option HostEvent} {hostIp : String} {hostPort : Int} {data : QJsonDocument}
    (h : .sendMessage hostIp hostPort data ∈ (reactTo fromJson handler told).2) :
    hostIp = handler.hostIp ∧ hostPort = handler.hostPort := by
  cases told with
  | none => exact absurd h List.not_mem_nil
  | some event => exact endpoint_of_mem_react h

/-- What is sent to a host is what its handler sends. -/
theorem filterMap_messageTo_each (hKeyed : server.WellKeyed)
    (h : server.hostHandlers.lookup ip = some handler)
    (slot : String → VMTDHostProtocolHandler → VMTDHostProtocolHandler × List HostSignal)
    (hOwn : ∀ key handler {hostIp hostPort data},
      .sendMessage hostIp hostPort data ∈ (slot key handler).2 →
        hostIp = handler.hostIp ∧ hostPort = handler.hostPort) :
    (server.each slot).2.filterMap (HostSignal.messageTo ip handler.hostPort) =
      (slot ip handler).2.filterMap HostSignal.message := by
  have hIp : handler.hostIp = ip :=
    hKeyed.own _ ((Table.lookup_eq_some_iff_mem hKeyed.nodup).mp h)
  rw [each, List.filterMap_flatMap, Table.flatMap_of_lookup hKeyed.nodup h]
  · refine List.filterMap_congr fun signal hSignal => ?_
    cases signal with
    | sendMessage hostIp hostPort data =>
      obtain ⟨hHost, hPort⟩ := hOwn ip handler hSignal
      exact if_pos ⟨hHost.trans hIp, hPort⟩
    | updateIpOnline | handleResult => rfl
  · intro entry hEntry hKey
    refine List.filterMap_eq_nil_iff.mpr fun signal hSignal => ?_
    cases signal with
    | sendMessage hostIp hostPort data =>
      obtain ⟨hHost, -⟩ := hOwn entry.1 entry.2 hSignal
      exact if_neg fun hSame => hKey (((hKeyed.own entry hEntry).symm.trans hHost.symm).trans hSame.1)
    | updateIpOnline | handleResult => rfl

/-- The handler of an address, after every handler did something. -/
theorem lookup_each (h : server.hostHandlers.lookup ip = some handler) :
    (server.each slot).1.hostHandlers.lookup ip = some (slot ip handler).1 := by
  refine (Table.lookup_map_key (fun key handler => (slot key handler).1) server.hostHandlers
    ip).trans ?_
  rw [h]
  rfl

/-- No handler waits without its timer. -/
def Timed (server : VMTDServer) : Prop := ∀ entry ∈ server.hostHandlers, entry.2.TimerMatches

theorem Timed.each (h : server.Timed)
    (hSlot : ∀ key handler, handler.TimerMatches → (slot key handler).1.TimerMatches) :
    (server.each slot).1.Timed := by
  intro entry hEntry
  obtain ⟨old, hOld, rfl⟩ := List.mem_map.mp hEntry
  exact hSlot old.1 old.2 (h old hOld)

end VMTDServer

namespace Fleet

variable {fromJson : String → Option QJsonDocument} {fleet : Fleet}

/-- Every event keeps the ticket timers in step with the tickets. -/
theorem timed_step (h : fleet.server.Timed) (event : FleetEvent) :
    (fleet.step fromJson event).server.Timed := by
  cases event with
  | server event =>
    show (fleet.server.react fromJson event).1.Timed
    by_cases hKeeps : VMTDServer.KeepsSockets event
    · rw [VMTDServer.react_eq _ hKeeps]
      refine h.each fun key handler hTimer => ?_
      cases fleet.server.told key event with
      | none => exact hTimer
      | some hostEvent => exact timerMatches_step fromJson hTimer hostEvent
    · cases event with
      | newConnection ip port =>
        show (fleet.server.newConnectionSlot ip port).Timed
        unfold VMTDServer.newConnectionSlot VMTDServer.clientConnectedSlot
        dsimp only
        split
        · exact h
        · intro entry hEntry
          rcases List.mem_append.mp hEntry with hEntry | hEntry
          · exact h entry hEntry
          · rw [List.mem_singleton.mp hEntry]
            exact active_iff_waiting_of_ready rfl rfl
      | disconnected number =>
        unfold VMTDServer.react
        dsimp only
        split
        · exact fun entry hEntry => h entry (List.mem_of_mem_filter hEntry)
        · exact h
      | textMessageReceived | appendRequestList | checkQueueTimer | ticketTimeout
      | checkConnectionTimerTick => exact absurd trivial hKeeps
  | clearQueue ip =>
    unfold step
    dsimp only
    rw [VMTDServer.modifyHandler_eq]
    refine h.each fun key handler hTimer => ?_
    split <;> exact hTimer
  | arrivesAtHost number =>
    unfold step
    dsimp only
    split
    · exact h
    · split <;> exact h
  | arrivesAtServer number =>
    unfold step
    dsimp only
    split
    · exact h
    · split
      · exact h
      · exact h.each fun key handler hTimer => timerMatches_handleServers hTimer _
  | breaks | alertsWritten | fileChanged | delayTimerTick => exact h

-- ---------------------------------------------------------------------------
-- One connection
-- ---------------------------------------------------------------------------

/-- What is on its way to a client. -/
def onWay (number : Nat) (fleet : Fleet) : List QJsonDocument :=
  ((fleet.connections[number]?).map fun connection => connection.toClient.inFlight).getD []

/-- A connection that is whole on the way to the client, with what is on that
way. -/
def Carries (number : Nat) (documents : List QJsonDocument) (connections : List Connection) : Prop :=
  (connections[number]?).map Connection.toClient = some { inFlight := documents }

variable {connections : List Connection} {number : Nat} {documents : List QJsonDocument}
  {ip : String} {port : Int}

theorem Carries.onWay (h : Carries number documents fleet.connections) :
    fleet.onWay number = documents := by
  have hInFlight : (fleet.connections[number]?).map (fun connection =>
      connection.toClient.inFlight) =
        ((fleet.connections[number]?).map Connection.toClient).map Channel.inFlight :=
    (Option.map_map _ _ _).symm
  rw [Fleet.onWay, hInFlight, h]
  rfl

/-- The connection has exactly these documents in flight. -/
theorem Carries.get (h : Carries number documents connections) {connection : Connection}
    (hGet : connections[number]? = some connection) :
    connection.toClient = { inFlight := documents } := by
  rw [Carries, hGet] at h
  exact Option.some.inj h

/-- A change of this or of another connection. -/
theorem Carries.modify (h : Carries number documents connections) {n : Nat}
    {change : Connection → Connection} {after : List QJsonDocument}
    (hOther : n ≠ number → after = documents)
    (hThis : ∀ connection : Connection, n = number → connection.toClient = { inFlight := documents } →
      (change connection).toClient = { inFlight := after }) :
    Carries number after (connections.modify n change) := by
  unfold Carries at h ⊢
  by_cases hNumber : n = number
  · obtain ⟨connection, hGet, hChannel⟩ := Option.map_eq_some_iff.mp h
    rw [hNumber, List.getElem?_modify_eq, hGet]
    exact congrArg some (hThis connection hNumber hChannel)
  · rw [List.getElem?_modify_ne _ _ hNumber, h, hOther hNumber]

/-- **One message** goes over the connection, if it is for its endpoint. -/
theorem Carries.send {server : VMTDServer} (h : Carries number documents connections)
    (hSockets : HasSockets server connections)
    (hSocket : server.hostServer.sendMessageSlot ip port = some ⟨number, ip, port⟩)
    (signal : HostSignal) :
    Carries number (documents ++ (signal.messageTo ip port).toList)
      (Fleet.send server connections signal) := by
  cases signal with
  | updateIpOnline | handleResult =>
    show Carries number (documents ++ []) connections
    rw [List.append_nil]
    exact h
  | sendMessage hostIp hostPort data =>
    unfold HostSignal.messageTo Fleet.send
    dsimp only
    by_cases hEndpoint : hostIp = ip ∧ hostPort = port
    · obtain ⟨rfl, rfl⟩ := hEndpoint
      rw [hSocket, if_pos ⟨rfl, rfl⟩]
      refine h.modify (fun hOther => absurd rfl hOther) fun connection _ hChannel => ?_
      show connection.toClient.send [data] = _
      rw [hChannel]
      rfl
    · rw [if_neg hEndpoint, Option.toList_none, List.append_nil]
      cases hSend : server.hostServer.sendMessageSlot hostIp hostPort with
      | none => exact h
      | some socket =>
        obtain ⟨hMem, rfl, rfl⟩ := sendMessageSlot_eq_some hSend
        -- another endpoint has another socket
        have hOther : socket.number ≠ number := fun hSame => by
          have hThis := hSockets _ (sendMessageSlot_eq_some hSocket).1
          rw [← hSame, hSockets socket hMem] at hThis
          have hEq := Option.some.inj hThis
          exact hEndpoint ⟨congrArg QWebSocket.peerAddress hEq, congrArg QWebSocket.peerPort hEq⟩
        exact h.modify (fun _ => rfl) fun _ hSame => absurd hSame hOther

/-- Documents that are sent over the connection come behind those in flight. -/
theorem Carries.foldl_send {server : VMTDServer} (h : Carries number documents connections)
    (hSockets : HasSockets server connections)
    (hSocket : server.hostServer.sendMessageSlot ip port = some ⟨number, ip, port⟩)
    (signals : List HostSignal) :
    Carries number (documents ++ signals.filterMap (HostSignal.messageTo ip port))
      (signals.foldl (Fleet.send server) connections) := by
  induction signals generalizing connections documents with
  | nil =>
    rw [List.filterMap_nil, List.append_nil]
    exact h
  | cons signal signals ih =>
    have hKept : HasSockets server (Fleet.send server connections signal) := by
      intro socket hMem
      rw [map_socket_send]
      exact hSockets socket hMem
    have hRest := ih (h.send hSockets hSocket signal) hKept
    rw [List.foldl_cons, List.filterMap_cons]
    cases hMessage : signal.messageTo ip port with
    | none =>
      rw [hMessage, Option.toList_none, List.append_nil] at hRest
      exact hRest
    | some data =>
      rw [hMessage, Option.toList_some, List.append_assoc] at hRest
      exact hRest

-- ---------------------------------------------------------------------------
-- A handler and its connection
-- ---------------------------------------------------------------------------

/-- The handler of an address. -/
def handler (ip : String) (fleet : Fleet) : VMTDHostProtocolHandler :=
  (fleet.server.hostHandlers.lookup ip).getD { hostIp := ip, hostPort := 0 }

/-- The address has a handler, whose messages go over a connection that is
whole. -/
structure Linked (ip : String) (port : Int) (number : Nat) (fleet : Fleet) : Prop where
  handler : ∃ handler, fleet.server.hostHandlers.lookup ip = some handler ∧ handler.hostPort = port
  socket : fleet.server.hostServer.sendMessageSlot ip port = some ⟨number, ip, port⟩
  whole : Carries number (fleet.onWay number) fleet.connections

/-- The event leaves the handler, its queue and its connection alone. -/
def Spares (ip : String) (port : Int) (number : Nat) (fleet : Fleet) : FleetEvent → Prop
  | .server (.newConnection ip' port') => ¬(ip' = ip ∧ port' = port)
  | .server event => fleet.server.Stays ip event
  | .clearQueue ip' => ip' ≠ ip
  | .breaks number' _ _ => number' ≠ number
  | _ => True

/-- What an event is to the queue of the handler. -/
def action (fromJson : String → Option QJsonDocument) (ip : String) (fleet : Fleet) :
    FleetEvent → TicketQueue.Action QJsonDocument
  | .server event =>
    match fleet.server.told ip event with
    | some hostEvent => (fleet.handler ip).action fromJson hostEvent
    | none => .append []
  | .arrivesAtServer number =>
    match (fleet.connections[number]?).bind fun connection => connection.toServer.receive with
    | some (document, _) => if responses document = [] then .append [] else .giveBack
    | none => .append []
  | .clearQueue ip' => if ip' = ip then .clear false else .append []
  | _ => .append []

theorem action_checkQueueTimer (fromJson : String → Option QJsonDocument) (ip : String)
    (fleet : Fleet) : fleet.action fromJson ip (.server (.checkQueueTimer ip)) = .send := by
  simp [action, VMTDServer.told, VMTDHostProtocolHandler.action]

theorem action_ticketTimeout (fromJson : String → Option QJsonDocument)
    (h : (fleet.handler ip).isTicketTimerActive = true) :
    fleet.action fromJson ip (.server (.ticketTimeout ip)) = .giveBack := by
  simp [action, VMTDServer.told, VMTDHostProtocolHandler.action, h]

/-- What arrives over a connection. -/
def arriving (number : Nat) (fleet : Fleet) : FleetEvent → List QJsonDocument
  | .arrivesAtHost number' => if number' = number then (fleet.onWay number).take 1 else []
  | _ => []

/-- **One event**: what the queue does, and what becomes of the documents. -/
structure Progresses (fromJson : String → Option QJsonDocument) (ip : String) (port : Int)
    (number : Nat) (fleet : Fleet) (event : FleetEvent) : Prop where
  linked : (fleet.step fromJson event).Linked ip port number
  queue : ((fleet.step fromJson event).handler ip).ticketQueue =
    (fleet.handler ip).ticketQueue.act (fleet.action fromJson ip event)
  carried : fleet.arriving number event ++ (fleet.step fromJson event).onWay number =
    fleet.onWay number ++ (fleet.handler ip).ticketQueue.sent (fleet.action fromJson ip event)

theorem handler_of_lookup {handler : VMTDHostProtocolHandler}
    (h : fleet.server.hostHandlers.lookup ip = some handler) : fleet.handler ip = handler := by
  rw [Fleet.handler, h]
  rfl

/-- What has to be shown of one event. -/
theorem progresses_of {event : FleetEvent} {handler next : VMTDHostProtocolHandler}
    (hBefore : fleet.server.hostHandlers.lookup ip = some handler)
    (hAfter : (fleet.step fromJson event).server.hostHandlers.lookup ip = some next)
    (hPort : next.hostPort = port)
    (hSocket : (fleet.step fromJson event).server.hostServer.sendMessageSlot ip port =
      some ⟨number, ip, port⟩)
    (hCarries : Carries number documents (fleet.step fromJson event).connections)
    (hQueue : next.ticketQueue = handler.ticketQueue.act (fleet.action fromJson ip event))
    (hCarried : fleet.arriving number event ++ documents =
      fleet.onWay number ++ handler.ticketQueue.sent (fleet.action fromJson ip event)) :
    Progresses fromJson ip port number fleet event where
  linked := ⟨⟨next, hAfter, hPort⟩, hSocket, hCarries.onWay ▸ hCarries⟩
  queue := by
    rw [handler_of_lookup hBefore, handler_of_lookup hAfter, hQueue]
  carried := by
    rw [hCarries.onWay, handler_of_lookup hBefore, hCarried]

/-- An event that is nothing to the queue and its channel. -/
theorem progresses_of_silent {event : FleetEvent} {handler next : VMTDHostProtocolHandler}
    (hBefore : fleet.server.hostHandlers.lookup ip = some handler)
    (hAfter : (fleet.step fromJson event).server.hostHandlers.lookup ip = some next)
    (hPort : next.hostPort = port)
    (hSocket : (fleet.step fromJson event).server.hostServer.sendMessageSlot ip port =
      some ⟨number, ip, port⟩)
    (hCarries : Carries number (fleet.onWay number) (fleet.step fromJson event).connections)
    (hSame : next.ticketQueue = handler.ticketQueue)
    (hAction : fleet.action fromJson ip event = .append [])
    (hArriving : fleet.arriving number event = []) :
    Progresses fromJson ip port number fleet event := by
  refine progresses_of hBefore hAfter hPort hSocket hCarries ?_ ?_
  · rw [hAction, hSame, Exchange.act_append_nil]
  · rw [hArriving, hAction]
    exact (List.append_nil _).symm

/-- Without a socket coming or going, connections change by what is sent. -/
theorem connections_of_keepsSockets (fromJson : String → Option QJsonDocument) (fleet : Fleet)
    {event : ServerEvent} (hKeeps : VMTDServer.KeepsSockets event) :
    (fleet.step fromJson (.server event)).connections =
      (fleet.server.react fromJson event).2.foldl (send fleet.server) fleet.connections := by
  cases event with
  | newConnection | disconnected => exact hKeeps.elim
  | textMessageReceived | appendRequestList | checkQueueTimer | ticketTimeout
  | checkConnectionTimerTick => rfl

theorem connections_disconnected (fromJson : String → Option QJsonDocument) (fleet : Fleet)
    (n : Nat) : (fleet.step fromJson (.server (.disconnected n))).connections =
      fleet.connections.modify n fun connection =>
        { connection with toServer := connection.toServer.cut 0 } := by
  have hSilent : (fleet.server.react fromJson (.disconnected n)).2 = [] := by
    unfold VMTDServer.react
    dsimp only
    split <;> rfl
  show (fleet.server.react fromJson (.disconnected n)).2.foldl _ _ = _
  rw [hSilent]
  rfl

/-- Something that every handler does by itself. -/
theorem progresses_server (hConserved : fleet.Conserved) (h : fleet.Linked ip port number)
    {event : ServerEvent} (hKeeps : VMTDServer.KeepsSockets event) :
    Progresses fromJson ip port number fleet (.server event) := by
  obtain ⟨handler, hLookup, rfl⟩ := h.handler
  have hReact := @VMTDServer.react_eq fromJson fleet.server event hKeeps
  -- what the handler sends is what the queue hands out
  have hSent := VMTDServer.filterMap_messageTo_each hConserved.keyed hLookup
    (fun key handler => VMTDServer.reactTo fromJson handler (fleet.server.told key event))
    fun _ _ {_ _ _} hMem => VMTDServer.endpoint_of_mem_reactTo hMem
  have hCarries : Carries number (fleet.onWay number ++ (VMTDServer.reactTo fromJson handler
      (fleet.server.told ip event)).2.filterMap HostSignal.message)
        (fleet.step fromJson (.server event)).connections := by
    have hAll := h.whole.foldl_send hConserved.sockets h.socket
      (fleet.server.react fromJson event).2
    rw [← connections_of_keepsSockets fromJson fleet hKeeps, hReact, hSent] at hAll
    exact hAll
  have hAfter : (fleet.step fromJson (.server event)).server.hostHandlers.lookup ip =
      some (VMTDServer.reactTo fromJson handler (fleet.server.told ip event)).1 := by
    show (fleet.server.react fromJson event).1.hostHandlers.lookup ip = _
    rw [hReact]
    exact VMTDServer.lookup_each hLookup
  have hSocket : (fleet.step fromJson (.server event)).server.hostServer.sendMessageSlot ip
      handler.hostPort = some ⟨number, ip, handler.hostPort⟩ := by
    show (fleet.server.react fromJson event).1.hostServer.sendMessageSlot ip _ = _
    rw [hReact]
    exact h.socket
  have hArriving : fleet.arriving number (.server event) = [] := rfl
  cases hTold : fleet.server.told ip event with
  | none =>
    rw [hTold] at hAfter hCarries
    refine progresses_of_silent hLookup hAfter rfl hSocket ?_ rfl ?_ rfl
    · exact (List.append_nil (fleet.onWay number)) ▸ hCarries
    · unfold action
      dsimp only
      rw [hTold]
  | some hostEvent =>
    rw [hTold] at hAfter hCarries
    obtain ⟨hQueue, hHandedOut, -⟩ := handler.ticketQueue_react fromJson hostEvent
    have hAction : fleet.action fromJson ip (.server event) = handler.action fromJson hostEvent := by
      unfold action
      dsimp only
      rw [hTold, handler_of_lookup hLookup]
    refine progresses_of hLookup hAfter ?_ hSocket hCarries ?_ ?_
    · exact congrArg Prod.snd (endpoint_react fromJson handler hostEvent)
    · rw [hAction]
      exact hQueue
    · rw [hAction, hArriving, List.nil_append, ← hHandedOut]
      rfl

/-- The endpoint of another connection. -/
theorem sendMessageSlot_append {hostServer : VMTDHostServer} (socket : QWebSocket)
    (h : ¬(socket.peerAddress = ip ∧ socket.peerPort = port)) (nextNumber : Nat) :
    VMTDHostServer.sendMessageSlot ip port
      ⟨hostServer.wsClientSockets ++ [socket], nextNumber⟩ = hostServer.sendMessageSlot ip port := by
  unfold VMTDHostServer.sendMessageSlot
  dsimp only
  have hOther : [socket].filter (fun socket =>
      socket.peerAddress == ip && socket.peerPort == port) = [] := by
    refine List.filter_eq_nil_iff.mpr fun other hMem hBoth => ?_
    obtain rfl := List.mem_singleton.mp hMem
    obtain ⟨hAddress, hPort⟩ := Bool.and_eq_true_iff.mp hBoth
    exact h ⟨beq_iff_eq.mp hAddress, beq_iff_eq.mp hPort⟩
  rw [List.filter_append, hOther, List.append_nil]

theorem sendMessageSlot_erase {hostServer : VMTDHostServer} {socket : QWebSocket}
    (h : socket.peerAddress ≠ ip) :
    VMTDHostServer.sendMessageSlot ip port
      { hostServer with wsClientSockets := hostServer.wsClientSockets.erase socket } =
        hostServer.sendMessageSlot ip port := by
  unfold VMTDHostServer.sendMessageSlot
  dsimp only
  rw [← List.erase_filter, List.erase_of_not_mem]
  intro hMem
  exact h (beq_iff_eq.mp (Bool.and_eq_true_iff.mp (List.mem_filter.mp hMem).2).1)

/-- Other sockets may come and go. -/
theorem progresses_connections (h : fleet.Linked ip port number)
    {event : ServerEvent} (hKeeps : ¬VMTDServer.KeepsSockets event)
    (hSpares : fleet.Spares ip port number (.server event)) :
    Progresses fromJson ip port number fleet (.server event) := by
  obtain ⟨handler, hLookup, rfl⟩ := h.handler
  cases event with
  | newConnection ip' port' =>
    have hAfter : (fleet.step fromJson (.server (.newConnection ip' port'))).server.hostHandlers.lookup
        ip = some handler :=
      @VMTDServer.lookup_step fromJson _ _ _ hLookup (.newConnection ip' port') trivial
    have hLess : number < fleet.connections.length := by
      obtain ⟨connection, hGet, -⟩ := Option.map_eq_some_iff.mp h.whole
      exact (List.getElem?_eq_some_iff.mp hGet).1
    refine progresses_of_silent hLookup hAfter rfl ?_ ?_ rfl rfl rfl
    · show (fleet.server.newConnectionSlot ip' port').hostServer.sendMessageSlot ip _ = _
      rw [VMTDServer.hostServer_newConnectionSlot]
      exact (sendMessageSlot_append ⟨_, ip', port'⟩ hSpares _).trans h.socket
    · show ((fleet.connections ++ [_])[number]?).map Connection.toClient = _
      rw [List.getElem?_append_left hLess]
      exact h.whole
  | disconnected number' =>
    have hAfter := @VMTDServer.lookup_step fromJson _ _ _ hLookup (.disconnected number') hSpares
    refine progresses_of_silent hLookup hAfter rfl ?_ ?_ rfl rfl rfl
    · show (fleet.server.react fromJson (.disconnected number')).1.hostServer.sendMessageSlot ip
        _ = _
      unfold VMTDServer.react
      dsimp only
      cases hGone : fleet.server.socket? number' with
      | none => exact h.socket
      | some socket => exact (sendMessageSlot_erase (hSpares socket hGone)).trans h.socket
    · rw [connections_disconnected]
      exact h.whole.modify (fun _ => rfl) fun _ _ hChannel => hChannel
  | textMessageReceived | appendRequestList | checkQueueTimer | ticketTimeout
  | checkConnectionTimerTick => exact absurd trivial hKeeps

/-- A message arrives at a host, if one is on its way. -/
theorem step_arrivesAtHost (fromJson : String → Option QJsonDocument) (fleet : Fleet)
    (number : Nat) :
    ((∀ connection, fleet.connections[number]? = some connection →
        connection.toClient.inFlight = []) ∧
      fleet.step fromJson (.arrivesAtHost number) = fleet) ∨
    ∃ connection document toClient reply, fleet.connections[number]? = some connection ∧
      connection.toClient.receive = some (document, toClient) ∧
      fleet.step fromJson (.arrivesAtHost number) =
        { fleet with
          connections := fleet.connections.modify number fun connection =>
            { connection with toClient := toClient, toServer := connection.toServer.send reply }
          hosts := Function.update fleet.hosts connection.socket.peerAddress
            { (fleet.hosts connection.socket.peerAddress).called
                ((VxlanMtd.executed (responses document)).map call) with
              configurator := (replyTo document
                (fleet.hosts connection.socket.peerAddress).configurator).2.1 }
          executed := fleet.executed ++
            [(connection.socket.peerAddress, (VxlanMtd.executed (responses document)).map call)] } := by
  cases hGet : fleet.connections[number]? with
  | none =>
    refine Or.inl ⟨fun connection h => ?_, ?_⟩
    · cases h
    · unfold step
      dsimp only
      rw [hGet]
  | some connection =>
    cases hReceive : connection.toClient.receive with
    | none =>
      refine Or.inl ⟨fun connection' h => ?_, ?_⟩
      · obtain rfl := Option.some.inj h
        exact Channel.receive_eq_none hReceive
      · unfold step
        dsimp only
        rw [hGet]
        dsimp only
        rw [hReceive]
    | some received =>
      obtain ⟨document, toClient⟩ := received
      refine Or.inr ⟨connection, document, toClient, (replyTo document
        (fleet.hosts connection.socket.peerAddress).configurator).1.toList, rfl, hReceive, ?_⟩
      unfold step
      dsimp only
      rw [hGet]
      dsimp only
      rw [hReceive]

/-- A received message is the first on the way. -/
theorem Carries.receive (h : Carries number documents connections) {connection : Connection}
    (hGet : connections[number]? = some connection) {document : QJsonDocument}
    {toClient : Channel QJsonDocument}
    (hReceive : connection.toClient.receive = some (document, toClient)) :
    documents = document :: toClient.inFlight ∧ toClient.isCut = false := by
  have hChannel := h.get hGet
  have hInFlight := Channel.inFlight_receive hReceive
  have hCut := Channel.isCut_receive hReceive
  rw [hChannel] at hInFlight hCut
  exact ⟨hInFlight, hCut⟩

/-- A document arrives at a host. -/
theorem progresses_arrivesAtHost (h : fleet.Linked ip port number) (number' : Nat) :
    Progresses fromJson ip port number fleet (.arrivesAtHost number') := by
  obtain ⟨handler, hLookup, rfl⟩ := h.handler
  -- the queue sees nothing of it
  have hProgresses : ∀ documents,
      (fleet.step fromJson (.arrivesAtHost number')).server = fleet.server →
      Carries number documents (fleet.step fromJson (.arrivesAtHost number')).connections →
      fleet.arriving number (.arrivesAtHost number') ++ documents = fleet.onWay number →
      Progresses fromJson ip handler.hostPort number fleet (.arrivesAtHost number') := by
    intro documents hServer hCarries hCarried
    refine progresses_of hLookup (hServer ▸ hLookup) rfl (hServer ▸ h.socket) hCarries
      (Exchange.act_append_nil _).symm ?_
    exact hCarried.trans (List.append_nil _).symm
  rcases step_arrivesAtHost fromJson fleet number' with ⟨hNothing, hStep⟩ |
    ⟨connection, document, toClient, reply, hGet, hReceive, hStep⟩
  · refine hProgresses _ (by rw [hStep]) (by rw [hStep]; exact h.whole) ?_
    unfold arriving
    dsimp only
    split
    · next hNumber =>
      obtain ⟨connection, hGet, -⟩ := Option.map_eq_some_iff.mp h.whole
      have hNone := hNothing connection (hNumber ▸ hGet)
      rw [h.whole.get hGet] at hNone
      have hEmpty : fleet.onWay number = [] := hNone
      rw [hEmpty]
      rfl
    · rfl
  · by_cases hNumber : number' = number
    · subst hNumber
      obtain ⟨hFirst, hCut⟩ := h.whole.receive hGet hReceive
      refine hProgresses toClient.inFlight (by rw [hStep]) ?_ ?_
      · rw [hStep]
        refine h.whole.modify (fun hOther => absurd rfl hOther) fun _ _ _ => ?_
        obtain ⟨inFlight, isCut⟩ := toClient
        exact congrArg (Channel.mk inFlight) hCut
      · unfold arriving
        dsimp only
        rw [if_pos rfl, hFirst]
        rfl
    · refine hProgresses (fleet.onWay number) (by rw [hStep]) ?_ ?_
      · rw [hStep]
        exact h.whole.modify (fun _ => rfl) fun _ hSame => absurd hSame hNumber
      · unfold arriving
        dsimp only
        rw [if_neg hNumber]
        rfl

/-- A message arrives at the server. -/
theorem progresses_arrivesAtServer (h : fleet.Linked ip port number) (number' : Nat) :
    Progresses fromJson ip port number fleet (.arrivesAtServer number') := by
  obtain ⟨handler, hLookup, rfl⟩ := h.handler
  cases hReceive : (fleet.connections[number']?).bind fun connection =>
      connection.toServer.receive with
  | none =>
    have hStep : fleet.step fromJson (.arrivesAtServer number') = fleet := by
      unfold step
      dsimp only
      cases hGet : fleet.connections[number']? with
      | none => rfl
      | some connection =>
        rw [hGet] at hReceive
        dsimp only
        rw [show connection.toServer.receive = none from hReceive]
    refine progresses_of_silent hLookup (by rw [hStep, hLookup]) rfl (by rw [hStep]; exact h.socket)
      (by rw [hStep]; exact h.whole) rfl ?_ rfl
    unfold action
    dsimp only
    rw [hReceive]
  | some received =>
    obtain ⟨connection, hGet, hSome⟩ := Option.bind_eq_some_iff.mp hReceive
    obtain ⟨document, toServer⟩ := received
    have hServer : (fleet.step fromJson (.arrivesAtServer number')).server =
        (fleet.server.receiveDocument document).1 := by
      unfold step
      dsimp only
      rw [hGet]
      dsimp only
      rw [hSome]
    have hConnections : (fleet.step fromJson (.arrivesAtServer number')).connections =
        fleet.connections.modify number' fun connection =>
          { connection with toServer := toServer } := by
      unfold step
      dsimp only
      rw [hGet]
      dsimp only
      rw [hSome]
    have hAction : fleet.action fromJson ip (.arrivesAtServer number') =
        if responses document = [] then .append [] else .giveBack := by
      unfold action
      dsimp only
      rw [hReceive]
    have hAfter : (fleet.step fromJson (.arrivesAtServer number')).server.hostHandlers.lookup ip =
        some (handler.handleServers (responses document)).1 := by
      rw [hServer]
      exact VMTDServer.lookup_each hLookup
    have hCarries : Carries number (fleet.onWay number)
        (fleet.step fromJson (.arrivesAtServer number')).connections := by
      rw [hConnections]
      exact h.whole.modify (fun _ => rfl) fun _ _ hChannel => hChannel
    refine progresses_of hLookup hAfter ?_ ?_ hCarries ?_ ?_
    · exact congrArg Prod.snd (endpoint_handleServers handler _)
    · rw [hServer]
      exact h.socket
    · rw [hAction]
      exact handler.ticketQueue_handleServers _
    · rw [hAction]
      split <;> exact (List.append_nil _).symm

/-- **Every event** that spares the handler and its connection. -/
theorem progresses_step (hConserved : fleet.Conserved) (h : fleet.Linked ip port number)
    {event : FleetEvent} (hSpares : fleet.Spares ip port number event) :
    Progresses fromJson ip port number fleet event := by
  cases event with
  | server event =>
    by_cases hKeeps : VMTDServer.KeepsSockets event
    · exact progresses_server hConserved h hKeeps
    · exact progresses_connections h hKeeps hSpares
  | clearQueue ip' =>
    obtain ⟨handler, hLookup, rfl⟩ := h.handler
    have hServer : (fleet.step fromJson (.clearQueue ip')).server =
        (fleet.server.each fun key handler =>
          if key = ip' then (handler.clearQueueSlot, []) else (handler, [])).1 :=
      congrArg Prod.fst (VMTDServer.modifyHandler_eq ip' _)
    refine progresses_of_silent hLookup ?_ rfl ?_ h.whole rfl (if_neg hSpares) rfl
    · rw [hServer, VMTDServer.lookup_each hLookup, if_neg (Ne.symm hSpares)]
    · rw [hServer]
      exact h.socket
  | arrivesAtHost number' => exact progresses_arrivesAtHost h number'
  | arrivesAtServer number' => exact progresses_arrivesAtServer h number'
  | breaks number' keepToClient keepToServer =>
    obtain ⟨handler, hLookup, rfl⟩ := h.handler
    refine progresses_of_silent hLookup hLookup rfl h.socket ?_ rfl rfl rfl
    exact h.whole.modify (fun _ => rfl) fun _ hSame => absurd hSame hSpares
  | alertsWritten | fileChanged | delayTimerTick =>
    obtain ⟨handler, hLookup, rfl⟩ := h.handler
    exact progresses_of_silent hLookup hLookup rfl h.socket h.whole rfl rfl rfl

-- ---------------------------------------------------------------------------
-- What is asked for, and what is executed
-- ---------------------------------------------------------------------------

/-- What is asked for an address is what its handler is told. -/
theorem under_asked (hConserved : fleet.Conserved) {handler : VMTDHostProtocolHandler}
    (h : fleet.server.hostHandlers.lookup ip = some handler) (event : ServerEvent) :
    under ip (fleet.server.asked event) =
      (fleet.server.told ip event).toList.flatMap HostEvent.lists := by
  cases event with
  | newConnection | disconnected => rfl
  | textMessageReceived number data =>
    unfold VMTDServer.told
    dsimp only
    cases fleet.server.socket? number <;> rfl
  | checkQueueTimer ip' | ticketTimeout ip' =>
    unfold VMTDServer.told
    dsimp only
    split <;> rfl
  | appendRequestList ip' requests =>
    unfold VMTDServer.told VMTDServer.asked under
    dsimp only
    by_cases hIp : ip = ip'
    · subst hIp
      simp [HostEvent.lists]
    · simp [hIp, Ne.symm hIp]
  | checkConnectionTimerTick =>
    unfold VMTDServer.told VMTDServer.asked under
    dsimp only
    rw [List.filterMap_map, List.filterMap_eq_flatMap_toList,
      Table.flatMap_of_lookup hConserved.keyed.nodup h]
    · simp [HostEvent.lists]
    · intro entry _ hKey
      exact congrArg Option.toList (if_neg hKey)

/-- What is still to be executed of what was asked for an address. -/
def due (ip : String) (number : Nat) (fleet : Fleet) : RequestList :=
  acceptedCalls (fleet.onWay number ++ (fleet.handler ip).requests)

/-- What an event appends, as calls that pass the checks. -/
theorem accepted_asking (hConserved : fleet.Conserved) (h : fleet.Linked ip port number)
    {event : FleetEvent} (hSpares : fleet.Spares ip port number event) :
    acceptedCalls (fleet.action fromJson ip event).appended =
      accepted (under ip (fleet.asking event)).flatten := by
  obtain ⟨handler, hLookup, rfl⟩ := h.handler
  cases event with
  | server event =>
    unfold asking action
    dsimp only
    rw [under_asked hConserved hLookup, handler_of_lookup hLookup]
    cases fleet.server.told ip event with
    | none => rfl
    | some hostEvent =>
      dsimp only
      rw [acceptedCalls, (handler.built_action fromJson hostEvent).1, map_call_executed, Option.toList_some,
        List.flatMap_singleton]
  | arrivesAtServer number' =>
    unfold action
    dsimp only
    split
    · split <;> rfl
    · rfl
  | clearQueue ip' =>
    unfold action
    dsimp only
    split <;> rfl
  | arrivesAtHost | breaks | alertsWritten | fileChanged | delayTimerTick => rfl

/-- What an event makes hosts execute, by address. -/
def executing (fleet : Fleet) : FleetEvent → List (String × RequestList)
  | .arrivesAtHost number =>
    ((fleet.connections[number]?).bind fun connection =>
      connection.toClient.receive.map fun received =>
        (connection.socket.peerAddress, (VxlanMtd.executed (responses received.1)).map call)).toList
  | _ => []

/-- What is executed is recorded. -/
theorem executed_step (fromJson : String → Option QJsonDocument) (fleet : Fleet)
    (event : FleetEvent) :
    (fleet.step fromJson event).executed = fleet.executed ++ fleet.executing event := by
  cases event with
  | arrivesAtHost number =>
    unfold executing
    dsimp only
    rcases step_arrivesAtHost fromJson fleet number with ⟨hNothing, hStep⟩ |
      ⟨connection, document, toClient, reply, hGet, hReceive, hStep⟩
    · rw [hStep]
      refine (List.append_nil _).symm.trans (congrArg (fleet.executed ++ ·) ?_)
      cases hGet : fleet.connections[number]? with
      | none => rfl
      | some connection =>
        have hNone : connection.toClient.receive = none := by
          rw [Channel.receive, hNothing connection hGet]
        rw [Option.bind_some, hNone]
        rfl
    · rw [hStep, hGet, Option.bind_some, hReceive]
      rfl
  | arrivesAtServer number =>
    refine Eq.trans ?_ (List.append_nil _).symm
    unfold step
    dsimp only
    split
    · rfl
    · split <;> rfl
  | server | clearQueue | breaks | alertsWritten | fileChanged | delayTimerTick =>
    exact (List.append_nil _).symm

/-- The connection of a linked address leads to its host. -/
theorem Linked.address (hConserved : fleet.Conserved) (h : fleet.Linked ip port number)
    {connection : Connection} (hGet : fleet.connections[number]? = some connection) :
    connection.socket.peerAddress = ip := by
  have hSocket := hConserved.sockets _ (sendMessageSlot_eq_some h.socket).1
  rw [List.getElem?_map, hGet] at hSocket
  exact congrArg QWebSocket.peerAddress (Option.some.inj hSocket)

/-- What arrives over the connection is executed. -/
theorem executing_arrivesAtHost (hConserved : fleet.Conserved) (h : fleet.Linked ip port number) :
    fleet.executing (.arrivesAtHost number) = ((fleet.onWay number).take 1).map fun document =>
      (ip, (VxlanMtd.executed (responses document)).map call) := by
  obtain ⟨connection, hGet, -⟩ := Option.map_eq_some_iff.mp h.whole
  unfold executing
  dsimp only
  rw [hGet, Option.bind_some]
  cases hReceive : connection.toClient.receive with
  | none =>
    have hNone := Channel.receive_eq_none hReceive
    rw [h.whole.get hGet] at hNone
    have hEmpty : fleet.onWay number = [] := hNone
    rw [hEmpty]
    rfl
  | some received =>
    obtain ⟨document, toClient⟩ := received
    rw [(h.whole.receive hGet hReceive).1, h.address hConserved hGet]
    rfl

/-- What arrives over the connection is executed. -/
theorem arriving_sublist (hConserved : fleet.Conserved) (h : fleet.Linked ip port number)
    (event : FleetEvent) :
    (acceptedCalls (fleet.arriving number event)).Sublist
      (under ip (fleet.executing event)).flatten := by
  cases event with
  | arrivesAtHost number' =>
    unfold arriving
    dsimp only
    split
    · next hNumber =>
      rw [hNumber, executing_arrivesAtHost hConserved h, under_map, ← acceptedCalls_eq_flatten]
    · exact List.nil_sublist _
  | server | clearQueue | arrivesAtServer | breaks | alertsWritten | fileChanged | delayTimerTick =>
    exact List.nil_sublist _

/-- The queue of a handler that is spared is not cleared. -/
theorem not_isClear_action {event : FleetEvent} (hSpares : fleet.Spares ip port number event) :
    ¬ (fleet.action fromJson ip event).IsClear := by
  cases event with
  | server event =>
    unfold action
    dsimp only
    split
    · next hostEvent hTold =>
      refine VMTDHostProtocolHandler.not_isClear_action _ fromJson fun hClear => ?_
      rw [hClear] at hTold
      cases event with
      | newConnection | disconnected | checkConnectionTimerTick => cases hTold
      | textMessageReceived number data =>
        obtain ⟨socket, -, hSocket⟩ := Option.map_eq_some_iff.mp hTold
        cases hSocket
      | appendRequestList ip' | checkQueueTimer ip' | ticketTimeout ip' =>
        unfold VMTDServer.told at hTold
        dsimp only at hTold
        split at hTold <;> cases hTold
    · exact id
  | arrivesAtServer number' =>
    unfold action
    dsimp only
    split
    · split <;> exact id
    · exact id
  | clearQueue ip' =>
    unfold action
    dsimp only
    rw [if_neg hSpares]
    exact id
  | arrivesAtHost | breaks | alertsWritten | fileChanged | delayTimerTick => exact id

/-- Nothing but a timer's send or a message takes or gives the ticket. -/
theorem action_ne_hold (event : FleetEvent) : fleet.action fromJson ip event ≠ .hold := by
  cases event with
  | server event =>
    unfold action
    dsimp only
    split
    · exact VMTDHostProtocolHandler.action_ne_hold _ fromJson _
    · exact nofun
  | arrivesAtServer number' =>
    unfold action
    dsimp only
    split
    · split <;> exact nofun
    · exact nofun
  | clearQueue ip' =>
    unfold action
    dsimp only
    split <;> exact nofun
  | arrivesAtHost | breaks | alertsWritten | fileChanged | delayTimerTick => exact nofun

/-- **What is due** after an event was due before or is asked for now. -/
theorem due_step (fromJson : String → Option QJsonDocument) (hConserved : fleet.Conserved)
    (h : fleet.Linked ip port number) {event : FleetEvent}
    (hSpares : fleet.Spares ip port number event) :
    acceptedCalls (fleet.arriving number event) ++ (fleet.step fromJson event).due ip number =
      fleet.due ip number ++ accepted (under ip (fleet.asking event)).flatten := by
  have hProgresses := @progresses_step fromJson fleet number ip port hConserved h event hSpares
  have hQueue := (fleet.handler ip).ticketQueue.sent_append_act
    (@not_isClear_action fromJson fleet number ip port event hSpares)
  rw [← hProgresses.queue] at hQueue
  have hAll : fleet.arriving number event ++ ((fleet.step fromJson event).onWay number ++
      ((fleet.step fromJson event).handler ip).requests) =
        fleet.onWay number ++ ((fleet.handler ip).requests ++
          (fleet.action fromJson ip event).appended) := by
    rw [← List.append_assoc, hProgresses.carried, List.append_assoc]
    exact congrArg _ hQueue
  rw [due, due, ← acceptedCalls_append, hAll, ← accepted_asking hConserved h hSpares,
    ← acceptedCalls_append, ← List.append_assoc]

-- ---------------------------------------------------------------------------
-- Endless runs
-- ---------------------------------------------------------------------------

/-- An endless run that spares the handler of an address and its connection, and
in which the timers of the handler and the deliveries to the host never stop. -/
structure Fair (fromJson : String → Option QJsonDocument) (ip : String) (port : Int)
    (number : Nat) (initial : Fleet) (events : ℕ → FleetEvent) : Prop where
  spares : ∀ n, (states (step fromJson) initial events n).Spares ip port number (events n)
  queueTimer : ∀ n, ∃ m ≥ n, events m = .server (.checkQueueTimer ip)
  /-- An active ticket timer fires, unless it is stopped. -/
  ticketTimer : ∀ n,
    ((states (step fromJson) initial events n).handler ip).isTicketTimerActive = true →
      ∃ m ≥ n, events m = .server (.ticketTimeout ip) ∨
        ((states (step fromJson) initial events m).handler ip).isTicketTimerActive = false
  delivery : ∀ n, ∃ m ≥ n, events m = .arrivesAtHost number

/-- A fleet in a run: whatever went before, and a handler with its connection. -/
structure Ready (ip : String) (port : Int) (number : Nat) (fleet : Fleet) : Prop where
  conserved : fleet.Conserved
  timed : fleet.server.Timed
  linked : fleet.Linked ip port number

/-- Every event that spares the address keeps it ready. -/
theorem ready_step (h : fleet.Ready ip port number) {event : FleetEvent}
    (hSpares : fleet.Spares ip port number event) :
    (fleet.step fromJson event).Ready ip port number :=
  ⟨conserved_step h.conserved fromJson event, timed_step h.timed event,
    (progresses_step h.conserved h.linked hSpares).linked⟩

/-- The timer of a handler in a run is active while the handler waits. -/
theorem Ready.timerMatches (h : fleet.Ready ip port number) : (fleet.handler ip).TimerMatches := by
  obtain ⟨handler, hLookup, -⟩ := h.linked.handler
  rw [handler_of_lookup hLookup]
  exact h.timed _ ((Table.lookup_eq_some_iff_mem h.conserved.keyed.nodup).mp hLookup)

namespace Fair

variable {initial : Fleet} {events : ℕ → FleetEvent}

/-- And so does a whole run of such events. -/
theorem ready_states (hFair : Fair fromJson ip port number initial events)
    (hReady : initial.Ready ip port number) (n : ℕ) :
    (states (step fromJson) initial events n).Ready ip port number := by
  induction n with
  | zero => exact hReady
  | succ n ih => exact ready_step ih (hFair.spares n)

theorem progresses (hFair : Fair fromJson ip port number initial events)
    (hReady : initial.Ready ip port number) (n : ℕ) :
    Progresses fromJson ip port number (states (step fromJson) initial events n) (events n) :=
  progresses_step (hFair.ready_states hReady n).conserved (hFair.ready_states hReady n).linked
    (hFair.spares n)

/-- The queue of the handler and its connection throughout a run. -/
def link (hFair : Fair fromJson ip port number initial events)
    (hReady : initial.Ready ip port number) : Link QJsonDocument where
  queue :=
    { state n := ((states (step fromJson) initial events n).handler ip).ticketQueue
      action n := (states (step fromJson) initial events n).action fromJson ip (events n)
      step n := (hFair.progresses hReady n).queue }
  delivered := gathered fun i =>
    (states (step fromJson) initial events i).arriving number (events i)
  inFlight n := (states (step fromJson) initial events n).onWay number
  grows := growing_gathered
  carried n := by
    rw [gathered_succ, List.append_assoc, List.append_assoc]
    exact congrArg _ (hFair.progresses hReady n).carried

/-- A waiting handler becomes ready again. -/
theorem ready_again (hFair : Fair fromJson ip port number initial events)
    (hReady : initial.Ready ip port number) (n : ℕ) :
    ∃ m ≥ n, ((hFair.link hReady).queue.state m).isWaiting = false := by
  have hWaiting : ∀ m, ((hFair.link hReady).queue.state m).isWaiting =
      ((states (step fromJson) initial events m).handler ip).isTicketTimerActive := fun m =>
    Bool.eq_iff_iff.mpr (beq_iff_eq.trans (hFair.ready_states hReady m).timerMatches.symm)
  refine TicketQueue.Behaviour.ready_of_timer (fun n hWaits => ?_) n
  obtain ⟨m, hm, hTimeout | hStopped⟩ := hFair.ticketTimer n (hWaiting n ▸ hWaits)
  · by_cases hActive :
        ((states (step fromJson) initial events m).handler ip).isTicketTimerActive = true
    · refine ⟨m, hm, Or.inl ?_⟩
      show action fromJson ip _ (events m) = _
      rw [hTimeout]
      exact action_ticketTimeout fromJson hActive
    · exact ⟨m, hm, Or.inr ((hWaiting m).trans (Bool.eq_false_iff.mpr hActive))⟩
  · exact ⟨m, hm, Or.inr ((hWaiting m).trans hStopped)⟩

/-- Nothing is left behind. -/
theorem lively (hFair : Fair fromJson ip port number initial events)
    (hReady : initial.Ready ip port number) : (hFair.link hReady).Lively where
  noClear n := not_isClear_action (hFair.spares n)
  served := by
    refine TicketQueue.Behaviour.served_of_fair (fun n => action_ne_hold _) (fun n => ?_)
      (hFair.ready_again hReady)
    obtain ⟨m, hm, hAsked⟩ := hFair.queueTimer n
    refine ⟨m, hm, ?_⟩
    show action fromJson ip _ (events m) = _
    rw [hAsked]
    exact action_checkQueueTimer fromJson ip _
  delivery n := by
    obtain ⟨m, hm, hDelivery⟩ := hFair.delivery n
    refine ⟨m, hm, fun hInFlight hSame => hInFlight ?_⟩
    have hNothing := List.append_right_eq_self.mp ((gathered_succ m).symm.trans hSame)
    rw [hDelivery] at hNothing
    unfold arriving at hNothing
    dsimp only at hNothing
    rw [if_pos rfl] at hNothing
    exact (List.take_eq_nil_iff.mp hNothing).resolve_left Nat.one_ne_zero

/-- What is to arrive, as calls that pass the checks. -/
theorem calls_pending (hFair : Fair fromJson ip port number initial events)
    (hReady : initial.Ready ip port number) (n : ℕ) :
    acceptedCalls ((hFair.link hReady).pending n) = initial.due ip number ++
      accepted (under ip (gathered (fun i =>
        (states (step fromJson) initial events i).asking (events i)) n)).flatten := by
  induction n with
  | zero => exact (List.append_nil _).symm
  | succ n ih =>
    have hReadyN := hFair.ready_states hReady n
    have hAppended : acceptedCalls ((hFair.link hReady).queue.action n).appended = _ :=
      @accepted_asking fromJson _ _ _ _ hReadyN.conserved hReadyN.linked _ (hFair.spares n)
    rw [Link.pending_succ fun n => not_isClear_action (hFair.spares n), acceptedCalls_append, ih, gathered_succ,
      under_append, List.flatten_append, accepted_append, hAppended, List.append_assoc]

/-- What has arrived over the connection was executed. -/
theorem calls_delivered (hFair : Fair fromJson ip port number initial events)
    (hReady : initial.Ready ip port number) (n : ℕ) :
    (acceptedCalls ((hFair.link hReady).delivered n)).Sublist
      (under ip (gathered (fun i =>
        (states (step fromJson) initial events i).executing (events i)) n)).flatten := by
  induction n with
  | zero => exact List.nil_sublist _
  | succ n ih =>
    have hReadyN := hFair.ready_states hReady n
    have hDelivered : (hFair.link hReady).delivered (n + 1) = (hFair.link hReady).delivered n ++
      (states (step fromJson) initial events n).arriving number (events n) := gathered_succ n
    rw [hDelivered, acceptedCalls_append, gathered_succ, under_append, List.flatten_append]
    exact ih.append (arriving_sublist hReadyN.conserved hReadyN.linked (events n))

end Fair

end Fleet

/-- **Whatever is asked for is executed.** However a run of the server and all its
hosts has gone so far: if from then on an address keeps its handler, its queue and
the connection the handler sends over, and its timers and the deliveries to its
host go on, then whatever happens to the rest, the host executes all calls that
were due or are asked for its address and pass the checks, in that order. -/
theorem asked_eventually_executed (fromJson : String → Option QJsonDocument)
    (hosts : String → AlertNode) (past : List FleetEvent) {ip : String} {port : Int} {number : Nat}
    {events : ℕ → FleetEvent}
    (hLinked : (run (Fleet.step fromJson) { hosts := hosts } past).Linked ip port number)
    (hFair : Fleet.Fair fromJson ip port number
      (run (Fleet.step fromJson) { hosts := hosts } past) events) (n : ℕ) :
    let initial := run (Fleet.step fromJson) { hosts := hosts } past
    let fleet := states (Fleet.step fromJson) initial events
    ∃ m ≥ n, (initial.due ip number ++
        accepted (under ip ((fleet n).asked.drop initial.asked.length)).flatten).Sublist
      (under ip ((fleet m).executed.drop initial.executed.length)).flatten := by
  have hTimed : (run (Fleet.step fromJson) { hosts := hosts } past).server.Timed :=
    @invariant_of_reachable _ _ (Fleet.step fromJson) (fun fleet => fleet.server.Timed) _
      { hosts := hosts } (fun _ hMem => absurd hMem List.not_mem_nil)
      (fun _ event h => Fleet.timed_step h event) ⟨past, rfl⟩
  have hReady := Fleet.Ready.mk (Fleet.conserved_run fromJson hosts past) hTimed hLinked
  obtain ⟨m, hm, hPrefix⟩ := Link.covers_pending (hFair.lively hReady) n
  refine ⟨m, hm, ?_⟩
  rw [record_states (Fleet.asked_step fromJson), record_states (Fleet.executed_step fromJson),
    List.drop_left, List.drop_left, ← hFair.calls_pending hReady]
  obtain ⟨rest, hRest⟩ := hPrefix
  refine List.Sublist.trans ?_ (hFair.calls_delivered hReady m)
  rw [← hRest, acceptedCalls_append]
  exact List.sublist_append_left _ _

/-- Events that recur. -/
theorem Fleet.fair_rounds {fromJson : String → Option QJsonDocument} {ip : String} {port : Int}
    {number : Nat} {initial : Fleet} {first : FleetEvent} {rest : List FleetEvent}
    (hSpares : ∀ event ∈ first :: rest, ∀ fleet : Fleet, fleet.Spares ip port number event)
    (hQueue : .server (.checkQueueTimer ip) ∈ first :: rest)
    (hTicket : .server (.ticketTimeout ip) ∈ first :: rest)
    (hArrives : .arrivesAtHost number ∈ first :: rest) :
    Fair fromJson ip port number initial (rounds first rest) where
  spares n := hSpares _ (rounds_mem first rest n) _
  queueTimer := rounds_recurs hQueue
  ticketTimer n _ := by
    obtain ⟨m, hm, hTimeout⟩ := rounds_recurs hTicket n
    exact ⟨m, hm, Or.inl hTimeout⟩
  delivery := rounds_recurs hArrives

/-- Two hosts, the connection of one of which breaks. -/
theorem asked_eventually_executed_two :
    let initial := run (Fleet.step fun _ => none) {}
      [.server (.newConnection "10.0.0.1" 30001), .server (.newConnection "10.0.0.2" 30002),
        .server .checkConnectionTimerTick, .breaks 1 0 0]
    let fleet := states (Fleet.step fun _ => none) initial
      (rounds (.server .checkConnectionTimerTick) [.server (.checkQueueTimer "10.0.0.1"),
        .server (.newConnection "10.0.0.2" 30003), .arrivesAtHost 0, .clearQueue "10.0.0.2",
        .server (.ticketTimeout "10.0.0.1")])
    ∃ m ≥ 7, (initial.due "10.0.0.1" 0 ++
        accepted (under "10.0.0.1" ((fleet 7).asked.drop initial.asked.length)).flatten).Sublist
      (under "10.0.0.1" ((fleet m).executed.drop initial.executed.length)).flatten := by
  have hLinked : (run (Fleet.step fun _ => none) {}
      [.server (.newConnection "10.0.0.1" 30001), .server (.newConnection "10.0.0.2" 30002),
        .server .checkConnectionTimerTick, .breaks 1 0 0]).Linked "10.0.0.1" 30001 0 :=
    ⟨⟨_, rfl, rfl⟩, rfl, rfl⟩
  refine asked_eventually_executed _ _ _ hLinked (Fleet.fair_rounds (fun event hEvent fleet => ?_)
    (by simp) (by simp) (by simp)) 7
  simp only [List.mem_cons, List.not_mem_nil, or_false] at hEvent
  rcases hEvent with rfl | rfl | rfl | rfl | rfl | rfl
  all_goals simp [Fleet.Spares, VMTDServer.Stays]

end VxlanMtd
