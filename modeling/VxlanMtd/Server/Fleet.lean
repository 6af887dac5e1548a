import VxlanMtd.Lib.Tally
import VxlanMtd.Node.Alerts
import VxlanMtd.Server.Exchange
import VxlanMtd.Server.Projection

/-!
# The server and all its hosts

The server with its handlers and sockets, the two directions of every
connection, and the hosts, which several connections may lead to. `FleetEvent`
has whatever the server may be told, deliveries over any connection, the
breaking of connections and the events of the hosts' own, in any order.

* `Fleet.step` — one event;
* `total_each` — handlers that send no more than they had queued or were given;
* `Conserved` — what was executed, is in flight or queued for an address is part
  of what was asked for it, by any weights; kept by every event;
* **`requests_once`** — every host executes only what was asked for its address,
  and nothing more often than it was asked for.
-/

namespace VxlanMtd

open EventRun Tally VMTDHostProtocolHandler

-- ---------------------------------------------------------------------------
-- Server, connections and hosts
-- ---------------------------------------------------------------------------

/-- A connection, by the socket the server has for it. -/
structure Connection where
  socket : QWebSocket
  toClient : Channel QJsonDocument := {}
  toServer : Channel QJsonDocument := {}

/-- Server, connections (by the numbers of their sockets) and hosts (by their
addresses), and the record of the run: what was asked for each address and what
its host has executed, the results that arrived at the server, those its
handlers handed on, and those of texts that no host has sent. -/
structure Fleet where
  server : VMTDServer := {}
  connections : List Connection := []
  hosts : String → AlertNode := fun _ => {}
  asked : List (String × RequestList) := []
  executed : List (String × RequestList) := []
  arrived : List (String × QJsonValue) := []
  results : List (String × QJsonValue) := []
  foreign : List QJsonValue := []

/-- What happens: something to the server, the arrival of a message, the breaking
of a connection with the first messages in flight still to arrive, or something
to a host. -/
inductive FleetEvent where
  | server (event : ServerEvent)
  | clearQueue (ip : String)
  | arrivesAtHost (number : Nat)
  | arrivesAtServer (number : Nat)
  | breaks (number keepToClient keepToServer : Nat)
  | alertsWritten (ip alerts : String)
  | fileChanged (ip : String)
  | delayTimerTick (ip : String)

/-- The result of a signal that hands one on. -/
def HostSignal.result : HostSignal → Option QJsonValue
  | .handleResult result => some result
  | _ => none

/-- The results a handler hands on of responses. -/
def handedOn (responses : List QJsonObject) : List QJsonValue :=
  responses.filterMap fun response =>
    if isResponse response && !response.contains "error" && response.contains "result"
        && !(response.value "result").isBool then some (response.value "result") else none

/-- Calls, one after the other. -/
def AlertNode.called (requests : RequestList) (node : AlertNode) : AlertNode :=
  run AlertNode.step node (requests.map fun called => .methodCalled called.1 called.2)

namespace VMTDServer

/-- The request lists that an event asks for, by address. -/
def asked (server : VMTDServer) : ServerEvent → List (String × RequestList)
  | .appendRequestList ip requests => [(ip, requests)]
  | .checkConnectionTimerTick =>
    server.hostHandlers.map fun entry => (entry.1, [(EnName.checkConnection.text, [])])
  | _ => []

/-- A document that arrives reaches every handler. -/
def receiveDocument (document : QJsonDocument) (server : VMTDServer) :
    VMTDServer × List HostSignal :=
  server.each fun _ handler => handler.handleServers (responses document)

/-- It is the slot for the text of the document. -/
theorem textMessageReceivedSlot_eq {fromJson : String → Option QJsonDocument} {data : String}
    {document : QJsonDocument} (hData : data.isEmpty = false) (hJson : fromJson data = some document)
    (socket : QWebSocket) (server : VMTDServer) :
    server.textMessageReceivedSlot fromJson socket data = server.receiveDocument document := by
  have hResponses : receivedResponses fromJson data = responses document := by
    rw [receivedResponses, hData, if_neg Bool.false_ne_true, hJson]
  unfold textMessageReceivedSlot receiveMessage receiveMessageSlot receiveDocument each
  dsimp only
  rw [hResponses, List.map_map, List.flatMap_map]
  rfl

end VMTDServer

namespace Fleet

/-- A message among the signals goes to its socket. -/
def send (server : VMTDServer) (connections : List Connection) : HostSignal → List Connection
  | .sendMessage ip port data =>
    match server.hostServer.sendMessageSlot ip port with
    | some socket => connections.modify socket.number fun connection =>
        { connection with toClient := connection.toClient.send [data] }
    | none => connections
  | _ => connections

/-- Connections that come and go: what is on its way to a client arrives
nevertheless, what is on its way to a socket that is gone does not. -/
def connect (server : VMTDServer) (connections : List Connection) :
    ServerEvent → List Connection
  | .newConnection ip port => connections ++ [{ socket := ⟨server.hostServer.nextNumber, ip, port⟩ }]
  | .disconnected number => connections.modify number fun connection =>
      { connection with toServer := connection.toServer.cut 0 }
  | _ => connections

/-- An event of a host. -/
def withHost (fleet : Fleet) (ip : String) (event : AlertEvent) : Fleet :=
  { fleet with hosts := Function.update fleet.hosts ip ((fleet.hosts ip).step event) }

/-- One event. -/
def step (fromJson : String → Option QJsonDocument) (fleet : Fleet) : FleetEvent → Fleet
  | .server event =>
    let (server, signals) := fleet.server.react fromJson event
    { fleet with
      server := server
      connections := signals.foldl (send fleet.server)
        (connect fleet.server fleet.connections event)
      asked := fleet.asked ++ fleet.server.asked event
      foreign := fleet.foreign ++ signals.filterMap HostSignal.result }
  | .clearQueue ip =>
    { fleet with
      server := (fleet.server.modifyHandler ip fun handler => (handler.clearQueueSlot, [])).1 }
  | .arrivesAtHost number =>
    match fleet.connections[number]? with
    | none => fleet
    | some connection =>
      match connection.toClient.receive with
      | none => fleet
      | some (document, toClient) =>
        let ip := connection.socket.peerAddress
        let (reply, configurator, _) := replyTo document (fleet.hosts ip).configurator
        let requests := (VxlanMtd.executed (responses document)).map call
        { fleet with
          connections := fleet.connections.modify number fun connection =>
            { connection with
              toClient := toClient
              toServer := connection.toServer.send reply.toList }
          hosts := Function.update fleet.hosts ip
            { (fleet.hosts ip).called requests with configurator := configurator }
          executed := fleet.executed ++ [(ip, requests)] }
  | .arrivesAtServer number =>
    match fleet.connections[number]? with
    | none => fleet
    | some connection =>
      match connection.toServer.receive with
      | none => fleet
      | some (document, toServer) =>
        let ip := connection.socket.peerAddress
        let (server, signals) := fleet.server.receiveDocument document
        { fleet with
          server := server
          connections := fleet.connections.modify number fun connection =>
            { connection with toServer := toServer }
          arrived := fleet.arrived ++ (handedOn (responses document)).map fun result => (ip, result)
          results := fleet.results ++
            (signals.filterMap HostSignal.result).map fun result => (ip, result) }
  | .breaks number keepToClient keepToServer =>
    { fleet with
      connections := fleet.connections.modify number fun connection =>
        { connection with
          toClient := connection.toClient.cut keepToClient
          toServer := connection.toServer.cut keepToServer } }
  | .alertsWritten ip alerts => fleet.withHost ip (.alertsWritten alerts)
  | .fileChanged ip => fleet.withHost ip .fileChanged
  | .delayTimerTick ip => fleet.withHost ip .delayTimerTick

/-- The request lists that an event asks for, by address. -/
def asking (fleet : Fleet) : FleetEvent → List (String × RequestList)
  | .server event => fleet.server.asked event
  | _ => []

/-- What is asked for is recorded. -/
theorem asked_step (fromJson : String → Option QJsonDocument) (fleet : Fleet) (event : FleetEvent) :
    (fleet.step fromJson event).asked = fleet.asked ++ fleet.asking event := by
  cases event with
  | server event => rfl
  | clearQueue | breaks | alertsWritten | fileChanged | delayTimerTick =>
    exact (List.append_nil _).symm
  | arrivesAtHost number | arrivesAtServer number =>
    refine Eq.trans ?_ (List.append_nil _).symm
    unfold step
    dsimp only
    split
    · rfl
    · split <;> rfl

end Fleet

-- ---------------------------------------------------------------------------
-- What handlers send
-- ---------------------------------------------------------------------------

/-- The weight of a document's calls. -/
def weight (w : String × QJsonObject → ℕ) (document : QJsonDocument) : ℕ := total w (calls document)

/-- The weight of a message to an address. -/
def HostSignal.weightFor (ip : String) (w : String × QJsonObject → ℕ) : HostSignal → ℕ
  | .sendMessage hostIp _ data => if hostIp = ip then weight w data else 0
  | _ => 0

/-- All messages go to the host of the handler. -/
def SendsTo (ip : String) (signals : List HostSignal) : Prop :=
  ∀ hostIp port data, .sendMessage hostIp port data ∈ signals → hostIp = ip

variable {w : String × QJsonObject → ℕ}

/-- A handler sends to one address, so its signals weigh nothing for others. -/
theorem total_weightFor {hostIp : String} {signals : List HostSignal} (h : SendsTo hostIp signals)
    (ip : String) : total (HostSignal.weightFor ip w) signals =
      if hostIp = ip then total (weight w) (signals.filterMap HostSignal.message) else 0 := by
  induction signals with
  | nil => exact (ite_self 0).symm
  | cons signal signals ih =>
    rw [total_cons, ih fun a b d hMem => h a b d (List.mem_cons_of_mem _ hMem)]
    cases signal with
    | sendMessage ip' port data =>
      obtain rfl := h ip' port data List.mem_cons_self
      rw [HostSignal.weightFor]
      split
      · rfl
      · rfl
    | updateIpOnline | handleResult => exact Nat.zero_add _

namespace VMTDHostProtocolHandler

/-- The weight of what a handler has queued. -/
def queued (w : String × QJsonObject → ℕ) (handler : VMTDHostProtocolHandler) : ℕ :=
  total (weight w) handler.requests

/-- **One event of a handler**: it sends what it had queued or was given. -/
theorem queued_react (fromJson : String → Option QJsonDocument) (handler : VMTDHostProtocolHandler)
    (event : HostEvent) :
    total (weight w) ((handler.react fromJson event).2.filterMap HostSignal.message) +
        (handler.react fromJson event).1.queued w ≤
      handler.queued w + total w event.lists.flatten := by
  obtain ⟨appended, hReacts, -⟩ := react_spec fromJson handler event
  have hQueue := total_sublist (f := weight w) hReacts.queue
  rw [total_append, total_append] at hQueue
  have hAppended : total (weight w) appended = total w event.lists.flatten := by
    rw [← List.flatten_filter_not_isEmpty, ← hReacts.calls, total_flatten, total_map]
    rfl
  rw [← hAppended]
  exact hQueue

/-- Without messages nothing is sent. -/
theorem sendsTo_of_message {signals : List HostSignal}
    (h : signals.filterMap HostSignal.message = []) (ip : String) : SendsTo ip signals := by
  intro hostIp port data hMem
  have hNone := List.filterMap_eq_nil_iff.mp h _ hMem
  cases hNone

/-- A handler sends to its own host. -/
theorem endpoint_of_mem_react {fromJson : String → Option QJsonDocument}
    {handler : VMTDHostProtocolHandler} {event : HostEvent} {ip : String} {port : Int}
    {data : QJsonDocument} (h : .sendMessage ip port data ∈ (handler.react fromJson event).2) :
    ip = handler.hostIp ∧ port = handler.hostPort := by
  -- only the queue timer sends anything
  have hSilent : (handler.react fromJson event).2.filterMap HostSignal.message ≠ [] := fun hNone => by
    have hMessage := List.filterMap_eq_nil_iff.mp hNone _ h
    cases hMessage
  cases event with
  | appendRequestList | clearQueue | checkConnection => exact absurd rfl hSilent
  | messageReceived ip' port' data' => exact absurd (messages_handleServers _ handler) hSilent
  | checkQueueTimer =>
    unfold react checkQueueTimerSlot at h
    dsimp only at h
    split at h
    · obtain ⟨rfl, rfl, -⟩ := HostSignal.sendMessage.inj (List.mem_singleton.mp h)
      exact ⟨rfl, rfl⟩
    · exact absurd h List.not_mem_nil
  | ticketTimeout =>
    refine absurd ?_ hSilent
    unfold react
    dsimp only
    split <;> rfl

/-- A handler sends to its own address. -/
theorem sendsTo_react (fromJson : String → Option QJsonDocument) (handler : VMTDHostProtocolHandler)
    (event : HostEvent) : SendsTo handler.hostIp (handler.react fromJson event).2 :=
  fun _ _ _ hMem => (endpoint_of_mem_react hMem).1

end VMTDHostProtocolHandler

namespace VMTDServer

/-- The weight of what is queued for an address. -/
def queuedAt (ip : String) (w : String × QJsonObject → ℕ) (server : VMTDServer) : ℕ :=
  totalAt ip (VMTDHostProtocolHandler.queued w) server.hostHandlers

variable {server : VMTDServer}

/-- **Handlers by themselves**: if each sends what it had queued or was given,
so do all of them, for every address. -/
theorem total_each (hKeyed : server.WellKeyed)
    {slot : String → VMTDHostProtocolHandler → VMTDHostProtocolHandler × List HostSignal}
    {given : String → RequestList}
    (hSends : ∀ key handler, SendsTo handler.hostIp (slot key handler).2)
    (hQueued : ∀ key handler,
      total (weight w) ((slot key handler).2.filterMap HostSignal.message) +
        (slot key handler).1.queued w ≤ handler.queued w + total w (given key)) (ip : String) :
    total (HostSignal.weightFor ip w) (server.each slot).2 + (server.each slot).1.queuedAt ip w ≤
      server.queuedAt ip w +
        totalAt ip (total w) (server.hostHandlers.map fun entry => (entry.1, given entry.1)) := by
  unfold each queuedAt totalAt
  dsimp only
  rw [total_flatMap, total_map, total_map, ← total_add, ← total_add]
  refine total_le_total fun entry hEntry => ?_
  rw [total_weightFor (hSends entry.1 entry.2), hKeyed.own entry hEntry]
  by_cases hKey : entry.1 = ip
  · simp only [if_pos hKey]
    exact hQueued entry.1 entry.2
  · simp only [if_neg hKey]
    exact Nat.le_refl 0

/-- What a handler is given by an event. -/
def given (server : VMTDServer) (event : ServerEvent) (ip : String) : RequestList :=
  ((server.told ip event).toList.flatMap HostEvent.lists).flatten

/-- What a handler sends and keeps is what it had queued and what it is given. -/
theorem queued_reactTo (fromJson : String → Option QJsonDocument) (server : VMTDServer)
    (handler : VMTDHostProtocolHandler) (event : ServerEvent) (key : String) :
    SendsTo handler.hostIp (reactTo fromJson handler (server.told key event)).2 ∧
    total (weight w)
        ((reactTo fromJson handler (server.told key event)).2.filterMap HostSignal.message) +
      (reactTo fromJson handler (server.told key event)).1.queued w ≤
        handler.queued w + total w (server.given event key) := by
  unfold given
  cases server.told key event with
  | none => exact ⟨sendsTo_of_message rfl _, Nat.le_of_eq (Nat.zero_add _)⟩
  | some hostEvent =>
    have hQueued := queued_react (w := w) fromJson handler hostEvent
    rw [Option.toList_some, List.flatMap_singleton]
    exact ⟨sendsTo_react fromJson handler hostEvent, hQueued⟩

/-- What handlers are given was asked for. -/
theorem total_told (hKeyed : server.WellKeyed) (event : ServerEvent) (ip : String) :
    totalAt ip (total w) (server.hostHandlers.map fun entry =>
        (entry.1, server.given event entry.1)) ≤ totalAt ip (total w) (server.asked event) := by
  -- a handler that is told nothing of requests
  have hNone : (∀ key, server.given event key = []) →
      totalAt ip (total w) (server.hostHandlers.map fun entry =>
        (entry.1, server.given event entry.1)) ≤ totalAt ip (total w) (server.asked event) := by
    intro hNone
    refine le_trans (le_of_eq (total_zero fun entry hEntry => ?_)) (Nat.zero_le _)
    obtain ⟨old, -, rfl⟩ := List.mem_map.mp hEntry
    simp [hNone]
  cases event with
  | newConnection | disconnected => exact hNone fun _ => rfl
  | textMessageReceived number data =>
    refine hNone fun key => ?_
    unfold given told
    dsimp only
    cases server.socket? number <;> rfl
  | checkQueueTimer | ticketTimeout =>
    refine hNone fun key => ?_
    unfold given told
    dsimp only
    split <;> rfl
  | checkConnectionTimerTick => exact Nat.le_refl _
  | appendRequestList ip' requests =>
    have hAsked : totalAt ip (total w) (server.asked (.appendRequestList ip' requests)) =
        if ip' = ip then total w requests else 0 := total_singleton _
    rw [hAsked]
    refine totalAt_le_of_nodup ?_ fun entry hEntry hKey => ?_
    · rw [List.map_map]
      exact hKeyed.nodup
    · obtain ⟨old, -, rfl⟩ := List.mem_map.mp hEntry
      obtain rfl : old.1 = ip := hKey
      unfold given told
      dsimp only
      by_cases hSame : old.1 = ip'
      · simp [HostEvent.lists, hSame]
      · simp [if_neg hSame]

end VMTDServer

-- ---------------------------------------------------------------------------
-- Connections
-- ---------------------------------------------------------------------------

namespace Fleet

/-- The weight of what is on its way to an address. -/
def inFlightAt (ip : String) (w : String × QJsonObject → ℕ) (connections : List Connection) : ℕ :=
  total (fun connection =>
    if connection.socket.peerAddress = ip then total (weight w) connection.toClient.inFlight else 0)
    connections

/-- The server's sockets are those of the connections. -/
def HasSockets (server : VMTDServer) (connections : List Connection) : Prop :=
  ∀ socket ∈ server.hostServer.wsClientSockets,
    (connections.map Connection.socket)[socket.number]? = some socket

/-- Connections that change, but not their sockets. -/
theorem map_socket_modify (connections : List Connection) (number : Nat)
    {change : Connection → Connection} (h : ∀ connection, (change connection).socket = connection.socket) :
    (connections.modify number change).map Connection.socket = connections.map Connection.socket := by
  induction connections generalizing number with
  | nil => cases number <;> rfl
  | cons connection connections ih =>
    cases number with
    | zero => rw [List.modify_zero_cons, List.map_cons, List.map_cons, h]
    | succ number => rw [List.modify_succ_cons, List.map_cons, List.map_cons, ih]

/-- Sending opens and closes no connection. -/
theorem map_socket_send (server : VMTDServer) (connections : List Connection) (signal : HostSignal) :
    (send server connections signal).map Connection.socket = connections.map Connection.socket := by
  cases signal with
  | sendMessage ip port data =>
    unfold send
    dsimp only
    split
    · exact map_socket_modify _ _ fun _ => rfl
    · rfl
  | updateIpOnline | handleResult => rfl

theorem map_socket_foldl_send (server : VMTDServer) (signals : List HostSignal)
    (connections : List Connection) :
    (signals.foldl (send server) connections).map Connection.socket =
      connections.map Connection.socket := by
  induction signals generalizing connections with
  | nil => rfl
  | cons signal signals ih => rw [List.foldl_cons, ih, map_socket_send]

/-- A socket that a message goes to has the address and the port. -/
theorem sendMessageSlot_eq_some {hostServer : VMTDHostServer} {ip : String} {port : Int}
    {socket : QWebSocket} (h : hostServer.sendMessageSlot ip port = some socket) :
    socket ∈ hostServer.wsClientSockets ∧ socket.peerAddress = ip ∧ socket.peerPort = port := by
  obtain ⟨hMem, hEndpoint⟩ := List.mem_filter.mp (List.mem_of_getLast? h)
  obtain ⟨hAddress, hPort⟩ := Bool.and_eq_true_iff.mp hEndpoint
  exact ⟨hMem, beq_iff_eq.mp hAddress, beq_iff_eq.mp hPort⟩

/-- **One message** is on its way to its address afterwards, or lost. -/
theorem inFlightAt_send {server : VMTDServer} {connections : List Connection}
    (h : HasSockets server connections) (signal : HostSignal) (ip : String) :
    inFlightAt ip w (send server connections signal) ≤
      inFlightAt ip w connections + signal.weightFor ip w := by
  cases signal with
  | updateIpOnline | handleResult => exact Nat.le_refl _
  | sendMessage hostIp port data =>
    unfold send
    dsimp only
    cases hSend : server.hostServer.sendMessageSlot hostIp port with
    | none => exact Nat.le_add_right _ _
    | some socket =>
      obtain ⟨hMem, rfl, -⟩ := sendMessageSlot_eq_some hSend
      have hSocket := h socket hMem
      rw [List.getElem?_map] at hSocket
      obtain ⟨connection, hGet, rfl⟩ := Option.map_eq_some_iff.mp hSocket
      have hModify := total_modify (f := fun connection : Connection =>
        if connection.socket.peerAddress = ip then total (weight w) connection.toClient.inFlight
        else 0) hGet fun connection =>
          { connection with toClient := connection.toClient.send [data] }
      have hSent := total_sublist (f := weight w)
        (@Channel.sublist_send _ connection.toClient [data])
      rw [total_append, total_singleton] at hSent
      dsimp only at hModify ⊢
      unfold inFlightAt HostSignal.weightFor
      by_cases hKey : connection.socket.peerAddress = ip
      · simp only [if_pos hKey] at hModify ⊢
        omega
      · simp only [if_neg hKey] at hModify ⊢
        omega

/-- What gets in flight to an address was sent to it. -/
theorem inFlightAt_foldl_send {server : VMTDServer} {connections : List Connection}
    (h : HasSockets server connections) (signals : List HostSignal) (ip : String) :
    inFlightAt ip w (signals.foldl (send server) connections) ≤
      inFlightAt ip w connections + total (HostSignal.weightFor ip w) signals := by
  induction signals generalizing connections with
  | nil => exact Nat.le_refl _
  | cons signal signals ih =>
    have hOne := inFlightAt_send (w := w) h signal ip
    have hKept : HasSockets server (send server connections signal) := by
      intro socket hMem
      rw [map_socket_send]
      exact h socket hMem
    have hRest := ih hKept
    rw [List.foldl_cons, total_cons]
    omega

-- ---------------------------------------------------------------------------
-- Conservation
-- ---------------------------------------------------------------------------

/-- The invariant of a run. -/
structure Conserved (fleet : Fleet) : Prop where
  length : fleet.connections.length = fleet.server.hostServer.nextNumber
  sockets : HasSockets fleet.server fleet.connections
  keyed : fleet.server.WellKeyed
  /-- Nothing is doubled. -/
  part : ∀ w ip, totalAt ip (total w) fleet.executed + inFlightAt ip w fleet.connections +
    fleet.server.queuedAt ip w ≤ totalAt ip (total w) fleet.asked

variable {fleet : Fleet}

/-- At the start nothing has been asked for, and nothing is anywhere. -/
theorem conserved_start (hosts : String → AlertNode) : Conserved { hosts := hosts } where
  length := rfl
  sockets _ hMem := absurd hMem List.not_mem_nil
  keyed := VMTDServer.wellKeyed_empty
  part _ _ := Nat.le_refl 0

/-- Sockets that are known stay known while the connections are the same. -/
theorem hasSockets_of_map {server server' : VMTDServer} {connections connections' : List Connection}
    (h : HasSockets server connections)
    (hServer : server'.hostServer.wsClientSockets ⊆ server.hostServer.wsClientSockets)
    (hConnections : connections'.map Connection.socket = connections.map Connection.socket) :
    HasSockets server' connections' := by
  intro socket hMem
  rw [hConnections]
  exact h socket (hServer hMem)

theorem length_of_map {connections connections' : List Connection}
    (h : connections'.map Connection.socket = connections.map Connection.socket) :
    connections'.length = connections.length := by
  have hLength := congrArg List.length h
  rw [List.length_map, List.length_map] at hLength
  exact hLength

/-- Handlers, each by itself. -/
theorem conserved_each (h : fleet.Conserved) {event : ServerEvent}
    (hKeeps : VMTDServer.KeepsSockets event) (fromJson : String → Option QJsonDocument) :
    (fleet.step fromJson (.server event)).Conserved := by
  have hConnect : connect fleet.server fleet.connections event = fleet.connections := by
    cases event with
    | newConnection | disconnected => exact hKeeps.elim
    | textMessageReceived | appendRequestList | checkQueueTimer | ticketTimeout
    | checkConnectionTimerTick => rfl
  unfold step
  dsimp only
  rw [VMTDServer.react_eq fleet.server hKeeps, hConnect]
  have hMap := map_socket_foldl_send fleet.server (fleet.server.each fun ip handler =>
    VMTDServer.reactTo fromJson handler (fleet.server.told ip event)).2 fleet.connections
  have hKeyed : (fleet.server.step fromJson event).WellKeyed :=
    VMTDServer.wellKeyed_step h.keyed event
  rw [VMTDServer.step, VMTDServer.react_eq fleet.server hKeeps] at hKeyed
  refine ⟨(length_of_map hMap).trans h.length,
    hasSockets_of_map h.sockets (List.Subset.refl _) hMap, hKeyed, fun w ip => ?_⟩
  · have hSent := inFlightAt_foldl_send (w := w) h.sockets (fleet.server.each fun ip handler =>
      VMTDServer.reactTo fromJson handler (fleet.server.told ip event)).2 ip
    have hEach := VMTDServer.total_each h.keyed
      (fun key handler => (VMTDServer.queued_reactTo (w := w) fromJson fleet.server handler event key).1)
      (fun key handler => (VMTDServer.queued_reactTo (w := w) fromJson fleet.server handler event key).2) ip
    have hTold := VMTDServer.total_told (w := w) h.keyed event ip
    have hPart := h.part w ip
    dsimp only
    rw [totalAt_append]
    omega

/-- Handlers that send nothing and queue nothing new. -/
theorem conserved_quiet (h : fleet.Conserved)
    (slot : String → VMTDHostProtocolHandler → VMTDHostProtocolHandler × List HostSignal)
    (hHost : ∀ key handler, (slot key handler).1.hostIp = handler.hostIp)
    (hMessage : ∀ key handler, (slot key handler).2.filterMap HostSignal.message = [])
    (hQueue : ∀ key handler, (slot key handler).1.requests.Sublist handler.requests) :
    (fleet.server.each slot).1.WellKeyed ∧
      ∀ w ip, (fleet.server.each slot).1.queuedAt ip w ≤ fleet.server.queuedAt ip w := by
  refine ⟨h.keyed.each hHost, fun w ip => ?_⟩
  have hQueued : ∀ key handler,
      total (weight w) ((slot key handler).2.filterMap HostSignal.message) +
        (slot key handler).1.queued w ≤ handler.queued w + total w ([] : RequestList) := by
    intro key handler
    rw [hMessage, total_nil, total_nil, Nat.zero_add]
    exact total_sublist (hQueue key handler)
  have hEach := VMTDServer.total_each h.keyed
    (fun key handler => sendsTo_of_message (hMessage key handler) handler.hostIp) hQueued ip
  have hNothing : totalAt ip (total w) (fleet.server.hostHandlers.map fun entry =>
      (entry.1, ([] : RequestList))) = 0 := total_zero fun entry hEntry => by
    obtain ⟨old, -, rfl⟩ := List.mem_map.mp hEntry
    exact ite_self 0
  omega

/-- A cleared queue loses requests. -/
theorem conserved_clearQueue (h : fleet.Conserved) (fromJson : String → Option QJsonDocument)
    (ip : String) : (fleet.step fromJson (.clearQueue ip)).Conserved := by
  unfold step
  dsimp only
  rw [VMTDServer.modifyHandler_eq]
  obtain ⟨hKeyed, hQueued⟩ := conserved_quiet h
    (fun key handler => if key = ip then (handler.clearQueueSlot, []) else (handler, []))
    (fun key handler => by split <;> rfl) (fun key handler => by split <;> rfl)
    (fun key handler => by
      split
      · exact List.nil_sublist _
      · exact List.Sublist.refl _)
  refine ⟨h.length, h.sockets, hKeyed, fun w ip' => ?_⟩
  have hPart := h.part w ip'
  have hLess := hQueued w ip'
  dsimp only
  omega

/-- A new handler has nothing queued. -/
theorem conserved_newConnection (h : fleet.Conserved) (fromJson : String → Option QJsonDocument)
    (ip : String) (port : Int) :
    (fleet.step fromJson (.server (.newConnection ip port))).Conserved := by
  have hHostServer := @VMTDServer.hostServer_newConnectionSlot fleet.server ip port
  have hLength : (fleet.connections.map Connection.socket).length =
      fleet.server.hostServer.nextNumber := (List.length_map _).trans h.length
  constructor
  · show (fleet.connections ++ [_]).length = (fleet.server.newConnectionSlot ip port).hostServer.nextNumber
    rw [hHostServer, List.length_append, h.length, List.length_singleton]
  · intro socket hMem
    have hMem' : socket ∈ (fleet.server.newConnectionSlot ip port).hostServer.wsClientSockets := hMem
    rw [hHostServer] at hMem'
    show ((fleet.connections ++ [_]).map Connection.socket)[socket.number]? = some socket
    rw [List.map_append, List.map_singleton]
    rcases List.mem_append.mp hMem' with hMem | hMem
    · have hGet := h.sockets socket hMem
      obtain ⟨hLess, -⟩ := List.getElem?_eq_some_iff.mp hGet
      rw [List.getElem?_append_left hLess]
      exact hGet
    · obtain rfl := List.mem_singleton.mp hMem
      rw [← hLength]
      exact List.getElem?_concat_length
  · have hKeyed : (fleet.server.step fromJson (.newConnection ip port)).WellKeyed :=
      VMTDServer.wellKeyed_step h.keyed _
    exact hKeyed
  · intro w ip'
    have hPart := h.part w ip'
    have hQueued : (fleet.server.newConnectionSlot ip port).queuedAt ip' w =
        fleet.server.queuedAt ip' w := by
      unfold VMTDServer.newConnectionSlot VMTDServer.clientConnectedSlot
      dsimp only
      split
      · rfl
      · unfold VMTDServer.queuedAt
        dsimp only
        rw [totalAt_append]
        exact (congrArg (_ + ·) ((total_singleton _).trans (ite_self 0))).trans (Nat.add_zero _)
    have hInFlight : inFlightAt ip' w (fleet.connections ++
        [{ socket := ⟨fleet.server.hostServer.nextNumber, ip, port⟩ }]) =
          inFlightAt ip' w fleet.connections := by
      unfold inFlightAt
      rw [total_append, total_singleton]
      exact (congrArg (_ + ·) (ite_self 0)).trans (Nat.add_zero _)
    show totalAt ip' (total w) fleet.executed + inFlightAt ip' w (fleet.connections ++ [_]) +
      (fleet.server.newConnectionSlot ip port).queuedAt ip' w ≤ totalAt ip' (total w) (fleet.asked ++ [])
    rw [hQueued, hInFlight, List.append_nil]
    exact hPart

/-- Connections that change on the way to the server only. -/
theorem inFlightAt_modify_le (number : Nat) {change : Connection → Connection}
    (hSocket : ∀ connection, (change connection).socket = connection.socket)
    (hLess : ∀ connection,
      (change connection).toClient.inFlight.Sublist connection.toClient.inFlight)
    (connections : List Connection) (ip : String) :
    inFlightAt ip w (connections.modify number change) ≤ inFlightAt ip w connections := by
  refine total_modify_le (fun connection => ?_) number
  rw [hSocket]
  split
  · exact total_sublist (hLess connection)
  · exact Nat.le_refl 0

/-- A handler that goes takes its queue along. -/
theorem conserved_disconnected (h : fleet.Conserved) (fromJson : String → Option QJsonDocument)
    (number : Nat) : (fleet.step fromJson (.server (.disconnected number))).Conserved := by
  have hMap : (fleet.connections.modify number fun connection =>
      { connection with toServer := connection.toServer.cut 0 }).map Connection.socket =
        fleet.connections.map Connection.socket := map_socket_modify _ _ fun _ => rfl
  have hKeyed : (fleet.server.step fromJson (.disconnected number)).WellKeyed :=
    VMTDServer.wellKeyed_step h.keyed _
  have hInFlight : ∀ w ip, inFlightAt ip w (fleet.connections.modify number fun connection =>
      { connection with toServer := connection.toServer.cut 0 }) ≤
        inFlightAt ip w fleet.connections := by
    intro w ip
    refine inFlightAt_modify_le number ?_ ?_ fleet.connections ip
    · exact fun _ => rfl
    · exact fun _ => List.Sublist.refl _
  unfold step VMTDServer.react
  unfold VMTDServer.step VMTDServer.react at hKeyed
  dsimp only at hKeyed ⊢
  cases hSocket : fleet.server.socket? number with
  | none =>
    rw [hSocket] at hKeyed
    refine ⟨(length_of_map hMap).trans h.length,
      hasSockets_of_map h.sockets (List.Subset.refl _) hMap, hKeyed, fun w ip => ?_⟩
    have hPart := h.part w ip
    have hLess := hInFlight w ip
    show totalAt ip (total w) fleet.executed + inFlightAt ip w (fleet.connections.modify _ _) +
      fleet.server.queuedAt ip w ≤ totalAt ip (total w) (fleet.asked ++ [])
    rw [List.append_nil]
    omega
  | some socket =>
    rw [hSocket] at hKeyed
    refine ⟨(length_of_map hMap).trans h.length,
      hasSockets_of_map h.sockets List.erase_subset hMap, hKeyed, fun w ip => ?_⟩
    have hPart := h.part w ip
    have hLess := hInFlight w ip
    have hQueued : (fleet.server.disconnectedSlot socket).queuedAt ip w ≤
        fleet.server.queuedAt ip w := total_sublist List.filter_sublist
    show totalAt ip (total w) fleet.executed + inFlightAt ip w (fleet.connections.modify _ _) +
      (fleet.server.disconnectedSlot socket).queuedAt ip w ≤ totalAt ip (total w) (fleet.asked ++ [])
    rw [List.append_nil]
    omega

/-- Executed calls weigh no more than the document. -/
theorem total_executed_le (document : QJsonDocument) :
    total w ((VxlanMtd.executed (responses document)).map call) ≤ weight w document :=
  total_sublist (List.filter_sublist.map call)

/-- A document that arrives is executed, and no longer in flight. -/
theorem conserved_arrivesAtHost (h : fleet.Conserved) (fromJson : String → Option QJsonDocument)
    (number : Nat) : (fleet.step fromJson (.arrivesAtHost number)).Conserved := by
  unfold step
  dsimp only
  cases hGet : fleet.connections[number]? with
  | none => exact h
  | some connection =>
    dsimp only
    cases hReceive : connection.toClient.receive with
    | none => exact h
    | some received =>
      obtain ⟨document, toClient⟩ := received
      dsimp only
      generalize (replyTo document (fleet.hosts connection.socket.peerAddress).configurator).1 =
        reply
      have hMap : (fleet.connections.modify number fun connection =>
          { connection with
            toClient := toClient
            toServer := connection.toServer.send reply.toList }).map Connection.socket =
              fleet.connections.map Connection.socket := map_socket_modify _ _ fun _ => rfl
      refine ⟨(length_of_map hMap).trans h.length,
        hasSockets_of_map h.sockets (List.Subset.refl _) hMap, h.keyed, fun w ip => ?_⟩
      -- one document less is on its way, and at most its calls are executed
      have hModify := total_modify (f := fun connection : Connection =>
        if connection.socket.peerAddress = ip then total (weight w) connection.toClient.inFlight
        else 0) hGet fun connection =>
          { connection with
            toClient := toClient
            toServer := connection.toServer.send reply.toList }
      have hExecuted := @total_executed_le w document
      have hPart := h.part w ip
      rw [Channel.inFlight_receive hReceive, total_cons] at hModify
      dsimp only at hModify ⊢
      rw [totalAt_append, totalAt_singleton]
      unfold inFlightAt at hPart ⊢
      by_cases hKey : connection.socket.peerAddress = ip
      · simp only [if_pos hKey] at hModify ⊢
        omega
      · simp only [if_neg hKey] at hModify ⊢
        omega

/-- A message to the server moves no requests but those it makes the handler
send. -/
theorem conserved_arrivesAtServer (h : fleet.Conserved) (fromJson : String → Option QJsonDocument)
    (number : Nat) : (fleet.step fromJson (.arrivesAtServer number)).Conserved := by
  unfold step
  dsimp only
  cases fleet.connections[number]? with
  | none => exact h
  | some connection =>
    dsimp only
    cases connection.toServer.receive with
    | none => exact h
    | some received =>
      obtain ⟨document, toServer⟩ := received
      obtain ⟨hKeyed, hQueued⟩ := conserved_quiet h
        (fun _ handler => handler.handleServers (responses document))
        (fun _ handler => by
          rw [(handleServers_spec (responses document) handler).1]
          split <;> rfl)
        (fun _ handler => messages_handleServers (responses document) handler)
        (fun _ handler => by
          rw [(handleServers_spec (responses document) handler).1]
          split <;> exact List.Sublist.refl _)
      have hMap : (fleet.connections.modify number fun connection =>
          { connection with toServer := toServer }).map Connection.socket =
            fleet.connections.map Connection.socket := map_socket_modify _ _ fun _ => rfl
      refine ⟨(length_of_map hMap).trans h.length,
        hasSockets_of_map h.sockets (List.Subset.refl _) hMap, hKeyed, fun w ip => ?_⟩
      have hInFlight : inFlightAt ip w (fleet.connections.modify number fun connection =>
          { connection with toServer := toServer }) ≤ inFlightAt ip w fleet.connections := by
        refine inFlightAt_modify_le number ?_ ?_ fleet.connections ip
        · exact fun _ => rfl
        · exact fun _ => List.Sublist.refl _
      have hPart := h.part w ip
      have hLess := hQueued w ip
      unfold VMTDServer.receiveDocument
      dsimp only at hInFlight ⊢
      omega

/-- A connection that breaks loses messages. -/
theorem conserved_breaks (h : fleet.Conserved) (fromJson : String → Option QJsonDocument)
    (number keepToClient keepToServer : Nat) :
    (fleet.step fromJson (.breaks number keepToClient keepToServer)).Conserved := by
  have hMap : (fleet.connections.modify number fun connection =>
      { connection with
        toClient := connection.toClient.cut keepToClient
        toServer := connection.toServer.cut keepToServer }).map Connection.socket =
          fleet.connections.map Connection.socket := map_socket_modify _ _ fun _ => rfl
  refine ⟨(length_of_map hMap).trans h.length,
    hasSockets_of_map h.sockets (List.Subset.refl _) hMap, h.keyed, fun w ip => ?_⟩
  have hInFlight : inFlightAt ip w (fleet.connections.modify number fun connection =>
      { connection with
        toClient := connection.toClient.cut keepToClient
        toServer := connection.toServer.cut keepToServer }) ≤
          inFlightAt ip w fleet.connections := by
    refine inFlightAt_modify_le number ?_ ?_ fleet.connections ip
    · exact fun _ => rfl
    · exact fun _ => Channel.sublist_cut keepToClient
  have hPart := h.part w ip
  show totalAt ip (total w) fleet.executed + inFlightAt ip w (fleet.connections.modify _ _) +
    fleet.server.queuedAt ip w ≤ totalAt ip (total w) fleet.asked
  omega

/-- **Every event keeps the balance.** -/
theorem conserved_step (h : fleet.Conserved) (fromJson : String → Option QJsonDocument)
    (event : FleetEvent) : (fleet.step fromJson event).Conserved := by
  cases event with
  | server event =>
    by_cases hKeeps : VMTDServer.KeepsSockets event
    · exact conserved_each h hKeeps fromJson
    · cases event with
      | newConnection ip port => exact conserved_newConnection h fromJson ip port
      | disconnected number => exact conserved_disconnected h fromJson number
      | textMessageReceived | appendRequestList | checkQueueTimer | ticketTimeout
      | checkConnectionTimerTick => exact absurd trivial hKeeps
  | clearQueue ip => exact conserved_clearQueue h fromJson ip
  | arrivesAtHost number => exact conserved_arrivesAtHost h fromJson number
  | arrivesAtServer number => exact conserved_arrivesAtServer h fromJson number
  | breaks number keepToClient keepToServer =>
    exact conserved_breaks h fromJson number keepToClient keepToServer
  | alertsWritten | fileChanged | delayTimerTick =>
    exact ⟨h.length, h.sockets, h.keyed, h.part⟩

/-- And so does a run from the start. -/
theorem conserved_run (fromJson : String → Option QJsonDocument) (hosts : String → AlertNode)
    (events : List FleetEvent) : (run (step fromJson) { hosts := hosts } events).Conserved :=
  invariant_of_reachable (conserved_start hosts)
    (fun _ event h => conserved_step h fromJson event) ⟨events, rfl⟩

end Fleet

/-- **At most once, for every host.** In every run of the server and all its
hosts, whatever connects, breaks, times out, is cleared, forged or lost, and over
however many connections an address has had: every host executes only calls that
were asked for its address, and none more often than it was asked for. -/
theorem requests_once (fromJson : String → Option QJsonDocument) (hosts : String → AlertNode)
    (events : List FleetEvent) (ip : String) :
    let fleet := run (Fleet.step fromJson) { hosts := hosts } events
    (under ip fleet.executed).flatten.Subperm (under ip fleet.asked).flatten := by
  refine subperm_of_total fun w => ?_
  have hPart := (Fleet.conserved_run fromJson hosts events).part w ip
  rw [total_flatten, total_flatten, total_under, total_under]
  omega

end VxlanMtd
