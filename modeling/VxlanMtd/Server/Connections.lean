import VxlanMtd.Model.Server

/-!
# Handlers and connections

Whether the handlers of `VMTDServer` are those of the connected clients, over
any order of connections, disconnections, messages and timers.

**`tableMatches_iff`**: they are, after every event of a run, if and only if no
socket is reported disconnected while another one from the same address is
connected. The disconnection removes the handler of the address, whichever
socket it was created for, and no later event brings it back for the socket
that stays.
-/

namespace VxlanMtd

open EventRun

-- ---------------------------------------------------------------------------
-- The host of a handler
-- ---------------------------------------------------------------------------

namespace VMTDHostProtocolHandler

variable (handler : VMTDHostProtocolHandler)

/-- The host a handler talks to. -/
def endpoint : String × Int := (handler.hostIp, handler.hostPort)

theorem endpoint_appendRequestListSlot (requests : RequestList) :
    (handler.appendRequestListSlot requests).endpoint = handler.endpoint := by
  unfold appendRequestListSlot
  split <;> rfl

theorem endpoint_checkQueueTimerSlot :
    handler.checkQueueTimerSlot.1.endpoint = handler.endpoint := by
  unfold checkQueueTimerSlot
  split <;> rfl

/-- A message changes neither address nor port of a handler. -/
theorem endpoint_receiveMessageSlot (fromJson : String → Option QJsonDocument) (ip : String)
    (port : Int) (data : String) :
    (handler.receiveMessageSlot fromJson ip port data).1.endpoint = handler.endpoint := by
  unfold receiveMessageSlot
  rw [(handleServers_spec _ handler).1]
  split <;> rfl

end VMTDHostProtocolHandler

-- ---------------------------------------------------------------------------
-- Sockets
-- ---------------------------------------------------------------------------

namespace VMTDHostServer

variable {hostServer : VMTDHostServer} {ip : String} {port : Int}

/-- A message is sent exactly when there is a socket for it. -/
theorem isSome_sendMessageSlot : (hostServer.sendMessageSlot ip port).isSome = true ↔
    ∃ socket ∈ hostServer.wsClientSockets, socket.peerAddress = ip ∧ socket.peerPort = port := by
  have hSome : ∀ sockets : List QWebSocket,
      sockets.getLast?.isSome = true ↔ ∃ socket, socket ∈ sockets := by
    intro sockets
    rw [List.getLast?_isSome]
    exact ⟨List.exists_mem_of_ne_nil sockets, fun ⟨_, hMem⟩ => List.ne_nil_of_mem hMem⟩
  rw [sendMessageSlot, hSome]
  simp only [List.mem_filter, Bool.and_eq_true, beq_iff_eq]

/-- No socket has a number that is still to come, and none is kept twice. -/
structure Numbered (hostServer : VMTDHostServer) : Prop where
  lt : ∀ socket ∈ hostServer.wsClientSockets, socket.number < hostServer.nextNumber
  nodup : hostServer.wsClientSockets.Nodup

end VMTDHostServer

namespace VMTDServer

variable {fromJson : String → Option QJsonDocument} {server : VMTDServer}

/-- The handlers are those of the connected clients. -/
structure TableMatches (server : VMTDServer) : Prop where
  contains_iff : ∀ ip, server.contains ip = true ↔
    ∃ socket ∈ server.hostServer.wsClientSockets, socket.peerAddress = ip
  port : ∀ ip handler, (ip, handler) ∈ server.hostHandlers → handler.hostIp = ip ∧
    ∃ socket ∈ server.hostServer.wsClientSockets,
      socket.peerAddress = ip ∧ socket.peerPort = handler.hostPort
  sendable : ∀ ip handler, (ip, handler) ∈ server.hostHandlers →
    (server.hostServer.sendMessageSlot handler.hostIp handler.hostPort).isSome = true

/-- A socket that is reported disconnected is the only one of its address. -/
def OnlySocket (server : VMTDServer) : ServerEvent → Prop
  | .disconnected number => ∀ socket, server.socket? number = some socket →
      ∀ other ∈ server.hostServer.wsClientSockets,
        other.peerAddress = socket.peerAddress → other = socket
  | _ => True

-- ---------------------------------------------------------------------------
-- The table
-- ---------------------------------------------------------------------------

/-- The handlers, as far as the table is concerned: their keys and hosts. -/
def endpoints (server : VMTDServer) : List (String × String × Int) :=
  server.hostHandlers.map fun entry => (entry.1, entry.2.endpoint)

/-- The addresses with a handler. -/
theorem contains_iff_mem_endpoints {ip : String} :
    server.contains ip = true ↔ ∃ endpoint, (ip, endpoint) ∈ server.endpoints := by
  rw [contains, List.any_eq_true]
  constructor
  · rintro ⟨entry, hMem, hKey⟩
    exact ⟨entry.2.endpoint, List.mem_map.mpr ⟨entry, hMem, by rw [beq_iff_eq.mp hKey]⟩⟩
  · rintro ⟨endpoint, hMem⟩
    obtain ⟨entry, hEntry, hEq⟩ := List.mem_map.mp hMem
    exact ⟨entry, hEntry, beq_iff_eq.mpr (Prod.mk.inj hEq).1⟩

/-- What has to be shown of a table. -/
theorem tableMatches_of_endpoints
    (hContains : ∀ ip, (∃ endpoint, (ip, endpoint) ∈ server.endpoints) ↔
      ∃ socket ∈ server.hostServer.wsClientSockets, socket.peerAddress = ip)
    (hPort : ∀ ip hostIp port, (ip, hostIp, port) ∈ server.endpoints → hostIp = ip ∧
      ∃ socket ∈ server.hostServer.wsClientSockets,
        socket.peerAddress = ip ∧ socket.peerPort = port) : server.TableMatches := by
  have hHandler : ∀ ip handler, (ip, handler) ∈ server.hostHandlers → handler.hostIp = ip ∧
      ∃ socket ∈ server.hostServer.wsClientSockets,
        socket.peerAddress = ip ∧ socket.peerPort = handler.hostPort := by
    intro ip handler hMem
    exact hPort ip handler.hostIp handler.hostPort (List.mem_map.mpr ⟨_, hMem, rfl⟩)
  refine ⟨fun ip => contains_iff_mem_endpoints.trans (hContains ip), hHandler, ?_⟩
  intro ip handler hMem
  obtain ⟨hIp, hSocket⟩ := hHandler ip handler hMem
  rw [VMTDHostServer.isSome_sendMessageSlot, hIp]
  exact hSocket

theorem TableMatches.endpoint (h : server.TableMatches) {ip hostIp : String} {port : Int}
    (hMem : (ip, hostIp, port) ∈ server.endpoints) : hostIp = ip ∧
      ∃ socket ∈ server.hostServer.wsClientSockets,
        socket.peerAddress = ip ∧ socket.peerPort = port := by
  obtain ⟨⟨key, handler⟩, hEntry, hEq⟩ := List.mem_map.mp hMem
  obtain ⟨rfl, hHost⟩ := Prod.mk.inj hEq
  obtain ⟨rfl, rfl⟩ := Prod.mk.inj hHost
  exact h.port _ _ hEntry

-- ---------------------------------------------------------------------------
-- Events
-- ---------------------------------------------------------------------------

/-- Slots that keep the hosts of the handlers keep the table. -/
theorem endpoints_modifyHandler {ip : String}
    {slot : VMTDHostProtocolHandler → VMTDHostProtocolHandler × List HostSignal}
    (hSlot : ∀ handler, (slot handler).1.endpoint = handler.endpoint) :
    (server.modifyHandler ip slot).1.endpoints = server.endpoints := by
  unfold endpoints modifyHandler
  rw [List.map_map]
  refine List.map_congr_left fun entry _ => ?_
  show ((if entry.1 = ip then (entry.1, (slot entry.2).1) else entry).1,
    (if entry.1 = ip then (entry.1, (slot entry.2).1) else entry).2.endpoint) = _
  split
  · rw [hSlot]
  · rfl

/-- Messages, requests and timers change no connection and no key. -/
theorem step_of_not_connection {event : ServerEvent}
    (hNew : ∀ ip port, event ≠ .newConnection ip port)
    (hGone : ∀ number, event ≠ .disconnected number) :
    (server.step fromJson event).hostServer = server.hostServer ∧
      (server.step fromJson event).endpoints = server.endpoints := by
  cases event with
  | newConnection ip port => exact absurd rfl (hNew ip port)
  | disconnected number => exact absurd rfl (hGone number)
  | textMessageReceived number data =>
    unfold step react
    dsimp only
    split
    · rename_i socket hSocket
      refine ⟨rfl, ?_⟩
      unfold endpoints textMessageReceivedSlot receiveMessage
      rw [List.map_map, List.map_map]
      refine List.map_congr_left fun entry _ => ?_
      exact congrArg (Prod.mk entry.1)
        (entry.2.endpoint_receiveMessageSlot fromJson socket.peerAddress socket.peerPort data)
    · exact ⟨rfl, rfl⟩
  | appendRequestList ip requests =>
    exact ⟨rfl, endpoints_modifyHandler fun handler =>
      handler.endpoint_appendRequestListSlot requests⟩
  | checkQueueTimer ip =>
    exact ⟨rfl, endpoints_modifyHandler fun handler => handler.endpoint_checkQueueTimerSlot⟩
  | ticketTimeout ip =>
    refine ⟨rfl, endpoints_modifyHandler fun handler => ?_⟩
    split <;> rfl
  | checkConnectionTimerTick =>
    refine ⟨rfl, ?_⟩
    show List.map _ (List.map _ server.hostHandlers) = _
    rw [List.map_map]
    refine List.map_congr_left fun entry _ => ?_
    exact congrArg (Prod.mk entry.1) (entry.2.endpoint_appendRequestListSlot _)

theorem hostServer_newConnectionSlot (ip : String) (port : Int) :
    (server.newConnectionSlot ip port).hostServer =
      { wsClientSockets :=
          server.hostServer.wsClientSockets ++ [⟨server.hostServer.nextNumber, ip, port⟩]
        nextNumber := server.hostServer.nextNumber + 1 } := by
  unfold newConnectionSlot clientConnectedSlot
  dsimp only
  split <;> rfl

/-- A new handler, unless the address has one. -/
theorem endpoints_newConnectionSlot (ip : String) (port : Int) :
    (server.newConnectionSlot ip port).endpoints =
      if server.contains ip then server.endpoints
      else server.endpoints ++ [(ip, ip, port)] := by
  have hContains : ∀ hostServer,
      contains { server with hostServer := hostServer } ip = server.contains ip := fun _ => rfl
  unfold newConnectionSlot clientConnectedSlot
  dsimp only
  rw [hContains]
  split
  · rfl
  · exact List.map_append

/-- The handler of the address goes, whatever socket it sends to. -/
theorem endpoints_disconnectedSlot (socket : QWebSocket) :
    (server.disconnectedSlot socket).endpoints =
      server.endpoints.filter fun entry => entry.1 != socket.peerAddress := by
  unfold endpoints
  rw [List.filter_map]
  rfl

/-- What an event does to the connections: a client connects, a socket goes, or
neither sockets nor handlers change. -/
theorem step_cases (fromJson : String → Option QJsonDocument) (server : VMTDServer)
    (event : ServerEvent) :
    (∃ ip port, event = .newConnection ip port ∧
      server.step fromJson event = server.newConnectionSlot ip port) ∨
    (∃ number socket, event = .disconnected number ∧ server.socket? number = some socket ∧
      server.step fromJson event = server.disconnectedSlot socket) ∨
    ((∀ ip port, event ≠ .newConnection ip port) ∧
      (∀ number, event = .disconnected number → server.socket? number = none) ∧
      (server.step fromJson event).hostServer = server.hostServer ∧
      (server.step fromJson event).endpoints = server.endpoints) := by
  by_cases hNew : ∃ ip port, event = .newConnection ip port
  · obtain ⟨ip, port, rfl⟩ := hNew
    exact Or.inl ⟨ip, port, rfl, rfl⟩
  by_cases hGone : ∃ number, event = .disconnected number
  · obtain ⟨number, rfl⟩ := hGone
    unfold step react
    dsimp only
    cases hSocket : server.socket? number with
    | none =>
      -- that socket went before
      refine Or.inr (Or.inr ⟨fun _ _ h => (nomatch h), ?_, rfl, rfl⟩)
      rintro _ ⟨⟩
      exact hSocket
    | some socket => exact Or.inr (Or.inl ⟨number, socket, rfl, hSocket, rfl⟩)
  · have hNew : ∀ ip port, event ≠ .newConnection ip port := fun ip port h => hNew ⟨ip, port, h⟩
    have hGone : ∀ number, event ≠ .disconnected number := fun number h => hGone ⟨number, h⟩
    exact Or.inr (Or.inr ⟨hNew, fun number h => absurd h (hGone number),
      step_of_not_connection hNew hGone⟩)

-- ---------------------------------------------------------------------------
-- What each event does to the match
-- ---------------------------------------------------------------------------

/-- A new connection keeps it: the address has a handler for an older socket, or
gets one for this socket. -/
theorem tableMatches_newConnectionSlot (hMatches : server.TableMatches) (ip : String)
    (port : Int) : (server.newConnectionSlot ip port).TableMatches := by
  have hOld : ∀ socket ∈ server.hostServer.wsClientSockets,
      socket ∈ (server.newConnectionSlot ip port).hostServer.wsClientSockets := by
    intro socket hMem
    rw [hostServer_newConnectionSlot]
    exact List.mem_append_left _ hMem
  have hNew : ⟨server.hostServer.nextNumber, ip, port⟩ ∈
      (server.newConnectionSlot ip port).hostServer.wsClientSockets := by
    rw [hostServer_newConnectionSlot]
    exact List.mem_append_right _ (List.mem_singleton.mpr rfl)
  have hEndpoints : ∀ entry, entry ∈ (server.newConnectionSlot ip port).endpoints ↔
      entry ∈ server.endpoints ∨ (server.contains ip = false ∧ entry = (ip, ip, port)) := by
    intro entry
    rw [endpoints_newConnectionSlot]
    split
    · rename_i hContains
      simp [hContains]
    · rename_i hContains
      simp [hContains]
  refine tableMatches_of_endpoints (fun ip' => ?_) fun ip' hostIp port' hMem => ?_
  · constructor
    · rintro ⟨endpoint, hMem⟩
      rcases (hEndpoints _).mp hMem with hMem | ⟨-, hEq⟩
      · obtain ⟨-, socket, hSocket, hIp, -⟩ := hMatches.endpoint hMem
        exact ⟨socket, hOld socket hSocket, hIp⟩
      · exact ⟨_, hNew, (Prod.mk.inj hEq).1.symm⟩
    · rintro ⟨socket, hSocket, rfl⟩
      rw [hostServer_newConnectionSlot] at hSocket
      rcases List.mem_append.mp hSocket with hSocket | hSocket
      · have hContains := (hMatches.contains_iff socket.peerAddress).mpr ⟨socket, hSocket, rfl⟩
        obtain ⟨endpoint, hMem⟩ := contains_iff_mem_endpoints.mp hContains
        exact ⟨endpoint, (hEndpoints _).mpr (Or.inl hMem)⟩
      · obtain rfl := List.mem_singleton.mp hSocket
        cases hContains : server.contains ip with
        | true =>
          obtain ⟨endpoint, hMem⟩ := contains_iff_mem_endpoints.mp hContains
          exact ⟨endpoint, (hEndpoints _).mpr (Or.inl hMem)⟩
        | false => exact ⟨(ip, port), (hEndpoints _).mpr (Or.inr ⟨hContains, rfl⟩)⟩
  · rcases (hEndpoints _).mp hMem with hMem | ⟨-, hEq⟩
    · obtain ⟨hHost, socket, hSocket, hAddress⟩ := hMatches.endpoint hMem
      exact ⟨hHost, socket, hOld socket hSocket, hAddress⟩
    · obtain ⟨rfl, hHost⟩ := Prod.mk.inj hEq
      obtain ⟨rfl, rfl⟩ := Prod.mk.inj hHost
      exact ⟨rfl, _, hNew, rfl, rfl⟩

/-- A disconnection keeps it exactly when it leaves no socket of that address
behind. -/
theorem tableMatches_disconnectedSlot_iff (hMatches : server.TableMatches)
    (hNumbered : server.hostServer.Numbered) (socket : QWebSocket) :
    (server.disconnectedSlot socket).TableMatches ↔
      ∀ other ∈ server.hostServer.wsClientSockets,
        other.peerAddress = socket.peerAddress → other = socket := by
  have hErase : ∀ other, other ∈ (server.disconnectedSlot socket).hostServer.wsClientSockets ↔
      other ≠ socket ∧ other ∈ server.hostServer.wsClientSockets := fun other =>
    hNumbered.nodup.mem_erase_iff
  have hEndpoints : ∀ ip endpoint, (ip, endpoint) ∈ (server.disconnectedSlot socket).endpoints ↔
      (ip, endpoint) ∈ server.endpoints ∧ ip ≠ socket.peerAddress := by
    intro ip endpoint
    rw [endpoints_disconnectedSlot, List.mem_filter, bne_iff_ne]
  constructor
  · -- another socket of the address would be left without a handler
    intro hMatches' other hOther hAddress
    by_contra hNe
    have hContains := (hMatches'.contains_iff other.peerAddress).mpr
      ⟨other, (hErase other).mpr ⟨hNe, hOther⟩, rfl⟩
    obtain ⟨endpoint, hMem⟩ := contains_iff_mem_endpoints.mp hContains
    exact ((hEndpoints _ _).mp hMem).2 hAddress
  · intro hOnly
    -- sockets of other addresses and their handlers stay
    have hKept : ∀ other ∈ server.hostServer.wsClientSockets,
        other.peerAddress ≠ socket.peerAddress →
          other ∈ (server.disconnectedSlot socket).hostServer.wsClientSockets := by
      intro other hOther hAddress
      exact (hErase other).mpr ⟨fun hEq => hAddress (hEq ▸ rfl), hOther⟩
    refine tableMatches_of_endpoints (fun ip => ?_) fun ip hostIp port hMem => ?_
    · constructor
      · rintro ⟨endpoint, hMem⟩
        obtain ⟨hMem, hIp⟩ := (hEndpoints _ _).mp hMem
        obtain ⟨-, other, hOther, rfl, -⟩ := hMatches.endpoint hMem
        exact ⟨other, hKept other hOther hIp, rfl⟩
      · rintro ⟨other, hOther, rfl⟩
        obtain ⟨hNe, hOther⟩ := (hErase other).mp hOther
        have hContains := (hMatches.contains_iff other.peerAddress).mpr ⟨other, hOther, rfl⟩
        obtain ⟨endpoint, hMem⟩ := contains_iff_mem_endpoints.mp hContains
        exact ⟨endpoint, (hEndpoints _ _).mpr ⟨hMem, fun hIp => hNe (hOnly other hOther hIp)⟩⟩
    · obtain ⟨hMem, hIp⟩ := (hEndpoints _ _).mp hMem
      obtain ⟨hHost, other, hOther, rfl, hPort⟩ := hMatches.endpoint hMem
      exact ⟨hHost, other, hKept other hOther hIp, rfl, hPort⟩

-- ---------------------------------------------------------------------------
-- Runs
-- ---------------------------------------------------------------------------

/-- What holds between events as long as disconnections leave no socket
behind. -/
structure Settled (server : VMTDServer) : Prop where
  tableMatches : server.TableMatches
  numbered : server.hostServer.Numbered

theorem TableMatches.congr {server' : VMTDServer} (hMatches : server.TableMatches)
    (hHost : server'.hostServer = server.hostServer)
    (hEndpoints : server'.endpoints = server.endpoints) : server'.TableMatches := by
  refine tableMatches_of_endpoints (fun ip => ?_) fun ip hostIp port hMem => ?_
  · rw [hEndpoints, hHost, ← contains_iff_mem_endpoints]
    exact hMatches.contains_iff ip
  · rw [hEndpoints] at hMem
    rw [hHost]
    exact hMatches.endpoint hMem

theorem onlySocket_of_eq_none {event : ServerEvent}
    (hGone : ∀ number, event = .disconnected number → server.socket? number = none) :
    server.OnlySocket event := by
  cases event with
  | disconnected number =>
    intro socket hSocket
    rw [hGone number rfl] at hSocket
    exact nomatch hSocket
  | newConnection | textMessageReceived | appendRequestList | checkQueueTimer | ticketTimeout
  | checkConnectionTimerTick => exact trivial

/-- One event on a settled server. -/
theorem tableMatches_step_iff (hSettled : server.Settled) (event : ServerEvent) :
    (server.step fromJson event).TableMatches ↔ server.OnlySocket event := by
  rcases step_cases fromJson server event with ⟨ip, port, rfl, hStep⟩ |
    ⟨number, socket, rfl, hSocket, hStep⟩ | ⟨-, hGone, hHost, hEndpoints⟩
  · rw [hStep]
    exact iff_of_true (tableMatches_newConnectionSlot hSettled.tableMatches ip port) trivial
  · rw [hStep]
    refine (tableMatches_disconnectedSlot_iff hSettled.tableMatches hSettled.numbered
      socket).trans ?_
    constructor
    · intro hOnly other hOther
      obtain rfl := Option.some.inj (hSocket.symm.trans hOther)
      exact hOnly
    · exact fun hOnly => hOnly socket hSocket
  · exact iff_of_true (hSettled.tableMatches.congr hHost hEndpoints) (onlySocket_of_eq_none hGone)

/-- Sockets stay numbered. -/
theorem numbered_step (hNumbered : server.hostServer.Numbered) (event : ServerEvent) :
    (server.step fromJson event).hostServer.Numbered := by
  rcases step_cases fromJson server event with ⟨ip, port, -, hStep⟩ |
    ⟨number, socket, -, -, hStep⟩ | ⟨-, -, hHost, -⟩
  · rw [hStep, hostServer_newConnectionSlot]
    refine ⟨fun socket hSocket => ?_, ?_⟩
    · rcases List.mem_append.mp hSocket with hSocket | hSocket
      · exact Nat.lt_succ_of_lt (hNumbered.lt socket hSocket)
      · rw [List.mem_singleton.mp hSocket]
        exact Nat.lt_succ_self _
    · -- the new number is not in use
      rw [← List.concat_eq_append]
      exact List.Nodup.concat (fun hMem => Nat.lt_irrefl _ (hNumbered.lt _ hMem)) hNumbered.nodup
  · rw [hStep]
    exact ⟨fun other hOther => hNumbered.lt other (List.mem_of_mem_erase hOther),
      hNumbered.nodup.erase socket⟩
  · rw [hHost]
    exact hNumbered

end VMTDServer

/-- **The handlers match the connections**, exactly: after every event of a run
they do, if and only if each socket reported disconnected is the only one of its
address. -/
theorem tableMatches_iff (fromJson : String → Option QJsonDocument)
    (events : List ServerEvent) :
    Along (VMTDServer.step fromJson)
        (fun server event => (server.step fromJson event).TableMatches) {} events ↔
      Along (VMTDServer.step fromJson) VMTDServer.OnlySocket {} events := by
  have hStart : VMTDServer.Settled {} := by
    refine ⟨VMTDServer.tableMatches_of_endpoints (fun ip => ?_) ?_, ?_, List.nodup_nil⟩
    · exact iff_of_false (fun ⟨_, hMem⟩ => List.not_mem_nil hMem)
        fun ⟨_, hMem, _⟩ => List.not_mem_nil hMem
    · exact fun ip hostIp port hMem => absurd hMem List.not_mem_nil
    · exact fun socket hMem => absurd hMem List.not_mem_nil
  refine along_iff_of_invariant hStart ?_ ?_
  · exact fun server event hSettled => VMTDServer.tableMatches_step_iff hSettled event
  · intro server event hSettled hOnly
    exact ⟨(VMTDServer.tableMatches_step_iff hSettled event).mpr hOnly,
      VMTDServer.numbered_step hSettled.numbered event⟩

/-- A client is back on a new port before its old socket is reported: the
report removes the handler of the new connection. -/
theorem reconnected_client_has_no_handler :
    ¬ ∀ (fromJson : String → Option QJsonDocument) (events : List ServerEvent),
        Along (VMTDServer.step fromJson)
          (fun server event => (server.step fromJson event).TableMatches) {} events := by
  intro hClaim
  have hRun := hClaim (fun _ => none)
    [.newConnection "10.0.0.1" 40001, .newConnection "10.0.0.1" 40002, .disconnected 0]
  have hContains := (hRun.2.2.1.contains_iff "10.0.0.1").mpr
    ⟨⟨1, "10.0.0.1", 40002⟩, by decide +kernel, rfl⟩
  exact absurd hContains (by decide +kernel)

end VxlanMtd
