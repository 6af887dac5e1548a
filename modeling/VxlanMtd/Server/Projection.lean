import VxlanMtd.Server.Connections
import VxlanMtd.Server.TicketTimers
import VxlanMtd.Lib.Table

/-!
# One handler among many

The handlers of a server do not know of each other: what the server is told
comes down to what each of them is told (`told`).

* `react_eq` — an event that is no connection is handled by every handler on
  its own (`each`);
* `wellKeyed_step` — every address has one handler at most, which sends to it;
* **`handler_projects`** — a handler in a server, while its address stays
  connected, is a handler by itself that is told the same.
-/

namespace VxlanMtd

open EventRun VMTDHostProtocolHandler

namespace VMTDServer

/-- What an event tells the handler of an address. -/
def told (server : VMTDServer) (ip : String) : ServerEvent → Option HostEvent
  | .newConnection _ _ => none
  | .disconnected _ => none
  | .textMessageReceived number data =>
    (server.socket? number).map fun socket =>
      .messageReceived socket.peerAddress socket.peerPort data
  | .appendRequestList ip' requests => if ip = ip' then some (.appendRequestList requests) else none
  | .checkQueueTimer ip' => if ip = ip' then some .checkQueueTimer else none
  | .ticketTimeout ip' => if ip = ip' then some .ticketTimeout else none
  | .checkConnectionTimerTick => some .checkConnection

/-- Every handler does something, by itself. -/
def each (slot : String → VMTDHostProtocolHandler → VMTDHostProtocolHandler × List HostSignal)
    (server : VMTDServer) : VMTDServer × List HostSignal :=
  ({ server with
      hostHandlers := server.hostHandlers.map fun entry => (entry.1, (slot entry.1 entry.2).1) },
    server.hostHandlers.flatMap fun entry => (slot entry.1 entry.2).2)

/-- What a handler makes of what it is told, if anything. -/
def reactTo (fromJson : String → Option QJsonDocument) (handler : VMTDHostProtocolHandler) :
    Option HostEvent → VMTDHostProtocolHandler × List HostSignal
  | some event => handler.react fromJson event
  | none => (handler, [])

/-- No socket comes or goes. -/
def KeepsSockets : ServerEvent → Prop
  | .newConnection _ _ => False
  | .disconnected _ => False
  | _ => True

variable {fromJson : String → Option QJsonDocument} {server : VMTDServer}

/-- A slot of one handler. -/
theorem modifyHandler_eq (ip : String)
    (slot : VMTDHostProtocolHandler → VMTDHostProtocolHandler × List HostSignal) :
    server.modifyHandler ip slot =
      server.each fun key handler => if key = ip then slot handler else (handler, []) := by
  have hEntry : ∀ entry : String × VMTDHostProtocolHandler,
      (if entry.1 = ip then (entry.1, (slot entry.2).1) else entry) =
          (entry.1, (if entry.1 = ip then slot entry.2 else (entry.2, [])).1) ∧
        (if entry.1 = ip then (slot entry.2).2 else []) =
          (if entry.1 = ip then slot entry.2 else (entry.2, [])).2 := by
    intro entry
    by_cases hKey : entry.1 = ip <;> simp [hKey]
  unfold modifyHandler each
  rw [List.map_congr_left fun entry _ => (hEntry entry).1,
    List.flatMap_congr fun entry _ => (hEntry entry).2]

/-- A reaction of one handler, as one of each. -/
theorem modifyHandler_react (ip : String) (event : HostEvent) :
    server.modifyHandler ip (fun handler => handler.react fromJson event) =
      server.each fun key handler =>
        reactTo fromJson handler (if key = ip then some event else none) := by
  rw [modifyHandler_eq]
  congr 1
  funext key handler
  by_cases hKey : key = ip
  · rw [if_pos hKey, if_pos hKey]
    rfl
  · rw [if_neg hKey, if_neg hKey]
    rfl

/-- **Every handler on its own.** -/
theorem react_eq (server : VMTDServer) {event : ServerEvent} (h : KeepsSockets event) :
    server.react fromJson event =
      server.each fun ip handler => reactTo fromJson handler (server.told ip event) := by
  cases event with
  | newConnection | disconnected => exact h.elim
  | textMessageReceived number data =>
    unfold react told
    dsimp only
    cases server.socket? number with
    | none => simp [reactTo, each]
    | some socket =>
      unfold textMessageReceivedSlot receiveMessage
      dsimp only
      rw [List.map_map, List.flatMap_map]
      rfl
  | appendRequestList ip requests => exact modifyHandler_react ip (.appendRequestList requests)
  | checkQueueTimer ip => exact modifyHandler_react ip .checkQueueTimer
  | ticketTimeout ip => exact modifyHandler_react ip .ticketTimeout
  | checkConnectionTimerTick =>
    have hSilent : (server.hostHandlers.flatMap fun entry =>
        (reactTo fromJson entry.2 (server.told entry.1 .checkConnectionTimerTick)).2) = [] :=
      List.flatMap_eq_nil_iff.mpr fun _ _ => rfl
    rw [each, hSilent]
    rfl

-- ---------------------------------------------------------------------------
-- Keys
-- ---------------------------------------------------------------------------

/-- Every address has one handler at most, which is that of the address. -/
structure WellKeyed (server : VMTDServer) : Prop where
  nodup : (server.hostHandlers.map Prod.fst).Nodup
  own : ∀ entry ∈ server.hostHandlers, entry.2.hostIp = entry.1

theorem map_fst_endpoints (server : VMTDServer) :
    server.endpoints.map Prod.fst = server.hostHandlers.map Prod.fst := by
  rw [endpoints, List.map_map]
  rfl

/-- Keys and hosts are all that matters. -/
theorem wellKeyed_of_endpoints (hNodup : (server.endpoints.map Prod.fst).Nodup)
    (hOwn : ∀ ip endpoint, (ip, endpoint) ∈ server.endpoints → endpoint.1 = ip) :
    server.WellKeyed where
  nodup := map_fst_endpoints server ▸ hNodup
  own entry hEntry := hOwn entry.1 entry.2.endpoint (List.mem_map.mpr ⟨entry, hEntry, rfl⟩)

theorem WellKeyed.endpoint (h : server.WellKeyed) {ip : String} {endpoint : String × Int}
    (hMem : (ip, endpoint) ∈ server.endpoints) : endpoint.1 = ip := by
  obtain ⟨entry, hEntry, hEq⟩ := List.mem_map.mp hMem
  obtain ⟨rfl, rfl⟩ := Prod.mk.inj hEq
  exact h.own entry hEntry

/-- Handlers that keep their hosts keep their addresses. -/
theorem WellKeyed.each (h : server.WellKeyed)
    {slot : String → VMTDHostProtocolHandler → VMTDHostProtocolHandler × List HostSignal}
    (hSlot : ∀ key handler, (slot key handler).1.hostIp = handler.hostIp) :
    (server.each slot).1.WellKeyed where
  nodup := by
    have hKeys : (server.each slot).1.hostHandlers.map Prod.fst =
        server.hostHandlers.map Prod.fst := List.map_map
    rw [hKeys]
    exact h.nodup
  own entry hEntry := by
    obtain ⟨old, hOld, rfl⟩ := List.mem_map.mp hEntry
    exact (hSlot old.1 old.2).trans (h.own old hOld)

theorem wellKeyed_empty : WellKeyed {} :=
  ⟨List.nodup_nil, fun _ hMem => absurd hMem List.not_mem_nil⟩

theorem wellKeyed_step (h : server.WellKeyed) (event : ServerEvent) :
    (server.step fromJson event).WellKeyed := by
  have hNodup := map_fst_endpoints server ▸ h.nodup
  rcases step_cases fromJson server event with ⟨ip, port, -, hStep⟩ |
    ⟨number, socket, -, -, hStep⟩ | ⟨-, -, -, hEndpoints⟩
  · have hNew := @endpoints_newConnectionSlot server ip port
    rw [hStep]
    by_cases hContains : server.contains ip = true
    · rw [if_pos hContains] at hNew
      exact wellKeyed_of_endpoints (hNew ▸ hNodup) fun ip' endpoint hMem =>
        h.endpoint (hNew ▸ hMem)
    · rw [if_neg hContains] at hNew
      refine wellKeyed_of_endpoints ?_ fun ip' endpoint hMem => ?_
      · rw [hNew, List.map_append, List.map_singleton, ← List.concat_eq_append]
        refine List.Nodup.concat (fun hMem => hContains ?_) hNodup
        obtain ⟨entry, hEntry, hEq⟩ := List.mem_map.mp hMem
        obtain ⟨key, endpoint⟩ := entry
        obtain rfl : key = ip := hEq
        exact contains_iff_mem_endpoints.mpr ⟨endpoint, hEntry⟩
      · rw [hNew] at hMem
        rcases List.mem_append.mp hMem with hMem | hMem
        · exact h.endpoint hMem
        · obtain ⟨rfl, rfl⟩ := Prod.mk.inj (List.mem_singleton.mp hMem)
          rfl
  · rw [hStep]
    have hLess := @endpoints_disconnectedSlot server socket
    refine wellKeyed_of_endpoints ?_ fun ip endpoint hMem => ?_
    · rw [hLess]
      exact hNodup.sublist (List.filter_sublist.map _)
    · rw [hLess] at hMem
      exact h.endpoint (List.mem_of_mem_filter hMem)
  · exact wellKeyed_of_endpoints (hEndpoints ▸ hNodup) fun ip endpoint hMem =>
      h.endpoint (hEndpoints ▸ hMem)

-- ---------------------------------------------------------------------------
-- Runs
-- ---------------------------------------------------------------------------

/-- No socket of the address is reported disconnected. -/
def Stays (ip : String) (server : VMTDServer) : ServerEvent → Prop
  | .disconnected number =>
    ∀ socket, server.socket? number = some socket → socket.peerAddress ≠ ip
  | _ => True

/-- What the handler of an address is told in a run. -/
def toldIn (fromJson : String → Option QJsonDocument) (ip : String) :
    VMTDServer → List ServerEvent → List HostEvent
  | _, [] => []
  | server, event :: events =>
    (server.told ip event).toList ++ toldIn fromJson ip (server.step fromJson event) events

/-- One event. -/
theorem lookup_step {ip : String} {handler : VMTDHostProtocolHandler}
    (h : server.hostHandlers.lookup ip = some handler) {event : ServerEvent}
    (hStays : server.Stays ip event) :
    (server.step fromJson event).hostHandlers.lookup ip =
      some (reactTo fromJson handler (server.told ip event)).1 := by
  by_cases hKeeps : KeepsSockets event
  · rw [step, react_eq server hKeeps]
    refine (Table.lookup_map_key
      (fun key handler => (reactTo fromJson handler (server.told key event)).1)
      server.hostHandlers ip).trans ?_
    rw [h]
    rfl
  · cases event with
    | newConnection ip' port =>
      show (server.newConnectionSlot ip' port).hostHandlers.lookup ip = some handler
      unfold newConnectionSlot clientConnectedSlot
      dsimp only
      split
      · exact h
      · rw [List.lookup_append, h]
        rfl
    | disconnected number =>
      unfold step react told
      dsimp only
      cases hSocket : server.socket? number with
      | none => exact h
      | some socket =>
        have hOther := hStays socket hSocket
        exact (Table.lookup_filter_ne hOther server.hostHandlers).trans h
    | textMessageReceived | appendRequestList | checkQueueTimer | ticketTimeout
    | checkConnectionTimerTick => exact absurd trivial hKeeps

end VMTDServer

/-- **A handler among others** is a handler by itself: while no socket of its
address is reported disconnected, its state in a run of the server is that of a
single handler that is told what the events come down to. Nobody clears a queue
in these runs, that is no event of the server. -/
theorem handler_projects (fromJson : String → Option QJsonDocument) {server : VMTDServer}
    {ip : String} {handler : VMTDHostProtocolHandler}
    (h : server.hostHandlers.lookup ip = some handler) {events : List ServerEvent}
    (hStays : Along (VMTDServer.step fromJson) (VMTDServer.Stays ip) server events) :
    (run (VMTDServer.step fromJson) server events).hostHandlers.lookup ip =
      some (run (VMTDHostProtocolHandler.step fromJson) handler
        (server.toldIn fromJson ip events)) := by
  induction events generalizing server handler with
  | nil => exact h
  | cons event events ih =>
    obtain ⟨hFirst, hRest⟩ := hStays
    rw [run_cons, ih (VMTDServer.lookup_step h hFirst) hRest, VMTDServer.toldIn, run_append]
    cases server.told ip event with
    | none => rfl
    | some hostEvent => rfl

/-- Two hosts, one of which goes: the handler of the other. -/
theorem handler_projects_two :
    (run (VMTDServer.step fun _ => none)
        (run (VMTDServer.step fun _ => none) {} [.newConnection "10.0.0.1" 30001])
        [.newConnection "10.0.0.2" 30002, .checkConnectionTimerTick, .checkQueueTimer "10.0.0.1",
          .disconnected 1, .ticketTimeout "10.0.0.1"]).hostHandlers.lookup "10.0.0.1" =
      some (run (VMTDHostProtocolHandler.step fun _ => none)
        { hostIp := "10.0.0.1", hostPort := 30001 }
        (VMTDServer.toldIn (fun _ => none) "10.0.0.1"
          (run (VMTDServer.step fun _ => none) {} [.newConnection "10.0.0.1" 30001])
          [.newConnection "10.0.0.2" 30002, .checkConnectionTimerTick, .checkQueueTimer "10.0.0.1",
            .disconnected 1, .ticketTimeout "10.0.0.1"])) := by
  refine handler_projects _ rfl ⟨trivial, trivial, trivial, fun socket hSocket => ?_, trivial,
    trivial⟩
  obtain rfl := Option.some.inj hSocket
  decide

end VxlanMtd
