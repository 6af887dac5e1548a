import VxlanMtd.Network.Convergence
import VxlanMtd.Network.Loop
import VxlanMtd.Server.FleetProgress

/-!
# The loop delivers

A reconfiguration in the whole loop: the engine emits, the server queues and
sends, the hosts execute and apply, and packets find their way.

* `Fleet.Alone` — nothing is on its way to a host over any other connection, so
  it executes what it is sent in order (`executing_alone`);
* `gathered_applying` — what a host applies in a run, whatever its watchdog does;
* `eventually_applied` — it ends with what it was asked for last;
* **`loop_delivers`** — so every participant finds and reaches every other in the
  end.
-/

namespace VxlanMtd

open EventRun Progress Tally VMTDHostProtocolHandler

-- ---------------------------------------------------------------------------
-- A host with one connection
-- ---------------------------------------------------------------------------

namespace Fleet

variable {fromJson : String → Option QJsonDocument} {fleet : Fleet} {ip : String} {port : Int}
  {number : Nat} {connections : List Connection}

/-- Nothing is on its way to the address over another connection. -/
def Alone (ip : String) (number : Nat) (connections : List Connection) : Prop :=
  ∀ n connection, connections[n]? = some connection → connection.socket.peerAddress = ip →
    n ≠ number → connection.toClient.inFlight = []

theorem Alone.modify (h : Alone ip number connections) {n : Nat}
    {change : Connection → Connection}
    (hSocket : ∀ connection, (change connection).socket = connection.socket)
    (hEmpty : ∀ connection, connections[n]? = some connection →
      connection.socket.peerAddress = ip → n ≠ number → connection.toClient.inFlight = [] →
        (change connection).toClient.inFlight = []) :
    Alone ip number (connections.modify n change) := by
  intro n' connection hGet hAddress hOther
  rw [List.getElem?_modify] at hGet
  obtain ⟨old, hOld, rfl⟩ := Option.map_eq_some_iff.mp hGet
  by_cases hSame : n = n'
  · subst hSame
    rw [if_pos rfl] at hAddress ⊢
    rw [hSocket] at hAddress
    exact hEmpty old hOld hAddress hOther (h n old hOld hAddress hOther)
  · rw [if_neg hSame] at hAddress ⊢
    exact h n' old hOld hAddress hOther

/-- **Messages** for the host go over its connection. -/
theorem Alone.foldl_send {server : VMTDServer} (h : Alone ip number connections)
    (hSockets : HasSockets server connections)
    (hSocket : server.hostServer.sendMessageSlot ip port = some ⟨number, ip, port⟩)
    {signals : List HostSignal}
    (hPort : ∀ {hostPort data}, .sendMessage ip hostPort data ∈ signals → hostPort = port) :
    Alone ip number (signals.foldl (Fleet.send server) connections) := by
  induction signals generalizing connections with
  | nil => exact h
  | cons signal signals ih =>
    have hKept : HasSockets server (Fleet.send server connections signal) := by
      intro socket hMem
      rw [map_socket_send]
      exact hSockets socket hMem
    refine ih ?_ hKept fun hMem => hPort (List.mem_cons_of_mem _ hMem)
    cases signal with
    | updateIpOnline | handleResult => exact h
    | sendMessage hostIp hostPort data =>
      unfold Fleet.send
      dsimp only
      cases hSend : server.hostServer.sendMessageSlot hostIp hostPort with
      | none => exact h
      | some socket =>
        obtain ⟨hMem, rfl, rfl⟩ := sendMessageSlot_eq_some hSend
        refine h.modify (fun _ => rfl) fun connection hGet hAddress hOther _ => ?_
        -- a socket of the address would be that of the connection
        have hThis := hSockets socket hMem
        rw [List.getElem?_map, hGet] at hThis
        obtain rfl := Option.some.inj hThis
        subst hAddress
        obtain rfl := hPort List.mem_cons_self
        rw [hSocket] at hSend
        exact absurd (congrArg QWebSocket.number (Option.some.inj hSend)).symm hOther

theorem alone_step (h : fleet.Ready ip port number) (hAlone : Alone ip number fleet.connections)
    (event : FleetEvent) : Alone ip number (fleet.step fromJson event).connections := by
  cases event with
  | server event =>
    by_cases hKeeps : VMTDServer.KeepsSockets event
    · rw [connections_of_keepsSockets fromJson fleet hKeeps]
      refine hAlone.foldl_send h.conserved.sockets h.linked.socket fun {hostPort data} hMem => ?_
      -- the message comes from the handler of the address
      obtain ⟨handler, hLookup, hPort⟩ := h.linked.handler
      rw [VMTDServer.react_eq _ hKeeps] at hMem
      obtain ⟨entry, hEntry, hMem⟩ := List.mem_flatMap.mp hMem
      obtain ⟨hIp, rfl⟩ := VMTDServer.endpoint_of_mem_reactTo hMem
      have hKey : entry.1 = ip := (h.conserved.keyed.own entry hEntry).symm.trans hIp.symm
      have hOwn := (Table.lookup_eq_some_iff_mem h.conserved.keyed.nodup).mpr hEntry
      rw [hKey, hLookup] at hOwn
      rw [← Option.some.inj hOwn]
      exact hPort
    · cases event with
      | newConnection ip' port' =>
        intro n connection hGet hAddress hOther
        have hGet' : (fleet.connections ++ [_])[n]? = some connection := hGet
        rcases Nat.lt_or_ge n fleet.connections.length with hLess | hMore
        · rw [List.getElem?_append_left hLess] at hGet'
          exact hAlone n connection hGet' hAddress hOther
        · rw [List.getElem?_append_right hMore] at hGet'
          obtain rfl := List.mem_singleton.mp (List.mem_of_getElem? hGet')
          rfl
      | disconnected n =>
        rw [connections_disconnected]
        exact hAlone.modify (fun _ => rfl) fun _ _ _ _ hNone => hNone
      | textMessageReceived | appendRequestList | checkQueueTimer | ticketTimeout
      | checkConnectionTimerTick => exact absurd trivial hKeeps
  | clearQueue ip' => exact hAlone
  | arrivesAtHost number' =>
    rcases step_arrivesAtHost fromJson fleet number' with ⟨-, hStep⟩ |
      ⟨connection, document, toClient, reply, hGet, hReceive, hStep⟩
    · rw [hStep]
      exact hAlone
    · rw [hStep]
      refine hAlone.modify (fun _ => rfl) fun old hOld _ _ hNone => ?_
      obtain rfl := Option.some.inj (hGet.symm.trans hOld)
      rw [Channel.inFlight_receive hReceive] at hNone
      exact absurd hNone (List.cons_ne_nil _ _)
  | arrivesAtServer number' =>
    unfold step
    dsimp only
    split
    · exact hAlone
    · split
      · exact hAlone
      · exact hAlone.modify (fun _ => rfl) fun _ _ _ _ hNone => hNone
  | breaks number' keepToClient keepToServer =>
    refine hAlone.modify (fun _ => rfl) fun connection _ _ _ hNone => ?_
    show connection.toClient.inFlight.take keepToClient = []
    rw [hNone, List.take_nil]
  | alertsWritten | fileChanged | delayTimerTick => exact hAlone

/-- **In order**: all a host with one connection executes is what arrives over
it. -/
theorem executing_alone (h : fleet.Ready ip port number)
    (hAlone : Alone ip number fleet.connections) (event : FleetEvent) :
    (under ip (fleet.executing event)).flatten = acceptedCalls (fleet.arriving number event) := by
  cases event with
  | arrivesAtHost number' =>
    unfold arriving
    dsimp only
    split
    · next hNumber =>
      rw [hNumber, executing_arrivesAtHost h.conserved h.linked, under_map,
        ← acceptedCalls_eq_flatten]
    · next hNumber =>
      unfold executing
      dsimp only
      cases hGet : fleet.connections[number']? with
      | none => rfl
      | some connection =>
        rw [Option.bind_some]
        by_cases hAddress : connection.socket.peerAddress = ip
        · have hNone : connection.toClient.receive = none := by
            rw [Channel.receive, hAlone number' connection hGet hAddress hNumber]
          rw [hNone]
          rfl
        · cases connection.toClient.receive with
          | none => rfl
          | some received =>
            have hOther : under ip [(connection.socket.peerAddress,
                (VxlanMtd.executed (responses received.1)).map call)] = [] := by
              rw [under_eq_filter, List.filter_cons_of_neg (by simpa using hAddress)]
              rfl
            exact congrArg List.flatten hOther
  | server | clearQueue | arrivesAtServer | breaks | alertsWritten | fileChanged
  | delayTimerTick => rfl

/-- A host in a run that has one connection only. -/
theorem Fair.alone_states {initial : Fleet} {events : ℕ → FleetEvent}
    (hFair : Fair fromJson ip port number initial events) (hReady : initial.Ready ip port number)
    (hAlone : Alone ip number initial.connections) (n : ℕ) :
    Alone ip number (states (step fromJson) initial events n).connections := by
  induction n with
  | zero => exact hAlone
  | succ n ih => exact alone_step (hFair.ready_states hReady n) ih (events n)

/-- **What a host executes in the end**: what was due, and connection checks. -/
theorem Fair.eventually_executed {initial : Fleet} {events : ℕ → FleetEvent}
    (hFair : Fair fromJson ip port number initial events) (hReady : initial.Ready ip port number)
    (hAlone : Alone ip number initial.connections) (hQuiet : ∀ n, (events n).isAsking = false) :
    ∃ n, ∀ m ≥ n, ∃ checks,
      (under ip (gathered (fun i =>
        (states (step fromJson) initial events i).executing (events i)) m)).flatten =
          initial.due ip number ++ checks ∧
      ∀ called ∈ checks, called = (EnName.checkConnection.text, []) := by
  have hExecuted : ∀ m, (under ip (gathered (fun i =>
      (states (step fromJson) initial events i).executing (events i)) m)).flatten =
        acceptedCalls ((hFair.link hReady).delivered m) := by
    intro m
    induction m with
    | zero => rfl
    | succ m ih =>
      have hDelivered : (hFair.link hReady).delivered (m + 1) =
          (hFair.link hReady).delivered m ++
            (states (step fromJson) initial events m).arriving number (events m) := gathered_succ m
      rw [hDelivered, acceptedCalls_append, gathered_succ, under_append, List.flatten_append, ih,
        executing_alone (hFair.ready_states hReady m) (hFair.alone_states hReady hAlone m)]
  obtain ⟨k, -, hArrived⟩ := Link.covers_pending (hFair.lively hReady) 0
  refine ⟨k, fun m hm => ?_⟩
  -- what was due has arrived, and the rest is part of what was asked for since
  obtain ⟨rest, hRest⟩ := hArrived.trans ((hFair.link hReady).grows.mono hm)
  have hDue : acceptedCalls ((hFair.link hReady).pending 0) = initial.due ip number := rfl
  have hWithin := @Link.delivered_within _ (hFair.link hReady) m
  rw [hExecuted, ← hRest, acceptedCalls_append, hDue]
  refine ⟨_, rfl, fun called hCalled => ?_⟩
  obtain ⟨later, hLater⟩ := hWithin
  have hPending := hFair.calls_pending hReady m
  rw [← hLater, ← hRest, acceptedCalls_append, acceptedCalls_append, hDue,
    List.append_assoc] at hPending
  have hMem : called ∈ acceptedCalls rest ++ acceptedCalls later :=
    List.mem_append_left _ hCalled
  rw [List.append_cancel_left hPending] at hMem
  obtain ⟨requests, hRequests, hIn⟩ := List.mem_flatten.mp (List.mem_of_mem_filter hMem)
  obtain ⟨entry, hEntry, hUnder⟩ := List.mem_filterMap.mp hRequests
  obtain ⟨i, -, hAsking⟩ := List.mem_flatMap.mp hEntry
  have hCheck := checks_of_quiet (hQuiet i) entry hAsking
  split at hUnder
  · obtain rfl := Option.some.inj hUnder
    rw [hCheck] at hIn
    exact List.mem_singleton.mp hIn
  · cases hUnder

end Fleet

-- ---------------------------------------------------------------------------
-- What is applied
-- ---------------------------------------------------------------------------

/-- A configurator but for its watchdog. -/
def VMTDConfigurator.texts (configurator : VMTDConfigurator) : VMTDConfigurator :=
  { configurator with watchdog := {} }

/-- A call does not depend on the watchdog, but for its result. -/
theorem handleMethodSlot_texts (method : String) (params : QJsonObject)
    (configurator : VMTDConfigurator) :
    (configurator.texts.handleMethodSlot method params).configurator.texts =
        (configurator.handleMethodSlot method params).configurator.texts ∧
      (configurator.texts.handleMethodSlot method params).application =
        (configurator.handleMethodSlot method params).application := by
  by_cases hName : ∃ name : EnName, method = name.text
  · obtain ⟨name, rfl⟩ := hName
    rw [VMTDConfigurator.handleMethodSlot_text, VMTDConfigurator.handleMethodSlot_text]
    cases name <;> exact ⟨rfl, rfl⟩
  · have hUnknown : ∀ configurator : VMTDConfigurator,
        configurator.handleMethodSlot method params = ⟨.bool false, configurator, none⟩ :=
      fun configurator => (configurator.handleMethodSlot_cases method params).resolve_left hName
    rw [hUnknown, hUnknown]
    exact ⟨rfl, rfl⟩

theorem texts_foldl_execute (requests : RequestList) {configurator other : VMTDConfigurator}
    (h : configurator.texts = other.texts) :
    (requests.foldl execute configurator).texts = (requests.foldl execute other).texts := by
  induction requests generalizing configurator other with
  | nil => exact h
  | cons called requests ih =>
    refine ih ?_
    rw [execute, execute, ← (handleMethodSlot_texts called.1 called.2 configurator).1, h,
      (handleMethodSlot_texts called.1 called.2 other).1]

theorem applied_texts (requests : RequestList) {configurator other : VMTDConfigurator}
    (h : configurator.texts = other.texts) :
    applied requests configurator = applied requests other := by
  induction requests generalizing configurator other with
  | nil => rfl
  | cons called requests ih =>
    have hNext : (execute configurator called).texts = (execute other called).texts :=
      texts_foldl_execute [called] h
    rw [applied, applied, ih hNext, ← (handleMethodSlot_texts called.1 called.2 configurator).2, h,
      (handleMethodSlot_texts called.1 called.2 other).2]

/-- The watchdog changes nothing else. -/
theorem AlertNode.texts_step (node : AlertNode) {event : AlertEvent}
    (h : ∀ method params, event ≠ .methodCalled method params) :
    (node.step event).configurator.texts = node.configurator.texts := by
  have hRecord : ∀ (node : AlertNode) (ips : Option (List String)),
      (node.record ips).configurator = node.configurator := fun node ips => by
    cases ips <;> rfl
  cases event with
  | alertsWritten => rfl
  | fileChanged =>
    unfold step
    dsimp only
    rw [hRecord]
    rfl
  | delayTimerTick =>
    unfold step
    dsimp only
    split
    · rw [hRecord]
      rfl
    · rfl
  | methodCalled method params => exact absurd rfl (h method params)

namespace Fleet

variable {fromJson : String → Option QJsonDocument} {fleet : Fleet}

/-- The configurations that the host of an address applies at an event. -/
def applying (ip : String) (fleet : Fleet) : FleetEvent → List Application
  | .arrivesAtHost number =>
    match fleet.connections[number]? with
    | none => []
    | some connection =>
      match connection.toClient.receive with
      | none => []
      | some (document, _) =>
        if connection.socket.peerAddress = ip then
          (replyTo document (fleet.hosts ip).configurator).2.2
        else []
  | _ => []

/-- **One event** of a host: what it applies, and the texts it has afterwards. -/
theorem applying_step (fromJson : String → Option QJsonDocument) (fleet : Fleet)
    (event : FleetEvent) (ip : String) :
    fleet.applying ip event =
        applied (under ip (fleet.executing event)).flatten (fleet.hosts ip).configurator ∧
      ((fleet.step fromJson event).hosts ip).configurator.texts =
        ((under ip (fleet.executing event)).flatten.foldl execute
          (fleet.hosts ip).configurator).texts := by
  have hOwn : ∀ (ip' : String) (event : AlertEvent),
      (∀ method params, event ≠ .methodCalled method params) →
        ((fleet.withHost ip' event).hosts ip).configurator.texts =
          (fleet.hosts ip).configurator.texts := by
    intro ip' event hNoCall
    unfold withHost
    dsimp only
    by_cases hIp : ip = ip'
    · subst hIp
      rw [Function.update_self]
      exact AlertNode.texts_step _ hNoCall
    · rw [Function.update_of_ne hIp]
  cases event with
  | alertsWritten ip' alerts => exact ⟨rfl, hOwn ip' _ nofun⟩
  | fileChanged ip' => exact ⟨rfl, hOwn ip' _ nofun⟩
  | delayTimerTick ip' => exact ⟨rfl, hOwn ip' _ nofun⟩
  | server | clearQueue | breaks => exact ⟨rfl, rfl⟩
  | arrivesAtServer number =>
    refine ⟨rfl, ?_⟩
    unfold step
    dsimp only
    split
    · rfl
    · split <;> rfl
  | arrivesAtHost number =>
    unfold applying executing
    dsimp only
    rcases step_arrivesAtHost fromJson fleet number with ⟨hNothing, hStep⟩ |
      ⟨connection, document, toClient, reply, hGet, hReceive, hStep⟩
    · rw [hStep]
      cases hGet : fleet.connections[number]? with
      | none => exact ⟨rfl, rfl⟩
      | some connection =>
        have hNone : connection.toClient.receive = none := by
          rw [Channel.receive, hNothing connection hGet]
        dsimp only
        rw [Option.bind_some, hNone]
        exact ⟨rfl, rfl⟩
    · rw [hStep, hGet]
      dsimp only
      rw [Option.bind_some, hReceive]
      dsimp only
      have hUnder : under ip ((Option.some (connection.socket.peerAddress,
          (VxlanMtd.executed (responses document)).map call)).toList) =
            if connection.socket.peerAddress = ip then
              [(VxlanMtd.executed (responses document)).map call] else [] := by
        rw [under_eq_filter, Option.toList_some, List.filter_singleton]
        by_cases hIp : connection.socket.peerAddress = ip <;> simp [hIp]
      rw [Option.map_some, hUnder]
      by_cases hIp : connection.socket.peerAddress = ip
      · subst hIp
        rw [if_pos rfl, if_pos rfl, Function.update_self, applied_replyTo, configurator_replyTo,
          List.flatten_cons, List.flatten_nil, List.append_nil]
        exact ⟨rfl, rfl⟩
      · rw [if_neg hIp, if_neg hIp, Function.update_of_ne (Ne.symm hIp)]
        exact ⟨rfl, rfl⟩

/-- **A run** of a host: it applies what its executed calls apply. -/
theorem gathered_applying (fromJson : String → Option QJsonDocument) (initial : Fleet)
    (events : ℕ → FleetEvent) (ip : String) (n : ℕ) :
    gathered (fun i => (states (step fromJson) initial events i).applying ip (events i)) n =
        applied (under ip (gathered (fun i =>
          (states (step fromJson) initial events i).executing (events i)) n)).flatten
            (initial.hosts ip).configurator ∧
      ((states (step fromJson) initial events n).hosts ip).configurator.texts =
        ((under ip (gathered (fun i =>
          (states (step fromJson) initial events i).executing (events i)) n)).flatten.foldl execute
            (initial.hosts ip).configurator).texts := by
  induction n with
  | zero => exact ⟨rfl, rfl⟩
  | succ n ih =>
    obtain ⟨hApplied, hTexts⟩ := ih
    obtain ⟨hNew, hNext⟩ := applying_step fromJson (states (step fromJson) initial events n)
      (events n) ip
    rw [gathered_succ, gathered_succ, under_append, List.flatten_append, applied_append,
      List.foldl_append, hApplied, hNew, applied_texts _ hTexts]
    exact ⟨rfl, hNext.trans (texts_foldl_execute _ hTexts)⟩

end Fleet

-- ---------------------------------------------------------------------------
-- A reconfiguration
-- ---------------------------------------------------------------------------

namespace Fleet

variable {fromJson : String → Option QJsonDocument} {fleet : Fleet} {ip : String} {port : Int}
  {number : Nat}

/-- The requests of a reconfiguration become due. -/
theorem due_asks (fromJson : String → Option QJsonDocument)
    (requests : List (String × RequestList)) (h : fleet.Ready ip port number)
    (hAlone : Alone ip number fleet.connections) :
    let after := run (step fromJson) fleet
      (requests.map fun entry => .server (.appendRequestList entry.1 entry.2))
    after.Ready ip port number ∧ Alone ip number after.connections ∧
      after.due ip number = fleet.due ip number ++ accepted (under ip requests).flatten := by
  induction requests generalizing fleet with
  | nil => exact ⟨h, hAlone, (List.append_nil _).symm⟩
  | cons entry requests ih =>
    have hSpares : fleet.Spares ip port number (.server (.appendRequestList entry.1 entry.2)) :=
      trivial
    have hNext : (fleet.step fromJson (.server (.appendRequestList entry.1 entry.2))).Ready
        ip port number := ready_step h hSpares
    obtain ⟨hReady, hStill, hDue⟩ := ih hNext (alone_step h hAlone _)
    refine ⟨hReady, hStill, hDue.trans ?_⟩
    have hOne := due_step fromJson h.conserved h.linked hSpares
    rw [show fleet.due ip number ++ accepted (under ip (entry :: requests)).flatten =
      fleet.due ip number ++ accepted (under ip ([entry] ++ requests)).flatten from rfl,
      under_append, List.flatten_append, accepted_append, ← List.append_assoc]
    exact congrArg (· ++ accepted (under ip requests).flatten) hOne

/-- The host of an address as the network sees it, after some time of a run: what
it has applied last, and where it is plugged in. -/
def nodeAt (fromJson : String → Option QJsonDocument) (initial : Fleet) (events : ℕ → FleetEvent)
    (earlier : List Application) (ip : String) (plug : String × String) (n : ℕ) : NetworkNode where
  application := (earlier ++ gathered (fun i =>
    (states (step fromJson) initial events i).applying ip (events i)) n).getLast?
  plug := plug

/-- **What a host has applied in the end** is what it applies of the list that was
asked for last. -/
theorem eventually_applied {events : ℕ → FleetEvent} {before requests : RequestList}
    (hFair : Fair fromJson ip port number fleet events) (hReady : fleet.Ready ip port number)
    (hAlone : Alone ip number fleet.connections) (hQuiet : ∀ n, (events n).isAsking = false)
    (hDue : fleet.due ip number = before ++ requests)
    (hApplies : ∀ configurator, applied requests configurator ≠ []) (earlier : List Application)
    (plug : String × String) :
    ∃ configurator n, ∀ m ≥ n, (fleet.nodeAt fromJson events earlier ip plug m).application =
      (applied requests configurator).getLast? := by
  obtain ⟨n, hEnd⟩ := hFair.eventually_executed hReady hAlone hQuiet
  refine ⟨before.foldl execute (fleet.hosts ip).configurator, n, fun m hm => ?_⟩
  obtain ⟨checks, hExecuted, hChecks⟩ := hEnd m hm
  unfold nodeAt
  dsimp only
  rw [(gathered_applying fromJson fleet events ip m).1, hExecuted, hDue, applied_append,
    applied_append, applied_checks hChecks, List.append_nil,
    ← List.append_assoc, List.getLast?_append_of_ne_nil _ (hApplies _)]

end Fleet

/-- The calls of a participant pass the checks. -/
theorem accepted_calls (engine : VMTDEngine) (q : VMTDParticipant) :
    accepted ((q.calls engine.hosts).map fun call => (call.1.text, call.2)) =
      (q.calls engine.hosts).map fun call => (call.1.text, call.2) := by
  rw [← map_call_executed 0, executed_calls, map_call_buildRequests]

/-- What is emitted for the host of a participant. -/
theorem under_emitted {engine : VMTDEngine} (h : engine.Deployable) {q : VMTDParticipant}
    (hq : q ∈ engine.participants) (urls : List String) :
    under q.hostIp (engine.run urls).2 =
      [(q.calls engine.hosts).map fun call => (call.1.text, call.2)] := by
  rw [under_eq_filter, emitted_of_participant h hq]
  rfl

namespace Loop

variable {fromJson : String → Option QJsonDocument} {loop : Loop}

/-- A reconfiguration: `generate` and then `run`. -/
def reconfigure (fromJson : String → Option QJsonDocument) (settings : VMTDSettings)
    (rows : List DeviceRow) (draws : Draws) (urls : List String) (loop : Loop) : Loop :=
  (loop.step fromJson (.generate settings rows draws)).step fromJson (.run urls)

theorem timed_step (h : loop.fleet.server.Timed) (event : LoopEvent) :
    (loop.step fromJson event).fleet.server.Timed := by
  cases event with
  | generate => exact h
  | run urls =>
    exact @invariant_of_reachable _ _ (Fleet.step fromJson) (fun fleet => fleet.server.Timed) _
      loop.fleet h (fun _ event hTimed => Fleet.timed_step hTimed event) ⟨_, rfl⟩
  | fleet settings event => exact Fleet.timed_step h event

/-- The address is served: nothing is on its way to it but over a connection that
its handler sends over, and which goes on after the reconfiguration. -/
structure Serves (fromJson : String → Option QJsonDocument) (before after : Loop)
    (events : ℕ → FleetEvent) (ip : String) (port : Int) (number : Nat) : Prop where
  linked : before.fleet.Linked ip port number
  alone : Fleet.Alone ip number before.fleet.connections
  fair : Fleet.Fair fromJson ip port number after.fleet events

end Loop

/-- **The loop delivers.** From any state of the engine, the server and all hosts:
under safe settings, whatever the tables of registered hosts hold and whatever is
drawn, if the switches execute the commands of a reconfiguration, its participants
are served, and nothing is asked for but connection checks until the next one,
then from some time on every participant finds and reaches every other by its
name, whatever else connects, breaks, times out, is cleared, forged or lost. -/
theorem loop_delivers {fromJson : String → Option QJsonDocument} {bans : List BannedScanner}
    {configurators : String → VMTDConfigurator} {alertFiles : String → Option String} {loop : Loop}
    (hLoop : Reachable (Loop.step fromJson) (Loop.start bans configurators alertFiles) loop)
    {settings : VMTDSettings} {rows : List DeviceRow} {draws : Draws} {engine : VMTDEngine}
    {urls : List String} (h : VMTDEngine.generate settings rows draws loop.engine = some engine)
    (hTwo : 2 ≤ engine.participants.length)
    (hSafe : SafeSettings settings engine.participants.length) (hRows : RegisteredRows rows)
    (hUrls : engine.UrlSet urls) (ports : SwitchPorts) {events : ℕ → FleetEvent}
    {port : String → Int} {number : String → Nat}
    (hServes : ∀ q ∈ engine.participants, Loop.Serves fromJson loop
      (loop.reconfigure fromJson settings rows draws urls) events q.hostIp (port q.hostIp)
      (number q.hostIp))
    (hQuiet : ∀ n, (events n).isAsking = false) (earlier : String → List Application) :
    ∃ n, ∀ clock : String → ℕ, (∀ ip, n ≤ clock ip) →
      engine.DeliversOver (ports.execute (engine.run urls).1)
        (engine.participants.map fun q =>
          (loop.reconfigure fromJson settings rows draws urls).fleet.nodeAt fromJson events
            (earlier q.hostIp) q.hostIp q.plug (clock q.hostIp)) := by
  have hConserved : loop.fleet.Conserved := by
    obtain ⟨past, rfl⟩ := hLoop
    exact (Loop.emitted_run fromJson bans configurators alertFiles past).conserved
  have hTimed : loop.fleet.server.Timed :=
    @invariant_of_reachable _ _ (Loop.step fromJson) (fun loop => loop.fleet.server.Timed) _ _
      (fun _ hMem => absurd hMem List.not_mem_nil) (fun _ event h => Loop.timed_step h event) hLoop
  -- the requests of the reconfiguration are asked for
  have hAfter : (loop.reconfigure fromJson settings rows draws urls).fleet =
      run (Fleet.step fromJson) loop.fleet ((engine.run urls).2.map fun entry =>
        .server (.appendRequestList entry.1 entry.2)) := by
    unfold Loop.reconfigure Loop.step
    dsimp only
    rw [h]
    rfl
  rw [length_participants_generate h] at hTwo hSafe
  obtain ⟨π, hF, rfl⟩ := generate_refines h hTwo
  have hRegistered : π.engine.Registered := registered_of_rows hRows
  have hDeployable := π.deployable hTwo hRegistered
  obtain ⟨configurators', n, hNodes⟩ := configuredNodes_of_last hDeployable urls
    (fun ip m => ((loop.reconfigure fromJson settings rows draws urls).fleet.nodeAt fromJson events
      (earlier ip) ip ("", "") m).application) fun q hq => by
    have hServed := hServes q hq
    obtain ⟨hReady, hAlone, hDue⟩ := Fleet.due_asks fromJson (π.engine.run urls).2
      ⟨hConserved, hTimed, hServed.linked⟩ hServed.alone
    rw [← hAfter] at hReady hAlone hDue
    rw [under_emitted hDeployable hq, List.flatten_cons, List.flatten_nil, List.append_nil,
      accepted_calls] at hDue
    exact Fleet.eventually_applied hServed.fair hReady hAlone hQuiet hDue
      (applied_calls_ne π.engine q) _ _
  refine ⟨n, fun clock hClock => ?_⟩
  have hSame := hNodes clock hClock
  have hDelivers := π.delivers_engine (sound_of_safe h hTwo hSafe hF) hTwo hRegistered hUrls ports
    (fun _ => 0) configurators'
  unfold VMTDEngine.Delivers at hDelivers
  dsimp only at hDelivers
  rw [← hSame] at hDelivers
  exact hDelivers

/-- A host connects, with the default settings. -/
def connects (ip : String) (port : Int) : LoopEvent :=
  .fleet {} (.server (.newConnection ip port)) rfl

/-- Two hosts have connected. -/
def twoConnected : Loop :=
  run (Loop.step fun _ => none) (Loop.start [] (fun _ => {}) fun _ => some "")
    [connects "10.0.0.1" 30001, connects "10.0.0.2" 30002]

def twoPorts (ip : String) : Int := if ip = "10.0.0.1" then 30001 else 30002

def twoNumbers (ip : String) : Nat := if ip = "10.0.0.1" then 0 else 1

/-- What goes on after a reconfiguration: the connections are checked, and
somebody else comes and goes. -/
def twoServed : ℕ → FleetEvent :=
  rounds (.server .checkConnectionTimerTick)
    [.server (.checkQueueTimer "10.0.0.1"), .server (.checkQueueTimer "10.0.0.2"),
      .arrivesAtHost 1, .arrivesAtHost 0, .server (.newConnection "10.0.0.3" 30003),
      .arrivesAtServer 1, .server (.ticketTimeout "10.0.0.1"), .breaks 2 0 0,
      .server (.ticketTimeout "10.0.0.2")]

theorem quiet_twoServed (n : ℕ) : (twoServed n).isAsking = false := by
  have hAll : ∀ {first : FleetEvent} {rest : List FleetEvent},
      (first :: rest).all (fun event => !event.isAsking) = true →
        (rounds first rest n).isAsking = false := fun h =>
    (Bool.not_eq_true' _).mp (List.all_eq_true.mp h _ (rounds_mem _ _ n))
  exact hAll rfl

theorem fair_twoServed {ip : String} {port : Int} {number : Nat} {initial : Fleet}
    (h : (ip, number) = ("10.0.0.1", 0) ∨ (ip, number) = ("10.0.0.2", 1)) :
    Fleet.Fair (fun _ => none) ip port number initial twoServed := by
  refine Fleet.fair_rounds (fun event hEvent fleet => ?_) ?_ ?_ ?_
  · simp only [List.mem_cons, List.not_mem_nil, or_false] at hEvent
    rcases h with h | h <;> obtain ⟨rfl, rfl⟩ := Prod.mk.inj h <;>
      rcases hEvent with rfl | rfl | rfl | rfl | rfl | rfl | rfl | rfl | rfl | rfl <;>
      simp [Fleet.Spares, VMTDServer.Stays]
  all_goals rcases h with h | h <;> obtain ⟨rfl, rfl⟩ := Prod.mk.inj h <;> simp

theorem serves_twoServed {ip : String} (h : ip = "10.0.0.1" ∨ ip = "10.0.0.2") (after : Loop) :
    Loop.Serves (fun _ => none) twoConnected after twoServed ip (twoPorts ip) (twoNumbers ip) := by
  have hSilent : ∀ (n : ℕ) (connection : Connection),
      twoConnected.fleet.connections[n]? = some connection →
        connection.toClient.inFlight = [] := by
    intro n connection hGet
    rcases List.mem_cons.mp (List.mem_of_getElem? hGet) with rfl | hMem
    · rfl
    · rw [List.mem_singleton.mp hMem]
  rcases h with rfl | rfl
  · exact ⟨⟨⟨_, rfl, rfl⟩, rfl, rfl⟩, fun n connection hGet _ _ => hSilent n connection hGet,
      fair_twoServed (Or.inl rfl)⟩
  · exact ⟨⟨⟨_, rfl, rfl⟩, rfl, rfl⟩, fun n connection hGet _ _ => hSilent n connection hGet,
      fair_twoServed (Or.inr rfl)⟩

/-- Two hosts on one switch, and a third one that keeps connecting. -/
theorem loop_delivers_two :
    ∃ engine, VMTDEngine.generate {} twoRows (twoGroups 1) twoConnected.engine = some engine ∧
      ∃ n, ∀ clock : String → ℕ, (∀ ip, n ≤ clock ip) →
        engine.DeliversOver (SwitchPorts.execute (fun _ => none) (engine.run ["http://leaf"]).1)
          (engine.participants.map fun q =>
            (twoConnected.reconfigure (fun _ => none) {} twoRows (twoGroups 1)
              ["http://leaf"]).fleet.nodeAt (fun _ => none) twoServed [] q.hostIp q.plug
                (clock q.hostIp)) := by
  have hRun : (VMTDEngine.generate {} twoRows (twoGroups 1) (engineAtStart [])).any (fun engine =>
      decide (engine.participants.length = 2 ∧
        (∀ q ∈ engine.participants, q.switchUrl = "http://leaf") ∧
        ∀ q ∈ engine.participants, q.hostIp = "10.0.0.1" ∨ q.hostIp = "10.0.0.2")) = true := by
    decide +kernel
  obtain ⟨engine, hEngine, hAll⟩ := Option.any_eq_true _ _ |>.mp hRun
  obtain ⟨hTwo, hUrl, hIps⟩ := of_decide_eq_true hAll
  have hSome : engine.participants ≠ [] := List.ne_nil_of_length_pos (by omega)
  have hStart : twoConnected.engine = engineAtStart [] := rfl
  have hReachable : Reachable (Loop.step fun _ => none)
    (Loop.start [] (fun _ => {}) fun _ => some "") twoConnected := ⟨_, rfl⟩
  rw [← hStart] at hEngine
  refine ⟨engine, hEngine, loop_delivers hReachable hEngine hTwo.ge ?_ ?_
    (urlSet_singleton hSome hUrl) _ (fun q hq => serves_twoServed (hIps q hq) _) quiet_twoServed
    fun _ => []⟩
  · rw [hTwo]
    exact ⟨⟨by decide, by decide, by decide⟩, rfl, by decide, fun _ => by decide,
      fun hRandom => absurd hRandom (by decide), by decide⟩
  · exact ⟨by decide, by decide, by decide, by decide, by decide⟩

end VxlanMtd
