import VxlanMtd.Engine.Addresses
import VxlanMtd.Engine.Outcome
import VxlanMtd.Server.Connections

/-!
# Requests for hosts that are online

The engine admits a host that the device manager has heard of, and its request
list goes to the handler of that host. What the manager has heard comes from
the handlers, which come and go with the sockets. Server and engine run in two
threads, so reports and request lists are on their way for a while
(`reports`, `lists`).

* `heard_step` — a host that was reported has a handler, or its socket was
  reported disconnected since it last connected;
* **`lists_queued_iff`** — every request list is put into the queue of exactly
  one handler if and only if none arrives for a host whose socket was reported
  disconnected.
-/

namespace VxlanMtd

open EventRun

/-- Settings with which only devices count that were heard of. -/
abbrev CheckedSettings := {settings : VMTDSettings // settings.shouldCheckOnline = true}

/-- The server and the engine, with the reports on their way to the device
manager and the request lists on their way to the server. `gone` has the hosts
with a socket that was reported disconnected since they last connected. -/
structure Deployment where
  server : VMTDServer := {}
  engine : VMTDEngine := {}
  reports : List (String × Bool) := []
  lists : List (String × RequestList) := []
  gone : List String := []

/-- What happens: something to the server, the arrival of a report or a list, a
report on a switch, or a reconfiguration with what the device tables hold by
then. -/
inductive DeploymentEvent where
  | server (event : ServerEvent)
  | reportArrives
  | updateUrlOnline (url : String) (isOnline : Bool)
  | reconfigure (settings : CheckedSettings) (rows : List DeviceRow) (draws : Draws)
      (urls : List String)
  | listArrives

/-- The report of a signal. -/
def HostSignal.report : HostSignal → Option (String × Bool)
  | .updateIpOnline ip isOnline => some (ip, isOnline)
  | _ => none

namespace VMTDServer

variable {fromJson : String → Option QJsonDocument} {server : VMTDServer}

/-- A request list is put into the queue of one handler, and nothing else
happens. -/
def Queues (fromJson : String → Option QJsonDocument) (ip : String) (requests : RequestList)
    (server : VMTDServer) : Prop :=
  ∃ before handler after, server.hostHandlers = before ++ (ip, handler) :: after ∧
    (server.step fromJson (.appendRequestList ip requests)).hostHandlers =
      before ++ (ip, handler.appendRequestListSlot requests) :: after

/-- The hosts with a socket that was reported disconnected, after an event. -/
def goneAfter (gone : List String) (server : VMTDServer) : ServerEvent → List String
  | .newConnection ip _ => gone.filter fun other => other != ip
  | .disconnected number =>
    match server.socket? number with
    | some socket => socket.peerAddress :: gone
    | none => gone
  | _ => gone

-- ---------------------------------------------------------------------------
-- The table of handlers
-- ---------------------------------------------------------------------------

/-- Every address has one handler, which knows it. -/
structure Keyed (server : VMTDServer) : Prop where
  nodup : (server.endpoints.map Prod.fst).Nodup
  hostIp : ∀ entry ∈ server.endpoints, entry.2.1 = entry.1

/-- The handlers are kept under their addresses. -/
theorem contains_iff_mem_keys {ip : String} :
    server.contains ip = true ↔ ip ∈ server.endpoints.map Prod.fst := by
  rw [contains_iff_mem_endpoints, List.mem_map]
  constructor
  · rintro ⟨endpoint, hMem⟩
    exact ⟨_, hMem, rfl⟩
  · rintro ⟨entry, hMem, rfl⟩
    exact ⟨entry.2, hMem⟩

theorem keyed_newConnectionSlot (h : server.Keyed) (ip : String) (port : Int) :
    (server.newConnectionSlot ip port).Keyed := by
  cases hContains : server.contains ip with
  | true =>
    have hEndpoints : (server.newConnectionSlot ip port).endpoints = server.endpoints := by
      rw [endpoints_newConnectionSlot, if_pos hContains]
    exact ⟨hEndpoints ▸ h.nodup, hEndpoints ▸ h.hostIp⟩
  | false =>
    have hEndpoints : (server.newConnectionSlot ip port).endpoints =
        server.endpoints ++ [(ip, ip, port)] := by
      rw [endpoints_newConnectionSlot, hContains, if_neg Bool.false_ne_true]
    have hNew : ip ∉ server.endpoints.map Prod.fst := fun hMem => by
      rw [contains_iff_mem_keys.mpr hMem] at hContains
      exact nomatch hContains
    constructor
    · rw [hEndpoints, List.map_append, List.map_singleton, ← List.concat_eq_append]
      exact List.Nodup.concat hNew h.nodup
    · intro entry hEntry
      rw [hEndpoints] at hEntry
      rcases List.mem_append.mp hEntry with hOld | hNew
      · exact h.hostIp entry hOld
      · rw [List.mem_singleton.mp hNew]

/-- Every event keeps one handler for an address, at most. -/
theorem keyed_step (h : server.Keyed) (event : ServerEvent) :
    (server.step fromJson event).Keyed := by
  rcases step_cases fromJson server event with ⟨ip, port, -, hStep⟩ |
    ⟨number, socket, -, -, hStep⟩ | ⟨-, -, -, hEndpoints⟩
  · rw [hStep]
    exact keyed_newConnectionSlot h ip port
  · rw [hStep]
    have hSublist := @List.filter_sublist _ (fun entry : String × String × Int =>
      entry.1 != socket.peerAddress) server.endpoints
    rw [← endpoints_disconnectedSlot] at hSublist
    exact ⟨h.nodup.sublist (hSublist.map _), fun entry hEntry =>
      h.hostIp entry (hSublist.subset hEntry)⟩
  · exact ⟨hEndpoints ▸ h.nodup, hEndpoints ▸ h.hostIp⟩

/-- A list is put into a queue exactly when its host has a handler. -/
theorem queues_iff (h : server.Keyed) (ip : String) (requests : RequestList) :
    server.Queues fromJson ip requests ↔ server.contains ip = true := by
  have hKeys : server.endpoints.map Prod.fst = server.hostHandlers.map Prod.fst := List.map_map
  rw [contains_iff_mem_keys, hKeys]
  constructor
  · rintro ⟨before, handler, after, hSplit, -⟩
    rw [hSplit]
    exact List.mem_map_of_mem (List.mem_append_right before List.mem_cons_self)
  · intro hMem
    obtain ⟨⟨key, handler⟩, hEntry, rfl⟩ := List.mem_map.mp hMem
    obtain ⟨before, after, hSplit⟩ := List.append_of_mem hEntry
    -- no other entry has this key
    have hNodup := h.nodup
    rw [hKeys, hSplit, List.map_append, List.map_cons, List.nodup_middle, List.nodup_cons,
      ← List.map_append] at hNodup
    have hOther : ∀ entry ∈ before ++ after, entry.1 ≠ key := fun entry hMem hKey =>
      hNodup.1 (List.mem_map.mpr ⟨entry, hMem, hKey⟩)
    have hSame : ∀ entries : List (String × VMTDHostProtocolHandler),
        (∀ entry ∈ entries, entry.1 ≠ key) →
        (entries.map fun entry => if entry.1 = key then
          (entry.1, entry.2.appendRequestListSlot requests) else entry) = entries :=
      fun entries hNe => (List.map_congr_left fun entry hMem => if_neg (hNe entry hMem)).trans
        (List.map_id entries)
    refine ⟨before, handler, after, hSplit, ?_⟩
    show (server.hostHandlers.map fun entry => if entry.1 = key then
      (entry.1, entry.2.appendRequestListSlot requests) else entry) = _
    rw [hSplit, List.map_append, List.map_cons,
      hSame before fun entry hMem => hOther entry (List.mem_append_left _ hMem),
      hSame after fun entry hMem => hOther entry (List.mem_append_right _ hMem), if_pos rfl]

-- ---------------------------------------------------------------------------
-- Reports
-- ---------------------------------------------------------------------------

/-- A handler reports its own host. -/
theorem report_handleServers (responses : List QJsonObject) (handler : VMTDHostProtocolHandler) :
    ∀ report ∈ (handler.handleServers responses).2.filterMap HostSignal.report,
      report.1 = handler.hostIp := by
  intro report hReport
  obtain ⟨signal, hSignal, hEq⟩ := List.mem_filterMap.mp hReport
  rw [VMTDHostProtocolHandler.signals_handleServers] at hSignal
  obtain ⟨response, -, hSignal⟩ := List.mem_flatMap.mp hSignal
  unfold VMTDHostProtocolHandler.handleServer at hSignal
  rcases List.mem_cons.mp hSignal with rfl | hSignal
  · rw [← Option.some.inj hEq]
  · -- a result is no report
    split at hSignal
    · rw [List.mem_singleton.mp hSignal] at hEq
      exact nomatch hEq
    · exact absurd hSignal List.not_mem_nil

theorem contains_of_mem {entry : String × VMTDHostProtocolHandler}
    (hMem : entry ∈ server.hostHandlers) : server.contains entry.1 = true :=
  List.any_eq_true.mpr ⟨entry, hMem, beq_self_eq_true _⟩

/-- A slot of one handler whose reports are on its own host. -/
theorem contains_of_report_modifyHandler (h : server.Keyed) {ip : String}
    {slot : VMTDHostProtocolHandler → VMTDHostProtocolHandler × List HostSignal}
    (hSlot : ∀ handler, ∀ report ∈ (slot handler).2.filterMap HostSignal.report,
      report.1 = handler.hostIp) :
    ∀ report ∈ (server.modifyHandler ip slot).2.filterMap HostSignal.report,
      server.contains report.1 = true := by
  intro report hReport
  obtain ⟨signal, hSignal, hEq⟩ := List.mem_filterMap.mp hReport
  obtain ⟨entry, hEntry, hSignal⟩ := List.mem_flatMap.mp hSignal
  split at hSignal
  · have hHost := hSlot entry.2 report (List.mem_filterMap.mpr ⟨signal, hSignal, hEq⟩)
    have hKey := h.hostIp (entry.1, entry.2.endpoint) (List.mem_map.mpr ⟨entry, hEntry, rfl⟩)
    rw [hHost, show entry.2.hostIp = entry.1 from hKey]
    exact contains_of_mem hEntry
  · exact absurd hSignal List.not_mem_nil

/-- Only hosts with a handler are reported. -/
theorem contains_of_report (h : server.Keyed) (event : ServerEvent) :
    ∀ report ∈ (server.react fromJson event).2.filterMap HostSignal.report,
      server.contains report.1 = true := by
  cases event with
  | newConnection ip port => exact fun _ hMem => absurd hMem List.not_mem_nil
  | disconnected number =>
    unfold react
    dsimp only
    split <;> exact fun _ hMem => absurd hMem List.not_mem_nil
  | textMessageReceived number data =>
    unfold react
    dsimp only
    split
    · intro report hReport
      obtain ⟨signal, hSignal, hEq⟩ := List.mem_filterMap.mp hReport
      obtain ⟨received, hReceived, hSignal⟩ := List.mem_flatMap.mp hSignal
      obtain ⟨entry, hEntry, rfl⟩ := List.mem_map.mp hReceived
      have hHost := report_handleServers _ entry.2 report (List.mem_filterMap.mpr ⟨signal, hSignal, hEq⟩)
      have hKey := h.hostIp (entry.1, entry.2.endpoint) (List.mem_map.mpr ⟨entry, hEntry, rfl⟩)
      rw [hHost, show entry.2.hostIp = entry.1 from hKey]
      exact contains_of_mem hEntry
    · exact fun _ hMem => absurd hMem List.not_mem_nil
  | appendRequestList ip requests =>
    exact contains_of_report_modifyHandler h fun _ _ hMem => absurd hMem List.not_mem_nil
  | checkQueueTimer ip =>
    refine contains_of_report_modifyHandler h fun handler report hReport => ?_
    unfold VMTDHostProtocolHandler.checkQueueTimerSlot at hReport
    split at hReport <;> exact absurd hReport List.not_mem_nil
  | ticketTimeout ip =>
    refine contains_of_report_modifyHandler h fun handler report hReport => ?_
    split at hReport
    · rw [List.mem_singleton.mp hReport]
    · exact absurd hReport List.not_mem_nil
  | checkConnectionTimerTick => exact fun _ hMem => absurd hMem List.not_mem_nil

-- ---------------------------------------------------------------------------
-- Hosts that are gone
-- ---------------------------------------------------------------------------

/-- A connection adds its own address only. -/
theorem contains_newConnectionSlot (ip : String) (port : Int) (key : String) :
    (server.newConnectionSlot ip port).contains key = true ↔
      server.contains key = true ∨ key = ip := by
  rw [contains_iff_mem_keys, contains_iff_mem_keys, endpoints_newConnectionSlot]
  split
  · rename_i hContains
    refine (or_iff_left_of_imp ?_).symm
    rintro rfl
    exact contains_iff_mem_keys.mp hContains
  · rw [List.map_append, List.mem_append]
    exact or_congr_right List.mem_singleton

/-- The end of a connection takes its own address away. -/
theorem contains_disconnectedSlot (socket : QWebSocket) (key : String) :
    (server.disconnectedSlot socket).contains key = true ↔
      server.contains key = true ∧ key ≠ socket.peerAddress := by
  rw [contains_iff_mem_endpoints, contains_iff_mem_endpoints, endpoints_disconnectedSlot]
  simp only [List.mem_filter, bne_iff_ne]
  exact exists_and_right

theorem contains_congr {next : VMTDServer} (h : next.endpoints = server.endpoints) (ip : String) :
    next.contains ip = server.contains ip := by
  rw [Bool.eq_iff_iff, contains_iff_mem_endpoints, contains_iff_mem_endpoints, h]

/-- Who is gone changes with the connections only. -/
theorem goneAfter_eq_self (gone : List String) {event : ServerEvent}
    (hNew : ∀ ip port, event ≠ .newConnection ip port)
    (hGone : ∀ number, event = .disconnected number → server.socket? number = none) :
    goneAfter gone server event = gone := by
  cases event with
  | newConnection ip port => exact absurd rfl (hNew ip port)
  | disconnected number =>
    unfold goneAfter
    dsimp only
    rw [hGone number rfl]
  | textMessageReceived | appendRequestList | checkQueueTimer | ticketTimeout
  | checkConnectionTimerTick => rfl

theorem goneAfter_disconnected (gone : List String) {number : Nat} {socket : QWebSocket}
    (hSocket : server.socket? number = some socket) :
    goneAfter gone server (.disconnected number) = socket.peerAddress :: gone := by
  unfold goneAfter
  dsimp only
  rw [hSocket]

/-- A host keeps its handler until a socket of it is reported disconnected, and
gets one when it connects again. -/
theorem contains_or_gone {gone : List String} (event : ServerEvent) {ip : String}
    (h : server.contains ip = true ∨ ip ∈ gone) :
    (server.step fromJson event).contains ip = true ∨ ip ∈ goneAfter gone server event := by
  rcases step_cases fromJson server event with ⟨other, port, rfl, hStep⟩ |
    ⟨number, socket, rfl, hSocket, hStep⟩ | ⟨hNew, hGone, -, hEndpoints⟩
  · rw [hStep, contains_newConnectionSlot]
    by_cases hIp : ip = other
    · exact Or.inl (Or.inr hIp)
    · rcases h with hContains | hGone
      · exact Or.inl (Or.inl hContains)
      · exact Or.inr (List.mem_filter.mpr ⟨hGone, bne_iff_ne.mpr hIp⟩)
  · rw [hStep, contains_disconnectedSlot, goneAfter_disconnected gone hSocket]
    by_cases hIp : ip = socket.peerAddress
    · exact Or.inr (List.mem_cons.mpr (Or.inl hIp))
    · rcases h with hContains | hGone
      · exact Or.inl ⟨hContains, hIp⟩
      · exact Or.inr (List.mem_cons_of_mem _ hGone)
  · rw [contains_congr hEndpoints, goneAfter_eq_self gone hNew hGone]
    exact h

/-- A host that is gone has no handler. -/
theorem not_contains_of_gone {gone : List String}
    (h : ∀ ip ∈ gone, server.contains ip = false) (event : ServerEvent) :
    ∀ ip ∈ goneAfter gone server event, (server.step fromJson event).contains ip = false := by
  intro ip hMem
  rcases step_cases fromJson server event with ⟨other, port, rfl, hStep⟩ |
    ⟨number, socket, rfl, hSocket, hStep⟩ | ⟨hNew, hGone, -, hEndpoints⟩
  · obtain ⟨hMem, hIp⟩ := List.mem_filter.mp hMem
    rw [hStep, Bool.eq_false_iff, Ne, contains_newConnectionSlot, h ip hMem]
    rintro (hFalse | hEq)
    · exact Bool.false_ne_true hFalse
    · exact bne_iff_ne.mp hIp hEq
  · rw [goneAfter_disconnected gone hSocket] at hMem
    rw [hStep, Bool.eq_false_iff, Ne, contains_disconnectedSlot]
    rintro ⟨hContains, hIp⟩
    rcases List.mem_cons.mp hMem with hEq | hMem
    · exact hIp hEq
    · exact Bool.false_ne_true ((h ip hMem).symm.trans hContains)
  · rw [contains_congr hEndpoints]
    rw [goneAfter_eq_self gone hNew hGone] at hMem
    exact h ip hMem

end VMTDServer

-- ---------------------------------------------------------------------------
-- The engine
-- ---------------------------------------------------------------------------

/-- The hosts of the participants are rows that were admitted. -/
theorem exists_row_of_generate {settings : VMTDSettings} {rows : List DeviceRow} {draws : Draws}
    {engine engine' : VMTDEngine} (h : engine.generate settings rows draws = some engine')
    (hOnline : settings.shouldCheckOnline = true) :
    engine'.manager.ipOnline = engine.manager.ipOnline ∧
      ∀ q ∈ engine'.participants, (engine.manager.ipOnline q.hostIp).isSome = true := by
  have hAdmitted : ∀ b ∈ (engine.manager.buildParticipants settings rows).participants,
      (engine.manager.ipOnline b.hostIp).isSome = true := by
    intro b hb
    obtain ⟨row, hRow, rfl⟩ := List.mem_map.mp hb
    have hFilter := (List.mem_filter.mp hRow).2
    rw [hOnline, Bool.true_and, Bool.not_or, Bool.and_eq_true, Bool.not_eq_true',
      Option.isNone_eq_false_iff, Bool.not_eq_true', Option.isNone_eq_false_iff] at hFilter
    exact hFilter.2
  rcases Nat.lt_or_ge (engine.manager.buildParticipants settings rows).participants.length 2
    with hOne | hTwo
  · rw [generate_of_lt_two h hOne]
    exact ⟨rfl, hAdmitted⟩
  · obtain ⟨π, -, rfl⟩ := generate_refines h hTwo
    refine ⟨rfl, fun q hq => ?_⟩
    -- the plan assigns interfaces and roles only
    obtain ⟨p, b, hb, rfl⟩ := Plan.mem_participants.mp hq
    exact hAdmitted b (List.mem_of_getElem? hb)

/-- Request lists go to the hosts of participants. -/
theorem exists_participant_of_run {engine : VMTDEngine} {urls : List String}
    {emitted : String × RequestList} (h : emitted ∈ (engine.run urls).2) :
    ∃ q ∈ engine.participants, q.hostIp = emitted.1 := by
  unfold VMTDEngine.run at h
  split at h
  · exact absurd h List.not_mem_nil
  · obtain ⟨q, hq, rfl⟩ := List.mem_map.mp h
    exact ⟨q, hq, rfl⟩

-- ---------------------------------------------------------------------------
-- Runs
-- ---------------------------------------------------------------------------

namespace Deployment

/-- One event. A reconfiguration is `generate` and `run`; what handlers report
as results bans hosts, which nothing here depends on. -/
def step (fromJson : String → Option QJsonDocument) (deployment : Deployment) :
    DeploymentEvent → Deployment
  | .server event =>
    { deployment with
      server := deployment.server.step fromJson event
      reports := deployment.reports ++
        (deployment.server.react fromJson event).2.filterMap HostSignal.report
      gone := deployment.server.goneAfter deployment.gone event }
  | .reportArrives =>
    match deployment.reports with
    | [] => deployment
    | (ip, isOnline) :: reports =>
      { deployment with
        reports := reports
        engine :=
          { deployment.engine with
            manager := deployment.engine.manager.updateIpOnlineSlot ip isOnline } }
  | .updateUrlOnline url isOnline =>
    { deployment with
      engine :=
        { deployment.engine with
          manager := deployment.engine.manager.updateUrlOnlineSlot url isOnline } }
  | .reconfigure settings rows draws urls =>
    match deployment.engine.generate settings rows draws with
    | none => deployment
    | some engine =>
      { deployment with engine := engine, lists := deployment.lists ++ (engine.run urls).2 }
  | .listArrives =>
    match deployment.lists with
    | [] => deployment
    | (ip, requests) :: lists =>
      { deployment with
        server := deployment.server.step fromJson (.appendRequestList ip requests)
        lists := lists }

/-- A list that arrives is put into the queue of one handler. -/
def ListQueued (fromJson : String → Option QJsonDocument) (deployment : Deployment) :
    DeploymentEvent → Prop
  | .listArrives =>
    ∀ emitted ∈ deployment.lists.head?, deployment.server.Queues fromJson emitted.1 emitted.2
  | _ => True

/-- No list arrives for a host that is gone. -/
def HostNotGone (deployment : Deployment) : DeploymentEvent → Prop
  | .listArrives => ∀ emitted ∈ deployment.lists.head?, emitted.1 ∉ deployment.gone
  | _ => True

/-- What was heard of a host: it is known to the manager, or will be, or a list
for it is on its way. -/
def Heard (deployment : Deployment) (ip : String) : Prop :=
  (deployment.engine.manager.ipOnline ip).isSome = true ∨ ip ∈ deployment.reports.map Prod.fst ∨
    ip ∈ deployment.lists.map Prod.fst

/-- The invariant: hosts that were heard of have a handler or are gone. -/
structure Settled (deployment : Deployment) : Prop where
  keyed : deployment.server.Keyed
  gone : ∀ ip ∈ deployment.gone, deployment.server.contains ip = false
  heard : ∀ ip, deployment.Heard ip → deployment.server.contains ip = true ∨ ip ∈ deployment.gone

variable {fromJson : String → Option QJsonDocument} {deployment : Deployment}

/-- An event that changes no connection, and lets nothing be heard that was not
heard before. -/
theorem Settled.of_heard (hSettled : deployment.Settled) {next : Deployment}
    (hServer : next.server = deployment.server) (hGone : next.gone = deployment.gone)
    (hHeard : ∀ ip, next.Heard ip → deployment.Heard ip) : next.Settled := by
  refine ⟨hServer ▸ hSettled.keyed, ?_, fun ip hIp => ?_⟩
  · rw [hGone, hServer]
    exact hSettled.gone
  · rw [hGone, hServer]
    exact hSettled.heard ip (hHeard ip hIp)

/-- The reports a server makes of an event are under way. -/
theorem settled_server (hSettled : deployment.Settled) (event : ServerEvent) :
    (deployment.step fromJson (.server event)).Settled := by
  refine ⟨VMTDServer.keyed_step hSettled.keyed event,
    VMTDServer.not_contains_of_gone hSettled.gone event, fun ip hHeard => ?_⟩
  refine VMTDServer.contains_or_gone event ?_
  -- a new report is on a host that has a handler
  rcases hHeard with hKnown | hReport | hList
  · exact hSettled.heard ip (Or.inl hKnown)
  · have hReports : (deployment.step fromJson (.server event)).reports = deployment.reports ++
        (deployment.server.react fromJson event).2.filterMap HostSignal.report := rfl
    rw [hReports, List.map_append] at hReport
    rcases List.mem_append.mp hReport with hOld | hNew
    · exact hSettled.heard ip (Or.inr (Or.inl hOld))
    · obtain ⟨report, hMem, rfl⟩ := List.mem_map.mp hNew
      exact Or.inl (VMTDServer.contains_of_report hSettled.keyed event report hMem)
  · exact hSettled.heard ip (Or.inr (Or.inr hList))

/-- A reconfiguration sends lists to the hosts that are admitted. -/
theorem settled_reconfigure (hSettled : deployment.Settled) (settings : CheckedSettings)
    (rows : List DeviceRow) (draws : Draws) (urls : List String) :
    (deployment.step fromJson (.reconfigure settings rows draws urls)).Settled := by
  unfold step
  dsimp only
  cases hGenerate : deployment.engine.generate settings.val rows draws with
  | none => exact hSettled
  | some engine =>
    obtain ⟨hSame, hAdmitted⟩ := exists_row_of_generate hGenerate settings.property
    refine hSettled.of_heard rfl rfl ?_
    rintro ip (hKnown | hReport | hList)
    · exact Or.inl (hSame ▸ hKnown)
    · exact Or.inr (Or.inl hReport)
    · dsimp only at hList
      rw [List.map_append] at hList
      rcases List.mem_append.mp hList with hOld | hNew
      · exact Or.inr (Or.inr hOld)
      · -- a new list is for a participant, so the manager knows its host
        obtain ⟨emitted, hEmitted, rfl⟩ := List.mem_map.mp hNew
        obtain ⟨q, hq, hIp⟩ := exists_participant_of_run hEmitted
        exact Or.inl (hIp ▸ hAdmitted q hq)

/-- A report that arrives is under way no more. -/
theorem settled_reportArrives (hSettled : deployment.Settled) :
    (deployment.step fromJson .reportArrives).Settled := by
  unfold step
  dsimp only
  cases hReports : deployment.reports with
  | nil => exact hSettled
  | cons report reports =>
    have hHeard : ∀ ip, ip ∈ report.1 :: reports.map Prod.fst → deployment.Heard ip := by
      intro ip hMem
      refine Or.inr (Or.inl ?_)
      rw [hReports]
      exact hMem
    refine hSettled.of_heard rfl rfl ?_
    rintro ip (hKnown | hReport | hList)
    · by_cases hIp : ip = report.1
      · exact hHeard ip (List.mem_cons.mpr (Or.inl hIp))
      · -- the update concerns another host
        refine Or.inl ?_
        have hSame : Function.update deployment.engine.manager.ipOnline report.1 (some report.2) ip =
            deployment.engine.manager.ipOnline ip := Function.update_of_ne hIp _ _
        rw [← hSame]
        exact hKnown
    · exact hHeard ip (List.mem_cons_of_mem _ hReport)
    · exact Or.inr (Or.inr hList)

/-- A list that arrives is under way no more. -/
theorem settled_listArrives (hSettled : deployment.Settled) :
    (deployment.step fromJson .listArrives).Settled := by
  unfold step
  dsimp only
  cases hLists : deployment.lists with
  | nil => exact hSettled
  | cons emitted lists =>
    have hContains := @VMTDServer.contains_congr deployment.server _
      (@VMTDServer.step_of_not_connection fromJson deployment.server
        (.appendRequestList emitted.1 emitted.2) (fun _ _ h => nomatch h) fun _ h => nomatch h).2
    refine ⟨VMTDServer.keyed_step hSettled.keyed _, fun ip hGone => ?_, fun ip hHeard => ?_⟩
    · exact (hContains ip).trans (hSettled.gone ip hGone)
    · show (deployment.server.step fromJson (.appendRequestList emitted.1 emitted.2)).contains ip =
        true ∨ _
      rw [hContains]
      refine hSettled.heard ip ?_
      rcases hHeard with hKnown | hReport | hList
      · exact Or.inl hKnown
      · exact Or.inr (Or.inl hReport)
      · refine Or.inr (Or.inr ?_)
        rw [hLists]
        exact List.mem_cons_of_mem _ hList

/-- **Every event keeps this.** -/
theorem settled_step (hSettled : deployment.Settled) (event : DeploymentEvent) :
    (deployment.step fromJson event).Settled := by
  cases event with
  | server event => exact settled_server hSettled event
  | reportArrives => exact settled_reportArrives hSettled
  | updateUrlOnline url isOnline => exact hSettled.of_heard rfl rfl fun _ hHeard => hHeard
  | reconfigure settings rows draws urls => exact settled_reconfigure hSettled settings rows draws urls
  | listArrives => exact settled_listArrives hSettled

/-- A list that arrives finds a handler exactly when its host is not gone. -/
theorem listQueued_iff (hSettled : deployment.Settled) (event : DeploymentEvent) :
    deployment.ListQueued fromJson event ↔ deployment.HostNotGone event := by
  cases event with
  | server event => exact Iff.rfl
  | reportArrives => exact Iff.rfl
  | updateUrlOnline url isOnline => exact Iff.rfl
  | reconfigure settings rows draws urls => exact Iff.rfl
  | listArrives =>
    refine forall₂_congr fun emitted hHead => ?_
    rw [VMTDServer.queues_iff hSettled.keyed]
    have hHeard : deployment.Heard emitted.1 :=
      Or.inr (Or.inr (List.mem_map_of_mem (List.mem_of_mem_head? hHead)))
    constructor
    · intro hContains hGone
      exact Bool.false_ne_true ((hSettled.gone emitted.1 hGone).symm.trans hContains)
    · exact fun hGone => (hSettled.heard emitted.1 hHeard).resolve_right hGone

end Deployment

/-- **No request list is dropped**, exactly: every list that arrives at the
server is put into the queue of one handler, if and only if none arrives for a
host with a socket that was reported disconnected since it last connected. -/
theorem lists_queued_iff (fromJson : String → Option QJsonDocument)
    (events : List DeploymentEvent) :
    Along (Deployment.step fromJson) (Deployment.ListQueued fromJson) {} events ↔
      Along (Deployment.step fromJson) Deployment.HostNotGone {} events := by
  have hStart : Deployment.Settled {} := by
    refine ⟨⟨List.nodup_nil, fun _ hMem => absurd hMem List.not_mem_nil⟩,
      fun _ hMem => absurd hMem List.not_mem_nil, ?_⟩
    rintro ip (hKnown | hReport | hList)
    · exact absurd hKnown Bool.false_ne_true
    · exact absurd hReport List.not_mem_nil
    · exact absurd hList List.not_mem_nil
  exact along_iff_of_invariant hStart
    (fun _ event hSettled => Deployment.listQueued_iff hSettled event)
    fun _ event hSettled _ => Deployment.settled_step hSettled event

/-- Two hosts connect, the first answers and disconnects, and the next
reconfiguration has a request list for it. -/
def disconnectedHost : List DeploymentEvent :=
  [.server (.newConnection "10.0.0.1" 40001), .server (.newConnection "10.0.0.2" 40002),
    .server (.textMessageReceived 0 "reply"), .reportArrives, .reportArrives,
    .updateUrlOnline "http://leaf" true, .server (.disconnected 0),
    .reconfigure ⟨{ shouldCheckOnline := true, shouldRandomizeNetwork := true }, rfl⟩ twoRows
      (twoGroups 1) ["http://leaf"]]

/-- That list finds no handler. -/
theorem disconnected_host_loses_list :
    ¬ ∀ (fromJson : String → Option QJsonDocument) (events : List DeploymentEvent),
        Along (Deployment.step fromJson) (Deployment.ListQueued fromJson) {} events := by
  intro hClaim
  let fromJson : String → Option QJsonDocument := fun _ => some (.object [])
  have hQueued := along_iff_forall_prefix.mp (hClaim fromJson (disconnectedHost ++ [.listArrives]))
    disconnectedHost .listArrives [] rfl
  have hHead : (run (Deployment.step fromJson) {} disconnectedHost).lists.head?.map Prod.fst =
      some "10.0.0.1" := by decide +kernel
  have hContains : (run (Deployment.step fromJson) {} disconnectedHost).server.contains "10.0.0.1" =
      false := by decide +kernel
  obtain ⟨emitted, hMem, hIp⟩ := Option.map_eq_some_iff.mp hHead
  obtain ⟨before, handler, after, hSplit, -⟩ := hQueued emitted hMem
  have hEntry : (emitted.1, handler) ∈
      (run (Deployment.step fromJson) {} disconnectedHost).server.hostHandlers := by
    rw [hSplit]
    exact List.mem_append_right before List.mem_cons_self
  have hFound := VMTDServer.contains_of_mem hEntry
  rw [show (emitted.1, handler).1 = "10.0.0.1" from hIp, hContains] at hFound
  exact Bool.false_ne_true hFound

end VxlanMtd
