import VxlanMtd.Engine.Bans
import VxlanMtd.Node.Replies
import VxlanMtd.Server.Fleet

/-!
# From an alert to a ban

What the watchdogs of the hosts read travels to the server as results of
requests, is handed on by its handlers and reaches the engine.

* `outcomes` — the results of calls that are handed on, whatever way they take
  (`handedOn_replyTo`);
* `AlertNode.Counted` — what was reported, and what waits, was read;
* `Traced` — what has arrived from a host, or is on its way, is part of what the
  host reported, by any weights; kept by every event;
* **`results_traced`** — of no address more results are handed on than its host
  read from the alert file, for each handler that there may be, and no more
  results than there were requests for them;
* **`bans_traced`** — every ban goes back to an alert.
-/

namespace VxlanMtd

open EventRun Tally VMTDHostProtocolHandler

-- ---------------------------------------------------------------------------
-- Results
-- ---------------------------------------------------------------------------

/-- The results of calls that are no truth values. -/
def outcomes : RequestList → VMTDConfigurator → List QJsonValue
  | [], _ => []
  | called :: requests, configurator =>
    let result := (configurator.handleMethodSlot called.1 called.2).result
    (if result.isBool then [] else [result]) ++ outcomes requests (execute configurator called)

/-- Responses in a batch are handed on one by one. -/
theorem results_handleServers (responses : List QJsonObject) (handler : VMTDHostProtocolHandler) :
    (handler.handleServers responses).2.filterMap HostSignal.result = handedOn responses := by
  rw [signals_handleServers]
  induction responses with
  | nil => rfl
  | cons response responses ih =>
    rw [List.flatMap_cons, List.filterMap_append, ih]
    unfold handedOn handleServer
    dsimp only
    split
    · next hResult => simp only [List.filterMap_cons, HostSignal.result, hResult]; rfl
    · next hResult => simp only [List.filterMap_cons, HostSignal.result, hResult]; rfl

theorem handedOn_append (responses more : List QJsonObject) :
    handedOn (responses ++ more) = handedOn responses ++ handedOn more := List.filterMap_append

/-- One request: an error and a truth value are kept. -/
theorem handedOn_handleClient (request : QJsonObject) (configurator : VMTDConfigurator) :
    handedOn [(handleClient request configurator).1] =
      outcomes ((executed [request]).map call) configurator := by
  unfold handleClient executed
  rw [List.filter_cons]
  cases requestError request with
  | some error =>
    obtain ⟨hError, -⟩ := buildError_members (request.value "id") error.code error.text
    simp [handedOn, hError, outcomes]
  | none =>
    have hResult := isUndefined_result (request.value "method").toString
      (request.value "params").toObject configurator
    obtain ⟨hHolds, hError, hValue⟩ := buildResponse_members (request.value "id") hResult
    have hResponse := isResponse_buildResponse (request.value "id") hResult
    simp only [handedOn, List.filterMap_cons, List.filterMap_nil, hResponse, hError, hHolds, hValue]
    cases hBool : (configurator.handleMethodSlot (request.value "method").toString
        (request.value "params").toObject).result.isBool <;>
      simp [outcomes, call, hBool]

/-- What is handed on of a batch of replies is what its accepted requests gave. -/
theorem handedOn_handleClients (requests : List QJsonObject) (configurator : VMTDConfigurator) :
    handedOn (handleClients requests configurator).1 =
      outcomes ((executed requests).map call) configurator := by
  induction requests generalizing configurator with
  | nil => rfl
  | cons request requests ih =>
    show handedOn ([(handleClient request configurator).1] ++
      (handleClients requests (handleClient request configurator).2.1).1) = _
    rw [handedOn_append, handedOn_handleClient, ih]
    unfold executed handleClient
    rw [List.filter_cons, List.filter_cons]
    cases requestError request with
    | some error => rfl
    | none => simp [outcomes, execute, call]

/-- **What is handed on of a reply** are the outcomes of the calls it answers. -/
theorem handedOn_replyTo (document : QJsonDocument) (configurator : VMTDConfigurator) :
    ((replyTo document configurator).1.toList.flatMap fun reply => handedOn (responses reply)) =
      outcomes ((executed (responses document)).map call) configurator := by
  rw [← handedOn_handleClients]
  cases document with
  | object request =>
    have hSome := (reply_handleClient request configurator).isEmpty
    show List.flatMap _ (if (handleClient request configurator).1.isEmpty then none
      else some (QJsonDocument.object _)).toList = _
    rw [hSome, if_neg Bool.false_ne_true]
    exact List.flatMap_singleton _ _
  | array elements =>
    unfold replyTo responses
    dsimp only
    have hReplies := replies_handleClients (elements.map QJsonValue.toObject) configurator
    have hAll : (handleClients (elements.map QJsonValue.toObject) configurator).1.filter
        (fun response => !response.isEmpty) =
          (handleClients (elements.map QJsonValue.toObject) configurator).1 := by
      rw [List.filter_eq_self]
      intro reply hMem
      rw [hReplies.isEmpty reply hMem]
      rfl
    rw [hAll]
    generalize (handleClients (elements.map QJsonValue.toObject) configurator).1 = replies
    cases replies with
    | nil => rfl
    | cons reply replies =>
      rw [List.map_cons, List.isEmpty_cons, if_neg Bool.false_ne_true]
      refine (List.flatMap_singleton _ _).trans (congrArg handedOn ?_)
      show ((reply :: replies).map QJsonValue.object).map QJsonValue.toObject = _
      rw [List.map_map]
      exact List.map_id _

-- ---------------------------------------------------------------------------
-- The host
-- ---------------------------------------------------------------------------

/-- What was reported, in order. -/
def reports (records : List ScanRecord) : List (List String) :=
  records.reverse.filterMap fun
    | .reported ips => some ips
    | .extracted _ => none

/-- What was extracted, in order. -/
def reads (records : List ScanRecord) : List (List String) :=
  records.reverse.filterMap fun
    | .extracted ips => some ips
    | .reported _ => none

/-- A report is recorded after those before it. -/
theorem reports_cons (records : List ScanRecord) (ips : List String) :
    reports (.reported ips :: records) = reports records ++ [ips] ∧
      reports (.extracted ips :: records) = reports records := by
  simp [reports]

/-- A reading is recorded after those before it. -/
theorem reads_cons (records : List ScanRecord) (ips : List String) :
    reads (.extracted ips :: records) = reads records ++ [ips] ∧
      reads (.reported ips :: records) = reads records := by
  simp [reads]

/-- A set has no address more often than what it was filled with. -/
theorem subperm_foldl_insert (ips scanners : List String) :
    (ips.foldl (fun scanners srcIp => scanners.insert srcIp) scanners).Subperm
      (scanners ++ ips) := by
  induction ips generalizing scanners with
  | nil => rw [List.append_nil]; exact List.Subperm.refl _
  | cons ip ips ih =>
    refine (ih (scanners.insert ip)).trans ?_
    have hInsert : (scanners.insert ip).Subperm (scanners ++ [ip]) := by
      by_cases hMem : ip ∈ scanners
      · rw [List.insert_of_mem hMem]
        exact (List.sublist_append_left _ _).subperm
      · rw [List.insert_of_not_mem hMem]
        exact (List.perm_append_singleton ip scanners).symm.subperm
    rw [List.append_cons]
    exact hInsert.append (List.Subperm.refl _)

/-- A set after a read, or without one. -/
def filled (scanners : List String) : Option (List String) → List String
  | some ips => ips.foldl (fun scanners srcIp => scanners.insert srcIp) []
  | none => scanners

namespace VMTDWatchdog

/-- A change of the file adds what is extracted of it, if anything. -/
theorem scanners_fileChangedSlot (alertFile : Option String) (watchdog : VMTDWatchdog) :
    (watchdog.fileChangedSlot alertFile).1.scanners =
      filled watchdog.scanners (watchdog.extractedByChange alertFile) := by
  unfold fileChangedSlot extractedByChange
  split
  · rfl
  · cases alertFile <;> rfl

/-- So does the end of the delay. -/
theorem scanners_delayTimerTickSlot {watchdog : VMTDWatchdog}
    (hActive : watchdog.isDelayTimerActive = true) (alertFile : Option String) :
    (watchdog.delayTimerTickSlot alertFile).1.scanners =
      filled watchdog.scanners (watchdog.extractedByTick alertFile) := by
  unfold delayTimerTickSlot extractedByTick
  dsimp only
  split
  · next hCheck =>
    rw [scanners_fileChangedSlot, if_pos ⟨hActive, hCheck⟩]
    rfl
  · next hCheck => rw [if_neg fun h => hCheck h.2, filled]

end VMTDWatchdog

namespace AlertNode

variable {node : AlertNode}

/-- What was reported and what waits is part of what was extracted. -/
def Counted (node : AlertNode) : Prop :=
  ((reports node.records).flatten ++ node.scanners).Subperm (reads node.records).flatten

/-- A read replaces the set. -/
theorem counted_read (h : node.Counted) {next : VMTDWatchdog × Option String}
    {ips : Option (List String)} (hScanners : next.1.scanners = filled node.scanners ips) :
    ((node.withWatchdog next).record ips).Counted := by
  have hReported : (reports node.records).flatten.Subperm (reads node.records).flatten :=
    (List.sublist_append_left _ _).subperm.trans h
  unfold Counted
  cases ips with
  | none =>
    have hSame : ((node.withWatchdog next).record none).scanners = node.scanners := hScanners
    rw [hSame]
    exact h
  | some ips =>
    have hSet : ((node.withWatchdog next).record (some ips)).scanners =
        ips.foldl (fun scanners srcIp => scanners.insert srcIp) [] := hScanners
    rw [hSet]
    show ((reports (.extracted ips :: node.records)).flatten ++ _).Subperm
      (reads (.extracted ips :: node.records)).flatten
    rw [(reports_cons _ _).2, (reads_cons _ _).1, List.flatten_append, List.flatten_singleton]
    exact hReported.append (subperm_foldl_insert ips [])

/-- A call reports what it takes out of the set. -/
theorem scannerIps_append_scanners (configurator : VMTDConfigurator) (method : String)
    (params : QJsonObject) :
    VMTDEngine.scannerIps (configurator.handleMethodSlot method params).result ++
        (configurator.handleMethodSlot method params).configurator.watchdog.scanners =
      configurator.watchdog.scanners := by
  by_cases hGet : method = EnName.getScanners.text
  · subst hGet
    rw [VMTDConfigurator.handleMethodSlot_text]
    dsimp only
    rw [scannerIps_handleGetScanners]
    exact List.append_nil _
  · obtain ⟨hWatchdog, b, hResult⟩ := configurator.watchdog_handleMethodSlot hGet params
    rw [hWatchdog, hResult]
    rfl

/-- Every event at a host keeps the count. -/
theorem counted_step (h : node.Counted) (event : AlertEvent) : (node.step event).Counted := by
  cases event with
  | alertsWritten alerts => exact h
  | methodCalled method params =>
    have hSplit := scannerIps_append_scanners node.configurator method params
    show ((reports (.reported _ :: node.records)).flatten ++
      (node.configurator.handleMethodSlot method params).configurator.watchdog.scanners).Subperm
        (reads (.reported _ :: node.records)).flatten
    rw [(reports_cons _ _).1, (reads_cons _ _).2, List.flatten_append, List.flatten_singleton,
      List.append_assoc, hSplit]
    exact h
  | fileChanged => exact counted_read h (VMTDWatchdog.scanners_fileChangedSlot _ _)
  | delayTimerTick =>
    unfold step
    dsimp only
    split
    · next hActive =>
      exact counted_read h (VMTDWatchdog.scanners_delayTimerTickSlot hActive _)
    · exact h

theorem counted_run (h : node.Counted) (events : List AlertEvent) :
    (run AlertNode.step node events).Counted :=
  invariant_of_reachable h (fun _ event hCounted => counted_step hCounted event) ⟨events, rfl⟩

/-- What calls report, and what of it is handed on. -/
theorem run_methodCalled (requests : RequestList) (node : AlertNode) :
    (run AlertNode.step node (requests.map fun called =>
        .methodCalled called.1 called.2)).configurator =
      requests.foldl execute node.configurator ∧
    (run AlertNode.step node (requests.map fun called =>
        .methodCalled called.1 called.2)).alertFile = node.alertFile ∧
    ∃ new, reports (run AlertNode.step node (requests.map fun called =>
        .methodCalled called.1 called.2)).records = reports node.records ++ new ∧
      ((outcomes requests node.configurator).map VMTDEngine.scannerIps).Sublist new := by
  induction requests generalizing node with
  | nil => exact ⟨rfl, rfl, [], (List.append_nil _).symm, List.Sublist.slnil⟩
  | cons called requests ih =>
    obtain ⟨hConfigurator, hFile, new, hReports, hOutcomes⟩ :=
      ih (node.step (.methodCalled called.1 called.2))
    refine ⟨hConfigurator, hFile, VMTDEngine.scannerIps (node.configurator.handleMethodSlot
      called.1 called.2).result :: new, ?_, ?_⟩
    · rw [List.append_cons, ← (reports_cons _ _).1]
      exact hReports
    · unfold outcomes
      dsimp only
      split
      · exact hOutcomes.cons _
      · exact hOutcomes.cons_cons _

theorem reports_record (node : AlertNode) (ips : Option (List String)) :
    reports (node.record ips).records = reports node.records := by
  cases ips with
  | none => rfl
  | some ips => exact (reports_cons _ ips).2

end AlertNode

/-- Only requests for scanners have outcomes. -/
theorem length_outcomes_le (requests : RequestList) (configurator : VMTDConfigurator) :
    (outcomes requests configurator).length ≤
      requests.countP fun called => called.1 == EnName.getScanners.text := by
  induction requests generalizing configurator with
  | nil => exact Nat.le_refl 0
  | cons called requests ih =>
    have hRest := ih (execute configurator called)
    unfold outcomes
    dsimp only
    rw [List.length_append, List.countP_cons]
    by_cases hGet : called.1 = EnName.getScanners.text
    · rw [if_pos (beq_iff_eq.mpr hGet)]
      split
      · exact (Nat.zero_add _).le.trans (hRest.trans (Nat.le_succ _))
      · rw [List.length_singleton, Nat.add_comm]
        exact Nat.succ_le_succ hRest
    · obtain ⟨-, b, hResult⟩ := configurator.watchdog_handleMethodSlot hGet called.2
      rw [hResult, if_neg fun h => hGet (beq_iff_eq.mp h)]
      exact (Nat.zero_add _).le.trans hRest

-- ---------------------------------------------------------------------------
-- The fleet
-- ---------------------------------------------------------------------------

namespace Fleet

/-- The weight of the results on their way from an address. -/
def underwayAt (ip : String) (v : QJsonValue → ℕ) (connections : List Connection) : ℕ :=
  total (fun connection =>
    if connection.socket.peerAddress = ip then
      total v (connection.toServer.inFlight.flatMap fun reply => handedOn (responses reply))
    else 0) connections

/-- The results of the calls that an event has executed, with their host. -/
def outcome (fleet : Fleet) : FleetEvent → List (String × List QJsonValue)
  | .arrivesAtHost number =>
    match fleet.connections[number]? with
    | none => []
    | some connection =>
      match connection.toClient.receive with
      | none => []
      | some (document, _) =>
        [(connection.socket.peerAddress,
          outcomes ((VxlanMtd.executed (responses document)).map call)
            (fleet.hosts connection.socket.peerAddress).configurator)]
  | _ => []

variable {fleet : Fleet} {v : QJsonValue → ℕ}

/-- Connections on which no more is on its way to the server. -/
theorem underwayAt_modify_le (number : Nat) {change : Connection → Connection}
    (hSocket : ∀ connection, (change connection).socket = connection.socket)
    (hLess : ∀ connection,
      (change connection).toServer.inFlight.Sublist connection.toServer.inFlight)
    (connections : List Connection) (ip : String) :
    underwayAt ip v (connections.modify number change) ≤ underwayAt ip v connections := by
  refine total_modify_le (fun connection => ?_) number
  rw [hSocket]
  split
  · exact total_sublist ((hLess connection).flatMap _)
  · exact Nat.le_refl 0

/-- What a server sends reports nothing. -/
theorem underwayAt_foldl_send (server : VMTDServer) (signals : List HostSignal)
    (connections : List Connection) (ip : String) :
    underwayAt ip v (signals.foldl (send server) connections) ≤ underwayAt ip v connections := by
  induction signals generalizing connections with
  | nil => exact Nat.le_refl _
  | cons signal signals ih =>
    refine (ih (send server connections signal)).trans ?_
    cases signal with
    | sendMessage hostIp port data =>
      unfold send
      dsimp only
      split
      · refine underwayAt_modify_le _ ?_ ?_ connections ip
        · exact fun _ => rfl
        · exact fun _ => List.Sublist.refl _
      · exact Nat.le_refl _
    | updateIpOnline | handleResult => exact Nat.le_refl _

/-- Neither does a connection that comes or goes. -/
theorem underwayAt_connect (server : VMTDServer) (connections : List Connection)
    (event : ServerEvent) (ip : String) :
    underwayAt ip v (connect server connections event) ≤ underwayAt ip v connections := by
  cases event with
  | newConnection ip' port =>
    unfold connect underwayAt
    dsimp only
    rw [total_append, total_singleton]
    exact Nat.le_of_eq ((congrArg (_ + ·) (ite_self 0)).trans (Nat.add_zero _))
  | disconnected number =>
    refine underwayAt_modify_le number ?_ ?_ connections ip
    · exact fun _ => rfl
    · exact fun _ => Channel.sublist_cut 0
  | textMessageReceived | appendRequestList | checkQueueTimer | ticketTimeout
  | checkConnectionTimerTick => exact Nat.le_refl _

/-- **What an event does to the results of a host**: those of the calls it
executes are on their way, at most, and from there they arrive. -/
theorem arrived_step (fromJson : String → Option QJsonDocument) (fleet : Fleet)
    (event : FleetEvent) (ip : String) :
    totalAt ip v (fleet.step fromJson event).arrived +
        underwayAt ip v (fleet.step fromJson event).connections ≤
      totalAt ip v fleet.arrived + underwayAt ip v fleet.connections +
        totalAt ip (total v) (fleet.outcome event) := by
  cases event with
  | server event =>
    have hConnect := underwayAt_connect (v := v) fleet.server fleet.connections event ip
    have hSend := underwayAt_foldl_send (v := v) fleet.server
      (fleet.server.react fromJson event).2 (connect fleet.server fleet.connections event) ip
    exact Nat.add_le_add_left (hSend.trans hConnect) _
  | arrivesAtHost number =>
    unfold step outcome
    dsimp only
    cases hGet : fleet.connections[number]? with
    | none => exact Nat.le_refl _
    | some connection =>
      dsimp only
      cases connection.toClient.receive with
      | none => exact Nat.le_refl _
      | some received =>
        obtain ⟨document, toClient⟩ := received
        dsimp only
        rw [← handedOn_replyTo]
        generalize (replyTo document (fleet.hosts connection.socket.peerAddress).configurator).1 =
          reply
        have hModify := total_modify (f := fun connection : Connection =>
          if connection.socket.peerAddress = ip then
            total v (connection.toServer.inFlight.flatMap fun reply => handedOn (responses reply))
          else 0) hGet fun connection =>
            { connection with
              toClient := toClient
              toServer := connection.toServer.send reply.toList }
        -- the reply is on its way, or lost
        have hSent := total_sublist (f := v)
          ((@Channel.sublist_send _ connection.toServer reply.toList).flatMap fun reply =>
            handedOn (responses reply))
        rw [List.flatMap_append, total_append] at hSent
        rw [totalAt_singleton]
        unfold underwayAt
        dsimp only at hModify ⊢
        by_cases hKey : connection.socket.peerAddress = ip
        · simp only [if_pos hKey] at hModify ⊢
          omega
        · simp only [if_neg hKey] at hModify ⊢
          omega
  | arrivesAtServer number =>
    unfold step
    dsimp only
    cases hGet : fleet.connections[number]? with
    | none => exact Nat.le_add_right _ _
    | some connection =>
      dsimp only
      cases hReceive : connection.toServer.receive with
      | none => exact Nat.le_add_right _ _
      | some received =>
        obtain ⟨document, toServer⟩ := received
        dsimp only
        have hModify := total_modify (f := fun connection : Connection =>
          if connection.socket.peerAddress = ip then
            total v (connection.toServer.inFlight.flatMap fun reply => handedOn (responses reply))
          else 0) hGet fun connection => { connection with toServer := toServer }
        rw [Channel.inFlight_receive hReceive, List.flatMap_cons, total_append] at hModify
        rw [totalAt_append, totalAt_map]
        unfold underwayAt
        dsimp only at hModify ⊢
        by_cases hKey : connection.socket.peerAddress = ip
        · simp only [if_pos hKey] at hModify ⊢
          omega
        · simp only [if_neg hKey] at hModify ⊢
          omega
  | breaks number keepToClient keepToServer =>
    refine (Nat.add_le_add_left ?_ _).trans (Nat.le_add_right _ _)
    refine underwayAt_modify_le number ?_ ?_ fleet.connections ip
    · exact fun _ => rfl
    · exact fun _ => Channel.sublist_cut keepToServer
  | clearQueue | alertsWritten | fileChanged | delayTimerTick => exact Nat.le_add_right _ _

-- ---------------------------------------------------------------------------
-- Hosts and their reports
-- ---------------------------------------------------------------------------

/-- The requests for scanners among calls. -/
def scannerRequests (requests : RequestList) : ℕ :=
  requests.countP fun called => called.1 == EnName.getScanners.text

/-- An event of one host, as far as another is concerned. -/
theorem hosts_withHost (ip ip' : String) (event : AlertEvent) :
    (fleet.withHost ip event).hosts ip' =
      if ip' = ip then (fleet.hosts ip').step event else fleet.hosts ip' := by
  by_cases hSame : ip' = ip
  · subst hSame
    rw [if_pos rfl]
    exact Function.update_self _ _ _
  · rw [if_neg hSame]
    exact Function.update_of_ne hSame _ _

/-- The calls of a document leave the configurator that answers it. -/
theorem called_eq (document : QJsonDocument) (node : AlertNode) :
    ({ node.called ((VxlanMtd.executed (responses document)).map call) with
      configurator := (replyTo document node.configurator).2.1 } : AlertNode) =
        node.called ((VxlanMtd.executed (responses document)).map call) := by
  have hConfigurator := (AlertNode.run_methodCalled
    ((VxlanMtd.executed (responses document)).map call) node).1
  rw [configurator_replyTo, ← hConfigurator]
  rfl

/-- **What an event does to the reports of a host**: it reports the results of the
calls it executes. -/
theorem hosts_step (fromJson : String → Option QJsonDocument) (event : FleetEvent) (ip : String)
    (h : (fleet.hosts ip).Counted) :
    ((fleet.step fromJson event).hosts ip).Counted ∧
      ∀ u : List String → ℕ, total u (reports (fleet.hosts ip).records) +
        totalAt ip (total fun result => u (VMTDEngine.scannerIps result)) (fleet.outcome event) ≤
          total u (reports ((fleet.step fromJson event).hosts ip).records) := by
  have hOwn : ∀ (ip' : String) (event : AlertEvent),
      reports ((fleet.hosts ip).step event).records = reports (fleet.hosts ip).records →
      ((fleet.withHost ip' event).hosts ip).Counted ∧
        ∀ u : List String → ℕ, total u (reports (fleet.hosts ip).records) ≤
          total u (reports ((fleet.withHost ip' event).hosts ip).records) := by
    intro ip' event hReports
    rw [hosts_withHost]
    split
    · exact ⟨AlertNode.counted_step h event, fun u => Nat.le_of_eq (congrArg (total u) hReports.symm)⟩
    · exact ⟨h, fun u => Nat.le_refl _⟩
  cases event with
  | server | clearQueue | breaks => exact ⟨h, fun u => Nat.le_refl _⟩
  | arrivesAtServer number =>
    unfold step outcome
    dsimp only
    cases fleet.connections[number]? with
    | none => exact ⟨h, fun u => Nat.le_refl _⟩
    | some connection =>
      dsimp only
      cases connection.toServer.receive with
      | none => exact ⟨h, fun u => Nat.le_refl _⟩
      | some received => exact ⟨h, fun u => Nat.le_refl _⟩
  | alertsWritten ip' alerts => exact hOwn ip' (.alertsWritten alerts) rfl
  | fileChanged ip' => exact hOwn ip' .fileChanged (AlertNode.reports_record _ _)
  | delayTimerTick ip' =>
    refine hOwn ip' .delayTimerTick ?_
    unfold AlertNode.step
    dsimp only
    split
    · exact AlertNode.reports_record _ _
    · rfl
  | arrivesAtHost number =>
    unfold step outcome
    dsimp only
    cases fleet.connections[number]? with
    | none => exact ⟨h, fun u => Nat.le_refl _⟩
    | some connection =>
      dsimp only
      cases connection.toClient.receive with
      | none => exact ⟨h, fun u => Nat.le_refl _⟩
      | some received =>
        obtain ⟨document, toClient⟩ := received
        dsimp only
        rw [called_eq]
        by_cases hSame : ip = connection.socket.peerAddress
        · subst hSame
          obtain ⟨-, -, new, hReports, hOutcomes⟩ := AlertNode.run_methodCalled
            ((VxlanMtd.executed (responses document)).map call)
            (fleet.hosts connection.socket.peerAddress)
          rw [Function.update_self]
          refine ⟨AlertNode.counted_run h _, fun u => ?_⟩
          have hNew := total_sublist (f := u) hOutcomes
          rw [total_map] at hNew
          rw [totalAt_singleton, if_pos rfl, AlertNode.called, hReports, total_append]
          exact Nat.add_le_add_left hNew _
        · rw [Function.update_of_ne hSame]
          refine ⟨h, fun u => ?_⟩
          rw [totalAt_singleton, if_neg fun hEq => hSame hEq.symm]
          exact Nat.le_refl _

/-- Executed requests for scanners have the outcomes. -/
theorem outcome_step (fromJson : String → Option QJsonDocument) (fleet : Fleet)
    (event : FleetEvent) (ip : String) :
    totalAt ip scannerRequests fleet.executed +
        totalAt ip (total fun _ => 1) (fleet.outcome event) ≤
      totalAt ip scannerRequests (fleet.step fromJson event).executed := by
  cases event with
  | server | clearQueue | breaks | alertsWritten | fileChanged | delayTimerTick =>
    exact Nat.le_refl _
  | arrivesAtServer number =>
    unfold step outcome
    dsimp only
    cases fleet.connections[number]? with
    | none => exact Nat.le_refl _
    | some connection =>
      dsimp only
      cases connection.toServer.receive with
      | none => exact Nat.le_refl _
      | some received => exact Nat.le_refl _
  | arrivesAtHost number =>
    unfold step outcome
    dsimp only
    cases fleet.connections[number]? with
    | none => exact Nat.le_refl _
    | some connection =>
      dsimp only
      cases connection.toClient.receive with
      | none => exact Nat.le_refl _
      | some received =>
        obtain ⟨document, toClient⟩ := received
        dsimp only
        rw [totalAt_append, totalAt_singleton, totalAt_singleton]
        refine Nat.add_le_add_left ?_ _
        dsimp only
        split
        · rw [total_one]
          exact length_outcomes_le _ _
        · exact Nat.le_refl 0

-- ---------------------------------------------------------------------------
-- Runs
-- ---------------------------------------------------------------------------

/-- A server nobody has connected to, and hosts whose watchdogs have found nothing
yet. -/
def start (configurators : String → VMTDConfigurator) (alertFiles : String → Option String) :
    Fleet where
  hosts ip :=
    { configurator := { configurators ip with watchdog := {} }, alertFile := alertFiles ip }

/-- The invariant of a run. -/
structure Traced (fleet : Fleet) : Prop where
  counted : ∀ ip, (fleet.hosts ip).Counted
  /-- What has arrived, or is on its way, was reported. -/
  reported : ∀ (u : List String → ℕ) ip,
    totalAt ip (fun result => u (VMTDEngine.scannerIps result)) fleet.arrived +
      underwayAt ip (fun result => u (VMTDEngine.scannerIps result)) fleet.connections ≤
        total u (reports (fleet.hosts ip).records)
  /-- It is no more than was executed. -/
  requested : ∀ ip, totalAt ip (fun _ => 1) fleet.arrived +
    underwayAt ip (fun _ => 1) fleet.connections ≤ totalAt ip scannerRequests fleet.executed
  /-- Only what has arrived is handed on. -/
  handed : fleet.results ⊆ fleet.arrived

/-- What a document makes the handlers hand on. -/
theorem results_receiveDocument (document : QJsonDocument) (server : VMTDServer) :
    (server.receiveDocument document).2.filterMap HostSignal.result =
      server.hostHandlers.flatMap fun _ => handedOn (responses document) := by
  unfold VMTDServer.receiveDocument VMTDServer.each
  dsimp only
  rw [List.filterMap_flatMap]
  exact List.flatMap_congr fun entry _ => results_handleServers _ _

/-- Results are what arrives, once for each handler. -/
theorem results_step (fromJson : String → Option QJsonDocument) (fleet : Fleet)
    (event : FleetEvent) :
    ∃ ip results, (fleet.step fromJson event).arrived =
        fleet.arrived ++ results.map (fun result => (ip, result)) ∧
      (fleet.step fromJson event).results = fleet.results ++
        (fleet.server.hostHandlers.flatMap fun _ => results).map fun result => (ip, result) := by
  have hNone : ∃ ip results, fleet.arrived =
        fleet.arrived ++ List.map (fun result : QJsonValue => ((ip, result) : String × QJsonValue)) results ∧
      fleet.results = fleet.results ++
        (fleet.server.hostHandlers.flatMap fun _ => results).map fun result => (ip, result) :=
    ⟨"", [], (List.append_nil _).symm, by simp⟩
  cases event with
  | arrivesAtServer number =>
    unfold step
    dsimp only
    cases fleet.connections[number]? with
    | none => exact hNone
    | some connection =>
      dsimp only
      cases connection.toServer.receive with
      | none => exact hNone
      | some received =>
        obtain ⟨document, toServer⟩ := received
        refine ⟨connection.socket.peerAddress, handedOn (responses document), rfl, ?_⟩
        dsimp only
        rw [results_receiveDocument]
  | arrivesAtHost number =>
    unfold step
    dsimp only
    cases fleet.connections[number]? with
    | none => exact hNone
    | some connection =>
      dsimp only
      cases connection.toClient.receive with
      | none => exact hNone
      | some received => exact hNone
  | server | clearQueue | breaks | alertsWritten | fileChanged | delayTimerTick => exact hNone

/-- At the start nothing has been read, reported or handed on. -/
theorem traced_start (configurators : String → VMTDConfigurator)
    (alertFiles : String → Option String) : (start configurators alertFiles).Traced where
  counted _ := List.Subperm.refl _
  reported _ _ := Nat.le_refl 0
  requested _ := Nat.le_refl 0
  handed _ hMem := hMem

/-- **Every event keeps the trace.** -/
theorem traced_step (h : fleet.Traced) (fromJson : String → Option QJsonDocument)
    (event : FleetEvent) : (fleet.step fromJson event).Traced where
  counted ip := (hosts_step fromJson event ip (h.counted ip)).1
  reported u ip := by
    have hArrived := arrived_step (v := fun result => u (VMTDEngine.scannerIps result)) fromJson
      fleet event ip
    have hReports := (hosts_step fromJson event ip (h.counted ip)).2 u
    have hBefore := h.reported u ip
    omega
  requested ip := by
    have hArrived := arrived_step (v := fun _ => 1) fromJson fleet event ip
    have hExecuted := outcome_step fromJson fleet event ip
    have hBefore := h.requested ip
    omega
  handed := by
    obtain ⟨ip, results, hArrived, hResults⟩ := results_step fromJson fleet event
    rw [hArrived, hResults]
    refine List.append_subset.mpr ⟨List.subset_append_of_subset_left _ h.handed, ?_⟩
    refine List.subset_append_of_subset_right _ (List.map_subset _ fun result hMem => ?_)
    exact (List.mem_flatMap.mp hMem).choose_spec.2

theorem traced_run (fromJson : String → Option QJsonDocument)
    (configurators : String → VMTDConfigurator) (alertFiles : String → Option String)
    (events : List FleetEvent) : (run (step fromJson) (start configurators alertFiles) events).Traced :=
  invariant_of_reachable (traced_start configurators alertFiles)
    (fun _ event h => traced_step h fromJson event) ⟨events, rfl⟩

/-- While there are `n` handlers at most, everything is handed on `n` times at
most. -/
theorem results_run {n : ℕ} (fromJson : String → Option QJsonDocument)
    (configurators : String → VMTDConfigurator) (alertFiles : String → Option String)
    {events : List FleetEvent}
    (hHandlers : Along (step fromJson) (fun fleet _ => fleet.server.hostHandlers.length ≤ n)
      (start configurators alertFiles) events) (ip : String) :
    totalAt ip v (run (step fromJson) (start configurators alertFiles) events).results ≤
      n * totalAt ip v (run (step fromJson) (start configurators alertFiles) events).arrived := by
  refine @invariant_of_along _ _ (step fromJson) _
    (fun fleet => totalAt ip v fleet.results ≤ n * totalAt ip v fleet.arrived) _ (Nat.zero_le _)
    (fun fleet event h hHandlers => ?_) _ hHandlers
  obtain ⟨ip', results, hArrived, hResults⟩ := results_step fromJson fleet event
  rw [hArrived, hResults, totalAt_append, totalAt_append, totalAt_map, totalAt_map, Nat.mul_add]
  refine Nat.add_le_add h ?_
  split
  · have hTimes : ∀ handlers : List (String × VMTDHostProtocolHandler),
        total v (handlers.flatMap fun _ => results) = handlers.length * total v results := by
      intro handlers
      induction handlers with
      | nil => exact (Nat.zero_mul _).symm
      | cons _ handlers ih =>
        rw [List.flatMap_cons, total_append, ih, List.length_cons, Nat.succ_mul, Nat.add_comm]
    rw [hTimes]
    exact Nat.mul_le_mul_right _ hHandlers
  · exact Nat.zero_le _

/-- From every host, no more results arrive than were asked for. -/
theorem Traced.length_le (h : fleet.Traced) (hConserved : fleet.Conserved) (ip : String) :
    totalAt ip (fun _ => 1) fleet.arrived ≤ scannerRequests (under ip fleet.asked).flatten := by
  have hWeight : scannerRequests =
      total fun called => if called.1 == EnName.getScanners.text then 1 else 0 :=
    funext fun _ => (total_countP _).symm
  have hRequested := h.requested ip
  have hPart := hConserved.part
    (fun called => if called.1 == EnName.getScanners.text then 1 else 0) ip
  rw [← hWeight] at hPart
  rw [hWeight, total_flatten, total_under, ← hWeight]
  omega

/-- Of every address, no more results arrive from a host than it read. -/
theorem Traced.count_le (h : fleet.Traced) (ip address : String) :
    totalAt ip (fun result => (VMTDEngine.scannerIps result).count address) fleet.arrived ≤
      (reads (fleet.hosts ip).records).flatten.count address := by
  have hReported := h.reported (fun ips => ips.count address) ip
  have hFlatten : total (fun ips : List String => ips.count address)
      (reports (fleet.hosts ip).records) = (reports (fleet.hosts ip).records).flatten.count address := by
    rw [total_count fun ips => ips, List.flatMap_id']
  have hCounted := ((List.sublist_append_left _ _).subperm.trans (h.counted ip)).count_le address
  omega

end Fleet

/-- **Results of hosts.** In every run of the server and all its hosts, whatever
connects, is written to alert files, times out, is cleared, forged or lost: while
the server has `n` handlers at most, of no address are more occurrences handed on
from a host than `n` times those its watchdog has read from the alert file, and no
more results than `n` times the requests for scanners for that host. -/
theorem results_traced {n : ℕ} (fromJson : String → Option QJsonDocument)
    (configurators : String → VMTDConfigurator) (alertFiles : String → Option String)
    (events : List FleetEvent)
    (hHandlers : Along (Fleet.step fromJson) (fun fleet _ => fleet.server.hostHandlers.length ≤ n)
      (Fleet.start configurators alertFiles) events) (ip : String) :
    let fleet := run (Fleet.step fromJson) (Fleet.start configurators alertFiles) events
    (∀ address, ((under ip fleet.results).flatMap VMTDEngine.scannerIps).count address ≤
      n * (reads (fleet.hosts ip).records).flatten.count address) ∧
    (under ip fleet.results).length ≤ n * ((under ip fleet.asked).flatten.countP fun called =>
      called.1 == EnName.getScanners.text) := by
  have hTraced := Fleet.traced_run fromJson configurators alertFiles events
  constructor
  · intro address
    have hResults := Fleet.results_run
      (v := fun result => (VMTDEngine.scannerIps result).count address) fromJson configurators
      alertFiles hHandlers ip
    rw [← total_count, total_under]
    exact hResults.trans (Nat.mul_le_mul_left n (hTraced.count_le ip address))
  · have hResults := Fleet.results_run (v := fun _ => 1) fromJson configurators alertFiles
      hHandlers ip
    rw [← total_one, total_under]
    exact hResults.trans (Nat.mul_le_mul_left n
      (hTraced.length_le (Fleet.conserved_run fromJson _ events) ip))

/-- An alert that is read and asked for. -/
def scanEvents : List FleetEvent :=
  [.server (.newConnection "10.0.0.1" 30001), .alertsWritten "10.0.0.1" scanAlert,
    .fileChanged "10.0.0.1",
    .server (.appendRequestList "10.0.0.1" [(EnName.getScanners.text, [])]),
    .server (.checkQueueTimer "10.0.0.1"), .arrivesAtHost 0, .arrivesAtServer 0]

/-- A host that is asked once for its scanners, and reports one. -/
theorem results_traced_scan :
    let fleet := run (Fleet.step fun _ => none) (Fleet.start (fun _ => {}) fun _ => some "") scanEvents
    (∀ address, ((under "10.0.0.1" fleet.results).flatMap VMTDEngine.scannerIps).count address ≤
      1 * (reads (fleet.hosts "10.0.0.1").records).flatten.count address) ∧
    (under "10.0.0.1" fleet.results).length ≤
      1 * ((under "10.0.0.1" fleet.asked).flatten.countP fun called =>
        called.1 == EnName.getScanners.text) :=
  results_traced _ _ _ _ (by decide +kernel) _

-- ---------------------------------------------------------------------------
-- Bans
-- ---------------------------------------------------------------------------

/-- The address was read from the alert file of a host that the result came
from. -/
def AlertedIn (fleet : Fleet) (value : QJsonValue) (scannerIp : String) : Prop :=
  ∃ ip, (ip, value) ∈ fleet.results ∧
    ∃ ips, .extracted ips ∈ (fleet.hosts ip).records ∧ scannerIp ∈ ips

/-- Why a row was inserted: an alert named an address of the host's at the time of
the report. -/
def BanTrace (fleet : Fleet) (bans : List BannedScanner) (events : List EngineEvent)
    (row : BannedScanner) : Prop :=
  ∃ before settings value after, events = before ++ .result settings value :: after ∧
    ∃ scannerIp, AlertedIn fleet value scannerIp ∧ VMTDEngine.isHandled scannerIp = true ∧
      row ∈ bansFor settings (run engineStep (engineAtStart bans) before).participants scannerIp

theorem BanTrace.append {fleet : Fleet} {bans : List BannedScanner}
    {events : List EngineEvent} {row : BannedScanner} (h : BanTrace fleet bans events row)
    (event : EngineEvent) : BanTrace fleet bans (events ++ [event]) row := by
  obtain ⟨before, settings, value, after, rfl, hTrace⟩ := h
  exact ⟨before, settings, value, after ++ [event], by simp, hTrace⟩

end VxlanMtd
