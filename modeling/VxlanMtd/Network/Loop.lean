import VxlanMtd.Network.Detection

/-!
# The whole loop

The engine and the fleet, joined as `VMTDController::run` joins them: what the
engine emits reaches the server, what the server hands on reaches the engine.

Two things of the program are left out. Its signals between engine and server go
from thread to thread and are queued; here the requests of one `run` arrive
together, and a result is handled before anything else happens. And an operator
can send a host requests from the handler's form (`on_pbSend_clicked`), past the
engine; here nobody does.

* `LoopEvent` — reconfigurations in two steps, `generate` and `run`, with
  anything that may happen to the fleet before, between and after them;
* `Emitted` — what was asked for is what the engine emitted, and checks of
  connections; kept by every event;
* **`loop_executes_emitted`** — a host executes nothing but what the engine
  emitted for its address, and checks;
* **`loop_never_bans`** — none of that asks for scanners, so the table of bans
  never changes.
-/

namespace VxlanMtd

open EventRun Tally

-- ---------------------------------------------------------------------------
-- Engine and fleet
-- ---------------------------------------------------------------------------

/-- The event asks for requests. -/
def FleetEvent.isAsking : FleetEvent → Bool
  | .server (.appendRequestList _ _) => true
  | _ => false

/-- The event is a text that no host has sent. -/
def FleetEvent.isForeign : FleetEvent → Bool
  | .server (.textMessageReceived _ _) => true
  | _ => false

/-- Engine and fleet, with the record of what the engine emitted. -/
structure Loop where
  engine : VMTDEngine
  fleet : Fleet
  emitted : List (String × RequestList) := []

/-- What happens: a half of a reconfiguration, or something to the fleet, with
the settings of that time. Nobody but the engine asks for requests, so the Send
button of a handler's form is not among the events. -/
inductive LoopEvent where
  | generate (settings : VMTDSettings) (rows : List DeviceRow) (draws : Draws)
  | run (urls : List String)
  | fleet (settings : VMTDSettings) (event : FleetEvent) (h : event.isAsking = false)

/-- The event is no foreign text. -/
def LoopEvent.isOwn : LoopEvent → Bool
  | .fleet _ event _ => !event.isForeign
  | _ => true

namespace Loop

/-- The results that are new in a fleet. -/
def newResults (old new : Fleet) : List QJsonValue :=
  (new.results.drop old.results.length).map Prod.snd ++ new.foreign.drop old.foreign.length

/-- One event. A `run` with all its requests is one, and so is a message with
the results in it, although their signals are queued between the threads. -/
def step (fromJson : String → Option QJsonDocument) (loop : Loop) : LoopEvent → Loop
  | .generate settings rows draws =>
    { loop with engine := (loop.engine.generate settings rows draws).getD loop.engine }
  | .run urls =>
    let requests := (loop.engine.run urls).2
    { loop with
      fleet := EventRun.run (Fleet.step fromJson) loop.fleet
        (requests.map fun entry => .server (.appendRequestList entry.1 entry.2))
      emitted := loop.emitted ++ requests }
  | .fleet settings event _ =>
    let fleet := loop.fleet.step fromJson event
    { loop with
      fleet := fleet
      engine := (newResults loop.fleet fleet).foldl
        (fun engine result => engine.handleResultSlot settings result) loop.engine }

/-- An engine with the bans of its table, and a fleet nobody has connected to. -/
def start (bans : List BannedScanner) (configurators : String → VMTDConfigurator)
    (alertFiles : String → Option String) : Loop where
  engine := engineAtStart bans
  fleet := Fleet.start configurators alertFiles

end Loop

-- ---------------------------------------------------------------------------
-- What the engine emits
-- ---------------------------------------------------------------------------

/-- The engine never emits a request for scanners. -/
theorem ne_getScanners_of_mem_run {engine : VMTDEngine} {urls : List String}
    {entry : String × RequestList} (hEntry : entry ∈ (engine.run urls).2) :
    ∀ called ∈ entry.2, called.1 ≠ EnName.getScanners.text := by
  have hRequests : entry ∈ engine.createRequests := by
    unfold VMTDEngine.run at hEntry
    split at hEntry
    · exact absurd hEntry List.not_mem_nil
    · exact hEntry
  obtain ⟨participant, -, rfl⟩ := List.mem_map.mp hRequests
  -- the methods of the list
  have hNames : ∀ called ∈ participant.buildRequests ++
      [(EnName.setupHosts.text, engine.hosts), (EnName.applyNetplan.text, [])],
      called.1 ∈ [EnName.setupInterface1.text, EnName.clearInterface1.text,
        EnName.setupInterface2.text, EnName.clearInterface2.text, EnName.setupHosts.text,
        EnName.applyNetplan.text] := by
    unfold VMTDParticipant.buildRequests
    intro called hCalled
    rcases List.mem_append.mp hCalled with hCalled | hCalled
    · rcases List.mem_cons.mp hCalled with rfl | hCalled
      · split <;> simp
      · rw [List.mem_singleton.mp hCalled]
        split <;> simp
    · rcases List.mem_cons.mp hCalled with rfl | hCalled
      · simp
      · rw [List.mem_singleton.mp hCalled]
        simp
  intro called hCalled hGet
  have hMem := hNames called hCalled
  rw [hGet] at hMem
  revert hMem
  decide

-- ---------------------------------------------------------------------------
-- What is handed on
-- ---------------------------------------------------------------------------

/-- A handler hands on what is in messages. -/
theorem results_react_handler (fromJson : String → Option QJsonDocument)
    (handler : VMTDHostProtocolHandler) {event : VMTDHostProtocolHandler.HostEvent}
    (h : ∀ ip port data, event ≠ .messageReceived ip port data) :
    (handler.react fromJson event).2.filterMap HostSignal.result = [] := by
  cases event with
  | appendRequestList | clearQueue | checkConnection => rfl
  | messageReceived ip port data => exact absurd rfl (h ip port data)
  | checkQueueTimer =>
    unfold VMTDHostProtocolHandler.react VMTDHostProtocolHandler.checkQueueTimerSlot
    dsimp only
    split <;> rfl
  | ticketTimeout =>
    unfold VMTDHostProtocolHandler.react
    dsimp only
    split <;> rfl

/-- So do all handlers. -/
theorem VMTDServer.results_react (fromJson : String → Option QJsonDocument) (server : VMTDServer)
    {event : ServerEvent} (h : ∀ number data, event ≠ .textMessageReceived number data) :
    (server.react fromJson event).2.filterMap HostSignal.result = [] := by
  by_cases hKeeps : KeepsSockets event
  · rw [react_eq server hKeeps, each, List.filterMap_flatMap]
    refine List.flatMap_eq_nil_iff.mpr fun entry _ => ?_
    cases hTold : server.told entry.1 event with
    | none => rfl
    | some hostEvent =>
      refine results_react_handler fromJson entry.2 fun ip port data hEq => ?_
      subst hEq
      cases event with
      | textMessageReceived number data => exact h number data rfl
      | newConnection | disconnected => exact hKeeps
      | checkConnectionTimerTick => cases hTold
      | appendRequestList ip' | checkQueueTimer ip' | ticketTimeout ip' =>
        unfold told at hTold
        dsimp only at hTold
        split at hTold <;> cases hTold
  · cases event with
    | newConnection ip port => rfl
    | disconnected number =>
      unfold react
      dsimp only
      split <;> rfl
    | textMessageReceived | appendRequestList | checkQueueTimer | ticketTimeout
    | checkConnectionTimerTick => exact absurd trivial hKeeps

-- ---------------------------------------------------------------------------
-- What is asked for
-- ---------------------------------------------------------------------------

namespace Fleet

/-- What is asked for by an event that asks for no request is a check. -/
theorem checks_of_quiet {fleet : Fleet} {event : FleetEvent} (h : event.isAsking = false) :
    ∀ entry ∈ fleet.asking event, entry.2 = [(EnName.checkConnection.text, [])] := by
  intro entry hEntry
  cases event with
  | server event =>
    cases event with
    | appendRequestList => cases h
    | checkConnectionTimerTick =>
      obtain ⟨handler, -, rfl⟩ := List.mem_map.mp hEntry
      rfl
    | newConnection | disconnected | textMessageReceived | checkQueueTimer | ticketTimeout =>
      exact absurd hEntry List.not_mem_nil
  | clearQueue | arrivesAtHost | arrivesAtServer | breaks | alertsWritten | fileChanged
  | delayTimerTick => exact absurd hEntry List.not_mem_nil

/-- Foreign results come from foreign texts. -/
theorem foreign_step (fromJson : String → Option QJsonDocument) (fleet : Fleet) {event : FleetEvent}
    (h : event.isForeign = false) : (fleet.step fromJson event).foreign = fleet.foreign := by
  cases event with
  | server event =>
    show fleet.foreign ++ (fleet.server.react fromJson event).2.filterMap HostSignal.result =
      fleet.foreign
    rw [VMTDServer.results_react, List.append_nil]
    intro number data hEq
    rw [hEq] at h
    cases h
  | clearQueue | breaks | alertsWritten | fileChanged | delayTimerTick => rfl
  | arrivesAtHost number | arrivesAtServer number =>
    unfold step
    dsimp only
    split
    · rfl
    · split <;> rfl

/-- Requests alone: they are all that is asked for, and nothing is handed on. -/
theorem asks_run (fromJson : String → Option QJsonDocument) (fleet : Fleet)
    (requests : List (String × RequestList)) :
    (run (step fromJson) fleet
        (requests.map fun entry => .server (.appendRequestList entry.1 entry.2))).asked =
      fleet.asked ++ requests ∧
    (run (step fromJson) fleet
        (requests.map fun entry => .server (.appendRequestList entry.1 entry.2))).foreign =
      fleet.foreign := by
  induction requests generalizing fleet with
  | nil => exact ⟨(List.append_nil _).symm, rfl⟩
  | cons entry requests ih =>
    obtain ⟨hAsked, hForeign⟩ :=
      ih (fleet.step fromJson (.server (.appendRequestList entry.1 entry.2)))
    refine ⟨hAsked.trans ?_, hForeign.trans (foreign_step fromJson fleet rfl)⟩
    rw [asked_step, List.append_assoc]
    rfl

end Fleet

-- ---------------------------------------------------------------------------
-- Runs
-- ---------------------------------------------------------------------------

namespace Loop

/-- The invariant of every run. -/
structure Emitted (loop : Loop) : Prop where
  conserved : loop.fleet.Conserved
  traced : loop.fleet.Traced
  /-- What was asked for, but for checks, was emitted. -/
  asked : ∀ w ip, w (EnName.checkConnection.text, []) = 0 →
    totalAt ip (total w) loop.fleet.asked ≤ totalAt ip (total w) loop.emitted
  /-- Nobody asks for scanners. -/
  silent : ∀ entry ∈ loop.fleet.asked, ∀ called ∈ entry.2, called.1 ≠ EnName.getScanners.text

variable {loop : Loop}

theorem emitted_start (bans : List BannedScanner) (configurators : String → VMTDConfigurator)
    (alertFiles : String → Option String) : (start bans configurators alertFiles).Emitted where
  conserved := Fleet.conserved_start _
  traced := Fleet.traced_start configurators alertFiles
  asked _ _ _ := Nat.le_refl 0
  silent _ hMem := absurd hMem List.not_mem_nil

theorem emitted_step (h : loop.Emitted) (fromJson : String → Option QJsonDocument)
    (event : LoopEvent) : (loop.step fromJson event).Emitted := by
  cases event with
  | generate settings rows draws => exact ⟨h.conserved, h.traced, h.asked, h.silent⟩
  | run urls =>
    obtain ⟨hAsked, -⟩ := Fleet.asks_run fromJson loop.fleet (loop.engine.run urls).2
    constructor
    · exact invariant_of_reachable h.conserved
        (fun _ event hConserved => Fleet.conserved_step hConserved fromJson event) ⟨_, rfl⟩
    · exact invariant_of_reachable h.traced
        (fun _ event hTraced => Fleet.traced_step hTraced fromJson event) ⟨_, rfl⟩
    · intro w ip hCheck
      have hBefore := h.asked w ip hCheck
      unfold step
      dsimp only
      rw [hAsked, totalAt_append, totalAt_append]
      omega
    · intro entry hEntry
      unfold step at hEntry
      dsimp only at hEntry
      rw [hAsked] at hEntry
      rcases List.mem_append.mp hEntry with hEntry | hEntry
      · exact h.silent entry hEntry
      · exact ne_getScanners_of_mem_run hEntry
  | fleet settings event hQuiet =>
    have hAsked := Fleet.asked_step fromJson loop.fleet event
    have hChecks := @Fleet.checks_of_quiet loop.fleet event hQuiet
    refine ⟨Fleet.conserved_step h.conserved fromJson event,
      Fleet.traced_step h.traced fromJson event, fun w ip hCheck => ?_, fun entry hEntry => ?_⟩
    · have hBefore := h.asked w ip hCheck
      have hNothing : totalAt ip (total w) (loop.fleet.asking event) = 0 :=
        total_zero fun entry hEntry => by
          rw [hChecks entry hEntry, total_singleton, hCheck]
          exact ite_self 0
      unfold step
      dsimp only
      rw [hAsked, totalAt_append, hNothing]
      exact hBefore
    · unfold step at hEntry
      dsimp only at hEntry
      rw [hAsked] at hEntry
      rcases List.mem_append.mp hEntry with hEntry | hEntry
      · exact h.silent entry hEntry
      · intro called hCalled
        rw [hChecks entry hEntry, List.mem_singleton] at hCalled
        rw [hCalled]
        decide

theorem emitted_run (fromJson : String → Option QJsonDocument) (bans : List BannedScanner)
    (configurators : String → VMTDConfigurator) (alertFiles : String → Option String)
    (events : List LoopEvent) :
    (EventRun.run (step fromJson) (start bans configurators alertFiles) events).Emitted :=
  invariant_of_reachable (emitted_start bans configurators alertFiles)
    (fun _ event h => emitted_step h fromJson event) ⟨events, rfl⟩

/-- Nothing ever arrives. -/
theorem Emitted.arrived (h : loop.Emitted) : loop.fleet.arrived = [] := by
  refine List.eq_nil_iff_forall_not_mem.mpr fun entry hEntry => ?_
  have hArrived := totalAt_of_mem (f := fun _ => 1) hEntry
  have hLength := h.traced.length_le h.conserved entry.1
  have hNone : Fleet.scannerRequests (under entry.1 loop.fleet.asked).flatten = 0 := by
    refine List.countP_eq_zero.mpr fun called hCalled => ?_
    obtain ⟨requests, hRequests, hCalled⟩ := List.mem_flatten.mp hCalled
    obtain ⟨entry', hMem, hEq⟩ := List.mem_filterMap.mp hRequests
    split at hEq
    · obtain rfl := Option.some.inj hEq
      simpa using h.silent entry' hMem called hCalled
    · cases hEq
  omega

end Loop

/-- **Hosts do what the engine emitted.** In every run of the engine, the server
and all hosts, with whatever reconfigurations, connections, breaks, timeouts,
forged texts and losses in any order: but for checks of the connection, every host
executes only calls that the engine emitted for its address, and none more often
than it was emitted. -/
theorem loop_executes_emitted (fromJson : String → Option QJsonDocument)
    (bans : List BannedScanner) (configurators : String → VMTDConfigurator)
    (alertFiles : String → Option String) (events : List LoopEvent) (ip : String) :
    let loop := run (Loop.step fromJson) (Loop.start bans configurators alertFiles) events
    ((under ip loop.fleet.executed).flatten.filter fun called =>
        called.1 != EnName.checkConnection.text).Subperm (under ip loop.emitted).flatten := by
  have h := Loop.emitted_run fromJson bans configurators alertFiles events
  refine subperm_of_total fun w => ?_
  -- the weights, with none for checks
  let w' : String × QJsonObject → ℕ := fun called =>
    if called.1 != EnName.checkConnection.text then w called else 0
  have hPart := h.conserved.part w' ip
  have hAsked := h.asked w' ip (if_neg (by simp))
  have hLess : totalAt ip (total w') (run (Loop.step fromJson)
      (Loop.start bans configurators alertFiles) events).emitted ≤
        totalAt ip (total w) (run (Loop.step fromJson)
          (Loop.start bans configurators alertFiles) events).emitted := by
    rw [← total_under, ← total_under, ← total_flatten, ← total_flatten]
    refine total_le_total fun called _ => ?_
    show (if called.1 != EnName.checkConnection.text then w called else 0) ≤ w called
    split
    · exact Nat.le_refl _
    · exact Nat.zero_le _
  rw [total_filter, total_flatten, total_flatten, total_under, total_under]
  show totalAt ip (total w') _ ≤ _
  omega

namespace Loop

variable {loop : Loop}

/-- Without foreign texts, no result reaches the engine. -/
theorem foldl_newResults {old new : Fleet} (hResults : new.results = []) (hForeign : new.foreign = [])
    (settings : VMTDSettings) (engine : VMTDEngine) :
    (newResults old new).foldl (fun engine result => engine.handleResultSlot settings result) engine =
      engine := by
  have hNone : newResults old new = [] := by
    unfold newResults
    rw [hResults, hForeign, List.drop_nil, List.drop_nil]
    rfl
  rw [hNone, List.foldl_nil]

/-- What no event changes. -/
structure Blind (bans : List BannedScanner) (loop : Loop) : Prop where
  emitted : loop.Emitted
  foreign : loop.fleet.foreign = []
  bans : loop.engine.manager.bannedScanners = bans

theorem Emitted.results (h : loop.Emitted) : loop.fleet.results = [] :=
  List.subset_nil.mp (h.arrived ▸ h.traced.handed)

theorem blind_step {bans : List BannedScanner} (h : loop.Blind bans)
    (fromJson : String → Option QJsonDocument) {event : LoopEvent} (hOwn : event.isOwn = true) :
    (loop.step fromJson event).Blind bans := by
  have hEmitted := emitted_step h.emitted fromJson event
  cases event with
  | generate settings rows draws =>
    refine ⟨hEmitted, h.foreign, ?_⟩
    unfold step
    dsimp only
    cases hRun : VMTDEngine.generate settings rows draws loop.engine with
    | none => exact h.bans
    | some engine => exact (generate_frame hRun).1.trans h.bans
  | run urls =>
    exact ⟨hEmitted, (Fleet.asks_run fromJson loop.fleet _).2.trans h.foreign, h.bans⟩
  | fleet settings event hQuiet =>
    have hForeign : (loop.fleet.step fromJson event).foreign = [] :=
      (Fleet.foreign_step fromJson loop.fleet (Bool.not_eq_true' _ ▸ hOwn)).trans h.foreign
    have hResults : (loop.fleet.step fromJson event).results = [] := hEmitted.results
    refine ⟨hEmitted, hForeign, ?_⟩
    unfold step
    dsimp only
    rw [foldl_newResults hResults hForeign]
    exact h.bans

end Loop

/-- **No alert leads to a ban.** In every run of the engine, the server and all
hosts in which the hosts are the only ones to send: whatever the watchdogs read,
no result is ever handed on, and the table of bans stays as it was at the start. -/
theorem loop_never_bans (fromJson : String → Option QJsonDocument) (bans : List BannedScanner)
    (configurators : String → VMTDConfigurator) (alertFiles : String → Option String)
    (events : List LoopEvent) (hOwn : ∀ event ∈ events, event.isOwn = true) :
    let loop := run (Loop.step fromJson) (Loop.start bans configurators alertFiles) events
    loop.fleet.results = [] ∧ loop.engine.manager.bannedScanners = bans := by
  have h : (run (Loop.step fromJson) (Loop.start bans configurators alertFiles) events).Blind bans :=
    invariant_of_run ⟨Loop.emitted_start bans configurators alertFiles, rfl, rfl⟩
      fun event hEvent _ hBlind => Loop.blind_step hBlind fromJson (hOwn event hEvent)
  exact ⟨h.emitted.results, h.bans⟩

/-- A reconfiguration, and an alert that is read. -/
def loopEvents : List LoopEvent :=
  [.fleet {} (.server (.newConnection "10.0.0.1" 30001)) rfl,
    .generate {} twoRows (twoGroups 1), .run ["http://switch"],
    .fleet {} (.server (.checkQueueTimer "10.0.0.1")) rfl, .fleet {} (.arrivesAtHost 0) rfl,
    .fleet {} (.alertsWritten "10.0.0.1" scanAlert) rfl, .fleet {} (.fileChanged "10.0.0.1") rfl,
    .fleet {} (.arrivesAtServer 0) rfl, .fleet {} (.server .checkConnectionTimerTick) rfl]

theorem loop_never_bans_scan :
    let loop := run (Loop.step fun _ => none) (Loop.start [] (fun _ => {}) fun _ => some "") loopEvents
    loop.fleet.results = [] ∧ loop.engine.manager.bannedScanners = [] :=
  loop_never_bans _ _ _ _ _ (by decide)

end VxlanMtd
