import VxlanMtd.Network.Envelope
import VxlanMtd.Server.Progress
import Mathlib.Data.Set.Finite.Lattice

/-!
# Convergence

Hosts that are told what a reconfiguration emits, each over an exchange of its
own, in which documents are delayed and replies are lost.

* `applied` — the configurations a list of calls applies;
* `applied_step` — it is what the host of an exchange has applied so far;
* `HostRun.Receives` — the list of a host is appended to its queue, and nothing
  but connection checks afterwards;
* `eventually_history` — then the host executes it, and nothing but connection
  checks afterwards;
* **`eventually_delivers`** — all hosts do so in the end, and the network
  delivers from then on.
-/

namespace VxlanMtd

open EventRun Forwarding Progress VMTDHostProtocolHandler

-- ---------------------------------------------------------------------------
-- What is applied
-- ---------------------------------------------------------------------------

/-- The configurations applied by calls, one after the other. -/
def applied : RequestList → VMTDConfigurator → List Application
  | [], _ => []
  | called :: requests, configurator =>
    (configurator.handleMethodSlot called.1 called.2).application.toList ++
      applied requests (execute configurator called)

theorem applied_append (requests more : RequestList) (configurator : VMTDConfigurator) :
    applied (requests ++ more) configurator =
      applied requests configurator ++ applied more (requests.foldl execute configurator) := by
  induction requests generalizing configurator with
  | nil => rfl
  | cons called requests ih =>
    rw [List.cons_append, applied, applied, ih, List.append_assoc, List.foldl_cons]

/-- What a message applies is what its accepted calls apply. -/
theorem applied_handleClients (requests : List QJsonObject) (configurator : VMTDConfigurator) :
    (handleClients requests configurator).2.2 =
      applied ((executed requests).map call) configurator := by
  induction requests generalizing configurator with
  | nil => rfl
  | cons request requests ih =>
    show (handleClient request configurator).2.2.toList ++
      (handleClients requests (handleClient request configurator).2.1).2.2 = _
    rw [ih]
    unfold executed handleClient
    rw [List.filter_cons]
    cases requestError request with
    | some error => rfl
    | none => rfl

theorem applied_replyTo (document : QJsonDocument) (configurator : VMTDConfigurator) :
    (replyTo document configurator).2.2 =
      applied ((executed (responses document)).map call) configurator := by
  cases document with
  | object request =>
    rw [responses, ← applied_handleClients]
    exact (List.append_nil _).symm
  | array elements => exact applied_handleClients _ configurator

/-- Connection checks change nothing. -/
theorem applied_checks {checks : RequestList}
    (h : ∀ called ∈ checks, called = (EnName.checkConnection.text, []))
    (configurator : VMTDConfigurator) : applied checks configurator = [] := by
  induction checks with
  | nil => rfl
  | cons called checks ih =>
    have hSame : execute configurator (EnName.checkConnection.text, []) = configurator := rfl
    rw [h called List.mem_cons_self, applied, hSame,
      ih fun c hc => h c (List.mem_cons_of_mem _ hc)]
    rfl

namespace Exchange

variable {fromJson : String → Option QJsonDocument} {initial : VMTDConfigurator}
  {exchange : Exchange}

/-- The configurations the host of an exchange has applied. -/
def applied (initial : VMTDConfigurator) (exchange : Exchange) : List Application :=
  VxlanMtd.applied (exchange.history.map call) initial

/-- **A message that arrives** applies what the host makes of it, and no other
event applies anything. -/
theorem applied_step (h : Ordered initial exchange) (event : ExchangeEvent) :
    (exchange.step fromJson event).applied initial = exchange.applied initial ++
      match event with
      | .deliverToClient =>
        match exchange.toClient.receive with
        | none => []
        | some (document, _) => (replyTo document exchange.configurator).2.2
      | _ => [] := by
  cases event with
  | deliverToClient =>
    unfold step
    dsimp only
    cases exchange.toClient.receive with
    | none => exact (List.append_nil _).symm
    | some received =>
      obtain ⟨document, toClient⟩ := received
      show VxlanMtd.applied ((executed ((exchange.delivered ++ [document]).flatMap
        responses)).map call) initial = _ ++ (replyTo document exchange.configurator).2.2
      rw [applied_replyTo, List.flatMap_append, List.flatMap_singleton, executed,
        List.filter_append, List.map_append, applied_append, h.state]
      rfl
  | deliverToServer =>
    unfold step
    dsimp only
    split <;> exact (List.append_nil _).symm
  | host | cutToClient | cutToServer => exact (List.append_nil _).symm

end Exchange

-- ---------------------------------------------------------------------------
-- Hosts
-- ---------------------------------------------------------------------------

/-- An exchange with a host that has had some past, and its endless future. -/
structure HostRun where
  fromJson : String → Option QJsonDocument
  port : Int
  configurator : VMTDConfigurator
  past : List ExchangeEvent
  events : ℕ → ExchangeEvent

namespace HostRun

/-- The present. -/
def initial (hostRun : HostRun) (ip : String) : Exchange :=
  run (Exchange.step hostRun.fromJson) (Exchange.start ip hostRun.port hostRun.configurator)
    hostRun.past

/-- The exchange at a time from now on. -/
def state (hostRun : HostRun) (ip : String) (n : ℕ) : Exchange :=
  states (Exchange.step hostRun.fromJson) (hostRun.initial ip) hostRun.events n

/-- A list is appended at some time, and nothing but connection checks later. -/
structure Receives (hostRun : HostRun) (ip : String) (requests : RequestList) : Prop where
  fair : Exchange.Fair hostRun.fromJson (hostRun.initial ip) hostRun.events
  last : ∃ n, hostRun.events n = .host (.appendRequestList requests) ∧
    ∀ m > n, ∀ later, hostRun.events m ≠ .host (.appendRequestList later)

variable {hostRun : HostRun} {ip : String}

theorem timerMatches_initial (hostRun : HostRun) (ip : String) :
    (hostRun.initial ip).handler.TimerMatches :=
  @invariant_of_reachable _ _ (Exchange.step hostRun.fromJson)
    (fun exchange => exchange.handler.TimerMatches) _
    (Exchange.start ip hostRun.port hostRun.configurator) (active_iff_waiting_of_ready rfl rfl)
    (fun _ event h => Exchange.timerMatches_event h event) ⟨hostRun.past, rfl⟩

/-- Once nothing but connection checks is appended, nothing else is still to
arrive in addition. -/
theorem pending_checks (hFair : Exchange.Fair hostRun.fromJson (hostRun.initial ip) hostRun.events)
    {n : ℕ} (hChecks : ∀ m ≥ n, ∀ later, hostRun.events m ≠ .host (.appendRequestList later))
    {m : ℕ} (hm : n ≤ m) :
    ∃ rest, (hostRun.state ip m).pending = (hostRun.state ip n).pending ++ rest ∧
      ∀ document ∈ rest, calls document = [(EnName.checkConnection.text, [])] := by
  induction hm with
  | refl => exact ⟨[], (List.append_nil _).symm, fun _ hMem => absurd hMem List.not_mem_nil⟩
  | @step m hm ih =>
    obtain ⟨rest, hRest, hAll⟩ := ih
    refine ⟨rest ++ ((hostRun.state ip m).action hostRun.fromJson (hostRun.events m)).appended,
      ?_, fun document hDocument => ?_⟩
    · rw [← List.append_assoc, ← hRest]
      exact hFair.pending_succ m
    · rcases List.mem_append.mp hDocument with hMem | hMem
      · exact hAll document hMem
      · -- the event can append a check only
        have hCalls := List.mem_map_of_mem (f := calls) hMem
        rw [(Exchange.lists_step _).2] at hCalls
        have hList := (List.mem_filter.mp hCalls).1
        have hOther := hChecks m hm
        cases hEvent : hostRun.events m with
        | host event =>
          rw [hEvent] at hList hOther
          cases event with
          | appendRequestList requests => exact absurd rfl (hOther requests)
          | checkConnection => exact List.mem_singleton.mp hList
          | clearQueue | messageReceived | checkQueueTimer | ticketTimeout =>
            exact absurd hList List.not_mem_nil
        | deliverToClient | deliverToServer | cutToClient | cutToServer =>
          rw [hEvent] at hList
          exact absurd hList List.not_mem_nil

/-- A list that is appended is still to arrive. -/
theorem pending_appendRequestList
    (hFair : Exchange.Fair hostRun.fromJson (hostRun.initial ip) hostRun.events) {n : ℕ}
    {requests : RequestList} (h : hostRun.events n = .host (.appendRequestList requests)) :
    ∃ documents, (hostRun.state ip (n + 1)).pending =
        (hostRun.state ip n).pending ++ documents ∧
      documents.flatMap responses =
        buildRequests (hostRun.state ip n).handler.commandCounter requests := by
  obtain ⟨documents, hQueue, -, hBuilt, -⟩ :=
    appendRequestListSlot_spec requests (hostRun.state ip n).handler
  refine ⟨documents, (hFair.pending_succ n).trans ?_, hBuilt⟩
  rw [h]
  refine congrArg ((hostRun.state ip n).pending ++ ·) ?_
  show ((hostRun.state ip n).handler.appendRequestListSlot requests).requests.drop _ = _
  exact (congrArg (List.drop _) hQueue).trans List.drop_left

/-- **What a host executes in the end**: whatever it executed before, the list,
and connection checks. -/
theorem eventually_history {requests : RequestList} (h : hostRun.Receives ip requests)
    (hValid : ∀ counter, executed (buildRequests counter requests) =
      buildRequests counter requests) :
    ∃ before n, ∀ m ≥ n, ∃ checks,
      (hostRun.state ip m).history.map call = before ++ requests ++ checks ∧
      ∀ called ∈ checks, called = (EnName.checkConnection.text, []) := by
  obtain ⟨hFair, n, hAppend, hLast⟩ := h
  obtain ⟨documents, hPending, hBuilt⟩ := pending_appendRequestList hFair hAppend
  obtain ⟨k, hk, hArrived⟩ := hFair.covers_pending (hostRun.timerMatches_initial ip) (n + 1)
  refine ⟨(executed ((hostRun.state ip n).pending.flatMap responses)).map call, k,
    fun m hm => ?_⟩
  -- what has arrived by then is part of what was to arrive
  obtain ⟨rest, hRest, hChecks⟩ := pending_checks hFair (fun m hm => hLast m hm) (hk.le.trans hm)
  have hGrows : Growing fun n => (hostRun.state ip n).delivered :=
    fun n => Exchange.delivered_prefix_step _ _
  obtain ⟨arrived, hDelivered⟩ := hArrived.trans (hGrows.mono hm)
  have hWithin : (hostRun.state ip m).delivered <+: (hostRun.state ip m).pending := by
    rw [Exchange.pending, List.append_assoc]
    exact List.prefix_append _ _
  rw [hRest] at hWithin
  have hArrivedRest : arrived <+: rest := by
    refine (List.prefix_append_right_inj _).mp (?_ : (hostRun.state ip (n + 1)).pending ++ arrived <+: _)
    exact hDelivered ▸ hWithin
  refine ⟨(executed (arrived.flatMap responses)).map call, ?_, fun called hCalled => ?_⟩
  · have hRequests : (executed (documents.flatMap responses)).map call = requests := by
      rw [hBuilt, hValid, map_call_buildRequests]
    rw [← hRequests, Exchange.history, ← hDelivered]
    show (executed (((hostRun.state ip (n + 1)).pending ++ arrived).flatMap responses)).map call = _
    rw [hPending, List.flatMap_append, List.flatMap_append]
    simp only [executed, List.filter_append, List.map_append]
  · obtain ⟨request, hRequest, rfl⟩ := List.mem_map.mp hCalled
    obtain ⟨document, hDocument, hMem⟩ :=
      List.mem_flatMap.mp (List.mem_filter.mp hRequest).1
    have hCheck := List.mem_map_of_mem (f := call) hMem
    rw [show (responses document).map call = _ from
      hChecks document (hArrivedRest.subset hDocument)] at hCheck
    exact List.mem_singleton.mp hCheck

/-- The host as the network sees it. -/
def node (hostRun : HostRun) (ip : String) (plug : String × String) (n : ℕ) : NetworkNode where
  application := ((hostRun.state ip n).applied hostRun.configurator).getLast?
  plug := plug

/-- What the host has applied last, in the end, is what it applies of the list. -/
theorem eventually_application {requests : RequestList} (h : hostRun.Receives ip requests)
    (hValid : ∀ counter, executed (buildRequests counter requests) =
      buildRequests counter requests)
    (hApplies : ∀ configurator, applied requests configurator ≠ []) :
    ∃ configurator n, ∀ m ≥ n, ((hostRun.state ip m).applied hostRun.configurator).getLast? =
      (applied requests configurator).getLast? := by
  obtain ⟨before, n, hHistory⟩ := eventually_history h hValid
  refine ⟨before.foldl execute hostRun.configurator, n, fun m hm => ?_⟩
  obtain ⟨checks, hCalls, hChecks⟩ := hHistory m hm
  rw [Exchange.applied, hCalls, applied_append, applied_append, applied_checks hChecks,
    List.append_nil, List.getLast?_append_of_ne_nil _ (hApplies _)]

end HostRun

-- ---------------------------------------------------------------------------
-- The network
-- ---------------------------------------------------------------------------

/-- `Delivers`, over ports and nodes however they came about. -/
def VMTDEngine.DeliversOver (engine : VMTDEngine) (ports : SwitchPorts)
    (nodes : List NetworkNode) : Prop :=
  ∀ p < engine.participants.length, ∀ (q : Nat) (r : VMTDParticipant),
    engine.participants[q]? = some r →
      ∃ node application address dest path,
        nodes[p]? = some node ∧ node.application = some application ∧
        resolve application.hosts r.hostDomainName = some address ∧
        readAddress address = some dest ∧
        (configuredNetwork ports nodes).HopSequence dest p path ∧
        path.Nodup ∧ engine.Crosses p q path

variable {engine : VMTDEngine} {q : VMTDParticipant}

/-- The requests of a participant pass the checks, whatever their numbers. -/
theorem executed_calls (engine : VMTDEngine) (q : VMTDParticipant) (counter : Int) :
    executed (buildRequests counter ((q.calls engine.hosts).map fun call =>
        (call.1.text, call.2))) =
      buildRequests counter ((q.calls engine.hosts).map fun call => (call.1.text, call.2)) := by
  refine List.filter_eq_self.mpr fun request hRequest => ?_
  rw [(handleClients_buildRequests (hasParams_calls engine q) counter {}).1 request hRequest]
  rfl

/-- The calls of a participant apply one configuration. -/
theorem applied_calls (engine : VMTDEngine) (q : VMTDParticipant)
    (configurator : VMTDConfigurator) :
    applied ((q.calls engine.hosts).map fun call => (call.1.text, call.2)) configurator =
      (handleClients (buildRequests 0 ((q.calls engine.hosts).map fun call =>
        (call.1.text, call.2))) configurator).2.2 := by
  rw [applied_handleClients, executed_calls, map_call_buildRequests]

/-- Hosts whose last application, from some time on, is what the calls of their
participants apply are as if they had handled the requests at once, from some
state of their own. -/
theorem configuredNodes_of_last (h : engine.Deployable) (urls : List String)
    (application : String → ℕ → Option Application)
    (hLast : ∀ q ∈ engine.participants, ∃ configurator n, ∀ m ≥ n, application q.hostIp m =
      (applied ((q.calls engine.hosts).map fun call => (call.1.text, call.2)) configurator).getLast?) :
    ∃ configurators n, ∀ clock : String → ℕ, (∀ ip, n ≤ clock ip) →
      (engine.participants.map fun q => { application := application q.hostIp (clock q.hostIp),
                                          plug := q.plug : NetworkNode }) =
        engine.configuredNodes (engine.run urls).2 (fun _ => 0) configurators := by
  have hEach : ∀ ip, ∃ configurator n, ∀ q ∈ engine.participants, q.hostIp = ip → ∀ m ≥ n,
      application ip m = (applied ((q.calls engine.hosts).map fun call => (call.1.text, call.2))
        configurator).getLast? := by
    intro ip
    by_cases hSome : ∃ q ∈ engine.participants, q.hostIp = ip
    · obtain ⟨q, hq, rfl⟩ := hSome
      obtain ⟨configurator, n, hEnd⟩ := hLast q hq
      refine ⟨configurator, n, fun q' hq' hSame m hm => ?_⟩
      rw [List.inj_on_of_nodup_map h.hostIps hq' hq hSame]
      exact hEnd m hm
    · exact ⟨{}, 0, fun q hq hIp => absurd ⟨q, hq, hIp⟩ hSome⟩
  choose configurators times hEnd using hEach
  obtain ⟨n, hn⟩ := (List.finite_toSet (engine.participants.map fun q => times q.hostIp)).bddAbove
  refine ⟨configurators, n, fun clock hClock => List.map_congr_left fun q hq => ?_⟩
  have hTime : times q.hostIp ≤ clock q.hostIp :=
    (hn (List.mem_map_of_mem hq)).trans (hClock _)
  unfold VMTDParticipant.configuredNode
  dsimp only
  rw [hEnd q.hostIp q hq rfl _ hTime, applied_calls, emitted_of_participant h hq,
    List.map_singleton, handleMessages_singleton]

/-- The calls of a participant apply something. -/
theorem applied_calls_ne (engine : VMTDEngine) (q : VMTDParticipant)
    (configurator : VMTDConfigurator) :
    applied ((q.calls engine.hosts).map fun call => (call.1.text, call.2)) configurator ≠ [] := by
  obtain ⟨configured, hApplied, -⟩ := applications_calls engine q 0 configurator
  rw [applied_calls, hApplied]
  exact List.cons_ne_nil _ _

/-- The request list emitted for a participant. -/
theorem calls_mem_run (h : engine.Deployable) (hq : q ∈ engine.participants) (urls : List String) :
    (q.hostIp, (q.calls engine.hosts).map fun call => (call.1.text, call.2)) ∈
      (engine.run urls).2 := by
  have hEmitted := List.mem_singleton_self
    (q.hostIp, (q.calls engine.hosts).map fun call => (call.1.text, call.2))
  rw [← emitted_of_participant h hq urls] at hEmitted
  exact List.mem_of_mem_filter hEmitted

/-- The hosts of a reconfiguration end up as if they had handled its requests at
once, from some state of their own. -/
theorem eventually_configuredNodes (h : engine.Deployable) {urls : List String}
    {hosts : String → HostRun}
    (hHosts : ∀ list ∈ (engine.run urls).2, (hosts list.1).Receives list.1 list.2) :
    ∃ configurators n, ∀ clock : String → ℕ, (∀ ip, n ≤ clock ip) →
      (engine.participants.map fun q => (hosts q.hostIp).node q.hostIp q.plug (clock q.hostIp)) =
        engine.configuredNodes (engine.run urls).2 (fun _ => 0) configurators :=
  configuredNodes_of_last h urls
    (fun ip n => (((hosts ip).state ip n).applied (hosts ip).configurator).getLast?) fun q hq =>
    HostRun.eventually_application (hHosts _ (calls_mem_run h hq urls)) (executed_calls engine q)
      (applied_calls_ne engine q)

/-- **The network delivers in the end.** Under safe settings, whatever the tables
of registered hosts hold, whatever is drawn, and whatever went on before: if the
switches have executed the commands of a reconfiguration, and each host is sent
its requests over an exchange that goes on fairly, and only connection checks
afterwards, then from some time on every host finds and reaches every other by
its name, at whatever later times the hosts are looked at. -/
theorem eventually_delivers {settings : VMTDSettings} {rows : List DeviceRow} {draws : Draws}
    {engine engine' : VMTDEngine} {urls : List String}
    (h : VMTDEngine.generate settings rows draws engine = some engine')
    (hTwo : 2 ≤ engine'.participants.length)
    (hSafe : SafeSettings settings engine'.participants.length) (hRows : RegisteredRows rows)
    (hUrls : engine'.UrlSet urls) (ports : SwitchPorts) {hosts : String → HostRun}
    (hHosts : ∀ list ∈ (engine'.run urls).2, (hosts list.1).Receives list.1 list.2) :
    ∃ n, ∀ clock : String → ℕ, (∀ ip, n ≤ clock ip) →
      engine'.DeliversOver (ports.execute (engine'.run urls).1)
        (engine'.participants.map fun q =>
          (hosts q.hostIp).node q.hostIp q.plug (clock q.hostIp)) := by
  rw [length_participants_generate h] at hTwo hSafe
  obtain ⟨π, hF, rfl⟩ := generate_refines h hTwo
  have hRegistered : π.engine.Registered := registered_of_rows hRows
  obtain ⟨configurators, n, hNodes⟩ :=
    eventually_configuredNodes (π.deployable hTwo hRegistered) hHosts
  refine ⟨n, fun clock hClock => ?_⟩
  rw [hNodes clock hClock]
  exact π.delivers_engine (sound_of_safe h hTwo hSafe hF) hTwo hRegistered hUrls ports _ _

/-- A run that begins with a list. -/
def HostRun.beginning (requests : RequestList) : HostRun where
  fromJson := fun _ => none
  port := 30001
  configurator := {}
  past := []
  events n := match n with
    | 0 => .host (.appendRequestList requests)
    | n + 1 => checksForEver n

theorem HostRun.receives_beginning (ip : String) (requests : RequestList) :
    (HostRun.beginning requests).Receives ip requests := by
  have hLater : ∀ n, (HostRun.beginning requests).events (n + 1) = checksForEver n := fun _ => rfl
  have hOther : ∀ n event, (HostRun.beginning requests).events n = event →
      event = .host (.appendRequestList requests) ∨ ∃ m, event = checksForEver m := by
    rintro n event rfl
    cases n with
    | zero => exact Or.inl rfl
    | succ n => exact Or.inr ⟨n, rfl⟩
  refine ⟨⟨rfl, fun n h => ?_, fun n keep h => ?_, fun n => ?_, fun n _ => ?_, fun n => ?_⟩,
    0, rfl, fun m hm later h => ?_⟩
  · rcases hOther n _ h with hEq | ⟨m, hEq⟩
    · exact nomatch hEq
    · exact (checksForEver_ne m).1 hEq.symm
  · rcases hOther n _ h with hEq | ⟨m, hEq⟩
    · exact nomatch hEq
    · exact (checksForEver_ne m).2.1 keep hEq.symm
  · exact ⟨4 * n + 2, by omega, (hLater _).trans (checksForEver_add n).2.1⟩
  · exact ⟨4 * n + 3, by omega, Or.inl ((hLater _).trans (checksForEver_add n).2.2.1)⟩
  · exact ⟨4 * n + 4, by omega, (hLater _).trans (checksForEver_add n).2.2.2⟩
  · obtain ⟨m, rfl⟩ : ∃ k, m = k + 1 := ⟨m - 1, by omega⟩
    exact (checksForEver_ne m).2.2 later h

/-- Hosts that begin with what was emitted for them. -/
def HostRun.told (emitted : List (String × RequestList)) (ip : String) : HostRun :=
  HostRun.beginning ((emitted.lookup ip).getD [])

/-- Two hosts on one switch, and a server that hears of neither. -/
theorem eventually_delivers_twoRows :
    ∃ engine', VMTDEngine.generate {} twoRows (twoGroups 1) {} = some engine' ∧
      ∃ n, ∀ clock : String → ℕ, (∀ ip, n ≤ clock ip) →
        engine'.DeliversOver (SwitchPorts.execute (fun _ => none) (engine'.run ["http://leaf"]).1)
          (engine'.participants.map fun q =>
            (HostRun.told (engine'.run ["http://leaf"]).2 q.hostIp).node q.hostIp q.plug
              (clock q.hostIp)) := by
  have hRun : (VMTDEngine.generate {} twoRows (twoGroups 1) {}).any (fun engine' =>
      decide (engine'.participants.length = 2 ∧
        (∀ q ∈ engine'.participants, q.switchUrl = "http://leaf") ∧
        ((engine'.run ["http://leaf"]).2.map Prod.fst).Nodup)) = true := by
    decide +kernel
  obtain ⟨engine', hEngine, hAll⟩ := Option.any_eq_true _ _ |>.mp hRun
  obtain ⟨hTwo, hUrl, hNodup⟩ := of_decide_eq_true hAll
  have hSome : engine'.participants ≠ [] := List.ne_nil_of_length_pos (by omega)
  have hHosts : ∀ list ∈ (engine'.run ["http://leaf"]).2,
      (HostRun.told (engine'.run ["http://leaf"]).2 list.1).Receives list.1 list.2 := by
    intro list hList
    rw [HostRun.told, (Table.lookup_eq_some_iff_mem hNodup).mpr hList]
    exact HostRun.receives_beginning _ _
  refine ⟨engine', hEngine, eventually_delivers hEngine hTwo.ge ?_ ?_
    (urlSet_singleton hSome hUrl) _ hHosts⟩
  · rw [hTwo]
    exact ⟨⟨by decide, by decide, by decide⟩, rfl, by decide, fun _ => by decide,
      fun hRandom => absurd hRandom (by decide), by decide⟩
  · exact ⟨by decide, by decide, by decide, by decide, by decide⟩

end VxlanMtd
