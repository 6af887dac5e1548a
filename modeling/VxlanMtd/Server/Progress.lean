import VxlanMtd.Lib.Link
import VxlanMtd.Server.Exchange
import VxlanMtd.Server.TicketTimers

/-!
# Requests get through

The handler of a host is a queue with a ticket (`ticketQueue_react`), and so an
exchange hands its request lists on stage by stage: from the queue to the
channel, and from the channel to the host.

* `Exchange.Fair` — nothing is thrown away, the timers go on firing and the
  channel goes on delivering;
* `Fair.lively` — then the queue and the channel leave nothing behind;
* **`requests_eventually_executed`** — whatever was to arrive at some time has
  been executed by some later time.
-/

namespace VxlanMtd

open EventRun Progress VMTDHostProtocolHandler

-- ---------------------------------------------------------------------------
-- The handler as a queue with a ticket
-- ---------------------------------------------------------------------------

namespace VMTDHostProtocolHandler

/-- What a handler has queued, and whether it waits. -/
def ticketQueue (handler : VMTDHostProtocolHandler) : TicketQueue QJsonDocument :=
  ⟨handler.requests, handler.queueState == .waitForTicket⟩

/-- What an event is to the queue. -/
def action (fromJson : String → Option QJsonDocument) (handler : VMTDHostProtocolHandler) :
    HostEvent → TicketQueue.Action QJsonDocument
  | .appendRequestList requests =>
    .append ((handler.appendRequestListSlot requests).requests.drop handler.requests.length)
  | .checkConnection =>
    .append (handler.checkConnection.requests.drop handler.requests.length)
  | .clearQueue => .clear false
  | .messageReceived _ _ data =>
    if receivedResponses fromJson data = [] then .append [] else .giveBack
  | .checkQueueTimer => .send
  | .ticketTimeout => if handler.isTicketTimerActive then .giveBack else .append []

variable (handler : VMTDHostProtocolHandler)

/-- Responses give the ticket back. -/
theorem ticketQueue_handleServers (responses : List QJsonObject) :
    (handler.handleServers responses).1.ticketQueue =
      handler.ticketQueue.act (if responses = [] then .append [] else .giveBack) := by
  rw [(handleServers_spec responses handler).1]
  by_cases hNone : responses = []
  · rw [if_pos hNone, if_pos hNone, TicketQueue.act, List.append_nil]
  · rw [if_neg hNone, if_neg hNone]
    rfl

/-- Appending a list. -/
theorem ticketQueue_appendRequestListSlot (requests : RequestList) :
    (handler.appendRequestListSlot requests).ticketQueue = handler.ticketQueue.act
      (.append ((handler.appendRequestListSlot requests).requests.drop
        handler.requests.length)) := by
  obtain ⟨appended, hQueue, -⟩ := appendRequestListSlot_spec requests handler
  have hState := TicketRun.queueState_appendRequestListSlot requests handler
  rw [ticketQueue, hState, hQueue, List.drop_left]
  rfl

/-- **An event of the handler is an action of the queue**: what the handler
queues, sends and appends is what the queue does. -/
theorem ticketQueue_react (fromJson : String → Option QJsonDocument) (event : HostEvent) :
    (handler.react fromJson event).1.ticketQueue =
        handler.ticketQueue.act (handler.action fromJson event) ∧
      (handler.react fromJson event).2.filterMap HostSignal.message =
        handler.ticketQueue.sent (handler.action fromJson event) ∧
      (handler.react fromJson event).1.requests.drop handler.requests.length =
        (handler.action fromJson event).appended := by
  cases event with
  | appendRequestList requests =>
    exact ⟨handler.ticketQueue_appendRequestListSlot requests, rfl, rfl⟩
  | checkConnection => exact ⟨handler.ticketQueue_appendRequestListSlot _, rfl, rfl⟩
  | clearQueue =>
    refine ⟨?_, rfl, List.drop_nil⟩
    simp [react, clearQueueSlot, ticketQueue, action, TicketQueue.act]
  | messageReceived ip port data =>
    have hRequests : (handler.receiveMessageSlot fromJson ip port data).1.requests =
        handler.requests := by
      rw [receiveMessageSlot, (handleServers_spec _ handler).1]
      split <;> rfl
    refine ⟨handler.ticketQueue_handleServers _, ?_, ?_⟩
    · show (handler.handleServers _).2.filterMap HostSignal.message = _
      rw [messages_handleServers, action]
      split <;> rfl
    · show (handler.receiveMessageSlot fromJson ip port data).1.requests.drop _ = _
      rw [hRequests, List.drop_length, action]
      split <;> rfl
  | checkQueueTimer =>
    show (checkQueueTimerSlot handler).1.ticketQueue = _ ∧ _ = _ ∧
      (checkQueueTimerSlot handler).1.requests.drop _ = _
    obtain ⟨hostIp, hostPort, queueState, isTicketTimerActive, commandCounter, requests⟩ := handler
    cases requests with
    | nil => exact ⟨rfl, rfl, rfl⟩
    | cons outputDoc requests =>
      cases queueState with
      | readyToSend => exact ⟨rfl, rfl, List.drop_eq_nil_of_le (Nat.le_succ _)⟩
      | waitForTicket => exact ⟨rfl, rfl, List.drop_length⟩
  | ticketTimeout =>
    unfold react action
    dsimp only
    split
    · exact ⟨rfl, rfl, List.drop_length⟩
    · refine ⟨?_, rfl, List.drop_length⟩
      rw [TicketQueue.act, List.append_nil]

/-- Nothing but a timer's send or a message takes or gives the ticket. -/
theorem action_ne_hold (fromJson : String → Option QJsonDocument) (event : HostEvent) :
    handler.action fromJson event ≠ .hold := by
  unfold action
  cases event with
  | appendRequestList | checkConnection | clearQueue | checkQueueTimer => exact nofun
  | messageReceived | ticketTimeout =>
    dsimp only
    split <;> exact nofun

theorem not_isClear_action (fromJson : String → Option QJsonDocument) {event : HostEvent}
    (h : event ≠ .clearQueue) : ¬ (handler.action fromJson event).IsClear := by
  unfold action
  cases event with
  | appendRequestList | checkConnection | checkQueueTimer => exact id
  | clearQueue => exact absurd rfl h
  | messageReceived | ticketTimeout =>
    dsimp only
    split <;> exact id

/-- What an event appends is made of its lists. -/
theorem built_action (fromJson : String → Option QJsonDocument) (event : HostEvent) :
    (handler.action fromJson event).appended.flatMap responses =
        buildRequests handler.commandCounter event.lists.flatten ∧
      (handler.action fromJson event).appended.map calls =
        event.lists.filter fun requests => !requests.isEmpty := by
  obtain ⟨appended, hReacts, hDrop⟩ := react_spec fromJson handler event
  obtain ⟨-, -, hAction⟩ := handler.ticketQueue_react fromJson event
  rw [← hAction, hDrop]
  exact ⟨hReacts.built, hReacts.calls⟩

end VMTDHostProtocolHandler

-- ---------------------------------------------------------------------------
-- The exchange
-- ---------------------------------------------------------------------------

/-- The request lists an event appends. -/
def ExchangeEvent.lists : ExchangeEvent → List RequestList
  | .host event => event.lists
  | _ => []

namespace Exchange

variable {fromJson : String → Option QJsonDocument} {exchange : Exchange}

/-- What an event of an exchange is to the queue of its handler. -/
def action (fromJson : String → Option QJsonDocument) (exchange : Exchange) :
    ExchangeEvent → TicketQueue.Action QJsonDocument
  | .host event => exchange.handler.action fromJson event
  | .deliverToServer =>
    match exchange.toServer.receive with
    | none => .append []
    | some (document, _) => if responses document = [] then .append [] else .giveBack
  | _ => .append []

@[simp] theorem act_append_nil (queue : TicketQueue QJsonDocument) : queue.act (.append []) = queue := by
  rw [TicketQueue.act, List.append_nil]

/-- **One event**: what the queue does, and what becomes of the documents. -/
theorem step_spec (event : ExchangeEvent) (hCut : ∀ keep, event ≠ .cutToClient keep)
    (hWhole : exchange.toClient.isCut = false) :
    (exchange.step fromJson event).handler.ticketQueue =
        exchange.handler.ticketQueue.act (exchange.action fromJson event) ∧
      (exchange.step fromJson event).appended =
        exchange.appended ++ (exchange.action fromJson event).appended ∧
      (exchange.step fromJson event).delivered ++
          (exchange.step fromJson event).toClient.inFlight =
        exchange.delivered ++ exchange.toClient.inFlight ++
          exchange.handler.ticketQueue.sent (exchange.action fromJson event) ∧
      (exchange.step fromJson event).toClient.isCut = false := by
  have hNothing : ∀ {x : List QJsonDocument}, x = x ++ [] := (List.append_nil _).symm
  cases event with
  | host event =>
    obtain ⟨hQueue, hSent, hAppended⟩ := exchange.handler.ticketQueue_react fromJson event
    refine ⟨hQueue, congrArg (exchange.appended ++ ·) hAppended, ?_, ?_⟩
    · show exchange.delivered ++ (exchange.toClient.send ((exchange.handler.react fromJson
        event).2.filterMap HostSignal.message)).inFlight = _
      rw [Channel.send, hWhole, if_neg Bool.false_ne_true, hSent]
      exact (List.append_assoc _ _ _).symm
    · show (exchange.toClient.send _).isCut = false
      rw [Channel.send, hWhole, if_neg Bool.false_ne_true]
  | deliverToClient =>
    unfold step
    dsimp only
    cases hReceive : exchange.toClient.receive with
    | none => exact ⟨(act_append_nil _).symm, hNothing, hNothing, hWhole⟩
    | some received =>
      obtain ⟨document, toClient⟩ := received
      have hInFlight := Channel.inFlight_receive hReceive
      refine ⟨(act_append_nil _).symm, hNothing, ?_, ?_⟩
      · show exchange.delivered ++ [document] ++ toClient.inFlight = _ ++ []
        rw [List.append_nil, hInFlight, List.append_assoc, List.singleton_append]
      · exact (Channel.isCut_receive hReceive).trans hWhole
  | deliverToServer =>
    unfold step action
    dsimp only
    cases hReceive : exchange.toServer.receive with
    | none => exact ⟨(act_append_nil _).symm, hNothing, hNothing, hWhole⟩
    | some received =>
      obtain ⟨document, toServer⟩ := received
      refine ⟨exchange.handler.ticketQueue_handleServers _, ?_, ?_, hWhole⟩
      · dsimp only
        split <;> exact hNothing
      · dsimp only
        split <;> exact hNothing
  | cutToClient keep => exact absurd rfl (hCut keep)
  | cutToServer keep => exact ⟨(act_append_nil _).symm, hNothing, hNothing, hWhole⟩

theorem action_ne_hold (event : ExchangeEvent) : exchange.action fromJson event ≠ .hold := by
  cases event with
  | host event => exact exchange.handler.action_ne_hold fromJson event
  | deliverToServer =>
    unfold action
    dsimp only
    split
    · exact nofun
    · split <;> exact nofun
  | deliverToClient | cutToClient | cutToServer => exact nofun

theorem not_isClear_action {event : ExchangeEvent} (h : event ≠ .host .clearQueue) :
    ¬ (exchange.action fromJson event).IsClear := by
  cases event with
  | host event =>
    exact exchange.handler.not_isClear_action fromJson fun hClear => h (congrArg _ hClear)
  | deliverToServer =>
    unfold action
    dsimp only
    split
    · exact id
    · split <;> exact id
  | deliverToClient | cutToClient | cutToServer => exact id

/-- What an event appends to the queue is made of the lists it appends. -/
theorem lists_step (event : ExchangeEvent) :
    (exchange.step fromJson event).lists = exchange.lists ++ event.lists ∧
      (exchange.action fromJson event).appended.map calls =
        event.lists.filter fun requests => !requests.isEmpty := by
  cases event with
  | host event => exact ⟨rfl, (exchange.handler.built_action fromJson event).2⟩
  | deliverToServer =>
    constructor
    · unfold step
      dsimp only
      split <;> exact (List.append_nil _).symm
    · unfold action
      dsimp only
      split
      · rfl
      · split <;> rfl
  | deliverToClient =>
    refine ⟨?_, rfl⟩
    unfold step
    dsimp only
    split <;> exact (List.append_nil _).symm
  | cutToClient | cutToServer => exact ⟨(List.append_nil _).symm, rfl⟩

/-- Every event leaves the ticket timer as active as the handler waits. -/
theorem timerMatches_event (h : exchange.handler.TimerMatches) (event : ExchangeEvent) :
    (exchange.step fromJson event).handler.TimerMatches := by
  cases event with
  | host event => exact timerMatches_step fromJson h event
  | deliverToClient | deliverToServer =>
    unfold step
    dsimp only
    split
    · exact h
    · first
        | exact h
        | exact timerMatches_handleServers h _
  | cutToClient | cutToServer => exact h

/-- What has arrived stays. -/
theorem delivered_prefix_step (exchange : Exchange) (event : ExchangeEvent) :
    exchange.delivered <+: (exchange.step fromJson event).delivered := by
  cases event with
  | deliverToClient =>
    unfold step
    dsimp only
    split
    · exact List.prefix_refl _
    · exact List.prefix_append _ _
  | deliverToServer =>
    unfold step
    dsimp only
    split <;> exact List.prefix_refl _
  | host | cutToClient | cutToServer => exact List.prefix_refl _

/-- A delivery takes a message, if one is in flight. -/
theorem delivered_ne_of_inFlight (h : exchange.toClient.inFlight ≠ []) :
    (exchange.step fromJson .deliverToClient).delivered ≠ exchange.delivered := by
  unfold step
  dsimp only
  split
  · next hNone => exact absurd (Channel.receive_eq_none hNone) h
  · exact fun hSame => List.cons_ne_nil _ [] (List.append_right_eq_self.mp hSame)

/-- What has arrived at the host or is still to arrive. -/
def pending (exchange : Exchange) : List QJsonDocument :=
  exchange.delivered ++ exchange.toClient.inFlight ++ exchange.handler.requests

/-- An endless run in which nothing is thrown away, and in which the timers and
the deliveries to the host never stop. -/
structure Fair (fromJson : String → Option QJsonDocument) (initial : Exchange)
    (events : ℕ → ExchangeEvent) : Prop where
  whole : initial.toClient.isCut = false
  noClear : ∀ n, events n ≠ .host .clearQueue
  noCut : ∀ n keep, events n ≠ .cutToClient keep
  queueTimer : ∀ n, ∃ m ≥ n, events m = .host .checkQueueTimer
  /-- An active ticket timer fires, unless it is stopped. -/
  ticketTimer : ∀ n, (states (step fromJson) initial events n).handler.isTicketTimerActive = true →
    ∃ m ≥ n, events m = .host .ticketTimeout ∨
      (states (step fromJson) initial events m).handler.isTicketTimerActive = false
  delivery : ∀ n, ∃ m ≥ n, events m = .deliverToClient

namespace Fair

variable {initial : Exchange} {events : ℕ → ExchangeEvent}

theorem isCut_states (hFair : Fair fromJson initial events) (n : ℕ) :
    (states (step fromJson) initial events n).toClient.isCut = false := by
  induction n with
  | zero => exact hFair.whole
  | succ n ih => exact (step_spec (events n) (hFair.noCut n) ih).2.2.2

/-- The queue of the handler throughout a run. -/
def behaviour (hFair : Fair fromJson initial events) : TicketQueue.Behaviour QJsonDocument where
  state n := (states (step fromJson) initial events n).handler.ticketQueue
  action n := (states (step fromJson) initial events n).action fromJson (events n)
  step n := (step_spec (events n) (hFair.noCut n) (hFair.isCut_states n)).1

theorem not_isClear (hFair : Fair fromJson initial events) (n : ℕ) :
    ¬ (hFair.behaviour.action n).IsClear := not_isClear_action (hFair.noClear n)

/-- The queue and the channel to the host. -/
def link (hFair : Fair fromJson initial events) : Link QJsonDocument where
  queue := hFair.behaviour
  delivered n := (states (step fromJson) initial events n).delivered
  inFlight n := (states (step fromJson) initial events n).toClient.inFlight
  grows n := delivered_prefix_step _ (events n)
  carried n := (step_spec (events n) (hFair.noCut n) (hFair.isCut_states n)).2.2.1

theorem pending_succ (hFair : Fair fromJson initial events) (n : ℕ) :
    (states (step fromJson) initial events (n + 1)).pending =
      (states (step fromJson) initial events n).pending ++
        ((states (step fromJson) initial events n).action fromJson (events n)).appended :=
  @Link.pending_succ _ hFair.link hFair.not_isClear n

/-- A waiting handler becomes ready again. -/
theorem ready_again (hFair : Fair fromJson initial events)
    (hTimer : initial.handler.TimerMatches) (n : ℕ) :
    ∃ m ≥ n, (hFair.behaviour.state m).isWaiting = false := by
  have hMatches : ∀ m, (states (step fromJson) initial events m).handler.TimerMatches :=
    @invariant_of_states _ _ (step fromJson) (fun exchange => exchange.handler.TimerMatches) _
      hTimer (fun _ event h => timerMatches_event h event) events
  have hWaiting : ∀ m, (hFair.behaviour.state m).isWaiting =
      (states (step fromJson) initial events m).handler.isTicketTimerActive := fun m =>
    Bool.eq_iff_iff.mpr (beq_iff_eq.trans (hMatches m).symm)
  refine TicketQueue.Behaviour.ready_of_timer (fun n hWaits => ?_) n
  obtain ⟨m, hm, hTimeout | hStopped⟩ := hFair.ticketTimer n (hWaiting n ▸ hWaits)
  · by_cases hActive : (states (step fromJson) initial events m).handler.isTicketTimerActive = true
    · refine ⟨m, hm, Or.inl ?_⟩
      show action fromJson _ (events m) = _
      rw [hTimeout]
      exact if_pos hActive
    · exact ⟨m, hm, Or.inr ((hWaiting m).trans (Bool.eq_false_iff.mpr hActive))⟩
  · exact ⟨m, hm, Or.inr ((hWaiting m).trans hStopped)⟩

/-- Nothing is left behind. -/
theorem lively (hFair : Fair fromJson initial events) (hTimer : initial.handler.TimerMatches) :
    hFair.link.Lively where
  noClear := hFair.not_isClear
  served := by
    refine TicketQueue.Behaviour.served_of_fair (fun n => action_ne_hold _) (fun n => ?_)
      (hFair.ready_again hTimer)
    obtain ⟨m, hm, hAsked⟩ := hFair.queueTimer n
    refine ⟨m, hm, ?_⟩
    show action fromJson _ (events m) = _
    rw [hAsked]
    rfl
  delivery n := by
    obtain ⟨m, hm, hDelivery⟩ := hFair.delivery n
    refine ⟨m, hm, fun hInFlight => ?_⟩
    show ((states (step fromJson) initial events m).step fromJson (events m)).delivered ≠ _
    rw [hDelivery]
    exact delivered_ne_of_inFlight hInFlight

/-- **Both stages.** -/
theorem covers_pending (hFair : Fair fromJson initial events)
    (hTimer : initial.handler.TimerMatches) :
    Covers (fun n => (states (step fromJson) initial events n).delivered)
      fun n => (states (step fromJson) initial events n).pending :=
  Link.covers_pending (hFair.lively hTimer)

/-- What is to arrive, as calls: what was to arrive at first, and what was
appended since. -/
theorem calls_pending (hFair : Fair fromJson initial events) (n : ℕ) :
    ∃ lists, (states (step fromJson) initial events n).lists = initial.lists ++ lists ∧
      (states (step fromJson) initial events n).pending.map calls =
        initial.pending.map calls ++ lists.filter fun requests => !requests.isEmpty := by
  induction n with
  | zero => exact ⟨[], (List.append_nil _).symm, (List.append_nil _).symm⟩
  | succ n ih =>
    obtain ⟨lists, hLists, hCalls⟩ := ih
    obtain ⟨hNew, hAppended⟩ :=
      @lists_step fromJson (states (step fromJson) initial events n) (events n)
    refine ⟨lists ++ (events n).lists, ?_, ?_⟩
    · rw [← List.append_assoc, ← hLists]
      exact hNew
    · rw [hFair.pending_succ, List.map_append, hCalls, List.filter_append, ← List.append_assoc]
      exact congrArg (_ ++ ·) hAppended

end Fair

/-- After what was to arrive before has been executed. -/
structure CaughtUp (initial before after : Exchange) : Prop where
  /-- Every list that is not empty has arrived in one piece. -/
  calls : initial.pending.map VxlanMtd.calls ++
      ((before.lists.drop initial.lists.length).filter fun requests => !requests.isEmpty) <+:
    after.delivered.map VxlanMtd.calls
  /-- Every request that passes the checks has been executed. -/
  executed : VxlanMtd.executed (before.pending.flatMap responses) <+: after.history

end Exchange

/-- **Every request is executed.** However a run has gone so far: if from then on
the queue is not cleared, the connection to the host does not break, and the
timers and the deliveries to the host go on, then whatever was to arrive at any
time has been executed some time later, in the order of appending — even if no
reply ever reaches the server. -/
theorem requests_eventually_executed (fromJson : String → Option QJsonDocument) (ip : String)
    (port : Int) (configurator : VMTDConfigurator) (past : List ExchangeEvent)
    (events : ℕ → ExchangeEvent)
    (hFair : Exchange.Fair fromJson
      (run (Exchange.step fromJson) (Exchange.start ip port configurator) past) events) (n : ℕ) :
    ∃ m ≥ n, Exchange.CaughtUp
      (run (Exchange.step fromJson) (Exchange.start ip port configurator) past)
      (states (Exchange.step fromJson)
        (run (Exchange.step fromJson) (Exchange.start ip port configurator) past) events n)
      (states (Exchange.step fromJson)
        (run (Exchange.step fromJson) (Exchange.start ip port configurator) past) events m) := by
  have hTimer : (run (Exchange.step fromJson) (Exchange.start ip port configurator)
      past).handler.TimerMatches :=
    @invariant_of_reachable _ _ (Exchange.step fromJson)
      (fun exchange => exchange.handler.TimerMatches) _ (Exchange.start ip port configurator)
      (active_iff_waiting_of_ready rfl rfl) (fun _ event h => Exchange.timerMatches_event h event)
      ⟨past, rfl⟩
  obtain ⟨m, hm, hPrefix⟩ := hFair.covers_pending hTimer n
  obtain ⟨lists, hLists, hCalls⟩ := hFair.calls_pending n
  refine ⟨m, hm, ?_, (hPrefix.flatMap responses).filter _⟩
  rw [hLists, List.drop_left, ← hCalls]
  exact hPrefix.map _

/-- A server that checks its connection for ever, and a host that is never
heard of. -/
def checksForEver (n : ℕ) : ExchangeEvent :=
  match n % 4 with
  | 0 => .host .checkConnection
  | 1 => .host .checkQueueTimer
  | 2 => .host .ticketTimeout
  | _ => .deliverToClient

theorem checksForEver_add (n : ℕ) : checksForEver (4 * n) = .host .checkConnection ∧
    checksForEver (4 * n + 1) = .host .checkQueueTimer ∧
    checksForEver (4 * n + 2) = .host .ticketTimeout ∧
    checksForEver (4 * n + 3) = .deliverToClient := by
  simp [checksForEver]

theorem checksForEver_ne (n : ℕ) : checksForEver n ≠ .host .clearQueue ∧
    (∀ keep, checksForEver n ≠ .cutToClient keep) ∧
    ∀ requests, checksForEver n ≠ .host (.appendRequestList requests) := by
  unfold checksForEver
  split <;> exact ⟨nofun, nofun, nofun⟩

theorem fair_checksForEver {fromJson : String → Option QJsonDocument} {initial : Exchange}
    (hWhole : initial.toClient.isCut = false) : Exchange.Fair fromJson initial checksForEver where
  whole := hWhole
  noClear n := (checksForEver_ne n).1
  noCut n := (checksForEver_ne n).2.1
  queueTimer n := ⟨4 * n + 1, by omega, (checksForEver_add n).2.1⟩
  ticketTimer n _ := ⟨4 * n + 2, by omega, Or.inl (checksForEver_add n).2.2.1⟩
  delivery n := ⟨4 * n + 3, by omega, (checksForEver_add n).2.2.2⟩

/-- A list appended while the first one waits, after a queue that was cleared. -/
theorem requests_eventually_executed_checks :
    ∃ m ≥ 1, Exchange.CaughtUp
      (run (Exchange.step fun _ => none) (Exchange.start "10.0.0.1" 30001 {})
        [.host .checkConnection, .host .clearQueue, .host .checkConnection])
      (states (Exchange.step fun _ => none) (run (Exchange.step fun _ => none)
        (Exchange.start "10.0.0.1" 30001 {})
        [.host .checkConnection, .host .clearQueue, .host .checkConnection]) checksForEver 1)
      (states (Exchange.step fun _ => none) (run (Exchange.step fun _ => none)
        (Exchange.start "10.0.0.1" 30001 {})
        [.host .checkConnection, .host .clearQueue, .host .checkConnection]) checksForEver m) :=
  requests_eventually_executed _ _ _ _ _ _ (fair_checksForEver rfl) 1

end VxlanMtd
