import VxlanMtd.Model.NxApi
import VxlanMtd.Server.Tickets

/-!
# Tickets and their timers

A handler waits for its ticket exactly while the ticket timer is active
(`TimerMatches`), or it could wait forever, or report its peer offline long
after the exchange.

* `hostTimer_matches` — so it is with the handler of a host, whatever happens;
* `switchTimer_matches_iff` — and with the handler of a switch as long as the
  queue is not cleared while it waits, which leaves the timer active;
* **`ticketTimers_match`** — both.
-/

namespace VxlanMtd

open EventRun

/-- A ticket that was given back: no timer is active, and nobody waits. -/
theorem active_iff_waiting_of_ready {isTicketTimerActive : Bool} {queueState : EnQueueState}
    (hStopped : isTicketTimerActive = false) (hReady : queueState = .readyToSend) :
    isTicketTimerActive = true ↔ queueState = .waitForTicket :=
  ⟨fun hActive => absurd (hStopped.symm.trans hActive) Bool.false_ne_true,
    fun hWait => nomatch hReady.symm.trans hWait⟩

-- ---------------------------------------------------------------------------
-- Hosts
-- ---------------------------------------------------------------------------

namespace VMTDHostProtocolHandler

/-- The timer is active exactly while the handler waits. -/
def TimerMatches (handler : VMTDHostProtocolHandler) : Prop :=
  handler.isTicketTimerActive = true ↔ handler.queueState = .waitForTicket

/-- The handler after an event. -/
def step (fromJson : String → Option QJsonDocument) (handler : VMTDHostProtocolHandler)
    (event : HostEvent) : VMTDHostProtocolHandler :=
  (handler.react fromJson event).1

variable {handler : VMTDHostProtocolHandler}

theorem timerMatches_appendRequestListSlot (h : handler.TimerMatches) (requests : RequestList) :
    (handler.appendRequestListSlot requests).TimerMatches := by
  unfold appendRequestListSlot
  split <;> exact h

/-- Whatever a message holds, it gives the ticket back or changes nothing. -/
theorem timerMatches_handleServers (h : handler.TimerMatches) (responses : List QJsonObject) :
    (handler.handleServers responses).1.TimerMatches := by
  rw [(handleServers_spec responses handler).1]
  split
  · exact h
  · exact active_iff_waiting_of_ready rfl rfl

theorem timerMatches_step (fromJson : String → Option QJsonDocument) (h : handler.TimerMatches)
    (event : HostEvent) : (handler.step fromJson event).TimerMatches := by
  cases event with
  | appendRequestList requests => exact timerMatches_appendRequestListSlot h requests
  | clearQueue => exact h
  | checkConnection => exact timerMatches_appendRequestListSlot h _
  | messageReceived ip port data => exact timerMatches_handleServers h _
  | checkQueueTimer =>
    show (checkQueueTimerSlot handler).1.TimerMatches
    unfold checkQueueTimerSlot
    split
    · exact ⟨fun _ => rfl, fun _ => rfl⟩
    · exact h
  | ticketTimeout =>
    unfold step react
    dsimp only
    split
    · exact active_iff_waiting_of_ready rfl rfl
    · exact h

/-- In no state of a host's handler do the two disagree. -/
theorem hostTimer_matches (fromJson : String → Option QJsonDocument) (ip : String) (port : Int)
    (events : List HostEvent) :
    (run (step fromJson) { hostIp := ip, hostPort := port } events).TimerMatches := by
  have hStart : TimerMatches { hostIp := ip, hostPort := port } :=
    active_iff_waiting_of_ready rfl rfl
  exact invariant_of_reachable hStart
    (fun _ event hMatches => timerMatches_step fromJson hMatches event) ⟨events, rfl⟩

end VMTDHostProtocolHandler

-- ---------------------------------------------------------------------------
-- Switches
-- ---------------------------------------------------------------------------

namespace VMTDNxApiProtocolHandler

/-- What reaches a handler: an event, or what its adapter makes of a reply. -/
inductive NxApiInput where
  | event (event : NxApiEvent)
  | commandListExecuted (isOnline hasError : Bool)

/-- The handler afterwards. -/
def step (handler : VMTDNxApiProtocolHandler) : NxApiInput → VMTDNxApiProtocolHandler
  | .event event => (handler.react event).1
  | .commandListExecuted isOnline hasError => (handler.commandListExecutedSlot isOnline hasError).1

/-- The timer is active exactly while the handler waits. -/
def TimerMatches (handler : VMTDNxApiProtocolHandler) : Prop :=
  handler.isTicketTimerActive = true ↔ handler.queueState = .waitForTicket

/-- The queue is cleared only while the handler does not wait. -/
def ClearsReady (handler : VMTDNxApiProtocolHandler) (input : NxApiInput) : Prop :=
  input = .event .clearQueue → handler.queueState = .readyToSend

variable {handler : VMTDNxApiProtocolHandler}

/-- Clearing the queue makes the handler ready and leaves the timer alone. -/
theorem timerMatches_clearQueueSlot_iff (h : handler.TimerMatches) :
    (clearQueueSlot handler).1.TimerMatches ↔ handler.queueState = .readyToSend := by
  constructor
  · intro hAfter
    cases hState : handler.queueState with
    | readyToSend => rfl
    | waitForTicket => exact nomatch hAfter.mp (h.mpr hState)
  · intro hReady
    refine ⟨fun hActive => ?_, fun hWait => nomatch hWait⟩
    exact nomatch hReady.symm.trans (h.mp hActive)

theorem timerMatches_step_iff (h : handler.TimerMatches) (input : NxApiInput) :
    (handler.step input).TimerMatches ↔ handler.ClearsReady input := by
  -- only clearing the queue can fail
  have hOther : input ≠ .event .clearQueue → (handler.step input).TimerMatches →
      ((handler.step input).TimerMatches ↔ handler.ClearsReady input) :=
    fun hNe hMatches => ⟨fun _ hClear => absurd hClear hNe, fun _ => hMatches⟩
  cases input with
  | commandListExecuted isOnline hasError =>
    refine hOther (nomatch ·) ?_
    unfold step commandListExecutedSlot
    dsimp only
    split
    · exact active_iff_waiting_of_ready rfl rfl
    · exact h
  | event event =>
    cases event with
    | appendCommandList commands => exact hOther (nomatch ·) h
    | checkConnection => exact hOther (nomatch ·) ⟨fun _ => rfl, fun _ => rfl⟩
    | clearQueue =>
      refine (timerMatches_clearQueueSlot_iff h).trans ⟨fun hReady _ => hReady, fun hClears => ?_⟩
      exact hClears rfl
    | checkQueueTimer =>
      refine hOther (nomatch ·) ?_
      show (checkQueueTimerSlot handler).1.TimerMatches
      unfold checkQueueTimerSlot
      split
      · exact ⟨fun _ => rfl, fun _ => rfl⟩
      · exact h
    | ticketTimeout =>
      refine hOther (nomatch ·) ?_
      unfold step react
      dsimp only
      split
      · exact active_iff_waiting_of_ready rfl rfl
      · exact h

/-- The two agree throughout a run exactly when the queue is never cleared while
the handler waits. -/
theorem switchTimer_matches_iff (url : String) (inputs : List NxApiInput) :
    Along step (fun handler input => (handler.step input).TimerMatches) { url := url } inputs ↔
      Along step ClearsReady { url := url } inputs := by
  have hStart : TimerMatches { url := url } := active_iff_waiting_of_ready rfl rfl
  exact along_iff_of_invariant hStart
    (fun _ input hMatches => timerMatches_step_iff hMatches input)
    fun _ input hMatches hClears => (timerMatches_step_iff hMatches input).mpr hClears

end VMTDNxApiProtocolHandler

/-- **Ticket timers**: the timer of a host's handler is active exactly while it
waits, in every state; that of a switch's handler throughout a run exactly when
the queue is never cleared while it waits. -/
theorem ticketTimers_match (fromJson : String → Option QJsonDocument) (ip : String) (port : Int)
    (events : List VMTDHostProtocolHandler.HostEvent) (url : String)
    (inputs : List VMTDNxApiProtocolHandler.NxApiInput) :
    (run (VMTDHostProtocolHandler.step fromJson) { hostIp := ip, hostPort := port }
      events).TimerMatches ∧
    (Along VMTDNxApiProtocolHandler.step
        (fun handler input => (handler.step input).TimerMatches) { url := url } inputs ↔
      Along VMTDNxApiProtocolHandler.step VMTDNxApiProtocolHandler.ClearsReady { url := url }
        inputs) :=
  ⟨VMTDHostProtocolHandler.hostTimer_matches fromJson ip port events,
    VMTDNxApiProtocolHandler.switchTimer_matches_iff url inputs⟩

/-- Clearing the queue during a connection check leaves the timer running. -/
theorem cleared_queue_keeps_timer :
    ¬ ∀ url inputs, Along VMTDNxApiProtocolHandler.step
        (fun handler input => (handler.step input).TimerMatches) { url := url } inputs := by
  intro hClaim
  have hCleared := (hClaim "http://10.0.0.1" [.event .checkConnection, .event .clearQueue]).2.1
  exact nomatch hCleared.mp rfl

end VxlanMtd
