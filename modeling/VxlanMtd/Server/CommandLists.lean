import VxlanMtd.Model.NxApi

/-!
# Command lists of one switch

A handler with an adapter and a network manager of its own, and the command
lists that were handed over and are neither answered nor timed out
(`waiting`). Connection checks take the same ticket as command lists.

* **`handedOver_alone`** — a list is handed over only while none waits, in
  every run that clears the queue only while none waits and in which a reply
  that finds the handler waiting is that of the waiting list, if there is one;
* `disorder_overlaps` — any other clearing or reply lets the next tick hand a
  second list over.
-/

namespace VxlanMtd

open EventRun VMTDNxApiProtocolHandler

/-- A switch as the server sees it. `inFlight` has the unfinished requests of
its network manager, `waiting` the numbers of those whose command list is
neither answered nor timed out. -/
structure SwitchRun where
  peer : NxApiPeer
  inFlight : List (Nat × NxApiRequest) := []
  nextNumber : Nat := 0
  waiting : List Nat := []

/-- What happens to a switch: an event of the handler, or a reply. -/
inductive SwitchEvent where
  | event (event : NxApiEvent)
  | replyFinished (number : Nat) (error : NetworkError)

namespace SwitchRun

/-- The slot of the handler that an event calls; a request can finish only
while it is in flight. -/
def slot (switchRun : SwitchRun) (event : SwitchEvent)
    (handler : VMTDNxApiProtocolHandler) : VMTDNxApiProtocolHandler × List NxApiSignal :=
  match event with
  | .event event => handler.react event
  | .replyFinished number error =>
    if switchRun.inFlight.any fun entry => entry.1 == number then
      handler.commandListExecutedSlot (error != .connectionRefusedError) (error != .noError)
    else (handler, [])

/-- The command lists that wait after an event, those it hands over apart. -/
def stillWaiting (switchRun : SwitchRun) : SwitchEvent → List Nat
  | .event .ticketTimeout =>
    if switchRun.peer.handler.isTicketTimerActive then [] else switchRun.waiting
  | .event _ => switchRun.waiting
  | .replyFinished number _ =>
    if switchRun.inFlight.any fun entry => entry.1 == number then
      switchRun.waiting.filter fun waiting => waiting != number
    else switchRun.waiting

/-- The requests in flight after an event, those it sends apart. -/
def stillInFlight (switchRun : SwitchRun) : SwitchEvent → List (Nat × NxApiRequest)
  | .event _ => switchRun.inFlight
  | .replyFinished number _ => switchRun.inFlight.filter fun entry => entry.1 != number

/-- One event. A request with a body is a command list. -/
def step (switchRun : SwitchRun) (event : SwitchEvent) : SwitchRun :=
  let called := switchRun.peer.call (switchRun.slot event)
  let sent := called.2.1.mapIdx fun i request => (switchRun.nextNumber + i, request)
  { peer := called.1
    inFlight := switchRun.stillInFlight event ++ sent
    nextNumber := switchRun.nextNumber + sent.length
    waiting := switchRun.stillWaiting event ++
      (sent.filter fun entry => entry.2.body.isSome).map Prod.fst }

/-- A command list is handed over only when no other waits. -/
def Alone (switchRun : SwitchRun) (event : SwitchEvent) : Prop :=
  ∀ commands, .executeCommandList commands ∈
      (switchRun.slot event switchRun.peer.handler).2 → switchRun.waiting = []

/-- The queue is cleared only while no list waits, and a reply that finds the
handler waiting is the reply to the list that waits. -/
def Orderly (switchRun : SwitchRun) : SwitchEvent → Prop
  | .event .clearQueue => switchRun.waiting = []
  | .event _ => True
  | .replyFinished number _ =>
    (switchRun.inFlight.any fun entry => entry.1 == number) = true →
      switchRun.peer.handler.queueState = .waitForTicket →
        switchRun.waiting ≠ [] → number ∈ switchRun.waiting

/-- At most one list waits, and the handler with it. -/
structure Settled (switchRun : SwitchRun) : Prop where
  atMostOne : switchRun.waiting.length ≤ 1
  waits : switchRun.waiting ≠ [] → switchRun.peer.handler.queueState = .waitForTicket

variable {switchRun : SwitchRun}

-- ---------------------------------------------------------------------------
-- What an event sends
-- ---------------------------------------------------------------------------

@[simp] theorem handler_step (event : SwitchEvent) :
    (switchRun.step event).peer.handler = (switchRun.slot event switchRun.peer.handler).1 := rfl

/-- A reply makes the adapter send nothing. -/
theorem requests_replyFinished (number : Nat) (error : NetworkError) :
    (switchRun.peer.call (switchRun.slot (.replyFinished number error))).2.1 = [] := by
  show (switchRun.peer.adapter.perform
    (switchRun.slot (.replyFinished number error) switchRun.peer.handler).2).2 = []
  unfold slot
  dsimp only
  split
  · unfold commandListExecutedSlot
    split <;> rfl
  · rfl

/-- Only a tick hands a command list over. -/
theorem waiting_step_of_ne {event : SwitchEvent} (h : event ≠ .event .checkQueueTimer) :
    (switchRun.step event).waiting = switchRun.stillWaiting event := by
  refine (congrArg (switchRun.stillWaiting event ++ ·) ?_).trans (List.append_nil _)
  cases event with
  | replyFinished number error => rw [requests_replyFinished]; rfl
  | event event =>
    cases event with
    | appendCommandList commands => rfl
    | checkConnection => rfl
    | clearQueue => rfl
    | checkQueueTimer => exact absurd rfl h
    | ticketTimeout =>
      -- the report of a timeout does not reach the adapter
      have hNone : (switchRun.peer.call (switchRun.slot (.event .ticketTimeout))).2.1 = [] := by
        show (switchRun.peer.adapter.perform (react switchRun.peer.handler .ticketTimeout).2).2 = []
        unfold react
        dsimp only
        split <;> rfl
      rw [hNone]
      rfl

/-- A tick hands the first list over when the handler is ready. -/
theorem step_checkQueueTimer {commands : CommandList} {queue : List CommandList}
    (hQueue : switchRun.peer.handler.queue = commands :: queue)
    (hReady : switchRun.peer.handler.queueState = .readyToSend) :
    (switchRun.step (.event .checkQueueTimer)).waiting =
        switchRun.waiting ++ [switchRun.nextNumber] ∧
      (switchRun.step (.event .checkQueueTimer)).peer.handler.queueState = .waitForTicket ∧
      (switchRun.slot (.event .checkQueueTimer) switchRun.peer.handler).2 =
        [.executeCommandList commands] := by
  have hSlot : switchRun.slot (.event .checkQueueTimer) switchRun.peer.handler =
      ({ switchRun.peer.handler with
          queueState := .waitForTicket, queue := queue, isTicketTimerActive := true },
        [.executeCommandList commands]) := by
    show checkQueueTimerSlot switchRun.peer.handler = _
    unfold checkQueueTimerSlot
    rw [hQueue, hReady]
  refine ⟨?_, ?_, ?_⟩
  · show switchRun.waiting ++ _ = _
    unfold NxApiPeer.call
    rw [hSlot]
    rfl
  · rw [handler_step, hSlot]
  · rw [hSlot]

/-- Otherwise it does nothing. -/
theorem step_checkQueueTimer_of_not (h : switchRun.peer.handler.queue = [] ∨
      switchRun.peer.handler.queueState = .waitForTicket) :
    (switchRun.step (.event .checkQueueTimer)).waiting = switchRun.waiting ∧
      (switchRun.step (.event .checkQueueTimer)).peer.handler = switchRun.peer.handler ∧
      (switchRun.slot (.event .checkQueueTimer) switchRun.peer.handler).2 = [] := by
  have hSlot : switchRun.slot (.event .checkQueueTimer) switchRun.peer.handler =
      (switchRun.peer.handler, []) := by
    show checkQueueTimerSlot switchRun.peer.handler = _
    unfold checkQueueTimerSlot
    rcases h with hQueue | hWait
    · rw [hQueue]
    · rw [hWait]
      split
      · rename_i hReady
        exact nomatch hReady
      · rfl
  refine ⟨?_, ?_, ?_⟩
  · show switchRun.waiting ++ _ = _
    unfold NxApiPeer.call
    rw [hSlot]
    exact List.append_nil _
  · rw [handler_step, hSlot]
  · rw [hSlot]

/-- A handler has nothing to hand over, or it is ready and has. -/
theorem tick_cases (switchRun : SwitchRun) :
    (switchRun.peer.handler.queue = [] ∨ switchRun.peer.handler.queueState = .waitForTicket) ∨
      ∃ commands queue, switchRun.peer.handler.queue = commands :: queue ∧
        switchRun.peer.handler.queueState = .readyToSend := by
  cases hQueue : switchRun.peer.handler.queue with
  | nil => exact Or.inl (Or.inl rfl)
  | cons commands queue =>
    cases hState : switchRun.peer.handler.queueState with
    | waitForTicket => exact Or.inl (Or.inr rfl)
    | readyToSend => exact Or.inr ⟨commands, queue, rfl, rfl⟩

-- ---------------------------------------------------------------------------
-- Steps
-- ---------------------------------------------------------------------------

/-- A ready handler has no list waiting. -/
theorem Settled.waiting_of_ready (hSettled : switchRun.Settled)
    (hReady : switchRun.peer.handler.queueState = .readyToSend) : switchRun.waiting = [] := by
  by_contra hWaiting
  exact nomatch hReady.symm.trans (hSettled.waits hWaiting)

/-- Without a waiting list a handler may be in any state. -/
theorem settled_of_nil (h : switchRun.waiting = []) : switchRun.Settled := by
  refine ⟨?_, fun hSome => absurd h hSome⟩
  rw [h]
  exact Nat.zero_le 1

/-- An event that keeps the waiting lists, and the handler waiting. -/
theorem Settled.of_same (hSettled : switchRun.Settled) {next : SwitchRun}
    (hWaiting : next.waiting = switchRun.waiting)
    (hState : switchRun.peer.handler.queueState = .waitForTicket →
      next.peer.handler.queueState = .waitForTicket) : next.Settled := by
  constructor
  · rw [hWaiting]
    exact hSettled.atMostOne
  · intro hSome
    rw [hWaiting] at hSome
    exact hState (hSettled.waits hSome)

/-- A reply that is the waiting list's leaves none. -/
theorem settled_replyFinished (hSettled : switchRun.Settled) {number : Nat} {error : NetworkError}
    (hOrderly : switchRun.Orderly (.replyFinished number error)) :
    (switchRun.step (.replyFinished number error)).Settled := by
  have hWaiting : (switchRun.step (.replyFinished number error)).waiting =
      switchRun.stillWaiting (.replyFinished number error) := waiting_step_of_ne (nomatch ·)
  by_cases hInFlight : (switchRun.inFlight.any fun entry => entry.1 == number) = true
  · have hStill : switchRun.stillWaiting (.replyFinished number error) =
        switchRun.waiting.filter fun waiting => waiting != number := if_pos hInFlight
    refine settled_of_nil ((hWaiting.trans hStill).trans ?_)
    rw [List.filter_eq_nil_iff]
    intro other hOther
    -- the handler waits, so the reply is to the one list that waits
    have hSome : switchRun.waiting ≠ [] := List.ne_nil_of_mem hOther
    have hNumber := hOrderly hInFlight (hSettled.waits hSome) hSome
    have hLength := hSettled.atMostOne
    have hSame : other = number := by
      cases hList : switchRun.waiting with
      | nil => exact absurd hList hSome
      | cons first rest =>
        rw [hList, List.length_cons] at hLength
        obtain rfl : rest = [] := List.eq_nil_of_length_eq_zero (by omega)
        rw [hList, List.mem_singleton] at hOther hNumber
        exact hOther.trans hNumber.symm
    rw [hSame, bne_self_eq_false]
    exact Bool.false_ne_true
  · refine hSettled.of_same (hWaiting.trans (if_neg hInFlight)) fun hWait => ?_
    rw [handler_step]
    show (if _ then _ else (switchRun.peer.handler, []) :
      VMTDNxApiProtocolHandler × List NxApiSignal).1.queueState = _
    rw [if_neg hInFlight]
    exact hWait

theorem settled_step (hSettled : switchRun.Settled) {event : SwitchEvent}
    (hOrderly : switchRun.Orderly event) : (switchRun.step event).Settled := by
  cases event with
  | replyFinished number error => exact settled_replyFinished hSettled hOrderly
  | event event =>
    cases event with
    | appendCommandList commands =>
      exact hSettled.of_same (waiting_step_of_ne (nomatch ·)) fun hWait => hWait
    | checkConnection => exact hSettled.of_same (waiting_step_of_ne (nomatch ·)) fun _ => rfl
    | clearQueue =>
      have hWaiting : (switchRun.step (.event .clearQueue)).waiting = switchRun.waiting :=
        waiting_step_of_ne (nomatch ·)
      exact settled_of_nil (hWaiting.trans hOrderly)
    | checkQueueTimer =>
      rcases tick_cases switchRun with hNot | ⟨commands, queue, hQueue, hReady⟩
      · obtain ⟨hWaiting, hHandler, -⟩ := step_checkQueueTimer_of_not hNot
        refine hSettled.of_same hWaiting fun hWait => ?_
        rw [hHandler]
        exact hWait
      · obtain ⟨hWaiting, hState, -⟩ := step_checkQueueTimer hQueue hReady
        rw [hSettled.waiting_of_ready hReady] at hWaiting
        refine ⟨?_, fun _ => hState⟩
        rw [hWaiting]
        exact Nat.le_refl 1
    | ticketTimeout =>
      have hWaiting : (switchRun.step (.event .ticketTimeout)).waiting =
          if switchRun.peer.handler.isTicketTimerActive then [] else switchRun.waiting :=
        waiting_step_of_ne (nomatch ·)
      by_cases hActive : switchRun.peer.handler.isTicketTimerActive = true
      · exact settled_of_nil (hWaiting.trans (if_pos hActive))
      · refine hSettled.of_same (hWaiting.trans (if_neg hActive)) fun hWait => ?_
        show (react switchRun.peer.handler .ticketTimeout).1.queueState = _
        unfold react
        dsimp only
        rw [if_neg hActive]
        exact hWait

/-- Only a tick of a ready handler hands a list over. -/
theorem ready_of_executeCommandList {event : SwitchEvent} {commands : CommandList}
    (h : .executeCommandList commands ∈ (switchRun.slot event switchRun.peer.handler).2) :
    switchRun.peer.handler.queueState = .readyToSend := by
  cases event with
  | replyFinished number error =>
    unfold slot commandListExecutedSlot at h
    dsimp only at h
    split at h
    · split at h
      · exact nomatch List.mem_singleton.mp h
      · exact absurd h List.not_mem_nil
    · exact absurd h List.not_mem_nil
  | event event =>
    cases event with
    | appendCommandList commands => exact absurd h List.not_mem_nil
    | checkConnection => exact nomatch List.mem_singleton.mp h
    | clearQueue => exact absurd h List.not_mem_nil
    | checkQueueTimer =>
      rcases tick_cases switchRun with hNot | ⟨-, -, -, hReady⟩
      · rw [(step_checkQueueTimer_of_not hNot).2.2] at h
        exact absurd h List.not_mem_nil
      · exact hReady
    | ticketTimeout =>
      unfold slot react at h
      dsimp only at h
      split at h
      · exact nomatch List.mem_singleton.mp h
      · exact absurd h List.not_mem_nil

theorem alone_of_settled (hSettled : switchRun.Settled) (event : SwitchEvent) :
    switchRun.Alone event := by
  intro commands hExecute
  exact hSettled.waiting_of_ready (ready_of_executeCommandList hExecute)

-- ---------------------------------------------------------------------------
-- What disorder brings about
-- ---------------------------------------------------------------------------

/-- Clearing the queue under a waiting list, and a reply that finds the handler
waiting but is not the list's, make the handler ready with the list waiting. -/
theorem ready_of_disorder {event : SwitchEvent} (h : ¬switchRun.Orderly event) :
    (switchRun.step event).peer.handler.queueState = .readyToSend ∧
      (switchRun.step event).waiting ≠ [] := by
  cases event with
  | event event =>
    cases event with
    | appendCommandList commands => exact absurd trivial h
    | checkConnection => exact absurd trivial h
    | clearQueue =>
      have hWaiting : (switchRun.step (.event .clearQueue)).waiting = switchRun.waiting :=
        waiting_step_of_ne (nomatch ·)
      refine ⟨rfl, ?_⟩
      rw [hWaiting]
      exact h
    | checkQueueTimer => exact absurd trivial h
    | ticketTimeout => exact absurd trivial h
  | replyFinished number error =>
    have hWaiting : (switchRun.step (.replyFinished number error)).waiting =
        switchRun.stillWaiting (.replyFinished number error) := waiting_step_of_ne (nomatch ·)
    unfold Orderly at h
    push Not at h
    obtain ⟨hInFlight, hWait, hSome, hOther⟩ := h
    constructor
    · show (if _ then _ else (switchRun.peer.handler, []) :
        VMTDNxApiProtocolHandler × List NxApiSignal).1.queueState = _
      rw [if_pos hInFlight]
      unfold commandListExecutedSlot
      rw [if_pos hWait]
    · have hStill : switchRun.stillWaiting (.replyFinished number error) =
          switchRun.waiting.filter fun waiting => waiting != number := if_pos hInFlight
      rw [hWaiting, hStill, List.filter_eq_self.mpr fun other hMem => ?_]
      · exact hSome
      · rw [bne_iff_ne]
        rintro rfl
        exact hOther hMem

/-- The converse: after an event out of order the next list that is appended can
be handed over while another waits. -/
theorem disorder_overlaps {event : SwitchEvent} (h : ¬switchRun.Orderly event)
    (commands : CommandList) :
    ¬Along step Alone switchRun
      [event, .event (.appendCommandList commands), .event .checkQueueTimer] := by
  obtain ⟨hReady, hSome⟩ := ready_of_disorder h
  rintro ⟨-, -, hAlone, -⟩
  have hWaiting : ((switchRun.step event).step (.event (.appendCommandList commands))).waiting =
      (switchRun.step event).waiting := waiting_step_of_ne (nomatch ·)
  -- the queue is not empty now, and the handler ready
  rcases tick_cases ((switchRun.step event).step (.event (.appendCommandList commands))) with
    (hQueue | hWait) | ⟨first, queue, hQueue, hState⟩
  · exact absurd hQueue (List.append_ne_nil_of_right_ne_nil _ (List.cons_ne_nil _ _))
  · exact nomatch hReady.symm.trans hWait
  · have hExecute := (step_checkQueueTimer hQueue hState).2.2
    refine hSome (hWaiting.symm.trans (hAlone first ?_))
    rw [hExecute]
    exact List.mem_singleton_self _

/-- A new switch. -/
def start (url : String) : SwitchRun where
  peer := ⟨{ url := url }, { url := url }⟩

end SwitchRun

/-- **One command list at a time**, in every run in which the queue is cleared
only while no list waits, and a reply that finds the handler waiting is the
reply to the list that waits. -/
theorem handedOver_alone {url : String} {events : List SwitchEvent}
    (h : Along SwitchRun.step SwitchRun.Orderly (SwitchRun.start url) events) :
    Along SwitchRun.step SwitchRun.Alone (SwitchRun.start url) events := by
  refine along_of_invariant (SwitchRun.settled_of_nil rfl) ?_ h
  intro switchRun event hSettled hOrderly
  exact ⟨SwitchRun.settled_step hSettled hOrderly, SwitchRun.alone_of_settled hSettled event⟩

/-- Two lists, the second after the reply to the first. -/
theorem handedOver_alone_twoLists :
    Along SwitchRun.step SwitchRun.Alone (SwitchRun.start "http://10.0.0.1")
      [.event (.appendCommandList ["conf t"]), .event (.appendCommandList ["conf t"]),
        .event .checkQueueTimer, .replyFinished 0 .noError, .event .checkQueueTimer] :=
  handedOver_alone ⟨trivial, trivial, trivial, fun _ _ _ => by decide, trivial, trivial⟩

/-- The reply to a connection check lets the second list out while the first
waits. -/
theorem check_lets_second_list_out :
    ¬ ∀ events, Along SwitchRun.step SwitchRun.Alone (SwitchRun.start "http://10.0.0.1") events := by
  intro hClaim
  have hTick := (hClaim [.event (.appendCommandList ["conf t"]),
    .event (.appendCommandList ["conf t"]), .event .checkQueueTimer, .event .checkConnection,
    .replyFinished 1 .noError, .event .checkQueueTimer]).2.2.2.2.2.1
  exact absurd (hTick ["conf t"] (by decide +kernel)) (by decide +kernel)

end VxlanMtd
