import VxlanMtd.Lib.Ticketed
import VxlanMtd.Server.TicketTimers

/-!
# Command lists get through

A handler of a switch is a queue with a ticket (`ticketQueue_step`) that a
connection check takes without sending anything. Its adapter posts the commands
of the lists that were handed over.

* `SwitchTraffic` — an endless run of a handler and its adapter;
* `posted_eq` — the commands that were posted, with the ids of the counter;
* `checks_starve` — ticks and replies without end are not enough;
* **`commandLists_sent_iff`** — nothing is lost, doubled or overtaken, and
  everything is handed over in the end exactly if a handler with lists left is
  always asked for one again while it is ready.
-/

namespace VxlanMtd

open EventRun Progress VMTDNxApiProtocolHandler VMTDNxApiAdapter

-- ---------------------------------------------------------------------------
-- The handler as a queue with a ticket
-- ---------------------------------------------------------------------------

namespace VMTDNxApiProtocolHandler

/-- What a handler has queued, and whether it waits. -/
def ticketQueue (handler : VMTDNxApiProtocolHandler) : TicketQueue CommandList :=
  ⟨handler.queue, handler.queueState == .waitForTicket⟩

/-- The slot an input calls. -/
def NxApiInput.slot (input : NxApiInput) (handler : VMTDNxApiProtocolHandler) :
    VMTDNxApiProtocolHandler × List NxApiSignal :=
  match input with
  | .event told => handler.react told
  | .commandListExecuted isOnline hasError => handler.commandListExecutedSlot isOnline hasError

/-- What an input is to the queue. -/
def action (handler : VMTDNxApiProtocolHandler) : NxApiInput → TicketQueue.Action CommandList
  | .event (.appendCommandList commands) => .append [commands]
  | .event .checkConnection => .hold
  | .event .clearQueue => .clear true
  | .event .checkQueueTimer => .send
  | .event .ticketTimeout => if handler.isTicketTimerActive then .giveBack else .append []
  | .commandListExecuted _ _ => .giveBack

end VMTDNxApiProtocolHandler

/-- The list a signal hands over. -/
def NxApiSignal.commandList : NxApiSignal → Option CommandList
  | .executeCommandList commands => some commands
  | _ => none

namespace VMTDNxApiProtocolHandler

variable (handler : VMTDNxApiProtocolHandler)

/-- **An input of the handler is an action of the queue**: what the handler
queues and hands over is what the queue does. -/
theorem ticketQueue_step (input : NxApiInput) :
    (input.slot handler).1.ticketQueue = handler.ticketQueue.act (handler.action input) ∧
      (input.slot handler).2.filterMap NxApiSignal.commandList =
        handler.ticketQueue.sent (handler.action input) := by
  obtain ⟨url, queueState, isTicketTimerActive, queue⟩ := handler
  cases input with
  | commandListExecuted isOnline hasError =>
    cases queueState with
    | readyToSend => exact ⟨rfl, rfl⟩
    | waitForTicket => exact ⟨rfl, rfl⟩
  | event event =>
    cases event with
    | appendCommandList commands => exact ⟨rfl, rfl⟩
    | checkConnection => exact ⟨rfl, rfl⟩
    | clearQueue =>
      refine ⟨?_, rfl⟩
      show (⟨[], false⟩ : TicketQueue CommandList) = ⟨[], _ && false⟩
      rw [Bool.and_false]
    | checkQueueTimer =>
      cases queue with
      | nil => exact ⟨rfl, rfl⟩
      | cons commands queue =>
        cases queueState with
        | readyToSend => exact ⟨rfl, rfl⟩
        | waitForTicket => exact ⟨rfl, rfl⟩
    | ticketTimeout =>
      cases isTicketTimerActive with
      | true => exact ⟨rfl, rfl⟩
      | false =>
        refine ⟨?_, rfl⟩
        show (⟨queue, _⟩ : TicketQueue CommandList) = ⟨queue ++ [], _⟩
        rw [List.append_nil]
        rfl

/-- Only the slot for it clears the queue. -/
theorem not_isClear_action {input : NxApiInput} (h : input ≠ .event .clearQueue) :
    ¬ (handler.action input).IsClear := by
  cases input with
  | commandListExecuted => exact id
  | event event =>
    cases event with
    | clearQueue => exact absurd rfl h
    | appendCommandList | checkConnection | checkQueueTimer => exact id
    | ticketTimeout =>
      unfold action
      dsimp only
      split <;> exact id

/-- Only a tick of the queue timer asks for a list. -/
theorem action_eq_send_iff {input : NxApiInput} :
    handler.action input = .send ↔ input = .event .checkQueueTimer := by
  constructor
  · intro h
    cases input with
    | commandListExecuted => exact nomatch h
    | event event =>
      cases event with
      | checkQueueTimer => rfl
      | appendCommandList | checkConnection | clearQueue => exact nomatch h
      | ticketTimeout =>
        unfold action at h
        dsimp only at h
        split at h <;> exact nomatch h
  · rintro rfl
    rfl

end VMTDNxApiProtocolHandler

-- ---------------------------------------------------------------------------
-- The adapter
-- ---------------------------------------------------------------------------

/-- The ids go on where the first commands end. -/
theorem commandObjs_append (commandCounter : Int32) (commands more : CommandList) :
    commandObjs commandCounter (commands ++ more) =
      commandObjs commandCounter commands ++
        commandObjs (commandCounter + Int32.ofNat commands.length) more := by
  induction commands generalizing commandCounter with
  | nil => simp [commandObjs]
  | cons command commands ih =>
    rw [List.cons_append, commandObjs, commandObjs, ih, List.cons_append, List.length_cons,
      Nat.add_comm, Int32.ofNat_add, Int32.add_assoc]
    rfl

/-- As long as the counter does not overflow, the ids are consecutive. -/
theorem commandObjs_eq_mapIdx {commandCounter : Int32} {commands : CommandList}
    (h : commandCounter.toInt + commands.length < 2 ^ 31) :
    commandObjs commandCounter commands =
      commands.mapIdx fun i command => .object (commandObj (commandCounter.toInt + i) command) := by
  induction commands generalizing commandCounter with
  | nil => rfl
  | cons command commands ih =>
    rw [List.length_cons] at h
    push_cast at h
    have hLow := Int32.le_toInt commandCounter
    have hNext : (commandCounter + 1).toInt = commandCounter.toInt + 1 := by
      rw [Int32.toInt_add, Int32.toInt_one, Int.bmod_eq_of_le]
      · omega
      · omega
    rw [commandObjs, List.mapIdx_cons, ih (by omega), hNext]
    congr 1
    · rw [Int.natCast_zero, Int.add_zero]
    · refine congrArg (fun f => List.mapIdx f commands) ?_
      funext i command
      rw [Int.add_assoc, Int.add_comm 1]
      rfl

/-- What an adapter posts: the commands of the lists, numbered. -/
theorem perform_spec (signals : List NxApiSignal) (adapter : VMTDNxApiAdapter) :
    (adapter.perform signals).1.commandCounter = adapter.commandCounter +
        Int32.ofNat (signals.filterMap NxApiSignal.commandList).flatten.length ∧
      ((adapter.perform signals).2.filterMap NxApiRequest.body).flatten =
        commandObjs adapter.commandCounter
          (signals.filterMap NxApiSignal.commandList).flatten := by
  induction signals generalizing adapter with
  | nil => exact ⟨(Int32.add_zero _).symm, rfl⟩
  | cons signal signals ih =>
    cases signal with
    | checkConnection => exact ih adapter
    | updateUrlOnline url isOnline => exact ih adapter
    | executeCommandList commands =>
      obtain ⟨hCounter, hBodies⟩ := ih (adapter.executeCommandListSlot commands).1
      constructor
      · show ((adapter.executeCommandListSlot commands).1.perform signals).1.commandCounter =
          adapter.commandCounter + Int32.ofNat
            (commands ++ (signals.filterMap NxApiSignal.commandList).flatten).length
        rw [hCounter, List.length_append, Int32.ofNat_add]
        exact Int32.add_assoc _ _ _
      · show commandObjs adapter.commandCounter commands ++
          ((((adapter.executeCommandListSlot commands).1.perform signals).2.filterMap
            NxApiRequest.body).flatten) = commandObjs adapter.commandCounter
              (commands ++ (signals.filterMap NxApiSignal.commandList).flatten)
        rw [hBodies, commandObjs_append]
        rfl

-- ---------------------------------------------------------------------------
-- Endless runs
-- ---------------------------------------------------------------------------

/-- An endless run of a handler and its adapter. -/
structure SwitchTraffic where
  url : String
  inputs : ℕ → NxApiInput

namespace SwitchTraffic

variable (traffic : SwitchTraffic)

/-- Handler and adapter at a time. -/
def peer : ℕ → NxApiPeer :=
  states (fun peer input => (peer.call (NxApiInput.slot input)).1)
    ⟨{ url := traffic.url }, { url := traffic.url }⟩ traffic.inputs

/-- What comes of the input at a time: requests and signals. -/
def outcome (n : ℕ) : List NxApiRequest × List NxApiSignal :=
  ((traffic.peer n).call (NxApiInput.slot (traffic.inputs n))).2

/-- The lists handed over before a time. -/
def handedOver (n : ℕ) : List CommandList :=
  (List.range n).flatMap fun i => (traffic.outcome i).2.filterMap NxApiSignal.commandList

/-- The commands posted before a time. -/
def posted (n : ℕ) : QJsonArray :=
  (List.range n).flatMap fun i => ((traffic.outcome i).1.filterMap NxApiRequest.body).flatten

/-- The lists an input appends. -/
def lists : NxApiInput → List CommandList
  | .event (.appendCommandList commands) => [commands]
  | _ => []

/-- The lists appended before a time. -/
def appended (n : ℕ) : List CommandList :=
  (List.range n).flatMap fun i => lists (traffic.inputs i)

/-- The queue of the handler throughout a run. -/
def behaviour : TicketQueue.Behaviour CommandList where
  state n := (traffic.peer n).handler.ticketQueue
  action n := (traffic.peer n).handler.action (traffic.inputs n)
  step n := ((traffic.peer n).handler.ticketQueue_step (traffic.inputs n)).1

theorem handedOver_eq (n : ℕ) : traffic.handedOver n = traffic.behaviour.sentBy n :=
  List.flatMap_congr fun i _ => ((traffic.peer i).handler.ticketQueue_step (traffic.inputs i)).2

theorem lists_eq (handler : VMTDNxApiProtocolHandler) (input : NxApiInput) :
    lists input = (handler.action input).appended := by
  cases input with
  | commandListExecuted => rfl
  | event event =>
    cases event with
    | appendCommandList | checkConnection | clearQueue | checkQueueTimer => rfl
    | ticketTimeout =>
      unfold VMTDNxApiProtocolHandler.action
      dsimp only
      split <;> rfl

theorem appended_eq (n : ℕ) : traffic.appended n = traffic.behaviour.givenBy n :=
  List.flatMap_congr fun i _ => lists_eq (traffic.peer i).handler (traffic.inputs i)

/-- **What is posted** is what was handed over, numbered from the first command
on. -/
theorem posted_eq (n : ℕ) :
    (traffic.peer n).adapter.commandCounter =
        1 + Int32.ofNat (traffic.handedOver n).flatten.length ∧
      traffic.posted n = commandObjs 1 (traffic.handedOver n).flatten := by
  induction n with
  | zero => exact ⟨rfl, rfl⟩
  | succ n ih =>
    obtain ⟨hCounter, hPosted⟩ := ih
    have hPerform := perform_spec (traffic.outcome n).2 (traffic.peer n).adapter
    have hRange : ∀ {α : Type} (f : ℕ → List α),
        (List.range (n + 1)).flatMap f = (List.range n).flatMap f ++ f n := fun f => by
      rw [List.range_succ, List.flatMap_append, List.flatMap_singleton]
    have hHanded : traffic.handedOver (n + 1) = traffic.handedOver n ++
        (traffic.outcome n).2.filterMap NxApiSignal.commandList := hRange _
    have hNow : traffic.posted (n + 1) = traffic.posted n ++
        ((traffic.outcome n).1.filterMap NxApiRequest.body).flatten := hRange _
    constructor
    · rw [hHanded, List.flatten_append, List.length_append, Int32.ofNat_add]
      refine hPerform.1.trans ?_
      rw [hCounter]
      exact Int32.add_assoc _ _ _
    · rw [hNow, hHanded, hPosted, List.flatten_append, commandObjs_append, ← hCounter]
      exact congrArg (_ ++ ·) hPerform.2

/-- A handler with lists left is asked for one again while it is ready. -/
def Served : Prop :=
  ∀ n, (traffic.peer n).handler.queue ≠ [] → ∃ m ≥ n,
    traffic.inputs m = .event .checkQueueTimer ∧
      (traffic.peer m).handler.queueState = .readyToSend

theorem not_isClear (h : ∀ n, traffic.inputs n ≠ .event .clearQueue) (n : ℕ) :
    ¬ (traffic.behaviour.action n).IsClear :=
  not_isClear_action _ (h n)

/-- The handler is served when its queue is. -/
theorem served_iff : traffic.behaviour.Served ↔ traffic.Served := by
  have hReady : ∀ m, ((traffic.peer m).handler.queueState == .waitForTicket) = false ↔
      (traffic.peer m).handler.queueState = .readyToSend := by
    intro m
    cases (traffic.peer m).handler.queueState <;> decide
  refine forall_congr' fun n => imp_congr_right fun _ => exists_congr fun m => ?_
  exact and_congr_right fun _ => and_congr (action_eq_send_iff _) (hReady m)

end SwitchTraffic

/-- A list now and then, each between two replies, with a connection check
before every tick. -/
def checkedTraffic : SwitchTraffic where
  url := "http://10.0.0.1"
  inputs n := match n % 4 with
    | 0 => .event (.appendCommandList ["conf t"])
    | 1 => .event .checkConnection
    | 2 => .event .checkQueueTimer
    | _ => .commandListExecuted true false

theorem inputs_checkedTraffic (n : ℕ) :
    n % 4 = 0 ∧ checkedTraffic.inputs n = .event (.appendCommandList ["conf t"]) ∨
      n % 4 = 1 ∧ checkedTraffic.inputs n = .event .checkConnection ∨
      n % 4 = 2 ∧ checkedTraffic.inputs n = .event .checkQueueTimer ∨
      n % 4 = 3 ∧ checkedTraffic.inputs n = .commandListExecuted true false := by
  obtain h | h | h | h : n % 4 = 0 ∨ n % 4 = 1 ∨ n % 4 = 2 ∨ n % 4 = 3 := by omega
  all_goals simp [checkedTraffic, h]

/-- In this run the handler waits at every tick. -/
theorem waits_checkedTraffic (n : ℕ) :
    (checkedTraffic.peer n).handler.queueState = .waitForTicket ↔ 2 ≤ n % 4 := by
  induction n with
  | zero => decide
  | succ n ih =>
    show ((checkedTraffic.inputs n).slot (checkedTraffic.peer n).handler).1.queueState = _ ↔ _
    obtain ⟨hn, h⟩ | ⟨hn, h⟩ | ⟨hn, h⟩ | ⟨hn, h⟩ := inputs_checkedTraffic n
    · rw [h]
      exact ih.trans (by omega)
    · rw [h]
      exact iff_of_true rfl (by omega)
    · rw [h]
      have hWait := ih.mpr (by omega)
      refine iff_of_true ?_ (by omega)
      show (checkQueueTimerSlot (checkedTraffic.peer n).handler).1.queueState = _
      unfold checkQueueTimerSlot
      split
      · rfl
      · exact hWait
    · rw [h]
      have hWait := ih.mpr (by omega)
      refine iff_of_false ?_ (by omega)
      show (commandListExecutedSlot true false (checkedTraffic.peer n).handler).1.queueState ≠ _
      rw [commandListExecutedSlot, if_pos hWait]
      exact nofun

/-- **Ticks and replies without end are not enough**: connection checks can keep
every list from being handed over. -/
theorem checks_starve :
    ∃ traffic : SwitchTraffic, (∀ n, traffic.inputs n ≠ .event .clearQueue) ∧
      (∀ n, ∃ m ≥ n, traffic.inputs m = .event .checkQueueTimer) ∧
      (∀ n, ∃ m ≥ n, traffic.inputs m = .commandListExecuted true false) ∧
      traffic.appended 1 = [["conf t"]] ∧ ∀ n, traffic.handedOver n = [] := by
  refine ⟨checkedTraffic, fun n => ?_, fun n => ⟨4 * n + 2, by omega, ?_⟩,
    fun n => ⟨4 * n + 3, by omega, ?_⟩, rfl, fun n => ?_⟩
  · obtain ⟨-, h⟩ | ⟨-, h⟩ | ⟨-, h⟩ | ⟨-, h⟩ := inputs_checkedTraffic n
    all_goals
      rw [h]
      exact nofun
  · simp [checkedTraffic]
  · simp [checkedTraffic]
  · rw [checkedTraffic.handedOver_eq, TicketQueue.Behaviour.sentBy, List.flatMap_eq_nil_iff]
    intro i _
    by_contra hSent
    obtain ⟨hSend, hReady, -⟩ := TicketQueue.sent_ne_nil_iff.mp hSent
    -- lists are handed over at ticks only, and then the handler waits
    have hTick := (action_eq_send_iff _).mp hSend
    have hWait : (checkedTraffic.peer i).handler.queueState = .waitForTicket := by
      obtain ⟨-, h⟩ | ⟨-, h⟩ | ⟨hi, -⟩ | ⟨-, h⟩ := inputs_checkedTraffic i
      · cases h.symm.trans hTick
      · cases h.symm.trans hTick
      · exact (waits_checkedTraffic i).mpr hi.ge
      · cases h.symm.trans hTick
    exact beq_eq_false_iff_ne.mp hReady hWait

/-- **Command lists of a switch.** In every endless run of a handler and its
adapter in which the queue is not cleared: the lists handed over, and then those
queued, are those appended; until the counter overflows, their commands were
posted one after the other, with ids from 1 on; and every list is handed over in
the end if and only if, whenever lists are queued, a later tick of the queue
timer finds the handler ready. Ticks and replies without end are not enough. -/
theorem commandLists_sent_iff :
    (∀ traffic : SwitchTraffic, (∀ n, traffic.inputs n ≠ .event .clearQueue) →
      (∀ n, traffic.handedOver n ++ (traffic.peer n).handler.queue = traffic.appended n ∧
        ((traffic.handedOver n).flatten.length < 2 ^ 31 - 1 →
          traffic.posted n = (traffic.handedOver n).flatten.mapIdx fun i command =>
            .object (commandObj (i + 1) command))) ∧
      (Covers traffic.handedOver traffic.appended ↔ traffic.Served)) ∧
    ∃ traffic : SwitchTraffic, (∀ n, traffic.inputs n ≠ .event .clearQueue) ∧
      (∀ n, ∃ m ≥ n, traffic.inputs m = .event .checkQueueTimer) ∧
      (∀ n, ∃ m ≥ n, traffic.inputs m = .commandListExecuted true false) ∧
      traffic.appended 1 = [["conf t"]] ∧ ∀ n, traffic.handedOver n = [] := by
  refine ⟨fun traffic hClear => ⟨fun n => ⟨?_, fun hShort => ?_⟩, ?_⟩, checks_starve⟩
  · rw [traffic.handedOver_eq, traffic.appended_eq]
    exact TicketQueue.Behaviour.sent_append_queue (traffic.not_isClear hClear) n
  · have hBound : (1 : Int32).toInt + (traffic.handedOver n).flatten.length < 2 ^ 31 := by
      rw [Int32.toInt_one]
      omega
    rw [(traffic.posted_eq n).2, commandObjs_eq_mapIdx hBound]
    refine congrArg (fun f => List.mapIdx f _) ?_
    funext i command
    rw [Int32.toInt_one, Int.add_comm]
  · rw [funext traffic.handedOver_eq, funext traffic.appended_eq, ← traffic.served_iff]
    exact TicketQueue.Behaviour.sendsAll_iff (traffic.not_isClear hClear)

/-- A list now and then, handed over at the next tick. -/
def servedTraffic : SwitchTraffic where
  url := "http://10.0.0.1"
  inputs n := match n % 3 with
    | 0 => .event (.appendCommandList ["conf t", "vlan 20"])
    | 1 => .event .checkQueueTimer
    | _ => .commandListExecuted true false

/-- Every three inputs a list is appended, sent and executed. -/
theorem inputs_servedTraffic (n : ℕ) :
    n % 3 = 0 ∧ servedTraffic.inputs n = .event (.appendCommandList ["conf t", "vlan 20"]) ∨
      n % 3 = 1 ∧ servedTraffic.inputs n = .event .checkQueueTimer ∨
      n % 3 = 2 ∧ servedTraffic.inputs n = .commandListExecuted true false := by
  obtain h | h | h : n % 3 = 0 ∨ n % 3 = 1 ∨ n % 3 = 2 := by omega
  all_goals simp [servedTraffic, h]

/-- In this run the handler waits for replies only. -/
theorem waits_servedTraffic {n : ℕ}
    (h : (servedTraffic.peer n).handler.queueState = .waitForTicket) : n % 3 = 2 := by
  induction n with
  | zero => cases h
  | succ n ih =>
    change ((servedTraffic.inputs n).slot (servedTraffic.peer n).handler).1.queueState = _ at h
    obtain ⟨hn, hInput⟩ | ⟨hn, -⟩ | ⟨-, hInput⟩ := inputs_servedTraffic n
    · rw [hInput] at h
      have := ih h
      omega
    · omega
    · rw [hInput] at h
      change (commandListExecutedSlot true false (servedTraffic.peer n).handler).1.queueState = _
        at h
      rw [commandListExecutedSlot] at h
      split at h
      · cases h
      · rename_i hWait
        exact absurd h hWait

/-- Every tick finds it ready. -/
theorem served_servedTraffic : servedTraffic.Served := by
  intro n _
  refine ⟨3 * n + 1, by omega, by simp [servedTraffic], ?_⟩
  cases hState : (servedTraffic.peer (3 * n + 1)).handler.queueState with
  | readyToSend => rfl
  | waitForTicket =>
    have := waits_servedTraffic hState
    omega

/-- All lists are handed over, and the first two commands are posted at once. -/
theorem commandLists_sent_iff_served :
    (∀ n, servedTraffic.handedOver n ++ (servedTraffic.peer n).handler.queue =
        servedTraffic.appended n) ∧
    Covers servedTraffic.handedOver servedTraffic.appended ∧
    servedTraffic.posted 2 =
      [.object (commandObj 1 "conf t"), .object (commandObj 2 "vlan 20")] := by
  have hClear : ∀ n, servedTraffic.inputs n ≠ .event .clearQueue := by
    intro n
    obtain ⟨-, h⟩ | ⟨-, h⟩ | ⟨-, h⟩ := inputs_servedTraffic n
    all_goals
      rw [h]
      exact nofun
  obtain ⟨hLists, hCovers⟩ := commandLists_sent_iff.1 servedTraffic hClear
  refine ⟨fun n => (hLists n).1, hCovers.mpr served_servedTraffic, ?_⟩
  have hTwo : servedTraffic.handedOver 2 = [["conf t", "vlan 20"]] := rfl
  have hPosted := (hLists 2).2
  rw [hTwo] at hPosted
  exact hPosted (by decide)

end VxlanMtd
