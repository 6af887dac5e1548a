import VxlanMtd.Lib.Run
import VxlanMtd.Model.HostHandler

/-!
# Tickets of a host handler

A handler on the server's side with the documents it has sent. A document is
outstanding until a response to one of its requests arrives, or the ticket
timer fires while it is the last one sent.

**`atMostOne_outstanding`**: no two documents are ever outstanding in a run in
which every message that takes the ticket from a waiting handler answers the
last document. `handleServer` does not look at the id, so any other message
takes the ticket as well, and `unanswered_message_sends_again` shows what comes
of it.
-/

namespace VxlanMtd

open EventRun VMTDHostProtocolHandler

/-- A document that was sent. -/
structure SentDocument where
  document : QJsonDocument
  isOutstanding : Bool

/-- A handler and what it has sent, the latest first. -/
structure TicketRun where
  handler : VMTDHostProtocolHandler
  sent : List SentDocument := []

/-- A response with the id of one of the document's requests. -/
def isAnswer (document : QJsonDocument) (response : QJsonObject) : Bool :=
  isResponse response &&
    (responses document).any fun request =>
      (request.value "id").toString == (response.value "id").toString

namespace SentDocument

/-- The document after these responses arrived. -/
def answered (received : List QJsonObject) (sent : SentDocument) : SentDocument :=
  { sent with isOutstanding := sent.isOutstanding && !received.any (isAnswer sent.document) }

end SentDocument

/-- The document of a signal that sends one. -/
def HostSignal.sentDocument : HostSignal → Option SentDocument
  | .sendMessage _ _ data => some ⟨data, true⟩
  | _ => none

namespace TicketRun

variable {fromJson : String → Option QJsonDocument} {ticketRun : TicketRun}

/-- The sent documents once the ticket timer has fired. -/
def expired : List SentDocument → List SentDocument
  | [] => []
  | last :: older => { last with isOutstanding := false } :: older

/-- One event. -/
def step (fromJson : String → Option QJsonDocument) (ticketRun : TicketRun) (event : HostEvent) :
    TicketRun :=
  let reaction := ticketRun.handler.react fromJson event
  { handler := reaction.1
    sent :=
      match event with
      | .messageReceived _ _ data =>
        ticketRun.sent.map (SentDocument.answered (receivedResponses fromJson data))
      | .ticketTimeout =>
        if ticketRun.handler.isTicketTimerActive then expired ticketRun.sent else ticketRun.sent
      | _ => reaction.2.filterMap HostSignal.sentDocument ++ ticketRun.sent }

/-- The outstanding documents. -/
def outstanding (ticketRun : TicketRun) : List SentDocument :=
  ticketRun.sent.filter SentDocument.isOutstanding

/-- A message that finds the handler waiting holds an answer to the last
document, if it holds any response. -/
def AnswersLast (fromJson : String → Option QJsonDocument) (ticketRun : TicketRun) :
    HostEvent → Prop
  | .messageReceived _ _ data =>
    ticketRun.handler.queueState = .waitForTicket → receivedResponses fromJson data ≠ [] →
      ∃ last ∈ ticketRun.sent.head?, (receivedResponses fromJson data).any (isAnswer last.document)
  | _ => True

/-- Only the last document can be outstanding, and only while the handler
waits. -/
structure Settled (ticketRun : TicketRun) : Prop where
  older : ∀ sent ∈ ticketRun.sent.tail, sent.isOutstanding = false
  last : ∀ sent ∈ ticketRun.sent.head?, sent.isOutstanding = true →
    ticketRun.handler.queueState = .waitForTicket

/-- Without an outstanding document a handler may be in any state. -/
theorem settled_of_none (h : ∀ sent ∈ ticketRun.sent, sent.isOutstanding = false) :
    ticketRun.Settled := by
  refine ⟨fun sent hMem => h sent (List.mem_of_mem_tail hMem), fun sent hHead hOutstanding => ?_⟩
  rw [h sent (List.mem_of_mem_head? hHead)] at hOutstanding
  cases hOutstanding

theorem length_outstanding_le (hSettled : ticketRun.Settled) :
    ticketRun.outstanding.length ≤ 1 := by
  obtain ⟨handler, sent⟩ := ticketRun
  cases sent with
  | nil => exact Nat.zero_le 1
  | cons last older =>
    have hOlder : older.filter SentDocument.isOutstanding = [] := by
      rw [List.filter_eq_nil_iff]
      intro sent hMem
      rw [hSettled.older sent hMem]
      exact Bool.false_ne_true
    show ((last :: older).filter SentDocument.isOutstanding).length ≤ 1
    rw [List.filter_cons, hOlder]
    split <;> simp

-- ---------------------------------------------------------------------------
-- Steps
-- ---------------------------------------------------------------------------

theorem queueState_appendRequestListSlot (requests : RequestList)
    (handler : VMTDHostProtocolHandler) :
    (handler.appendRequestListSlot requests).queueState = handler.queueState := by
  unfold appendRequestListSlot
  split <;> rfl

/-- An event that sends nothing and leaves the ticket alone. -/
theorem settled_of_same {next : TicketRun} (hSettled : ticketRun.Settled)
    (hSent : next.sent = ticketRun.sent)
    (hState : next.handler.queueState = ticketRun.handler.queueState) : next.Settled := by
  refine ⟨fun sent hMem => ?_, fun sent hHead hOutstanding => ?_⟩
  · rw [hSent] at hMem
    exact hSettled.older sent hMem
  · rw [hSent] at hHead
    rw [hState]
    exact hSettled.last sent hHead hOutstanding

theorem answered_nil (sent : List SentDocument) : sent.map (SentDocument.answered []) = sent := by
  refine (List.map_congr_left fun d _ => ?_).trans (List.map_id sent)
  simp [SentDocument.answered]

theorem mem_expired {sent : List SentDocument} (hOlder : ∀ d ∈ sent.tail, d.isOutstanding = false) :
    ∀ d ∈ expired sent, d.isOutstanding = false := by
  cases sent with
  | nil => exact fun d hMem => absurd hMem List.not_mem_nil
  | cons last older =>
    intro d hMem
    rcases List.mem_cons.mp hMem with rfl | hMem
    · rfl
    · exact hOlder d hMem

/-- A message: the last document is answered, or the handler was not waiting
for it. -/
theorem settled_messageReceived (hSettled : ticketRun.Settled) {ip : String} {port : Int}
    {data : String} (hAnswers : ticketRun.AnswersLast fromJson (.messageReceived ip port data)) :
    (ticketRun.step fromJson (.messageReceived ip port data)).Settled := by
  by_cases hNone : receivedResponses fromJson data = []
  · refine settled_of_same hSettled ?_ ?_
    · show ticketRun.sent.map (SentDocument.answered (receivedResponses fromJson data)) = _
      rw [hNone, answered_nil]
    · show (ticketRun.handler.handleServers (receivedResponses fromJson data)).1.queueState = _
      rw [hNone]
      rfl
  · refine settled_of_none fun d hMem => ?_
    obtain ⟨sent, hSent, rfl⟩ := List.mem_map.mp hMem
    have hKept : sent.isOutstanding = false →
        (sent.answered (receivedResponses fromJson data)).isOutstanding = false := by
      intro hFalse
      simp [SentDocument.answered, hFalse]
    cases hOutstanding : sent.isOutstanding with
    | false => exact hKept hOutstanding
    | true =>
      -- an outstanding document is the last one, and the handler waits for it
      have hHead : sent ∈ ticketRun.sent.head? := by
        cases hList : ticketRun.sent with
        | nil => rw [hList] at hSent; exact absurd hSent List.not_mem_nil
        | cons last older =>
          rw [hList] at hSent
          rcases List.mem_cons.mp hSent with rfl | hOld
          · exact rfl
          · have hFalse := hSettled.older sent (by rw [hList]; exact hOld)
            rw [hFalse] at hOutstanding
            cases hOutstanding
      obtain ⟨last, hLast, hAnswer⟩ :=
        hAnswers (hSettled.last sent hHead hOutstanding) hNone
      obtain rfl : last = sent := Option.some.inj (hLast.symm.trans hHead)
      show (last.isOutstanding &&
        !(receivedResponses fromJson data).any (isAnswer last.document)) = false
      rw [hAnswer]
      simp

/-- A tick sends a document only when none is outstanding. -/
theorem settled_checkQueueTimer (hSettled : ticketRun.Settled) :
    (ticketRun.step fromJson .checkQueueTimer).Settled := by
  unfold step react checkQueueTimerSlot
  dsimp only
  split
  · rename_i outputDoc requests hRequests hReady
    have hNone : ∀ d ∈ ticketRun.sent, d.isOutstanding = false := by
      intro d hMem
      cases hList : ticketRun.sent with
      | nil => rw [hList] at hMem; exact absurd hMem List.not_mem_nil
      | cons last older =>
        rw [hList] at hMem
        rcases List.mem_cons.mp hMem with rfl | hOld
        · by_contra hOutstanding
          have hWait := hSettled.last d (by rw [hList]; rfl) (by simpa using hOutstanding)
          rw [hReady] at hWait
          cases hWait
        · exact hSettled.older d (by rw [hList]; exact hOld)
    exact ⟨hNone, fun _ _ _ => rfl⟩
  · exact settled_of_same hSettled rfl rfl

theorem settled_step (hSettled : ticketRun.Settled) {event : HostEvent}
    (hAnswers : ticketRun.AnswersLast fromJson event) :
    (ticketRun.step fromJson event).Settled := by
  cases event with
  | appendRequestList requests =>
    exact settled_of_same hSettled rfl (queueState_appendRequestListSlot _ _)
  | clearQueue => exact settled_of_same hSettled rfl rfl
  | checkConnection => exact settled_of_same hSettled rfl (queueState_appendRequestListSlot _ _)
  | messageReceived ip port data => exact settled_messageReceived hSettled hAnswers
  | checkQueueTimer => exact settled_checkQueueTimer hSettled
  | ticketTimeout =>
    by_cases hActive : ticketRun.handler.isTicketTimerActive = true
    · refine settled_of_none ?_
      show ∀ d ∈ (if ticketRun.handler.isTicketTimerActive then expired ticketRun.sent
        else ticketRun.sent), d.isOutstanding = false
      rw [if_pos hActive]
      exact mem_expired hSettled.older
    · refine settled_of_same hSettled (if_neg hActive) ?_
      show (if ticketRun.handler.isTicketTimerActive then ticketRun.handler.ticketTimeoutSlot
        else (ticketRun.handler, [])).1.queueState = _
      rw [if_neg hActive]

/-- The converse: a message without an answer takes the ticket from a waiting
handler, and the next tick sends a second document. -/
theorem unanswered_message_sends_again {last : SentDocument} {ip : String} {port : Int}
    {data : String} (hLast : last ∈ ticketRun.sent.head?) (hOutstanding : last.isOutstanding = true)
    (hSome : receivedResponses fromJson data ≠ [])
    (hUnanswered : (receivedResponses fromJson data).any (isAnswer last.document) = false)
    (hQueue : ticketRun.handler.requests ≠ []) :
    2 ≤ ((ticketRun.step fromJson (.messageReceived ip port data)).step fromJson
      .checkQueueTimer).outstanding.length := by
  obtain ⟨handler, sent⟩ := ticketRun
  cases sent with
  | nil => cases hLast
  | cons first older =>
    obtain rfl : first = last := Option.some.inj hLast
    obtain ⟨outputDoc, requests, hRequests⟩ := List.exists_cons_of_ne_nil hQueue
    have hHandler : (step fromJson ⟨handler, first :: older⟩
        (.messageReceived ip port data)).handler =
          { handler with isTicketTimerActive := false, queueState := .readyToSend } := by
      show (handler.handleServers (receivedResponses fromJson data)).1 = _
      rw [(handleServers_spec _ handler).1, if_neg hSome]
    have hFirst : first.answered (receivedResponses fromJson data) = first := by
      unfold SentDocument.answered
      rw [hUnanswered, Bool.not_false, Bool.and_true]
    -- the queue is served again while the first document is still outstanding
    have hSent : (((step fromJson ⟨handler, first :: older⟩ (.messageReceived ip port data)).step
        fromJson .checkQueueTimer).sent) = ⟨outputDoc, true⟩ :: first ::
          older.map (SentDocument.answered (receivedResponses fromJson data)) := by
      show List.filterMap HostSignal.sentDocument (checkQueueTimerSlot _).2 ++
        (SentDocument.answered (receivedResponses fromJson data) first :: List.map _ older) = _
      rw [hHandler, hFirst]
      unfold checkQueueTimerSlot
      dsimp only at hRequests ⊢
      rw [hRequests]
      rfl
    unfold outstanding
    rw [hSent, List.filter_cons_of_pos rfl, List.filter_cons_of_pos hOutstanding]
    simp

/-- A run of a new handler. -/
def start (ip : String) (port : Int) : TicketRun where
  handler := { hostIp := ip, hostPort := port }

end TicketRun

/-- **At most one document is outstanding** throughout every run in which the
messages that find the handler waiting answer its last document. -/
theorem atMostOne_outstanding {fromJson : String → Option QJsonDocument} {ip : String} {port : Int}
    {events : List HostEvent}
    (h : Along (TicketRun.step fromJson) (TicketRun.AnswersLast fromJson)
      (TicketRun.start ip port) events) :
    Along (TicketRun.step fromJson)
      (fun ticketRun event => (ticketRun.step fromJson event).outstanding.length ≤ 1)
      (TicketRun.start ip port) events := by
  have hStart : (TicketRun.start ip port).Settled :=
    TicketRun.settled_of_none fun _ hMem => absurd hMem List.not_mem_nil
  refine along_of_invariant hStart ?_ h
  intro ticketRun event hSettled hAnswers
  have hNext := TicketRun.settled_step hSettled hAnswers
  exact ⟨hNext, TicketRun.length_outstanding_le hNext⟩

/-- The reply of a host to its first request. -/
def firstReply : String := "\x7b\"id\": \"0\", \"jsonrpc\": \"2.0\", \"result\": true\x7d"

/-- What that reply is as JSON. -/
def readFirstReply (data : String) : Option QJsonDocument :=
  if data = firstReply then some (.object (buildResponse (.string "0") (.bool true))) else none

/-- The first document times out, its late reply takes the ticket of the second,
and the third is sent while the second is outstanding. -/
theorem late_reply_sends_third_document :
    ¬ ∀ events : List HostEvent,
        Along (TicketRun.step readFirstReply)
          (fun ticketRun event => (ticketRun.step readFirstReply event).outstanding.length ≤ 1)
          (TicketRun.start "10.0.0.1" 40001) events := by
  intro hClaim
  have hRun := hClaim
    [.checkConnection, .checkConnection, .checkConnection, .checkQueueTimer, .ticketTimeout,
      .checkQueueTimer, .messageReceived "10.0.0.1" 40001 firstReply, .checkQueueTimer]
  exact absurd hRun.2.2.2.2.2.2.2.1 (by decide +kernel)

/-- One request, sent and answered, and another sent after it. -/
theorem atMostOne_outstanding_secondRequest :
    Along (TicketRun.step readFirstReply)
      (fun ticketRun event => (ticketRun.step readFirstReply event).outstanding.length ≤ 1)
      (TicketRun.start "10.0.0.1" 40001)
      [.checkConnection, .checkConnection, .checkQueueTimer,
        .messageReceived "10.0.0.1" 40001 firstReply, .checkQueueTimer, .checkQueueTimer] ∧
    ([.checkConnection, .checkConnection, .checkQueueTimer,
        .messageReceived "10.0.0.1" 40001 firstReply, .checkQueueTimer].foldl
      (TicketRun.step readFirstReply) (TicketRun.start "10.0.0.1" 40001)).outstanding.length = 1 := by
  refine ⟨atMostOne_outstanding ⟨trivial, trivial, trivial, fun _ _ => ?_, trivial, trivial,
    trivial⟩, by decide +kernel⟩
  exact ⟨_, rfl, by decide +kernel⟩

end VxlanMtd
