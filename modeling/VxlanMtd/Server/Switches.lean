import VxlanMtd.Lib.Table
import VxlanMtd.Model.NxApi

/-!
# Replies of switches

The network manager reports every finished request to the adapters of all
switches, and each adapter tells its handler. `Isolates` says that a reply
leaves the handlers of other switches alone and reports a switch online only if
it has answered.

* `WellKeyed` — the handlers are filed under their own URLs, each once; holds
  in every run (`wellKeyed_step`);
* **`replies_isolated_iff`** — replies are isolated throughout a run exactly
  when, whenever one arrives, no other switch's handler waits, and its own only
  for an answer or for a refused connection.
-/

namespace VxlanMtd

open EventRun

-- ---------------------------------------------------------------------------
-- A reply and the handlers
-- ---------------------------------------------------------------------------

/-- The ticket of a handler: its state and its timer. -/
def VMTDNxApiProtocolHandler.ticket (handler : VMTDNxApiProtocolHandler) : EnQueueState × Bool :=
  (handler.queueState, handler.isTicketTimerActive)

namespace VMTDNxApiServer

variable {server : VMTDNxApiServer}

/-- The ticket of the handler of that URL. -/
def ticket (server : VMTDNxApiServer) (url : String) : Option (EnQueueState × Bool) :=
  (server.peers.lookup url).map fun peer => peer.handler.ticket

/-- A reply changes the ticket of no other switch, and it reports a switch
online only if this is the one that sent it. -/
def Isolates (server : VMTDNxApiServer) : NxApiServerEvent → Prop
  | .replyFinished number error isAnswered =>
    ∀ request, server.request? number = some request →
      (∀ url, url ≠ request.url →
        (server.step (.replyFinished number error isAnswered)).ticket url = server.ticket url) ∧
      ∀ url, NxApiSignal.updateUrlOnline url true ∈
          (server.react (.replyFinished number error isAnswered)).2 →
        url = request.url ∧ isAnswered = true
  | _ => True

/-- When a reply arrives, only the handler of its switch waits, and if it does
the switch has answered or refused the connection. -/
def OnlySenderWaits (server : VMTDNxApiServer) : NxApiServerEvent → Prop
  | .replyFinished number error isAnswered =>
    ∀ request, server.request? number = some request →
      ∀ url peer, server.peers.lookup url = some peer →
        peer.handler.queueState = .waitForTicket →
        url = request.url ∧ (error = .connectionRefusedError ∨ isAnswered = true)
  | _ => True

-- ---------------------------------------------------------------------------
-- The handlers and their URLs
-- ---------------------------------------------------------------------------

/-- Every URL has one handler, which knows it. -/
structure WellKeyed (server : VMTDNxApiServer) : Prop where
  nodup : (server.peers.map Prod.fst).Nodup
  url : ∀ entry ∈ server.peers, entry.2.handler.url = entry.1

/-- A handler keeps its URL. -/
theorem url_react (handler : VMTDNxApiProtocolHandler)
    (event : VMTDNxApiProtocolHandler.NxApiEvent) : (handler.react event).1.url = handler.url := by
  cases event with
  | appendCommandList commands => rfl
  | checkConnection => rfl
  | clearQueue => rfl
  | checkQueueTimer =>
    show (VMTDNxApiProtocolHandler.checkQueueTimerSlot handler).1.url = handler.url
    unfold VMTDNxApiProtocolHandler.checkQueueTimerSlot
    split <;> rfl
  | ticketTimeout =>
    unfold VMTDNxApiProtocolHandler.react
    dsimp only
    split <;> rfl

theorem url_commandListExecutedSlot (isOnline hasError : Bool)
    (handler : VMTDNxApiProtocolHandler) :
    (handler.commandListExecutedSlot isOnline hasError).1.url = handler.url := by
  unfold VMTDNxApiProtocolHandler.commandListExecutedSlot
  split <;> rfl

/-- A reply to a request in flight is a call of every handler. -/
theorem react_replyFinished {number : Nat} {request : NxApiRequest}
    (hRequest : server.request? number = some request) (error : NetworkError)
    (isAnswered : Bool) :
    server.react (.replyFinished number error isAnswered) =
      callWhere (fun _ => true)
        (VMTDNxApiProtocolHandler.commandListExecutedSlot (error != .connectionRefusedError)
          (error != .noError))
        { server with inFlight := server.inFlight.filter fun entry => entry.1 != number } := by
  unfold react
  dsimp only
  rw [hRequest]
  rfl

/-- Calling the same slot of several handlers moves none. -/
theorem wellKeyed_callWhere (h : server.WellKeyed) (urls : String → Bool)
    {slot : VMTDNxApiProtocolHandler → VMTDNxApiProtocolHandler × List NxApiSignal}
    (hSlot : ∀ handler, (slot handler).1.url = handler.url) :
    (server.callWhere urls slot).1.WellKeyed := by
  have hPeers := peers_callWhere urls slot server
  constructor
  · rw [hPeers, List.map_map]
    exact h.nodup
  · intro entry hEntry
    rw [hPeers] at hEntry
    obtain ⟨entry, hMem, rfl⟩ := List.mem_map.mp hEntry
    dsimp only
    split
    · exact (hSlot entry.2.handler).trans (h.url entry hMem)
    · exact h.url entry hMem

theorem wellKeyed_adapterCreatedSlot (h : server.WellKeyed) (url : String) :
    (server.adapterCreatedSlot url).WellKeyed := by
  unfold adapterCreatedSlot
  split
  · exact h
  · rename_i hNew
    -- the new URL is none of the old ones
    have hUrl : url ∉ server.peers.map Prod.fst := by
      intro hMem
      obtain ⟨entry, hEntry, rfl⟩ := List.mem_map.mp hMem
      exact hNew (List.any_eq_true.mpr ⟨entry, hEntry, beq_self_eq_true _⟩)
    constructor
    · show ((server.peers ++ _).map Prod.fst).Nodup
      rw [List.map_append, List.map_singleton, ← List.concat_eq_append]
      exact List.Nodup.concat hUrl h.nodup
    · intro entry hEntry
      rcases List.mem_append.mp hEntry with hOld | hNew
      · exact h.url entry hOld
      · rw [List.mem_singleton.mp hNew]

/-- Every event keeps the handlers under their URLs. -/
theorem wellKeyed_step (h : server.WellKeyed) (event : NxApiServerEvent) :
    (server.step event).WellKeyed := by
  cases event with
  | startListen switchUrls =>
    show (server.startListenSlot switchUrls).WellKeyed
    unfold startListenSlot
    split
    · exact h
    · -- the adapters are created one after the other
      have hCreated : (switchUrls.foldl adapterCreatedSlot server).WellKeyed := by
        clear * - h
        induction switchUrls generalizing server with
        | nil => exact h
        | cons url urls ih => exact ih (wellKeyed_adapterCreatedSlot h url)
      exact ⟨hCreated.nodup, hCreated.url⟩
  | stopListen =>
    show server.stopListenSlot.WellKeyed
    unfold stopListenSlot
    split
    · exact ⟨List.nodup_nil, fun _ hMem => absurd hMem List.not_mem_nil⟩
    · exact h
  | handler url event => exact wellKeyed_callWhere h _ fun handler => url_react handler event
  | checkConnectionTimerTick => exact wellKeyed_callWhere h _ fun _ => rfl
  | replyFinished number error isAnswered =>
    cases hRequest : server.request? number with
    | some request =>
      rw [step, react_replyFinished hRequest]
      refine wellKeyed_callWhere ?_ _ (url_commandListExecutedSlot _ _)
      exact ⟨h.nodup, h.url⟩
    | none =>
      rw [step, react, hRequest]
      exact h

-- ---------------------------------------------------------------------------
-- What a reply does
-- ---------------------------------------------------------------------------

/-- A ticket after a reply, whichever switch sent it. -/
theorem ticket_replyFinished {number : Nat} {request : NxApiRequest}
    (hRequest : server.request? number = some request) (error : NetworkError) (isAnswered : Bool)
    (url : String) :
    (server.step (.replyFinished number error isAnswered)).ticket url =
      (server.ticket url).map fun ticket =>
        if ticket.1 = .waitForTicket then (.readyToSend, false) else ticket := by
  have hPeers : (server.step (.replyFinished number error isAnswered)).peers =
      server.peers.map fun entry => (entry.1, (entry.2.call
        (VMTDNxApiProtocolHandler.commandListExecutedSlot
          (error != .connectionRefusedError) (error != .noError))).1) := by
    rw [step, react_replyFinished hRequest, peers_callWhere]
    rfl
  unfold ticket
  rw [hPeers, Table.lookup_map fun peer : NxApiPeer => (peer.call
      (VMTDNxApiProtocolHandler.commandListExecutedSlot (error != .connectionRefusedError)
        (error != .noError))).1, Option.map_map, Option.map_map]
  refine congrArg (fun f => Option.map f _) (funext fun peer => ?_)
  show (VMTDNxApiProtocolHandler.commandListExecutedSlot (error != .connectionRefusedError)
    (error != .noError) peer.handler).1.ticket = _
  unfold VMTDNxApiProtocolHandler.commandListExecutedSlot
  by_cases hWait : peer.handler.queueState = .waitForTicket
  · rw [if_pos hWait]
    exact (if_pos hWait).symm
  · rw [if_neg hWait]
    exact (if_neg hWait).symm

/-- A reply reports online what waits, unless the connection was refused. -/
theorem online_replyFinished (h : server.WellKeyed) {number : Nat} {request : NxApiRequest}
    (hRequest : server.request? number = some request) (error : NetworkError) (isAnswered : Bool)
    (url : String) :
    NxApiSignal.updateUrlOnline url true ∈
        (server.react (.replyFinished number error isAnswered)).2 ↔
      error ≠ .connectionRefusedError ∧
        ∃ peer, server.peers.lookup url = some peer ∧
          peer.handler.queueState = .waitForTicket := by
  have hSignals : (server.react (.replyFinished number error isAnswered)).2 =
      server.peers.flatMap fun entry => (entry.2.handler.commandListExecutedSlot
        (error != .connectionRefusedError) (error != .noError)).2 := by
    rw [react_replyFinished hRequest, signals_callWhere]
    rfl
  rw [hSignals, List.mem_flatMap]
  constructor
  · rintro ⟨⟨key, peer⟩, hMem, hSignal⟩
    unfold VMTDNxApiProtocolHandler.commandListExecutedSlot at hSignal
    split at hSignal
    · rename_i hWait
      have hEq := List.mem_singleton.mp hSignal
      injection hEq with hUrl hOnline
      refine ⟨bne_iff_ne.mp hOnline.symm, peer, ?_, hWait⟩
      rw [hUrl, h.url _ hMem]
      exact (Table.lookup_eq_some_iff_mem h.nodup).mpr hMem
    · exact absurd hSignal List.not_mem_nil
  · rintro ⟨hError, peer, hLookup, hWait⟩
    have hMem := (Table.lookup_eq_some_iff_mem h.nodup).mp hLookup
    refine ⟨(url, peer), hMem, ?_⟩
    unfold VMTDNxApiProtocolHandler.commandListExecutedSlot
    rw [if_pos hWait, h.url _ hMem, bne_iff_ne.mpr hError]
    exact List.mem_singleton_self _

/-- One event: isolation is exactly the condition. -/
theorem isolates_iff (h : server.WellKeyed) (event : NxApiServerEvent) :
    server.Isolates event ↔ server.OnlySenderWaits event := by
  cases event with
  | startListen switchUrls => exact Iff.rfl
  | stopListen => exact Iff.rfl
  | handler url event => exact Iff.rfl
  | checkConnectionTimerTick => exact Iff.rfl
  | replyFinished number error isAnswered =>
    refine forall₂_congr fun request hRequest => ?_
    constructor
    · rintro ⟨hFrame, hOnline⟩ url peer hLookup hWait
      have hTicket : server.ticket url = some peer.handler.ticket := by
        rw [ticket, hLookup, Option.map_some]
      have hUrl : url = request.url := by
        by_contra hOther
        -- the ticket of another switch would be given back
        have hSame := hFrame url hOther
        rw [ticket_replyFinished hRequest, hTicket, Option.map_some,
          if_pos (show peer.handler.ticket.1 = .waitForTicket from hWait)] at hSame
        have hReady : EnQueueState.readyToSend = peer.handler.queueState :=
          congrArg Prod.fst (Option.some.inj hSame)
        exact nomatch hReady.trans hWait
      refine ⟨hUrl, or_iff_not_imp_left.mpr fun hError => ?_⟩
      exact (hOnline url ((online_replyFinished h hRequest error isAnswered url).mpr
        ⟨hError, peer, hLookup, hWait⟩)).2
    · intro hSender
      constructor
      · intro url hOther
        rw [ticket_replyFinished hRequest]
        unfold ticket
        cases hLookup : server.peers.lookup url with
        | none => rfl
        | some peer =>
          refine congrArg some (if_neg fun hWait => ?_)
          exact hOther (hSender url peer hLookup hWait).1
      · intro url hSignal
        obtain ⟨hError, peer, hLookup, hWait⟩ :=
          (online_replyFinished h hRequest error isAnswered url).mp hSignal
        obtain ⟨hUrl, hAnswered⟩ := hSender url peer hLookup hWait
        exact ⟨hUrl, hAnswered.resolve_left hError⟩

end VMTDNxApiServer

/-- **Isolation of replies**, exactly: in a run of the server each reply touches
its own switch only if and only if, at each reply, only the handler of that
switch waits, and it is an answer or a refused connection that it gets. -/
theorem replies_isolated_iff (events : List NxApiServerEvent) :
    Along VMTDNxApiServer.step VMTDNxApiServer.Isolates {} events ↔
      Along VMTDNxApiServer.step VMTDNxApiServer.OnlySenderWaits {} events :=
  along_iff_of_invariant
    (show VMTDNxApiServer.WellKeyed {} from ⟨List.nodup_nil, fun _ hMem => absurd hMem List.not_mem_nil⟩)
    (fun _ event hKeyed => VMTDNxApiServer.isolates_iff hKeyed event)
    fun _ event hKeyed _ => VMTDNxApiServer.wellKeyed_step hKeyed event

/-- Two switches are asked whether they are there; the answer of the first
reports the second online too, and gives its ticket back. -/
theorem reply_reaches_other_switch :
    ¬ ∀ events, Along VMTDNxApiServer.step VMTDNxApiServer.Isolates {} events := by
  intro hClaim
  have hLast := (hClaim [.startListen ["http://10.0.0.1", "http://10.0.0.2"],
    .checkConnectionTimerTick, .replyFinished 0 .noError true]).2.2.1
  obtain ⟨hFrame, -⟩ := hLast ⟨"http://10.0.0.1", none⟩ rfl
  have hSame := hFrame "http://10.0.0.2" (by decide)
  exact absurd hSame (by decide)

end VxlanMtd
