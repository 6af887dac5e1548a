import VxlanMtd.Lib.Table
import VxlanMtd.Model.Server
import VxlanMtd.Server.Tickets

/-!
# Messages and handlers

Every host handler of the server is subscribed to one signal, so every message
reaches all of them. `Isolated` says that a message leaves the handlers of
other hosts alone.

**`isolated_iff`**: that is so exactly when the message holds no response at
all, or every handler of the server is that of the sender.
-/

namespace VxlanMtd

open EventRun

/-- The signals a message of the handler's own host may cause. -/
def HostSignal.isReaction : HostSignal → Bool
  | .sendMessage _ _ _ => false
  | .updateIpOnline _ _ => true
  | .handleResult _ => true

namespace VMTDHostProtocolHandler

/-- The handler of that sender. -/
def IsOf (handler : VMTDHostProtocolHandler) (ip : String) (port : Int) : Prop :=
  handler.hostIp = ip ∧ handler.hostPort = port

/-- A handler that a message has not touched, and that has not reacted to it. -/
structure Undisturbed (handler : VMTDHostProtocolHandler)
    (received : VMTDHostProtocolHandler × List HostSignal) : Prop where
  requests : received.1.requests = handler.requests
  queueState : received.1.queueState = handler.queueState
  isTicketTimerActive : received.1.isTicketTimerActive = handler.isTicketTimerActive
  silent : ∀ signal ∈ received.2, signal.isReaction = false

/-- A message without a response is the only one a handler does not react to. -/
theorem undisturbed_iff (fromJson : String → Option QJsonDocument) (ip : String) (port : Int)
    (data : String) (handler : VMTDHostProtocolHandler) :
    handler.Undisturbed (handler.receiveMessageSlot fromJson ip port data) ↔
      receivedResponses fromJson data = [] := by
  obtain ⟨hState, hOnline⟩ := handleServers_spec (receivedResponses fromJson data) handler
  constructor
  · intro hUndisturbed
    by_contra hSome
    -- the first response already reports the handler's host online
    have hReaction := hUndisturbed.silent _ (hOnline hSome)
    cases hReaction
  · intro hNone
    unfold receiveMessageSlot
    rw [hNone]
    exact ⟨rfl, rfl, rfl, fun signal hMem => absurd hMem List.not_mem_nil⟩

end VMTDHostProtocolHandler

namespace VMTDServer

/-- The message changes no handler but that of the sender. -/
def Isolated (fromJson : String → Option QJsonDocument) (ip : String) (port : Int) (data : String)
    (server : VMTDServer) : Prop :=
  ∀ key handler, server.hostHandlers.lookup key = some handler → ¬handler.IsOf ip port →
    ∃ received, (server.receiveMessage fromJson ip port data).lookup key = some received ∧
      handler.Undisturbed received

theorem lookup_receiveMessage (fromJson : String → Option QJsonDocument) (ip : String)
    (port : Int) (data : String) (server : VMTDServer) (key : String) :
    (server.receiveMessage fromJson ip port data).lookup key =
      (server.hostHandlers.lookup key).map fun handler =>
        handler.receiveMessageSlot fromJson ip port data :=
  Table.lookup_map _ _ _

end VMTDServer

/-- **Message isolation**, exactly: in whatever state the server is, a message
leaves all other hosts' handlers alone if and only if it holds no response, or
there are no other hosts' handlers. -/
theorem isolated_iff (fromJson : String → Option QJsonDocument) (ip : String) (port : Int)
    (data : String) (server : VMTDServer) :
    server.Isolated fromJson ip port data ↔
      VMTDHostProtocolHandler.receivedResponses fromJson data = [] ∨
        ∀ key handler, server.hostHandlers.lookup key = some handler → handler.IsOf ip port := by
  constructor
  · intro hIsolated
    by_cases hAll : ∀ key handler,
        server.hostHandlers.lookup key = some handler → handler.IsOf ip port
    · exact Or.inr hAll
    · push Not at hAll
      obtain ⟨key, handler, hLookup, hOther⟩ := hAll
      obtain ⟨received, hReceived, hUndisturbed⟩ := hIsolated key handler hLookup hOther
      rw [VMTDServer.lookup_receiveMessage, hLookup, Option.map_some, Option.some_inj] at hReceived
      rw [← hReceived] at hUndisturbed
      exact Or.inl ((handler.undisturbed_iff fromJson ip port data).mp hUndisturbed)
  · rintro (hNone | hAll) key handler hLookup hOther
    · refine ⟨handler.receiveMessageSlot fromJson ip port data, ?_, ?_⟩
      · rw [VMTDServer.lookup_receiveMessage, hLookup, Option.map_some]
      · exact (handler.undisturbed_iff fromJson ip port data).mpr hNone
    · exact absurd (hAll key handler hLookup) hOther

/-- With two hosts connected, a reply of one gives the other's ticket back. -/
theorem reply_reaches_other_handler :
    ¬ ∀ (fromJson : String → Option QJsonDocument) (server : VMTDServer),
        Reachable (VMTDServer.step fromJson) {} server →
          ∀ ip port data, server.Isolated fromJson ip port data := by
  intro hClaim
  have hIsolated := hClaim readFirstReply _
    ⟨[.newConnection "10.0.0.1" 40001, .newConnection "10.0.0.2" 40002], rfl⟩
    "10.0.0.1" 40001 firstReply
  obtain ⟨received, hReceived, hUndisturbed⟩ := hIsolated "10.0.0.2"
    { hostIp := "10.0.0.2", hostPort := 40002 } rfl fun hOf => absurd hOf.1 (by decide)
  have hSignal : HostSignal.updateIpOnline "10.0.0.2" true ∈ received.2 := by
    rw [← Option.some.inj hReceived]
    exact List.mem_cons_self
  have hReaction := hUndisturbed.silent _ hSignal
  cases hReaction

end VxlanMtd
