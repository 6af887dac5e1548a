import VxlanMtd.Lib.Run
import VxlanMtd.Model.HostHandler

/-!
# Switches behind NX-API

`VMTDNxApiProtocolHandler`, which queues the command lists of a switch and hands
out one at a time, `VMTDNxApiAdapter`, which makes HTTP requests of them, and
`VMTDNxApiServer` with the handlers `VMTDServer` keeps for its adapters.

All adapters share one `QNetworkAccessManager`. Its `finished` signal goes to
every adapter, whichever switch the reply comes from (`replyFinished`).

A switch is told by its URL without user info. Signals are outputs
(`NxApiSignal`), a request in flight is a number and what was asked.
-/

namespace VxlanMtd

/-- The signals of a handler. -/
inductive NxApiSignal where
  | executeCommandList (commands : CommandList)
  | checkConnection
  | updateUrlOnline (url : String) (isOnline : Bool)
  deriving DecidableEq, Repr

/-- `VMTDNxApiProtocolHandler`. -/
structure VMTDNxApiProtocolHandler where
  url : String
  queueState : EnQueueState := .readyToSend
  isTicketTimerActive : Bool := false
  queue : List CommandList := []
  deriving DecidableEq, Repr

namespace VMTDNxApiProtocolHandler

/-- `checkConnection`. The state is not looked at. -/
def checkConnection (handler : VMTDNxApiProtocolHandler) :
    VMTDNxApiProtocolHandler × List NxApiSignal :=
  ({ handler with queueState := .waitForTicket, isTicketTimerActive := true }, [.checkConnection])

/-- `appendCommandListSlot`. -/
def appendCommandListSlot (commands : CommandList) (handler : VMTDNxApiProtocolHandler) :
    VMTDNxApiProtocolHandler × List NxApiSignal :=
  ({ handler with queue := handler.queue ++ [commands] }, [])

/-- `commandListExecutedSlot`. Whether there was an error matters for a debug
message only. -/
def commandListExecutedSlot (isOnline _hasError : Bool) (handler : VMTDNxApiProtocolHandler) :
    VMTDNxApiProtocolHandler × List NxApiSignal :=
  if handler.queueState = .waitForTicket then
    ({ handler with isTicketTimerActive := false, queueState := .readyToSend },
      [.updateUrlOnline handler.url isOnline])
  else (handler, [])

/-- `clearQueueSlot`. The ticket timer is left as it is. -/
def clearQueueSlot (handler : VMTDNxApiProtocolHandler) :
    VMTDNxApiProtocolHandler × List NxApiSignal :=
  ({ handler with queueState := .readyToSend, queue := [] }, [])

/-- `checkQueueTimerSlot`. -/
def checkQueueTimerSlot (handler : VMTDNxApiProtocolHandler) :
    VMTDNxApiProtocolHandler × List NxApiSignal :=
  match handler.queue, handler.queueState with
  | command :: queue, .readyToSend =>
    ({ handler with queueState := .waitForTicket, queue := queue, isTicketTimerActive := true },
      [.executeCommandList command])
  | _, _ => (handler, [])

/-- `ticketTimeoutSlot`; the timer is a single shot. -/
def ticketTimeoutSlot (handler : VMTDNxApiProtocolHandler) :
    VMTDNxApiProtocolHandler × List NxApiSignal :=
  ({ handler with queueState := .readyToSend, isTicketTimerActive := false },
    [.updateUrlOnline handler.url false])

/-- What a handler is told, replies apart. -/
inductive NxApiEvent where
  | appendCommandList (commands : CommandList)
  | checkConnection
  | clearQueue
  | checkQueueTimer
  | ticketTimeout
  deriving DecidableEq, Repr

/-- Its reaction. The ticket timer fires only while it is active. -/
def react (handler : VMTDNxApiProtocolHandler) :
    NxApiEvent → VMTDNxApiProtocolHandler × List NxApiSignal
  | .appendCommandList commands => handler.appendCommandListSlot commands
  | .checkConnection => handler.checkConnection
  | .clearQueue => handler.clearQueueSlot
  | .checkQueueTimer => handler.checkQueueTimerSlot
  | .ticketTimeout =>
    if handler.isTicketTimerActive then handler.ticketTimeoutSlot else (handler, [])

end VMTDNxApiProtocolHandler

-- ---------------------------------------------------------------------------
-- The adapter
-- ---------------------------------------------------------------------------

/-- `QNetworkReply::NetworkError`; the adapter asks for these two. -/
inductive NetworkError where
  | noError
  | connectionRefusedError
  | other (code : Nat)
  deriving DecidableEq, Repr

/-- A request to a switch: a `get`, or a `post` of a JSON array. -/
structure NxApiRequest where
  url : String
  body : Option QJsonArray

/-- `VMTDNxApiAdapter`. The counter is an `int`, and what C++ leaves open after
`2 ^ 31 - 1` is to wrap around here. -/
structure VMTDNxApiAdapter where
  url : String
  commandCounter : Int32 := 1
  deriving DecidableEq, Repr

namespace VMTDNxApiAdapter

/-- `checkConnectionSlot`. -/
def checkConnectionSlot (adapter : VMTDNxApiAdapter) : VMTDNxApiAdapter × NxApiRequest :=
  (adapter, ⟨adapter.url, none⟩)

/-- A command in the body of a request. -/
def commandObj (commandCounter : Int) (command : String) : QJsonObject :=
  let jsonObj := QJsonObject.insert [] "jsonrpc" (.string "2.0")
  let jsonObj := jsonObj.insert "method" (.string "cli_ascii")
  let paramsObj := QJsonObject.insert [] "cmd" (.string command)
  let paramsObj := paramsObj.insert "version" (.ofInt 1)
  let jsonObj := jsonObj.insert "params" (.object paramsObj)
  jsonObj.insert "id" (.ofInt commandCounter)

/-- Commands with the next values of the command counter. -/
def commandObjs (commandCounter : Int32) : CommandList → QJsonArray
  | [] => []
  | command :: commands =>
    .object (commandObj commandCounter.toInt command) :: commandObjs (commandCounter + 1) commands

/-- `executeCommandListSlot`. -/
def executeCommandListSlot (commands : CommandList) (adapter : VMTDNxApiAdapter) :
    VMTDNxApiAdapter × NxApiRequest :=
  ({ adapter with commandCounter := adapter.commandCounter + Int32.ofNat commands.length },
    ⟨adapter.url, some (commandObjs adapter.commandCounter commands)⟩)

/-- The signals of a handler that reach its adapter, and the requests sent. -/
def perform : List NxApiSignal → VMTDNxApiAdapter → VMTDNxApiAdapter × List NxApiRequest
  | [], adapter => (adapter, [])
  | .checkConnection :: signals, adapter =>
    let (adapter, request) := adapter.checkConnectionSlot
    let (adapter, requests) := perform signals adapter
    (adapter, request :: requests)
  | .executeCommandList commands :: signals, adapter =>
    let (adapter, request) := adapter.executeCommandListSlot commands
    let (adapter, requests) := perform signals adapter
    (adapter, request :: requests)
  | .updateUrlOnline _ _ :: signals, adapter => perform signals adapter

/-- `replyFinishedSlot`: the arguments of the signal to the handler. -/
def replyFinishedSlot (error : NetworkError) : Bool × Bool :=
  (error != .connectionRefusedError, error != .noError)

end VMTDNxApiAdapter

-- ---------------------------------------------------------------------------
-- The server
-- ---------------------------------------------------------------------------

/-- A handler and the adapter it is connected with. An adapter whose URL has a
handler already is connected with nothing and left out. -/
structure NxApiPeer where
  adapter : VMTDNxApiAdapter
  handler : VMTDNxApiProtocolHandler
  deriving DecidableEq, Repr

/-- A slot of the handler, and what its adapter makes of the signals. -/
def NxApiPeer.call
    (slot : VMTDNxApiProtocolHandler → VMTDNxApiProtocolHandler × List NxApiSignal)
    (peer : NxApiPeer) : NxApiPeer × List NxApiRequest × List NxApiSignal :=
  let (handler, signals) := slot peer.handler
  let (adapter, requests) := peer.adapter.perform signals
  (⟨adapter, handler⟩, requests, signals)

/-- `VMTDNxApiServer` with the handlers of `VMTDServer`, by URL, and the
requests its network manager has not finished. -/
structure VMTDNxApiServer where
  isListening : Bool := false
  peers : List (String × NxApiPeer) := []
  inFlight : List (Nat × NxApiRequest) := []
  nextNumber : Nat := 0

/-- What the server is told. `isAnswered` says whether the switch sent a
response at all; no code looks at it. -/
inductive NxApiServerEvent where
  | startListen (switchUrls : List String)
  | stopListen
  | handler (url : String) (event : VMTDNxApiProtocolHandler.NxApiEvent)
  | checkConnectionTimerTick
  | replyFinished (number : Nat) (error : NetworkError) (isAnswered : Bool)

namespace VMTDNxApiServer

/-- Requests handed to the network manager. -/
def send : List NxApiRequest → VMTDNxApiServer → VMTDNxApiServer
  | [], server => server
  | request :: requests, server =>
    send requests
      { server with
        inFlight := server.inFlight ++ [(server.nextNumber, request)]
        nextNumber := server.nextNumber + 1 }

/-- A slot of every handler whose URL is among the given ones. -/
def callWhere (urls : String → Bool)
    (slot : VMTDNxApiProtocolHandler → VMTDNxApiProtocolHandler × List NxApiSignal)
    (server : VMTDNxApiServer) : VMTDNxApiServer × List NxApiSignal :=
  let called := server.peers.map fun entry =>
    (entry.1, if urls entry.1 then entry.2.call slot else (entry.2, [], []))
  (send (called.flatMap fun entry => entry.2.2.1)
      { server with peers := called.map fun entry => (entry.1, entry.2.1) },
    called.flatMap fun entry => entry.2.2.2)

/-- `adapterCreatedSlot`. -/
def adapterCreatedSlot (server : VMTDNxApiServer) (url : String) : VMTDNxApiServer :=
  if server.peers.any fun entry => entry.1 == url then server
  else { server with peers := server.peers ++ [(url, ⟨{ url := url }, { url := url }⟩)] }

/-- `startListenSlot`. -/
def startListenSlot (switchUrls : List String) (server : VMTDNxApiServer) : VMTDNxApiServer :=
  if server.isListening then server
  else { switchUrls.foldl adapterCreatedSlot server with isListening := true }

/-- `stopListenSlot`, with `adapterRemovedSlot` for each adapter. Requests stay
in flight. -/
def stopListenSlot (server : VMTDNxApiServer) : VMTDNxApiServer :=
  if server.isListening then { server with peers := [], isListening := false } else server

/-- `checkConnectionTimerTickSlot`, for the switches. -/
def checkConnectionTimerTickSlot (server : VMTDNxApiServer) : VMTDNxApiServer × List NxApiSignal :=
  server.callWhere (fun _ => true) VMTDNxApiProtocolHandler.checkConnection

/-- The `finished` signal: every adapter tells its handler. -/
def replyFinished (error : NetworkError) (server : VMTDNxApiServer) :
    VMTDNxApiServer × List NxApiSignal :=
  let (isOnline, hasError) := VMTDNxApiAdapter.replyFinishedSlot error
  server.callWhere (fun _ => true) (VMTDNxApiProtocolHandler.commandListExecutedSlot isOnline hasError)

/-- The request of that number. -/
def request? (server : VMTDNxApiServer) (number : Nat) : Option NxApiRequest :=
  server.inFlight.lookup number

/-- The reaction to an event. Only a request in flight can finish. -/
def react (server : VMTDNxApiServer) : NxApiServerEvent → VMTDNxApiServer × List NxApiSignal
  | .startListen switchUrls => (server.startListenSlot switchUrls, [])
  | .stopListen => (server.stopListenSlot, [])
  | .handler url event => server.callWhere (fun u => u == url) fun handler => handler.react event
  | .checkConnectionTimerTick => server.checkConnectionTimerTickSlot
  | .replyFinished number error _ =>
    match server.request? number with
    | some _ =>
      replyFinished error
        { server with inFlight := server.inFlight.filter fun entry => entry.1 != number }
    | none => (server, [])

/-- The server after an event. -/
def step (server : VMTDNxApiServer) (event : NxApiServerEvent) : VMTDNxApiServer :=
  (server.react event).1

-- ---------------------------------------------------------------------------
-- Which handlers a call concerns
-- ---------------------------------------------------------------------------

/-- Requests in flight leave the handlers alone. -/
@[simp] theorem peers_send (requests : List NxApiRequest) (server : VMTDNxApiServer) :
    (send requests server).peers = server.peers := by
  induction requests generalizing server with
  | nil => rfl
  | cons request requests ih => exact ih _

/-- Every peer that is called changes by itself. -/
theorem peers_callWhere (urls : String → Bool)
    (slot : VMTDNxApiProtocolHandler → VMTDNxApiProtocolHandler × List NxApiSignal)
    (server : VMTDNxApiServer) :
    (server.callWhere urls slot).1.peers = server.peers.map fun entry =>
      (entry.1, if urls entry.1 then (entry.2.call slot).1 else entry.2) := by
  show (send _ _).peers = _
  rw [peers_send, List.map_map]
  refine List.map_congr_left fun entry _ => ?_
  by_cases hUrl : urls entry.1 = true <;> simp [hUrl]

/-- The signals of all that are called, one handler after the other. -/
theorem signals_callWhere (urls : String → Bool)
    (slot : VMTDNxApiProtocolHandler → VMTDNxApiProtocolHandler × List NxApiSignal)
    (server : VMTDNxApiServer) :
    (server.callWhere urls slot).2 = server.peers.flatMap fun entry =>
      if urls entry.1 then (slot entry.2.handler).2 else [] := by
  show List.flatMap _ (List.map _ _) = _
  rw [List.flatMap_map]
  refine List.flatMap_congr fun entry _ => ?_
  by_cases hUrl : urls entry.1 = true <;> simp [hUrl, NxApiPeer.call]

end VMTDNxApiServer

end VxlanMtd
