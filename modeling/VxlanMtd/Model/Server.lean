import VxlanMtd.Lib.Run
import VxlanMtd.Model.HostHandler

/-!
# The server and its connections

`VMTDHostServer`, which keeps the sockets of the connected clients, and
`VMTDServer`, which keeps a protocol handler for each client address. Sockets
are told apart by address and port, handlers by address alone.

`ServerEvent` is what can happen to the two, `react` what they do about it.
-/

namespace VxlanMtd

/-- A `QWebSocket`; `number` says which object it is. -/
structure QWebSocket where
  number : Nat
  peerAddress : String
  peerPort : Int
  deriving DecidableEq, Repr

/-- `VMTDHostServer`: the sockets that were not reported disconnected. The next
socket Qt creates has the number `nextNumber`. -/
structure VMTDHostServer where
  wsClientSockets : List QWebSocket := []
  nextNumber : Nat := 0
  deriving DecidableEq, Repr

/-- `sendMessageSlot`: the socket a message to that address goes to. -/
def VMTDHostServer.sendMessageSlot (ip : String) (port : Int) (hostServer : VMTDHostServer) :
    Option QWebSocket :=
  (hostServer.wsClientSockets.filter fun socket =>
    socket.peerAddress == ip && socket.peerPort == port).getLast?

/-- `VMTDServer`, with the host server it works on. `hostHandlers` stands for a
`QMap`, its order has no meaning. -/
structure VMTDServer where
  hostServer : VMTDHostServer := {}
  hostHandlers : List (String × VMTDHostProtocolHandler) := []

/-- What the server is told. Timers and sockets that are gone stay silent. What
an operator does to one handler in its form (`clearQueueSlot`, and
`checkConnectionSlot` of it alone) is not among the events. -/
inductive ServerEvent where
  | newConnection (ip : String) (port : Int)
  | disconnected (number : Nat)
  | textMessageReceived (number : Nat) (data : String)
  | appendRequestList (ip : String) (requests : RequestList)
  | checkQueueTimer (ip : String)
  | ticketTimeout (ip : String)
  | checkConnectionTimerTick

namespace VMTDServer

/-- `m_hostHandlers.contains`. -/
def contains (server : VMTDServer) (ip : String) : Bool :=
  server.hostHandlers.any fun entry => entry.1 == ip

/-- A slot of one handler. -/
def modifyHandler (ip : String)
    (slot : VMTDHostProtocolHandler → VMTDHostProtocolHandler × List HostSignal)
    (server : VMTDServer) : VMTDServer × List HostSignal :=
  ({ server with
      hostHandlers := server.hostHandlers.map fun entry =>
        if entry.1 = ip then (entry.1, (slot entry.2).1) else entry },
    server.hostHandlers.flatMap fun entry => if entry.1 = ip then (slot entry.2).2 else [])

-- ---------------------------------------------------------------------------
-- Connections
-- ---------------------------------------------------------------------------

/-- `clientConnectedSlot`: an address that has a handler keeps it. -/
def clientConnectedSlot (socket : QWebSocket) (server : VMTDServer) : VMTDServer :=
  if server.contains socket.peerAddress then server
  else
    { server with
      hostHandlers := server.hostHandlers ++
        [(socket.peerAddress, { hostIp := socket.peerAddress, hostPort := socket.peerPort })] }

/-- `clientDisconnectedSlot`: the handler of the address is removed. -/
def clientDisconnectedSlot (socket : QWebSocket) (server : VMTDServer) : VMTDServer :=
  { server with
    hostHandlers := server.hostHandlers.filter fun entry => entry.1 != socket.peerAddress }

/-- `VMTDHostServer::newConnectionSlot`, with the slot its signal reaches. -/
def newConnectionSlot (ip : String) (port : Int) (server : VMTDServer) : VMTDServer :=
  let socket : QWebSocket := ⟨server.hostServer.nextNumber, ip, port⟩
  clientConnectedSlot socket
    { server with
      hostServer :=
        { wsClientSockets := server.hostServer.wsClientSockets ++ [socket]
          nextNumber := server.hostServer.nextNumber + 1 } }

/-- The socket of that number. -/
def socket? (server : VMTDServer) (number : Nat) : Option QWebSocket :=
  server.hostServer.wsClientSockets.find? fun socket => socket.number == number

/-- `VMTDHostServer::disconnectedSlot`: the signal first, then the socket goes. -/
def disconnectedSlot (socket : QWebSocket) (server : VMTDServer) : VMTDServer :=
  let server := server.clientDisconnectedSlot socket
  { server with
    hostServer :=
      { server.hostServer with
        wsClientSockets := server.hostServer.wsClientSockets.erase socket } }

-- ---------------------------------------------------------------------------
-- Messages
-- ---------------------------------------------------------------------------

/-- `receiveMessageSignal`, which reaches every handler: what becomes of each
of them, and what it emits. -/
def receiveMessage (fromJson : String → Option QJsonDocument) (ip : String) (port : Int)
    (data : String) (server : VMTDServer) :
    List (String × VMTDHostProtocolHandler × List HostSignal) :=
  server.hostHandlers.map fun entry =>
    (entry.1, entry.2.receiveMessageSlot fromJson ip port data)

/-- `VMTDHostServer::textMessageReceivedSlot`. -/
def textMessageReceivedSlot (fromJson : String → Option QJsonDocument) (socket : QWebSocket)
    (data : String) (server : VMTDServer) : VMTDServer × List HostSignal :=
  let received := server.receiveMessage fromJson socket.peerAddress socket.peerPort data
  ({ server with hostHandlers := received.map fun entry => (entry.1, entry.2.1) },
    received.flatMap fun entry => entry.2.2)

/-- `checkConnectionTimerTickSlot`, for the hosts. -/
def checkConnectionTimerTickSlot (server : VMTDServer) : VMTDServer :=
  { server with
    hostHandlers := server.hostHandlers.map fun entry => (entry.1, entry.2.checkConnection) }

/-- The reaction to an event: the server afterwards, and the signals of its
handlers. -/
def react (fromJson : String → Option QJsonDocument) (server : VMTDServer) :
    ServerEvent → VMTDServer × List HostSignal
  | .newConnection ip port => (server.newConnectionSlot ip port, [])
  | .disconnected number =>
    match server.socket? number with
    | some socket => (server.disconnectedSlot socket, [])
    | none => (server, [])
  | .textMessageReceived number data =>
    match server.socket? number with
    | some socket => server.textMessageReceivedSlot fromJson socket data
    | none => (server, [])
  | .appendRequestList ip requests =>
    server.modifyHandler ip fun handler => (handler.appendRequestListSlot requests, [])
  | .checkQueueTimer ip =>
    server.modifyHandler ip VMTDHostProtocolHandler.checkQueueTimerSlot
  | .ticketTimeout ip =>
    server.modifyHandler ip fun handler =>
      if handler.isTicketTimerActive then handler.ticketTimeoutSlot else (handler, [])
  | .checkConnectionTimerTick => (server.checkConnectionTimerTickSlot, [])

/-- The server after an event. -/
def step (fromJson : String → Option QJsonDocument) (server : VMTDServer) (event : ServerEvent) :
    VMTDServer :=
  (server.react fromJson event).1

end VMTDServer

end VxlanMtd
