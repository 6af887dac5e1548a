import VxlanMtd.Lib.Run
import VxlanMtd.Lib.Signals
import VxlanMtd.Model.Settings

/-!
# The controller

`VMTDController`: on every start it creates the adapters, the servers and the
client, and connects them to the engine and the device manager, which outlive
it; when its thread finishes, Qt destroys what was connected to `finished` with
`deleteLater`.

Objects are told apart by the run that created them. What the objects do with
the lists and messages they receive is the subject of other modules; here only
who is connected to whom counts.
-/

namespace VxlanMtd

open Signals

/-- The objects of a controller. A number is that of the run that created the
object. -/
inductive VMTDObject where
  | controller
  | settings
  | manager
  | engine
  | hostClient (run : Nat)
  | client (run : Nat)
  | configurator (run : Nat)
  | nxApiServer (run : Nat)
  | nxApiAdapter (run index : Nat) (url : String)
  | hostServer (run : Nat)
  | server (run : Nat)
  | nxApiHandler (run : Nat) (url : String)
  | hostHandler (run : Nat) (ip : String)
  deriving DecidableEq, Repr

/-- The signals the connections start from. -/
inductive VMTDSignal where
  | started
  | finished
  | restartSignal
  | handleMethodSignal
  | adapterCreatedSignal
  | adapterRemovedSignal
  | clientConnectedSignal
  | clientDisconnectedSignal
  | updateUrlOnlineSignal
  | updateIpOnlineSignal
  | appendCommandListSignal
  | appendRequestListSignal
  | handleResultSignal
  | sendMessageSignal
  | receiveMessageSignal
  | executeCommandListSignal
  | commandListExecutedSignal
  | checkConnectionSignal
  deriving DecidableEq, Repr

/-- Where the connections end: a slot, or a signal that is passed on. -/
inductive VMTDSlot where
  | startedSlot
  | finishedSlot
  | restartSlot
  | deleteLater
  | handleMethodSlot
  | adapterCreatedSlot
  | adapterRemovedSlot
  | clientConnectedSlot
  | clientDisconnectedSlot
  | updateUrlOnlineSlot
  | updateIpOnlineSlot
  | appendCommandListSlot
  | appendRequestListSlot
  | handleResultSlot
  | sendMessageSlot
  | receiveMessageSlot
  | executeCommandListSlot
  | commandListExecutedSlot
  | checkConnectionSlot
  | emits (signal : VMTDSignal)
  deriving DecidableEq, Repr

/-- A connection between two of the objects. -/
abbrev VMTDConnection := Connection VMTDObject VMTDSignal VMTDSlot

/-- `VMTDController` and the objects it knows. `runs` counts the calls of
`run`; the pointers of the class lead to the objects of the latest. -/
structure VMTDController where
  isRunning : Bool := false
  nodeType : EnNodeType := .client
  runs : Nat := 0
  objects : List VMTDObject := [.controller, .settings, .manager, .engine]
  connections : List VMTDConnection :=
    [⟨.controller, .started, .controller, .startedSlot⟩,
      ⟨.controller, .finished, .controller, .finishedSlot⟩,
      ⟨.settings, .restartSignal, .controller, .restartSlot⟩,
      ⟨.manager, .restartSignal, .controller, .restartSlot⟩]
  adapters : List VMTDObject := []
  deriving DecidableEq

namespace VMTDController

-- ---------------------------------------------------------------------------
-- Objects and connections
-- ---------------------------------------------------------------------------

/-- `new`. -/
def create (o : VMTDObject) (c : VMTDController) : VMTDController :=
  { c with objects := c.objects ++ [o] }

/-- `connect`. -/
def connect (sender : VMTDObject) (signal : VMTDSignal) (receiver : VMTDObject)
    (slot : VMTDSlot) (c : VMTDController) : VMTDController :=
  { c with connections := c.connections ++ [⟨sender, signal, receiver, slot⟩] }

/-- The objects a predicate names are destroyed, and their connections with
them. -/
def destroy (gone : VMTDObject → Bool) (c : VMTDController) : VMTDController :=
  { c with
    objects := c.objects.filter fun o => !gone o
    connections := cut gone c.connections
    adapters := c.adapters.filter fun o => !gone o }

/-- Who receives a signal of an object. -/
def receivers (c : VMTDController) (o : VMTDObject) (signal : VMTDSignal) :
    List (VMTDObject × VMTDSlot) :=
  Signals.receivers c.connections o signal

-- ---------------------------------------------------------------------------
-- VMTDServer
-- ---------------------------------------------------------------------------

/-- `VMTDServer::adapterCreatedSlot` of the server of run `n`. -/
def adapterCreatedSlot (n : Nat) (adapter : VMTDObject) (url : String) (c : VMTDController) :
    VMTDController :=
  if .nxApiHandler n url ∈ c.objects then c
  else
    c |>.create (.nxApiHandler n url)
      |>.connect (.nxApiHandler n url) .executeCommandListSignal adapter .executeCommandListSlot
      |>.connect adapter .commandListExecutedSignal (.nxApiHandler n url) .commandListExecutedSlot
      |>.connect (.nxApiHandler n url) .checkConnectionSignal adapter .checkConnectionSlot
      |>.connect (.nxApiHandler n url) .updateUrlOnlineSignal (.server n)
          (.emits .updateUrlOnlineSignal)

/-- `VMTDServer::adapterRemovedSlot`: the handler of the adapter's URL is
deleted. -/
def adapterRemovedSlot (n : Nat) (url : String) (c : VMTDController) : VMTDController :=
  c.destroy fun o => o = .nxApiHandler n url

/-- `VMTDServer::clientConnectedSlot`, for a socket with that address. -/
def clientConnectedSlot (n : Nat) (ip : String) (c : VMTDController) : VMTDController :=
  if .hostHandler n ip ∈ c.objects then c
  else
    c |>.create (.hostHandler n ip)
      |>.connect (.hostHandler n ip) .sendMessageSignal (.hostServer n) .sendMessageSlot
      |>.connect (.hostServer n) .receiveMessageSignal (.hostHandler n ip) .receiveMessageSlot
      |>.connect (.hostHandler n ip) .updateIpOnlineSignal (.server n)
          (.emits .updateIpOnlineSignal)
      |>.connect (.hostHandler n ip) .handleResultSignal (.server n) (.emits .handleResultSignal)

/-- `VMTDServer::clientDisconnectedSlot`. -/
def clientDisconnectedSlot (n : Nat) (ip : String) (c : VMTDController) : VMTDController :=
  c.destroy fun o => o = .hostHandler n ip

/-- The URL of an adapter. -/
def adapterUrl : VMTDObject → String
  | .nxApiAdapter _ _ url => url
  | _ => ""

/-- The constructor of `VMTDServer`. The host server has no sockets yet: it
accepts them in the event loop. -/
def newServer (n : Nat) (c : VMTDController) : VMTDController :=
  let c := c
    |>.create (.server n)
    |>.connect (.nxApiServer n) .adapterCreatedSignal (.server n) .adapterCreatedSlot
    |>.connect (.nxApiServer n) .adapterRemovedSignal (.server n) .adapterRemovedSlot
  let c := c.adapters.foldl
    (fun c adapter => c.adapterCreatedSlot n adapter (adapterUrl adapter)) c
  c |>.connect (.hostServer n) .clientConnectedSignal (.server n) .clientConnectedSlot
    |>.connect (.hostServer n) .clientDisconnectedSignal (.server n) .clientDisconnectedSlot

-- ---------------------------------------------------------------------------
-- VMTDNxApiServer
-- ---------------------------------------------------------------------------

/-- `VMTDNxApiServer::startListenSlot`: an adapter for each switch. Nobody is
connected to `adapterCreatedSignal` yet. -/
def startListenSlot (n : Nat) (urls : List String) (c : VMTDController) : VMTDController :=
  let adapters := urls.zipIdx.map fun url => .nxApiAdapter n url.2 url.1
  { c with objects := c.objects ++ adapters, adapters := adapters }

/-- `VMTDNxApiServer::stopListenSlot`: the servers that listen are told of each
adapter, then the adapters are deleted. -/
def stopListenSlot (n : Nat) (c : VMTDController) : VMTDController :=
  let told := c.adapters.foldl
    (fun c adapter =>
      (c.receivers (.nxApiServer n) .adapterRemovedSignal).foldl
        (fun c receiver =>
          match receiver with
          | (.server k, .adapterRemovedSlot) => c.adapterRemovedSlot k (adapterUrl adapter)
          | _ => c)
        c)
    c
  told.destroy fun o => o ∈ c.adapters

-- ---------------------------------------------------------------------------
-- Runs
-- ---------------------------------------------------------------------------

/-- `run` up to its event loop, with the role and the switches it finds. -/
def run (nodeType : EnNodeType) (urls : List String) (c : VMTDController) : VMTDController :=
  let n := c.runs
  let c := { c with isRunning := true, nodeType := nodeType, runs := n + 1, adapters := [] }
  let c := c
    |>.create (.hostClient n)
    |>.connect .controller .finished (.hostClient n) .deleteLater
    |>.create (.client n)
    |>.connect .controller .finished (.hostClient n) .deleteLater
    |>.create (.configurator n)
    |>.connect .controller .finished (.configurator n) .deleteLater
    |>.connect (.client n) .handleMethodSignal (.configurator n) .handleMethodSlot
  if nodeType = .server then
    c |>.create (.nxApiServer n)
      |>.connect .controller .finished (.nxApiServer n) .deleteLater
      |>.startListenSlot n urls
      |>.create (.hostServer n)
      |>.connect .controller .finished (.hostServer n) .deleteLater
      |>.newServer n
      |>.connect .controller .finished (.hostServer n) .deleteLater
      |>.connect (.server n) .updateUrlOnlineSignal .manager .updateUrlOnlineSlot
      |>.connect (.server n) .updateIpOnlineSignal .manager .updateIpOnlineSlot
      |>.connect .engine .appendCommandListSignal (.server n) .appendCommandListSlot
      |>.connect .engine .appendRequestListSignal (.server n) .appendRequestListSlot
      |>.connect (.server n) .handleResultSignal .engine .handleResultSlot
  else c

/-- What is destroyed when the thread finishes. What children these objects
still have then is not modelled. -/
def finishing (c : VMTDController) (o : VMTDObject) : Bool :=
  (o, .deleteLater) ∈ c.receivers .controller .finished

/-- `run` after its event loop, and the end of the thread. -/
def finish (c : VMTDController) : VMTDController :=
  let n := c.runs - 1
  let c := if c.nodeType = .server then c.stopListenSlot n else c
  { c.destroy c.finishing with isRunning := false }

/-- `startController`: a thread that runs is not started again. -/
def startController (nodeType : EnNodeType) (urls : List String) (c : VMTDController) :
    VMTDController :=
  if c.isRunning then c else c.run nodeType urls

/-- `stopController`. -/
def stopController (c : VMTDController) : VMTDController :=
  if c.isRunning then c.finish else c

/-- `restartSlot`. -/
def restartSlot (nodeType : EnNodeType) (urls : List String) (c : VMTDController) :
    VMTDController :=
  if c.isRunning then c.stopController.startController nodeType urls else c

-- ---------------------------------------------------------------------------
-- Events
-- ---------------------------------------------------------------------------

/-- What can happen to a controller; `urls` are the switches of the tables at
that time. -/
inductive ControllerEvent where
  | startController (urls : List String)
  | stopController
  | restart (urls : List String)
  | clientConnected (ip : String)
  | clientDisconnected (ip : String)

/-- A signal of the host server of the latest run about a socket. -/
def clientSignal (signal : VMTDSignal)
    (slot : Nat → String → VMTDController → VMTDController) (ip : String)
    (c : VMTDController) : VMTDController :=
  (c.receivers (.hostServer (c.runs - 1)) signal).foldl
    (fun c receiver =>
      match receiver.1 with
      | .server k => slot k ip c
      | _ => c)
    c

/-- The controller after an event. -/
def step (nodeType : EnNodeType) (c : VMTDController) : ControllerEvent → VMTDController
  | .startController urls => c.startController nodeType urls
  | .stopController => c.stopController
  | .restart urls => c.restartSlot nodeType urls
  | .clientConnected ip =>
    if c.isRunning then c.clientSignal .clientConnectedSignal clientConnectedSlot ip else c
  | .clientDisconnected ip =>
    if c.isRunning then c.clientSignal .clientDisconnectedSignal clientDisconnectedSlot ip else c

end VMTDController

end VxlanMtd
