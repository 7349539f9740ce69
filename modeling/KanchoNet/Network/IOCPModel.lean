import KanchoNet.Network.IOCPSend
import KanchoNet.Session.SessionManager

/-!
IOCPModel as a server: the session table, the operations in flight and ProcessIO,
which handles one completion a call. What Windows answers is an argument; a handler
that follows the pointer of a destroyed session has no defined outcome.
-/
namespace KanchoNet
open GuardedSections

structure IOCPModel where
  mInitialized : Bool
  mRunning : Bool
  mListenSocket : SOCKET
  mSessionManager : SessionManager SOCKET
  callbacks : Callbacks
  inflight : List OverlappedContext
  closed : List SOCKET

def acceptContext (acceptSocket : SOCKET) : OverlappedContext :=
  ⟨.accept, none, [], acceptSocket⟩

def receiveContext (id : SessionID) : OverlappedContext :=
  ⟨.receive, some id, List.replicate DEFAULT_BUFFER_SIZE.toNat 0, INVALID_SOCKET⟩

structure ProcessAnswers where
  acceptSocket : SOCKET
  acceptEx : Bool
  associated : Bool
  wsaRecv : Bool
  wsaSend : Bool

/-- What GetQueuedCompletionStatus gives: no operation, or one that was in flight
    with its result and the bytes it left in the context's buffer. -/
inductive QueuedStatus where
  | timeout
  | failed
  | completion (index : Nat) (result : Bool) (bytesTransferred : UInt32) (received : List UInt8)

namespace IOCPModel

def initialized (listenSocket : SOCKET) (maxSessions : UInt32) (callbacks : Callbacks) :
    IOCPModel where
  mInitialized := true
  mRunning := false
  mListenSocket := listenSocket
  mSessionManager := SessionManager.construct maxSessions
  callbacks := callbacks
  inflight := []
  closed := []

def registerAccept (acceptSocket : SOCKET) (acceptEx : Bool) (m : IOCPModel) : Bool × IOCPModel :=
  if acceptSocket = INVALID_SOCKET then (false, m)
  else if acceptEx then (true, { m with inflight := m.inflight ++ [acceptContext acceptSocket] })
  else (false, { m with closed := m.closed ++ [acceptSocket] })

def startListen (listens associated : Bool) (acceptSocket : SOCKET) (acceptEx : Bool)
    (m : IOCPModel) : Bool × IOCPModel :=
  if ¬m.mInitialized then (false, m)
  else if m.mRunning then (true, m)
  else if ¬listens then (false, m)
  else if ¬associated then (false, m)
  else
    let (registered, m) := m.registerAccept acceptSocket acceptEx
    if ¬registered then (false, m) else (true, { m with mRunning := true })

def postReceive (wsaRecv : Bool) (id : SessionID) (m : IOCPModel) : Bool × IOCPModel :=
  if wsaRecv then (true, { m with inflight := m.inflight ++ [receiveContext id] }) else (false, m)

def closeSession (session : Session SOCKET) (m : IOCPModel) : IOCPModel :=
  { m with closed := m.closed ++ [session.mSocket] }

def processAccept (context : OverlappedContext) (a : ProcessAnswers) (m : IOCPModel) : IOCPModel :=
  -- the result of RegisterAccept is not looked at
  let (_, m) := m.registerAccept a.acceptSocket a.acceptEx
  match m.mSessionManager.addSession context.acceptSocket .default with
  | (none, mSessionManager) =>
    { m with mSessionManager, closed := m.closed ++ [context.acceptSocket] }
  | (some id, mSessionManager) =>
    let session := Session.accepted id context.acceptSocket .default
    let m := { m with mSessionManager := mSessionManager.store id session }
    if ¬a.associated then m.closeSession session
    else
      let (posted, m) := m.postReceive a.wsaRecv id
      if ¬posted then m.closeSession session
      else { m with callbacks := m.callbacks.onAccept id }

def onSession {β : Type} (id : SessionID) (body : IOCPPeer → Outcome IOCPPeer β) (m : IOCPModel) :
    Outcome IOCPModel β :=
  match m.mSessionManager.getSession id with
  | none => .undefined
  | some session => (body ⟨session, m.inflight⟩).within fun p =>
    { m with mSessionManager := m.mSessionManager.store id p.session, inflight := p.inflight }

def processReceive (context : OverlappedContext) (bytesTransferred : UInt32)
    (received : List UInt8) (wsaRecv : Bool) (m : IOCPModel) : Outcome IOCPModel Unit :=
  match context.session with
  | none => .done () m
  | some id =>
    match m.mSessionManager.getSession id with
    | none => .undefined
    | some session =>
      if ¬session.isConnected then .done () m
      else
        let m := { m with
          callbacks := m.callbacks.onReceive id (received.take bytesTransferred.toNat) }
        .done () (m.postReceive wsaRecv id).2

def processSend (context : OverlappedContext) (bytesTransferred : UInt32) (wsaSend : Bool)
    (m : IOCPModel) : Outcome IOCPModel Unit :=
  match context.session with
  | none => .done () m
  | some id => m.onSession id (IOCPPeer.processSend bytesTransferred wsaSend)

def processDisconnect (context : OverlappedContext) (m : IOCPModel) : Outcome IOCPModel Unit :=
  match context.session with
  | none => .done () m
  | some id =>
    match m.mSessionManager.getSession id with
    | none => .undefined
    | some session =>
      if session.isDisconnected then .done () m
      else
        let mSessionManager := m.mSessionManager.store id (session.setState .disconnected)
        .done () { m with
          mSessionManager := (mSessionManager.removeSession id).2
          callbacks := m.callbacks.onDisconnect id }

/-- The dispatch of ProcessIO on a completion whose context has left the flight. -/
def handleCompletion (context : OverlappedContext) (result : Bool) (bytesTransferred : UInt32)
    (received : List UInt8) (a : ProcessAnswers) (m : IOCPModel) : Outcome IOCPModel Unit :=
  if result = false ∨ bytesTransferred = 0 then
    if context.operation ≠ .accept then m.processDisconnect context else .done () m
  else
    match context.operation with
    | .accept => .done () (m.processAccept context a)
    | .receive => m.processReceive context bytesTransferred received a.wsaRecv
    | .send => m.processSend context bytesTransferred a.wsaSend
    | .disconnect => m.processDisconnect context

def processIo (status : QueuedStatus) (a : ProcessAnswers) (m : IOCPModel) :
    Outcome IOCPModel Bool :=
  if ¬m.mRunning then .done false m
  else
    match status with
    | .timeout => .done true m
    | .failed => .done false m
    | .completion index result bytesTransferred received =>
      match m.inflight[index]? with
      | none => .undefined
      | some context =>
        (handleCompletion context result bytesTransferred received a
          { m with inflight := m.inflight.eraseIdx index }).bind fun _ m => .done true m

def send (id : SessionID) (packet : PacketBuffer) (wsaSend : Bool) (m : IOCPModel) :
    Outcome IOCPModel Bool :=
  m.onSession id (IOCPPeer.send packet wsaSend)

def shutdown (m : IOCPModel) : IOCPModel :=
  if ¬m.mInitialized then m
  else
    let sockets := m.mSessionManager.mSessions.entries.map fun entry => entry.2.mSocket
    let listening := if m.mListenSocket = INVALID_SOCKET then [] else [m.mListenSocket]
    { m with
      mInitialized := false
      mRunning := false
      mListenSocket := INVALID_SOCKET
      mSessionManager := m.mSessionManager.clear
      closed := m.closed ++ sockets ++ listening }

end IOCPModel
end KanchoNet
