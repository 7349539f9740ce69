import KanchoNet.Core.EngineConfig
import KanchoNet.Network.EpollSend
import KanchoNet.Session.SessionManager

/-!
EpollModel as a server, run by one worker: the session table beside the registry,
and the descriptors it holds open. What the operating system answers is an argument;
a handler that follows the pointer of a destroyed session has no defined outcome.
-/
namespace KanchoNet
open GuardedSections LabelledRuns

def sessionPtr (id : SessionID) : SessionPtr := id.toBitVec

/-- Until Initialize makes the session manager, one without room stands for it. -/
structure EpollServer where
  mInitialized : Bool
  mRunning : Bool
  mConfig : EngineConfig
  mEpollFd : Fd
  mSessionManager : SessionManager Fd
  registry : EpollRegistry
  callbacks : Callbacks
  descriptors : List Fd

structure InitializeAnswers where
  epollFd : Option Fd
  listenSocket : Option Fd
  bound : Bool

structure AcceptedClient where
  socket : Fd
  granted : Bool

inductive AcceptAnswers where
  | client (client : AcceptedClient) (next : AcceptAnswers)
  | wouldBlock
  | failed

/-- The answers of recv() in one ProcessReceive; the data is what a call leaves in
    mReceiveBuffer. -/
inductive RecvAnswers where
  | received (data : List UInt8) (positive : 0 < data.length)
      (within : data.length ≤ DEFAULT_BUFFER_SIZE.toNat) (next : RecvAnswers)
  | closed
  | wouldBlock
  | failed

structure ClientAnswers where
  recv : RecvAnswers
  send : SendAnswers
  granted : Bool

/-- An event of a batch; that of a client socket is taken as giving the session
    registered for the socket. -/
inductive ReadyEvent where
  | listen (answers : AcceptAnswers)
  | client (session : SessionID) (events : BitVec 32) (answers : ClientAnswers)

inductive WaitAnswer where
  | interrupted
  | failed
  | ready (events : List ReadyEvent)

namespace EpollServer

def construct : EpollServer where
  mInitialized := false
  mRunning := false
  mConfig := .default
  mEpollFd := -1
  mSessionManager := SessionManager.construct 0
  registry := ⟨INVALID_SOCKET_HANDLE, ∅, ∅⟩
  callbacks := ⟨false, false, false, []⟩
  descriptors := []

def openDescriptor (fd : Fd) (m : EpollServer) : EpollServer :=
  { m with descriptors := fd :: m.descriptors }

def closeDescriptor (fd : Fd) (m : EpollServer) : EpollServer :=
  { m with descriptors := m.descriptors.filter (· ≠ fd) }

def setSession (id : SessionID) (session : Session Fd) (m : EpollServer) : EpollServer :=
  { m with mSessionManager := m.mSessionManager.store id session }

/-- A write through the Session*; the unlock of a destroyed session writes nowhere. -/
def modifySession (id : SessionID) (f : Session Fd → Session Fd) (m : EpollServer) :
    EpollServer :=
  match m.mSessionManager.getSession id with
  | none => m
  | some session => m.setSession id (f session)

def sessionLock (id : SessionID) : Lock EpollServer where
  held m := (m.mSessionManager.getSession id).any Session.lock.held
  set flag m := m.modifySession id (Session.lock.set flag)

def initializeModel (config : EngineConfig) (a : InitializeAnswers) (m : EpollServer) :
    Bool × EpollServer :=
  if m.mInitialized then (false, m)
  else
    let m := { m with mConfig := config }
    match a.epollFd with
    | none => (false, { m with mEpollFd := -1 })
    | some epollFd =>
      -- a new epoll instance has an empty interest list
      let m := { m.openDescriptor epollFd with
        mEpollFd := epollFd, registry := { m.registry with interest := ∅ } }
      match a.listenSocket with
      | none => (false, { m.closeDescriptor epollFd with
          registry := { m.registry with mListenSocket := INVALID_SOCKET_HANDLE } })
      | some listenSocket =>
        let m := { m.openDescriptor listenSocket with
          registry := { m.registry with mListenSocket := listenSocket } }
        if ¬a.bound then (false, (m.closeDescriptor listenSocket).closeDescriptor epollFd)
        else (true, { m with
          mSessionManager := SessionManager.construct config.mMaxSessions
          mInitialized := true })

def startListen (listens granted : Bool) (m : EpollServer) : Bool × EpollServer :=
  if ¬m.mInitialized then (false, m)
  else if m.mRunning then (true, m)
  else if ¬listens then (false, m)
  else
    let listenSocket := m.registry.mListenSocket
    let (registered, registry) := m.registry.ctlAdd listenSocket
      ⟨EPOLLIN ||| EPOLLET, (EpollData.ofPtr 0).setFd listenSocket⟩ granted
    if ¬registered then (false, m) else (true, { m with registry, mRunning := true })

def closeSession (session : Session Fd) (m : EpollServer) : EpollServer :=
  { m.closeDescriptor session.mSocket with registry := m.registry.closeSocket session.mSocket }

def processDisconnect (id : SessionID) (m : EpollServer) : Outcome EpollServer Unit :=
  match m.mSessionManager.getSession id with
  | none => .undefined
  | some session =>
    if session.isDisconnected then .done () m
    else
      let m := m.setSession id (session.setState .disconnected)
      let m := { m with callbacks := m.callbacks.onDisconnect id }
      let m := { m.closeDescriptor session.mSocket with
        registry := m.registry.closeSocket session.mSocket }
      .done () { m with mSessionManager := (m.mSessionManager.removeSession id).2 }

def acceptClient (client : AcceptedClient) (m : EpollServer) : EpollServer :=
  let m := m.openDescriptor client.socket
  match m.mSessionManager.addSession client.socket .default with
  | (none, mSessionManager) =>
    { m.closeDescriptor client.socket with mSessionManager }
  | (some id, mSessionManager) =>
    let session := Session.accepted id client.socket .default
    let m := { m with mSessionManager := mSessionManager.store id session }
    let mSocketToSession := m.registry.mSocketToSession.insert client.socket (sessionPtr id)
    let (registered, registry) := { m.registry with mSocketToSession }.registerSocket
      client.socket (sessionPtr id) (EPOLLIN ||| EPOLLET) client.granted
    let m := { m with registry }
    if ¬registered then m.closeSession session
    else { m with callbacks := m.callbacks.onAccept id }

def processAccept : AcceptAnswers → EpollServer → EpollServer
  | .client client next, m => processAccept next (m.acceptClient client)
  | .wouldBlock, m => m
  | .failed, m => m

def recvLoop (id : SessionID) : RecvAnswers → EpollServer → Outcome EpollServer Unit
  | .received data _ _ next, m =>
    recvLoop id next { m with callbacks := m.callbacks.onReceive id data }
  | .closed, m => m.processDisconnect id
  | .wouldBlock, m => .done () m
  | .failed, m => m.processDisconnect id

def processReceive (id : SessionID) (answers : RecvAnswers) (m : EpollServer) :
    Outcome EpollServer Unit :=
  match m.mSessionManager.getSession id with
  | none => .undefined
  | some session => if ¬session.isConnected then .done () m else recvLoop id answers m

def onSession {β : Type} (id : SessionID) (body : EpollPeer → Outcome EpollPeer β)
    (m : EpollServer) : Outcome EpollServer β :=
  match m.mSessionManager.getSession id with
  | none => .undefined
  | some session => (body ⟨session, m.registry⟩).within fun p =>
    { m with mSessionManager := m.mSessionManager.store id p.session, registry := p.registry }

def send (id : SessionID) (packet : PacketBuffer) (granted : Bool) (m : EpollServer) :
    Outcome EpollServer Bool :=
  m.onSession id (EpollModel.send packet granted)

/-- The loop of ProcessSend and the ProcessDisconnect it may end in run under the lock. -/
def processSend (id : SessionID) (answers : SendAnswers) (granted : Bool) (m : EpollServer) :
    Outcome EpollServer Unit :=
  guarded (sessionLock id) (fun m =>
    (m.onSession id fun p =>
      let result := EpollModel.sendLoop answers granted 0 p
      .done result.ending result.peer).bind fun ending m =>
        if ending = .disconnect then m.processDisconnect id else .done () m) m

def handleEvent (m : EpollServer) : ReadyEvent → Outcome EpollServer Unit
  | .listen answers => .done () (m.processAccept answers)
  | .client id events a =>
    if events &&& (EPOLLERR ||| EPOLLHUP) ≠ 0 then m.processDisconnect id
    else
      (if events &&& EPOLLIN ≠ 0 then m.processReceive id a.recv else .done () m).bind fun _ m =>
        if events &&& EPOLLOUT ≠ 0 then m.processSend id a.send a.granted else .done () m

def handleEvents : List ReadyEvent → EpollServer → Outcome EpollServer Unit
  | [], m => .done () m
  | event :: events, m => (m.handleEvent event).bind fun _ m => handleEvents events m

def processIo (wait : WaitAnswer) (m : EpollServer) : Outcome EpollServer Bool :=
  if ¬m.mRunning then .done false m
  else
    match wait with
    | .interrupted => .done true m
    | .failed => .done false m
    | .ready events => (handleEvents events m).bind fun _ m => .done true m

def closeListenSocket (m : EpollServer) : EpollServer :=
  if m.registry.mListenSocket = INVALID_SOCKET_HANDLE then m
  else { m.closeDescriptor m.registry.mListenSocket with
    registry := { m.registry with
      mListenSocket := INVALID_SOCKET_HANDLE
      interest := m.registry.interest.erase m.registry.mListenSocket } }

def closeEpoll (m : EpollServer) : EpollServer :=
  if m.mEpollFd.toInt < 0 then m
  else { m.closeDescriptor m.mEpollFd with
    mEpollFd := -1, registry := { m.registry with interest := ∅ } }

def shutdown (m : EpollServer) : EpollServer :=
  if ¬m.mInitialized then m
  else
    let m := { m with mRunning := false }
    let m := m.mSessionManager.liveSessions.foldl (fun m session => m.closeSession session) m
    let m := { m with
      mSessionManager := m.mSessionManager.clear
      registry := { m.registry with mSocketToSession := ∅ } }
    { m.closeListenSocket.closeEpoll with mInitialized := false }

def forget (m : EpollServer) : EpollServer := { m with descriptors := [] }

theorem forget_eq_iff {m m' : EpollServer} :
    m.forget = m'.forget ↔ m' = { m with descriptors := m'.descriptors } := by
  constructor
  · intro alike
    exact congrArg (fun m : EpollServer => { m with descriptors := m'.descriptors }) alike.symm
  · intro same
    rw [same]
    rfl

end EpollServer
end KanchoNet
