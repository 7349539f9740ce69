import KanchoNet.Session.SessionManager
import KanchoNet.Lib.LabelledRuns

/-!
EpollModel run by any number of workers, all of them inside ProcessIO. A step is one
access to what they share (the session table, epoll, a socket, mReceiveBuffer, the state
of a session) or the call of a callback; the answers of the operating system come with
the event. An event gives the session registered for its socket.
-/
namespace KanchoNet
open LabelledRuns

structure ReceiveBuffer where
  bytes : List UInt8
  full : bytes.length = DEFAULT_BUFFER_SIZE.toNat

namespace ReceiveBuffer

def zeroed : ReceiveBuffer := ⟨List.replicate DEFAULT_BUFFER_SIZE.toNat 0, List.length_replicate⟩

def fill (b : ReceiveBuffer) (data : List UInt8)
    (within : data.length ≤ DEFAULT_BUFFER_SIZE.toNat) : ReceiveBuffer where
  bytes := data ++ b.bytes.drop data.length
  full := by
    rw [List.length_append, List.length_drop, b.full]
    omega

@[simp] theorem take_fill (b : ReceiveBuffer) (data : List UInt8)
    (within : data.length ≤ DEFAULT_BUFFER_SIZE.toNat) :
    (b.fill data within).bytes.take data.length = data :=
  List.take_left

end ReceiveBuffer

inductive RecvAnswer where
  | received (data : List UInt8) (positive : 0 < data.length)
      (within : data.length ≤ DEFAULT_BUFFER_SIZE.toNat)
  | closed
  | wouldBlock
  | failed

/-- How far a handler has come with a session: the step it makes next. -/
inductive HandlerStage where
  | setConnected (socket : Fd)
  | registerSocket (socket : Fd)
  | onAccept
  | isConnected
  | recv
  | onReceive (bytesRead : Nat)
  | isDisconnected
  | setDisconnected
  | onDisconnect
  | closeSocket
  | removeSession
  deriving DecidableEq

/-- What the workers share, and where each of them stands: waiting for an event, or at
    a stage of a handler. The kernel's side is the session registered for a socket and
    the session whose connection an open socket is; reads logs the bytes that came from
    the connections. -/
structure EpollWorkers (W : Type) where
  mSessionManager : SessionManager Fd
  mReceiveBuffer : ReceiveBuffer
  callbacks : Callbacks
  interest : AList fun _ : Fd => SessionID
  sockets : AList fun _ : Fd => SessionID
  reads : List (SessionID × List UInt8)
  position : W → Option (SessionID × HandlerStage)

/-- A step of a worker. A send() that fails ends like a hang-up, in ProcessDisconnect. -/
inductive WorkerEvent (W : Type) where
  | accept (worker : W) (socket : Fd)
  | readable (worker : W) (socket : Fd)
  | hangUp (worker : W) (socket : Fd)
  | register (worker : W) (granted : Bool)
  | receive (worker : W) (answer : RecvAnswer)
  | proceed (worker : W)

def WorkerEvent.accepts {W : Type} : WorkerEvent W → Bool
  | .accept _ _ => true
  | _ => false

namespace EpollWorkers
variable {W : Type}

def listening (maxSessions : UInt32) (buffer : ReceiveBuffer) : EpollWorkers W where
  mSessionManager := SessionManager.construct maxSessions
  mReceiveBuffer := buffer
  callbacks := ⟨true, true, true, []⟩
  interest := ∅
  sockets := ∅
  reads := []
  position _ := none

def setSession (id : SessionID) (session : Session Fd) (s : EpollWorkers W) : EpollWorkers W :=
  { s with mSessionManager := s.mSessionManager.store id session }

/-- epoll_ctl takes the socket off and close frees it, whoever's connection it is by now. -/
def closeSocket (socket : Fd) (s : EpollWorkers W) : EpollWorkers W :=
  { s with interest := s.interest.erase socket, sockets := s.sockets.erase socket }

variable [DecidableEq W]

def moveTo (w : W) (position : Option (SessionID × HandlerStage)) (s : EpollWorkers W) :
    EpollWorkers W :=
  { s with position := Function.update s.position w position }

@[simp] theorem position_moveTo_self (w : W) (position : Option (SessionID × HandlerStage))
    (s : EpollWorkers W) : (s.moveTo w position).position w = position := by
  simp only [moveTo, Function.update_self]

theorem position_moveTo_ne {w other : W} (different : other ≠ w)
    (position : Option (SessionID × HandlerStage)) (s : EpollWorkers W) :
    (s.moveTo w position).position other = s.position other := by
  simp only [moveTo, Function.update_of_ne different]

@[simp] theorem callbacks_moveTo (w : W) (position : Option (SessionID × HandlerStage))
    (s : EpollWorkers W) : (s.moveTo w position).callbacks = s.callbacks := rfl

theorem view_moveTo {β : Type} (view : Option (SessionID × HandlerStage) → β) {w : W}
    {position : Option (SessionID × HandlerStage)} {s : EpollWorkers W}
    (same : view position = view (s.position w)) (other : W) :
    view ((s.moveTo w position).position other) = view (s.position other) := by
  by_cases moved : other = w
  · rw [moved, position_moveTo_self]
    exact same
  · rw [position_moveTo_ne moved]

def acceptClient (w : W) (socket : Fd) (s : EpollWorkers W) : EpollWorkers W :=
  match s.mSessionManager.addSession socket .default with
  | (none, mSessionManager) => { s with mSessionManager }
  | (some id, mSessionManager) =>
    { s.moveTo w (some (id, .setConnected socket)) with
      mSessionManager, sockets := s.sockets.insert socket id }

def dispatch (w : W) (socket : Fd) (first : HandlerStage) (s : EpollWorkers W) :
    Option (EpollWorkers W) :=
  match s.position w, s.interest.lookup socket with
  | none, some id => some (s.moveTo w (some (id, first)))
  | _, _ => none

def registerSocket (w : W) (id : SessionID) (socket : Fd) (granted : Bool) (s : EpollWorkers W) :
    Option (EpollWorkers W) :=
  if granted ∧ socket ∈ s.sockets ∧ socket ∉ s.interest then
    some { s.moveTo w (some (id, .onAccept)) with interest := s.interest.insert socket id }
  else
    -- CloseSession; the session stays in the table
    (s.mSessionManager.getSession id).map fun session =>
      (s.closeSocket session.mSocket).moveTo w none

/-- recv() on the socket of the session; a socket that is closed by now has no data. -/
def receiveFrom (w : W) (id : SessionID) (answer : RecvAnswer) (s : EpollWorkers W) :
    Option (EpollWorkers W) :=
  (s.mSessionManager.getSession id).bind fun session =>
    match answer, s.sockets.lookup session.mSocket with
    | .received data _ within, some owner =>
      some { s.moveTo w (some (id, .onReceive data.length)) with
        mReceiveBuffer := s.mReceiveBuffer.fill data within
        reads := s.reads ++ [(owner, data)] }
    | .closed, some _ => some (s.moveTo w (some (id, .isDisconnected)))
    | .wouldBlock, some _ => some (s.moveTo w none)
    | .failed, _ => some (s.moveTo w (some (id, .isDisconnected)))
    | _, none => none

/-- The steps that ask the operating system nothing. What reads a destroyed session
    has no next state; a callback is only passed its pointer. -/
def proceed (w : W) (id : SessionID) (s : EpollWorkers W) :
    HandlerStage → Option (EpollWorkers W)
  | .setConnected socket => (s.mSessionManager.getSession id).map fun session =>
    (s.setSession id (session.setState .connected)).moveTo w (some (id, .registerSocket socket))
  | .onAccept => some { s.moveTo w none with callbacks := s.callbacks.onAccept id }
  | .isConnected => (s.mSessionManager.getSession id).map fun session =>
    if ¬session.isConnected then s.moveTo w none else s.moveTo w (some (id, .recv))
  | .onReceive bytesRead => some { s.moveTo w (some (id, .recv)) with
      callbacks := s.callbacks.onReceive id (s.mReceiveBuffer.bytes.take bytesRead) }
  | .isDisconnected => (s.mSessionManager.getSession id).map fun session =>
    if session.isDisconnected then s.moveTo w none
    else s.moveTo w (some (id, .setDisconnected))
  | .setDisconnected => (s.mSessionManager.getSession id).map fun session =>
    (s.setSession id (session.setState .disconnected)).moveTo w (some (id, .onDisconnect))
  | .onDisconnect => some { s.moveTo w (some (id, .closeSocket)) with
      callbacks := s.callbacks.onDisconnect id }
  | .closeSocket => (s.mSessionManager.getSession id).map fun session =>
    (s.closeSocket session.mSocket).moveTo w (some (id, .removeSession))
  | .removeSession => (s.mSessionManager.getSession id).map fun session =>
    { s.moveTo w none with mSessionManager := (s.mSessionManager.removeSession session.mID).2 }
  -- epoll_ctl and recv answer first
  | .registerSocket _ | .recv => none

/-- accept() gives a descriptor that is not open. -/
def step (s : EpollWorkers W) : WorkerEvent W → Option (EpollWorkers W)
  | .accept w socket =>
    if s.position w = none ∧ socket ∉ s.sockets then some (s.acceptClient w socket) else none
  | .readable w socket => s.dispatch w socket .isConnected
  | .hangUp w socket => s.dispatch w socket .isDisconnected
  | .register w granted =>
    match s.position w with
    | some (id, .registerSocket socket) => s.registerSocket w id socket granted
    | _ => none
  | .receive w answer =>
    match s.position w with
    | some (id, .recv) => s.receiveFrom w id answer
    | _ => none
  | .proceed w => (s.position w).bind fun here => s.proceed w here.1 here.2

inductive Advance (s : EpollWorkers W) : WorkerEvent W → EpollWorkers W → Prop where
  | refused (w : W) (socket : Fd) : Advance s (.accept w socket) s
  | accepted (w : W) (socket : Fd) (mSessionManager : SessionManager Fd)
      (idle : s.position w = none)
      (added : s.mSessionManager.addSession socket .default =
        (some s.mSessionManager.mNextSessionID, mSessionManager)) :
      Advance s (.accept w socket)
        { s.moveTo w (some (s.mSessionManager.mNextSessionID, .setConnected socket)) with
          mSessionManager, sockets := s.sockets.insert socket s.mSessionManager.mNextSessionID }
  | dispatched (e : WorkerEvent W) (w : W) (socket : Fd) (id : SessionID) (first : HandlerStage)
      (idle : s.position w = none) (registered : s.interest.lookup socket = some id)
      (handler : first = .isConnected ∨ first = .isDisconnected) :
      Advance s e (s.moveTo w (some (id, first)))
  | registered (w : W) (granted : Bool) (id : SessionID) (socket : Fd)
      (here : s.position w = some (id, .registerSocket socket)) :
      Advance s (.register w granted)
        { s.moveTo w (some (id, .onAccept)) with interest := s.interest.insert socket id }
  | unregistered (w : W) (granted : Bool) (id : SessionID) (socket closed : Fd)
      (here : s.position w = some (id, .registerSocket socket)) :
      Advance s (.register w granted) ((s.closeSocket closed).moveTo w none)
  | received (w : W) (data : List UInt8) (positive : 0 < data.length)
      (within : data.length ≤ DEFAULT_BUFFER_SIZE.toNat) (id owner : SessionID)
      (session : Session Fd) (here : s.position w = some (id, .recv))
      (found : s.mSessionManager.getSession id = some session)
      (connection : s.sockets.lookup session.mSocket = some owner) :
      Advance s (.receive w (.received data positive within))
        { s.moveTo w (some (id, .onReceive data.length)) with
          mReceiveBuffer := s.mReceiveBuffer.fill data within
          reads := s.reads ++ [(owner, data)] }
  | ended (w : W) (answer : RecvAnswer) (id : SessionID)
      (next : Option (SessionID × HandlerStage)) (here : s.position w = some (id, .recv))
      (there : next = none ∨ next = some (id, .isDisconnected)) :
      Advance s (.receive w answer) (s.moveTo w next)
  | checked (w : W) (id : SessionID) (stage : HandlerStage)
      (next : Option (SessionID × HandlerStage)) (here : s.position w = some (id, stage))
      (check : stage = .isConnected ∧ (next = none ∨ next = some (id, .recv)) ∨
        stage = .isDisconnected ∧ (next = none ∨ next = some (id, .setDisconnected))) :
      Advance s (.proceed w) (s.moveTo w next)
  | stored (w : W) (id : SessionID) (stage next : HandlerStage) (session : Session Fd)
      (state : SessionState) (here : s.position w = some (id, stage))
      (found : s.mSessionManager.getSession id = some session)
      (store : (∃ socket, stage = .setConnected socket ∧ next = .registerSocket socket) ∨
        stage = .setDisconnected ∧ next = .onDisconnect) :
      Advance s (.proceed w)
        ((s.setSession id (session.setState state)).moveTo w (some (id, next)))
  | greeted (w : W) (id : SessionID) (here : s.position w = some (id, .onAccept)) :
      Advance s (.proceed w) { s.moveTo w none with callbacks := s.callbacks.onAccept id }
  | delivered (w : W) (id : SessionID) (bytesRead : Nat)
      (here : s.position w = some (id, .onReceive bytesRead)) :
      Advance s (.proceed w) { s.moveTo w (some (id, .recv)) with
        callbacks := s.callbacks.onReceive id (s.mReceiveBuffer.bytes.take bytesRead) }
  | dismissed (w : W) (id : SessionID) (here : s.position w = some (id, .onDisconnect)) :
      Advance s (.proceed w) { s.moveTo w (some (id, .closeSocket)) with
        callbacks := s.callbacks.onDisconnect id }
  | closed (w : W) (id : SessionID) (socket : Fd) (here : s.position w = some (id, .closeSocket)) :
      Advance s (.proceed w) ((s.closeSocket socket).moveTo w (some (id, .removeSession)))
  | removed (w : W) (id : SessionID) (session : Session Fd)
      (here : s.position w = some (id, .removeSession))
      (found : s.mSessionManager.getSession id = some session) :
      Advance s (.proceed w) { s.moveTo w none with
        mSessionManager := (s.mSessionManager.removeSession session.mID).2 }

theorem proceed_advance {s t : EpollWorkers W} {w : W} {id : SessionID} {stage : HandlerStage}
    (here : s.position w = some (id, stage)) (next : s.proceed w id stage = some t) :
    Advance s (.proceed w) t := by
  cases stage with
  | setConnected socket =>
    obtain ⟨session, found, rfl⟩ := Option.map_eq_some_iff.mp next
    exact .stored w id _ _ session _ here found (Or.inl ⟨socket, rfl, rfl⟩)
  | registerSocket socket => cases next
  | onAccept =>
    cases next
    exact .greeted w id here
  | isConnected =>
    obtain ⟨session, found, rfl⟩ := Option.map_eq_some_iff.mp next
    split
    · exact .checked w id _ _ here (Or.inl ⟨rfl, Or.inl rfl⟩)
    · exact .checked w id _ _ here (Or.inl ⟨rfl, Or.inr rfl⟩)
  | recv => cases next
  | onReceive bytesRead =>
    cases next
    exact .delivered w id bytesRead here
  | isDisconnected =>
    obtain ⟨session, found, rfl⟩ := Option.map_eq_some_iff.mp next
    split
    · exact .checked w id _ _ here (Or.inr ⟨rfl, Or.inl rfl⟩)
    · exact .checked w id _ _ here (Or.inr ⟨rfl, Or.inr rfl⟩)
  | setDisconnected =>
    obtain ⟨session, found, rfl⟩ := Option.map_eq_some_iff.mp next
    exact .stored w id _ _ session _ here found (Or.inr ⟨rfl, rfl⟩)
  | onDisconnect =>
    cases next
    exact .dismissed w id here
  | closeSocket =>
    obtain ⟨session, found, rfl⟩ := Option.map_eq_some_iff.mp next
    exact .closed w id _ here
  | removeSession =>
    obtain ⟨session, found, rfl⟩ := Option.map_eq_some_iff.mp next
    exact .removed w id session here found

theorem dispatch_advance {s t : EpollWorkers W} {w : W} {socket : Fd} {first : HandlerStage}
    (handler : first = .isConnected ∨ first = .isDisconnected) (e : WorkerEvent W)
    (next : s.dispatch w socket first = some t) : Advance s e t := by
  unfold dispatch at next
  split at next
  · rename_i id idle registered
    cases next
    exact .dispatched e w socket id first idle registered handler
  · cases next

theorem receiveFrom_advance {s t : EpollWorkers W} {w : W} {id : SessionID} {answer : RecvAnswer}
    (here : s.position w = some (id, .recv)) (next : s.receiveFrom w id answer = some t) :
    Advance s (.receive w answer) t := by
  obtain ⟨session, found, next⟩ := Option.bind_eq_some_iff.mp next
  cases connection : s.sockets.lookup session.mSocket with
  | none =>
    rw [connection] at next
    cases answer with
    | failed =>
      cases next
      exact .ended w _ id _ here (Or.inr rfl)
    | received | closed | wouldBlock => cases next
  | some owner =>
    rw [connection] at next
    cases answer with
    | received data positive within =>
      cases next
      exact .received w data positive within id owner session here found connection
    | wouldBlock =>
      cases next
      exact .ended w _ id _ here (Or.inl rfl)
    | closed | failed =>
      cases next
      exact .ended w _ id _ here (Or.inr rfl)

theorem step_advance {s t : EpollWorkers W} {e : WorkerEvent W} (next : step s e = some t) :
    Advance s e t := by
  cases e with
  | accept w socket =>
    simp only [step, Option.ite_none_right_eq_some, Option.some.injEq] at next
    obtain ⟨⟨idle, _⟩, rfl⟩ := next
    unfold acceptClient
    rcases s.mSessionManager.addSession_cases socket .default with full | ⟨m, added, _⟩
    · rw [full]
      exact .refused w socket
    · rw [added]
      exact .accepted w socket m idle added
  | readable w socket => exact dispatch_advance (Or.inl rfl) _ next
  | hangUp w socket => exact dispatch_advance (Or.inr rfl) _ next
  | register w granted =>
    simp only [step] at next
    split at next
    · rename_i id socket here
      unfold registerSocket at next
      split at next
      · cases next
        exact .registered w granted id socket here
      · obtain ⟨session, _, rfl⟩ := Option.map_eq_some_iff.mp next
        exact .unregistered w granted id socket _ here
    · cases next
  | receive w answer =>
    simp only [step] at next
    split at next
    · rename_i id here
      exact receiveFrom_advance here next
    · cases next
  | proceed w =>
    obtain ⟨⟨id, stage⟩, here, next⟩ := Option.bind_eq_some_iff.mp next
    exact proceed_advance here next

def connecting (w : W) (socket : Fd) : List (WorkerEvent W) :=
  [.accept w socket, .proceed w, .register w true, .proceed w, .readable w socket, .proceed w]

def oneByte (byte : UInt8) : RecvAnswer :=
  .received [byte] Nat.one_pos (show 1 ≤ DEFAULT_BUFFER_SIZE.toNat from Nat.le_of_ble_eq_true rfl)

end EpollWorkers
end KanchoNet
