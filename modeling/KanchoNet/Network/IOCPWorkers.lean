import KanchoNet.Lib.LabelledRuns
import KanchoNet.Network.IOCPModel

/-!
IOCPModel run by any number of workers, all of them inside ProcessIO, while any thread
calls Send. A step is one access to what they share (the completion port, the session
table, the state of a session, a section under its lock) or the call of a callback; what
Windows answers comes with the event. An AcceptEx is posted with a receive length of 0,
so ProcessIO never gets to ProcessAccept and only drops the context.
-/
namespace KanchoNet
open GuardedSections LabelledRuns

structure Completion where
  context : OverlappedContext
  result : Bool
  bytesTransferred : UInt32
  received : List UInt8
  deriving DecidableEq

def Completion.data (c : Completion) : List UInt8 :=
  if c.result then c.received.take c.bytesTransferred.toNat else []

/-- How far ProcessIO has come with a completion: the step it makes next. -/
inductive CompletionStage where
  | isConnected (data : List UInt8)
  | onReceive (data : List UInt8)
  | postReceive
  | processSend (bytesTransferred : UInt32)
  | isDisconnected
  | setDisconnected
  | onDisconnect
  | removeSession
  deriving DecidableEq

/-- What the workers share, and where each of them stands: waiting for a completion, or at
    a stage of a handler. arrived logs the bytes that came from the connections. -/
structure IOCPWorkers (W : Type) where
  mSessionManager : SessionManager SOCKET
  callbacks : Callbacks
  inflight : List OverlappedContext
  queue : List Completion
  arrived : List (SessionID × List UInt8)
  position : W → Option (SessionID × CompletionStage)

/-- An operation completes, a worker takes a completion out of the port or goes on with
    one, where the answer is that of the call to Windows, if it makes one. -/
inductive PortEvent (W : Type) where
  | complete (index : Nat) (result : Bool) (bytesTransferred : UInt32) (received : List UInt8)
  | dequeue (worker : W) (index : Nat)
  | proceed (worker : W) (answer : Bool)
  | send (id : SessionID) (packet : PacketBuffer) (wsaSend : Bool)

def Completion.handler (c : Completion) : Option (SessionID × CompletionStage) :=
  if c.result = false ∨ c.bytesTransferred = 0 then
    if c.context.operation ≠ .accept then c.context.session.map fun id => (id, .isDisconnected)
    else none
  else
    match c.context.operation with
    | .accept => none
    | .receive => c.context.session.map fun id => (id, .isConnected c.data)
    | .send => c.context.session.map fun id => (id, .processSend c.bytesTransferred)
    | .disconnect => c.context.session.map fun id => (id, .isDisconnected)

namespace IOCPWorkers
variable {W : Type}

def setSession (id : SessionID) (session : Session SOCKET) (s : IOCPWorkers W) : IOCPWorkers W :=
  { s with mSessionManager := s.mSessionManager.store id session }

def onSession {β : Type} (id : SessionID) (body : IOCPPeer → Outcome IOCPPeer β)
    (s : IOCPWorkers W) : Option (IOCPWorkers W) :=
  (s.mSessionManager.getSession id).bind fun session =>
    match body ⟨session, s.inflight⟩ with
    | .done _ p => some { s with
        mSessionManager := s.mSessionManager.store id p.session, inflight := p.inflight }
    | _ => none

def complete (index : Nat) (result : Bool) (bytesTransferred : UInt32) (received : List UInt8)
    (s : IOCPWorkers W) : Option (IOCPWorkers W) :=
  (s.inflight[index]?).bind fun context =>
    if context.wsaBuf.length < bytesTransferred.toNat then none
    else
      let completion : Completion := ⟨context, result, bytesTransferred, received⟩
      some { s with
        inflight := s.inflight.eraseIdx index
        queue := s.queue ++ [completion]
        arrived := match context.operation, context.session with
          | .receive, some id => s.arrived ++ [(id, completion.data)]
          | _, _ => s.arrived }

variable [DecidableEq W]

def moveTo (w : W) (position : Option (SessionID × CompletionStage)) (s : IOCPWorkers W) :
    IOCPWorkers W :=
  { s with position := Function.update s.position w position }

def dequeue (w : W) (index : Nat) (s : IOCPWorkers W) : Option (IOCPWorkers W) :=
  match s.position w, s.queue[index]? with
  | none, some completion =>
    some { s.moveTo w completion.handler with queue := s.queue.eraseIdx index }
  | _, _ => none

/-- What reads a destroyed session has no next state; a callback is only passed its
    pointer. -/
def proceed (w : W) (id : SessionID) (answer : Bool) (s : IOCPWorkers W) :
    CompletionStage → Option (IOCPWorkers W)
  | .isConnected data => (s.mSessionManager.getSession id).map fun session =>
    if ¬session.isConnected then s.moveTo w none else s.moveTo w (some (id, .onReceive data))
  | .onReceive data => some { s.moveTo w (some (id, .postReceive)) with
      callbacks := s.callbacks.onReceive id data }
  | .postReceive => (s.mSessionManager.getSession id).map fun _ =>
    -- the result of PostReceive is not looked at
    if answer then { s.moveTo w none with inflight := s.inflight ++ [receiveContext id] }
    else s.moveTo w none
  | .processSend bytesTransferred =>
    (s.onSession id (IOCPPeer.processSend bytesTransferred answer)).map (moveTo w none)
  | .isDisconnected => (s.mSessionManager.getSession id).map fun session =>
    if session.isDisconnected then s.moveTo w none
    else s.moveTo w (some (id, .setDisconnected))
  | .setDisconnected => (s.mSessionManager.getSession id).map fun session =>
    (s.setSession id (session.setState .disconnected)).moveTo w (some (id, .onDisconnect))
  | .onDisconnect => some { s.moveTo w (some (id, .removeSession)) with
      callbacks := s.callbacks.onDisconnect id }
  | .removeSession => (s.mSessionManager.getSession id).map fun session =>
    { s.moveTo w none with mSessionManager := (s.mSessionManager.removeSession session.mID).2 }

def step (s : IOCPWorkers W) : PortEvent W → Option (IOCPWorkers W)
  | .complete index result bytesTransferred received =>
    s.complete index result bytesTransferred received
  | .dequeue w index => s.dequeue w index
  | .proceed w answer => (s.position w).bind fun here => s.proceed w here.1 answer here.2
  | .send id packet wsaSend => s.onSession id (IOCPPeer.send packet wsaSend)

inductive Advance (s : IOCPWorkers W) : PortEvent W → IOCPWorkers W → Prop where
  | completed (index : Nat) (c : Completion) (t : IOCPWorkers W)
      (found : s.inflight[index]? = some c.context)
      (next : s.complete index c.result c.bytesTransferred c.received = some t) :
      Advance s (.complete index c.result c.bytesTransferred c.received) t
  | dequeued (w : W) (index : Nat) (c : Completion) (idle : s.position w = none)
      (found : s.queue[index]? = some c) :
      Advance s (.dequeue w index)
        { s.moveTo w c.handler with queue := s.queue.eraseIdx index }
  | dropped (w : W) (answer : Bool) (id : SessionID) (data : List UInt8) (session : Session SOCKET)
      (here : s.position w = some (id, .isConnected data))
      (found : s.mSessionManager.getSession id = some session)
      (refused : ¬session.isConnected = true) :
      Advance s (.proceed w answer) (s.moveTo w none)
  | checked (w : W) (answer : Bool) (id : SessionID) (data : List UInt8)
      (here : s.position w = some (id, .isConnected data)) :
      Advance s (.proceed w answer) (s.moveTo w (some (id, .onReceive data)))
  | delivered (w : W) (answer : Bool) (id : SessionID) (data : List UInt8)
      (here : s.position w = some (id, .onReceive data)) :
      Advance s (.proceed w answer) { s.moveTo w (some (id, .postReceive)) with
        callbacks := s.callbacks.onReceive id data }
  | posted (w : W) (id : SessionID) (here : s.position w = some (id, .postReceive)) :
      Advance s (.proceed w true)
        { s.moveTo w none with inflight := s.inflight ++ [receiveContext id] }
  | unposted (w : W) (id : SessionID) (here : s.position w = some (id, .postReceive)) :
      Advance s (.proceed w false) (s.moveTo w none)
  | sent (w : W) (answer : Bool) (id : SessionID) (bytesTransferred : UInt32) (t : IOCPWorkers W)
      (here : s.position w = some (id, .processSend bytesTransferred))
      (handled : s.onSession id (IOCPPeer.processSend bytesTransferred answer) = some t) :
      Advance s (.proceed w answer) (t.moveTo w none)
  | examined (w : W) (answer : Bool) (id : SessionID)
      (next : Option (SessionID × CompletionStage))
      (here : s.position w = some (id, .isDisconnected))
      (there : next = none ∨ next = some (id, .setDisconnected)) :
      Advance s (.proceed w answer) (s.moveTo w next)
  | stored (w : W) (answer : Bool) (id : SessionID) (session : Session SOCKET)
      (here : s.position w = some (id, .setDisconnected))
      (found : s.mSessionManager.getSession id = some session) :
      Advance s (.proceed w answer)
        ((s.setSession id (session.setState .disconnected)).moveTo w (some (id, .onDisconnect)))
  | dismissed (w : W) (answer : Bool) (id : SessionID)
      (here : s.position w = some (id, .onDisconnect)) :
      Advance s (.proceed w answer) { s.moveTo w (some (id, .removeSession)) with
        callbacks := s.callbacks.onDisconnect id }
  | removed (w : W) (answer : Bool) (id : SessionID) (session : Session SOCKET)
      (here : s.position w = some (id, .removeSession))
      (found : s.mSessionManager.getSession id = some session) :
      Advance s (.proceed w answer) { s.moveTo w none with
        mSessionManager := (s.mSessionManager.removeSession session.mID).2 }
  | queued (id : SessionID) (packet : PacketBuffer) (wsaSend : Bool) (t : IOCPWorkers W)
      (handled : s.onSession id (IOCPPeer.send packet wsaSend) = some t) :
      Advance s (.send id packet wsaSend) t

theorem proceed_advance {s t : IOCPWorkers W} {w : W} {id : SessionID} {answer : Bool}
    {stage : CompletionStage} (here : s.position w = some (id, stage))
    (next : s.proceed w id answer stage = some t) : Advance s (.proceed w answer) t := by
  cases stage with
  | isConnected data =>
    obtain ⟨session, found, rfl⟩ := Option.map_eq_some_iff.mp next
    split
    · rename_i refused
      exact .dropped w answer id data session here found refused
    · exact .checked w answer id data here
  | onReceive data =>
    cases next
    exact .delivered w answer id data here
  | postReceive =>
    obtain ⟨session, found, rfl⟩ := Option.map_eq_some_iff.mp next
    cases answer with
    | true => exact .posted w id here
    | false => exact .unposted w id here
  | processSend bytesTransferred =>
    obtain ⟨u, handled, rfl⟩ := Option.map_eq_some_iff.mp next
    exact .sent w answer id bytesTransferred u here handled
  | isDisconnected =>
    obtain ⟨session, found, rfl⟩ := Option.map_eq_some_iff.mp next
    split
    · exact .examined w answer id _ here (Or.inl rfl)
    · exact .examined w answer id _ here (Or.inr rfl)
  | setDisconnected =>
    obtain ⟨session, found, rfl⟩ := Option.map_eq_some_iff.mp next
    exact .stored w answer id session here found
  | onDisconnect =>
    cases next
    exact .dismissed w answer id here
  | removeSession =>
    obtain ⟨session, found, rfl⟩ := Option.map_eq_some_iff.mp next
    exact .removed w answer id session here found

theorem step_advance {s t : IOCPWorkers W} {e : PortEvent W} (next : step s e = some t) :
    Advance s e t := by
  cases e with
  | complete index result bytesTransferred received =>
    obtain ⟨context, found, _⟩ := Option.bind_eq_some_iff.mp next
    exact .completed index ⟨context, result, bytesTransferred, received⟩ t found next
  | dequeue w index =>
    simp only [step, dequeue] at next
    split at next
    · rename_i c idle found
      cases next
      exact .dequeued w index c idle found
    · cases next
  | proceed w answer =>
    obtain ⟨⟨id, stage⟩, here, next⟩ := Option.bind_eq_some_iff.mp next
    exact proceed_advance here next
  | send id packet wsaSend => exact .queued id packet wsaSend t next

end IOCPWorkers
end KanchoNet
