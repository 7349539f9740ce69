import KanchoNet.Session.SessionManager

/-!
IOUringModel: operations are prepared in the submission queue and handed to the
kernel by the next submit that succeeds. SpinLock is not re-entrant, so SubmitSend,
which takes the session's lock, gets stuck under the callers that hold it. What the
ring answers is an argument; following the pointer of a destroyed session or of a
deallocated context is undefined.
-/
namespace KanchoNet
open GuardedSections

/-- An operation of the ring; its context is the allocation at the address. -/
structure IOUringContext where
  address : Nat
  operation : IOOperation
  session : Option SessionID
  buffer : List UInt8
  deriving DecidableEq

structure IOUringModel where
  mSessionManager : SessionManager Fd
  mSocketToSession : AList fun _ : Fd => SessionID
  callbacks : Callbacks
  nextContext : Nat
  prepared : List IOUringContext
  inflight : List IOUringContext
  deallocated : List Nat
  closed : List Fd

structure SubmitAnswers where
  sqe : Bool
  submit : Bool

structure CompletionAnswers where
  accept : SubmitAnswers
  session : SubmitAnswers

namespace IOUringModel

def setSession (id : SessionID) (session : Session Fd) (m : IOUringModel) : IOUringModel :=
  { m with mSessionManager := m.mSessionManager.store id session }

/-- A write through the Session*; the unlock of a destroyed session writes nowhere. -/
def modifySession (id : SessionID) (f : Session Fd → Session Fd) (m : IOUringModel) :
    IOUringModel :=
  match m.mSessionManager.getSession id with
  | none => m
  | some session => m.setSession id (f session)

def sessionLock (id : SessionID) : Lock IOUringModel where
  held m := (m.mSessionManager.getSession id).any Session.lock.held
  set flag m := m.modifySession id (Session.lock.set flag)

/-- Prepares an entry and submits the queue. A submit that fails leaves the entry
    prepared, although its context is deallocated. -/
def submitContext (operation : IOOperation) (session : Option SessionID) (buffer : List UInt8)
    (a : SubmitAnswers) (m : IOUringModel) : Bool × IOUringModel :=
  if ¬a.sqe then (false, m)
  else
    let ctx : IOUringContext := ⟨m.nextContext, operation, session, buffer⟩
    let m := { m with nextContext := m.nextContext + 1, prepared := m.prepared ++ [ctx] }
    if a.submit then (true, { m with prepared := [], inflight := m.inflight ++ m.prepared })
    else (false, { m with deallocated := m.deallocated ++ [ctx.address] })

def submitAccept (a : SubmitAnswers) (m : IOUringModel) : Bool × IOUringModel :=
  m.submitContext .accept none [] a

def submitReceive (id : SessionID) (a : SubmitAnswers) (m : IOUringModel) : Bool × IOUringModel :=
  m.submitContext .receive (some id) (List.replicate DEFAULT_BUFFER_SIZE.toNat 0) a

def submitSend (id : SessionID) (a : SubmitAnswers) (m : IOUringModel) :
    Outcome IOUringModel Bool :=
  guarded (sessionLock id) (fun m =>
    match m.mSessionManager.getSession id with
    | none => .undefined
    | some session =>
      let dataSize := session.mSendBuffer.getAvailableRead
      if dataSize = 0 then .done true (m.modifySession id fun s => s.setSending false)
      else
        let bufferSize := if DEFAULT_BUFFER_SIZE < dataSize then DEFAULT_BUFFER_SIZE else dataSize
        let (submitted, m) := m.submitContext .send (some id)
          (session.mSendBuffer.peekBytes bufferSize) a
        if ¬submitted then .done false (m.modifySession id fun s => s.setSending false)
        else .done true m)
    (m.modifySession id fun s => s.setSending true)

def send (id : SessionID) (packet : PacketBuffer) (a : SubmitAnswers) (m : IOUringModel) :
    Outcome IOUringModel Bool :=
  if packet.isEmpty then .done false m
  else guarded (sessionLock id) (fun m =>
    match m.mSessionManager.getSession id with
    | none => .undefined
    | some session =>
      let (written, session) := session.writePacket packet
      let m := m.setSession id session
      if written < packet.getSize then .done false m
      else if session.mIsSending then .done true m
      else m.submitSend id a) m

def closeSession (session : Session Fd) (m : IOUringModel) : IOUringModel :=
  { m with
    mSocketToSession := m.mSocketToSession.erase session.mSocket
    closed := m.closed ++ [session.mSocket] }

def processDisconnect (id : SessionID) (m : IOUringModel) : Outcome IOUringModel Unit :=
  match m.mSessionManager.getSession id with
  | none => .undefined
  | some session =>
    if session.isDisconnected then .done () m
    else
      let m := m.setSession id (session.setState .disconnected)
      .done () { m with
        callbacks := m.callbacks.onDisconnect id
        mSocketToSession := m.mSocketToSession.erase session.mSocket
        closed := m.closed ++ [session.mSocket]
        mSessionManager := (m.mSessionManager.removeSession id).2 }

def acceptClient (clientSocket : Fd) (a : SubmitAnswers) (m : IOUringModel) : IOUringModel :=
  match m.mSessionManager.addSession clientSocket .default with
  | (none, mSessionManager) => { m with mSessionManager, closed := m.closed ++ [clientSocket] }
  | (some id, mSessionManager) =>
    let session := Session.accepted id clientSocket .default
    let m := { m with
      mSessionManager := mSessionManager.store id session
      mSocketToSession := m.mSocketToSession.insert clientSocket id }
    let (submitted, m) := m.submitReceive id a
    if ¬submitted then m.closeSession session
    else { m with callbacks := m.callbacks.onAccept id }

def processAcceptCompletion (result : Int32) (a : CompletionAnswers) (m : IOUringModel) :
    IOUringModel :=
  -- the result of SubmitAccept is not looked at
  let (_, m) := m.submitAccept a.accept
  if result < 0 then m else m.acceptClient result.toBitVec a.session

def processReceiveCompletion (ctx : IOUringContext) (result : Int32) (received : List UInt8)
    (a : SubmitAnswers) (m : IOUringModel) : Outcome IOUringModel Unit :=
  match ctx.session with
  | none => .done () m
  | some id =>
    match m.mSessionManager.getSession id with
    | none => .undefined
    | some session =>
      if ¬session.isConnected then .done () m
      else if 0 < result then
        let m := { m with
          callbacks := m.callbacks.onReceive id (received.take result.toNatClampNeg) }
        .done () (m.submitReceive id a).2
      else m.processDisconnect id

def processSendCompletion (ctx : IOUringContext) (result : Int32) (a : SubmitAnswers)
    (m : IOUringModel) : Outcome IOUringModel Unit :=
  match ctx.session with
  | none => .done () m
  | some id => guarded (sessionLock id) (fun m =>
    match m.mSessionManager.getSession id with
    | none => .undefined
    | some session =>
      if 0 < result then
        let session := session.skipSent (UInt64.ofNat result.toNatClampNeg)
        let m := m.setSession id session
        if 0 < session.mSendBuffer.getAvailableRead then
          (m.submitSend id a).bind fun _ m => .done () m
        else .done () (m.setSession id (session.setSending false))
      else (m.setSession id (session.setSending false)).processDisconnect id) m

def processCompletion (ctx : IOUringContext) (result : Int32) (received : List UInt8)
    (a : CompletionAnswers) (m : IOUringModel) : Outcome IOUringModel Unit :=
  if ctx.address ∈ m.deallocated then .undefined
  else
    let handled : Outcome IOUringModel Unit := match ctx.operation with
      | .accept => .done () (m.processAcceptCompletion result a)
      | .receive => m.processReceiveCompletion ctx result received a.session
      | .send => m.processSendCompletion ctx result a.session
      | .disconnect => .done () m
    handled.bind fun _ m => .done () { m with deallocated := m.deallocated ++ [ctx.address] }

end IOUringModel
end KanchoNet
