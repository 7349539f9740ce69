import KanchoNet.Network.EpollHandlers

/-!
What a handler of EpollModel does with its Session*, moment by moment, and the server
it finds at each of them. A guard unlocks when its scope ends, after a
ProcessDisconnect inside it.
-/
namespace KanchoNet
open GuardedSections

inductive Doing where
  | use
  | onReceive
  | onDisconnect
  | removeSession
  | unlock
  deriving DecidableEq

structure Moment (σ : Type) where
  doing : Doing
  session : SessionID
  state : σ

def RecvAnswers.ends : RecvAnswers → Bool
  | .received _ _ _ next => next.ends
  | .closed => true
  | .wouldBlock => false
  | .failed => true

/-- The answers of send() end in ProcessDisconnect, with these bytes in the buffer: one of
    them is 0 or an error before the kernel would block and before the bytes are gone. -/
inductive SendFails (answers : SendAnswers) : Nat → List UInt8 → Prop
  | closed {calls : Nat} {bytes sendBuffer : List UInt8} (some : bytes ≠ [])
      (offered : sendBuffer = bytes.take DEFAULT_BUFFER_SIZE.toNat)
      (answer : answers calls sendBuffer = .closed) : SendFails answers calls bytes
  | failed {calls : Nat} {bytes sendBuffer : List UInt8} (some : bytes ≠ [])
      (offered : sendBuffer = bytes.take DEFAULT_BUFFER_SIZE.toNat)
      (answer : answers calls sendBuffer = .failed) : SendFails answers calls bytes
  | sent {calls count : Nat} {bytes sendBuffer : List UInt8} {positive : 0 < count}
      {within : count ≤ sendBuffer.length} (some : bytes ≠ [])
      (offered : sendBuffer = bytes.take DEFAULT_BUFFER_SIZE.toNat)
      (answer : answers calls sendBuffer = .sent count positive within)
      (later : SendFails answers (calls + 1) (bytes.drop count)) : SendFails answers calls bytes

namespace EpollModel

theorem sendLoop_disconnects_iff (answers : SendAnswers) (granted : Bool) (calls : Nat)
    (p : EpollPeer) : (sendLoop answers granted calls p).ending = .disconnect ↔
      SendFails answers calls p.session.outgoing := by
  have offered (p : EpollPeer) : p.session.mSendBuffer.peekBytes DEFAULT_BUFFER_SIZE =
      p.session.outgoing.take DEFAULT_BUFFER_SIZE.toNat := LiveRing.peekBytes_eq _ _
  fun_induction sendLoop answers granted calls p with
  | case1 calls p empty p' _ registry changed =>
    rw [LiveRing.getAvailableRead_eq_zero_iff] at empty
    apply iff_of_false (by simp)
    intro fails
    cases fails <;> exact absurd empty ‹_›
  | case2 calls p nonempty sendBuffer count positive within answer rest ih =>
    rw [LiveRing.getAvailableRead_eq_zero_iff] at nonempty
    obtain ⟨left, _, _⟩ := sent_shortens positive within
    rw [left] at ih
    refine ih.trans ⟨SendFails.sent nonempty (offered p) answer, ?_⟩
    intro fails
    cases fails with
    | closed _ offered' answer' | failed _ offered' answer' =>
      rw [offered', ← offered p] at answer'
      cases answer.symm.trans answer'
    | sent _ offered' answer' later =>
      cases offered'.trans (offered p).symm
      cases answer.symm.trans answer'
      exact later
  | case3 calls p nonempty sendBuffer answer =>
    rw [LiveRing.getAvailableRead_eq_zero_iff] at nonempty
    exact iff_of_true rfl (SendFails.closed nonempty (offered p) answer)
  | case4 calls p nonempty sendBuffer answer =>
    apply iff_of_false (by simp)
    intro fails
    cases fails with
    | closed _ offered' answer' | failed _ offered' answer' | sent _ offered' answer' _ =>
      cases offered'.trans (offered p).symm
      cases answer.symm.trans answer'
  | case5 calls p nonempty sendBuffer answer =>
    rw [LiveRing.getAvailableRead_eq_zero_iff] at nonempty
    exact iff_of_true rfl (SendFails.failed nonempty (offered p) answer)

theorem sendLoop_mLock (answers : SendAnswers) (granted : Bool) (calls : Nat) (p : EpollPeer) :
    (sendLoop answers granted calls p).peer.session.mLock = p.session.mLock := by
  fun_induction sendLoop answers granted calls p with
  | case1 => rfl
  | case2 calls p nonempty sendBuffer count positive within answer rest ih => exact ih
  | case3 | case4 | case5 => rfl

end EpollModel

namespace EpollServer

def Live (x : Moment EpollServer) : Prop := x.session ∈ x.state.mSessionManager.mSessions

def disconnectMoments (id : SessionID) (m : EpollServer) : List (Moment EpollServer) :=
  ⟨.use, id, m⟩ ::
  match m.mSessionManager.getSession id with
  | none => []
  | some session =>
    if session.isDisconnected then []
    else
      let m := m.setSession id (session.setState .disconnected)
      (if m.callbacks.mOnDisconnect then [⟨.onDisconnect, id, m⟩] else []) ++
      let m := { m with callbacks := m.callbacks.onDisconnect id }
      let closed := { m.closeDescriptor session.mSocket with
        registry := m.registry.closeSocket session.mSocket }
      -- GetSocket before the close, GetID after it
      [⟨.use, id, m⟩, ⟨.use, id, closed⟩, ⟨.removeSession, id, closed⟩]

def recvMoments (id : SessionID) : RecvAnswers → EpollServer → List (Moment EpollServer)
  | .received data _ _ next, m =>
    ⟨.use, id, m⟩ :: ((if m.callbacks.mOnReceive then [⟨.onReceive, id, m⟩] else []) ++
      recvMoments id next { m with callbacks := m.callbacks.onReceive id data })
  | .closed, m => ⟨.use, id, m⟩ :: m.disconnectMoments id
  | .wouldBlock, m => [⟨.use, id, m⟩]
  | .failed, m => ⟨.use, id, m⟩ :: m.disconnectMoments id

def receiveMoments (id : SessionID) (answers : RecvAnswers) (m : EpollServer) :
    List (Moment EpollServer) :=
  ⟨.use, id, m⟩ ::
  match m.mSessionManager.getSession id with
  | none => []
  | some session => if ¬session.isConnected then [] else recvMoments id answers m

def emptyBuffer (id : SessionID) (answers : SendAnswers) (granted : Bool) (m : EpollServer) :
    Outcome EpollServer LoopEnd :=
  m.onSession id fun p =>
    let result := EpollModel.sendLoop answers granted 0 p
    .done result.ending result.peer

def sendSection (id : SessionID) (answers : SendAnswers) (granted : Bool) (m : EpollServer) :
    Outcome EpollServer Unit :=
  (m.emptyBuffer id answers granted).bind fun ending m =>
    if ending = .disconnect then m.processDisconnect id else .done () m

theorem processSend_eq (id : SessionID) (answers : SendAnswers) (granted : Bool)
    (m : EpollServer) : m.processSend id answers granted =
      guarded (sessionLock id) (sendSection id answers granted) m := rfl

/-- The loop follows the Session* in every turn and leaves the table as it is: the moments
    before and after it stand for those in it. -/
def sendMoments (id : SessionID) (answers : SendAnswers) (granted : Bool) (m : EpollServer) :
    List (Moment EpollServer) :=
  ⟨.use, id, m⟩ ::
  if (sessionLock id).held m then []
  else
    let m := (sessionLock id).set true m
    ⟨.use, id, m⟩ :: ((m.emptyBuffer id answers granted).followed fun ending m =>
      ⟨.use, id, m⟩ :: if ending = .disconnect then m.disconnectMoments id else []) ++
    (m.sendSection id answers granted).followed fun _ m => [⟨.unlock, id, m⟩]

def EndsReceive (session : Session Fd) (answers : RecvAnswers) : Prop :=
  session.isConnected = true ∧ answers.ends = true

/-- What send() answers ends the session: it is not disconnected and its bytes do not go
    out. -/
def EndsSend (session : Session Fd) (answers : SendAnswers) : Prop :=
  session.isDisconnected = false ∧ SendFails answers 0 session.outgoing

theorem disconnectMoments_eq {m : EpollServer} {id : SessionID} {session : Session Fd}
    (found : m.mSessionManager.getSession id = some session) :
    ∃ told closed : EpollServer,
      m.disconnectMoments id = ⟨.use, id, m⟩ :: (if session.isDisconnected then [] else
        (if m.callbacks.mOnDisconnect then [⟨.onDisconnect, id, told⟩] else []) ++
        [⟨.use, id, { told with callbacks := m.callbacks.onDisconnect id }⟩,
          ⟨.use, id, closed⟩, ⟨.removeSession, id, closed⟩]) ∧
      told.mSessionManager = m.mSessionManager.store id (session.setState .disconnected) ∧
      closed.mSessionManager = m.mSessionManager.store id (session.setState .disconnected) ∧
      m.dropped id session =
        { closed with mSessionManager := (closed.mSessionManager.removeSession id).2 } := by
  unfold disconnectMoments
  simp only [found]
  exact ⟨_, _, rfl, rfl, rfl, rfl⟩

theorem disconnectMoments_at {m : EpollServer} {id : SessionID} {session : Session Fd}
    (found : m.mSessionManager.getSession id = some session) :
    ∀ x ∈ m.disconnectMoments id, x.session = id ∧
      (x.state.mSessionManager = m.mSessionManager ∨
        x.state.mSessionManager = m.mSessionManager.store id (session.setState .disconnected)) ∧
      x.doing ≠ .unlock := by
  obtain ⟨told, closed, moments, table, table', _⟩ := disconnectMoments_eq found
  rw [moments]
  intro x member
  rcases List.mem_cons.mp member with rfl | member
  · exact ⟨rfl, Or.inl rfl, by simp⟩
  · split at member
    · cases member
    · rcases List.mem_append.mp member with member | member
      · split at member
        · rw [List.mem_singleton.mp member]
          exact ⟨rfl, Or.inr table, by simp⟩
        · cases member
      · simp only [List.mem_cons, List.not_mem_nil, or_false] at member
        rcases member with rfl | rfl | rfl
        · exact ⟨rfl, Or.inr table, by simp⟩
        · exact ⟨rfl, Or.inr table', by simp⟩
        · exact ⟨rfl, Or.inr table', by simp⟩

/- While the handler of recv() runs, the table is as before or the session in it is
   marked disconnected. -/
theorem receiveMoments_at {m : EpollServer} {id : SessionID} {session : Session Fd}
    (found : m.mSessionManager.getSession id = some session) (answers : RecvAnswers) :
    ∀ x ∈ m.receiveMoments id answers, x.session = id ∧
      (x.state.mSessionManager = m.mSessionManager ∨
        x.state.mSessionManager = m.mSessionManager.store id (session.setState .disconnected)) ∧
      x.doing ≠ .unlock := by
  have loop : ∀ x ∈ recvMoments id answers m, x.session = id ∧
      (x.state.mSessionManager = m.mSessionManager ∨
        x.state.mSessionManager = m.mSessionManager.store id (session.setState .disconnected)) ∧
      x.doing ≠ .unlock := by
    generalize table : m.mSessionManager = t at found ⊢
    induction answers generalizing m with
    | received data positive within next ih =>
      intro x member
      simp only [recvMoments, List.mem_cons, List.mem_append] at member
      rcases member with rfl | member | member
      · exact ⟨rfl, Or.inl table, by simp⟩
      · split at member
        · rw [List.mem_singleton.mp member]
          exact ⟨rfl, Or.inl table, by simp⟩
        · cases member
      · refine ih ?_ x member
        exact table
    | closed | failed =>
      intro x member
      simp only [recvMoments, List.mem_cons] at member
      rcases member with rfl | member
      · exact ⟨rfl, Or.inl table, by simp⟩
      · exact table ▸ disconnectMoments_at (table ▸ found) x member
    | wouldBlock =>
      intro x member
      rw [List.mem_singleton.mp member]
      exact ⟨rfl, Or.inl table, by simp⟩
  intro x member
  unfold receiveMoments at member
  simp only [found] at member
  rcases List.mem_cons.mp member with rfl | member
  · exact ⟨rfl, Or.inl rfl, by simp⟩
  · split at member
    · cases member
    · exact loop x member

theorem emptyBuffer_spec {m : EpollServer} {id : SessionID} {session : Session Fd}
    (found : m.mSessionManager.getSession id = some session) (answers : SendAnswers)
    (granted : Bool) : ∃ ending emptied left,
      ((sessionLock id).set true m).emptyBuffer id answers granted = .done ending emptied ∧
      (ending = .disconnect ↔ SendFails answers 0 session.outgoing) ∧
      emptied.mSessionManager.getSession id = some left ∧ left.mState = session.mState ∧
      left.mLock.mFlag = true := by
  have locked : (sessionLock id).set true m = m.setSession id (Session.lock.set true session) := by
    simp only [sessionLock, modifySession, found]
  have inside : ((sessionLock id).set true m).mSessionManager.getSession id =
      some (Session.lock.set true session) := by
    rw [locked]
    exact SessionManager.getSession_store_self _ _ _
  obtain ⟨p, peer⟩ : ∃ p : EpollPeer,
      p = ⟨Session.lock.set true session, ((sessionLock id).set true m).registry⟩ := ⟨_, rfl⟩
  have kept := EpollModel.sendLoop_footprint answers granted 0 p
  have held := EpollModel.sendLoop_mLock answers granted 0 p
  have ends := EpollModel.sendLoop_disconnects_iff answers granted 0 p
  have run : ((sessionLock id).set true m).emptyBuffer id answers granted =
      .done (EpollModel.sendLoop answers granted 0 p).ending { (sessionLock id).set true m with
        mSessionManager := ((sessionLock id).set true m).mSessionManager.store id
          (EpollModel.sendLoop answers granted 0 p).peer.session
        registry := (EpollModel.sendLoop answers granted 0 p).peer.registry } := by
    rw [emptyBuffer, onSession, inside, peer]
    rfl
  refine ⟨_, _, _, run, ?_, SessionManager.getSession_store_self _ _ _, ?_, ?_⟩
  · rw [ends, peer]
    rfl
  · rw [kept.mState, peer]
    rfl
  · rw [held, peer]
    rfl

theorem sendSection_cases {m : EpollServer} {id : SessionID} {session : Session Fd}
    (found : m.mSessionManager.getSession id = some session) (answers : SendAnswers)
    (granted : Bool) :
    ∃ ending emptied left,
      ((sessionLock id).set true m).emptyBuffer id answers granted = .done ending emptied ∧
      emptied.mSessionManager.getSession id = some left ∧ left.mLock.mFlag = true ∧
      ((¬EndsSend session answers ∧ (ending = .disconnect → left.isDisconnected = true) ∧
          ((sessionLock id).set true m).sendSection id answers granted = .done () emptied) ∨
        (EndsSend session answers ∧ ending = .disconnect ∧ left.isDisconnected = false ∧
          ((sessionLock id).set true m).sendSection id answers granted =
            .done () (emptied.dropped id left))) := by
  obtain ⟨ending, emptied, left, run, ends, inside, state, held⟩ :=
    emptyBuffer_spec found answers granted
  have same : left.isDisconnected = session.isDisconnected := by
    rw [Session.isDisconnected, state]
    rfl
  have whole : ((sessionLock id).set true m).sendSection id answers granted =
      if ending = .disconnect then emptied.processDisconnect id else .done () emptied := by
    rw [sendSection, run]
    rfl
  refine ⟨ending, emptied, left, run, inside, held, ?_⟩
  by_cases disconnects : ending = .disconnect
  · rw [whole, if_pos disconnects, processDisconnect_eq inside, same]
    cases gone : session.isDisconnected with
    | true =>
      left
      refine ⟨?_, fun _ => rfl, rfl⟩
      intro fails
      cases gone.symm.trans fails.1
    | false =>
      right
      exact ⟨⟨gone, ends.mp disconnects⟩, disconnects, rfl, rfl⟩
  · left
    refine ⟨fun fails => disconnects (ends.mpr fails.2), fun never => absurd never disconnects, ?_⟩
    rw [whole, if_neg disconnects]

theorem held_of_found {m : EpollServer} {id : SessionID} {session : Session Fd}
    (found : m.mSessionManager.getSession id = some session) :
    (sessionLock id).held m = session.mLock.mFlag := by
  simp only [sessionLock, found, Option.any_some]
  rfl

/-- ProcessSend that gets the lock uses the session and unlocks it, or else disconnects it
    and then unlocks what is left. -/
theorem sendMoments_free {m : EpollServer} {id : SessionID} {session : Session Fd}
    (found : m.mSessionManager.getSession id = some session)
    (free : session.mLock.mFlag = false) (answers : SendAnswers) (granted : Bool) :
    ∃ emptied left, emptied.mSessionManager.getSession id = some left ∧
      left.mLock.mFlag = true ∧ ∃ uses, (∀ x ∈ uses, x.doing = .use ∧ x.session = id ∧ Live x) ∧
      ((¬EndsSend session answers ∧
          m.sendMoments id answers granted = uses ++ [⟨.unlock, id, emptied⟩]) ∨
        (EndsSend session answers ∧ left.isDisconnected = false ∧
          m.sendMoments id answers granted =
            uses ++ (emptied.disconnectMoments id ++
              [⟨.unlock, id, emptied.dropped id left⟩]))) := by
  obtain ⟨ending, emptied, left, run, there, held, ended⟩ :=
    sendSection_cases found answers granted
  obtain ⟨told, closed, disconnecting, _⟩ := disconnectMoments_eq there
  have inside := SessionManager.mem_of_getSession there
  have before : ∀ x ∈ ([⟨.use, id, m⟩, ⟨.use, id, (sessionLock id).set true m⟩,
      ⟨.use, id, emptied⟩] : List (Moment EpollServer)),
      x.doing = .use ∧ x.session = id ∧ Live x := by
    rw [List.forall_mem_cons, List.forall_mem_cons, List.forall_mem_singleton]
    refine ⟨⟨rfl, rfl, ?_⟩, ⟨rfl, rfl, ?_⟩, ⟨rfl, rfl, inside⟩⟩
    · exact SessionManager.mem_of_getSession found
    · exact (touched_mem (setLock_touched id true m) id).mpr
        (SessionManager.mem_of_getSession found)
  have whole : m.sendMoments id answers granted =
      [⟨.use, id, m⟩, ⟨.use, id, (sessionLock id).set true m⟩, ⟨.use, id, emptied⟩] ++
      ((if ending = .disconnect then emptied.disconnectMoments id else []) ++
      (((sessionLock id).set true m).sendSection id answers granted).followed
        fun _ m => [⟨.unlock, id, m⟩]) := by
    rw [sendMoments, held_of_found found, free, if_neg (by simp)]
    dsimp only
    rw [run]
    rfl
  refine ⟨emptied, left, there, held, ?_⟩
  rcases ended with ⟨fine, already, done⟩ | ⟨fails, disconnects, alive, done⟩
  · rw [whole, done]
    by_cases disconnects : ending = .disconnect
    · rw [if_pos disconnects, disconnecting, if_pos (already disconnects), ← List.append_assoc]
      refine ⟨_, ?_, Or.inl ⟨fine, rfl⟩⟩
      rw [List.forall_mem_append, List.forall_mem_singleton]
      exact ⟨before, rfl, rfl, inside⟩
    · rw [if_neg disconnects]
      exact ⟨_, before, Or.inl ⟨fine, rfl⟩⟩
  · rw [whole, done, if_pos disconnects]
    exact ⟨_, before, Or.inr ⟨fails, alive, rfl⟩⟩

end EpollServer
end KanchoNet
