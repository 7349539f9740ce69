import KanchoNet.Network.EpollServer

/-!
What the handlers of an EpollServer can do to it. Receiving and sending leave every
session where it is; a session is lost through ProcessDisconnect only.
-/
namespace KanchoNet
open GuardedSections LabelledRuns

/-- The sending code changes the buffer, the sending flag and the lock of its session,
    and at most the mask registered for its socket. -/
structure EpollPeer.Footprint (p p' : EpollPeer) : Prop where
  mID : p'.session.mID = p.session.mID
  mSocket : p'.session.mSocket = p.session.mSocket
  mState : p'.session.mState = p.session.mState
  registry : p'.registry = p.registry ∨ ∃ events granted,
    p'.registry = (p.registry.modifySocket p.session.mSocket events granted).2

namespace EpollModel

theorem send_footprint {packet : PacketBuffer} {granted : Bool} {p p' : EpollPeer}
    (next : (send packet granted p).leaves = some p') : EpollPeer.Footprint p p' := by
  unfold send at next
  split at next
  · cases next
    exact ⟨rfl, rfl, rfl, Or.inl rfl⟩
  · rcases guarded_leaves_cases next with rfl | ⟨value, q, run, rfl⟩ | stuck
    · exact ⟨rfl, rfl, rfl, Or.inl rfl⟩
    · dsimp only at run
      split at run
      · cases run
        exact ⟨rfl, rfl, rfl, Or.inl rfl⟩
      · split at run
        · cases run
          exact ⟨rfl, rfl, rfl, Or.inl rfl⟩
        · cases run
          exact ⟨rfl, rfl, rfl, Or.inr ⟨_, granted, rfl⟩⟩
    · dsimp only at stuck
      split at stuck
      · cases stuck
      · split at stuck <;> cases stuck

theorem sendLoop_footprint (answers : SendAnswers) (granted : Bool) (calls : Nat) (p : EpollPeer) :
    EpollPeer.Footprint p (sendLoop answers granted calls p).peer := by
  fun_induction sendLoop answers granted calls p with
  | case1 calls p empty p' _ registry changed =>
    exact ⟨rfl, rfl, rfl, Or.inr ⟨_, granted, (congrArg Prod.snd changed).symm⟩⟩
  | case2 calls p nonempty sendBuffer count positive within answer rest ih =>
    exact ⟨ih.mID, ih.mSocket, ih.mState, ih.registry⟩
  | case3 | case4 | case5 => exact ⟨rfl, rfl, rfl, Or.inl rfl⟩

end EpollModel

namespace EpollServer

def identity (session : Session Fd) : SessionID × Fd × SessionState :=
  (session.mID, session.mSocket, session.mState)

/-- A change that neither adds nor removes nor closes anything: at most data was
    received, and buffers, sending flags, locks and event masks are different. -/
structure Touched (m m' : EpollServer) : Prop where
  flags : m'.mInitialized = m.mInitialized ∧ m'.mRunning = m.mRunning
  epollFd : m'.mEpollFd = m.mEpollFd
  descriptors : m'.descriptors = m.descriptors
  counter : m'.mSessionManager.mNextSessionID = m.mSessionManager.mNextSessionID
  sessions : ∀ id, (m'.mSessionManager.getSession id).map identity =
    (m.mSessionManager.getSession id).map identity
  listenSocket : m'.registry.mListenSocket = m.registry.mListenSocket
  mapped : m'.registry.mSocketToSession = m.registry.mSocketToSession
  interest : ∀ fd, fd ∈ m'.registry.interest ↔ fd ∈ m.registry.interest
  received : ∃ data : List (SessionID × List UInt8), m'.callbacks =
    data.foldl (fun callbacks chunk => callbacks.onReceive chunk.1 chunk.2) m.callbacks

theorem Touched.refl (m : EpollServer) : Touched m m :=
  ⟨⟨rfl, rfl⟩, rfl, rfl, rfl, fun _ => rfl, rfl, rfl, fun _ => Iff.rfl, [], rfl⟩

theorem Touched.trans {m₁ m₂ m₃ : EpollServer} (first : Touched m₁ m₂) (second : Touched m₂ m₃) :
    Touched m₁ m₃ := by
  obtain ⟨data, told⟩ := first.received
  obtain ⟨more, told'⟩ := second.received
  constructor
  · exact ⟨second.flags.1.trans first.flags.1, second.flags.2.trans first.flags.2⟩
  · exact second.epollFd.trans first.epollFd
  · exact second.descriptors.trans first.descriptors
  · exact second.counter.trans first.counter
  · exact fun id => (second.sessions id).trans (first.sessions id)
  · exact second.listenSocket.trans first.listenSocket
  · exact second.mapped.trans first.mapped
  · exact fun fd => (second.interest fd).trans (first.interest fd)
  · exact ⟨data ++ more, by rw [told', told, List.foldl_append]⟩

theorem touched_found {m m' : EpollServer} (touched : Touched m m') {id : SessionID}
    {session : Session Fd} (found : m.mSessionManager.getSession id = some session) :
    ∃ session', m'.mSessionManager.getSession id = some session' ∧
      identity session' = identity session := by
  have same := touched.sessions id
  rw [found] at same
  exact Option.map_eq_some_iff.mp same

theorem touched_found_before {m m' : EpollServer} (touched : Touched m m') {id : SessionID}
    {session' : Session Fd} (found : m'.mSessionManager.getSession id = some session') :
    ∃ session, m.mSessionManager.getSession id = some session ∧
      identity session' = identity session := by
  have same := touched.sessions id
  rw [found] at same
  obtain ⟨session, found', identical⟩ := Option.map_eq_some_iff.mp same.symm
  exact ⟨session, found', identical.symm⟩

theorem touched_mem {m m' : EpollServer} (touched : Touched m m') (id : SessionID) :
    id ∈ m'.mSessionManager.mSessions ↔ id ∈ m.mSessionManager.mSessions := by
  constructor
  · intro member
    obtain ⟨session', found'⟩ := SessionManager.getSession_of_mem member
    obtain ⟨session, found, _⟩ := touched_found_before touched found'
    exact SessionManager.mem_of_getSession found
  · intro member
    obtain ⟨session, found⟩ := SessionManager.getSession_of_mem member
    obtain ⟨session', found', _⟩ := touched_found touched found
    exact SessionManager.mem_of_getSession found'

theorem modifySession_touched (id : SessionID) {f : Session Fd → Session Fd}
    (keeps : ∀ session, identity (f session) = identity session) (m : EpollServer) :
    Touched m (m.modifySession id f) := by
  unfold modifySession
  split
  · exact Touched.refl m
  · rename_i session found
    exact { Touched.refl m with
      sessions := SessionManager.map_getSession_store identity found (keeps session) }

theorem modifySocket_keeps (r : EpollRegistry) (socket : Fd) (events : BitVec 32) (granted : Bool) :
    (r.modifySocket socket events granted).2.mListenSocket = r.mListenSocket ∧
    (r.modifySocket socket events granted).2.mSocketToSession = r.mSocketToSession ∧
    ∀ fd, fd ∈ (r.modifySocket socket events granted).2.interest ↔ fd ∈ r.interest := by
  unfold EpollRegistry.modifySocket
  split
  · exact ⟨rfl, rfl, fun _ => Iff.rfl⟩
  · unfold EpollRegistry.ctlMod
    split
    · rename_i present
      refine ⟨rfl, rfl, fun fd => (AList.mem_insert _).trans ⟨?_, Or.inr⟩⟩
      rintro (rfl | member)
      · exact present.2
      · exact member
    · exact ⟨rfl, rfl, fun _ => Iff.rfl⟩

theorem setLock_touched (id : SessionID) (flag : Bool) (m : EpollServer) :
    Touched m ((sessionLock id).set flag m) :=
  modifySession_touched id (f := Session.lock.set flag) (fun _ => rfl) m

theorem onSession_touched {β : Type} {m m' : EpollServer} {id : SessionID}
    {body : EpollPeer → Outcome EpollPeer β}
    (footprint : ∀ p p', (body p).leaves = some p' → EpollPeer.Footprint p p')
    (next : (m.onSession id body).leaves = some m') : Touched m m' := by
  unfold onSession at next
  split at next
  · cases next
  · rename_i session found
    rw [leaves_within] at next
    obtain ⟨p, ran, rfl⟩ := Option.map_eq_some_iff.mp next
    obtain ⟨mID, mSocket, mState, registry⟩ := footprint _ p ran
    have kept : p.registry.mListenSocket = m.registry.mListenSocket ∧
        p.registry.mSocketToSession = m.registry.mSocketToSession ∧
        ∀ fd, fd ∈ p.registry.interest ↔ fd ∈ m.registry.interest := by
      rcases registry with same | ⟨events, granted, changed⟩
      · rw [same]
        exact ⟨rfl, rfl, fun _ => Iff.rfl⟩
      · rw [changed]
        exact modifySocket_keeps m.registry session.mSocket events granted
    have same : identity p.session = identity session := by
      simp [identity, mID, mSocket, mState]
    exact { Touched.refl m with
      sessions := SessionManager.map_getSession_store identity found same
      listenSocket := kept.1, mapped := kept.2.1, interest := kept.2.2 }

theorem send_touched {m m' : EpollServer} {id : SessionID} {packet : PacketBuffer} {granted : Bool}
    (next : (m.send id packet granted).leaves = some m') : Touched m m' :=
  onSession_touched (fun _ _ ran => EpollModel.send_footprint ran) next

def dropped (id : SessionID) (session : Session Fd) (m : EpollServer) : EpollServer :=
  { m.closeDescriptor session.mSocket with
    callbacks := m.callbacks.onDisconnect id
    registry := m.registry.closeSocket session.mSocket
    mSessionManager :=
      ((m.mSessionManager.store id (session.setState .disconnected)).removeSession id).2 }

theorem getSession_dropped_self (id : SessionID) (session : Session Fd) (m : EpollServer) :
    (m.dropped id session).mSessionManager.getSession id = none :=
  SessionManager.getSession_removeSession_self _ id

theorem getSession_dropped_ne {id other : SessionID} (session : Session Fd) (m : EpollServer)
    (different : other ≠ id) : (m.dropped id session).mSessionManager.getSession other =
      m.mSessionManager.getSession other := by
  unfold dropped
  rw [SessionManager.getSession_removeSession_ne _ different,
    SessionManager.getSession_store_ne _ _ different]

theorem mem_dropped {id other : SessionID} {session : Session Fd} {m : EpollServer}
    (found : m.mSessionManager.getSession id = some session) :
    other ∈ (m.dropped id session).mSessionManager.mSessions ↔
      other ≠ id ∧ other ∈ m.mSessionManager.mSessions := by
  rw [dropped, SessionManager.mem_removeSession,
    SessionManager.mem_store_iff _ (SessionManager.mem_of_getSession found)]

theorem keys_dropped (id : SessionID) (session : Session Fd) (m : EpollServer) :
    (m.dropped id session).mSessionManager.mSessions.keys =
      m.mSessionManager.mSessions.keys.erase id := by
  rw [dropped, SessionManager.keys_removeSession, SessionManager.keys_store,
    List.erase_cons_head]

theorem mNextSessionID_dropped (id : SessionID) (session : Session Fd) (m : EpollServer) :
    (m.dropped id session).mSessionManager.mNextSessionID = m.mSessionManager.mNextSessionID :=
  SessionManager.mNextSessionID_removeSession _ id

theorem processDisconnect_eq {m : EpollServer} {id : SessionID} {session : Session Fd}
    (found : m.mSessionManager.getSession id = some session) :
    m.processDisconnect id =
      if session.isDisconnected then .done () m else .done () (m.dropped id session) := by
  simp only [processDisconnect, found]
  rfl

/-- What the handler of a session can do: touch the server, or then remove the session,
    unless it was disconnected before. -/
def Handled (id : SessionID) (m m' : EpollServer) : Prop :=
  Touched m m' ∨ ∃ m₁ session, Touched m m₁ ∧ m₁.mSessionManager.getSession id = some session ∧
    session.mState ≠ .disconnected ∧ m' = m₁.dropped id session

theorem processDisconnect_handled {m m₁ m' : EpollServer} {id : SessionID} (touched : Touched m m₁)
    (next : (m₁.processDisconnect id).leaves = some m') : Handled id m m' := by
  cases found : m₁.mSessionManager.getSession id with
  | none =>
    simp only [processDisconnect, found] at next
    cases next
  | some session =>
    rw [processDisconnect_eq found] at next
    split at next
    · cases next
      exact Or.inl touched
    · rename_i alive
      cases next
      refine Or.inr ⟨m₁, session, touched, found, ?_, rfl⟩
      simpa [Session.isDisconnected] using alive

theorem recvLoop_handled {id : SessionID} (answers : RecvAnswers) {m m₁ m' : EpollServer}
    (touched : Touched m m₁) (next : (recvLoop id answers m₁).leaves = some m') :
    Handled id m m' := by
  induction answers generalizing m₁ with
  | received data positive within rest ih =>
    have heard : Touched m₁ { m₁ with callbacks := m₁.callbacks.onReceive id data } :=
      { Touched.refl m₁ with received := ⟨[(id, data)], rfl⟩ }
    exact ih (touched.trans heard) next
  | closed => exact processDisconnect_handled touched next
  | wouldBlock =>
    cases next
    exact Or.inl touched
  | failed => exact processDisconnect_handled touched next

theorem processReceive_handled {m m' : EpollServer} {id : SessionID} {answers : RecvAnswers}
    (next : (m.processReceive id answers).leaves = some m') : Handled id m m' := by
  unfold processReceive at next
  split at next
  · cases next
  · split at next
    · cases next
      exact Or.inl (Touched.refl m)
    · exact recvLoop_handled answers (Touched.refl m) next

/- The lock of a session that is gone is not there to be released. -/
theorem unlock_handled {m m' : EpollServer} {id : SessionID} (handled : Handled id m m') :
    Handled id m ((sessionLock id).set false m') := by
  rcases handled with touched | ⟨m₁, session, touched, found, alive, rfl⟩
  · exact Or.inl (touched.trans (setLock_touched id false m'))
  · refine Or.inr ⟨m₁, session, touched, found, alive, ?_⟩
    simp only [sessionLock, modifySession, getSession_dropped_self]

theorem processSend_handled {m m' : EpollServer} {id : SessionID} {answers : SendAnswers}
    {granted : Bool} (next : (m.processSend id answers granted).leaves = some m') :
    Handled id m m' := by
  have locked := setLock_touched id true m
  have body : ∀ u, ((((sessionLock id).set true m).onSession id fun p =>
      let result := EpollModel.sendLoop answers granted 0 p
      .done result.ending result.peer).bind fun ending m =>
        if ending = .disconnect then m.processDisconnect id else .done () m).leaves = some u →
      Handled id m u := by
    intro u left
    rcases bind_leaves_cases left with ⟨ending, v, sent, after⟩ | stuck
    · have emptied : Touched ((sessionLock id).set true m) v := by
        apply onSession_touched _ (congrArg Outcome.leaves sent)
        intro p p' ran
        cases ran
        exact EpollModel.sendLoop_footprint answers granted 0 p
      have touched := locked.trans emptied
      split at after
      · exact processDisconnect_handled touched after
      · cases after
        exact Or.inl touched
    · unfold onSession at stuck
      split at stuck <;> cases stuck
  rcases guarded_leaves_cases next with rfl | ⟨_, u, ran, rfl⟩ | stuck
  · exact Or.inl (Touched.refl m')
  · exact unlock_handled (body u (by rw [ran]; rfl))
  · exact body m' (by rw [stuck]; rfl)

def refused (socket : Fd) (m : EpollServer) : EpollServer :=
  { m with descriptors := m.descriptors.filter (· ≠ socket) }

def admitted (socket : Fd) (m : EpollServer) : EpollServer :=
  let id := m.mSessionManager.mNextSessionID
  { m with
    descriptors := socket :: m.descriptors
    mSessionManager := m.mSessionManager.seat socket
    registry := { m.registry with
      mSocketToSession := m.registry.mSocketToSession.insert socket (sessionPtr id)
      interest := m.registry.interest.insert socket
        (EpollRegistry.clientEvent (EPOLLIN ||| EPOLLET) (sessionPtr id) socket) }
    callbacks := m.callbacks.onAccept id }

/-- A client whose registration failed; its session stays in the table. -/
def abandoned (socket : Fd) (m : EpollServer) : EpollServer :=
  { m with
    descriptors := m.descriptors.filter (· ≠ socket)
    mSessionManager := m.mSessionManager.seat socket
    registry := { m.registry with
      mSocketToSession := (m.registry.mSocketToSession.insert socket
        (sessionPtr m.mSessionManager.mNextSessionID)).erase socket
      interest := m.registry.interest.erase socket } }

theorem close_opened (socket : Fd) (m : EpollServer) :
    (m.openDescriptor socket).closeDescriptor socket = m.refused socket := by
  simp [openDescriptor, closeDescriptor, refused]

theorem acceptClient_full {m : EpollServer} (client : AcceptedClient)
    (full : m.mSessionManager.mMaxSessions.toNat ≤ m.mSessionManager.getSessionCount) :
    m.acceptClient client = m.refused client.socket := by
  simp only [acceptClient, openDescriptor, SessionManager.addSession_of_full full]
  exact close_opened client.socket m

/- The registration of a socket looks at the interest list, not at the socket map. -/
theorem registerSocket_mapped (r : EpollRegistry)
    (mSocketToSession : AList fun _ : Fd => SessionPtr)
    (socket : Fd) (session : SessionPtr) (events : BitVec 32) (granted : Bool) :
    { r with mSocketToSession }.registerSocket socket session events granted =
      if granted = true ∧ socket ∉ r.interest then
        (true, ⟨r.mListenSocket, mSocketToSession,
          r.interest.insert socket (EpollRegistry.clientEvent events session socket)⟩)
      else (false, { r with mSocketToSession }) := rfl

theorem acceptClient_room {m : EpollServer} (client : AcceptedClient)
    (room : ¬m.mSessionManager.mMaxSessions.toNat ≤ m.mSessionManager.getSessionCount) :
    m.acceptClient client =
      if client.granted = true ∧ client.socket ∉ m.registry.interest then m.admitted client.socket
      else m.abandoned client.socket := by
  simp only [acceptClient, openDescriptor, SessionManager.addSession_of_room room,
    registerSocket_mapped]
  by_cases granted : client.granted = true ∧ client.socket ∉ m.registry.interest
  · simp only [if_pos granted]
    rfl
  · have closed : (client.socket :: m.descriptors).filter (· ≠ client.socket) =
        m.descriptors.filter (· ≠ client.socket) := List.filter_cons_of_neg (by simp)
    simp only [if_neg granted]
    exact congrArg (fun descriptors => { m.abandoned client.socket with descriptors }) closed

theorem closeSessions_keeps (sessions : List (Session Fd)) (m : EpollServer) :
    let closed := sessions.foldl (fun m session => closeSession session m) m
    closed.mInitialized = m.mInitialized ∧ closed.mRunning = m.mRunning ∧
    closed.mSessionManager = m.mSessionManager ∧ closed.callbacks = m.callbacks ∧
    closed.mEpollFd = m.mEpollFd ∧ closed.registry.mListenSocket = m.registry.mListenSocket := by
  induction sessions generalizing m with
  | nil => exact ⟨rfl, rfl, rfl, rfl, rfl, rfl⟩
  | cons session sessions ih => exact ih (closeSession session m)

theorem closeListenSocket_keeps (m : EpollServer) :
    m.closeListenSocket.mInitialized = m.mInitialized ∧
    m.closeListenSocket.mRunning = m.mRunning ∧
    m.closeListenSocket.mSessionManager = m.mSessionManager ∧
    m.closeListenSocket.callbacks = m.callbacks ∧ m.closeListenSocket.mEpollFd = m.mEpollFd ∧
    m.closeListenSocket.registry.mSocketToSession = m.registry.mSocketToSession ∧
    m.closeListenSocket.registry.mListenSocket = INVALID_SOCKET_HANDLE ∧
    ∀ fd, fd ∈ m.closeListenSocket.descriptors ↔ fd ∈ m.descriptors ∧
      (fd = m.registry.mListenSocket → fd = INVALID_SOCKET_HANDLE) := by
  unfold closeListenSocket
  split
  · rename_i invalid
    exact ⟨rfl, rfl, rfl, rfl, rfl, rfl, invalid, fun fd =>
      ⟨fun isOpen => ⟨isOpen, fun same => same.trans invalid⟩, And.left⟩⟩
  · rename_i valid
    refine ⟨rfl, rfl, rfl, rfl, rfl, rfl, rfl, fun fd => ?_⟩
    change fd ∈ m.descriptors.filter (· ≠ m.registry.mListenSocket) ↔ _
    rw [List.mem_filter, decide_eq_true_iff]
    exact and_congr_right' ⟨fun different same => absurd same different,
      fun onlyInvalid same => valid (same.symm.trans (onlyInvalid same))⟩

theorem closeEpoll_keeps (m : EpollServer) :
    m.closeEpoll.mInitialized = m.mInitialized ∧ m.closeEpoll.mRunning = m.mRunning ∧
    m.closeEpoll.mSessionManager = m.mSessionManager ∧ m.closeEpoll.callbacks = m.callbacks ∧
    m.closeEpoll.mEpollFd.toInt < 0 ∧
    m.closeEpoll.registry.mSocketToSession = m.registry.mSocketToSession ∧
    m.closeEpoll.registry.mListenSocket = m.registry.mListenSocket ∧
    ∀ fd, fd ∈ m.closeEpoll.descriptors ↔ fd ∈ m.descriptors ∧
      (fd = m.mEpollFd → m.mEpollFd.toInt < 0) := by
  unfold closeEpoll
  split
  · rename_i none
    exact ⟨rfl, rfl, rfl, rfl, none, rfl, rfl, fun fd =>
      ⟨fun isOpen => ⟨isOpen, fun _ => none⟩, And.left⟩⟩
  · rename_i some
    refine ⟨rfl, rfl, rfl, rfl, (show (-1 : Fd).toInt < 0 by decide), rfl, rfl, fun fd => ?_⟩
    change fd ∈ m.descriptors.filter (· ≠ m.mEpollFd) ↔ _
    rw [List.mem_filter, decide_eq_true_iff]
    exact and_congr_right' ⟨fun different same => absurd same different,
      fun onlyNone same => some (onlyNone same)⟩

theorem shutdown_spec {m : EpollServer} (initialized : m.mInitialized = true) :
    m.shutdown.mInitialized = false ∧ m.shutdown.mRunning = false ∧
    m.shutdown.mSessionManager = m.mSessionManager.clear ∧
    m.shutdown.registry.mSocketToSession = ∅ ∧ m.shutdown.callbacks = m.callbacks := by
  unfold shutdown
  rw [if_neg (not_not.mpr initialized)]
  dsimp only
  obtain ⟨_, running, table, callbacks, _, _⟩ :=
    closeSessions_keeps m.mSessionManager.liveSessions { m with mRunning := false }
  generalize m.mSessionManager.liveSessions.foldl (fun m session => closeSession session m)
    { m with mRunning := false } = closed at running table callbacks ⊢
  obtain ⟨_, running₁, table₁, callbacks₁, _, mapped₁, _, _⟩ := closeListenSocket_keeps
    { closed with
      mSessionManager := closed.mSessionManager.clear
      registry := { closed.registry with mSocketToSession := ∅ } }
  generalize closeListenSocket _ = silent at running₁ table₁ callbacks₁ mapped₁ ⊢
  obtain ⟨_, running₂, table₂, callbacks₂, _, mapped₂, _, _⟩ := closeEpoll_keeps silent
  refine ⟨rfl, ?_, ?_, ?_, ?_⟩
  · exact running₂.trans (running₁.trans running)
  · exact table₂.trans (table₁.trans (congrArg SessionManager.clear table))
  · exact mapped₂.trans mapped₁
  · exact callbacks₂.trans (callbacks₁.trans callbacks)

theorem shutdown_uninitialized {m : EpollServer} (uninitialized : m.mInitialized = false) :
    m.shutdown = m := by
  unfold shutdown
  rw [if_pos (by simp [uninitialized])]

theorem mem_closeSessions (sessions : List (Session Fd)) (m : EpollServer) {fd : Fd} :
    fd ∈ (sessions.foldl (fun m session => closeSession session m) m).descriptors ↔
      fd ∈ m.descriptors ∧ ∀ session ∈ sessions, session.mSocket ≠ fd := by
  induction sessions generalizing m with
  | nil => simp
  | cons session sessions ih =>
    rw [List.foldl_cons, ih, List.forall_mem_cons, ← and_assoc]
    refine and_congr_left' ?_
    change fd ∈ m.descriptors.filter (· ≠ session.mSocket) ↔ _
    simp [List.mem_filter, ne_comm]

theorem mem_shutdown_descriptors {m : EpollServer} (initialized : m.mInitialized = true)
    {fd : Fd} : fd ∈ m.shutdown.descriptors ↔ fd ∈ m.descriptors ∧
      (∀ session ∈ m.mSessionManager.liveSessions, session.mSocket ≠ fd) ∧
      (fd = m.registry.mListenSocket → fd = INVALID_SOCKET_HANDLE) ∧
      (fd = m.mEpollFd → m.mEpollFd.toInt < 0) := by
  obtain ⟨_, _, _, _, epollFd, listenSocket⟩ :=
    closeSessions_keeps m.mSessionManager.liveSessions { m with mRunning := false }
  have sessions := @mem_closeSessions m.mSessionManager.liveSessions { m with mRunning := false } fd
  unfold shutdown
  rw [if_neg (not_not.mpr initialized)]
  dsimp only at sessions epollFd listenSocket ⊢
  generalize m.mSessionManager.liveSessions.foldl (fun m session => closeSession session m)
    { m with mRunning := false } = closed at sessions epollFd listenSocket ⊢
  obtain ⟨_, _, _, _, epollFd₁, _, _, isOpen₁⟩ := closeListenSocket_keeps
    { closed with
      mSessionManager := closed.mSessionManager.clear
      registry := { closed.registry with mSocketToSession := ∅ } }
  obtain ⟨_, _, _, _, _, _, _, isOpen₂⟩ := closeEpoll_keeps (closeListenSocket
    { closed with
      mSessionManager := closed.mSessionManager.clear
      registry := { closed.registry with mSocketToSession := ∅ } })
  rw [isOpen₂, isOpen₁, epollFd₁]
  dsimp only
  rw [sessions, epollFd, listenSocket, and_assoc, and_assoc]

/-- The session is registered for its socket, so an event of the socket is its event. -/
def registered (m : EpollServer) (id : SessionID) : Bool :=
  (m.mSessionManager.getSession id).any fun session =>
    session.mSocket ∈ m.registry.interest ∧
      m.registry.mSocketToSession.lookup session.mSocket = some (sessionPtr id)

inductive Event where
  | acceptClient (client : AcceptedClient)
  | receive (id : SessionID) (answers : RecvAnswers)
  | writable (id : SessionID) (answers : SendAnswers) (granted : Bool)
  | hangUp (id : SessionID)
  | send (id : SessionID) (packet : PacketBuffer) (granted : Bool)

def Event.accepts : Event → Bool
  | .acceptClient _ => true
  | _ => false

/-- One turn of the loop of ProcessAccept, an event of a registered session, or a Send,
    while the server runs. -/
def step (m : EpollServer) (e : Event) : Option EpollServer :=
  if ¬m.mRunning then none
  else
    match e with
    | .acceptClient client => some (m.acceptClient client)
    | .receive id answers => if m.registered id then (m.processReceive id answers).leaves else none
    | .writable id answers granted =>
      if m.registered id then (m.processSend id answers granted).leaves else none
    | .hangUp id => if m.registered id then (m.processDisconnect id).leaves else none
    | .send id packet granted => (m.send id packet granted).leaves

theorem step_cases {m m' : EpollServer} {e : Event} (next : step m e = some m') :
    m.mRunning = true ∧ ((∃ client, e = .acceptClient client ∧ m' = m.acceptClient client) ∨
      ((∀ client, e ≠ .acceptClient client) ∧ ∃ id, Handled id m m')) := by
  unfold step at next
  split at next
  · cases next
  · rename_i running
    refine ⟨not_not.mp running, ?_⟩
    cases e with
    | acceptClient client => exact Or.inl ⟨client, rfl, (Option.some.inj next).symm⟩
    | receive id answers =>
      refine Or.inr ⟨by simp, id, ?_⟩
      dsimp only at next
      split at next
      · exact processReceive_handled next
      · cases next
    | writable id answers granted =>
      refine Or.inr ⟨by simp, id, ?_⟩
      dsimp only at next
      split at next
      · exact processSend_handled next
      · cases next
    | hangUp id =>
      refine Or.inr ⟨by simp, id, ?_⟩
      dsimp only at next
      split at next
      · exact processDisconnect_handled (Touched.refl m) next
      · cases next
    | send id packet granted => exact Or.inr ⟨by simp, id, Or.inl (send_touched next)⟩

end EpollServer
end KanchoNet
