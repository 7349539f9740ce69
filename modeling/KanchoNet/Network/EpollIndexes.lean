import KanchoNet.Network.EpollHandlers

/-!
The socket map and the session table of an EpollServer agree while session ids last.
A descriptor comes back from accept() only after its close has erased both entries.
-/
namespace KanchoNet.EpollServer
open GuardedSections LabelledRuns

/-- SetAcceptCallback, SetReceiveCallback and SetDisconnectCallback, which the engine
    calls before Initialize. -/
def setCallbacks (m : EpollServer) : EpollServer :=
  { m with callbacks := ⟨true, true, true, m.callbacks.calls⟩ }

def listening (config : EngineConfig) (epollFd listenSocket : Fd) : EpollServer :=
  ((construct.setCallbacks.initializeModel config
    ⟨some epollFd, some listenSocket, true⟩).2.startListen true true).2

theorem listening_eq (config : EngineConfig) (epollFd listenSocket : Fd) :
    listening config epollFd listenSocket =
      { mInitialized := true
        mRunning := true
        mConfig := config
        mEpollFd := epollFd
        mSessionManager := SessionManager.construct config.mMaxSessions
        registry := EpollRegistry.listening listenSocket
        callbacks := ⟨true, true, true, []⟩
        descriptors := [listenSocket, epollFd] } := rfl

inductive LifeEvent where
  | handler (e : Event)
  | shutdown

/-- accept() gives a descriptor that is not open, and epoll_ctl registers it. -/
def lifeStep (m : EpollServer) : LifeEvent → Option EpollServer
  | .handler e =>
    match e with
    | .acceptClient client =>
      if client.socket ∉ m.descriptors ∧ client.granted = true then step m e else none
    | _ => step m e
  | .shutdown => some m.shutdown

def LifeEvent.accepts : LifeEvent → Bool
  | .handler (.acceptClient _) => true
  | _ => false

/-- A socket is mapped to a session exactly when the session is in the table and has
    that socket. -/
structure IndexesAgree (m : EpollServer) : Prop where
  mapped : ∀ socket id, m.registry.mSocketToSession.lookup socket = some (sessionPtr id) ↔
    ∃ session, m.mSessionManager.getSession id = some session ∧ session.mSocket = socket
  distinct : ∀ id session other session', m.mSessionManager.getSession id = some session →
    m.mSessionManager.getSession other = some session' →
    session.mSocket = session'.mSocket → id = other
  usable : ∀ id session, m.mSessionManager.getSession id = some session →
    session.mSocket ∈ m.descriptors ∧ session.mSocket ∈ m.registry.interest ∧
    session.mState = .connected
  emptied : m.mRunning = false →
    m.registry.mSocketToSession = ∅ ∧ m.mSessionManager.mSessions = ∅

structure Indexed (clients : Nat) (m : EpollServer) : Prop where
  running : m.mInitialized = true ∧ m.mRunning = true
  mapped : ∀ socket id, m.registry.mSocketToSession.lookup socket = some (sessionPtr id) ↔
    ∃ session, m.mSessionManager.getSession id = some session ∧ session.mSocket = socket
  usable : ∀ id session, m.mSessionManager.getSession id = some session →
    session.mSocket ∈ m.descriptors ∧ session.mSocket ∈ m.registry.interest ∧
    session.mState = .connected
  opened : ∀ fd ∈ m.registry.interest, fd ∈ m.descriptors
  ids : ∀ id ∈ m.mSessionManager.mSessions,
    id.toNat < m.mSessionManager.mNextSessionID.toNat
  counter : m.mSessionManager.mNextSessionID.toNat ≤ clients + 1

structure Emptied (m : EpollServer) : Prop where
  stopped : m.mRunning = false
  mapped : m.registry.mSocketToSession = ∅
  sessions : m.mSessionManager.mSessions = ∅

def IndexedUntilShutdown (clients : Nat) (m : EpollServer) : Prop :=
  Indexed clients m ∨ Emptied m

theorem sessionPtr_injective {id other : SessionID} (same : sessionPtr id = sessionPtr other) :
    id = other :=
  UInt64.toBitVec_inj.mp same

theorem indexed_distinct {clients : Nat} {m : EpollServer} (indexed : Indexed clients m)
    {id other : SessionID} {session session' : Session Fd}
    (found : m.mSessionManager.getSession id = some session)
    (found' : m.mSessionManager.getSession other = some session')
    (same : session.mSocket = session'.mSocket) : id = other := by
  have mapped := (indexed.mapped session.mSocket id).mpr ⟨session, found, rfl⟩
  have mapped' := (indexed.mapped session.mSocket other).mpr ⟨session', found', same.symm⟩
  exact sessionPtr_injective (Option.some.inj (mapped.symm.trans mapped'))

theorem indexed_agree {clients : Nat} {m : EpollServer}
    (indexed : IndexedUntilShutdown clients m) : IndexesAgree m := by
  rcases indexed with indexed | emptied
  · constructor
    · exact indexed.mapped
    · intro id session other session' found found' same
      exact indexed_distinct indexed found found' same
    · exact indexed.usable
    · intro stopped
      cases indexed.running.2.symm.trans stopped
  · have none : ∀ id, m.mSessionManager.getSession id = none := by
      intro id
      rw [SessionManager.getSession, emptied.sessions, AList.lookup_empty]
    constructor
    · intro socket id
      rw [emptied.mapped, AList.lookup_empty, none id]
      simp
    · intro id session other session' found
      cases (none id).symm.trans found
    · intro id session found
      cases (none id).symm.trans found
    · exact fun _ => ⟨emptied.mapped, emptied.sessions⟩

theorem listening_indexed (config : EngineConfig) (epollFd listenSocket : Fd) :
    Indexed 0 (listening config epollFd listenSocket) := by
  rw [listening_eq]
  constructor
  · exact ⟨rfl, rfl⟩
  · intro socket id
    constructor
    · intro mapped
      cases mapped
    · rintro ⟨session, found, _⟩
      cases found
  · intro id session found
    cases found
  · intro fd member
    rw [List.mem_singleton.mp (show fd ∈ [listenSocket] from member)]
    exact List.mem_cons_self
  · intro id member
    cases member
  · exact Nat.le_refl _

theorem touched_indexed {clients : Nat} {m m' : EpollServer} (indexed : Indexed clients m)
    (touched : Touched m m') : Indexed clients m' := by
  constructor
  · exact ⟨touched.flags.1.trans indexed.running.1, touched.flags.2.trans indexed.running.2⟩
  · intro socket id
    rw [touched.mapped, indexed.mapped socket id]
    constructor
    · rintro ⟨session, found, owned⟩
      obtain ⟨session', found', same⟩ := touched_found touched found
      exact ⟨session', found', (congrArg (fun key => key.2.1) same).trans owned⟩
    · rintro ⟨session', found', owned⟩
      obtain ⟨session, found, same⟩ := touched_found_before touched found'
      exact ⟨session, found, (congrArg (fun key => key.2.1) same).symm.trans owned⟩
  · intro id session' found'
    obtain ⟨session, found, same⟩ := touched_found_before touched found'
    have socket : session'.mSocket = session.mSocket := congrArg (fun key => key.2.1) same
    have state : session'.mState = session.mState := congrArg (fun key => key.2.2) same
    rw [socket, state, touched.descriptors, touched.interest]
    exact indexed.usable id session found
  · intro fd member
    rw [touched.descriptors]
    exact indexed.opened fd ((touched.interest fd).mp member)
  · intro id member
    obtain ⟨session', found'⟩ := SessionManager.getSession_of_mem member
    obtain ⟨session, found, _⟩ := touched_found_before touched found'
    rw [touched.counter]
    exact indexed.ids id (SessionManager.mem_of_getSession found)
  · rw [touched.counter]
    exact indexed.counter

theorem dropped_indexed {clients : Nat} {m : EpollServer} (indexed : Indexed clients m)
    {id : SessionID} {session : Session Fd}
    (found : m.mSessionManager.getSession id = some session) :
    Indexed clients (m.dropped id session) := by
  have elsewhere : ∀ other session', (m.dropped id session).mSessionManager.getSession other =
      some session' → other ≠ id ∧ m.mSessionManager.getSession other = some session' ∧
      session'.mSocket ≠ session.mSocket := by
    intro other session' found'
    by_cases same : other = id
    · subst same
      rw [getSession_dropped_self] at found'
      cases found'
    · rw [getSession_dropped_ne session m same] at found'
      exact ⟨same, found', fun shared => same (indexed_distinct indexed found' found shared)⟩
  constructor
  · exact indexed.running
  · intro socket other
    change (m.registry.mSocketToSession.erase session.mSocket).lookup socket = _ ↔ _
    by_cases same : socket = session.mSocket
    · subst same
      rw [AList.lookup_erase]
      constructor
      · intro mapped
        cases mapped
      · rintro ⟨session', found', shared⟩
        exact absurd shared (elsewhere other session' found').2.2
    · rw [AList.lookup_erase_ne same, indexed.mapped socket other]
      constructor
      · rintro ⟨session', found', owned⟩
        have different : other ≠ id := by
          rintro rfl
          cases found.symm.trans found'
          exact same owned.symm
        exact ⟨session', (getSession_dropped_ne session m different).trans found', owned⟩
      · rintro ⟨session', found', owned⟩
        exact ⟨session', (elsewhere other session' found').2.1, owned⟩
  · intro other session' found'
    obtain ⟨_, kept, apart⟩ := elsewhere other session' found'
    obtain ⟨isOpen, interested, connected⟩ := indexed.usable other session' kept
    refine ⟨List.mem_filter.mpr ⟨isOpen, by simpa using apart⟩, ?_, connected⟩
    exact AList.mem_erase.mpr ⟨apart, interested⟩
  · intro fd member
    obtain ⟨apart, interested⟩ := AList.mem_erase.mp member
    exact List.mem_filter.mpr ⟨indexed.opened fd interested, by simpa using apart⟩
  · intro other member
    obtain ⟨session', found'⟩ := SessionManager.getSession_of_mem member
    rw [mNextSessionID_dropped]
    exact indexed.ids other
      (SessionManager.mem_of_getSession (elsewhere other session' found').2.1)
  · rw [mNextSessionID_dropped]
    exact indexed.counter

theorem handled_indexed {clients : Nat} {m m' : EpollServer} (indexed : Indexed clients m)
    {id : SessionID} (handled : Handled id m m') : Indexed clients m' := by
  rcases handled with touched | ⟨m₁, session, touched, found, _, rfl⟩
  · exact touched_indexed indexed touched
  · exact dropped_indexed (touched_indexed indexed touched) found

theorem refused_unchanged {m : EpollServer} {socket : Fd} (fresh : socket ∉ m.descriptors) :
    m.refused socket = m := by
  have same : m.descriptors.filter (· ≠ socket) = m.descriptors := by
    apply List.filter_eq_self.mpr
    intro fd member
    have different : fd ≠ socket := fun same => fresh (same ▸ member)
    simpa using different
  rw [refused, same]

theorem admitted_indexed {clients : Nat} {m : EpollServer} (indexed : Indexed clients m)
    {socket : Fd} (fresh : socket ∉ m.descriptors) (few : clients < 2 ^ 64 - 2) :
    Indexed (clients + 1) (m.admitted socket) := by
  have counter := indexed.counter
  have advanced : (m.mSessionManager.mNextSessionID + 1).toNat =
      m.mSessionManager.mNextSessionID.toNat + 1 := SessionManager.next_toNat (by omega)
  have unused : m.mSessionManager.mNextSessionID ∉ m.mSessionManager.mSessions := fun present =>
    Nat.lt_irrefl _ (indexed.ids _ present)
  have sessions : ∀ id session, (m.admitted socket).mSessionManager.getSession id = some session ↔
      (id = m.mSessionManager.mNextSessionID ∧ session = Session.accepted id socket .default) ∨
      (id ≠ m.mSessionManager.mNextSessionID ∧
        m.mSessionManager.getSession id = some session) :=
    fun _ _ => SessionManager.getSession_seat_iff
  have known : ∀ id session, m.mSessionManager.getSession id = some session →
      id ≠ m.mSessionManager.mNextSessionID ∧ session.mSocket ≠ socket := by
    intro id session found
    constructor
    · rintro rfl
      exact unused (SessionManager.mem_of_getSession found)
    · rintro rfl
      exact fresh (indexed.usable id session found).1
  constructor
  · exact indexed.running
  · intro other id
    change (m.registry.mSocketToSession.insert socket _).lookup other = _ ↔ _
    by_cases same : other = socket
    · subst same
      rw [AList.lookup_insert]
      constructor
      · intro mapped
        have id_eq := sessionPtr_injective (Option.some.inj mapped)
        exact ⟨_, (sessions id _).mpr (Or.inl ⟨id_eq.symm, rfl⟩), rfl⟩
      · rintro ⟨session, found, owned⟩
        rcases (sessions id session).mp found with ⟨rfl, _⟩ | ⟨_, old⟩
        · rfl
        · exact absurd owned (known id session old).2
    · rw [AList.lookup_insert_ne same, indexed.mapped other id]
      constructor
      · rintro ⟨session, found, owned⟩
        exact ⟨session, (sessions id session).mpr (Or.inr ⟨(known id session found).1, found⟩),
          owned⟩
      · rintro ⟨session, found, owned⟩
        rcases (sessions id session).mp found with ⟨_, rfl⟩ | ⟨_, old⟩
        · exact absurd owned.symm same
        · exact ⟨session, old, owned⟩
  · intro id session found
    rcases (sessions id session).mp found with ⟨_, rfl⟩ | ⟨_, old⟩
    · exact ⟨List.mem_cons_self, (AList.mem_insert _).mpr (Or.inl rfl), rfl⟩
    · obtain ⟨isOpen, interested, connected⟩ := indexed.usable id session old
      exact ⟨List.mem_cons_of_mem _ isOpen, (AList.mem_insert _).mpr (Or.inr interested),
        connected⟩
  · intro fd member
    rcases (AList.mem_insert _).mp member with rfl | old
    · exact List.mem_cons_self
    · exact List.mem_cons_of_mem _ (indexed.opened fd old)
  · intro id member
    change id.toNat < (m.mSessionManager.mNextSessionID + 1).toNat
    obtain ⟨session, found⟩ := SessionManager.getSession_of_mem member
    rcases (sessions id session).mp found with ⟨rfl, _⟩ | ⟨_, old⟩
    · omega
    · have := indexed.ids id (SessionManager.mem_of_getSession old)
      omega
  · change (m.mSessionManager.mNextSessionID + 1).toNat ≤ _
    omega

theorem acceptClient_indexed {clients : Nat} {m : EpollServer} (indexed : Indexed clients m)
    {client : AcceptedClient} (fresh : client.socket ∉ m.descriptors)
    (granted : client.granted = true) (few : clients < 2 ^ 64 - 2) :
    Indexed (clients + 1) (m.acceptClient client) := by
  by_cases full : m.mSessionManager.mMaxSessions.toNat ≤ m.mSessionManager.getSessionCount
  · rw [acceptClient_full client full, refused_unchanged fresh]
    exact { indexed with counter := Nat.le_succ_of_le indexed.counter }
  · have unregistered : client.socket ∉ m.registry.interest := fun member =>
      fresh (indexed.opened _ member)
    rw [acceptClient_room client full, if_pos ⟨granted, unregistered⟩]
    exact admitted_indexed indexed fresh few

theorem shutdown_emptied {clients : Nat} {m : EpollServer}
    (indexed : IndexedUntilShutdown clients m) : Emptied m.shutdown := by
  by_cases initialized : m.mInitialized = true
  · obtain ⟨_, stopped, table, mapped, _⟩ := shutdown_spec initialized
    exact ⟨stopped, mapped, by rw [table]; rfl⟩
  · rw [shutdown_uninitialized (Bool.eq_false_iff.mpr initialized)]
    rcases indexed with indexed | emptied
    · exact absurd indexed.running.1 initialized
    · exact emptied

theorem lifeStep_indexed (clients : Nat) (m : EpollServer) (e : LifeEvent) (m' : EpollServer)
    (indexed : IndexedUntilShutdown clients m) (few : e.accepts = true → clients < 2 ^ 64 - 2)
    (next : lifeStep m e = some m') :
    IndexedUntilShutdown (clients + if e.accepts then 1 else 0) m' := by
  cases e with
  | shutdown =>
    cases next
    exact Or.inr (shutdown_emptied indexed)
  | handler e =>
    have stepped : step m e = some m' := by
      cases e with
      | acceptClient client =>
        simp only [lifeStep] at next
        split at next
        · exact next
        · cases next
      | receive | writable | hangUp | send => exact next
    obtain ⟨running, cases⟩ := step_cases stepped
    rcases indexed with indexed | emptied
    · rcases cases with ⟨client, rfl, rfl⟩ | ⟨other, id, handled⟩
      · simp only [lifeStep] at next
        split at next
        · rename_i fresh
          exact Or.inl (acceptClient_indexed indexed fresh.1 fresh.2 (few rfl))
        · cases next
      · have uncounted : LifeEvent.accepts (.handler e) = false := by
          cases e with
          | acceptClient client => exact absurd rfl (other client)
          | receive | writable | hangUp | send => rfl
        rw [uncounted]
        exact Or.inl (handled_indexed indexed handled)
    · cases emptied.stopped.symm.trans running

/-- In every run with fewer than 2^64 - 1 accepted clients the indexes agree in every
    state. -/
theorem indexes_agree (config : EngineConfig) (epollFd listenSocket : Fd) (es : List LifeEvent)
    (few : es.countP LifeEvent.accepts < 2 ^ 64 - 1) :
    ∀ m ∈ states lifeStep (listening config epollFd listenSocket) es, IndexesAgree m := by
  intro m reached
  obtain ⟨clients, indexed⟩ := invariant_of_budget lifeStep_indexed es 0 _
    (Or.inl (listening_indexed config epollFd listenSocket)) (by omega) m reached
  exact indexed_agree indexed

/-- A client comes, leaves, and its descriptor is given to the next client. -/
theorem reused_descriptor_agrees :
    let es : List LifeEvent := [.handler (.acceptClient ⟨7, true⟩), .handler (.hangUp 1),
      .handler (.acceptClient ⟨7, true⟩), .shutdown]
    es.countP LifeEvent.accepts < 2 ^ 64 - 1 ∧
      ∀ m ∈ states lifeStep (listening .default 4 3) es, IndexesAgree m := by
  have few : List.countP LifeEvent.accepts [.handler (.acceptClient ⟨7, true⟩),
      .handler (.hangUp 1), .handler (.acceptClient ⟨7, true⟩), .shutdown] < 2 ^ 64 - 1 := by
    decide
  exact ⟨few, indexes_agree .default 4 3 _ few⟩

structure OneStays (k : Nat) (m : EpollServer) : Prop where
  running : m.mRunning = true
  limit : m.mSessionManager.mMaxSessions = 10000
  keys : m.mSessionManager.mSessions.keys = [1]
  next : m.mSessionManager.mNextSessionID = UInt64.ofNat k
  mapped : m.registry.mSocketToSession.lookup 7 = some (sessionPtr 1)
  free : (8 : Fd) ∉ m.descriptors ∧ (8 : Fd) ∉ m.registry.interest

def visits : Nat → Nat → List LifeEvent
  | _, 0 => []
  | k, n + 1 => .handler (.acceptClient ⟨8, true⟩) :: .handler (.hangUp (UInt64.ofNat k)) ::
    visits (k + 1) n

theorem arrival {k : Nat} {m : EpollServer} (stays : OneStays k m) :
    lifeStep m (.handler (.acceptClient ⟨8, true⟩)) = some (m.admitted 8) := by
  have room : ¬m.mSessionManager.mMaxSessions.toNat ≤ m.mSessionManager.getSessionCount := by
    rw [SessionManager.getSessionCount, stays.keys, stays.limit]
    decide
  rw [lifeStep, if_pos ⟨stays.free.1, rfl⟩, step, if_neg (not_not.mpr stays.running),
    acceptClient_room _ room, if_pos ⟨rfl, stays.free.2⟩]

theorem visit {k : Nat} {m : EpollServer} (stays : OneStays k m) (other : UInt64.ofNat k ≠ 1) :
    ∃ m', lifeStep (m.admitted 8) (.handler (.hangUp (UInt64.ofNat k))) = some m' ∧
      OneStays (k + 1) m' := by
  have found : (m.admitted 8).mSessionManager.getSession (UInt64.ofNat k) =
      some (Session.accepted (UInt64.ofNat k) 8 .default) := by
    rw [← stays.next]
    exact SessionManager.getSession_seat_self _ _
  have isRegistered : (m.admitted 8).registered (UInt64.ofNat k) = true := by
    rw [registered, found]
    simp [admitted, stays.next, Session.accepted, Session.setState, Session.construct,
      AList.mem_insert]
  refine ⟨(m.admitted 8).dropped (UInt64.ofNat k) (Session.accepted (UInt64.ofNat k) 8 .default),
    ?_, ?_⟩
  · have running : (m.admitted 8).mRunning = true := stays.running
    change step (m.admitted 8) (.hangUp (UInt64.ofNat k)) = _
    rw [step, if_neg (not_not.mpr running), if_pos isRegistered, processDisconnect_eq found]
    rfl
  · constructor
    · exact stays.running
    · exact (SessionManager.mMaxSessions_removeSession _ _).trans stays.limit
    · rw [keys_dropped, admitted, SessionManager.keys_seat, stays.keys, stays.next,
        List.erase_cons_head, List.erase_of_not_mem]
      simpa using other
    · rw [mNextSessionID_dropped]
      change m.mSessionManager.mNextSessionID + 1 = _
      rw [stays.next, UInt64.ofNat_add]
      rfl
    · change (AList.erase 8 (AList.insert 8 _ m.registry.mSocketToSession)).lookup 7 = _
      rw [AList.lookup_erase_ne (by decide), AList.lookup_insert_ne (by decide)]
      exact stays.mapped
    · constructor
      · simp [dropped, closeDescriptor, Session.accepted, Session.setState, Session.construct]
      · simp [dropped, EpollRegistry.closeSocket, Session.accepted, Session.setState,
          Session.construct, AList.mem_erase]

theorem visits_end (n k : Nat) (m : EpollServer) (stays : OneStays k m)
    (others : ∀ i < n, UInt64.ofNat (k + i) ≠ 1) :
    ∃ m', OneStays (k + n) m' ∧ ∀ es t, t ∈ states lifeStep m' es →
      t ∈ states lifeStep m (visits k n ++ es) := by
  induction n generalizing k m with
  | zero => exact ⟨m, stays, fun _ _ later => later⟩
  | succ n ih =>
    obtain ⟨m₁, gone, stays₁⟩ := visit stays (others 0 (Nat.succ_pos n))
    obtain ⟨m', stays', onward⟩ := ih (k + 1) m₁ stays₁ (fun i inside => by
      have := others (i + 1) (Nat.succ_lt_succ inside)
      rwa [show k + 1 + i = k + (i + 1) by omega])
    refine ⟨m', by rwa [show k + (n + 1) = k + 1 + n by omega], fun es t later => ?_⟩
    exact mem_states_next (arrival stays) (mem_states_next gone (onward es t later))

/- After 2^64 more clients the id of the one that stayed is given out again. -/
theorem wrapped_id_disagrees :
    ∃ es, ∃ m ∈ states lifeStep (listening .default 4 3) es, ¬IndexesAgree m := by
  have first : lifeStep (listening .default 4 3) (.handler (.acceptClient ⟨7, true⟩)) =
      some ((listening .default 4 3).admitted 7) := rfl
  have stays : OneStays 2 ((listening .default 4 3).admitted 7) := by
    constructor
    · rfl
    · rfl
    · rfl
    · rfl
    · rfl
    · constructor <;> decide
  obtain ⟨m, stays', onward⟩ := visits_end (2 ^ 64 - 1) 2 _ stays (by
    intro i inside same
    have low := congrArg UInt64.toNat same
    rw [UInt64.toNat_ofNat', UInt64.toNat_one] at low
    omega)
  refine ⟨_, _, mem_states_next first (onward _ _
    (mem_states_next (arrival stays') (mem_states_self _ _ []))), fun agree => ?_⟩
  have next : m.mSessionManager.mNextSessionID = 1 := stays'.next
  have mapped : (m.admitted 8).registry.mSocketToSession.lookup 7 = some (sessionPtr 1) := by
    change (AList.insert 8 _ m.registry.mSocketToSession).lookup 7 = _
    rw [AList.lookup_insert_ne (by decide)]
    exact stays'.mapped
  obtain ⟨session, found, owned⟩ := (agree.mapped 7 1).mp mapped
  have found' : (m.admitted 8).mSessionManager.getSession 1 =
      some (Session.accepted 1 8 .default) := by
    rw [← next]
    exact SessionManager.getSession_seat_self _ _
  cases Option.some.inj (found.symm.trans found')
  exact absurd owned (by decide)

end KanchoNet.EpollServer
