import KanchoNet.Network.EpollIndexes
import KanchoNet.Network.IOUringServer

/-!
Whether every session reported to OnAccept is reported to OnDisconnect. The handlers
do it for each session they remove; Shutdown removes the rest without a word.
-/
namespace KanchoNet
open GuardedSections LabelledRuns

/-- Every session that OnAccept was called for has had one OnDisconnect. -/
def ReportedOnce (callbacks : Callbacks) : Prop :=
  ∀ id, .onAccept id ∈ callbacks.calls → callbacks.calls.count (.onDisconnect id) = 1

section Accounts
variable {Handle : Type}

/-- No session that OnAccept was called for is still in the table. -/
def NoneLeft (table : SessionManager Handle) (callbacks : Callbacks) : Prop :=
  ∀ id, .onAccept id ∈ callbacks.calls → id ∉ table.mSessions

/-- Sessions in the table have had no OnDisconnect, those accepted and gone have had
    one, and the next id is above all ids used so far. -/
structure Tallied (table : SessionManager Handle) (callbacks : Callbacks) : Prop where
  set : callbacks.mOnAccept = true ∧ callbacks.mOnDisconnect = true
  present : ∀ id ∈ table.mSessions, .onDisconnect id ∉ callbacks.calls
  gone : ∀ id, .onAccept id ∈ callbacks.calls → id ∉ table.mSessions →
    callbacks.calls.count (.onDisconnect id) = 1
  ids : ∀ id, id ∈ table.mSessions ∨ .onAccept id ∈ callbacks.calls ∨
    .onDisconnect id ∈ callbacks.calls → id.toNat < table.mNextSessionID.toNat

theorem tallied_reported_iff {table : SessionManager Handle} {callbacks : Callbacks}
    (tallied : Tallied table callbacks) :
    ReportedOnce callbacks ↔ NoneLeft table callbacks := by
  constructor
  · intro reported id accepted present
    have once := reported id accepted
    rw [List.count_eq_zero_of_not_mem (tallied.present id present)] at once
    cases once
  · intro none id accepted
    exact tallied.gone id accepted (none id accepted)

theorem tallied_construct (maxSessions : UInt32) :
    Tallied (SessionManager.construct maxSessions : SessionManager Handle)
      ⟨true, true, true, []⟩ := by
  constructor
  · exact ⟨rfl, rfl⟩
  · intro id present
    cases present
  · intro id accepted
    cases accepted
  · rintro id (present | accepted | disconnected)
    · cases present
    · cases accepted
    · cases disconnected

theorem tallied_table {table table' : SessionManager Handle} {callbacks : Callbacks}
    (tallied : Tallied table callbacks)
    (members : ∀ id, id ∈ table'.mSessions ↔ id ∈ table.mSessions)
    (next : table'.mNextSessionID = table.mNextSessionID) : Tallied table' callbacks := by
  constructor
  · exact tallied.set
  · intro id present
    exact tallied.present id ((members id).mp present)
  · intro id accepted absent
    exact tallied.gone id accepted fun present => absent ((members id).mpr present)
  · intro id used
    rw [next]
    rw [members id] at used
    exact tallied.ids id used

theorem tallied_received {table : SessionManager Handle} {callbacks : Callbacks}
    (tallied : Tallied table callbacks) (session : SessionID) (data : List UInt8) :
    Tallied table (callbacks.onReceive session data) := by
  unfold Callbacks.onReceive
  split
  · constructor
    · exact tallied.set
    · intro id present
      simpa using tallied.present id present
    · intro id accepted absent
      have := tallied.gone id (by simpa using accepted) absent
      simpa using this
    · intro id used
      exact tallied.ids id (by simpa using used)
  · exact tallied

theorem tallied_unreported {table table' : SessionManager Handle} {callbacks : Callbacks}
    (tallied : Tallied table callbacks)
    (room : table.mNextSessionID.toNat + 1 < 2 ^ 64)
    (members : ∀ id, id ∈ table'.mSessions ↔ id = table.mNextSessionID ∨ id ∈ table.mSessions)
    (next : table'.mNextSessionID = table.mNextSessionID + 1) : Tallied table' callbacks := by
  have advanced : table'.mNextSessionID.toNat = table.mNextSessionID.toNat + 1 := by
    rw [next]
    exact SessionManager.next_toNat room
  constructor
  · exact tallied.set
  · intro id present disconnected
    rcases (members id).mp present with rfl | old
    · exact Nat.lt_irrefl _ (tallied.ids _ (Or.inr (Or.inr disconnected)))
    · exact tallied.present id old disconnected
  · intro id accepted absent
    exact tallied.gone id accepted fun old => absent ((members id).mpr (Or.inr old))
  · intro id used
    rw [advanced]
    rcases used with present | told
    · rcases (members id).mp present with rfl | old
      · exact Nat.lt_succ_self _
      · exact Nat.lt_succ_of_lt (tallied.ids id (Or.inl old))
    · exact Nat.lt_succ_of_lt (tallied.ids id (Or.inr told))

theorem tallied_accepted {table : SessionManager Handle} {callbacks : Callbacks}
    (tallied : Tallied table callbacks) {session : SessionID}
    (present : session ∈ table.mSessions) :
    Tallied table (callbacks.onAccept session) := by
  rw [Callbacks.onAccept_set tallied.set.1]
  constructor
  · exact tallied.set
  · intro id member
    simpa using tallied.present id member
  · intro id accepted absent
    rcases List.mem_append.mp accepted with old | new
    · have once := tallied.gone id old absent
      simpa using once
    · rw [List.mem_singleton, Callback.onAccept.injEq] at new
      exact absurd (new ▸ present) absent
  · intro id used
    rcases used with member | accepted | disconnected
    · exact tallied.ids id (Or.inl member)
    · rcases List.mem_append.mp accepted with old | new
      · exact tallied.ids id (Or.inr (Or.inl old))
      · rw [List.mem_singleton, Callback.onAccept.injEq] at new
        exact tallied.ids id (Or.inl (new ▸ present))
    · exact tallied.ids id (Or.inr (Or.inr (by simpa using disconnected)))

theorem tallied_disconnected {table table' : SessionManager Handle} {callbacks : Callbacks}
    (tallied : Tallied table callbacks) {session : SessionID}
    (present : session ∈ table.mSessions)
    (members : ∀ id, id ∈ table'.mSessions ↔ id ≠ session ∧ id ∈ table.mSessions)
    (next : table'.mNextSessionID = table.mNextSessionID) :
    Tallied table' (callbacks.onDisconnect session) := by
  rw [Callbacks.onDisconnect_set tallied.set.2]
  constructor
  · exact tallied.set
  · intro id member
    obtain ⟨different, old⟩ := (members id).mp member
    have untold := tallied.present id old
    simp [untold, different]
  · intro id accepted absent
    have accepted' : .onAccept id ∈ callbacks.calls := by simpa using accepted
    by_cases same : id = session
    · subst same
      have untold := List.count_eq_zero_of_not_mem (tallied.present id present)
      simp [untold]
    · have absent' : id ∉ table.mSessions := fun old => absent ((members id).mpr ⟨same, old⟩)
      have once := tallied.gone id accepted' absent'
      simp [once, Ne.symm same]
  · intro id used
    rw [next]
    rcases used with member | accepted | disconnected
    · exact tallied.ids id (Or.inl ((members id).mp member).2)
    · exact tallied.ids id (Or.inr (Or.inl (by simpa using accepted)))
    · rcases List.mem_append.mp disconnected with old | new
      · exact tallied.ids id (Or.inr (Or.inr old))
      · rw [List.mem_singleton, Callback.onDisconnect.injEq] at new
        exact tallied.ids id (Or.inl (new ▸ present))

end Accounts

namespace EpollServer

structure Balanced (clients : Nat) (m : EpollServer) : Prop where
  initialized : m.mInitialized = true
  tallied : Tallied m.mSessionManager m.callbacks
  counter : m.mSessionManager.mNextSessionID.toNat ≤ clients + 1

theorem touched_balanced {clients : Nat} {m m' : EpollServer} (balanced : Balanced clients m)
    (touched : Touched m m') : Balanced clients m' := by
  constructor
  · exact touched.flags.1.trans balanced.initialized
  · obtain ⟨data, told⟩ := touched.received
    have heard : ∀ (data : List (SessionID × List UInt8)) (callbacks : Callbacks),
        Tallied m.mSessionManager callbacks → Tallied m.mSessionManager
          (data.foldl (fun callbacks chunk => callbacks.onReceive chunk.1 chunk.2) callbacks) := by
      intro data
      induction data with
      | nil => exact fun _ tallied => tallied
      | cons chunk data ih =>
        exact fun _ tallied => ih _ (tallied_received tallied chunk.1 chunk.2)
    rw [told]
    exact tallied_table (heard data _ balanced.tallied) (touched_mem touched) touched.counter
  · rw [touched.counter]
    exact balanced.counter

theorem dropped_balanced {clients : Nat} {m : EpollServer} (balanced : Balanced clients m)
    {id : SessionID} {session : Session Fd}
    (found : m.mSessionManager.getSession id = some session) :
    Balanced clients (m.dropped id session) := by
  constructor
  · exact balanced.initialized
  · exact tallied_disconnected balanced.tallied (SessionManager.mem_of_getSession found)
      (fun _ => mem_dropped found) (mNextSessionID_dropped id session m)
  · rw [mNextSessionID_dropped]
    exact balanced.counter

theorem acceptClient_balanced {clients : Nat} {m : EpollServer} (balanced : Balanced clients m)
    (few : clients < 2 ^ 64 - 2) (client : AcceptedClient) :
    Balanced (clients + 1) (m.acceptClient client) := by
  have counter := balanced.counter
  by_cases full : m.mSessionManager.mMaxSessions.toNat ≤ m.mSessionManager.getSessionCount
  · rw [acceptClient_full client full]
    exact ⟨balanced.initialized, balanced.tallied, Nat.le_succ_of_le counter⟩
  · have added := tallied_unreported balanced.tallied (by omega)
      (fun id => SessionManager.mem_seat client.socket) rfl
    have advanced : (m.mSessionManager.seat client.socket).mNextSessionID.toNat ≤
        clients + 1 + 1 := by
      change (m.mSessionManager.mNextSessionID + 1).toNat ≤ _
      rw [SessionManager.next_toNat (by omega)]
      omega
    rw [acceptClient_room client full]
    split
    · exact ⟨balanced.initialized,
        tallied_accepted added ((SessionManager.mem_seat _).mpr (Or.inl rfl)), advanced⟩
    · exact ⟨balanced.initialized, added, advanced⟩

theorem step_balanced (clients : Nat) (m : EpollServer) (e : Event) (m' : EpollServer)
    (balanced : Balanced clients m) (few : e.accepts = true → clients < 2 ^ 64 - 2)
    (next : step m e = some m') : Balanced (clients + if e.accepts then 1 else 0) m' := by
  obtain ⟨_, ⟨client, rfl, rfl⟩ | ⟨other, id, handled⟩⟩ := step_cases next
  · exact acceptClient_balanced balanced (few rfl) client
  · have uncounted : e.accepts = false := by
      cases e with
      | acceptClient client => exact absurd rfl (other client)
      | receive | writable | hangUp | send => rfl
    rw [uncounted]
    rcases handled with touched | ⟨m₁, session, touched, found, _, rfl⟩
    · exact touched_balanced balanced touched
    · exact dropped_balanced (touched_balanced balanced touched) found

theorem reported_iff (config : EngineConfig) (epollFd listenSocket : Fd) {es : List Event}
    (few : es.countP Event.accepts < 2 ^ 64 - 1) {m : EpollServer}
    (reached : m ∈ states step (listening config epollFd listenSocket) es) :
    ReportedOnce m.shutdown.callbacks ↔ NoneLeft m.mSessionManager m.callbacks := by
  obtain ⟨clients, balanced⟩ := invariant_of_budget step_balanced es 0 _
    ⟨rfl, tallied_construct config.mMaxSessions, Nat.le_refl _⟩ (by omega)
    m reached
  rw [(shutdown_spec balanced.initialized).2.2.2.2]
  exact tallied_reported_iff balanced.tallied

end EpollServer

namespace IOUringServer
open IOUringModel

structure Balanced (s : IOUringServer) : Prop where
  initialized : s.mInitialized = true
  reading : Reading s.model
  tallied : Tallied s.model.mSessionManager s.model.callbacks

theorem acceptClient_tallied {m : IOUringModel}
    (tallied : Tallied m.mSessionManager m.callbacks)
    (room : m.mSessionManager.mNextSessionID.toNat + 1 < 2 ^ 64) (clientSocket : Fd)
    (a : SubmitAnswers) :
    Tallied (acceptClient clientSocket a m).mSessionManager
      (acceptClient clientSocket a m).callbacks := by
  by_cases full : m.mSessionManager.mMaxSessions.toNat ≤ m.mSessionManager.getSessionCount
  · rw [IOUringModel.acceptClient_full full]
    exact tallied
  · have added := tallied_unreported tallied room
      (fun id => SessionManager.mem_seat clientSocket) rfl
    obtain ⟨table, told⟩ :=
      submitReceive_keeps m.mSessionManager.mNextSessionID a (m.admitted clientSocket)
    rw [IOUringModel.acceptClient_room full]
    dsimp only
    split
    · change Tallied ((m.admitted clientSocket).submitReceive _ a).2.mSessionManager
        ((m.admitted clientSocket).submitReceive _ a).2.callbacks
      rw [table, told]
      exact added
    · dsimp only
      rw [table, told]
      exact tallied_accepted added ((SessionManager.mem_seat _).mpr (Or.inl rfl))

theorem processDisconnect_tallied {m m' : IOUringModel}
    (tallied : Tallied m.mSessionManager m.callbacks) {id : SessionID}
    (next : (processDisconnect id m).leaves = some m') :
    Tallied m'.mSessionManager m'.callbacks := by
  unfold processDisconnect at next
  cases found : m.mSessionManager.getSession id with
  | none => simp [found, Outcome.leaves] at next
  | some session =>
    have present := SessionManager.mem_of_getSession found
    simp only [found] at next
    split at next
    · exact Option.some.inj next ▸ tallied
    · cases Option.some.inj next
      apply tallied_disconnected tallied present
      · intro other
        rw [SessionManager.mem_removeSession]
        exact and_congr_right' (SessionManager.mem_store_iff _ present)
      · exact SessionManager.mNextSessionID_removeSession _ id

theorem processReceiveCompletion_tallied {m m' : IOUringModel}
    (tallied : Tallied m.mSessionManager m.callbacks) {ctx : IOUringContext} {result : Int32}
    {received : List UInt8} {a : SubmitAnswers}
    (next : (processReceiveCompletion ctx result received a m).leaves = some m') :
    Tallied m'.mSessionManager m'.callbacks := by
  unfold processReceiveCompletion at next
  split at next
  · exact Option.some.inj next ▸ tallied
  · rename_i id named
    split at next
    · cases next
    · split at next
      · exact Option.some.inj next ▸ tallied
      · split at next
        · cases Option.some.inj next
          rw [(submitReceive_keeps id a _).1, (submitReceive_keeps id a _).2]
          exact tallied_received tallied id _
        · exact processDisconnect_tallied tallied next

theorem model_tallied {m m' : IOUringModel} (reading : Reading m)
    (tallied : Tallied m.mSessionManager m.callbacks) {e : IOUringModel.Event}
    (next : IOUringModel.step m e = some m') : Tallied m'.mSessionManager m'.callbacks := by
  cases e with
  | send id packet answers =>
    rcases send_frame next with rfl | ⟨session, inside, rfl⟩
    · exact tallied
    · exact tallied_table tallied (fun _ => SessionManager.mem_store_iff session inside) rfl
  | complete index result received answers =>
    simp only [IOUringModel.step] at next
    split at next
    · cases next
    · rename_i ctx found
      split at next
      · rename_i room
        unfold processCompletion at next
        split at next
        · cases next
        · rcases reading.contexts ctx (List.mem_append_right _ (List.mem_of_getElem? found)) with
            ⟨kind, _⟩ | ⟨kind, _⟩
          · simp only [kind] at next
            have table := (submitContext_pending .accept none [] answers.accept
              { m with inflight := m.inflight.eraseIdx index }).1
            have told := callbacks_submitContext .accept none [] answers.accept
              { m with inflight := m.inflight.eraseIdx index }
            cases Option.some.inj next
            unfold processAcceptCompletion submitAccept
            dsimp only
            split
            · rw [table, told]
              exact tallied
            · refine acceptClient_tallied ?_ ?_ _ _
              · rw [table, told]
                exact tallied
              · rw [table]
                exact room kind
          · simp only [kind] at next
            have dequeued : Tallied { m with
                inflight := m.inflight.eraseIdx index }.mSessionManager m.callbacks := tallied
            rcases bind_leaves_cases next with ⟨_, u, ran, deallocated⟩ | stuck
            · have received := processReceiveCompletion_tallied dequeued
                (congrArg Outcome.leaves ran)
              cases deallocated
              exact received
            · exact processReceiveCompletion_tallied dequeued (congrArg Outcome.leaves stuck)
      · cases next

theorem step_balanced (s : IOUringServer) (e : IOUringModel.Event) (s' : IOUringServer)
    (balanced : Balanced s) (next : step s e = some s') : Balanced s' := by
  obtain ⟨_, model, ran, rfl⟩ := step_cases next
  exact ⟨balanced.initialized, step_reading s.model e model balanced.reading ran,
    model_tallied balanced.reading balanced.tallied ran⟩

theorem reported_iff {listenSocket : Fd} {maxSessions : UInt32} {listens : Bool}
    {a : SubmitAnswers} {s : IOUringServer}
    (listening : startListen listens a (initialized listenSocket maxSessions
      ⟨true, true, true, []⟩) = (true, s)) {es : List IOUringModel.Event} {t : IOUringServer}
    (reached : t ∈ states step s es) :
    ReportedOnce t.shutdown.model.callbacks ↔
      NoneLeft t.model.mSessionManager t.model.callbacks := by
  obtain ⟨isInitialized, reading, table, told⟩ := startListen_reading listening
  have start : Balanced s := by
    refine ⟨isInitialized, reading, ?_⟩
    rw [table, told]
    exact tallied_construct maxSessions
  have balanced := invariant_of_kept step_balanced es s start t reached
  rw [(shutdown_spec balanced.initialized).2.2.2.2.1]
  exact tallied_reported_iff balanced.tallied

end IOUringServer

/-- In every run of either model with one worker, Shutdown leaves every accepted session
    reported disconnected exactly once if and only if none of them is in the table when
    it is called. -/
theorem disconnects_reported_iff (config : EngineConfig) (epollFd listenSocket : Fd)
    {es : List EpollServer.Event} (few : es.countP EpollServer.Event.accepts < 2 ^ 64 - 1)
    {ringSocket : Fd} {maxSessions : UInt32} {listens : Bool} {a : SubmitAnswers}
    {s : IOUringServer} (listening : IOUringServer.startListen listens a
      (IOUringServer.initialized ringSocket maxSessions ⟨true, true, true, []⟩) = (true, s))
    (fs : List IOUringModel.Event) :
    (∀ m ∈ states EpollServer.step (EpollServer.listening config epollFd listenSocket) es,
      (ReportedOnce m.shutdown.callbacks ↔ NoneLeft m.mSessionManager m.callbacks)) ∧
    ∀ t ∈ states IOUringServer.step s fs,
      (ReportedOnce t.shutdown.model.callbacks ↔
        NoneLeft t.model.mSessionManager t.model.callbacks) := by
  constructor
  · intro m reached
    exact EpollServer.reported_iff config epollFd listenSocket few reached
  · intro t reached
    exact IOUringServer.reported_iff listening reached

def readyRing : CompletionAnswers := ⟨⟨true, true⟩, ⟨true, true⟩⟩

def ringServer : IOUringServer :=
  (IOUringServer.startListen true ⟨true, true⟩
    (IOUringServer.initialized 3 100 ⟨true, true, true, []⟩)).2

/-- A client that has left before Shutdown was reported once. -/
theorem departed_client_reported :
    (∃ m ∈ states EpollServer.step (EpollServer.listening .default 4 3)
        [.acceptClient ⟨7, true⟩, .hangUp 1],
      .onAccept 1 ∈ m.callbacks.calls ∧ ReportedOnce m.shutdown.callbacks) ∧
    (∃ t ∈ states IOUringServer.step ringServer
        [.complete 0 7 [] readyRing, .complete 1 0 [] readyRing],
      .onAccept 1 ∈ t.model.callbacks.calls ∧ ReportedOnce t.shutdown.model.callbacks) := by
  have none : ∀ {Handle : Type} {table : SessionManager Handle} (callbacks : Callbacks),
      table.mSessions.keys = [] → NoneLeft table callbacks := by
    intro Handle table callbacks empty id _ present
    have member : id ∈ table.mSessions.keys := present
    rw [empty] at member
    cases member
  have few : List.countP EpollServer.Event.accepts [.acceptClient ⟨7, true⟩, .hangUp 1] <
      2 ^ 64 - 1 := by decide
  have started : IOUringServer.startListen true ⟨true, true⟩
      (IOUringServer.initialized 3 100 ⟨true, true, true, []⟩) = (true, ringServer) := rfl
  have reported := disconnects_reported_iff .default 4 3 few started
    [.complete 0 7 [] readyRing, .complete 1 0 [] readyRing]
  constructor
  · have accepted : EpollServer.step (EpollServer.listening .default 4 3)
        (.acceptClient ⟨7, true⟩) = some _ := rfl
    have left : EpollServer.step ((EpollServer.listening .default 4 3).admitted 7) (.hangUp 1) =
      some _ := rfl
    have reached := mem_states_next accepted (mem_states_next left (mem_states_self _ _ []))
    refine ⟨_, reached, List.mem_cons_self, ?_⟩
    apply (reported.1 _ reached).mpr
    exact none _ rfl
  · have accepted : IOUringServer.step ringServer (.complete 0 7 [] readyRing) = some _ := rfl
    have reached : _ ∈ states IOUringServer.step ringServer
        [.complete 0 7 [] readyRing, .complete 1 0 [] readyRing] :=
      mem_states_next accepted (mem_states_next rfl (mem_states_self _ _ []))
    refine ⟨_, reached, List.mem_cons_self, ?_⟩
    apply (reported.2 _ reached).mpr
    exact none _ rfl

/- A client that is still connected when Shutdown is called. -/
theorem shutdown_tells_nobody :
    (∃ m ∈ states EpollServer.step (EpollServer.listening .default 4 3)
      [.acceptClient ⟨7, true⟩], ¬ReportedOnce m.shutdown.callbacks) ∧
    (∃ t ∈ states IOUringServer.step ringServer [.complete 0 7 [] readyRing],
      ¬ReportedOnce t.shutdown.model.callbacks) := by
  have untold : ∀ callbacks : Callbacks, callbacks.calls = [.onAccept 1] →
      ¬ReportedOnce callbacks := by
    intro callbacks calls reported
    have once := reported 1 (by rw [calls]; exact List.mem_cons_self)
    rw [calls] at once
    exact absurd once (by decide)
  constructor
  · have accepted : EpollServer.step (EpollServer.listening .default 4 3)
        (.acceptClient ⟨7, true⟩) = some _ := rfl
    exact ⟨_, mem_states_next accepted (mem_states_self _ _ []), untold _ rfl⟩
  · have accepted : IOUringServer.step ringServer (.complete 0 7 [] readyRing) = some _ := rfl
    exact ⟨_, mem_states_next accepted (mem_states_self _ _ []), untold _ rfl⟩

end KanchoNet
