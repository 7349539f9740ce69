import KanchoNet.Network.EpollIndexes
import KanchoNet.Network.IOUringServer
import KanchoNet.Network.IOCPModel

/-!
Accepts that give up after AddSession. CloseSession closes the socket but leaves the
session in the table, so it keeps its seat and Shutdown closes the descriptor again.
-/
namespace KanchoNet
open GuardedSections LabelledRuns

section Tables
variable {Handle : Type}

def SameSessions (before after : SessionManager Handle) : Prop :=
  (∀ id, after.getSession id = before.getSession id) ∧
  after.getSessionCount = before.getSessionCount

theorem addSession_ne_none_iff {table : SessionManager Handle} (socket : Handle)
    (config : SessionConfig) : (table.addSession socket config).1 ≠ none ↔
      ¬table.mMaxSessions.toNat ≤ table.getSessionCount := by
  by_cases full : table.mMaxSessions.toNat ≤ table.getSessionCount
  · simp [SessionManager.addSession_of_full full, full]
  · simp only [SessionManager.addSession_of_room full, full]
    simp

theorem admitted_live (table : SessionManager Handle) (socket : Handle) :
    socket ∈ (table.seat socket).liveSessions.map Session.mSocket :=
  List.mem_map.mpr ⟨_, SessionManager.mem_liveSessions.mpr
    ⟨_, SessionManager.getSession_seat_self table socket⟩, rfl⟩

end Tables

namespace EpollServer

def GivesUp (client : AcceptedClient) (m : EpollServer) : Prop :=
  (m.mSessionManager.addSession client.socket .default).1 ≠ none ∧
  (m.registry.registerSocket client.socket (sessionPtr m.mSessionManager.mNextSessionID)
    (EPOLLIN ||| EPOLLET) client.granted).1 = false

/-- Both indexes are as before and the socket is closed; if its number is given to
    another descriptor of the process, Shutdown leaves that one open. -/
structure RolledBack (socket : Fd) (before after : EpollServer) : Prop where
  sessions : SameSessions before.mSessionManager after.mSessionManager
  mapped : ∀ fd, after.registry.mSocketToSession.lookup fd =
    before.registry.mSocketToSession.lookup fd
  closed : socket ∉ after.descriptors
  left : socket ∈ (after.openDescriptor socket).shutdown.descriptors

theorem givesUp_iff (client : AcceptedClient) (m : EpollServer) : GivesUp client m ↔
    ¬m.mSessionManager.mMaxSessions.toNat ≤ m.mSessionManager.getSessionCount ∧
    ¬(client.granted = true ∧ client.socket ∉ m.registry.interest) := by
  rw [GivesUp, addSession_ne_none_iff]
  refine and_congr_right' ?_
  unfold EpollRegistry.registerSocket EpollRegistry.ctlAdd
  split <;> simp_all

/- The session that stays in the table gives its socket to Shutdown. -/
theorem abandoned_not_rolledBack {client : AcceptedClient} {m : EpollServer}
    (initialized : m.mInitialized = true) (givesUp : GivesUp client m) :
    ¬RolledBack client.socket m (m.acceptClient client) := by
  obtain ⟨room, refused⟩ := (givesUp_iff client m).mp givesUp
  rw [acceptClient_room client room, if_neg refused]
  intro rolledBack
  obtain ⟨_, apart, _⟩ := (mem_shutdown_descriptors
    (show ((m.abandoned client.socket).openDescriptor client.socket).mInitialized = true
      from initialized)).mp rolledBack.left
  obtain ⟨session, member, owned⟩ :=
    List.mem_map.mp (admitted_live m.mSessionManager client.socket)
  exact apart session member owned

theorem rolledBack_iff (client : AcceptedClient) {m : EpollServer}
    (initialized : m.mInitialized = true) :
    (GivesUp client m → RolledBack client.socket m (m.acceptClient client)) ↔
      m.mSessionManager.mMaxSessions.toNat ≤ m.mSessionManager.getSessionCount ∨
      (client.granted = true ∧ client.socket ∉ m.registry.interest) := by
  constructor
  · intro promised
    by_contra neither
    rw [not_or] at neither
    have givesUp := (givesUp_iff client m).mpr neither
    exact abandoned_not_rolledBack initialized givesUp (promised givesUp)
  · rintro (full | granted) givesUp
    · exact absurd full ((givesUp_iff client m).mp givesUp).1
    · exact absurd granted ((givesUp_iff client m).mp givesUp).2

end EpollServer

namespace IOUringServer
open IOUringModel

def GivesUp (result : Int32) (a : CompletionAnswers) (s : IOUringServer) : Prop :=
  ¬result < 0 ∧
  (s.model.mSessionManager.addSession result.toBitVec .default).1 ≠ none ∧
  (((s.model.submitAccept a.accept).2.admitted result.toBitVec).submitReceive
    s.model.mSessionManager.mNextSessionID a.session).1 = false

structure RolledBack (socket : Fd) (before after : IOUringServer) : Prop where
  sessions : SameSessions before.model.mSessionManager after.model.mSessionManager
  mapped : ∀ fd, after.model.mSocketToSession.lookup fd =
    before.model.mSocketToSession.lookup fd
  closed : after.model.closed.count socket = before.model.closed.count socket + 1
  left : after.shutdown.model.closed.count socket = after.model.closed.count socket

def accepts (result : Int32) (a : CompletionAnswers) (s : IOUringServer) : IOUringServer :=
  { s with model := s.model.processAcceptCompletion result a }

theorem submitReceive_fails_iff (id : SessionID) (a : SubmitAnswers) (m : IOUringModel) :
    (m.submitReceive id a).1 = false ↔ ¬(a.sqe = true ∧ a.submit = true) := by
  unfold submitReceive submitContext
  cases a.sqe <;> cases a.submit <;> simp

theorem submitAccept_keeps (a : SubmitAnswers) (m : IOUringModel) :
    (m.submitAccept a).2.mSessionManager = m.mSessionManager :=
  (submitContext_pending .accept none [] a m).1

theorem givesUp_iff (result : Int32) (a : CompletionAnswers) (s : IOUringServer) :
    GivesUp result a s ↔ ¬result < 0 ∧
      ¬s.model.mSessionManager.mMaxSessions.toNat ≤ s.model.mSessionManager.getSessionCount ∧
      ¬(a.session.sqe = true ∧ a.session.submit = true) := by
  rw [GivesUp, addSession_ne_none_iff, submitReceive_fails_iff]

theorem abandoned_not_rolledBack {result : Int32} {a : CompletionAnswers} {s : IOUringServer}
    (initialized : s.mInitialized = true) (givesUp : GivesUp result a s) :
    ¬RolledBack result.toBitVec s (s.accepts result a) := by
  obtain ⟨accepted, room, fails⟩ := (givesUp_iff result a s).mp givesUp
  have table := submitAccept_keeps a.accept s.model
  have seated : (s.accepts result a).model.mSessionManager =
      s.model.mSessionManager.seat result.toBitVec := by
    unfold accepts processAcceptCompletion
    dsimp only
    rw [if_neg accepted, IOUringModel.acceptClient_room (by rwa [table])]
    dsimp only
    rw [if_pos (by rw [(submitReceive_fails_iff _ _ _).mpr fails]; simp)]
    exact ((submitReceive_keeps _ _ _).1.trans
      (congrArg (SessionManager.seat · result.toBitVec) table))
  intro rolledBack
  have again := rolledBack.left
  rw [(shutdown_spec (s := s.accepts result a) initialized).2.2.2.2.2, seated, List.count_append,
    List.count_append] at again
  have live := List.count_pos_iff.mpr (admitted_live s.model.mSessionManager result.toBitVec)
  omega

theorem rolledBack_iff (result : Int32) (a : CompletionAnswers) {s : IOUringServer}
    (initialized : s.mInitialized = true) :
    (GivesUp result a s → RolledBack result.toBitVec s (s.accepts result a)) ↔
      result < 0 ∨
      s.model.mSessionManager.mMaxSessions.toNat ≤ s.model.mSessionManager.getSessionCount ∨
      (a.session.sqe = true ∧ a.session.submit = true) := by
  constructor
  · intro promised
    by_contra neither
    rw [not_or, not_or] at neither
    have givesUp := (givesUp_iff result a s).mpr neither
    exact abandoned_not_rolledBack initialized givesUp (promised givesUp)
  · rintro (failed | full | submitted) givesUp
    · exact absurd failed ((givesUp_iff result a s).mp givesUp).1
    · exact absurd full ((givesUp_iff result a s).mp givesUp).2.1
    · exact absurd submitted ((givesUp_iff result a s).mp givesUp).2.2

end IOUringServer

namespace IOCPModel

def GivesUp (socket : SOCKET) (a : ProcessAnswers) (m : IOCPModel) : Prop :=
  (m.mSessionManager.addSession socket .default).1 ≠ none ∧
  (a.associated = false ∨ (m.postReceive a.wsaRecv m.mSessionManager.mNextSessionID).1 = false)

structure RolledBack (socket : SOCKET) (before after : IOCPModel) : Prop where
  sessions : SameSessions before.mSessionManager after.mSessionManager
  closed : after.closed.count socket = before.closed.count socket + 1
  left : after.shutdown.closed.count socket = after.closed.count socket

theorem givesUp_iff (socket : SOCKET) (a : ProcessAnswers) (m : IOCPModel) :
    GivesUp socket a m ↔
      ¬m.mSessionManager.mMaxSessions.toNat ≤ m.mSessionManager.getSessionCount ∧
      ¬(a.associated = true ∧ a.wsaRecv = true) := by
  rw [GivesUp, addSession_ne_none_iff]
  refine and_congr_right' ?_
  unfold postReceive
  cases a.associated <;> cases a.wsaRecv <;> simp

theorem registerAccept_keeps (acceptSocket : SOCKET) (acceptEx : Bool) (m : IOCPModel) :
    (m.registerAccept acceptSocket acceptEx).2.mSessionManager = m.mSessionManager ∧
    (m.registerAccept acceptSocket acceptEx).2.mInitialized = m.mInitialized := by
  unfold registerAccept
  split
  · exact ⟨rfl, rfl⟩
  · split <;> exact ⟨rfl, rfl⟩

theorem processAccept_seated {context : OverlappedContext} {a : ProcessAnswers} {m : IOCPModel}
    (givesUp : GivesUp context.acceptSocket a m) :
    (m.processAccept context a).mSessionManager =
      m.mSessionManager.seat context.acceptSocket ∧
    (m.processAccept context a).mInitialized = m.mInitialized := by
  obtain ⟨room, fails⟩ := (givesUp_iff context.acceptSocket a m).mp givesUp
  obtain ⟨table, initialized⟩ := registerAccept_keeps a.acceptSocket a.acceptEx m
  unfold processAccept
  dsimp only
  generalize m.registerAccept a.acceptSocket a.acceptEx = registered at table initialized ⊢
  rw [← table] at room
  rw [SessionManager.addSession_of_room room, ← table, ← initialized]
  dsimp only
  split
  · exact ⟨rfl, rfl⟩
  · rename_i associated
    have unposted : a.wsaRecv = false := by
      rw [not_not] at associated
      simpa [associated] using fails
    rw [unposted]
    exact ⟨rfl, rfl⟩

theorem abandoned_not_rolledBack {context : OverlappedContext} {a : ProcessAnswers}
    {m : IOCPModel} (initialized : m.mInitialized = true)
    (givesUp : GivesUp context.acceptSocket a m) :
    ¬RolledBack context.acceptSocket m (m.processAccept context a) := by
  obtain ⟨seated, kept⟩ := processAccept_seated givesUp
  intro rolledBack
  have again := rolledBack.left
  unfold shutdown at again
  rw [if_neg (not_not.mpr (kept.trans initialized)), seated, List.count_append,
    List.count_append] at again
  have live : 0 < ((m.mSessionManager.seat context.acceptSocket).mSessions.entries.map
      fun entry => entry.2.mSocket).count context.acceptSocket := by
    have member := admitted_live m.mSessionManager context.acceptSocket
    rw [SessionManager.liveSessions, List.map_map] at member
    exact List.count_pos_iff.mpr member
  omega

theorem rolledBack_iff (context : OverlappedContext) (a : ProcessAnswers) {m : IOCPModel}
    (initialized : m.mInitialized = true) :
    (GivesUp context.acceptSocket a m →
      RolledBack context.acceptSocket m (m.processAccept context a)) ↔
      m.mSessionManager.mMaxSessions.toNat ≤ m.mSessionManager.getSessionCount ∨
      (a.associated = true ∧ a.wsaRecv = true) := by
  constructor
  · intro promised
    by_contra neither
    rw [not_or] at neither
    have givesUp := (givesUp_iff context.acceptSocket a m).mpr neither
    exact abandoned_not_rolledBack initialized givesUp (promised givesUp)
  · rintro (full | posted) givesUp
    · exact absurd full ((givesUp_iff context.acceptSocket a m).mp givesUp).1
    · exact absurd posted ((givesUp_iff context.acceptSocket a m).mp givesUp).2

end IOCPModel

/-- In every initialized server of each model and for every accepted connection, an
    accept that gives up is rolled back if and only if it does not give up at all. -/
theorem failed_accepts_rolled_back_iff {m : EpollServer} (initialized : m.mInitialized = true)
    (client : AcceptedClient) {s : IOUringServer} (initialized' : s.mInitialized = true)
    (result : Int32) (a : CompletionAnswers) {p : IOCPModel}
    (initialized'' : p.mInitialized = true) (context : OverlappedContext) (b : ProcessAnswers) :
    ((EpollServer.GivesUp client m →
        EpollServer.RolledBack client.socket m (m.acceptClient client)) ↔
      m.mSessionManager.mMaxSessions.toNat ≤ m.mSessionManager.getSessionCount ∨
      (client.granted = true ∧ client.socket ∉ m.registry.interest)) ∧
    ((IOUringServer.GivesUp result a s →
        IOUringServer.RolledBack result.toBitVec s (s.accepts result a)) ↔
      result < 0 ∨
      s.model.mSessionManager.mMaxSessions.toNat ≤ s.model.mSessionManager.getSessionCount ∨
      (a.session.sqe = true ∧ a.session.submit = true)) ∧
    ((IOCPModel.GivesUp context.acceptSocket b p →
        IOCPModel.RolledBack context.acceptSocket p (p.processAccept context b)) ↔
      p.mSessionManager.mMaxSessions.toNat ≤ p.mSessionManager.getSessionCount ∨
      (b.associated = true ∧ b.wsaRecv = true)) := by
  refine ⟨?_, ?_, ?_⟩
  · exact EpollServer.rolledBack_iff client initialized
  · exact IOUringServer.rolledBack_iff result a initialized'
  · exact IOCPModel.rolledBack_iff context b initialized''

def oneSeat : EpollServer :=
  EpollServer.listening { EngineConfig.default with mMaxSessions := 1 } 4 3

def oneSeatRing : IOUringServer := IOUringServer.initialized 3 1 ⟨true, true, true, []⟩

def oneSeatPort : IOCPModel := IOCPModel.initialized 3 1 ⟨true, true, true, []⟩

theorem granted_accepts_keep_promise :
    (EpollServer.GivesUp ⟨7, true⟩ oneSeat →
      EpollServer.RolledBack 7 oneSeat (oneSeat.acceptClient ⟨7, true⟩)) ∧
    (IOUringServer.GivesUp 7 ⟨⟨true, true⟩, ⟨true, true⟩⟩ oneSeatRing →
      IOUringServer.RolledBack 7 oneSeatRing
        (oneSeatRing.accepts 7 ⟨⟨true, true⟩, ⟨true, true⟩⟩)) ∧
    (IOCPModel.GivesUp 7 ⟨8, true, true, true, true⟩ oneSeatPort →
      IOCPModel.RolledBack 7 oneSeatPort
        (oneSeatPort.processAccept (acceptContext 7) ⟨8, true, true, true, true⟩)) := by
  have initialized : oneSeat.mInitialized = true := rfl
  have initialized' : oneSeatRing.mInitialized = true := rfl
  have initialized'' : oneSeatPort.mInitialized = true := rfl
  obtain ⟨epoll, ring, port⟩ := failed_accepts_rolled_back_iff initialized ⟨7, true⟩
    initialized' 7 ⟨⟨true, true⟩, ⟨true, true⟩⟩ initialized'' (acceptContext 7)
    ⟨8, true, true, true, true⟩
  refine ⟨?_, ?_, ?_⟩
  · exact epoll.mpr (Or.inr (by decide))
  · exact ring.mpr (Or.inr (Or.inr ⟨rfl, rfl⟩))
  · exact port.mpr (Or.inr ⟨rfl, rfl⟩)

/- One accept that gives up takes the only seat; the next client is turned away. -/
theorem lost_seat :
    (EpollServer.GivesUp ⟨7, false⟩ oneSeat ∧
      ¬EpollServer.RolledBack 7 oneSeat (oneSeat.acceptClient ⟨7, false⟩) ∧
      (oneSeat.acceptClient ⟨7, false⟩).mSessionManager.getSessionCount = 1 ∧
      (oneSeat.acceptClient ⟨7, false⟩).acceptClient ⟨8, true⟩ =
        (oneSeat.acceptClient ⟨7, false⟩).refused 8) ∧
    (IOUringServer.GivesUp 7 ⟨⟨true, true⟩, ⟨true, false⟩⟩ oneSeatRing ∧
      ¬IOUringServer.RolledBack 7 oneSeatRing
        (oneSeatRing.accepts 7 ⟨⟨true, true⟩, ⟨true, false⟩⟩)) ∧
    (IOCPModel.GivesUp 7 ⟨8, true, true, false, true⟩ oneSeatPort ∧
      ¬IOCPModel.RolledBack 7 oneSeatPort
        (oneSeatPort.processAccept (acceptContext 7) ⟨8, true, true, false, true⟩)) := by
  have refused : EpollServer.GivesUp ⟨7, false⟩ oneSeat :=
    (EpollServer.givesUp_iff _ _).mpr ⟨by decide, by decide⟩
  have unsubmitted : IOUringServer.GivesUp 7 ⟨⟨true, true⟩, ⟨true, false⟩⟩ oneSeatRing :=
    (IOUringServer.givesUp_iff _ _ _).mpr ⟨by decide, by decide, by decide⟩
  have unposted : IOCPModel.GivesUp (acceptContext 7).acceptSocket
      ⟨8, true, true, false, true⟩ oneSeatPort :=
    (IOCPModel.givesUp_iff _ _ _).mpr ⟨by decide, by decide⟩
  refine ⟨⟨refused, EpollServer.abandoned_not_rolledBack rfl refused, rfl, ?_⟩,
    ⟨unsubmitted, IOUringServer.abandoned_not_rolledBack rfl unsubmitted⟩,
    ⟨unposted, IOCPModel.abandoned_not_rolledBack rfl unposted⟩⟩
  exact EpollServer.acceptClient_full _ (Nat.le_refl 1)

end KanchoNet
