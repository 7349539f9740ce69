import KanchoNet.Network.EpollHandlers

/-!
The calls into an EpollServer do not look at the descriptors it has open: servers
that differ in nothing else act the same.
-/
namespace KanchoNet.EpollServer
open GuardedSections LabelledRuns

section Alike
variable {m m' : EpollServer} (alike : m.forget = m'.forget)
include alike

theorem getSession_alike (id : SessionID) :
    m'.mSessionManager.getSession id = m.mSessionManager.getSession id := by
  rw [forget_eq_iff.mp alike]

theorem modifySession_alike (id : SessionID) (f : Session Fd → Session Fd) :
    (m.modifySession id f).forget = (m'.modifySession id f).forget := by
  rw [forget_eq_iff.mp alike]
  unfold modifySession
  dsimp only
  split <;> rfl

theorem initializeModel_alike (config : EngineConfig) (a : InitializeAnswers) :
    (m.initializeModel config a).1 = (m'.initializeModel config a).1 ∧
    (m.initializeModel config a).2.forget = (m'.initializeModel config a).2.forget := by
  rw [forget_eq_iff.mp alike]
  unfold initializeModel
  dsimp only
  split
  · exact ⟨rfl, rfl⟩
  · split
    · exact ⟨rfl, rfl⟩
    · split
      · exact ⟨rfl, rfl⟩
      · split <;> exact ⟨rfl, rfl⟩

theorem startListen_alike (listens granted : Bool) :
    (m.startListen listens granted).1 = (m'.startListen listens granted).1 ∧
    (m.startListen listens granted).2.forget = (m'.startListen listens granted).2.forget := by
  rw [forget_eq_iff.mp alike]
  unfold startListen
  dsimp only
  split
  · exact ⟨rfl, rfl⟩
  · split
    · exact ⟨rfl, rfl⟩
    · split
      · exact ⟨rfl, rfl⟩
      · split <;> exact ⟨rfl, rfl⟩

theorem processDisconnect_alike (id : SessionID) :
    (m.processDisconnect id).Agree forget (m'.processDisconnect id) := by
  rw [forget_eq_iff.mp alike]
  unfold processDisconnect
  dsimp only
  split
  · rfl
  · split <;> rfl

theorem acceptClient_alike (client : AcceptedClient) :
    (m.acceptClient client).forget = (m'.acceptClient client).forget := by
  rw [forget_eq_iff.mp alike]
  by_cases full : m.mSessionManager.mMaxSessions.toNat ≤ m.mSessionManager.getSessionCount
  · rw [acceptClient_full client full,
      acceptClient_full (m := { m with descriptors := m'.descriptors }) client full]
    rfl
  · rw [acceptClient_room client full,
      acceptClient_room (m := { m with descriptors := m'.descriptors }) client full]
    dsimp only
    split <;> rfl

theorem onSession_alike {β : Type} (id : SessionID) (body : EpollPeer → Outcome EpollPeer β) :
    (m.onSession id body).Agree forget (m'.onSession id body) := by
  rw [forget_eq_iff.mp alike]
  unfold onSession
  dsimp only
  split
  · rfl
  · rename_i session _
    cases body ⟨session, m.registry⟩ <;> rfl

theorem closeListenSocket_alike : m.closeListenSocket.forget = m'.closeListenSocket.forget := by
  rw [forget_eq_iff.mp alike]
  unfold closeListenSocket
  dsimp only
  split <;> rfl

theorem closeEpoll_alike : m.closeEpoll.forget = m'.closeEpoll.forget := by
  rw [forget_eq_iff.mp alike]
  unfold closeEpoll
  dsimp only
  split <;> rfl

theorem closeSession_alike (session : Session Fd) :
    (m.closeSession session).forget = (m'.closeSession session).forget := by
  rw [forget_eq_iff.mp alike]
  rfl

end Alike

theorem processAccept_alike (answers : AcceptAnswers) {m m' : EpollServer}
    (alike : m.forget = m'.forget) :
    (m.processAccept answers).forget = (m'.processAccept answers).forget := by
  induction answers generalizing m m' with
  | client client rest ih => exact ih (acceptClient_alike alike client)
  | wouldBlock => exact alike
  | failed => exact alike

theorem recvLoop_alike (id : SessionID) (answers : RecvAnswers) {m m' : EpollServer}
    (alike : m.forget = m'.forget) :
    (recvLoop id answers m).Agree forget (recvLoop id answers m') := by
  induction answers generalizing m m' with
  | received data positive within rest ih =>
    apply ih
    rw [forget_eq_iff.mp alike]
    rfl
  | closed => exact processDisconnect_alike alike id
  | wouldBlock => exact agree_done () alike
  | failed => exact processDisconnect_alike alike id

theorem processReceive_alike (id : SessionID) (answers : RecvAnswers) {m m' : EpollServer}
    (alike : m.forget = m'.forget) :
    (m.processReceive id answers).Agree forget (m'.processReceive id answers) := by
  unfold processReceive
  rw [getSession_alike alike]
  split
  · rfl
  · split
    · exact agree_done () alike
    · exact recvLoop_alike id answers alike

theorem processSend_alike (id : SessionID) (answers : SendAnswers) (granted : Bool)
    {m m' : EpollServer} (alike : m.forget = m'.forget) :
    (m.processSend id answers granted).Agree forget (m'.processSend id answers granted) := by
  apply agree_guarded _ _ _ alike
  · intro m m' alike
    simp only [sessionLock, getSession_alike alike]
  · intro flag m m' alike
    exact modifySession_alike alike id _
  · intro m m' alike
    apply agree_bind (onSession_alike alike id _)
    intro ending m m' alike
    split
    · exact processDisconnect_alike alike id
    · exact agree_done () alike

theorem handleEvent_alike (event : ReadyEvent) {m m' : EpollServer}
    (alike : m.forget = m'.forget) : (m.handleEvent event).Agree forget (m'.handleEvent event) := by
  cases event with
  | listen answers => exact agree_done () (processAccept_alike answers alike)
  | client id events a =>
    simp only [handleEvent]
    split
    · exact processDisconnect_alike alike id
    · apply agree_bind
      · split
        · exact processReceive_alike id a.recv alike
        · exact agree_done () alike
      · intro _ m m' alike
        split
        · exact processSend_alike id a.send a.granted alike
        · exact agree_done () alike

theorem handleEvents_alike (events : List ReadyEvent) {m m' : EpollServer}
    (alike : m.forget = m'.forget) :
    (handleEvents events m).Agree forget (handleEvents events m') := by
  induction events generalizing m m' with
  | nil => exact agree_done () alike
  | cons event events ih =>
    exact agree_bind (handleEvent_alike event alike) fun _ _ _ alike' => ih alike'

theorem processIo_alike (wait : WaitAnswer) {m m' : EpollServer}
    (alike : m.forget = m'.forget) : (m.processIo wait).Agree forget (m'.processIo wait) := by
  have running : m'.mRunning = m.mRunning := by rw [forget_eq_iff.mp alike]
  unfold processIo
  rw [running]
  split
  · exact agree_done false alike
  · cases wait with
    | interrupted => exact agree_done true alike
    | failed => exact agree_done false alike
    | ready events =>
      exact agree_bind (handleEvents_alike events alike) fun _ _ _ alike' =>
        agree_done true alike'

theorem send_alike (id : SessionID) (packet : PacketBuffer) (granted : Bool) {m m' : EpollServer}
    (alike : m.forget = m'.forget) :
    (m.send id packet granted).Agree forget (m'.send id packet granted) :=
  onSession_alike alike id _

theorem closeSessions_alike (sessions : List (Session Fd)) {m m' : EpollServer}
    (alike : m.forget = m'.forget) :
    (sessions.foldl (fun m session => m.closeSession session) m).forget =
      (sessions.foldl (fun m session => m.closeSession session) m').forget := by
  induction sessions generalizing m m' with
  | nil => exact alike
  | cons session sessions ih => exact ih (closeSession_alike alike session)

theorem shutdown_alike {m m' : EpollServer} (alike : m.forget = m'.forget) :
    m.shutdown.forget = m'.shutdown.forget := by
  have initialized : m'.mInitialized = m.mInitialized := by rw [forget_eq_iff.mp alike]
  have sessions : m'.mSessionManager.liveSessions = m.mSessionManager.liveSessions := by
    rw [forget_eq_iff.mp alike]
  cases started : m.mInitialized with
  | false =>
    rw [shutdown_uninitialized started, shutdown_uninitialized (initialized.trans started)]
    exact alike
  | true =>
    unfold shutdown
    rw [if_neg (not_not.mpr started), if_neg (not_not.mpr (initialized.trans started))]
    have stopped : ({ m with mRunning := false } : EpollServer).forget =
        ({ m' with mRunning := false } : EpollServer).forget := by
      rw [forget_eq_iff.mp alike]
      rfl
    have closed := closeSessions_alike m.mSessionManager.liveSessions stopped
    dsimp only at closed ⊢
    rw [sessions]
    generalize m.mSessionManager.liveSessions.foldl (fun m session => closeSession session m)
      { m with mRunning := false } = swept at closed ⊢
    generalize m.mSessionManager.liveSessions.foldl (fun m session => closeSession session m)
      { m' with mRunning := false } = swept' at closed ⊢
    have cleared : ({ swept with
          mSessionManager := swept.mSessionManager.clear
          registry := { swept.registry with mSocketToSession := ∅ } } : EpollServer).forget =
        ({ swept' with
          mSessionManager := swept'.mSessionManager.clear
          registry := { swept'.registry with mSocketToSession := ∅ } } : EpollServer).forget := by
      rw [forget_eq_iff.mp closed]
      rfl
    exact congrArg (fun m : EpollServer => { m with mInitialized := false })
      (closeEpoll_alike (closeListenSocket_alike cleared))

end KanchoNet.EpollServer
