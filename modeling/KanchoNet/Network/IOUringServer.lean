import KanchoNet.Network.IOUringSessions

/-!
An IOUringModel with the flags and the sockets it is started and shut down with.
-/
namespace KanchoNet
open GuardedSections LabelledRuns

namespace IOUringModel

def admitted (clientSocket : Fd) (m : IOUringModel) : IOUringModel :=
  { m with
    mSessionManager := m.mSessionManager.seat clientSocket
    mSocketToSession := m.mSocketToSession.insert clientSocket m.mSessionManager.mNextSessionID }

theorem acceptClient_full {m : IOUringModel}
    (full : m.mSessionManager.mMaxSessions.toNat ≤ m.mSessionManager.getSessionCount)
    (clientSocket : Fd) (a : SubmitAnswers) :
    acceptClient clientSocket a m = { m with closed := m.closed ++ [clientSocket] } := by
  rw [acceptClient, SessionManager.addSession_of_full full]

theorem acceptClient_room {m : IOUringModel}
    (room : ¬m.mSessionManager.mMaxSessions.toNat ≤ m.mSessionManager.getSessionCount)
    (clientSocket : Fd) (a : SubmitAnswers) :
    acceptClient clientSocket a m =
      let id := m.mSessionManager.mNextSessionID
      let (submitted, m) := (m.admitted clientSocket).submitReceive id a
      if ¬submitted then m.closeSession (Session.accepted id clientSocket .default)
      else { m with callbacks := m.callbacks.onAccept id } := by
  rw [acceptClient, SessionManager.addSession_of_room room]
  rfl

theorem submitReceive_keeps (id : SessionID) (a : SubmitAnswers) (m : IOUringModel) :
    (m.submitReceive id a).2.mSessionManager = m.mSessionManager ∧
    (m.submitReceive id a).2.callbacks = m.callbacks :=
  ⟨(submitContext_pending _ _ _ a m).1, callbacks_submitContext _ _ _ a m⟩

end IOUringModel

structure IOUringServer where
  mInitialized : Bool
  mRunning : Bool
  mListenSocket : Fd
  mRingInitialized : Bool
  model : IOUringModel

namespace IOUringServer

def initialized (listenSocket : Fd) (maxSessions : UInt32) (callbacks : Callbacks) :
    IOUringServer where
  mInitialized := true
  mRunning := false
  mListenSocket := listenSocket
  mRingInitialized := true
  model :=
    { mSessionManager := SessionManager.construct maxSessions
      mSocketToSession := ∅
      callbacks := callbacks
      nextContext := 0
      prepared := []
      inflight := []
      deallocated := []
      closed := [] }

def startListen (listens : Bool) (a : SubmitAnswers) (s : IOUringServer) : Bool × IOUringServer :=
  if ¬s.mInitialized then (false, s)
  else if s.mRunning then (true, s)
  else if ¬listens then (false, s)
  else
    let (submitted, model) := s.model.submitAccept a
    if ¬submitted then (false, { s with model }) else (true, { s with model, mRunning := true })

def closeSessions (m : IOUringModel) : IOUringModel :=
  let m := m.mSessionManager.liveSessions.foldl (fun m session => m.closeSession session) m
  { m with mSessionManager := m.mSessionManager.clear, mSocketToSession := ∅ }

def shutdown (s : IOUringServer) : IOUringServer :=
  if ¬s.mInitialized then s
  else
    let model := closeSessions s.model
    let closed := if s.mListenSocket = INVALID_SOCKET_HANDLE then model.closed
      else model.closed ++ [s.mListenSocket]
    -- the operations go with the ring
    let model := if s.mRingInitialized then { model with closed, prepared := [], inflight := [] }
      else { model with closed }
    { mInitialized := false
      mRunning := false
      mListenSocket := INVALID_SOCKET_HANDLE
      mRingInitialized := false
      model }

theorem closeSessions_spec (m : IOUringModel) :
    (closeSessions m).mSessionManager = m.mSessionManager.clear ∧
    (closeSessions m).mSocketToSession = ∅ ∧ (closeSessions m).callbacks = m.callbacks ∧
    (closeSessions m).closed =
      m.closed ++ m.mSessionManager.liveSessions.map Session.mSocket := by
  have each : ∀ (sessions : List (Session Fd)) (m : IOUringModel),
      (sessions.foldl (fun m session => m.closeSession session) m).mSessionManager =
        m.mSessionManager ∧
      (sessions.foldl (fun m session => m.closeSession session) m).callbacks = m.callbacks ∧
      (sessions.foldl (fun m session => m.closeSession session) m).closed =
        m.closed ++ sessions.map Session.mSocket := by
    intro sessions
    induction sessions with
    | nil =>
      intro m
      exact ⟨rfl, rfl, (List.append_nil _).symm⟩
    | cons session sessions ih =>
      intro m
      obtain ⟨table, callbacks, closed⟩ := ih (m.closeSession session)
      exact ⟨table, callbacks, closed.trans (List.append_assoc _ _ _)⟩
  obtain ⟨table, callbacks, closed⟩ := each m.mSessionManager.liveSessions m
  exact ⟨congrArg SessionManager.clear table, rfl, callbacks, closed⟩

theorem shutdown_spec {s : IOUringServer} (initialized : s.mInitialized = true) :
    s.shutdown.mInitialized = false ∧ s.shutdown.mRunning = false ∧
    s.shutdown.model.mSessionManager = s.model.mSessionManager.clear ∧
    s.shutdown.model.mSocketToSession = ∅ ∧
    s.shutdown.model.callbacks = s.model.callbacks ∧
    s.shutdown.model.closed = s.model.closed ++
      s.model.mSessionManager.liveSessions.map Session.mSocket ++
      if s.mListenSocket = INVALID_SOCKET_HANDLE then [] else [s.mListenSocket] := by
  obtain ⟨table, mapped, callbacks, closed⟩ := closeSessions_spec s.model
  unfold shutdown
  rw [if_neg (not_not.mpr initialized)]
  have sockets : (if s.mListenSocket = INVALID_SOCKET_HANDLE then (closeSessions s.model).closed
      else (closeSessions s.model).closed ++ [s.mListenSocket]) =
      s.model.closed ++ s.model.mSessionManager.liveSessions.map Session.mSocket ++
      if s.mListenSocket = INVALID_SOCKET_HANDLE then [] else [s.mListenSocket] := by
    rw [closed]
    split
    · exact (List.append_nil _).symm
    · rfl
  cases ring : s.mRingInitialized with
  | true => exact ⟨rfl, rfl, table, mapped, callbacks, sockets⟩
  | false => exact ⟨rfl, rfl, table, mapped, callbacks, sockets⟩

def step (s : IOUringServer) (e : IOUringModel.Event) : Option IOUringServer :=
  if ¬s.mRunning then none
  else (IOUringModel.step s.model e).map fun model => { s with model }

theorem step_cases {s s' : IOUringServer} {e : IOUringModel.Event} (next : step s e = some s') :
    s.mRunning = true ∧ ∃ model, IOUringModel.step s.model e = some model ∧
      s' = { s with model } := by
  unfold step at next
  split at next
  · cases next
  · rename_i running
    obtain ⟨model, ran, rfl⟩ := Option.map_eq_some_iff.mp next
    exact ⟨not_not.mp running, model, ran, rfl⟩

theorem startListen_reading {listenSocket : Fd} {maxSessions : UInt32} {callbacks : Callbacks}
    {listens : Bool} {a : SubmitAnswers} {s : IOUringServer}
    (listening : startListen listens a (initialized listenSocket maxSessions callbacks) =
      (true, s)) :
    s.mInitialized = true ∧ IOUringModel.Reading s.model ∧
      s.model.mSessionManager = SessionManager.construct maxSessions ∧
      s.model.callbacks = callbacks := by
  have idle : IOUringModel.Reading (initialized listenSocket maxSessions callbacks).model := by
    constructor
    · simp [initialized, IOUringModel.pending]
    · simp [initialized, IOUringModel.pending]
    · intro id member
      cases member
  have accepting := IOUringModel.submitContext_reading idle [] a (Or.inl ⟨rfl, rfl⟩)
  have table := (IOUringModel.submitContext_pending .accept none [] a
    (initialized listenSocket maxSessions callbacks).model).1
  have told := IOUringModel.callbacks_submitContext .accept none [] a
    (initialized listenSocket maxSessions callbacks).model
  unfold startListen at listening
  rw [if_neg (by simp [initialized]), if_neg (by simp [initialized])] at listening
  split at listening
  · cases listening
  · dsimp only at listening
    split at listening
    · cases listening
    · cases listening
      exact ⟨rfl, accepting, table, told⟩

end IOUringServer
end KanchoNet
