import KanchoNet.Network.EpollDispatch
import KanchoNet.Network.SessionLocks

/-!
The scopes of the session locks in the handlers of EpollModel and IOUringModel: whether
the thread that runs a handler still holds the lock of a session when a callback is
called for it and when it is destroyed.
-/
namespace KanchoNet
open GuardedSections

def Doing.leavesHandler : Doing → Bool
  | .use => false
  | .onReceive => true
  | .onDisconnect => true
  | .removeSession => true
  | .unlock => false

/-- A thread that found the lock free when its handler began holds it from the moment it
    is set. No callback is called and nothing destroyed under the lock of the session,
    and no guard unlocks a session that is gone. -/
structure LocksClear {σ : Type} (lock : SessionID → Lock σ) (table : σ → SessionManager Fd)
    (start : σ) (moments : List (Moment σ)) : Prop where
  released : ∀ x ∈ moments, x.doing.leavesHandler = true →
    (lock x.session).held start = false → (lock x.session).held x.state = false
  unlocked : ∀ x ∈ moments, x.doing = .unlock → x.session ∈ (table x.state).mSessions

section Clear
variable {σ : Type} {lock : SessionID → Lock σ} {table : σ → SessionManager Fd} {start : σ}
  {moments more : List (Moment σ)}

theorem clear_append_iff : LocksClear lock table start (moments ++ more) ↔
    LocksClear lock table start moments ∧ LocksClear lock table start more := by
  constructor
  · intro clear
    constructor
    · exact ⟨fun x member => clear.released x (List.mem_append_left _ member),
        fun x member => clear.unlocked x (List.mem_append_left _ member)⟩
    · exact ⟨fun x member => clear.released x (List.mem_append_right _ member),
        fun x member => clear.unlocked x (List.mem_append_right _ member)⟩
  · rintro ⟨first, second⟩
    constructor
    · intro x member
      exact (List.mem_append.mp member).elim (first.released x) (second.released x)
    · intro x member
      exact (List.mem_append.mp member).elim (first.unlocked x) (second.unlocked x)

theorem clear_of_uses (uses : ∀ x ∈ moments, x.doing = .use) :
    LocksClear lock table start moments := by
  constructor
  · intro x member leaves
    rw [uses x member] at leaves
    cases leaves
  · intro x member unlocks
    cases (uses x member).symm.trans unlocks

theorem clear_of_kept (id : SessionID) (kept : ∀ x ∈ moments, x.session = id ∧
    (lock id).held x.state = (lock id).held start ∧ x.doing ≠ .unlock) :
    LocksClear lock table start moments := by
  constructor
  · intro x member _ free
    obtain ⟨named, same, _⟩ := kept x member
    rw [named] at free ⊢
    exact same.trans free
  · intro x member unlocks
    exact absurd unlocks (kept x member).2.2

theorem clear_unlock_iff {id : SessionID} {s : σ} :
    LocksClear lock table start [⟨.unlock, id, s⟩] ↔ id ∈ (table s).mSessions := by
  constructor
  · exact fun clear => clear.unlocked _ (List.mem_singleton_self _) rfl
  · intro inside
    constructor
    · intro x member leaves
      cases List.mem_singleton.mp member
      cases leaves
    · intro x member _
      cases List.mem_singleton.mp member
      exact inside

theorem not_clear_of_held {x : Moment σ} (member : x ∈ moments)
    (leaves : x.doing.leavesHandler = true) (free : (lock x.session).held start = false)
    (held : (lock x.session).held x.state = true) : ¬LocksClear lock table start moments := by
  intro clear
  cases held.symm.trans (clear.released x member leaves free)

end Clear

namespace EpollServer

inductive Handler where
  | receive (answers : RecvAnswers)
  | send (answers : SendAnswers) (granted : Bool)
  | disconnect

def Handler.takesLock : Handler → Bool
  | .receive _ => false
  | .send _ _ => true
  | .disconnect => false

def moments (m : EpollServer) (id : SessionID) : Handler → List (Moment EpollServer)
  | .receive answers => m.receiveMoments id answers
  | .send answers granted => m.sendMoments id answers granted
  | .disconnect => m.disconnectMoments id

/-- ProcessSend does not get as far as ProcessDisconnect with a session to remove. -/
def HandlerFine (session : Session Fd) : Handler → Prop
  | .receive _ => True
  | .send answers _ => ¬EndsSend session answers
  | .disconnect => True

theorem held_of_table {m u : EpollServer} {id : SessionID} {session : Session Fd}
    (found : m.mSessionManager.getSession id = some session)
    (table : u.mSessionManager = m.mSessionManager ∨
      u.mSessionManager = m.mSessionManager.store id (session.setState .disconnected)) :
    (sessionLock id).held u = session.mLock.mFlag := by
  rcases table with same | marked
  · exact held_of_found (same ▸ found)
  · have there : u.mSessionManager.getSession id = some (session.setState .disconnected) := by
      rw [marked]
      exact SessionManager.getSession_store_self _ _ _
    exact (held_of_found there).trans rfl

theorem unguarded_clear {m : EpollServer} {id : SessionID} {session : Session Fd}
    (found : m.mSessionManager.getSession id = some session)
    {moments : List (Moment EpollServer)}
    (unguarded : ∀ x ∈ moments, x.session = id ∧
      (x.state.mSessionManager = m.mSessionManager ∨
        x.state.mSessionManager = m.mSessionManager.store id (session.setState .disconnected)) ∧
      x.doing ≠ .unlock) :
    LocksClear sessionLock mSessionManager m moments := by
  apply clear_of_kept id
  intro x member
  obtain ⟨named, table, other⟩ := unguarded x member
  exact ⟨named, (held_of_table found table).trans (held_of_found found).symm, other⟩

theorem sendMoments_clear_iff {m : EpollServer} {id : SessionID} {session : Session Fd}
    (found : m.mSessionManager.getSession id = some session)
    (free : session.mLock.mFlag = false) (answers : SendAnswers) (granted : Bool) :
    LocksClear sessionLock mSessionManager m (m.sendMoments id answers granted) ↔
      ¬EndsSend session answers := by
  obtain ⟨emptied, left, there, held, uses, used, ⟨fine, moments⟩ | ⟨fails, alive, moments⟩⟩ :=
    sendMoments_free found free answers granted
  · rw [moments, clear_append_iff, clear_unlock_iff]
    apply iff_of_true _ fine
    exact ⟨clear_of_uses fun x member => (used x member).1, SessionManager.mem_of_getSession there⟩
  · rw [moments]
    apply iff_of_false _ (not_not.mpr fails)
    obtain ⟨told, closed, disconnecting, _, table, _⟩ := disconnectMoments_eq there
    have removal : ⟨.removeSession, id, closed⟩ ∈ emptied.disconnectMoments id := by
      rw [disconnecting, alive, if_neg (by simp)]
      simp
    apply not_clear_of_held (List.mem_append_right uses (List.mem_append_left _ removal)) rfl
    · exact (held_of_found found).trans free
    · exact (held_of_table there (Or.inr table)).trans held

/- A callback that is called with the lock of its session free may send to the session. -/
theorem callback_send_returns {m : EpollServer} {moments : List (Moment EpollServer)}
    (clear : LocksClear sessionLock mSessionManager m moments) {x : Moment EpollServer}
    (member : x ∈ moments) (leaves : x.doing.leavesHandler = true)
    (free : (sessionLock x.session).held m = false) {session : Session Fd}
    (found : x.state.mSessionManager.getSession x.session = some session)
    (packet : PacketBuffer) (granted : Bool) :
    (x.state.send x.session packet granted).returns = true := by
  have unlocked := (held_of_found found).symm.trans (clear.released x member leaves free)
  by_cases packed : packet.contents = []
  · rw [send, onSession, found]
    dsimp only
    rw [EpollModel.send_empty granted _ packed]
    rfl
  · obtain ⟨p, sent, _⟩ := EpollModel.send_spec granted (p := ⟨session, x.state.registry⟩)
      unlocked packed
    rw [send, onSession, found]
    dsimp only
    rw [sent]
    rfl

theorem moments_clear_iff {m : EpollServer} {id : SessionID} {session : Session Fd}
    (found : m.mSessionManager.getSession id = some session) (handler : Handler)
    (free : handler.takesLock = true → session.mLock.mFlag = false) :
    LocksClear sessionLock mSessionManager m (m.moments id handler) ↔
      HandlerFine session handler := by
  cases handler with
  | receive answers =>
    exact iff_of_true (unguarded_clear found (receiveMoments_at found answers)) trivial
  | send answers granted => exact sendMoments_clear_iff found (free rfl) answers granted
  | disconnect => exact iff_of_true (unguarded_clear found (disconnectMoments_at found)) trivial

end EpollServer

namespace IOUringModel

def disconnectMoments (id : SessionID) (m : IOUringModel) : List (Moment IOUringModel) :=
  ⟨.use, id, m⟩ ::
  match m.mSessionManager.getSession id with
  | none => []
  | some session =>
    if session.isDisconnected then []
    else
      let m := m.setSession id (session.setState .disconnected)
      (if m.callbacks.mOnDisconnect then [⟨.onDisconnect, id, m⟩] else []) ++
      let m := { m with callbacks := m.callbacks.onDisconnect id }
      let closed := { m with
        mSocketToSession := m.mSocketToSession.erase session.mSocket
        closed := m.closed ++ [session.mSocket] }
      [⟨.use, id, m⟩, ⟨.use, id, closed⟩, ⟨.removeSession, id, closed⟩]

def receiveMoments (id : SessionID) (result : Int32) (received : List UInt8) (m : IOUringModel) :
    List (Moment IOUringModel) :=
  ⟨.use, id, m⟩ ::
  match m.mSessionManager.getSession id with
  | none => []
  | some session =>
    if ¬session.isConnected then []
    else if 0 < result then
      (if m.callbacks.mOnReceive then [⟨.onReceive, id, m⟩] else []) ++
      [⟨.use, id, { m with
        callbacks := m.callbacks.onReceive id (received.take result.toNatClampNeg) }⟩]
    else m.disconnectMoments id

/-- SubmitSend, which is called under the lock, calls nothing back. -/
def sendMoments (id : SessionID) (result : Int32) (a : SubmitAnswers) (m : IOUringModel) :
    List (Moment IOUringModel) :=
  ⟨.use, id, m⟩ ::
  if (sessionLock id).held m then []
  else
    let m := (sessionLock id).set true m
    ⟨.use, id, m⟩ :: (match m.mSessionManager.getSession id with
      | none => []
      | some session =>
        if 0 < result then []
        else (m.setSession id (session.setSending false)).disconnectMoments id) ++
    (m.sendSection id result a).followed fun _ m => [⟨.unlock, id, m⟩]

inductive Handler where
  | receive (result : Int32) (received : List UInt8)
  | send (result : Int32) (answers : SubmitAnswers)
  | disconnect

def Handler.takesLock : Handler → Bool
  | .receive _ _ => false
  | .send _ _ => true
  | .disconnect => false

def moments (m : IOUringModel) (id : SessionID) : Handler → List (Moment IOUringModel)
  | .receive result received => m.receiveMoments id result received
  | .send result answers => m.sendMoments id result answers
  | .disconnect => m.disconnectMoments id

/-- ProcessSendCompletion does not disconnect the session for a failed or empty send. -/
def HandlerFine (session : Session Fd) : Handler → Prop
  | .receive _ _ => True
  | .send result _ => session.isDisconnected = true ∨ 0 < result
  | .disconnect => True

theorem disconnectMoments_eq {m : IOUringModel} {id : SessionID} {session : Session Fd}
    (found : m.mSessionManager.getSession id = some session) :
    ∃ told used closed : IOUringModel,
      m.disconnectMoments id = ⟨.use, id, m⟩ :: (if session.isDisconnected then [] else
        (if m.callbacks.mOnDisconnect then [⟨.onDisconnect, id, told⟩] else []) ++
        [⟨.use, id, used⟩, ⟨.use, id, closed⟩, ⟨.removeSession, id, closed⟩]) ∧
      (∀ u ∈ [told, used, closed], u.mSessionManager =
        m.mSessionManager.store id (session.setState .disconnected)) ∧
      m.processDisconnect id = if session.isDisconnected then .done () m else
        .done () { closed with
          mSessionManager := (closed.mSessionManager.removeSession id).2 } := by
  unfold disconnectMoments processDisconnect
  simp only [found]
  refine ⟨_, _, _, rfl, ?_, rfl⟩
  rw [List.forall_mem_cons, List.forall_mem_cons, List.forall_mem_singleton]
  exact ⟨rfl, rfl, rfl⟩

theorem held_of_table {m u : IOUringModel} {id : SessionID} {session : Session Fd}
    (found : m.mSessionManager.getSession id = some session)
    (table : u.mSessionManager = m.mSessionManager ∨
      u.mSessionManager = m.mSessionManager.store id (session.setState .disconnected)) :
    (sessionLock id).held u = session.mLock.mFlag := by
  rcases table with same | marked
  · exact held_of_found (same ▸ found)
  · have there : u.mSessionManager.getSession id = some (session.setState .disconnected) := by
      rw [marked]
      exact SessionManager.getSession_store_self _ _ _
    exact (held_of_found there).trans rfl

theorem disconnectMoments_kept {m : IOUringModel} {id : SessionID} {session : Session Fd}
    (found : m.mSessionManager.getSession id = some session) :
    ∀ x ∈ m.disconnectMoments id, x.session = id ∧
      (sessionLock id).held x.state = (sessionLock id).held m ∧ x.doing ≠ .unlock := by
  obtain ⟨told, used, closed, moments, table, _⟩ := disconnectMoments_eq found
  have kept : ∀ u ∈ [told, used, closed], (sessionLock id).held u = (sessionLock id).held m := by
    intro u member
    rw [held_of_table found (Or.inr (table u member)), held_of_found found]
  rw [List.forall_mem_cons, List.forall_mem_cons, List.forall_mem_singleton] at kept
  rw [moments, List.forall_mem_cons]
  refine ⟨⟨rfl, rfl, by simp⟩, ?_⟩
  split
  · exact List.forall_mem_nil _
  · rw [List.forall_mem_append, List.forall_mem_cons, List.forall_mem_cons,
      List.forall_mem_singleton]
    refine ⟨?_, ⟨rfl, kept.2.1, by simp⟩, ⟨rfl, kept.2.2, by simp⟩, ⟨rfl, kept.2.2, by simp⟩⟩
    split
    · rw [List.forall_mem_singleton]
      exact ⟨rfl, kept.1, by simp⟩
    · exact List.forall_mem_nil _

theorem receiveMoments_clear {m : IOUringModel} {id : SessionID} {session : Session Fd}
    (found : m.mSessionManager.getSession id = some session) (result : Int32)
    (received : List UInt8) :
    LocksClear sessionLock mSessionManager m (m.receiveMoments id result received) := by
  apply clear_of_kept id
  unfold receiveMoments
  simp only [found]
  rw [List.forall_mem_cons]
  refine ⟨⟨rfl, rfl, by simp⟩, ?_⟩
  split
  · exact List.forall_mem_nil _
  · split
    · rw [List.forall_mem_append, List.forall_mem_singleton]
      refine ⟨?_, rfl, rfl, by simp⟩
      split
      · rw [List.forall_mem_singleton]
        exact ⟨rfl, rfl, by simp⟩
      · exact List.forall_mem_nil _
    · exact disconnectMoments_kept found

theorem sendSection_stays {m m' : IOUringModel} {id : SessionID} {session : Session Fd}
    (found : m.mSessionManager.getSession id = some session)
    (held : session.mLock.mFlag = true) {result : Int32} (positive : 0 < result)
    {a : SubmitAnswers} (sent : m.sendSection id result a = .done () m') :
    id ∈ m'.mSessionManager.mSessions := by
  unfold sendSection at sent
  simp only [found] at sent
  rw [if_pos positive] at sent
  split at sent
  · rw [submitSend_stuck (getSession_setSession id (session.skipSent _) m) held] at sent
    cases sent
  · cases sent
    exact SessionManager.mem_of_getSession (getSession_setSession id _ _)

theorem sent_section_clear {start m : IOUringModel} {id : SessionID} {session : Session Fd}
    (found : m.mSessionManager.getSession id = some session)
    (held : session.mLock.mFlag = true) {result : Int32} (positive : 0 < result)
    (a : SubmitAnswers) : LocksClear sessionLock mSessionManager start
      ((m.sendSection id result a).followed fun _ m => [⟨.unlock, id, m⟩]) := by
  cases sent : m.sendSection id result a with
  | done _ m' => exact clear_unlock_iff.mpr (sendSection_stays found held positive sent)
  | stuck _ => exact clear_of_uses (List.forall_mem_nil _)
  | undefined => exact clear_of_uses (List.forall_mem_nil _)

theorem sendSection_failed {m : IOUringModel} {id : SessionID} {session : Session Fd}
    (found : m.mSessionManager.getSession id = some session) {result : Int32}
    (failed : ¬0 < result) (a : SubmitAnswers) : m.sendSection id result a =
      processDisconnect id (m.setSession id (session.setSending false)) := by
  simp only [sendSection, found]
  rw [if_neg failed]

/- A send completion that failed disconnects the session under the lock. -/
theorem failed_section_clear_iff {start m : IOUringModel} {id : SessionID} {session : Session Fd}
    (found : m.mSessionManager.getSession id = some session)
    (held : session.mLock.mFlag = true) (free : (sessionLock id).held start = false)
    {result : Int32} (failed : ¬0 < result) (a : SubmitAnswers) :
    LocksClear sessionLock mSessionManager start
      ((m.setSession id (session.setSending false)).disconnectMoments id ++
        (m.sendSection id result a).followed fun _ m => [⟨.unlock, id, m⟩]) ↔
      session.isDisconnected = true := by
  have idle := getSession_setSession id (session.setSending false) m
  obtain ⟨told, used, closed, moments, table, left⟩ := disconnectMoments_eq idle
  have same : (session.setSending false).isDisconnected = session.isDisconnected := rfl
  rw [sendSection_failed found failed, left, moments, same, clear_append_iff]
  cases gone : session.isDisconnected with
  | true =>
    apply iff_of_true _ rfl
    refine ⟨clear_of_uses ?_, clear_unlock_iff.mpr (SessionManager.mem_of_getSession idle)⟩
    rw [if_pos rfl, List.forall_mem_singleton]
  | false =>
    apply iff_of_false _ (by simp)
    rintro ⟨clear, _⟩
    refine not_clear_of_held (x := ⟨.removeSession, id, closed⟩) (by simp) rfl free ?_ clear
    exact (held_of_table idle (Or.inr (table closed (by simp)))).trans held

theorem sendMoments_clear_iff {m : IOUringModel} {id : SessionID} {session : Session Fd}
    (found : m.mSessionManager.getSession id = some session)
    (free : session.mLock.mFlag = false) (result : Int32) (a : SubmitAnswers) :
    LocksClear sessionLock mSessionManager m (m.sendMoments id result a) ↔
      session.isDisconnected = true ∨ 0 < result := by
  have start := (held_of_found found).trans free
  have inside : ((sessionLock id).set true m).mSessionManager.getSession id =
      some (Session.lock.set true session) := by
    rw [locked_of_found found]
    exact getSession_setSession id _ m
  unfold sendMoments
  rw [start, if_neg (by simp)]
  dsimp only
  simp only [inside]
  have passed : LocksClear sessionLock mSessionManager m
      [⟨.use, id, m⟩, ⟨.use, id, (sessionLock id).set true m⟩] := by
    apply clear_of_uses
    rw [List.forall_mem_cons, List.forall_mem_singleton]
    exact ⟨rfl, rfl⟩
  change LocksClear sessionLock mSessionManager m ([⟨.use, id, m⟩,
    ⟨.use, id, (sessionLock id).set true m⟩] ++ ((if 0 < result then [] else _) ++ _)) ↔ _
  rw [clear_append_iff, iff_true_intro passed, true_and]
  by_cases positive : 0 < result
  · rw [if_pos positive]
    exact iff_of_true (sent_section_clear inside rfl positive a) (Or.inr positive)
  · rw [if_neg positive, or_iff_left positive]
    exact failed_section_clear_iff inside rfl start positive a

theorem moments_clear_iff {m : IOUringModel} {id : SessionID} {session : Session Fd}
    (found : m.mSessionManager.getSession id = some session) (handler : Handler)
    (free : handler.takesLock = true → session.mLock.mFlag = false) :
    LocksClear sessionLock mSessionManager m (m.moments id handler) ↔
      HandlerFine session handler := by
  cases handler with
  | receive result received =>
    exact iff_of_true (receiveMoments_clear found result received) trivial
  | send result answers => exact sendMoments_clear_iff found (free rfl) result answers
  | disconnect => exact iff_of_true (clear_of_kept id (disconnectMoments_kept found)) trivial

end IOUringModel

/-- The handlers of both models call no callback of a session and destroy none under its
    lock, and unlock no session that is gone, exactly when a send handler does not get to
    ProcessDisconnect with a session to remove. A handler that takes the lock is followed
    from the end of its wait for it. -/
theorem locks_clear_iff {m : EpollServer} {id : SessionID} {session : Session Fd}
    (found : m.mSessionManager.getSession id = some session) (handler : EpollServer.Handler)
    (free : handler.takesLock = true → session.mLock.mFlag = false)
    {u : IOUringModel} {ringId : SessionID} {ringSession : Session Fd}
    (ringFound : u.mSessionManager.getSession ringId = some ringSession)
    (ringHandler : IOUringModel.Handler)
    (ringFree : ringHandler.takesLock = true → ringSession.mLock.mFlag = false) :
    (LocksClear EpollServer.sessionLock EpollServer.mSessionManager m (m.moments id handler) ↔
      EpollServer.HandlerFine session handler) ∧
    (LocksClear IOUringModel.sessionLock IOUringModel.mSessionManager u
        (u.moments ringId ringHandler) ↔ IOUringModel.HandlerFine ringSession ringHandler) :=
  ⟨EpollServer.moments_clear_iff found handler free,
    IOUringModel.moments_clear_iff ringFound ringHandler ringFree⟩

theorem idle_writable_client_clear :
    LocksClear EpollServer.sessionLock EpollServer.mSessionManager EpollServer.oneClient
      (EpollServer.oneClient.moments 1 (.send (fun _ _ => .failed) true)) ∧
    LocksClear IOUringModel.sessionLock IOUringModel.mSessionManager IOUringModel.oneClient
      (IOUringModel.oneClient.moments 1 (.send 3 ⟨true, true⟩)) := by
  have both := locks_clear_iff EpollServer.oneClient_found (.send (fun _ _ => .failed) true)
    (fun _ => rfl) IOUringModel.oneClient_found (.send 3 ⟨true, true⟩) (fun _ => rfl)
  refine ⟨both.1.mpr ?_, both.2.mpr (Or.inr (by decide))⟩
  rintro ⟨_, fails⟩
  rw [Session.outgoing_accepted] at fails
  cases fails <;> contradiction

/- The client resets the connection while a packet for it waits: send() fails, and
   ProcessSend destroys the session whose lock its guard holds. -/
theorem failed_send_destroys_held_lock :
    ∃ m, EpollServer.oneClient.send 1 waitingPacket true = .done true m ∧
      ¬LocksClear EpollServer.sessionLock EpollServer.mSessionManager m
        (m.moments 1 (.send (fun _ _ => .failed) true)) := by
  obtain ⟨m, session, queued, found, state, free, outgoing⟩ := EpollServer.oneClient_queues
  refine ⟨m, queued, ?_⟩
  rw [EpollServer.moments_clear_iff found _ fun _ => free]
  intro fine
  apply fine
  refine ⟨?_, SendFails.failed ?_ rfl rfl⟩
  · rw [Session.isDisconnected, state]
    rfl
  · rw [outgoing]
    decide

end KanchoNet
