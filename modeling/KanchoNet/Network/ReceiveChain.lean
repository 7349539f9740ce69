import KanchoNet.Network.IOUringSessions

/-!
Whether every connected session has a receive in flight. The handler of a receive
that brought data posts the next one and does not look at the answer.
-/
namespace KanchoNet
open GuardedSections LabelledRuns

section Chains
variable {Handle Context : Type}

/-- The session of a receive, and no session of another operation. -/
def readerOf (operation : Context → IOOperation) (session : Context → Option SessionID)
    (context : Context) : Option (Option SessionID) :=
  if operation context = .receive then some (session context) else none

/-- Every session in state Connected has exactly one receive in flight. -/
def AlwaysRead (table : SessionManager Handle) (readers : List (Option SessionID)) : Prop :=
  ∀ id session, table.getSession id = some session → session.isConnected = true →
    readers.count (some id) = 1

/-- All sessions are Connected with one receive in flight, and the receives in flight
    are of sessions in the table. -/
structure AllRead (table : SessionManager Handle) (readers : List (Option SessionID)) : Prop where
  connected : ∀ id session, table.getSession id = some session → session.isConnected = true
  once : ∀ id ∈ table.mSessions, readers.count (some id) = 1
  named : ∀ reader ∈ readers, ∃ id ∈ table.mSessions, reader = some id

/-- What the completion of a receive leaves: the next receive of the session, no
    session, or a session without one, as the guard does not hold. -/
inductive ReceiveHandled (again : Prop) (table : SessionManager Handle)
    (readers : List (Option SessionID)) :
    SessionManager Handle → List (Option SessionID) → Prop where
  | reposted {readers' : List (Option SessionID)} : again → readers'.Perm readers →
      ReceiveHandled again table readers table readers'
  | destroyed {table' : SessionManager Handle} {rest : List (Option SessionID)} {id : SessionID} :
      again → readers.Perm (some id :: rest) → table'.getSession id = none →
      (∀ other, other ≠ id → table'.getSession other = table.getSession other) →
      ReceiveHandled again table readers table' rest
  | unread {rest : List (Option SessionID)} {id : SessionID} : ¬again → id ∈ table.mSessions →
      readers.Perm (some id :: rest) → ReceiveHandled again table readers table rest

theorem allRead_alwaysRead {table : SessionManager Handle} {readers : List (Option SessionID)}
    (read : AllRead table readers) : AlwaysRead table readers := by
  intro id session found connected
  exact read.once id (SessionManager.mem_of_getSession found)

theorem unread_after {table : SessionManager Handle} {readers rest : List (Option SessionID)}
    {id : SessionID} (read : AllRead table readers) (present : id ∈ table.mSessions)
    (taken : readers.Perm (some id :: rest)) : rest.count (some id) = 0 := by
  have once := read.once id present
  rw [taken.count_eq, List.count_cons_self] at once
  omega

theorem handled_allRead {again : Prop} {table table' : SessionManager Handle}
    {readers readers' : List (Option SessionID)} (read : AllRead table readers)
    (good : again) (handled : ReceiveHandled again table readers table' readers') :
    AllRead table' readers' := by
  cases handled with
  | reposted _ same =>
    constructor
    · exact read.connected
    · intro id present
      rw [same.count_eq]
      exact read.once id present
    · intro reader member
      exact read.named reader (same.mem_iff.mp member)
  | @destroyed _ _ id _ taken gone kept =>
    have different : ∀ {other session}, table'.getSession other = some session → other ≠ id := by
      rintro other session found rfl
      cases gone.symm.trans found
    constructor
    · intro other session found
      exact read.connected other session ((kept other (different found)).symm.trans found)
    · intro other present
      obtain ⟨session, found⟩ := SessionManager.getSession_of_mem present
      have apart := different found
      have once := read.once other
        (SessionManager.mem_of_getSession ((kept other apart).symm.trans found))
      rw [taken.count_eq, List.count_cons_of_ne (by simpa using apart.symm)] at once
      exact once
    · intro reader member
      obtain ⟨other, present, rfl⟩ :=
        read.named reader (taken.mem_iff.mpr (List.mem_cons_of_mem _ member))
      obtain ⟨session, found⟩ := SessionManager.getSession_of_mem present
      have apart : other ≠ id := by
        rintro rfl
        have none := unread_after read present taken
        exact List.count_eq_zero.mp none member
      exact ⟨other, SessionManager.mem_of_getSession ((kept other apart).trans found), rfl⟩
  | unread bad _ _ => exact absurd good bad

theorem handled_unread {again : Prop} {table table' : SessionManager Handle}
    {readers readers' : List (Option SessionID)} (read : AllRead table readers)
    (bad : ¬again) (handled : ReceiveHandled again table readers table' readers') :
    ¬AlwaysRead table' readers' := by
  cases handled with
  | reposted good _ => exact absurd good bad
  | destroyed good _ _ _ => exact absurd good bad
  | @unread _ id _ present taken =>
    intro always
    obtain ⟨session, found⟩ := SessionManager.getSession_of_mem present
    have once := always id session found (read.connected id session found)
    rw [unread_after read present taken] at once
    cases once

theorem filterMap_taken {α β : Type} (f : α → Option β) {l : List α} {index : Nat} {a : α} {b : β}
    (found : l[index]? = some a) (entry : f a = some b) :
    (l.filterMap f).Perm (b :: (l.eraseIdx index).filterMap f) := by
  obtain ⟨inside, rfl⟩ := List.getElem?_eq_some_iff.mp found
  have perm := (List.getElem_cons_eraseIdx_perm inside).symm.filterMap f
  rw [List.filterMap_cons_some entry] at perm
  exact perm

theorem removed_sessions (table : SessionManager Handle) (id : SessionID)
    (session : Session Handle) :
    ((table.store id session).removeSession id).2.getSession id = none ∧
    ∀ other, other ≠ id →
      ((table.store id session).removeSession id).2.getSession other = table.getSession other := by
  constructor
  · exact SessionManager.getSession_removeSession_self _ id
  · intro other different
    rw [SessionManager.getSession_removeSession_ne _ different,
      SessionManager.getSession_store_ne _ _ different]

end Chains

namespace IOCPModel

def reader : OverlappedContext → Option (Option SessionID) := readerOf (·.operation) (·.session)

def readers (m : IOCPModel) : List (Option SessionID) := m.inflight.filterMap reader

def AlwaysRead (m : IOCPModel) : Prop := KanchoNet.AlwaysRead m.mSessionManager m.readers

def AllRead (m : IOCPModel) : Prop := KanchoNet.AllRead m.mSessionManager m.readers

def completesReceive (m : IOCPModel) : Event → Bool
  | .processIo (.completion index _ _ _) _ =>
    m.mRunning && m.inflight[index]?.any fun context => context.operation = .receive
  | _ => false

def receiveStep (m : IOCPModel) (e : Event) : Option IOCPModel :=
  if m.completesReceive e then step m e else none

def RepostsReceive (_ : IOCPModel) : Event → Prop
  | .processIo (.completion _ result bytesTransferred _) a =>
    ¬(result = false ∨ bytesTransferred = 0) → a.wsaRecv = true
  | _ => True

theorem receiveStep_some {m m' : IOCPModel} {e : Event} (next : receiveStep m e = some m') :
    ∃ index result bytesTransferred received a context,
      e = .processIo (.completion index result bytesTransferred received) a ∧
      m.inflight[index]? = some context ∧ context.operation = .receive ∧
      (handleCompletion context result bytesTransferred received a
        { m with inflight := m.inflight.eraseIdx index }).leaves = some m' := by
  unfold receiveStep at next
  split at next
  · rename_i completes
    cases e with
    | send id packet wsaSend => cases completes
    | processIo status a =>
      cases status with
      | timeout | failed => cases completes
      | completion index result bytesTransferred received =>
        rw [completesReceive, Bool.and_eq_true, Option.any_eq_true] at completes
        obtain ⟨running, context, found, kind⟩ := completes
        simp only [step] at next
        split at next
        · rw [processIo, if_neg (not_not.mpr running)] at next
          simp only [found, leaves_bind_done] at next
          exact ⟨index, result, bytesTransferred, received, a, context, rfl, found,
            of_decide_eq_true kind, next⟩
        · cases next
  · cases next

theorem receiveStep_handled {m m' : IOCPModel} {e : Event} (read : m.AllRead)
    (next : receiveStep m e = some m') :
    ReceiveHandled (m.RepostsReceive e) m.mSessionManager m.readers m'.mSessionManager
      m'.readers := by
  obtain ⟨index, result, bytesTransferred, received, a, context, rfl, found, kind, handled⟩ :=
    receiveStep_some next
  have entry : reader context = some context.session := if_pos kind
  have taken := filterMap_taken reader found entry
  obtain ⟨id, present, named⟩ := read.named context.session (taken.mem_iff.mpr List.mem_cons_self)
  obtain ⟨session, live⟩ := SessionManager.getSession_of_mem present
  have connected := read.connected id session live
  rw [named] at taken
  by_cases ends : result = false ∨ bytesTransferred = 0
  · have alive : ¬session.isDisconnected = true := by
      rw [Session.isConnected, beq_iff_eq] at connected
      simp [Session.isDisconnected, connected]
    have client : context.operation ≠ .accept := ne_accept (Or.inl kind)
    simp only [handleCompletion, if_pos ends, if_pos client, processDisconnect, named, live,
      if_neg alive] at handled
    obtain ⟨gone, kept⟩ := removed_sessions m.mSessionManager id (session.setState .disconnected)
    cases Option.some.inj handled
    exact .destroyed (fun progress => absurd ends progress) taken gone kept
  · simp only [handleCompletion, if_neg ends, kind, processReceive, named, live,
      not_true_eq_false, connected, if_false] at handled
    cases posted : a.wsaRecv with
    | true =>
      rw [posted] at handled
      cases Option.some.inj handled
      refine .reposted (fun _ => posted) ?_
      have last : reader (receiveContext id) = some (some id) := rfl
      have readers' : ((m.inflight.eraseIdx index ++ [receiveContext id]).filterMap reader) =
          (m.inflight.eraseIdx index).filterMap reader ++ [some id] := by
        rw [List.filterMap_append, List.filterMap_cons_some last, List.filterMap_nil]
      exact (readers' ▸ (List.perm_append_singleton _ _)).trans taken.symm
    | false =>
      rw [posted] at handled
      cases Option.some.inj handled
      refine .unread (fun reposts => ?_) present taken
      have again := reposts ends
      rw [posted] at again
      cases again

theorem receiveStep_allRead (m : IOCPModel) (e : Event) (m' : IOCPModel) (read : m.AllRead)
    (again : m.RepostsReceive e) (next : receiveStep m e = some m') : m'.AllRead :=
  handled_allRead read again (receiveStep_handled read next)

theorem receiveStep_unread (m : IOCPModel) (e : Event) (m' : IOCPModel) (read : m.AllRead)
    (fails : ¬m.RepostsReceive e) (next : receiveStep m e = some m') : ¬m'.AlwaysRead :=
  handled_unread read fails (receiveStep_handled read next)

end IOCPModel

namespace IOUringModel

def reader : IOUringContext → Option (Option SessionID) := readerOf (·.operation) (·.session)

def readers (m : IOUringModel) : List (Option SessionID) := m.inflight.filterMap reader

def AlwaysRead (m : IOUringModel) : Prop := KanchoNet.AlwaysRead m.mSessionManager m.readers

/-- No receive waits in the submission queue, as it would join those in flight. -/
structure AllRead (m : IOUringModel) : Prop where
  read : KanchoNet.AllRead m.mSessionManager m.readers
  prepared : m.prepared.filterMap reader = []

def completesReceive (m : IOUringModel) : Event → Bool
  | .complete index _ _ _ => m.inflight[index]?.any fun ctx => ctx.operation = .receive
  | .send _ _ _ => false

def receiveStep (m : IOUringModel) (e : Event) : Option IOUringModel :=
  if m.completesReceive e then step m e else none

def RepostsReceive (_ : IOUringModel) : Event → Prop
  | .complete _ result _ a => 0 < result → a.session.sqe = true ∧ a.session.submit = true
  | .send _ _ _ => True

theorem receiveStep_some {m m' : IOUringModel} {e : Event} (next : receiveStep m e = some m') :
    ∃ index result received a ctx t, e = .complete index result received a ∧
      m.inflight[index]? = some ctx ∧ ctx.operation = .receive ∧
      (processReceiveCompletion ctx result received a.session
        { m with inflight := m.inflight.eraseIdx index }).leaves = some t ∧
      m'.mSessionManager = t.mSessionManager ∧ m'.inflight = t.inflight ∧
      m'.prepared = t.prepared := by
  unfold receiveStep at next
  split at next
  · rename_i completes
    cases e with
    | send id packet answers => cases completes
    | complete index result received a =>
      rw [completesReceive, Option.any_eq_true] at completes
      obtain ⟨ctx, found, kind⟩ := completes
      have kind : ctx.operation = .receive := of_decide_eq_true kind
      simp only [step, found] at next
      rw [if_pos (by simp [kind])] at next
      unfold processCompletion at next
      split at next
      · cases next
      · simp only [kind] at next
        rcases bind_leaves_cases next with ⟨_, t, run, left⟩ | stuck
        · cases Option.some.inj left
          exact ⟨index, result, received, a, ctx, t, rfl, found, kind, by rw [run]; rfl,
            rfl, rfl, rfl⟩
        · exact ⟨index, result, received, a, ctx, m', rfl, found, kind, by rw [stuck]; rfl,
            rfl, rfl, rfl⟩
  · cases next

theorem submitReceive_readers (id : SessionID) (a : SubmitAnswers) {m : IOUringModel}
    (idle : m.prepared.filterMap reader = []) :
    (m.submitReceive id a).2.mSessionManager = m.mSessionManager ∧
    (a.sqe = true ∧ a.submit = true → (m.submitReceive id a).2.prepared = [] ∧
      (m.submitReceive id a).2.readers = m.readers ++ [some id]) ∧
    (¬(a.sqe = true ∧ a.submit = true) → (m.submitReceive id a).2.readers = m.readers) := by
  have last : ∀ address buffer, reader ⟨address, .receive, some id, buffer⟩ = some (some id) :=
    fun _ _ => rfl
  unfold submitReceive submitContext
  split
  · rename_i full
    exact ⟨rfl, fun both => absurd both.1 full, fun _ => rfl⟩
  · rename_i entry
    split
    · rename_i submitted
      refine ⟨rfl, fun _ => ⟨rfl, ?_⟩, fun fails => absurd ⟨not_not.mp entry, submitted⟩ fails⟩
      rw [readers, List.filterMap_append, List.filterMap_append, idle,
        List.filterMap_cons_some (last _ _)]
      rfl
    · rename_i refused
      exact ⟨rfl, fun both => absurd both.2 refused, fun _ => rfl⟩

theorem receiveStep_handled {m m' : IOUringModel} {e : Event} (all : m.AllRead)
    (next : receiveStep m e = some m') :
    ReceiveHandled (m.RepostsReceive e) m.mSessionManager m.readers m'.mSessionManager
      m'.readers ∧
    (m.RepostsReceive e → m'.prepared.filterMap reader = []) := by
  obtain ⟨read, idle⟩ := all
  obtain ⟨index, result, received, a, ctx, t, rfl, found, kind, handled, table, inflight,
    prepared⟩ := receiveStep_some next
  have entry : reader ctx = some ctx.session := if_pos kind
  have taken := filterMap_taken reader found entry
  obtain ⟨id, present, named⟩ := read.named ctx.session (taken.mem_iff.mpr List.mem_cons_self)
  obtain ⟨session, live⟩ := SessionManager.getSession_of_mem present
  have connected := read.connected id session live
  rw [named] at taken
  have readers' : m'.readers = t.readers := congrArg (List.filterMap reader) inflight
  rw [readers', table, prepared]
  simp only [processReceiveCompletion, named, live, connected, not_true_eq_false, if_false]
    at handled
  split at handled
  · rename_i data
    cases Option.some.inj handled
    obtain ⟨same, submitted, refused⟩ := submitReceive_readers id a.session
      (m := { m with
        inflight := m.inflight.eraseIdx index
        callbacks := m.callbacks.onReceive id (received.take result.toNatClampNeg) }) idle
    rw [same]
    by_cases again : a.session.sqe = true ∧ a.session.submit = true
    · obtain ⟨empty, more⟩ := submitted again
      constructor
      · refine .reposted (fun _ => again) ?_
        exact (more ▸ (List.perm_append_singleton _ _)).trans taken.symm
      · intro _
        rw [empty]
        rfl
    · constructor
      · rw [refused again]
        exact .unread (fun reposts => again (reposts data)) present taken
      · intro reposts
        exact absurd (reposts data) again
  · rename_i ends
    have alive : ¬session.isDisconnected = true := by
      rw [Session.isConnected, beq_iff_eq] at connected
      simp [Session.isDisconnected, connected]
    simp only [processDisconnect, live, if_neg alive] at handled
    obtain ⟨gone, kept⟩ := removed_sessions m.mSessionManager id (session.setState .disconnected)
    cases Option.some.inj handled
    exact ⟨.destroyed (fun data => absurd data ends) taken gone kept, fun _ => idle⟩

theorem receiveStep_allRead (m : IOUringModel) (e : Event) (m' : IOUringModel) (all : m.AllRead)
    (again : m.RepostsReceive e) (next : receiveStep m e = some m') : m'.AllRead := by
  obtain ⟨handled, prepared⟩ := receiveStep_handled all next
  exact ⟨handled_allRead all.read again handled, prepared again⟩

theorem receiveStep_unread (m : IOUringModel) (e : Event) (m' : IOUringModel) (all : m.AllRead)
    (fails : ¬m.RepostsReceive e) (next : receiveStep m e = some m') : ¬m'.AlwaysRead :=
  handled_unread all.read fails (receiveStep_handled all next).1

end IOUringModel

/-- From any sets of Connected sessions that each have one receive in flight, every
    session still Connected has one after each completion of a receive that is handled,
    if and only if the receive after one that brought data is always posted. -/
theorem receives_continue_iff {m : IOCPModel} (read : m.AllRead) (es : List IOCPModel.Event)
    {u : IOUringModel} (read' : u.AllRead) (fs : List IOUringModel.Event) :
    ((∀ t ∈ states IOCPModel.receiveStep m es, t.AlwaysRead) ↔
      ∀ x ∈ steps IOCPModel.receiveStep m es, x.1.RepostsReceive x.2) ∧
    ((∀ t ∈ states IOUringModel.receiveStep u fs, t.AlwaysRead) ↔
      ∀ x ∈ steps IOUringModel.receiveStep u fs, x.1.RepostsReceive x.2) := by
  constructor
  · exact holds_along_iff IOCPModel.receiveStep_allRead (fun _ => allRead_alwaysRead)
      IOCPModel.receiveStep_unread es m read
  · exact holds_along_iff IOUringModel.receiveStep_allRead
      (fun _ all => allRead_alwaysRead all.read) IOUringModel.receiveStep_unread fs u read'

theorem oneReader_allRead {Handle : Type} {table : SessionManager Handle}
    {session : Session Handle} (found : table.getSession 1 = some session)
    (connected : session.isConnected = true) (only : ∀ id ∈ table.mSessions, id = 1) :
    AllRead table [some 1] := by
  constructor
  · intro id session' found'
    cases only id (SessionManager.mem_of_getSession found')
    cases found.symm.trans found'
    exact connected
  · intro id present
    cases only id present
    rfl
  · intro reader member
    exact ⟨1, SessionManager.mem_of_getSession found, List.mem_singleton.mp member⟩

theorem IOCPModel.oneClient_allRead : oneClient.AllRead := by
  apply oneReader_allRead (SessionManager.getSession_store_self _ _ _) rfl
  intro id member
  exact List.mem_singleton.mp member

theorem IOUringModel.oneClient_allRead : oneClient.AllRead := by
  refine ⟨oneReader_allRead oneClient_found rfl ?_, rfl⟩
  intro id member
  exact List.mem_singleton.mp member

theorem received_bytes_read_on :
    (∀ t ∈ states IOCPModel.receiveStep IOCPModel.oneClient
        [.processIo (.completion 0 true 1 [65]) ⟨6, true, true, true, true⟩], t.AlwaysRead) ∧
    ∀ t ∈ states IOUringModel.receiveStep IOUringModel.oneClient
        [.complete 0 1 [65] ⟨⟨true, true⟩, ⟨true, true⟩⟩], t.AlwaysRead := by
  have both := receives_continue_iff IOCPModel.oneClient_allRead
    [.processIo (.completion 0 true 1 [65]) ⟨6, true, true, true, true⟩]
    IOUringModel.oneClient_allRead [.complete 0 1 [65] ⟨⟨true, true⟩, ⟨true, true⟩⟩]
  constructor
  · apply both.1.mpr
    intro x member
    rw [mem_steps_single member]
    exact fun _ => rfl
  · apply both.2.mpr
    intro x member
    rw [mem_steps_single member]
    exact fun _ => ⟨rfl, rfl⟩

/- A byte is received, and the next receive can not be posted. -/
theorem refused_receive_leaves_zombie :
    (∃ t ∈ states IOCPModel.receiveStep IOCPModel.oneClient
        [.processIo (.completion 0 true 1 [65]) ⟨6, true, true, false, true⟩], ¬t.AlwaysRead) ∧
    ∃ t ∈ states IOUringModel.receiveStep IOUringModel.oneClient
        [.complete 0 1 [65] ⟨⟨true, true⟩, ⟨false, true⟩⟩], ¬t.AlwaysRead := by
  constructor
  · have completes : IOCPModel.oneClient.completesReceive
        (.processIo (.completion 0 true 1 [65]) ⟨6, true, true, false, true⟩) = true := rfl
    obtain ⟨t, next⟩ : ∃ t, IOCPModel.receiveStep IOCPModel.oneClient
        (.processIo (.completion 0 true 1 [65]) ⟨6, true, true, false, true⟩) = some t := by
      rw [IOCPModel.receiveStep, if_pos completes, IOCPModel.step,
        if_pos IOCPModel.oneClient_completes]
      exact ⟨_, rfl⟩
    refine ⟨t, mem_states_next next (mem_states_self _ _ []), ?_⟩
    apply IOCPModel.receiveStep_unread _ _ t IOCPModel.oneClient_allRead _ next
    intro reposts
    cases reposts (by decide)
  · obtain ⟨t, next⟩ : ∃ t, IOUringModel.receiveStep IOUringModel.oneClient
        (.complete 0 1 [65] ⟨⟨true, true⟩, ⟨false, true⟩⟩) = some t := ⟨_, rfl⟩
    refine ⟨t, mem_states_next next (mem_states_self _ _ []), ?_⟩
    apply IOUringModel.receiveStep_unread _ _ t IOUringModel.oneClient_allRead _ next
    intro reposts
    cases (reposts (by decide)).1

end KanchoNet
