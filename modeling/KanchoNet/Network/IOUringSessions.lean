import KanchoNet.Network.IOCPSessions
import KanchoNet.Network.SessionLocks
import Mathlib.Data.List.Nodup

/-!
The operations of an IOUringModel and the sessions they name. No send is ever
submitted, and a session has one receive at most, so the completion that destroys
a session is the last that names it.
-/
namespace KanchoNet
open GuardedSections LabelledRuns

namespace IOUringModel

inductive Event where
  | send (id : SessionID) (packet : PacketBuffer) (answers : SubmitAnswers)
  | complete (index : Nat) (result : Int32) (received : List UInt8) (answers : CompletionAnswers)

/-- A thread stuck in Send leaves its changes to the others. A completion is of an
    operation in flight; clients are accepted while session ids have not run out. -/
def step (m : IOUringModel) : Event → Option IOUringModel
  | .send id packet answers => (m.send id packet answers).leaves
  | .complete index result received answers =>
    match m.inflight[index]? with
    | none => none
    | some ctx =>
      if ctx.operation = .accept → m.mSessionManager.mNextSessionID.toNat + 1 < 2 ^ 64 then
        (processCompletion ctx result received answers
          { m with inflight := m.inflight.eraseIdx index }).leaves
      else none

def pending (m : IOUringModel) : List IOUringContext := m.prepared ++ m.inflight

def NoneDangling (m : IOUringModel) : Prop :=
  ∀ ctx ∈ m.pending, ctx.operation = .receive ∨ ctx.operation = .send →
    ∃ id, ctx.session = some id ∧ id ∈ m.mSessionManager.mSessions

/-- Accepts and receives are pending, at most one receive for each session, and the
    next id is above all those in the table. -/
structure Reading (m : IOUringModel) : Prop where
  contexts : ∀ ctx ∈ m.pending, (ctx.operation = .accept ∧ ctx.session = none) ∨
    (ctx.operation = .receive ∧ ∃ id, ctx.session = some id ∧ id ∈ m.mSessionManager.mSessions)
  once : (m.pending.filterMap IOUringContext.session).Nodup
  ids : ∀ id ∈ m.mSessionManager.mSessions, id < m.mSessionManager.mNextSessionID

theorem reading_none_dangling {m : IOUringModel} (reading : Reading m) : NoneDangling m := by
  intro ctx member kind
  rcases reading.contexts ctx member with ⟨accept, _⟩ | ⟨_, named⟩
  · rw [accept] at kind
    rcases kind with kind | kind <;> cases kind
  · exact named

theorem named_of_pending {m : IOUringModel} (reading : Reading m) {id : SessionID}
    (member : id ∈ m.pending.filterMap IOUringContext.session) :
    id ∈ m.mSessionManager.mSessions := by
  obtain ⟨ctx, inside, named⟩ := List.mem_filterMap.mp member
  rcases reading.contexts ctx inside with ⟨_, none⟩ | ⟨_, id', named', present⟩
  · cases none.symm.trans named
  · cases named'.symm.trans named
    exact present

theorem send_frame {m m' : IOUringModel} {id : SessionID} {packet : PacketBuffer}
    {a : SubmitAnswers} (next : (send id packet a m).leaves = some m') :
    m' = m ∨ ∃ session, id ∈ m.mSessionManager.mSessions ∧ m' = m.setSession id session := by
  by_cases empty : packet.contents = []
  · rw [send_empty id a m empty] at next
    exact Or.inl (Option.some.inj next).symm
  cases found : m.mSessionManager.getSession id with
  | none =>
    rw [send_destroyed found empty] at next
    cases next
  | some session =>
    have inside := SessionManager.mem_of_getSession found
    cases free : session.mLock.mFlag with
    | true =>
      rw [send_blocked found free empty] at next
      exact Or.inl (Option.some.inj next).symm
    | false =>
      right
      rw [send_eq found free empty] at next
      dsimp only at next
      split at next
      · exact ⟨_, inside, (Option.some.inj next).symm⟩
      · split at next <;> exact ⟨_, inside, (Option.some.inj next).symm⟩

/- What keeps a model reading: the same operations, no session lost, ids in order. -/
theorem reading_of_widened {m m' : IOUringModel} (reading : Reading m)
    (same : m'.pending = m.pending)
    (kept : ∀ id ∈ m.mSessionManager.mSessions, id ∈ m'.mSessionManager.mSessions)
    (ids : ∀ id ∈ m'.mSessionManager.mSessions, id < m'.mSessionManager.mNextSessionID) :
    Reading m' := by
  constructor
  · intro ctx member
    rcases reading.contexts ctx (same ▸ member) with accept | ⟨kind, id, named, present⟩
    · exact Or.inl accept
    · exact Or.inr ⟨kind, id, named, kept id present⟩
  · rw [same]
    exact reading.once
  · exact ids

theorem setSession_reading {m : IOUringModel} (reading : Reading m) {id : SessionID}
    (inside : id ∈ m.mSessionManager.mSessions) (session : Session Fd) :
    Reading (m.setSession id session) := by
  have same : ∀ other, other ∈ (m.setSession id session).mSessionManager.mSessions ↔
      other ∈ m.mSessionManager.mSessions := fun _ => SessionManager.mem_store_iff session inside
  exact reading_of_widened reading rfl (fun other => (same other).mpr)
    fun other member => reading.ids other ((same other).mp member)

theorem submitContext_pending (operation : IOOperation) (session : Option SessionID)
    (buffer : List UInt8) (a : SubmitAnswers) (m : IOUringModel) :
    (m.submitContext operation session buffer a).2.mSessionManager = m.mSessionManager ∧
    ((m.submitContext operation session buffer a).2.pending = m.pending ∨
      ∃ ctx, ctx.operation = operation ∧ ctx.session = session ∧
        (m.submitContext operation session buffer a).2.pending.Perm (ctx :: m.pending)) := by
  unfold submitContext
  split
  · exact ⟨rfl, Or.inl rfl⟩
  · split
    all_goals refine ⟨rfl, Or.inr ⟨⟨m.nextContext, operation, session, buffer⟩, rfl, rfl, ?_⟩⟩
    · refine (List.perm_append_comm : (m.inflight ++ _).Perm _).trans ?_
      rw [List.append_assoc]
      exact List.perm_middle
    · rw [pending, List.append_assoc]
      exact List.perm_middle

theorem callbacks_submitContext (operation : IOOperation) (session : Option SessionID)
    (buffer : List UInt8) (a : SubmitAnswers) (m : IOUringModel) :
    (m.submitContext operation session buffer a).2.callbacks = m.callbacks := by
  unfold submitContext
  split
  · rfl
  · split <;> rfl

theorem submitContext_reading {m : IOUringModel} (reading : Reading m) {operation : IOOperation}
    {session : Option SessionID} (buffer : List UInt8) (a : SubmitAnswers)
    (fresh : (operation = .accept ∧ session = none) ∨ (operation = .receive ∧ ∃ id,
      session = some id ∧ id ∈ m.mSessionManager.mSessions ∧
      id ∉ m.pending.filterMap IOUringContext.session)) :
    Reading (m.submitContext operation session buffer a).2 := by
  obtain ⟨table, same | ⟨ctx, kind, named, more⟩⟩ :=
    submitContext_pending operation session buffer a m
  · constructor
    · rw [same, table]
      exact reading.contexts
    · rw [same]
      exact reading.once
    · rw [table]
      exact reading.ids
  · constructor
    · intro other member
      rw [table]
      rcases List.mem_cons.mp (more.mem_iff.mp member) with rfl | old
      · rw [kind, named]
        rcases fresh with accept | ⟨kind, id, some, present, _⟩
        · exact Or.inl accept
        · exact Or.inr ⟨kind, id, some, present⟩
      · exact reading.contexts other old
    · refine (more.filterMap _).nodup_iff.mpr ?_
      rcases fresh with ⟨_, none⟩ | ⟨_, id, some, _, absent⟩
      · rw [List.filterMap_cons_none (named.trans none)]
        exact reading.once
      · rw [List.filterMap_cons_some (named.trans some)]
        exact List.nodup_cons.mpr ⟨absent, reading.once⟩
    · rw [table]
      exact reading.ids

theorem processDisconnect_reading {m m' : IOUringModel} (reading : Reading m) {id : SessionID}
    (alone : id ∉ m.pending.filterMap IOUringContext.session)
    (next : (processDisconnect id m).leaves = some m') : Reading m' := by
  unfold processDisconnect at next
  cases found : m.mSessionManager.getSession id with
  | none => simp [found, Outcome.leaves] at next
  | some session =>
    have present := SessionManager.mem_of_getSession found
    simp only [found] at next
    split at next
    · exact Option.some.inj next ▸ reading
    · have left : ∀ other, other ∈ ((m.mSessionManager.store id
          (session.setState .disconnected)).removeSession id).2.mSessions ↔
          other ≠ id ∧ other ∈ m.mSessionManager.mSessions := fun other => by
        rw [SessionManager.mem_removeSession, SessionManager.mem_store_iff _ present]
      cases Option.some.inj next
      constructor
      · intro ctx member
        rcases reading.contexts ctx member with accept | ⟨kind, id', named, present'⟩
        · exact Or.inl accept
        · refine Or.inr ⟨kind, id', named, (left id').mpr ⟨?_, present'⟩⟩
          rintro rfl
          exact alone (List.mem_filterMap.mpr ⟨ctx, member, named⟩)
      · exact reading.once
      · intro other member
        rw [SessionManager.mNextSessionID_removeSession]
        exact reading.ids other ((left other).mp member).2

theorem processReceiveCompletion_reading {m m' : IOUringModel} (reading : Reading m)
    {ctx : IOUringContext} {id : SessionID} (named : ctx.session = some id)
    (alone : id ∉ m.pending.filterMap IOUringContext.session) {result : Int32}
    {received : List UInt8} {a : SubmitAnswers}
    (next : (processReceiveCompletion ctx result received a m).leaves = some m') :
    Reading m' := by
  simp only [processReceiveCompletion, named] at next
  cases found : m.mSessionManager.getSession id with
  | none => simp [found, Outcome.leaves] at next
  | some session =>
    simp only [found] at next
    split at next
    · exact Option.some.inj next ▸ reading
    · split at next
      · have told : Reading { m with
            callbacks := m.callbacks.onReceive id (received.take result.toNatClampNeg) } :=
          ⟨reading.contexts, reading.once, reading.ids⟩
        exact Option.some.inj next ▸ submitContext_reading told _ a
          (Or.inr ⟨rfl, id, rfl, SessionManager.mem_of_getSession found, alone⟩)
      · exact processDisconnect_reading reading alone next

theorem added_reading {m : IOUringModel} (reading : Reading m)
    (room : m.mSessionManager.mNextSessionID.toNat + 1 < 2 ^ 64) {t : SessionManager Fd}
    (members : ∀ id, id ∈ t.mSessions ↔
      id = m.mSessionManager.mNextSessionID ∨ id ∈ m.mSessionManager.mSessions)
    (advanced : t.mNextSessionID = m.mSessionManager.mNextSessionID + 1)
    (sockets : AList fun _ : Fd => SessionID) :
    Reading { m with mSessionManager := t, mSocketToSession := sockets } ∧
      m.mSessionManager.mNextSessionID ∉ m.pending.filterMap IOUringContext.session := by
  have above : m.mSessionManager.mNextSessionID < m.mSessionManager.mNextSessionID + 1 := by
    rw [UInt64.lt_iff_toNat_lt, SessionManager.next_toNat room]
    exact Nat.lt_succ_self _
  constructor
  · refine reading_of_widened reading rfl (fun id old => (members id).mpr (Or.inr old)) ?_
    intro id member
    change id < t.mNextSessionID
    rw [advanced]
    rcases (members id).mp member with rfl | old
    · exact above
    · exact UInt64.lt_trans (reading.ids id old) above
  · intro member
    exact UInt64.lt_irrefl _ (reading.ids _ (named_of_pending reading member))

theorem acceptClient_reading {m : IOUringModel} (reading : Reading m)
    (room : m.mSessionManager.mNextSessionID.toNat + 1 < 2 ^ 64) (clientSocket : Fd)
    (a : SubmitAnswers) : Reading (acceptClient clientSocket a m) := by
  unfold acceptClient
  rcases SessionManager.addSession_cases m.mSessionManager clientSocket .default with
    full | ⟨t, added, advanced, members⟩
  · rw [full]
    exact ⟨reading.contexts, reading.once, reading.ids⟩
  · have inside := (members m.mSessionManager.mNextSessionID).mpr (Or.inl rfl)
    obtain ⟨widened, unnamed⟩ := added_reading reading room
      (t := t.store m.mSessionManager.mNextSessionID
        (Session.accepted m.mSessionManager.mNextSessionID clientSocket .default))
      (fun id => (SessionManager.mem_store_iff _ inside).trans (members id)) advanced
      (m.mSocketToSession.insert clientSocket m.mSessionManager.mNextSessionID)
    have received := submitContext_reading widened
      (List.replicate DEFAULT_BUFFER_SIZE.toNat 0) a (Or.inr ⟨rfl, _, rfl,
        (SessionManager.mem_store_iff _ inside).mpr inside, unnamed⟩)
    rw [added]
    dsimp only
    split
    · exact ⟨received.contexts, received.once, received.ids⟩
    · exact ⟨received.contexts, received.once, received.ids⟩

theorem processAcceptCompletion_reading {m : IOUringModel} (reading : Reading m)
    (room : m.mSessionManager.mNextSessionID.toNat + 1 < 2 ^ 64) (result : Int32)
    (a : CompletionAnswers) : Reading (processAcceptCompletion result a m) := by
  have rearmed := submitContext_reading reading [] a.accept (Or.inl ⟨rfl, rfl⟩)
  have table := (submitContext_pending .accept none [] a.accept m).1
  unfold processAcceptCompletion
  dsimp only
  split
  · exact rearmed
  · refine acceptClient_reading rearmed ?_ _ _
    rw [table]
    exact room

theorem dequeued_reading {m : IOUringModel} (reading : Reading m) {index : Nat}
    {ctx : IOUringContext} (found : m.inflight[index]? = some ctx) :
    Reading { m with inflight := m.inflight.eraseIdx index } ∧
    ∀ id, ctx.session = some id →
      id ∉ (m.prepared ++ m.inflight.eraseIdx index).filterMap IOUringContext.session := by
  obtain ⟨inside, rfl⟩ := List.getElem?_eq_some_iff.mp found
  have split : m.pending.Perm (m.inflight[index] :: (m.prepared ++ m.inflight.eraseIdx index)) :=
    ((List.getElem_cons_eraseIdx_perm inside).symm.append_left m.prepared).trans List.perm_middle
  have once := (split.filterMap IOUringContext.session).nodup_iff.mp reading.once
  constructor
  · constructor
    · intro other member
      exact reading.contexts other (split.mem_iff.mpr (List.mem_cons_of_mem _ member))
    · exact once.sublist ((List.sublist_cons_self _ _).filterMap _)
    · exact reading.ids
  · intro id named
    rw [List.filterMap_cons_some named] at once
    exact (List.nodup_cons.mp once).1

theorem step_reading (m : IOUringModel) (e : Event) (m' : IOUringModel) (reading : Reading m)
    (next : step m e = some m') : Reading m' := by
  cases e with
  | send id packet answers =>
    rcases send_frame next with rfl | ⟨session, inside, rfl⟩
    · exact reading
    · exact setSession_reading reading inside session
  | complete index result received answers =>
    simp only [step] at next
    split at next
    · cases next
    · rename_i ctx found
      split at next
      · rename_i room
        obtain ⟨rest, alone⟩ := dequeued_reading reading found
        unfold processCompletion at next
        split at next
        · cases next
        · rcases reading.contexts ctx (List.mem_append_right _ (List.mem_of_getElem? found)) with
            ⟨kind, _⟩ | ⟨kind, id, named, _⟩
          · have accepted := processAcceptCompletion_reading rest (room kind) result answers
            simp only [kind] at next
            exact Option.some.inj next ▸ ⟨accepted.contexts, accepted.once, accepted.ids⟩
          · simp only [kind] at next
            cases run : processReceiveCompletion ctx result received answers.session
                { m with inflight := m.inflight.eraseIdx index } with
            | undefined => simp [run, Outcome.bind, Outcome.leaves] at next
            | stuck m₂ =>
              have kept : Reading m₂ := processReceiveCompletion_reading rest named
                (alone id named) (by rw [run]; rfl)
              rw [run] at next
              exact Option.some.inj next ▸ kept
            | done value m₂ =>
              have kept : Reading m₂ := processReceiveCompletion_reading rest named
                (alone id named) (by rw [run]; rfl)
              rw [run] at next
              exact Option.some.inj next ▸ ⟨kept.contexts, kept.once, kept.ids⟩
      · cases next

end IOUringModel

/-- Operations and the sessions they name, in runs of a serving IOCPModel and of a
    reading IOUringModel. For the first, an operation never outlives its session
    exactly when each failed or empty completion is the last that names its session;
    for the second it never does. -/
theorem operations_outlived_iff {m : IOCPModel} (serving : m.Serving)
    (es : List IOCPModel.Event) {u : IOUringModel} (reading : u.Reading)
    (fs : List IOUringModel.Event) :
    ((∀ t ∈ states IOCPModel.step m es, t.NoneDangling) ↔
      ∀ x ∈ steps IOCPModel.step m es, x.1.LastOfSession x.2) ∧
    ∀ t ∈ states IOUringModel.step u fs, t.NoneDangling :=
  ⟨holds_along_iff IOCPModel.step_serving IOCPModel.serving_none_dangling
      IOCPModel.step_dangles es m serving,
    fun t member => IOUringModel.reading_none_dangling
      (invariant_of_kept IOUringModel.step_reading fs u reading t member)⟩

def IOCPModel.oneClient : IOCPModel :=
  { initialized 3 100 ⟨true, true, true, []⟩ with
    mRunning := true
    mSessionManager := (SessionManager.construct 100).store 1 (Session.accepted 1 9 .default)
    inflight := [receiveContext 1] }

theorem IOCPModel.oneClient_serving : oneClient.Serving where
  running := rfl
  sessions id session found := by
    rcases SessionManager.store_cases found with ⟨rfl, rfl⟩ | ⟨_, before⟩
    · exact ⟨rfl, rfl, rfl⟩
    · cases before
  contexts context member := by
    rw [List.mem_singleton.mp member]
    exact Or.inr ⟨Or.inl rfl, 1, rfl, by decide⟩

theorem IOCPModel.oneClient_completes :
    oneClient.completes (.completion 0 true 1 [65]) = true := by
  have receiving : oneClient.inflight[0]? = some (receiveContext 1) := rfl
  have buffer : (receiveContext 1).wsaBuf.length = DEFAULT_BUFFER_SIZE.toNat :=
    List.length_replicate
  rw [completes, receiving, Option.any_some, buffer]
  decide

theorem IOUringModel.oneClient_reading : oneClient.Reading where
  contexts ctx member := by
    rw [List.mem_singleton.mp member]
    exact Or.inr ⟨rfl, 1, rfl, by decide⟩
  once := List.nodup_singleton _
  ids id member := by
    rw [List.mem_singleton.mp member]
    decide

theorem received_byte_keeps_session :
    (∀ t ∈ states IOCPModel.step IOCPModel.oneClient
        [.processIo (.completion 0 true 1 [65]) ⟨6, true, true, true, true⟩], t.NoneDangling) ∧
    ∀ t ∈ states IOUringModel.step IOUringModel.oneClient
        [.complete 0 0 [] ⟨⟨true, true⟩, ⟨true, true⟩⟩], t.NoneDangling := by
  have both := operations_outlived_iff IOCPModel.oneClient_serving
    [.processIo (.completion 0 true 1 [65]) ⟨6, true, true, true, true⟩]
    IOUringModel.oneClient_reading [.complete 0 0 [] ⟨⟨true, true⟩, ⟨true, true⟩⟩]
  refine ⟨both.1.mpr fun x member => ?_, both.2⟩
  rw [mem_steps_single member]
  rintro (failed | empty)
  · cases failed
  · cases empty

/- A client that has a send in flight when its receive fails. -/
theorem failed_receive_orphans_send :
    ∃ t ∈ states IOCPModel.step IOCPModel.oneClient
        [.send 1 (PacketBuffer.ofBytes [1, 2, 3] 3 (by decide)) true,
          .processIo (.completion 0 false 0 []) ⟨6, true, true, true, true⟩],
      ¬t.NoneDangling := by
  have found : IOCPModel.oneClient.mSessionManager.getSession 1 =
      some (Session.accepted 1 9 .default) := SessionManager.getSession_store_self _ _ _
  have fits : (PacketBuffer.ofBytes [1, 2, 3] 3 (by decide)).contents.length ≤
      (Session.accepted 1 (9 : SOCKET) .default).freeSpace := by
    rw [Session.freeSpace_accepted]
    decide
  obtain ⟨m, wsaBuf, posted, inflight⟩ := IOCPModel.send_posts found rfl rfl (by decide) fits
  have sent : IOCPModel.step IOCPModel.oneClient
      (.send 1 (PacketBuffer.ofBytes [1, 2, 3] 3 (by decide)) true) = some m := by
    rw [IOCPModel.step, posted, Outcome.leaves]
  have serving := IOCPModel.step_serving _ (.send _ _ _) m IOCPModel.oneClient_serving trivial sent
  have receiving : m.inflight[0]? = some (receiveContext 1) := by
    rw [inflight]
    rfl
  have sending : sendContext 1 wsaBuf ∈ m.inflight.eraseIdx 0 := by
    rw [inflight]
    exact List.mem_singleton_self _
  obtain ⟨t, failed⟩ :=
    IOCPModel.step_failed_some serving receiving [] ⟨6, true, true, true, true⟩
  refine ⟨t, mem_states_next sent (mem_states_next failed (mem_states_self _ _ _)),
    IOCPModel.step_dangles m _ t serving (fun last => ?_) failed⟩
  cases last (Or.inl rfl) _ receiving _ sending rfl

end KanchoNet
