import KanchoNet.Network.IOUringServer

/-!
The contexts of io_uring operations. A context belongs to the entry that points to it,
in the submission queue or in flight, then to the handler of its completion, and is
deallocated at the end of it. A submit that fails deallocates the context of an entry
that stays in the queue.
-/
namespace KanchoNet
open GuardedSections LabelledRuns

def SubmitFails (a : SubmitAnswers) : Prop := a.sqe = true ∧ a.submit = false

namespace IOUringModel

def entries (m : IOUringModel) : List Nat := m.pending.map IOUringContext.address

/-- Every context given out is in one place: with the handlers that hold it, with an
    entry, or deallocated. -/
structure Owned (held : List Nat) (m : IOUringModel) : Prop where
  once : (held ++ (m.entries ++ m.deallocated)).Nodup
  issued : ∀ address ∈ held ++ (m.entries ++ m.deallocated), address < m.nextContext

def EntryDangles (m : IOUringModel) : Prop := ∃ address ∈ m.entries, address ∈ m.deallocated

structure SameContexts (m m' : IOUringModel) : Prop where
  nextContext : m'.nextContext = m.nextContext
  prepared : m'.prepared = m.prepared
  inflight : m'.inflight = m.inflight
  deallocated : m'.deallocated = m.deallocated

theorem sameContexts_entries {m m' : IOUringModel} (same : SameContexts m m') :
    m'.entries = m.entries := by
  rw [entries, pending, same.prepared, same.inflight]
  rfl

theorem owned_of_same {held : List Nat} {m m' : IOUringModel} (same : SameContexts m m')
    (owned : Owned held m) : Owned held m' := by
  constructor
  · rw [sameContexts_entries same, same.deallocated]
    exact owned.once
  · rw [sameContexts_entries same, same.deallocated, same.nextContext]
    exact owned.issued

theorem dangles_of_same {m m' : IOUringModel} (same : SameContexts m m')
    (dangles : EntryDangles m) : EntryDangles m' := by
  unfold EntryDangles
  rw [sameContexts_entries same, same.deallocated]
  exact dangles

theorem submitContext_entries (operation : IOOperation) (session : Option SessionID)
    (buffer : List UInt8) (a : SubmitAnswers) (m : IOUringModel) :
    let m' := (m.submitContext operation session buffer a).2
    (a.sqe = false ∧ m' = m) ∨
    (a.sqe = true ∧ m'.entries.Perm (m.nextContext :: m.entries) ∧
      m'.nextContext = m.nextContext + 1 ∧
      m'.deallocated = m.deallocated ++ if a.submit then [] else [m.nextContext]) := by
  unfold submitContext
  dsimp only
  cases sqe : a.sqe with
  | false => exact Or.inl ⟨rfl, rfl⟩
  | true =>
    right
    rw [if_neg (by simp)]
    have added :
        ((m.prepared ++ [(⟨m.nextContext, operation, session, buffer⟩ : IOUringContext)]) ++
          m.inflight).Perm (⟨m.nextContext, operation, session, buffer⟩ :: m.pending) := by
      rw [List.append_assoc]
      exact List.perm_middle
    cases submit : a.submit with
    | true =>
      refine ⟨rfl, ?_, rfl, (List.append_nil _).symm⟩
      exact ((List.perm_append_comm.trans added).map IOUringContext.address :)
    | false => exact ⟨rfl, added.map IOUringContext.address, rfl, rfl⟩

theorem submitContext_owned {held : List Nat} {m : IOUringModel} (owned : Owned held m)
    (operation : IOOperation) (session : Option SessionID) (buffer : List UInt8)
    {a : SubmitAnswers} (fine : ¬SubmitFails a) :
    Owned held (m.submitContext operation session buffer a).2 := by
  rcases submitContext_entries operation session buffer a m with
    ⟨_, same⟩ | ⟨sqe, entries, next, deallocated⟩
  · rw [same]
    exact owned
  · have submit : a.submit = true := Bool.eq_true_of_not_eq_false fun failed => fine ⟨sqe, failed⟩
    rw [submit, if_pos rfl, List.append_nil] at deallocated
    have places : (held ++ ((m.submitContext operation session buffer a).2.entries ++
        (m.submitContext operation session buffer a).2.deallocated)).Perm
        (m.nextContext :: (held ++ (m.entries ++ m.deallocated))) := by
      rw [deallocated]
      exact ((entries.append_right _).append_left held).trans List.perm_middle
    constructor
    · rw [places.nodup_iff, List.nodup_cons]
      refine ⟨fun old => ?_, owned.once⟩
      exact Nat.lt_irrefl _ (owned.issued _ old)
    · intro address member
      rw [next]
      rcases List.mem_cons.mp (places.mem_iff.mp member) with rfl | old
      · exact Nat.lt_succ_self _
      · exact Nat.lt_succ_of_lt (owned.issued address old)

theorem submitContext_dangles {m : IOUringModel} (operation : IOOperation)
    (session : Option SessionID) (buffer : List UInt8) {a : SubmitAnswers}
    (fails : SubmitFails a) : EntryDangles (m.submitContext operation session buffer a).2 := by
  rcases submitContext_entries operation session buffer a m with
    ⟨none, _⟩ | ⟨_, entries, _, deallocated⟩
  · cases none.symm.trans fails.1
  · refine ⟨m.nextContext, entries.mem_iff.mpr List.mem_cons_self, ?_⟩
    rw [deallocated, fails.2]
    exact List.mem_append_right _ (List.mem_singleton_self _)

theorem submitContext_keeps_dangling {m : IOUringModel} (dangles : EntryDangles m)
    (operation : IOOperation) (session : Option SessionID) (buffer : List UInt8)
    (a : SubmitAnswers) : EntryDangles (m.submitContext operation session buffer a).2 := by
  rcases submitContext_entries operation session buffer a m with
    ⟨_, same⟩ | ⟨_, entries, _, deallocated⟩
  · rw [same]
    exact dangles
  · obtain ⟨address, entry, gone⟩ := dangles
    refine ⟨address, entries.mem_iff.mpr (List.mem_cons_of_mem _ entry), ?_⟩
    rw [deallocated]
    exact List.mem_append_left _ gone

def HasRoom (m : IOUringModel) : Prop :=
  ¬m.mSessionManager.mMaxSessions.toNat ≤ m.mSessionManager.getSessionCount

theorem acceptClient_contexts {held : List Nat} {m : IOUringModel} (clientSocket : Fd)
    (a : SubmitAnswers) :
    (Owned held m → (HasRoom m → ¬SubmitFails a) → Owned held (acceptClient clientSocket a m)) ∧
    (HasRoom m → SubmitFails a → EntryDangles (acceptClient clientSocket a m)) ∧
    (EntryDangles m → EntryDangles (acceptClient clientSocket a m)) := by
  by_cases full : m.mSessionManager.mMaxSessions.toNat ≤ m.mSessionManager.getSessionCount
  · rw [acceptClient_full full]
    have same : SameContexts m { m with closed := m.closed ++ [clientSocket] } :=
      ⟨rfl, rfl, rfl, rfl⟩
    exact ⟨fun owned _ => owned_of_same same owned, fun room => absurd full room,
      dangles_of_same same⟩
  · have seated : SameContexts m (m.admitted clientSocket) := ⟨rfl, rfl, rfl, rfl⟩
    have last : SameContexts
        ((m.admitted clientSocket).submitReceive m.mSessionManager.mNextSessionID a).2
        (acceptClient clientSocket a m) := by
      rw [acceptClient_room full]
      dsimp only
      split
      · exact ⟨rfl, rfl, rfl, rfl⟩
      · exact ⟨rfl, rfl, rfl, rfl⟩
    refine ⟨?_, ?_, ?_⟩
    · intro owned fine
      exact owned_of_same last
        (submitContext_owned (owned_of_same seated owned) _ _ _ (fine full))
    · intro _ fails
      exact dangles_of_same last (submitContext_dangles _ _ _ fails)
    · intro dangles
      exact dangles_of_same last
        (submitContext_keeps_dangling (dangles_of_same seated dangles) _ _ _ a)

/-- No submit fails in the handler of an accept: neither for the next accept nor, if the
    client gets a session, for its receive. -/
def AcceptFine (result : Int32) (a : CompletionAnswers) (m : IOUringModel) : Prop :=
  ¬SubmitFails a.accept ∧ (¬result < 0 → HasRoom m → ¬SubmitFails a.session)

theorem processAcceptCompletion_contexts {held : List Nat} {m : IOUringModel} (result : Int32)
    (a : CompletionAnswers) :
    (Owned held m → AcceptFine result a m → Owned held (processAcceptCompletion result a m)) ∧
    (¬AcceptFine result a m → EntryDangles (processAcceptCompletion result a m)) := by
  have table := (submitContext_pending .accept none [] a.accept m).1
  have room : HasRoom (m.submitAccept a.accept).2 ↔ HasRoom m := by
    unfold HasRoom submitAccept
    rw [table]
  have client := @acceptClient_contexts held (m.submitAccept a.accept).2 result.toBitVec a.session
  unfold processAcceptCompletion
  dsimp only
  by_cases failed : result < 0
  · rw [if_pos failed]
    constructor
    · exact fun owned fine => submitContext_owned owned _ _ _ fine.1
    · intro bad
      apply submitContext_dangles
      exact Classical.byContradiction fun fine => bad ⟨fine, fun accepted => absurd failed accepted⟩
  · rw [if_neg failed]
    constructor
    · intro owned fine
      exact client.1 (submitContext_owned owned _ _ _ fine.1)
        fun room' => fine.2 failed (room.mp room')
    · intro bad
      by_cases fails : SubmitFails a.accept
      · exact client.2.2 (submitContext_dangles _ _ _ fails)
      · have both : HasRoom m ∧ SubmitFails a.session := by
          apply Classical.byContradiction
          intro neither
          exact bad ⟨fails, fun _ room fails' => neither ⟨room, fails'⟩⟩
        exact client.2.1 (room.mpr both.1) both.2

/-- No submit fails in the handler of a receive: that of a connected session that has got
    data submits the next one. -/
def ReceiveFine (ctx : IOUringContext) (result : Int32) (a : SubmitAnswers) (m : IOUringModel) :
    Prop :=
  ∀ id session, ctx.session = some id → m.mSessionManager.getSession id = some session →
    session.isConnected = true → 0 < result → ¬SubmitFails a

theorem processDisconnect_same {m m' : IOUringModel} {id : SessionID}
    (next : (processDisconnect id m).leaves = some m') : SameContexts m m' := by
  unfold processDisconnect at next
  split at next
  · cases next
  · split at next
    · cases next
      exact ⟨rfl, rfl, rfl, rfl⟩
    · cases next
      exact ⟨rfl, rfl, rfl, rfl⟩

theorem processReceiveCompletion_contexts {held : List Nat} {m m' : IOUringModel}
    {ctx : IOUringContext} {result : Int32} {received : List UInt8} {a : SubmitAnswers}
    (next : (processReceiveCompletion ctx result received a m).leaves = some m') :
    (Owned held m → ReceiveFine ctx result a m → Owned held m') ∧
    (¬ReceiveFine ctx result a m → EntryDangles m') := by
  unfold processReceiveCompletion at next
  split at next
  · rename_i none
    cases next
    refine ⟨fun owned _ => owned, fun bad => absurd ?_ bad⟩
    intro id session named
    cases none.symm.trans named
  · rename_i id named
    split at next
    · cases next
    · rename_i session found
      have only : ReceiveFine ctx result a m ↔
          (session.isConnected = true → 0 < result → ¬SubmitFails a) := by
        constructor
        · exact fun fine => fine id session named found
        · intro fine id' session' named' found'
          cases named.symm.trans named'
          cases found.symm.trans found'
          exact fine
      rw [only]
      split at next
      · rename_i closed
        cases next
        exact ⟨fun owned _ => owned, fun bad => absurd (fun yes => absurd yes closed) bad⟩
      · rename_i connected
        split at next
        · rename_i positive
          cases next
          have told : SameContexts m { m with
              callbacks := m.callbacks.onReceive id (received.take result.toNatClampNeg) } :=
            ⟨rfl, rfl, rfl, rfl⟩
          constructor
          · exact fun owned fine => submitContext_owned (owned_of_same told owned) _ _ _
              (fine (not_not.mp connected) positive)
          · intro bad
            apply submitContext_dangles
            exact Classical.byContradiction fun fine => bad fun _ _ => fine
        · rename_i negative
          exact ⟨fun owned _ => owned_of_same (processDisconnect_same next) owned,
            fun bad => absurd (fun _ positive => absurd positive negative) bad⟩

theorem sameContexts_trans {m₁ m₂ m₃ : IOUringModel} (first : SameContexts m₁ m₂)
    (second : SameContexts m₂ m₃) : SameContexts m₁ m₃ :=
  ⟨second.nextContext.trans first.nextContext, second.prepared.trans first.prepared,
    second.inflight.trans first.inflight, second.deallocated.trans first.deallocated⟩

theorem setSession_same (id : SessionID) (session : Session Fd) (m : IOUringModel) :
    SameContexts m (m.setSession id session) := ⟨rfl, rfl, rfl, rfl⟩

theorem setLock_same (id : SessionID) (flag : Bool) (m : IOUringModel) :
    SameContexts m ((sessionLock id).set flag m) := by
  unfold sessionLock modifySession
  dsimp only
  split
  · exact ⟨rfl, rfl, rfl, rfl⟩
  · exact setSession_same _ _ _

/- A send completion never submits: SubmitSend waits for the lock its caller holds. -/
theorem processSendCompletion_same {m m' : IOUringModel} {ctx : IOUringContext} {result : Int32}
    {a : SubmitAnswers} (next : (processSendCompletion ctx result a m).leaves = some m') :
    SameContexts m m' := by
  rw [processSendCompletion_eq] at next
  split at next
  · cases next
    exact ⟨rfl, rfl, rfl, rfl⟩
  · rename_i id named
    have body : ∀ u, (((sessionLock id).set true m).sendSection id result a).leaves = some u →
        SameContexts m u := by
      intro u left
      unfold sendSection at left
      cases found : m.mSessionManager.getSession id with
      | none =>
        have same : (sessionLock id).set true m = m := by
          simp only [sessionLock, modifySession, found]
        rw [same] at left
        simp only [found] at left
        cases left
      | some session =>
        rw [locked_of_found found] at left
        simp only [getSession_setSession] at left
        split at left
        · split at left
          · rw [submitSend_stuck (getSession_setSession _ _ _) rfl] at left
            cases left
            exact ⟨rfl, rfl, rfl, rfl⟩
          · cases left
            exact ⟨rfl, rfl, rfl, rfl⟩
        · have marked := processDisconnect_same left
          exact ⟨marked.nextContext, marked.prepared, marked.inflight, marked.deallocated⟩
    rcases guarded_leaves_cases next with rfl | ⟨_, u, ran, rfl⟩ | stuck
    · exact ⟨rfl, rfl, rfl, rfl⟩
    · exact sameContexts_trans (body u (congrArg Outcome.leaves ran)) (setLock_same id false u)
    · exact body m' (congrArg Outcome.leaves stuck)

theorem send_same {m m' : IOUringModel} {id : SessionID} {packet : PacketBuffer}
    {a : SubmitAnswers} (next : (send id packet a m).leaves = some m') : SameContexts m m' := by
  rcases send_frame next with rfl | ⟨session, _, rfl⟩
  · exact ⟨rfl, rfl, rfl, rfl⟩
  · exact setSession_same _ _ _

def CompletionFine (ctx : IOUringContext) (result : Int32) (a : CompletionAnswers)
    (m : IOUringModel) : Prop :=
  (ctx.operation = .accept → AcceptFine result a m) ∧
  (ctx.operation = .receive → ReceiveFine ctx result a.session m)

def ended (ctx : IOUringContext) (m : IOUringModel) : IOUringModel :=
  { m with deallocated := m.deallocated ++ [ctx.address] }

theorem ended_owned {ctx : IOUringContext} {m : IOUringModel} (owned : Owned [ctx.address] m) :
    Owned [] (ended ctx m) := by
  have places : ([] ++ ((ended ctx m).entries ++ (ended ctx m).deallocated)).Perm
      ([ctx.address] ++ (m.entries ++ m.deallocated)) := by
    change (m.entries ++ (m.deallocated ++ [ctx.address])).Perm _
    rw [← List.append_assoc]
    exact List.perm_append_comm
  constructor
  · exact places.nodup_iff.mpr owned.once
  · intro address member
    exact owned.issued address (places.mem_iff.mp member)

theorem ended_dangles (ctx : IOUringContext) {m : IOUringModel} (dangles : EntryDangles m) :
    EntryDangles (ended ctx m) := by
  obtain ⟨address, entry, gone⟩ := dangles
  exact ⟨address, entry, List.mem_append_left _ gone⟩

/- A handler that waits for ever keeps the context it holds. -/
theorem owned_of_held {held : List Nat} {m : IOUringModel} (owned : Owned held m) :
    Owned [] m := by
  constructor
  · exact (List.nodup_append.mp owned.once).2.1
  · intro address member
    exact owned.issued address (List.mem_append_right _ member)

theorem handled_contexts {m m' : IOUringModel} {ctx : IOUringContext} {fine : Prop}
    {handler : Outcome IOUringModel Unit}
    (each : ∀ u, handler.leaves = some u →
      (Owned [ctx.address] m → fine → Owned [ctx.address] u) ∧ (¬fine → EntryDangles u))
    (left : (handler.bind fun _ m => .done () (ended ctx m)).leaves = some m') :
    (Owned [ctx.address] m → fine → Owned [] m') ∧ (¬fine → EntryDangles m') := by
  rcases bind_leaves_cases left with ⟨_, u, ran, after⟩ | stuck
  · cases after
    obtain ⟨kept, broken⟩ := each u (congrArg Outcome.leaves ran)
    constructor
    · exact fun owned fine => ended_owned (kept owned fine)
    · exact fun bad => ended_dangles ctx (broken bad)
  · obtain ⟨kept, broken⟩ := each m' (congrArg Outcome.leaves stuck)
    constructor
    · exact fun owned fine => owned_of_held (kept owned fine)
    · exact broken

theorem processCompletion_contexts {m m' : IOUringModel} {ctx : IOUringContext} {result : Int32}
    {received : List UInt8} {a : CompletionAnswers}
    (next : (processCompletion ctx result received a m).leaves = some m') :
    (Owned [ctx.address] m → CompletionFine ctx result a m → Owned [] m') ∧
    (¬CompletionFine ctx result a m → EntryDangles m') := by
  unfold processCompletion at next
  split at next
  · cases next
  · refine handled_contexts ?_ next
    intro u left
    cases operation : ctx.operation with
    | accept =>
      have only : CompletionFine ctx result a m ↔ AcceptFine result a m := by
        simp [CompletionFine, operation]
      rw [only]
      rw [operation] at left
      cases left
      exact processAcceptCompletion_contexts result a
    | receive =>
      have only : CompletionFine ctx result a m ↔ ReceiveFine ctx result a.session m := by
        simp [CompletionFine, operation]
      rw [only]
      rw [operation] at left
      exact processReceiveCompletion_contexts left
    | send =>
      have fine : CompletionFine ctx result a m := by simp [CompletionFine, operation]
      rw [operation] at left
      exact ⟨fun owned _ => owned_of_same (processSendCompletion_same left) owned,
        fun bad => absurd fine bad⟩
    | disconnect =>
      have fine : CompletionFine ctx result a m := by simp [CompletionFine, operation]
      rw [operation] at left
      cases left
      exact ⟨fun owned _ => owned, fun bad => absurd fine bad⟩

end IOUringModel

namespace IOUringServer
open IOUringModel

/-- What happens to one object: an Initialize that succeeds (one that fails submits
    nothing), StartListen, a Send from any thread, the completion of an entry in flight
    while the model runs, Shutdown. -/
inductive LifeEvent where
  | initialized (listenSocket : Fd) (maxSessions : UInt32)
  | startListen (listens : Bool) (answers : SubmitAnswers)
  | send (id : SessionID) (packet : PacketBuffer) (answers : SubmitAnswers)
  | complete (index : Nat) (result : Int32) (received : List UInt8) (answers : CompletionAnswers)
  | shutdown

def construct (callbacks : Callbacks) : IOUringServer where
  mInitialized := false
  mRunning := false
  mListenSocket := INVALID_SOCKET_HANDLE
  mRingInitialized := false
  model :=
    { mSessionManager := SessionManager.construct 0
      mSocketToSession := ∅
      callbacks := callbacks
      nextContext := 0
      prepared := []
      inflight := []
      deallocated := []
      closed := [] }

def initializeRing (listenSocket : Fd) (maxSessions : UInt32) (s : IOUringServer) :
    IOUringServer :=
  { s with
    mInitialized := true
    mListenSocket := listenSocket
    mRingInitialized := true
    model := { s.model with
      mSessionManager := SessionManager.construct maxSessions
      prepared := []
      inflight := [] } }

def lifeStep (s : IOUringServer) : LifeEvent → Option IOUringServer
  | .initialized listenSocket maxSessions =>
    if s.mInitialized then none else some (s.initializeRing listenSocket maxSessions)
  | .startListen listens answers => some (startListen listens answers s).2
  | .send id packet answers =>
    (s.model.send id packet answers).leaves.map fun model => { s with model }
  | .complete index result received answers =>
    if ¬s.mRunning then none
    else
      match s.model.inflight[index]? with
      | none => none
      | some ctx => (processCompletion ctx result received answers
          { s.model with inflight := s.model.inflight.eraseIdx index }).leaves.map
            fun model => { s with model }
  | .shutdown => some s.shutdown

def SubmitsFine (s : IOUringServer) : LifeEvent → Prop
  | .initialized _ _ => True
  | .startListen listens answers =>
    s.mInitialized = true → s.mRunning = false → listens = true → ¬SubmitFails answers
  | .send _ _ _ => True
  | .complete index result _ answers => ∀ ctx, s.model.inflight[index]? = some ctx →
      CompletionFine ctx result answers s.model
  | .shutdown => True

/-- Every context is deallocated at most once, and the entries that are prepared or in
    flight point to contexts that are not deallocated. -/
structure ContextsSafe (s : IOUringServer) : Prop where
  once : s.model.deallocated.Nodup
  pointed : ∀ ctx ∈ s.model.pending, ctx.address ∉ s.model.deallocated

theorem owned_safe {s : IOUringServer} (owned : Owned [] s.model) : ContextsSafe s := by
  have once : (s.model.entries ++ s.model.deallocated).Nodup := owned.once
  obtain ⟨_, deallocated, apart⟩ := List.nodup_append.mp once
  refine ⟨deallocated, ?_⟩
  intro ctx member gone
  exact apart _ (List.mem_map_of_mem member) _ gone rfl

theorem dangles_unsafe {s : IOUringServer} (dangles : EntryDangles s.model) : ¬ContextsSafe s := by
  obtain ⟨address, entry, gone⟩ := dangles
  obtain ⟨ctx, member, rfl⟩ := List.mem_map.mp entry
  exact fun safe => safe.pointed ctx member gone

theorem emptied_owned {m m' : IOUringModel} (owned : Owned [] m) (empty : m'.entries = [])
    (deallocated : m'.deallocated = m.deallocated) (next : m'.nextContext = m.nextContext) :
    Owned [] m' := by
  have once : (m.entries ++ m.deallocated).Nodup := owned.once
  constructor
  · rw [empty, deallocated]
    exact (List.nodup_append.mp once).2.1
  · intro address member
    rw [empty, deallocated] at member
    rw [next]
    exact owned.issued address (List.mem_append_right m.entries member)

theorem closeSessions_same (m : IOUringModel) : SameContexts m (closeSessions m) := by
  have each : ∀ (sessions : List (Session Fd)) (m : IOUringModel),
      SameContexts m (sessions.foldl (fun m session => m.closeSession session) m) := by
    intro sessions
    induction sessions with
    | nil => exact fun m => ⟨rfl, rfl, rfl, rfl⟩
    | cons session sessions ih =>
      intro m
      have closed : SameContexts m (m.closeSession session) := ⟨rfl, rfl, rfl, rfl⟩
      exact sameContexts_trans closed (ih (m.closeSession session))
  have closed := each m.mSessionManager.liveSessions m
  exact ⟨closed.nextContext, closed.prepared, closed.inflight, closed.deallocated⟩

theorem shutdown_owned {s : IOUringServer} (owned : Owned [] s.model) :
    Owned [] s.shutdown.model := by
  have closed := closeSessions_same s.model
  unfold shutdown
  split
  · exact owned
  · cases ring : s.mRingInitialized with
    | true => exact emptied_owned owned rfl closed.deallocated closed.nextContext
    | false =>
      have same := owned_of_same closed owned
      exact ⟨same.once, same.issued⟩

theorem startListen_submits {s : IOUringServer} (initialized : s.mInitialized = true)
    (stopped : s.mRunning = false) (a : SubmitAnswers) :
    (startListen true a s).2.model = (s.model.submitAccept a).2 := by
  unfold startListen
  rw [if_neg (not_not.mpr initialized), if_neg (by simp [stopped]), if_neg (by simp)]
  dsimp only
  split
  · rfl
  · rfl

theorem startListen_refuses {s : IOUringServer} {listens : Bool}
    (refused : ¬(s.mInitialized = true ∧ s.mRunning = false ∧ listens = true))
    (a : SubmitAnswers) : (startListen listens a s).2 = s := by
  unfold startListen
  split
  · rfl
  · rename_i initialized
    split
    · rfl
    · rename_i stopped
      rw [if_pos]
      intro listening
      exact refused ⟨not_not.mp initialized, Bool.eq_false_of_not_eq_true stopped, listening⟩

theorem startListen_contexts (listens : Bool) (a : SubmitAnswers) (s : IOUringServer) :
    (Owned [] s.model → SubmitsFine s (.startListen listens a) →
      Owned [] (startListen listens a s).2.model) ∧
    (¬SubmitsFine s (.startListen listens a) →
      EntryDangles (startListen listens a s).2.model) := by
  by_cases idle : s.mInitialized = true ∧ s.mRunning = false ∧ listens = true
  · obtain ⟨initialized, stopped, rfl⟩ := idle
    rw [startListen_submits initialized stopped]
    constructor
    · exact fun owned fine => submitContext_owned owned _ _ _ (fine initialized stopped rfl)
    · intro bad
      apply submitContext_dangles
      exact Classical.byContradiction fun fine => bad fun _ _ _ => fine
  · rw [startListen_refuses idle]
    refine ⟨fun owned _ => owned, fun bad => absurd ?_ bad⟩
    intro initialized stopped listening
    exact absurd ⟨initialized, stopped, listening⟩ idle

theorem dequeued_owned {m : IOUringModel} (owned : Owned [] m) {index : Nat}
    {ctx : IOUringContext} (found : m.inflight[index]? = some ctx) :
    Owned [ctx.address] { m with inflight := m.inflight.eraseIdx index } := by
  obtain ⟨inside, rfl⟩ := List.getElem?_eq_some_iff.mp found
  have taken : m.pending.Perm (m.inflight[index] :: (m.prepared ++ m.inflight.eraseIdx index)) :=
    ((List.getElem_cons_eraseIdx_perm inside).symm.append_left m.prepared).trans List.perm_middle
  have places := (taken.map IOUringContext.address).append_right m.deallocated
  exact ⟨places.nodup_iff.mp owned.once,
    fun address member => owned.issued address (places.mem_iff.mpr member)⟩

theorem lifeStep_contexts {s t : IOUringServer} {e : LifeEvent} (owned : Owned [] s.model)
    (next : lifeStep s e = some t) :
    (SubmitsFine s e → Owned [] t.model) ∧ (¬SubmitsFine s e → EntryDangles t.model) := by
  cases e with
  | initialized listenSocket maxSessions =>
    simp only [lifeStep] at next
    split at next
    · cases next
    · cases next
      exact ⟨fun _ => emptied_owned owned rfl rfl rfl, fun bad => absurd trivial bad⟩
  | startListen listens answers =>
    cases next
    have both := startListen_contexts listens answers s
    exact ⟨both.1 owned, both.2⟩
  | send id packet answers =>
    obtain ⟨model, sent, rfl⟩ := Option.map_eq_some_iff.mp next
    exact ⟨fun _ => owned_of_same (send_same sent) owned, fun bad => absurd trivial bad⟩
  | complete index result received answers =>
    simp only [lifeStep] at next
    split at next
    · cases next
    · split at next
      · cases next
      · rename_i ctx found
        obtain ⟨model, handled, rfl⟩ := Option.map_eq_some_iff.mp next
        have only : SubmitsFine s (.complete index result received answers) ↔
            CompletionFine ctx result answers
              { s.model with inflight := s.model.inflight.eraseIdx index } := by
          constructor
          · exact fun fine => fine ctx found
          · intro fine other found'
            cases found.symm.trans found'
            exact fine
        rw [only]
        have both := processCompletion_contexts handled
        exact ⟨both.1 (dequeued_owned owned found), both.2⟩
  | shutdown =>
    cases next
    exact ⟨fun _ => shutdown_owned owned, fun bad => absurd trivial bad⟩

end IOUringServer

/-- Along a run from a new object, contexts are deallocated at most once and none that an
    entry points to, exactly when no io_uring_submit fails after io_uring_get_sqe. -/
theorem contexts_safe_iff (callbacks : Callbacks) (es : List IOUringServer.LifeEvent) :
    (∀ t ∈ states IOUringServer.lifeStep (IOUringServer.construct callbacks) es,
      t.ContextsSafe) ↔
    ∀ x ∈ steps IOUringServer.lifeStep (IOUringServer.construct callbacks) es,
      x.1.SubmitsFine x.2 := by
  apply @holds_along_iff _ _ IOUringServer.lifeStep (fun s => IOUringModel.Owned [] s.model)
  · intro s e t owned fine next
    exact (IOUringServer.lifeStep_contexts owned next).1 fine
  · exact fun s owned => IOUringServer.owned_safe owned
  · intro s e t owned bad next
    exact IOUringServer.dangles_unsafe ((IOUringServer.lifeStep_contexts owned next).2 bad)
  · exact ⟨List.nodup_nil, fun address member => absurd member List.not_mem_nil⟩

/- The first accept of a server can not be submitted: its context is freed, its entry
   waits in the submission queue, and the next StartListen hands it to the kernel. -/
theorem failed_submit_dangles :
    ∃ t ∈ states IOUringServer.lifeStep (IOUringServer.construct ⟨true, true, true, []⟩)
        [.initialized 3 100, .startListen true ⟨true, false⟩, .startListen true ⟨true, true⟩],
      t.model.inflight.map IOUringContext.address = [0, 1] ∧ t.model.deallocated = [0] ∧
        ¬t.ContextsSafe := by
  refine ⟨_, List.mem_cons_of_mem _ (List.mem_cons_of_mem _
    (List.mem_cons_of_mem _ (List.mem_singleton_self _))), rfl, rfl, ?_⟩
  intro safe
  exact safe.pointed ⟨0, .accept, none, []⟩ (List.mem_cons_self) (List.mem_singleton_self _)

end KanchoNet
