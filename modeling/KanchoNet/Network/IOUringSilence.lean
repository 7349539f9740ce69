import KanchoNet.Network.IOUringWorkers

/-!
What becomes of the Sends of an IOUringModel. SubmitSend waits for the lock that Send
holds, so a Send that has put its packet stays there with the lock, and no send operation
reaches the ring.
-/
namespace KanchoNet
open GuardedSections Interleavings LabelledRuns

namespace IOUringWorkers
open IOUringModel

/-- What handlers do: no send operation is added, sessions change in their state alone,
    and a new one has an id of the counter. -/
structure Tacit (m m' : IOUringModel) : Prop where
  operations : ∀ ctx ∈ m'.pending, ctx ∈ m.pending ∨ ctx.operation ≠ .send
  counter : m.mSessionManager.mNextSessionID.toNat ≤ m'.mSessionManager.mNextSessionID.toNat
  sessions : ∀ id session', m'.mSessionManager.getSession id = some session' →
    ∃ session, (m.mSessionManager.getSession id = some session ∨
      m.mSessionManager.mNextSessionID.toNat ≤ id.toNat ∧
      id.toNat < m'.mSessionManager.mNextSessionID.toNat ∧
      ∃ socket, session = Session.accepted id socket .default) ∧
      session' = session.setState session'.mState

theorem Tacit.trans {m m' m'' : IOUringModel} (first : Tacit m m') (second : Tacit m' m'') :
    Tacit m m'' := by
  constructor
  · intro ctx member
    rcases second.operations ctx member with before | other
    · exact first.operations ctx before
    · exact Or.inr other
  · exact Nat.le_trans first.counter second.counter
  · intro id session'' found
    obtain ⟨session', from', state⟩ := second.sessions id session'' found
    rcases from' with found' | ⟨above, below, new⟩
    · obtain ⟨session, before, state'⟩ := first.sessions id session' found'
      refine ⟨session, before.imp_right ?_, state.trans (state' ▸ rfl)⟩
      rintro ⟨above, below, new⟩
      exact ⟨above, Nat.lt_of_lt_of_le below second.counter, new⟩
    · exact ⟨session', Or.inr ⟨Nat.le_trans first.counter above, below, new⟩, state⟩

theorem tacit_of_table {m m' : IOUringModel} (table : m'.mSessionManager = m.mSessionManager)
    (operations : ∀ ctx ∈ m'.pending, ctx ∈ m.pending ∨ ctx.operation ≠ .send) : Tacit m m' := by
  constructor
  · exact operations
  · rw [table]
  · intro id session' found
    exact ⟨session', Or.inl (table ▸ found), rfl⟩

theorem tacit_same {m m' : IOUringModel} (table : m'.mSessionManager = m.mSessionManager)
    (operations : m'.pending = m.pending) : Tacit m m' :=
  tacit_of_table table fun _ member => Or.inl (operations ▸ member)

theorem submitContext_tacit {operation : IOOperation} (other : operation ≠ .send)
    (session : Option SessionID) (buffer : List UInt8) (a : SubmitAnswers) (m : IOUringModel) :
    Tacit m (m.submitContext operation session buffer a).2 := by
  obtain ⟨table, same | ⟨ctx, kind, _, more⟩⟩ := submitContext_pending operation session buffer a m
  · exact tacit_same table same
  · refine tacit_of_table table fun ctx' member => ?_
    rcases List.mem_cons.mp (more.mem_iff.mp member) with rfl | before
    · exact Or.inr (kind ▸ other)
    · exact Or.inl before

theorem submitReceive_tacit (id : SessionID) (a : SubmitAnswers) (m : IOUringModel) :
    Tacit m (m.submitReceive id a).2 :=
  submitContext_tacit (by decide) _ _ a m

theorem setState_tacit {m : IOUringModel} {id : SessionID} {session : Session Fd}
    (found : m.mSessionManager.getSession id = some session) (state : SessionState) :
    Tacit m (m.setSession id (session.setState state)) := by
  constructor
  · exact fun _ member => Or.inl member
  · exact Nat.le_refl _
  · intro other session' found'
    rcases SessionManager.store_cases found' with ⟨rfl, rfl⟩ | ⟨_, before⟩
    · exact ⟨session, Or.inl found, rfl⟩
    · exact ⟨session', Or.inl before, rfl⟩

theorem removeSession_tacit {m m' : IOUringModel} {id : SessionID}
    (table : m'.mSessionManager = (m.mSessionManager.removeSession id).2)
    (operations : m'.pending = m.pending) : Tacit m m' := by
  constructor
  · exact fun _ member => Or.inl (operations ▸ member)
  · rw [table, SessionManager.mNextSessionID_removeSession]
  · intro other session' found
    rw [table] at found
    by_cases same : other = id
    · rw [same, SessionManager.getSession_removeSession_self] at found
      cases found
    · rw [SessionManager.getSession_removeSession_ne _ same] at found
      exact ⟨session', Or.inl found, rfl⟩

theorem admitted_tacit {m : IOUringModel}
    (room : m.mSessionManager.mNextSessionID.toNat + 1 < 2 ^ 64) (clientSocket : Fd) :
    Tacit m (m.admitted clientSocket) := by
  have advanced : (m.admitted clientSocket).mSessionManager.mNextSessionID.toNat =
      m.mSessionManager.mNextSessionID.toNat + 1 := SessionManager.next_toNat room
  constructor
  · exact fun _ member => Or.inl member
  · omega
  · intro id session' found
    rcases SessionManager.getSession_seat_iff.mp found with ⟨rfl, rfl⟩ | ⟨_, before⟩
    · exact ⟨_, Or.inr ⟨Nat.le_refl _, by omega, clientSocket, rfl⟩, rfl⟩
    · exact ⟨session', Or.inl before, rfl⟩

theorem acceptClient_tacit {m : IOUringModel}
    (room : m.mSessionManager.mNextSessionID.toNat + 1 < 2 ^ 64) (clientSocket : Fd)
    (a : SubmitAnswers) : Tacit m (acceptClient clientSocket a m) := by
  by_cases full : m.mSessionManager.mMaxSessions.toNat ≤ m.mSessionManager.getSessionCount
  · rw [acceptClient_full full]
    exact tacit_same rfl rfl
  · have reading : Tacit m ((m.admitted clientSocket).submitReceive
        m.mSessionManager.mNextSessionID a).2 :=
      (admitted_tacit room clientSocket).trans (submitReceive_tacit _ a _)
    rw [acceptClient_room full]
    dsimp only
    split
    · exact reading.trans (tacit_same rfl rfl)
    · exact reading.trans (tacit_same rfl rfl)

theorem disconnectUntilCallback_tacit {m : IOUringModel} {id : SessionID} {session : Session Fd}
    (found : m.mSessionManager.getSession id = some session) :
    ∃ rest m', disconnectUntilCallback id m = .done rest m' ∧ Tacit m m' := by
  simp only [disconnectUntilCallback, found]
  split
  · exact ⟨_, _, rfl, tacit_same rfl rfl⟩
  · exact ⟨_, _, rfl, (setState_tacit found .disconnected).trans (tacit_same rfl rfl)⟩

theorem untilCallback_tacit {m : IOUringModel} {ctx : IOUringContext} {result : Int32}
    {received : List UInt8} (arrives : Arrives ctx result received m)
    (other : ctx.operation ≠ .send) (a : CompletionAnswers) :
    untilCallback ctx result received a m = .undefined ∨
    ∃ rest m', untilCallback ctx result received a m = .done rest m' ∧ Tacit m m' := by
  unfold untilCallback
  cases kind : ctx.operation with
  | accept =>
    have rearmed : Tacit m (m.submitAccept a.accept).2 :=
      submitContext_tacit (by decide) none [] a.accept m
    have table := (submitContext_pending .accept none [] a.accept m).1
    right
    dsimp only
    split
    · exact ⟨_, _, rfl, rearmed⟩
    · obtain ⟨rest, ran, _⟩ := acceptUntilCallback_whole result.toBitVec a.session
        (m.submitAccept a.accept).2
      refine ⟨rest, _, ran, rearmed.trans (acceptClient_tacit ?_ _ _)⟩
      rw [submitAccept, table]
      exact arrives.1 kind
  | receive =>
    dsimp only
    cases ctx.session with
    | none => exact Or.inr ⟨_, _, rfl, tacit_same rfl rfl⟩
    | some id =>
      dsimp only
      cases found : m.mSessionManager.getSession id with
      | none => exact Or.inl rfl
      | some session =>
        right
        dsimp only
        split
        · exact ⟨_, _, rfl, tacit_same rfl rfl⟩
        · split
          · exact ⟨_, _, rfl, tacit_same rfl rfl⟩
          · exact disconnectUntilCallback_tacit found
  | send => exact absurd kind other
  | disconnect => exact Or.inr ⟨_, _, rfl, tacit_same rfl rfl⟩

theorem behindCallback_tacit {m m' : IOUringModel} {rest : Rest} {a : SubmitAnswers}
    (behind : behindCallback rest a m = some m') : Tacit m m' := by
  cases rest with
  | accept id =>
    obtain ⟨_, _, rfl⟩ := Option.map_eq_some_iff.mp behind
    exact tacit_same rfl rfl
  | receive id data =>
    obtain ⟨_, _, rfl⟩ := Option.map_eq_some_iff.mp behind
    exact submitReceive_tacit id a m
  | disconnect id =>
    obtain ⟨_, _, rfl⟩ := Option.map_eq_some_iff.mp behind
    exact removeSession_tacit rfl rfl

theorem leave_tacit {m m' : IOUringModel} {ctx : IOUringContext} {rest : Rest}
    {a : SubmitAnswers} {place : Place} (left : leave ctx rest a m = some (m', place)) :
    Tacit m m' ∧ place = .outside := by
  obtain ⟨t, behind, ended⟩ := Option.map_eq_some_iff.mp left
  cases ended
  exact ⟨(behindCallback_tacit behind).trans (tacit_same rfl rfl), rfl⟩

theorem processCompletion_cases {m m' : IOUringModel} {ctx : IOUringContext} {result : Int32}
    {received : List UInt8} {a : CompletionAnswers} {place : Place}
    (arrives : Arrives ctx result received m) (other : ctx.operation ≠ .send)
    (handled : processCompletion ctx result received a m = some (m', place)) :
    ∃ rest t, untilCallback ctx result received a m = .done rest t ∧ Tacit m t ∧
      ((rest = none ∧ m' = deallocate ctx t ∧ place = .outside) ∨
        ∃ told, rest = some told ∧
          ((told.calls t.callbacks = true ∧ m' = t ∧ place = .callback ctx told 0) ∨
            (told.calls t.callbacks = false ∧
              leave ctx told a.session t = some (m', place)))) := by
  unfold processCompletion at handled
  split at handled
  · cases handled
  · rcases untilCallback_tacit arrives other a with undefined | ⟨rest, t, ran, tacit⟩
    · rw [undefined] at handled
      cases handled
    · refine ⟨rest, t, ran, tacit, ?_⟩
      rw [ran] at handled
      cases rest with
      | none =>
        cases handled
        exact Or.inl ⟨rfl, rfl, rfl⟩
      | some told =>
        right
        dsimp only at handled
        cases set : told.calls t.callbacks with
        | true =>
          rw [if_pos set] at handled
          cases handled
          exact ⟨told, rfl, Or.inl ⟨set, rfl, rfl⟩⟩
        | false =>
          rw [if_neg (by simp [set])] at handled
          exact ⟨told, rfl, Or.inr ⟨set, handled⟩⟩

theorem processCompletion_tacit {m m' : IOUringModel} {ctx : IOUringContext} {result : Int32}
    {received : List UInt8} {a : CompletionAnswers} {place : Place}
    (arrives : Arrives ctx result received m) (other : ctx.operation ≠ .send)
    (handled : processCompletion ctx result received a m = some (m', place)) : Tacit m m' := by
  obtain ⟨rest, t, _, tacit, ⟨_, rfl, _⟩ | ⟨told, _, ⟨_, rfl, _⟩ | ⟨_, left⟩⟩⟩ :=
    processCompletion_cases arrives other handled
  · exact tacit.trans (tacit_same rfl rfl)
  · exact tacit
  · exact tacit.trans (leave_tacit left).1

theorem dequeued_tacit (m : IOUringModel) (index : Nat) :
    Tacit m { m with inflight := m.inflight.eraseIdx index } := by
  refine tacit_of_table rfl fun ctx member => Or.inl ?_
  exact List.mem_append.mpr ((List.mem_append.mp member).imp_right List.mem_of_mem_eraseIdx)

theorem move_cases {m m' : IOUringModel} {place place' : Place} {e : Event}
    (moved : move m place e = some (m', place')) :
    (∃ index result received a ctx, e = .complete index result received a ∧ place = .outside ∧
      m.inflight[index]? = some ctx ∧
      Arrives ctx result received { m with inflight := m.inflight.eraseIdx index } ∧
      processCompletion ctx result received a { m with inflight := m.inflight.eraseIdx index } =
        some (m', place')) ∨
    (∃ id packet a, e = .send id packet a ∧ (∀ rest, place ≠ .waiting rest) ∧
      sent place (m.send id packet a) = some (m', place')) ∨
    (∃ ctx rest sends a, e = .returns a ∧ place = .callback ctx rest sends ∧
      leave ctx rest a m = some (m', place')) := by
  unfold move at moved
  split at moved
  · split at moved
    · cases moved
    · rename_i index result received a _ ctx found
      split at moved
      · rename_i arrives
        exact Or.inl ⟨index, result, received, a, ctx, rfl, rfl, found, arrives, moved⟩
      · cases moved
  · exact Or.inr (Or.inl ⟨_, _, _, rfl, by simp, moved⟩)
  · exact Or.inr (Or.inl ⟨_, _, _, rfl, by simp, moved⟩)
  · exact Or.inr (Or.inr ⟨_, _, _, _, rfl, rfl, moved⟩)
  · cases moved

/-- No send operation is in the ring; the locks that are held are those of the sessions on
    which a Send is stuck, and no other session is sending. -/
structure Silent (stuck : SessionID → Prop) (m : IOUringModel) : Prop where
  operations : ∀ ctx ∈ m.pending, ctx.operation ≠ .send
  issued : ∀ id, stuck id → id.toNat < m.mSessionManager.mNextSessionID.toNat
  listed : ∀ id session, m.mSessionManager.getSession id = some session →
    id.toNat < m.mSessionManager.mNextSessionID.toNat
  locked : ∀ id session, m.mSessionManager.getSession id = some session →
    (session.mLock.mFlag = true ↔ stuck id)
  sending : ∀ id session, m.mSessionManager.getSession id = some session →
    session.mIsSending = true → stuck id

theorem silent_tacit {stuck : SessionID → Prop} {m m' : IOUringModel} (silent : Silent stuck m)
    (tacit : Tacit m m') : Silent stuck m' := by
  have unused : ∀ id, m.mSessionManager.mNextSessionID.toNat ≤ id.toNat → ¬stuck id :=
    fun id above yes => Nat.not_lt_of_le above (silent.issued id yes)
  constructor
  · intro ctx member
    rcases tacit.operations ctx member with before | other
    · exact silent.operations ctx before
    · exact other
  · exact fun id yes => Nat.lt_of_lt_of_le (silent.issued id yes) tacit.counter
  · intro id session' found
    obtain ⟨session, before | ⟨_, below, _⟩, _⟩ := tacit.sessions id session' found
    · exact Nat.lt_of_lt_of_le (silent.listed id session before) tacit.counter
    · exact below
  · intro id session' found
    obtain ⟨session, before | ⟨above, _, socket, rfl⟩, state⟩ := tacit.sessions id session' found
    · rw [state]
      exact silent.locked id session before
    · rw [state]
      exact iff_of_false Bool.false_ne_true (unused id above)
  · intro id session' found
    obtain ⟨session, before | ⟨_, _, socket, rfl⟩, state⟩ := tacit.sessions id session' found
    · rw [state]
      exact silent.sending id session before
    · rw [state]
      exact fun flag => absurd flag Bool.false_ne_true

/- The Sends on a session of a silent model. None of them returns true. -/
theorem send_cases {stuck : SessionID → Prop} {m : IOUringModel} (silent : Silent stuck m)
    {id : SessionID} {session : Session Fd}
    (found : m.mSessionManager.getSession id = some session) (packet : PacketBuffer)
    (a : SubmitAnswers) :
    (packet.contents = [] ∧ send id packet a m = .done false m) ∨
    (packet.contents ≠ [] ∧ stuck id ∧ send id packet a m = .stuck m) ∨
    (packet.contents ≠ [] ∧ ¬stuck id ∧ session.freeSpace < packet.contents.length ∧
      send id packet a m = .done false (m.setSession id (session.writePacket packet).2)) ∨
    (packet.contents ≠ [] ∧ ¬stuck id ∧ packet.contents.length ≤ session.freeSpace ∧
      send id packet a m = .stuck (m.setSession id
        (Session.lock.set true ((session.writePacket packet).2.setSending true)))) := by
  by_cases empty : packet.contents = []
  · exact Or.inl ⟨empty, send_empty id a m empty⟩
  · cases flag : session.mLock.mFlag with
    | true =>
      exact Or.inr (Or.inl ⟨empty, (silent.locked id session found).mp flag,
        send_blocked found flag empty a⟩)
    | false =>
      have free : ¬stuck id := fun yes => by
        cases flag.symm.trans ((silent.locked id session found).mpr yes)
      have idle : ¬session.mIsSending = true := by
        intro yes
        exact free (silent.sending id session found yes)
      have sent := send_eq found flag empty a
      dsimp only at sent
      by_cases overflow : session.freeSpace < packet.contents.length
      · rw [if_pos overflow] at sent
        exact Or.inr (Or.inr (Or.inl ⟨empty, free, overflow, sent⟩))
      · rw [if_neg overflow, if_neg idle] at sent
        exact Or.inr (Or.inr (Or.inr ⟨empty, free, Nat.le_of_not_lt overflow, sent⟩))

theorem silent_setSession {stuck stuck' : SessionID → Prop} {m : IOUringModel}
    (silent : Silent stuck m) {id : SessionID} {session : Session Fd}
    (found : m.mSessionManager.getSession id = some session) {session' : Session Fd}
    (others : ∀ other, other ≠ id → (stuck' other ↔ stuck other))
    (locked : session'.mLock.mFlag = true ↔ stuck' id)
    (sending : session'.mIsSending = true → stuck' id) :
    Silent stuck' (m.setSession id session') := by
  have listed := silent.listed id session found
  constructor
  · exact silent.operations
  · intro other yes
    by_cases same : other = id
    · exact same ▸ listed
    · exact silent.issued other ((others other same).mp yes)
  · intro other session'' found'
    rcases SessionManager.store_cases found' with ⟨rfl, _⟩ | ⟨_, before⟩
    · exact listed
    · exact silent.listed other session'' before
  · intro other session'' found'
    rcases SessionManager.store_cases found' with ⟨rfl, rfl⟩ | ⟨different, before⟩
    · exact locked
    · exact (silent.locked other session'' before).trans (others other different).symm
  · intro other session'' found' flag
    rcases SessionManager.store_cases found' with ⟨rfl, rfl⟩ | ⟨different, before⟩
    · exact sending flag
    · exact (others other different).mpr (silent.sending other session'' before flag)

theorem silent_alike {stuck stuck' : SessionID → Prop} {m : IOUringModel} (silent : Silent stuck m)
    (alike : ∀ id, stuck' id ↔ stuck id) : Silent stuck' m :=
  (funext fun id => propext (alike id) : stuck' = stuck) ▸ silent

theorem send_silent {stuck : SessionID → Prop} {m m' : IOUringModel} (silent : Silent stuck m)
    {id : SessionID} {packet : PacketBuffer} {a : SubmitAnswers}
    (left : (send id packet a m).leaves = some m') :
    Silent (fun other => stuck other ∨ other = id ∧ (send id packet a m).returns = false) m' := by
  cases found : m.mSessionManager.getSession id with
  | none =>
    by_cases empty : packet.contents = []
    · rw [send_empty id a m empty] at left ⊢
      cases left
      exact silent_alike silent (by simp [Outcome.returns])
    · rw [send_destroyed found empty] at left
      cases left
  | some session =>
    rcases send_cases silent found packet a with
      ⟨_, sent⟩ | ⟨_, yes, sent⟩ | ⟨_, free, _, sent⟩ | ⟨_, free, _, sent⟩
    · rw [sent] at left ⊢
      cases left
      exact silent_alike silent (by simp [Outcome.returns])
    · rw [sent] at left ⊢
      cases left
      refine silent_alike silent fun other => ⟨?_, Or.inl⟩
      rintro (before | ⟨rfl, _⟩)
      · exact before
      · exact yes
    · rw [sent] at left ⊢
      cases left
      refine silent_setSession silent found (by simp [Outcome.returns]) ?_ ?_
      · exact (silent.locked id session found).trans (by simp [Outcome.returns])
      · exact fun flag => Or.inl (silent.sending id session found flag)
    · rw [sent] at left ⊢
      cases left
      refine silent_setSession silent found ?_ ?_ ?_
      · intro other different
        simp [different]
      · exact iff_of_true rfl (Or.inr ⟨rfl, rfl⟩)
      · exact fun _ => Or.inr ⟨rfl, rfl⟩

theorem leaves_of_sent {o : Outcome IOUringModel Bool} {place place' : Place} {m : IOUringModel}
    (after : sent place o = some (m, place')) : o.leaves = some m := by
  cases o with
  | done value t =>
    cases after
    rfl
  | stuck t =>
    cases after
    rfl
  | undefined => cases after

variable {T : Type} [DecidableEq T]

def GetsStuck (s : Threads T IOUringModel Place) (e : T × Event) (id : SessionID) : Prop :=
  ∃ packet a, e.2 = .send id packet a ∧ (send id packet a s.shared).returns = false

theorem step_silent (stuck : SessionID → Prop) (s : Threads T IOUringModel Place) (e : T × Event)
    (s' : Threads T IOUringModel Place) (silent : Silent stuck s.shared)
    (next : step move s e = some s') :
    Silent (fun id => stuck id ∨ GetsStuck s e id) s'.shared := by
  obtain ⟨place', moved, _, _⟩ := step_cases next
  rcases move_cases moved with
    ⟨index, result, received, a, ctx, event, _, found, arrives, handled⟩ |
    ⟨id, packet, a, event, _, after⟩ | ⟨ctx, rest, sends, a, event, _, left⟩
  · have other := silent.operations ctx (List.mem_append_right _ (List.mem_of_getElem? found))
    refine silent_alike (silent_tacit silent
      ((dequeued_tacit s.shared index).trans (processCompletion_tacit arrives other handled)))
      fun id => ?_
    simp [GetsStuck, event]
  · refine silent_alike (send_silent silent (leaves_of_sent after)) fun other => ?_
    refine or_congr_right ⟨?_, ?_⟩
    · rintro ⟨packet', a', same, unreturned⟩
      cases event.symm.trans same
      exact ⟨rfl, unreturned⟩
    · rintro ⟨rfl, unreturned⟩
      exact ⟨packet, a, event, unreturned⟩
  · refine silent_alike (silent_tacit silent (leave_tacit left).1) fun id => ?_
    simp [GetsStuck, event]

theorem startListen_silent {listenSocket : Fd} {maxSessions : UInt32} {callbacks : Callbacks}
    {listens : Bool} {a : SubmitAnswers} {server : IOUringServer}
    (listening : IOUringServer.startListen listens a
      (.initialized listenSocket maxSessions callbacks) = (true, server)) :
    Silent (fun _ => False) server.model := by
  obtain ⟨_, reading, table, _⟩ := IOUringServer.startListen_reading listening
  have none : ∀ id session, server.model.mSessionManager.getSession id ≠ some session := by
    intro id session found
    rw [table] at found
    cases found
  constructor
  · intro ctx member send
    rcases reading.contexts ctx member with ⟨kind, _⟩ | ⟨kind, _⟩
    · cases kind.symm.trans send
    · cases kind.symm.trans send
  · exact fun _ => False.elim
  · exact fun id session found => absurd found (none id session)
  · exact fun id session found => absurd found (none id session)
  · exact fun id session found => absurd found (none id session)

/-- Whatever the threads of a server do and however they interleave, no send operation is
    prepared or in flight, and no Send returns true: it returns when it is given an empty
    packet, or one that does not fit where no Send has got stuck before. -/
theorem sends_nothing {listenSocket : Fd} {maxSessions : UInt32} {callbacks : Callbacks}
    {listens : Bool} {a : SubmitAnswers} {server : IOUringServer}
    (listening : IOUringServer.startListen listens a
      (.initialized listenSocket maxSessions callbacks) = (true, server))
    (es : List (T × Event)) {s : Threads T IOUringModel Place}
    (ends : run (step move) (started T server.model) es = some s) :
    (∀ ctx ∈ s.shared.pending, ctx.operation ≠ .send) ∧
    ∀ id session, s.shared.mSessionManager.getSession id = some session → ∀ packet answers,
      ((send id packet answers s.shared).returns = true ↔ packet.contents = [] ∨
        session.freeSpace < packet.contents.length ∧
        ∀ x ∈ steps (step move) (started T server.model) es, ¬GetsStuck x.1 x.2 id) ∧
      ∀ value m, send id packet answers s.shared = .done value m → value = false := by
  have silent :=
    remembered_along step_silent es (fun _ => False) (startListen_silent listening) ends
  refine ⟨silent.operations, fun id session found packet answers => ?_⟩
  rcases send_cases silent found packet answers with
    ⟨empty, sent⟩ | ⟨packed, stuck, sent⟩ | ⟨packed, free, overflow, sent⟩ |
      ⟨packed, free, fits, sent⟩
  · rw [sent]
    refine ⟨iff_of_true rfl (Or.inl empty), ?_⟩
    rintro value m ⟨⟩
    rfl
  · rw [sent]
    refine ⟨iff_of_false Bool.false_ne_true ?_, fun _ _ => nofun⟩
    rintro (empty | ⟨_, none⟩)
    · exact packed empty
    · obtain ⟨x, member, gets⟩ := stuck.resolve_left not_false
      exact none x member gets
  · rw [sent]
    constructor
    · refine iff_of_true rfl (Or.inr ⟨overflow, fun x member gets => ?_⟩)
      exact free (Or.inr ⟨x, member, gets⟩)
    · rintro value m ⟨⟩
      rfl
  · rw [sent]
    refine ⟨iff_of_false Bool.false_ne_true ?_, fun _ _ => nofun⟩
    rintro (empty | ⟨overflow, _⟩)
    · exact packed empty
    · exact Nat.not_lt_of_le fits overflow

def listeningServer : IOUringServer :=
  (IOUringServer.startListen true ⟨true, true⟩
    (.initialized 5 100 ⟨true, true, true, []⟩)).2

theorem listeningServer_listens : IOUringServer.startListen true ⟨true, true⟩
    (.initialized 5 100 ⟨true, true, true, []⟩) = (true, listeningServer) := rfl

theorem welcome_size : (2 : UInt64).toNat ≤ [(72 : UInt8), 105].length := by decide

def welcome : PacketBuffer := PacketBuffer.ofBytes [72, 105] 2 welcome_size

theorem step_keeps {s : Threads T IOUringModel Place} {t : T} {id : SessionID}
    {session : Session Fd} (found : s.shared.mSessionManager.getSession id = some session)
    (free : session.mLock.mFlag = false) (idle : session.mIsSending = false)
    {packet : PacketBuffer} (packed : packet.contents ≠ [])
    (fits : packet.contents.length ≤ session.freeSpace) (a : SubmitAnswers)
    (awake : ∀ rest, s.place t ≠ .waiting rest) :
    ∃ m, send id packet a s.shared = .stuck m ∧ id ∈ m.mSessionManager.mSessions ∧
      step move s (t, .send id packet a) =
        some ⟨m, Function.update s.place t (s.place t).blocked⟩ := by
  have gets := send_eq found free packed a
  dsimp only at gets
  rw [if_neg (Nat.not_lt_of_le fits), if_neg (by simp [idle])] at gets
  refine ⟨_, gets, SessionManager.mem_of_getSession (getSession_setSession id _ s.shared), ?_⟩
  cases place : s.place t with
  | outside | callback => simp [Interleavings.step, place, move, gets, sent]
  | waiting rest => exact absurd place (awake rest)

def greeted : List (Bool × Event) := [(true, .complete 0 9 [] ⟨⟨true, true⟩, ⟨true, true⟩⟩)]

/- That worker welcomes the client, and no other packet gets further. -/
theorem greeting_unsent :
    ∃ s, run (step move) (started Bool listeningServer.model)
        (greeted ++ [(true, .send 1 welcome ⟨true, true⟩)]) = some s ∧
      s.place true = .waiting (some (.accept 1)) ∧
      ∀ packet a, packet.contents ≠ [] → (send 1 packet a s.shared).returns = false := by
  obtain ⟨g, ctx, accepted, inside, found⟩ : ∃ (g : Threads Bool IOUringModel Place)
      (ctx : IOUringContext), step move (started Bool listeningServer.model)
        (true, .complete 0 9 [] ⟨⟨true, true⟩, ⟨true, true⟩⟩) = some g ∧
        g.place true = .callback ctx (.accept 1) 0 ∧
        g.shared.mSessionManager.getSession 1 = some (Session.accepted 1 9 .default) :=
    ⟨_, _, rfl, rfl, rfl⟩
  have fits : welcome.contents.length ≤ (Session.accepted 1 (9 : Fd) .default).freeSpace := by
    rw [Session.freeSpace_accepted]
    decide
  obtain ⟨m, gets, there, kept⟩ := step_keeps (t := true) found rfl rfl (by decide) fits
    ⟨true, true⟩ (by simp [inside])
  obtain ⟨session, found'⟩ := SessionManager.getSession_of_mem there
  have ends : run (step move) (started Bool listeningServer.model)
      (greeted ++ [(true, .send 1 welcome ⟨true, true⟩)]) =
      some ⟨m, Function.update g.place true (g.place true).blocked⟩ := by
    simp only [greeted, List.singleton_append, run, accepted, kept, Option.bind_some]
  refine ⟨_, ends, by simp [inside, Place.blocked], fun packet a packed => ?_⟩
  apply Bool.eq_false_of_not_eq_true
  intro returned
  have settled := (sends_nothing listeningServer_listens _ ends).2 1 session found' packet a
  obtain ⟨_, unstuck⟩ := (settled.1.mp returned).resolve_left packed
  refine unstuck (g, true, .send 1 welcome ⟨true, true⟩) ?_ ⟨_, _, rfl, by rw [gets]; rfl⟩
  simp [greeted, steps, accepted, kept]

end IOUringWorkers
end KanchoNet
