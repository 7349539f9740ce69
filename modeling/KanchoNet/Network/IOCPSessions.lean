import KanchoNet.Network.IOCPModel
import KanchoNet.Lib.LabelledRuns

/-!
The operations in flight of an IOCPModel and the sessions they name. A failed or
empty completion destroys its session, whatever else is in flight for it.
-/
namespace KanchoNet.IOCPModel
open GuardedSections LabelledRuns

inductive Event where
  | send (id : SessionID) (packet : PacketBuffer) (wsaSend : Bool)
  | processIo (status : QueuedStatus) (answers : ProcessAnswers)

/-- Windows completes an operation in flight, for at most the bytes it was posted
    with; an AcceptEx is posted with none. -/
def completes (m : IOCPModel) : QueuedStatus → Bool
  | .completion index _ bytesTransferred _ =>
    m.inflight[index]?.any fun context => bytesTransferred.toNat ≤ context.wsaBuf.length
  | _ => true

def step (m : IOCPModel) : Event → Option IOCPModel
  | .send id packet wsaSend => (m.send id packet wsaSend).leaves
  | .processIo status answers =>
    if m.completes status then (m.processIo status answers).leaves else none

def NoneDangling (m : IOCPModel) : Prop :=
  ∀ context ∈ m.inflight, context.operation = .receive ∨ context.operation = .send →
    ∃ id, context.session = some id ∧ id ∈ m.mSessionManager.mSessions

/-- A failed or empty completion of a session is handled only when nothing else in
    flight names the session. -/
def LastOfSession (m : IOCPModel) : Event → Prop
  | .send _ _ _ => True
  | .processIo (.completion index result bytesTransferred _) _ =>
    result = false ∨ bytesTransferred = 0 → ∀ context, m.inflight[index]? = some context →
      ∀ other ∈ m.inflight.eraseIdx index, other.session = context.session →
        context.session = none
  | .processIo _ _ => True

/-- A running model whose sessions are connected and unlocked, with nothing in flight
    but AcceptEx calls and operations of sessions in the table. -/
structure Serving (m : IOCPModel) : Prop where
  running : m.mRunning = true
  sessions : ∀ id session, m.mSessionManager.getSession id = some session →
    session.mID = id ∧ session.mState = .connected ∧ session.mLock.mFlag = false
  contexts : ∀ context ∈ m.inflight, (∃ socket, context = acceptContext socket) ∨
    (context.operation = .receive ∨ context.operation = .send) ∧
      ∃ id, context.session = some id ∧ id ∈ m.mSessionManager.mSessions

theorem ne_accept {operation : IOOperation}
    (kind : operation = .receive ∨ operation = .send) : operation ≠ .accept := by
  rcases kind with rfl | rfl <;> decide

theorem serving_none_dangling (m : IOCPModel) (serving : Serving m) : NoneDangling m := by
  intro context member kind
  rcases serving.contexts context member with ⟨socket, rfl⟩ | ⟨_, named⟩
  · rcases kind with kind | kind <;> cases kind
  · exact named

theorem serving_dequeued {m : IOCPModel} (serving : Serving m) (index : Nat) :
    Serving { m with inflight := m.inflight.eraseIdx index } :=
  ⟨serving.running, serving.sessions,
    fun context member => serving.contexts context (List.mem_of_mem_eraseIdx member)⟩

theorem onSession_serving {β : Type} {m : IOCPModel} (serving : Serving m) {id : SessionID}
    {session : Session SOCKET} (found : m.mSessionManager.getSession id = some session)
    {body : IOCPPeer → Outcome IOCPPeer β} {value : β} {p : IOCPPeer}
    (run : body ⟨session, m.inflight⟩ = .done value p)
    (footprint : IOCPPeer.Footprint ⟨session, m.inflight⟩ p) :
    ∃ m', m.onSession id body = .done value m' ∧ Serving m' := by
  obtain ⟨mID, connected, _⟩ := serving.sessions id session found
  obtain ⟨posted, inflight, sends⟩ := footprint.posted
  have inside := SessionManager.mem_of_getSession found
  refine ⟨{ m with
      mSessionManager := m.mSessionManager.store id p.session, inflight := p.inflight },
    by simp only [onSession, found, run, Outcome.within], serving.running, ?_, ?_⟩
  · intro other session' found'
    rcases SessionManager.store_cases found' with ⟨rfl, rfl⟩ | ⟨_, before⟩
    · exact ⟨footprint.mID.trans mID, footprint.mState.trans connected, footprint.free⟩
    · exact serving.sessions other session' before
  · intro context member
    have member : context ∈ p.inflight := member
    rw [inflight, List.mem_append] at member
    rcases member with old | new
    · rcases serving.contexts context old with accept | ⟨kind, other, named, present⟩
      · exact Or.inl accept
      · exact Or.inr ⟨kind, other, named, (SessionManager.mem_store_iff _ inside).mpr present⟩
    · obtain ⟨wsaBuf, rfl⟩ := sends context new
      exact Or.inr ⟨Or.inr rfl, id, congrArg some mID,
        (SessionManager.mem_store_iff _ inside).mpr inside⟩

theorem send_serving {m : IOCPModel} (serving : Serving m) {id : SessionID} (packet : PacketBuffer)
    (wsaSend : Bool) {session : Session SOCKET}
    (found : m.mSessionManager.getSession id = some session) :
    ∃ value m', m.send id packet wsaSend = .done value m' ∧ Serving m' := by
  obtain ⟨value, p, run, footprint⟩ := IOCPPeer.send_footprint packet wsaSend
    (p := ⟨session, m.inflight⟩) (serving.sessions id session found).2.2
  exact ⟨value, onSession_serving serving found run footprint⟩

theorem postReceive_serving {m : IOCPModel} (serving : Serving m) (wsaRecv : Bool) {id : SessionID}
    (present : id ∈ m.mSessionManager.mSessions) : Serving (m.postReceive wsaRecv id).2 := by
  unfold postReceive
  split
  · constructor
    · exact serving.running
    · exact serving.sessions
    · intro context member
      rcases List.mem_append.mp member with old | new
      · exact serving.contexts context old
      · rw [List.mem_singleton] at new
        subst new
        exact Or.inr ⟨Or.inl rfl, id, rfl, present⟩
  · exact serving

theorem processDisconnect_serving {m : IOCPModel} (serving : Serving m)
    {context : OverlappedContext} {id : SessionID} (named : context.session = some id)
    (present : id ∈ m.mSessionManager.mSessions) :
    ∃ m', m.processDisconnect context = .done () m' ∧ m'.inflight = m.inflight ∧
      id ∉ m'.mSessionManager.mSessions ∧
      ((∀ other ∈ m.inflight, other.session ≠ some id) → Serving m') := by
  obtain ⟨session, found⟩ := SessionManager.getSession_of_mem present
  have alive : session.isDisconnected = false := by
    rw [Session.isDisconnected, (serving.sessions id session found).2.1]
    rfl
  have left : ∀ other, other ∈ ((m.mSessionManager.store id
      (session.setState .disconnected)).removeSession id).2.mSessions ↔
      other ≠ id ∧ other ∈ m.mSessionManager.mSessions := fun other => by
    rw [SessionManager.mem_removeSession, SessionManager.mem_store_iff _ present]
  refine ⟨{ m with
      mSessionManager := ((m.mSessionManager.store id
        (session.setState .disconnected)).removeSession id).2
      callbacks := m.callbacks.onDisconnect id },
    by simp [processDisconnect, named, found, alive], rfl,
    fun still => ((left id).mp still).1 rfl, fun alone => ⟨serving.running, ?_, ?_⟩⟩
  · intro other session' found'
    have different : other ≠ id := ((left other).mp (SessionManager.mem_of_getSession found')).1
    rw [SessionManager.getSession_removeSession_ne _ different,
      SessionManager.getSession_store_ne _ _ different] at found'
    exact serving.sessions other session' found'
  · intro other member
    rcases serving.contexts other member with accept | ⟨kind, id', named', present'⟩
    · exact Or.inl accept
    · refine Or.inr ⟨kind, id', named', (left id').mpr ⟨?_, present'⟩⟩
      rintro rfl
      exact alone other member named'

theorem handleCompletion_progress {m : IOCPModel} (serving : Serving m)
    {context : OverlappedContext} {id : SessionID} (named : context.session = some id)
    (kind : context.operation = .receive ∨ context.operation = .send)
    (present : id ∈ m.mSessionManager.mSessions) {result : Bool} {bytesTransferred : UInt32}
    (progress : ¬(result = false ∨ bytesTransferred = 0)) (received : List UInt8)
    (a : ProcessAnswers) :
    ∃ m', handleCompletion context result bytesTransferred received a m = .done () m' ∧
      Serving m' := by
  obtain ⟨session, found⟩ := SessionManager.getSession_of_mem present
  obtain ⟨_, connected, free⟩ := serving.sessions id session found
  rw [handleCompletion, if_neg progress]
  rcases kind with kind | kind <;> rw [kind]
  · have alive : session.isConnected = true := by
      rw [Session.isConnected, connected]
      rfl
    have told : Serving { m with
        callbacks := m.callbacks.onReceive id (received.take bytesTransferred.toNat) } :=
      ⟨serving.running, serving.sessions, serving.contexts⟩
    exact ⟨_, by simp only [processReceive, named, found, alive]; rfl,
      postReceive_serving told a.wsaRecv present⟩
  · simp only [processSend, named]
    obtain ⟨p, run, footprint⟩ := IOCPPeer.processSend_footprint bytesTransferred a.wsaSend
      (p := ⟨session, m.inflight⟩) free
    exact onSession_serving serving found run footprint

theorem completion_cases {m : IOCPModel} (serving : Serving m) {index : Nat} {result : Bool}
    {bytesTransferred : UInt32} {received : List UInt8}
    (valid : m.completes (.completion index result bytesTransferred received) = true) :
    ∃ context, m.inflight[index]? = some context ∧
      ((context.operation = .accept ∧ context.session = none ∧ bytesTransferred = 0) ∨
      (context.operation = .receive ∨ context.operation = .send) ∧
        ∃ id, context.session = some id ∧ id ∈ m.mSessionManager.mSessions) := by
  rw [completes, Option.any_eq_true] at valid
  obtain ⟨context, found, short⟩ := valid
  refine ⟨context, found, ?_⟩
  rcases serving.contexts context (List.mem_of_getElem? found) with ⟨socket, rfl⟩ | named
  · refine Or.inl ⟨rfl, rfl, ?_⟩
    rw [decide_eq_true_eq] at short
    exact UInt32.toNat_inj.mp (Nat.le_zero.mp short)
  · exact Or.inr named

/-- The steps of a serving model: a Send on a session of the table, a call that finds
    no completion, or one that handles a completion. -/
theorem step_cases {m m' : IOCPModel} {e : Event} (serving : Serving m)
    (next : step m e = some m') :
    (∃ id packet wsaSend session, e = .send id packet wsaSend ∧
      m.mSessionManager.getSession id = some session ∧
      (m.send id packet wsaSend).leaves = some m') ∨
    (∃ status a, e = .processIo status a ∧ m' = m ∧ LastOfSession m e) ∨
    ∃ index result bytesTransferred received a context,
      e = .processIo (.completion index result bytesTransferred received) a ∧
      m.completes (.completion index result bytesTransferred received) = true ∧
      m.inflight[index]? = some context ∧
      (handleCompletion context result bytesTransferred received a
        { m with inflight := m.inflight.eraseIdx index }).leaves = some m' := by
  cases e with
  | send id packet wsaSend =>
    cases found : m.mSessionManager.getSession id with
    | none => simp [step, send, onSession, found, Outcome.leaves] at next
    | some session => exact Or.inl ⟨id, packet, wsaSend, session, rfl, found, next⟩
  | processIo status a =>
    cases status with
    | timeout =>
      simp [step, completes, processIo, serving.running, Outcome.leaves] at next
      exact Or.inr (Or.inl ⟨_, a, rfl, next.symm, trivial⟩)
    | failed =>
      simp [step, completes, processIo, serving.running, Outcome.leaves] at next
      exact Or.inr (Or.inl ⟨_, a, rfl, next.symm, trivial⟩)
    | completion index result bytesTransferred received =>
      simp only [step] at next
      split at next
      · rename_i valid
        obtain ⟨context, found, _⟩ := completion_cases serving valid
        refine Or.inr (Or.inr ⟨index, result, bytesTransferred, received, a, context, rfl,
          valid, found, ?_⟩)
        rw [← next, processIo, if_neg (not_not.mpr serving.running)]
        simp only [found, leaves_bind_done]
      · cases next

theorem step_serving (m : IOCPModel) (e : Event) (m' : IOCPModel) (serving : Serving m)
    (last : LastOfSession m e) (next : step m e = some m') : Serving m' := by
  rcases step_cases serving next with ⟨id, packet, wsaSend, session, rfl, found, sent⟩ |
    ⟨status, a, rfl, rfl, _⟩ |
    ⟨index, result, bytesTransferred, received, a, context, rfl, valid, found, handled⟩
  · obtain ⟨value, m₁, run, serving'⟩ := send_serving serving packet wsaSend found
    rw [run] at sent
    exact Option.some.inj sent ▸ serving'
  · exact serving
  · obtain ⟨context', found', kind⟩ := completion_cases serving valid
    cases found.symm.trans found'
    have dequeued := serving_dequeued serving index
    by_cases ends : result = false ∨ bytesTransferred = 0
    · rcases kind with ⟨accept, _, _⟩ | ⟨kind, id, named, present⟩
      · simp only [handleCompletion, if_pos ends, accept] at handled
        exact Option.some.inj handled ▸ dequeued
      · have lost := ne_accept kind
        obtain ⟨m₁, run, _, _, serving'⟩ := processDisconnect_serving dequeued named present
        simp only [handleCompletion, if_pos ends, if_pos lost, run] at handled
        refine Option.some.inj handled ▸ serving' fun other member same => ?_
        have none := last ends context found other member (same.trans named.symm)
        rw [named] at none
        cases none
    · rcases kind with ⟨_, _, empty⟩ | ⟨kind, id, named, present⟩
      · exact absurd (Or.inr empty) ends
      · obtain ⟨m₁, run, serving'⟩ := handleCompletion_progress dequeued named kind present ends
          received a
        rw [run] at handled
        exact Option.some.inj handled ▸ serving'

theorem step_dangles (m : IOCPModel) (e : Event) (m' : IOCPModel) (serving : Serving m)
    (early : ¬LastOfSession m e) (next : step m e = some m') : ¬NoneDangling m' := by
  rcases step_cases serving next with ⟨id, packet, wsaSend, session, rfl, found, sent⟩ |
    ⟨status, a, rfl, rfl, quiet⟩ |
    ⟨index, result, bytesTransferred, received, a, context, rfl, valid, found, handled⟩
  · exact absurd trivial early
  · exact absurd quiet early
  · obtain ⟨context', found', kind⟩ := completion_cases serving valid
    cases found.symm.trans found'
    simp only [LastOfSession, not_forall] at early
    obtain ⟨ends, context', found', other, member, same, named⟩ := early
    cases found.symm.trans found'
    rcases kind with ⟨_, none, _⟩ | ⟨kind, id, named, present⟩
    · exact absurd none named
    · have lost := ne_accept kind
      obtain ⟨m₁, run, inflight, absent, _⟩ :=
        processDisconnect_serving (serving_dequeued serving index) named present
      simp only [handleCompletion, if_pos ends, if_pos lost, run] at handled
      cases Option.some.inj handled
      intro holds
      rcases (serving_dequeued serving index).contexts other member with ⟨socket, rfl⟩ | ⟨kind', _⟩
      · cases same.trans named
      · obtain ⟨id', named', present'⟩ := holds other (inflight ▸ member) kind'
        cases named'.symm.trans (same.trans named)
        exact absent present'

theorem send_posts {m : IOCPModel} {id : SessionID} {session : Session SOCKET}
    (found : m.mSessionManager.getSession id = some session) (free : session.mLock.mFlag = false)
    (idle : session.mIsSending = false) {packet : PacketBuffer} (packed : packet.contents ≠ [])
    (fits : packet.contents.length ≤ session.freeSpace) :
    ∃ m' wsaBuf, m.send id packet true = .done true m' ∧
      m'.inflight = m.inflight ++ [sendContext session.mID wsaBuf] := by
  have queued := Session.outgoing_writePacket_ne_nil packed
    (Session.freeSpace_ne_zero packed fits)
  have run := IOCPPeer.send_eq true (p := ⟨session, m.inflight⟩) free packed
  dsimp only at run
  rw [if_neg (Nat.not_lt.mpr fits), if_neg (Bool.eq_false_iff.mp idle),
    IOCPPeer.postSend_posts (p := ⟨_, m.inflight⟩) queued] at run
  simp only [send, onSession, found, run]
  exact ⟨_, _, rfl, rfl⟩

theorem step_failed_some {m : IOCPModel} (serving : Serving m) {index : Nat}
    {context : OverlappedContext} (found : m.inflight[index]? = some context)
    (received : List UInt8) (a : ProcessAnswers) :
    ∃ m', step m (.processIo (.completion index false 0 received) a) = some m' := by
  have valid : m.completes (.completion index false 0 received) = true := by
    simp [completes, found]
  obtain ⟨context', found', kind⟩ := completion_cases serving valid
  cases found.symm.trans found'
  rw [step, if_pos valid, processIo, if_neg (not_not.mpr serving.running)]
  simp only [found, leaves_bind_done, handleCompletion, true_or, if_true]
  rcases kind with ⟨accept, _, _⟩ | ⟨kind, id, named, present⟩
  · rw [if_neg (not_not.mpr accept)]
    exact ⟨_, rfl⟩
  · obtain ⟨m', run, _⟩ :=
      processDisconnect_serving (serving_dequeued serving index) named present
    rw [if_pos (ne_accept kind), run]
    exact ⟨_, rfl⟩

end KanchoNet.IOCPModel
