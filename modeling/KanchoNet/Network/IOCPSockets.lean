import KanchoNet.Network.IOUringSessions

/-!
The client sockets an IOCPModel closes. Shutdown closes those of the sessions in the
table; ProcessDisconnect takes a session out of the table and closes nothing.
-/
namespace KanchoNet
open GuardedSections LabelledRuns

namespace IOCPPeer

theorem postSend_mSocket (wsaSend : Bool) (p : IOCPPeer) :
    (postSend wsaSend p).2.session.mSocket = p.session.mSocket := by
  rw [postSend_eq]
  split
  · rfl
  · split <;> rfl

theorem send_mSocket {packet : PacketBuffer} {wsaSend : Bool} {p p' : IOCPPeer}
    (next : (send packet wsaSend p).leaves = some p') :
    p'.session.mSocket = p.session.mSocket := by
  by_cases empty : packet.contents = []
  · rw [send_empty wsaSend p empty] at next
    exact Option.some.inj next ▸ rfl
  cases free : IOCPPeer.lock.held p with
  | true =>
    have stuck : send packet wsaSend p = .stuck p := by
      rw [send, if_neg (by simp [PacketBuffer.isEmpty_eq_false empty]), guarded_of_held free]
    rw [stuck] at next
    exact Option.some.inj next ▸ rfl
  | false =>
    rw [send_eq wsaSend free empty] at next
    dsimp only at next
    split at next
    · exact Option.some.inj next ▸ rfl
    · split at next
      · exact Option.some.inj next ▸ rfl
      · exact Option.some.inj next ▸ postSend_mSocket wsaSend _

theorem processSend_mSocket {bytesTransferred : UInt32} {wsaSend : Bool} {p p' : IOCPPeer}
    (next : (processSend bytesTransferred wsaSend p).leaves = some p') :
    p'.session.mSocket = p.session.mSocket := by
  cases free : IOCPPeer.lock.held p with
  | true =>
    rw [processSend, guarded_of_held free] at next
    exact Option.some.inj next ▸ rfl
  | false =>
    rw [processSend_eq bytesTransferred wsaSend free] at next
    dsimp only at next
    split at next
    · exact Option.some.inj next ▸ rfl
    · exact Option.some.inj next ▸ postSend_mSocket wsaSend _

end IOCPPeer

namespace IOCPModel

structure SocketsKept (m m' : IOCPModel) : Prop where
  initialized : m'.mInitialized = m.mInitialized
  listenSocket : m'.mListenSocket = m.mListenSocket
  closed : m'.closed = m.closed
  sockets : ∀ id, (m'.mSessionManager.getSession id).map Session.mSocket =
    (m.mSessionManager.getSession id).map Session.mSocket

theorem SocketsKept.refl (m : IOCPModel) : SocketsKept m m := ⟨rfl, rfl, rfl, fun _ => rfl⟩

theorem SocketsKept.trans {m₁ m₂ m₃ : IOCPModel} (first : SocketsKept m₁ m₂)
    (second : SocketsKept m₂ m₃) : SocketsKept m₁ m₃ where
  initialized := second.initialized.trans first.initialized
  listenSocket := second.listenSocket.trans first.listenSocket
  closed := second.closed.trans first.closed
  sockets id := (second.sockets id).trans (first.sockets id)

theorem onSession_kept {β : Type} {m m' : IOCPModel} {id : SessionID}
    {body : IOCPPeer → Outcome IOCPPeer β}
    (mSocket : ∀ p p', (body p).leaves = some p' → p'.session.mSocket = p.session.mSocket)
    (next : (m.onSession id body).leaves = some m') : SocketsKept m m' := by
  unfold onSession at next
  split at next
  · cases next
  · rename_i session found
    rw [leaves_within] at next
    obtain ⟨p, ran, rfl⟩ := Option.map_eq_some_iff.mp next
    have sockets := SessionManager.map_getSession_store Session.mSocket found (mSocket _ p ran)
    exact { SocketsKept.refl m with sockets }

theorem postReceive_kept (wsaRecv : Bool) (id : SessionID) (m : IOCPModel) :
    SocketsKept m (m.postReceive wsaRecv id).2 := by
  unfold postReceive
  split
  · exact ⟨rfl, rfl, rfl, fun _ => rfl⟩
  · exact SocketsKept.refl m

theorem progress_kept {m m' : IOCPModel} {context : OverlappedContext} {result : Bool}
    {bytesTransferred : UInt32} {received : List UInt8} {a : ProcessAnswers}
    (kind : context.operation = .receive ∨ context.operation = .send)
    (progress : ¬(result = false ∨ bytesTransferred = 0))
    (next : (handleCompletion context result bytesTransferred received a m).leaves = some m') :
    SocketsKept m m' := by
  rw [handleCompletion, if_neg progress] at next
  rcases kind with kind | kind
  · simp only [kind] at next
    unfold processReceive at next
    split at next
    · exact Option.some.inj next ▸ SocketsKept.refl m
    · split at next
      · cases next
      · split at next
        · exact Option.some.inj next ▸ SocketsKept.refl m
        · have told : ∀ callbacks, SocketsKept m { m with callbacks } :=
            fun _ => ⟨rfl, rfl, rfl, fun _ => rfl⟩
          exact Option.some.inj next ▸ (told _).trans (postReceive_kept a.wsaRecv _ _)
  · simp only [kind] at next
    unfold processSend at next
    split at next
    · exact Option.some.inj next ▸ SocketsKept.refl m
    · exact onSession_kept (fun _ _ ran => IOCPPeer.processSend_mSocket ran) next

theorem processDisconnect_closed {m m' : IOCPModel} {context : OverlappedContext}
    (next : (m.processDisconnect context).leaves = some m') : m'.closed = m.closed := by
  unfold processDisconnect at next
  split at next
  · exact Option.some.inj next ▸ rfl
  · split at next
    · cases next
    · split at next <;> exact Option.some.inj next ▸ rfl

/-- Each session of the start will have had its socket closed once when Shutdown
    returns, and a session that is gone has it closed already. -/
def ClosedOnce (started m : IOCPModel) : Prop :=
  ∀ id session, started.mSessionManager.getSession id = some session →
    m.shutdown.closed.count session.mSocket = 1 ∧
    (id ∉ m.mSessionManager.mSessions → session.mSocket ∈ m.closed)

structure Owning (m : IOCPModel) : Prop where
  initialized : m.mInitialized = true
  serving : Serving m
  distinct : ∀ id session other session', m.mSessionManager.getSession id = some session →
    m.mSessionManager.getSession other = some session' →
    session.mSocket = session'.mSocket → id = other
  opened : ∀ id session, m.mSessionManager.getSession id = some session →
    session.mSocket ∉ m.closed ∧ session.mSocket ≠ m.mListenSocket

/-- No failed or empty completion of a receive or a send is handled. -/
def HandlesProgress (m : IOCPModel) : Event → Prop
  | .send _ _ _ => True
  | .processIo (.completion index result bytesTransferred _) _ =>
    result = false ∨ bytesTransferred = 0 → ∀ context, m.inflight[index]? = some context →
      context.operation = .accept
  | .processIo _ _ => True

structure StillOwning (started m : IOCPModel) : Prop where
  serving : Serving m
  kept : SocketsKept started m

theorem kept_found {m m' : IOCPModel} (kept : SocketsKept m m') {id : SessionID}
    {session : Session SOCKET} (found : m.mSessionManager.getSession id = some session) :
    ∃ session', m'.mSessionManager.getSession id = some session' ∧
      session'.mSocket = session.mSocket := by
  have same := kept.sockets id
  rw [found] at same
  exact Option.map_eq_some_iff.mp same

theorem progress_last {m : IOCPModel} (serving : Serving m) {e : Event}
    (progress : HandlesProgress m e) : LastOfSession m e := by
  cases e with
  | send id packet wsaSend => trivial
  | processIo status a =>
    cases status with
    | timeout | failed => trivial
    | completion index result bytesTransferred received =>
      intro ends context found other member same
      have accept := progress ends context found
      rcases serving.contexts context (List.mem_of_getElem? found) with ⟨socket, rfl⟩ | ⟨kind, _⟩
      · rfl
      · exact absurd accept (ne_accept kind)

theorem step_stillOwning {started : IOCPModel} (m : IOCPModel) (e : Event) (m' : IOCPModel)
    (owning : StillOwning started m) (progress : HandlesProgress m e)
    (next : step m e = some m') : StillOwning started m' := by
  obtain ⟨serving, kept⟩ := owning
  refine ⟨step_serving m e m' serving (progress_last serving progress) next, ?_⟩
  rcases step_cases serving next with ⟨id, packet, wsaSend, session, rfl, found, sent⟩ |
    ⟨status, a, rfl, rfl, _⟩ |
    ⟨index, result, bytesTransferred, received, a, context, rfl, valid, found, handled⟩
  · exact kept.trans (onSession_kept (fun _ _ ran => IOCPPeer.send_mSocket ran) sent)
  · exact kept
  · have dequeued : SocketsKept m { m with inflight := m.inflight.eraseIdx index } :=
      ⟨rfl, rfl, rfl, fun _ => rfl⟩
    by_cases ends : result = false ∨ bytesTransferred = 0
    · have accept := progress ends context found
      simp only [handleCompletion, if_pos ends, accept] at handled
      exact Option.some.inj handled ▸ kept.trans dequeued
    · obtain ⟨context', found', kind⟩ := completion_cases serving valid
      cases found.symm.trans found'
      rcases kind with ⟨_, _, empty⟩ | ⟨kind, _⟩
      · exact absurd (Or.inr empty) ends
      · exact (kept.trans dequeued).trans (progress_kept kind ends handled)

theorem stillOwning_closedOnce {started : IOCPModel} (owning : Owning started) (m : IOCPModel)
    (still : StillOwning started m) : ClosedOnce started m := by
  obtain ⟨_, kept⟩ := still
  intro id session found
  obtain ⟨session', found', same⟩ := kept_found kept found
  obtain ⟨isOpen, client⟩ := owning.opened id session found
  constructor
  · have unclosed : m.closed.count session.mSocket = 0 := by
      rw [kept.closed]
      exact List.count_eq_zero_of_not_mem isOpen
    have once : (m.mSessionManager.liveSessions.map Session.mSocket).count session.mSocket =
        1 := by
      apply List.count_eq_one_of_mem
      · apply SessionManager.liveSockets_nodup
        intro id₁ session₁ id₂ session₂ found₁ found₂ shared
        have socket₁ := kept.sockets id₁
        have socket₂ := kept.sockets id₂
        rw [found₁] at socket₁
        rw [found₂] at socket₂
        obtain ⟨old₁, before₁, same₁⟩ := Option.map_eq_some_iff.mp socket₁.symm
        obtain ⟨old₂, before₂, same₂⟩ := Option.map_eq_some_iff.mp socket₂.symm
        exact owning.distinct id₁ old₁ id₂ old₂ before₁ before₂
          (same₁.trans (shared.trans same₂.symm))
      · exact List.mem_map.mpr
          ⟨session', SessionManager.mem_liveSessions.mpr ⟨id, found'⟩, same⟩
    have unlistened : (if m.mListenSocket = INVALID_SOCKET then []
        else [m.mListenSocket]).count session.mSocket = 0 := by
      apply List.count_eq_zero_of_not_mem
      split
      · exact List.not_mem_nil
      · rw [List.mem_singleton, kept.listenSocket]
        exact client
    rw [SessionManager.liveSessions, List.map_map] at once
    unfold shutdown
    rw [if_neg (not_not.mpr (kept.initialized.trans owning.initialized))]
    dsimp only
    rw [List.count_append, List.count_append, unclosed, unlistened]
    exact congrArg (0 + · + 0) once
  · intro removed
    exact absurd (SessionManager.mem_of_getSession found') removed

theorem step_completion {m m' : IOCPModel} (serving : Serving m) {index : Nat} {result : Bool}
    {bytesTransferred : UInt32} {received : List UInt8} {a : ProcessAnswers}
    (next : step m (.processIo (.completion index result bytesTransferred received) a) =
      some m') :
    m.completes (.completion index result bytesTransferred received) = true ∧
    ∃ context, m.inflight[index]? = some context ∧
      (handleCompletion context result bytesTransferred received a
        { m with inflight := m.inflight.eraseIdx index }).leaves = some m' := by
  simp only [step] at next
  split at next
  · rename_i valid
    obtain ⟨context, found, _⟩ := completion_cases serving valid
    rw [processIo, if_neg (not_not.mpr serving.running)] at next
    simp only [found, leaves_bind_done] at next
    exact ⟨valid, context, found, next⟩
  · cases next

/- A session whose completion failed is gone, and its socket stays open. -/
theorem step_leaks {started : IOCPModel} (owning : Owning started) (m : IOCPModel) (e : Event)
    (m' : IOCPModel) (still : StillOwning started m) (fails : ¬HandlesProgress m e)
    (next : step m e = some m') : ¬ClosedOnce started m' := by
  obtain ⟨serving, kept⟩ := still
  cases e with
  | send id packet wsaSend => exact absurd trivial fails
  | processIo status a =>
    cases status with
    | timeout | failed => exact absurd trivial fails
    | completion index result bytesTransferred received =>
      obtain ⟨valid, context, found, handled⟩ := step_completion serving next
      obtain ⟨context', found', kind⟩ := completion_cases serving valid
      cases found.symm.trans found'
      simp only [HandlesProgress, not_forall] at fails
      obtain ⟨ends, context', found', lost⟩ := fails
      cases found.symm.trans found'
      rcases kind with ⟨accept, _⟩ | ⟨_, id, named, present⟩
      · exact absurd accept lost
      · obtain ⟨m₁, run, _, absent, _⟩ :=
          processDisconnect_serving (serving_dequeued serving index) named present
        simp only [handleCompletion, if_pos ends, if_pos lost] at handled
        have unclosed := processDisconnect_closed handled
        rw [run] at handled
        cases Option.some.inj handled
        obtain ⟨session, live⟩ := SessionManager.getSession_of_mem present
        have socket := kept.sockets id
        rw [live] at socket
        obtain ⟨old, before, _⟩ := Option.map_eq_some_iff.mp socket.symm
        intro closed
        have member := (closed id old before).2 absent
        rw [unclosed] at member
        exact (owning.opened id old before).1 (kept.closed ▸ member)

/-- From any serving model whose sessions own open sockets of their own, every socket
    is closed exactly once, in every state that Shutdown can come in, if and only if no
    failed or empty completion of a session is handled. -/
theorem closed_once_along_iff {m : IOCPModel} (owning : Owning m) (es : List Event) :
    (∀ t ∈ states step m es, ClosedOnce m t) ↔
      ∀ x ∈ steps step m es, HandlesProgress x.1 x.2 :=
  holds_along_iff step_stillOwning (stillOwning_closedOnce owning) (step_leaks owning) es m
    ⟨owning.serving, SocketsKept.refl m⟩

end IOCPModel

theorem IOCPModel.oneClient_owning : oneClient.Owning where
  initialized := rfl
  serving := oneClient_serving
  distinct id session other session' found found' _ := by
    have only : ∀ id session, oneClient.mSessionManager.getSession id = some session → id = 1 := by
      intro id session found
      rcases SessionManager.store_cases found with ⟨same, _⟩ | ⟨_, before⟩
      · exact same
      · cases before
    rw [only id session found, only other session' found']
  opened id session found := by
    rcases SessionManager.store_cases found with ⟨rfl, rfl⟩ | ⟨_, before⟩
    · exact ⟨by decide, by decide⟩
    · cases before

/-- A client that sent one byte has its socket closed by Shutdown. -/
theorem IOCPModel.received_byte_closed_once :
    ∃ t ∈ states step oneClient
      [.processIo (.completion 0 true 1 [65]) ⟨6, true, true, true, true⟩],
      t.callbacks.calls = [.onReceive 1 [65]] ∧ ClosedOnce oneClient t := by
  obtain ⟨t, next, told⟩ : ∃ t, step oneClient
      (.processIo (.completion 0 true 1 [65]) ⟨6, true, true, true, true⟩) = some t ∧
      t.callbacks.calls = [.onReceive 1 [65]] := by
    rw [step, if_pos oneClient_completes]
    exact ⟨_, rfl, rfl⟩
  have reached := mem_states_next next (mem_states_self step t [])
  refine ⟨t, reached, told, ?_⟩
  apply (closed_once_along_iff oneClient_owning _).mpr _ t reached
  intro x member
  rw [mem_steps_single member]
  rintro (failed | empty)
  · cases failed
  · cases empty

/- A client whose receive fails: its socket is never closed. -/
theorem IOCPModel.failed_receive_leaks :
    ∃ t ∈ states step oneClient
      [.processIo (.completion 0 false 0 []) ⟨6, true, true, true, true⟩],
      ¬ClosedOnce oneClient t := by
  have receiving : oneClient.inflight[0]? = some (receiveContext 1) := rfl
  obtain ⟨t, next⟩ := step_failed_some oneClient_serving receiving [] ⟨6, true, true, true, true⟩
  refine ⟨t, mem_states_next next (mem_states_self _ _ []), ?_⟩
  apply step_leaks oneClient_owning oneClient _ t ⟨oneClient_serving, SocketsKept.refl _⟩ _ next
  intro progress
  exact ne_accept (Or.inl rfl) (progress (Or.inl rfl) (receiveContext 1) receiving)

end KanchoNet
