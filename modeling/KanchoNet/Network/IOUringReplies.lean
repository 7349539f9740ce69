import KanchoNet.Network.IOUringSilence

/-!
A server over IOUringModel that answers some of what it receives: EchoServer answers
everything, ChatServer a login. The Send of the answer keeps the worker that calls it, so
the server hears no more such messages than it has threads.
-/
namespace KanchoNet
open GuardedSections Interleavings LabelledRuns

def Callback.answered (answers : List UInt8 → Bool) : Callback → Bool
  | .onReceive _ data => answers data
  | _ => false

namespace IOUringWorkers
open IOUringModel

def Rest.answered (answers : List UInt8 → Bool) : Rest → Bool
  | .receive _ data => answers data
  | _ => false

def Place.engaged (answers : List UInt8 → Bool) : Place → Bool
  | .outside => false
  | .callback _ rest _ => rest.answered answers
  | .waiting _ => true

def messages (answers : List UInt8 → Bool) (m : IOUringModel) : Nat :=
  m.callbacks.calls.countP (Callback.answered answers)

variable {T : Type} {answers : List UInt8 → Bool}

/-- OnReceive calls Send before it returns from such a message, and each Send is of a packet
    that an empty send buffer takes. -/
structure Answering (answers : List UInt8 → Bool) (s : Threads T IOUringModel Place)
    (e : T × Event) : Prop where
  answered : ∀ ctx rest sends a, s.place e.1 = .callback ctx rest sends →
    rest.answered answers = true → e.2 = .returns a → 0 < sends
  fits : ∀ id packet a, e.2 = .send id packet a → packet.contents ≠ [] ∧
    packet.contents.length ≤ (SessionConfig.default.mMaxPacketSize * 2).toNat

@[simp] theorem engaged_outside : Place.outside.engaged answers = false := rfl

@[simp] theorem engaged_callback (ctx : IOUringContext) (rest : Rest) (sends : Nat) :
    (Place.callback ctx rest sends).engaged answers = rest.answered answers := rfl

@[simp] theorem engaged_blocked (place : Place) : place.blocked.engaged answers = true := by
  cases place <;> rfl

@[simp] theorem blocked_ne_callback (place : Place) (ctx : IOUringContext) (rest : Rest)
    (sends : Nat) : place.blocked ≠ .callback ctx rest sends := by
  cases place <;> simp [Place.blocked]

theorem messages_onAccept (callbacks : Callbacks) (id : SessionID) :
    (callbacks.onAccept id).calls.countP (Callback.answered answers) =
      callbacks.calls.countP (Callback.answered answers) := by
  unfold Callbacks.onAccept
  split
  · simp [Callback.answered]
  · rfl

theorem messages_onDisconnect (callbacks : Callbacks) (id : SessionID) :
    (callbacks.onDisconnect id).calls.countP (Callback.answered answers) =
      callbacks.calls.countP (Callback.answered answers) := by
  unfold Callbacks.onDisconnect
  split
  · simp [Callback.answered]
  · rfl

theorem messages_onReceive (callbacks : Callbacks) (id : SessionID) (data : List UInt8) :
    (callbacks.onReceive id data).calls.countP (Callback.answered answers) =
      callbacks.calls.countP (Callback.answered answers) +
        (answers data && Rest.calls (.receive id data) (callbacks.onReceive id data)).toNat := by
  unfold Callbacks.onReceive
  split
  · rename_i set
    rw [Rest.calls, set, Bool.and_true, List.countP_append, List.countP_singleton]
    cases kind : answers data with
    | true => simp [Callback.answered, kind]
    | false => simp [Callback.answered, kind]
  · rename_i unset
    simp [Rest.calls, unset]

theorem messages_acceptClient (clientSocket : Fd) (a : SubmitAnswers) (m : IOUringModel) :
    messages answers (acceptClient clientSocket a m) = messages answers m := by
  by_cases full : m.mSessionManager.mMaxSessions.toNat ≤ m.mSessionManager.getSessionCount
  · rw [acceptClient_full full]
    rfl
  · have told := (submitReceive_keeps m.mSessionManager.mNextSessionID a
      (m.admitted clientSocket)).2
    rw [acceptClient_room full]
    dsimp only
    split
    · rw [messages, closeSession, told]
      rfl
    · rw [messages, messages_onAccept, told]
      rfl

theorem disconnectUntilCallback_messages {m t : IOUringModel} {id : SessionID}
    {rest : Option Rest} (ran : disconnectUntilCallback id m = .done rest t) :
    messages answers t = messages answers m +
      (rest.any fun told => told.answered answers && told.calls t.callbacks).toNat := by
  unfold disconnectUntilCallback at ran
  split at ran
  · cases ran
  · split at ran
    · cases ran
      rfl
    · cases ran
      exact messages_onDisconnect _ id

theorem untilCallback_messages {ctx : IOUringContext} {result : Int32} {received : List UInt8}
    {a : CompletionAnswers} {m t : IOUringModel} {rest : Option Rest}
    (other : ctx.operation ≠ .send) (ran : untilCallback ctx result received a m = .done rest t) :
    messages answers t = messages answers m +
      (rest.any fun told => told.answered answers && told.calls t.callbacks).toNat := by
  unfold untilCallback at ran
  cases kind : ctx.operation with
  | accept =>
    simp only [kind] at ran
    have rearmed : messages answers (m.submitAccept a.accept).2 = messages answers m :=
      congrArg (fun callbacks : Callbacks => callbacks.calls.countP (Callback.answered answers))
        (callbacks_submitContext .accept none [] a.accept m)
    split at ran
    · cases ran
      simpa using rearmed
    · obtain ⟨told, accepted, kinds, _⟩ := acceptUntilCallback_whole result.toBitVec a.session
        (m.submitAccept a.accept).2
      cases accepted.symm.trans ran
      rw [messages_acceptClient, rearmed]
      rcases kinds with rfl | ⟨id, rfl⟩
      · rfl
      · rfl
  | receive =>
    simp only [kind] at ran
    split at ran
    · cases ran
      rfl
    · split at ran
      · cases ran
      · split at ran
        · cases ran
          rfl
        · split at ran
          · cases ran
            exact messages_onReceive _ _ _
          · exact disconnectUntilCallback_messages ran
  | send => exact absurd kind other
  | disconnect =>
    simp only [kind] at ran
    cases ran
    simp

theorem leave_messages {m m' : IOUringModel} {ctx : IOUringContext} {rest : Rest}
    {a : SubmitAnswers} {place : Place} (left : leave ctx rest a m = some (m', place)) :
    messages answers m' = messages answers m := by
  obtain ⟨t, behind, ended⟩ := Option.map_eq_some_iff.mp left
  cases ended
  change messages answers t = messages answers m
  cases rest with
  | accept id =>
    obtain ⟨_, _, rfl⟩ := Option.map_eq_some_iff.mp behind
    rfl
  | receive id data =>
    obtain ⟨_, _, rfl⟩ := Option.map_eq_some_iff.mp behind
    exact congrArg
      (fun callbacks : Callbacks => callbacks.calls.countP (Callback.answered answers))
      (submitReceive_keeps id a m).2
  | disconnect id =>
    obtain ⟨_, _, rfl⟩ := Option.map_eq_some_iff.mp behind
    rfl

/- A message more is a worker more that is engaged. -/
theorem processCompletion_messages {m m' : IOUringModel} {ctx : IOUringContext} {result : Int32}
    {received : List UInt8} {a : CompletionAnswers} {place : Place}
    (arrives : Arrives ctx result received m) (other : ctx.operation ≠ .send)
    (handled : processCompletion ctx result received a m = some (m', place)) :
    messages answers m' = messages answers m + (place.engaged answers).toNat ∧
      ∀ ctx' rest sends, place = .callback ctx' rest sends → sends = 0 := by
  obtain ⟨rest, t, ran, _, ended⟩ := processCompletion_cases arrives other handled
  have heard : messages answers t = _ := untilCallback_messages other ran
  rcases ended with ⟨rfl, rfl, rfl⟩ | ⟨told, rfl, ⟨set, rfl, rfl⟩ | ⟨unset, left⟩⟩
  · refine ⟨heard, ?_⟩
    rintro _ _ _ ⟨⟩
  · constructor
    · rw [heard, engaged_callback, Option.any_some, set, Bool.and_true]
    · rintro _ _ _ ⟨⟩
      rfl
  · obtain ⟨_, rfl⟩ := leave_tacit left
    constructor
    · rw [leave_messages left, heard, Option.any_some, unset, Bool.and_false]
      rfl
    · rintro _ _ _ ⟨⟩

def Roomy (m : IOUringModel) : Prop :=
  ∀ id session, m.mSessionManager.getSession id = some session → session.mLock.mFlag = false →
    session.freeSpace = (SessionConfig.default.mMaxPacketSize * 2).toNat

theorem roomy_tacit {m m' : IOUringModel} (roomy : Roomy m) (tacit : Tacit m m') : Roomy m' := by
  intro id session' found free
  obtain ⟨session, before | ⟨_, _, socket, rfl⟩, state⟩ := tacit.sessions id session' found
  · rw [state] at free ⊢
    exact roomy id session before free
  · rw [state]
    exact Session.freeSpace_accepted id socket .default

theorem send_roomy {stuck : SessionID → Prop} {m : IOUringModel} (silent : Silent stuck m)
    (roomy : Roomy m) {id : SessionID} {packet : PacketBuffer} (packed : packet.contents ≠ [])
    (fits : packet.contents.length ≤ (SessionConfig.default.mMaxPacketSize * 2).toNat)
    (a : SubmitAnswers) :
    send id packet a m = .undefined ∨ ∃ m', send id packet a m = .stuck m' ∧ Roomy m' ∧
      ∀ answers, messages answers m' = messages answers m := by
  cases found : m.mSessionManager.getSession id with
  | none => exact Or.inl (send_destroyed found packed a)
  | some session =>
    right
    rcases send_cases silent found packet a with
      ⟨empty, _⟩ | ⟨_, _, sent⟩ | ⟨_, free, overflow, _⟩ | ⟨_, _, _, sent⟩
    · exact absurd empty packed
    · exact ⟨m, sent, roomy, fun _ => rfl⟩
    · have unlocked : session.mLock.mFlag = false :=
        Bool.eq_false_of_not_eq_true fun flag => free ((silent.locked id session found).mp flag)
      rw [roomy id session found unlocked] at overflow
      exact absurd fits (Nat.not_le_of_lt overflow)
    · refine ⟨_, sent, fun other session' found' free => ?_, fun _ => rfl⟩
      rcases SessionManager.store_cases found' with ⟨rfl, rfl⟩ | ⟨_, before⟩
      · cases free
      · exact roomy other session' before free

variable [Fintype T]

/-- No Send has returned to a callback, and each message engages a thread. -/
structure Engaging (answers : List UInt8 → Bool) (s : Threads T IOUringModel Place) : Prop where
  silent : ∃ stuck, Silent stuck s.shared
  roomy : Roomy s.shared
  unanswered : ∀ t ctx rest sends, s.place t = .callback ctx rest sends → sends = 0
  counted : messages answers s.shared ≤ standing (Place.engaged answers) s

theorem step_engaging [DecidableEq T] (s : Threads T IOUringModel Place) (e : T × Event)
    (s' : Threads T IOUringModel Place) (engaging : Engaging answers s)
    (answering : Answering answers s e) (next : step move s e = some s') : Engaging answers s' := by
  obtain ⟨stuck, silent⟩ := engaging.silent
  obtain ⟨place', moved, own, others⟩ := step_cases next
  have counts := standing_step next (Place.engaged answers)
  have counted := engaging.counted
  have silent' : ∃ stuck, Silent stuck s'.shared := ⟨_, step_silent stuck s e s' silent next⟩
  have elsewhere : (∀ ctx rest sends, place' = .callback ctx rest sends → sends = 0) →
      ∀ t ctx rest sends, s'.place t = .callback ctx rest sends → sends = 0 := by
    intro here t ctx rest sends there
    by_cases same : t = e.1
    · exact here ctx rest sends (own ▸ same ▸ there)
    · exact engaging.unanswered t ctx rest sends (others t same ▸ there)
  rw [own] at counts
  rcases move_cases moved with
    ⟨index, result, received, a, ctx, event, outside, found, arrives, handled⟩ |
    ⟨id, packet, a, event, _, after⟩ | ⟨ctx, rest, sends, a, event, inside, left⟩
  · have other := silent.operations ctx (List.mem_append_right _ (List.mem_of_getElem? found))
    obtain ⟨heard, unanswered⟩ := processCompletion_messages arrives other handled
    have tacit := (dequeued_tacit s.shared index).trans
      (processCompletion_tacit arrives other handled)
    refine ⟨silent', roomy_tacit engaging.roomy tacit, elsewhere unanswered, ?_⟩
    · rw [outside] at counts
      change messages answers s'.shared = messages answers s.shared + _ at heard
      rw [engaged_outside, Bool.toNat_false] at counts
      omega
  · obtain ⟨packed, fits⟩ := answering.fits id packet a event
    rcases send_roomy silent engaging.roomy packed fits a with undefined | ⟨m, gets, roomy, same⟩
    · rw [undefined] at after
      cases after
    · rw [gets] at after
      cases after
      refine ⟨silent', roomy, elsewhere fun _ _ _ blocked => absurd blocked (by simp), ?_⟩
      have engaged := Bool.toNat_le ((s.place e.1).engaged answers)
      have heard := same answers
      rw [engaged_blocked, Bool.toNat_true] at counts
      omega
  · obtain ⟨tacit, rfl⟩ := leave_tacit left
    have unheard : rest.answered answers = false := by
      apply Bool.eq_false_of_not_eq_true
      intro hears
      have answered := answering.answered ctx rest sends a inside hears event
      rw [engaging.unanswered e.1 ctx rest sends inside] at answered
      exact Nat.lt_irrefl 0 answered
    refine ⟨silent', roomy_tacit engaging.roomy tacit, elsewhere (by rintro _ _ _ ⟨⟩), ?_⟩
    rw [inside, engaged_callback, unheard] at counts
    have same : messages answers s'.shared = _ := leave_messages left
    rw [engaged_outside, Bool.toNat_false] at counts
    omega

theorem started_engaging {listenSocket : Fd} {maxSessions : UInt32} {callbacks : Callbacks}
    {listens : Bool} {a : SubmitAnswers} {server : IOUringServer}
    (listening : IOUringServer.startListen listens a
      (.initialized listenSocket maxSessions callbacks) = (true, server))
    (quiet : callbacks.calls = []) : Engaging answers (started T server.model) := by
  obtain ⟨_, _, table, told⟩ := IOUringServer.startListen_reading listening
  constructor
  · exact ⟨_, startListen_silent listening⟩
  · intro id session found
    change server.model.mSessionManager.getSession id = some session at found
    rw [table] at found
    cases found
  · rintro _ _ _ _ ⟨⟩
  · change server.model.callbacks.calls.countP (Callback.answered answers) ≤ _
    rw [told, quiet]
    exact Nat.zero_le _

/-- A server that answers messages of some kind is told of no more of them than it has
    threads, and none of its Sends returns. -/
theorem answers_keep_threads [DecidableEq T] {listenSocket : Fd} {maxSessions : UInt32}
    {callbacks : Callbacks} {listens : Bool} {a : SubmitAnswers} {server : IOUringServer}
    (listening : IOUringServer.startListen listens a
      (.initialized listenSocket maxSessions callbacks) = (true, server))
    (quiet : callbacks.calls = []) (answers : List UInt8 → Bool) (es : List (T × Event))
    (answering : ∀ x ∈ steps (step move) (started T server.model) es, Answering answers x.1 x.2) :
    (∀ s ∈ states (step move) (started T server.model) es,
      messages answers s.shared ≤ Fintype.card T) ∧
    ∀ x ∈ steps (step move) (started T server.model) es, ∀ id packet b,
      x.2.2 = .send id packet b → (send id packet b x.1.shared).returns = false := by
  have engaging :=
    invariant_of_guarded step_engaging es _ (started_engaging listening quiet) answering
  constructor
  · intro s member
    exact (engaging s member).counted.trans (standing_le _ s)
  · intro x member id packet b event
    obtain ⟨stuck, silent⟩ := (engaging x.1 (mem_states_of_mem_steps member)).silent
    obtain ⟨packed, fits⟩ := (answering x member).fits id packet b event
    rcases send_roomy silent (engaging x.1 (mem_states_of_mem_steps member)).roomy packed fits b
      with undefined | ⟨m, gets, _⟩
    · rw [undefined]
      rfl
    · rw [gets]
      rfl

/-- A client connects and sends two bytes, and the one thread there is answers them. -/
def conversation : List (Unit × Event) :=
  [((), .complete 0 9 [] ⟨⟨true, true⟩, ⟨true, true⟩⟩), ((), .returns ⟨true, true⟩),
    ((), .complete 1 2 [72, 105] ⟨⟨true, true⟩, ⟨true, true⟩⟩), ((), .send 1 welcome ⟨true, true⟩)]

def Place.hears : Place → Option (SessionID × List UInt8)
  | .callback _ (.receive id data) _ => some (id, data)
  | _ => none

/- Before the answer the thread is in mOnReceive, and the session is idle. -/
theorem conversation_heard : ∃ s session,
    run (step move) (started Unit listeningServer.model) (conversation.take 3) = some s ∧
    messages (fun _ => true) s.shared = 1 ∧ (s.place ()).hears = some (1, [72, 105]) ∧
    s.shared.mSessionManager.getSession 1 = some session ∧ session.mLock.mFlag = false ∧
    session.mIsSending = false ∧ welcome.contents.length ≤ session.freeSpace := by
  have measured : (run (step move) (started Unit listeningServer.model)
      (conversation.take 3)).any (fun s => messages (fun _ => true) s.shared = 1 ∧
        (s.place ()).hears = some (1, [72, 105]) ∧
        (s.shared.mSessionManager.getSession 1).any fun session =>
          session.mLock.mFlag = false ∧ session.mIsSending = false ∧
          welcome.contents.length ≤ session.freeSpace) = true := by
    decide +kernel
  obtain ⟨s, ran, facts⟩ := (Option.any_eq_true _ _).mp measured
  obtain ⟨told, hears, idle⟩ := of_decide_eq_true facts
  obtain ⟨session, found, quiet⟩ := (Option.any_eq_true _ _).mp idle
  obtain ⟨free, sending, room⟩ := of_decide_eq_true quiet
  exact ⟨s, session, ran, told, hears, found, free, sending, room⟩

theorem answer_keeps_thread :
    (∀ s ∈ states (step move) (started Unit listeningServer.model) conversation,
      messages (fun _ => true) s.shared ≤ 1) ∧
    (∀ x ∈ steps (step move) (started Unit listeningServer.model) conversation, ∀ id packet b,
      x.2.2 = .send id packet b → (send id packet b x.1.shared).returns = false) ∧
    ∃ s t, run (step move) (started Unit listeningServer.model) (conversation.take 3) = some s ∧
      messages (fun _ => true) s.shared = 1 ∧
      step move s ((), .send 1 welcome ⟨true, true⟩) = some t ∧
      ∃ rest, t.place () = .waiting rest := by
  have answering : ∀ x ∈ steps (step move) (started Unit listeningServer.model) conversation,
      Answering (fun _ => true) x.1 x.2 := by
    refine forall_steps_cons (Answering _) rfl ⟨by rintro _ _ _ _ ⟨⟩, by rintro _ _ _ ⟨⟩⟩ ?_
    refine forall_steps_cons (Answering _) rfl ⟨?_, by rintro _ _ _ ⟨⟩⟩ ?_
    · rintro _ _ _ _ ⟨⟩ hears
      cases hears
    · refine forall_steps_next (Answering _) ⟨by rintro _ _ _ _ _ _ ⟨⟩, by rintro _ _ _ ⟨⟩⟩ ?_
      intro s _ x member
      rw [mem_steps_single member]
      refine ⟨by rintro _ _ _ _ _ _ ⟨⟩, ?_⟩
      rintro _ _ _ ⟨⟩
      decide
  obtain ⟨few, kept⟩ := answers_keep_threads listeningServer_listens rfl _ _ answering
  refine ⟨few, kept, ?_⟩
  obtain ⟨s, session, ran, told, hears, found, free, idle, fits⟩ := conversation_heard
  have awake : ∀ rest, s.place () ≠ .waiting rest := by
    intro rest waits
    rw [waits] at hears
    cases hears
  obtain ⟨m, _, _, next⟩ := step_keeps (t := ()) found free idle (by decide) fits ⟨true, true⟩ awake
  obtain ⟨rest, waits⟩ := blocked_waits (s.place ())
  refine ⟨s, _, ran, told, next, rest, ?_⟩
  rw [← waits]
  exact Function.update_self () _ s.place

end IOUringWorkers
end KanchoNet
