import KanchoNet.Network.WorkerPhases

/-!
The order of the callbacks of a session when several workers run an EpollModel. Any of
them may be given an event of a session that its accepting worker has registered but
not yet reported, or that another worker is taking down.
-/
namespace KanchoNet.EpollWorkers
open LabelledRuns
variable {W : Type}

def CallbacksOrderly (s : EpollWorkers W) : Prop :=
  ∀ id, Callbacks.Orderly id (s.callbacks.callsOf id)

def CallsInTurn (s : EpollWorkers W) : WorkerEvent W → Prop
  | .proceed w => ∀ id stage, s.position w = some (id, stage) →
    (stage = .onDisconnect ∨ ∃ bytesRead, stage = .onReceive bytesRead) → InTurn s id
  | _ => True

/-- The invariant: ids from the counter on are unseen, and every session is in a phase. -/
structure Lifecycle (accepted : Nat) (s : EpollWorkers W) : Prop where
  set : s.callbacks.mOnAccept = true ∧ s.callbacks.mOnReceive = true ∧
    s.callbacks.mOnDisconnect = true
  counter : s.mSessionManager.mNextSessionID.toNat ≤ accepted + 1
  keyed : ∀ id session, s.mSessionManager.getSession id = some session → session.mID = id
  fresh : ∀ id, s.mSessionManager.mNextSessionID.toNat ≤ id.toNat → Unseen s id
  phases : ∀ id, Phase s id

theorem listening_lifecycle (maxSessions : UInt32) (buffer : ReceiveBuffer) :
    Lifecycle 0 (listening maxSessions buffer : EpollWorkers W) := by
  have unseen : ∀ id, Unseen (listening maxSessions buffer : EpollWorkers W) id := by
    intro id
    constructor
    · rfl
    · intro w
      rfl
    · intro socket watched
      cases watched
  constructor
  · exact ⟨rfl, rfl, rfl⟩
  · exact Nat.le_refl 1
  · intro id session found
    cases found
  · intro id _
    exact unseen id
  · intro id
    exact .unseen (unseen id)

theorem known_of_seen {n : Nat} {s : EpollWorkers W} (life : Lifecycle n s) {id : SessionID}
    (seen : ¬Unseen s id) : id.toNat < s.mSessionManager.mNextSessionID.toNat := by
  by_contra high
  exact seen (life.fresh id (Nat.le_of_not_lt high))

theorem known_of_here {n : Nat} {s : EpollWorkers W} (life : Lifecycle n s) {w : W}
    {id : SessionID} {stage : HandlerStage} (here : s.position w = some (id, stage)) :
    id.toNat < s.mSessionManager.mNextSessionID.toNat := by
  apply known_of_seen life
  intro unseen
  have nobody := unseen.nobody w
  rw [here, partOf_self] at nobody
  cases nobody

/-- A step after which each session is as it was, or is one handed out before and in
    a phase again. -/
theorem lifecycle_of_phases {n : Nat} {s t : EpollWorkers W} (life : Lifecycle n s)
    (told : ∃ calls, t.callbacks = { s.callbacks with calls })
    (counter : t.mSessionManager.mNextSessionID = s.mSessionManager.mNextSessionID)
    (keyed : ∀ id session, t.mSessionManager.getSession id = some session → session.mID = id)
    (phases : ∀ id, SameFor id s t ∨
      id.toNat < s.mSessionManager.mNextSessionID.toNat ∧ Phase t id) : Lifecycle n t := by
  obtain ⟨calls, told⟩ := told
  constructor
  · rw [told]
    exact life.set
  · rw [counter]
    exact life.counter
  · exact keyed
  · intro id high
    rw [counter] at high
    rcases phases id with same | ⟨low, _⟩
    · exact unseen_of_same same (life.fresh id high)
    · omega
  · intro id
    rcases phases id with same | ⟨_, phase⟩
    · exact phase_of_same same (life.phases id)
    · exact phase

theorem callsInTurn_of_silent {s : EpollWorkers W} {w : W} {id : SessionID} {stage : HandlerStage}
    (here : s.position w = some (id, stage)) (stays : stage ≠ .onDisconnect)
    (silent : ∀ bytesRead, stage ≠ .onReceive bytesRead) : CallsInTurn s (.proceed w) := by
  intro other stage' there calls
  cases here.symm.trans there
  rcases calls with leaves | ⟨bytesRead, receives⟩
  · exact absurd leaves stays
  · exact absurd receives (silent bytesRead)

theorem callsInTurn_of_turn {s : EpollWorkers W} {w : W} {id : SessionID} {stage : HandlerStage}
    (here : s.position w = some (id, stage)) (turn : InTurn s id) : CallsInTurn s (.proceed w) := by
  intro other stage' there _
  cases here.symm.trans there
  exact turn

variable [DecidableEq W]

theorem lifecycle_of_phase {n : Nat} {s t : EpollWorkers W} (life : Lifecycle n s) {w : W}
    {id : SessionID} {position : Option (SessionID × HandlerStage)}
    (here : s.position w = none ∨ ∃ stage, s.position w = some (id, stage))
    (there : position = none ∨ ∃ stage, position = some (id, stage))
    (moved : t.position = (s.moveTo w position).position)
    (told : ∃ calls, t.callbacks = { s.callbacks with calls })
    (calls : ∀ other, other ≠ id → t.callbacks.callsOf other = s.callbacks.callsOf other)
    (table : t.mSessionManager = s.mSessionManager)
    (watched : ∀ other, other ≠ id → ∀ socket, t.interest.lookup socket = some other →
      s.interest.lookup socket = some other)
    (known : id.toNat < s.mSessionManager.mNextSessionID.toNat) (phase : Phase t id) :
    Lifecycle n t := by
  have away : ∀ other p, other ≠ id → (p = none ∨ ∃ stage, p = some (id, stage)) →
      partOf other p = none := by
    rintro other p different (rfl | ⟨stage, rfl⟩)
    · rfl
    · exact partOf_ne different stage
  apply lifecycle_of_phases life told
  · rw [table]
  · rw [table]
    exact life.keyed
  · intro other
    by_cases same : other = id
    · rw [same]
      exact Or.inr ⟨known, phase⟩
    · refine Or.inl (sameFor_moved moved ?_ (calls other same) ?_ (watched other same))
      · rw [away other _ same there, away other _ same here]
      · rw [table]

theorem lifecycle_of_part {n : Nat} {s t : EpollWorkers W} (life : Lifecycle n s) {w : W}
    {id : SessionID} {stage stage' : HandlerStage} (here : s.position w = some (id, stage))
    (moved : t.position = (s.moveTo w (some (id, stage'))).position)
    (part : stage'.part = stage.part)
    (told : t.callbacks = s.callbacks)
    (counter : t.mSessionManager.mNextSessionID = s.mSessionManager.mNextSessionID)
    (keyed : ∀ id session, t.mSessionManager.getSession id = some session → session.mID = id)
    (listed : ∀ id, id ∈ t.mSessionManager.mSessions ↔ id ∈ s.mSessionManager.mSessions)
    (watched : ∀ socket id, t.interest.lookup socket = some id →
      s.interest.lookup socket = some id) : Lifecycle n t := by
  refine lifecycle_of_phases life ⟨_, told⟩ counter keyed fun other => Or.inl ?_
  apply sameFor_moved moved
  · rw [here]
    simp only [partOf, part]
  · rw [told]
  · exact listed other
  · exact fun socket => watched socket other

theorem lifecycle_of_place {n : Nat} {s t : EpollWorkers W} (life : Lifecycle n s) {w : W}
    {id : SessionID} {stage stage' : HandlerStage} (here : s.position w = some (id, stage))
    (moved : t.position = (s.moveTo w (some (id, stage'))).position)
    (part : stage'.part = stage.part) (told : t.callbacks = s.callbacks)
    (table : t.mSessionManager = s.mSessionManager)
    (watched : ∀ socket id, t.interest.lookup socket = some id →
      s.interest.lookup socket = some id) : Lifecycle n t := by
  apply lifecycle_of_part life here moved part told
  · rw [table]
  · rw [table]
    exact life.keyed
  · intro other
    rw [table]
  · exact watched

theorem lifecycle_of_done {n : Nat} {s : EpollWorkers W} (life : Lifecycle n s) {w : W}
    {id : SessionID} {stage : HandlerStage} (here : s.position w = some (id, stage))
    (serving : stage.part = .serving) : Lifecycle n (s.moveTo w none) := by
  have serves : partOf id (s.position w) = some .serving := by
    rw [here, partOf_self, serving]
  apply lifecycle_of_phase life (Or.inr ⟨stage, here⟩) (Or.inl rfl) rfl ⟨_, rfl⟩
    (fun _ _ => rfl) rfl (fun _ _ _ => fun same => same) (known_of_here life here)
  apply phase_shared (life.phases id) (Or.inr serves) (Or.inr serves)
  · rw [position_moveTo_self]
    exact Or.inl rfl
  · exact fun other different => position_moveTo_ne different none s
  · rfl
  · exact Iff.rfl

theorem dispatched_lifecycle {n : Nat} {s : EpollWorkers W} (life : Lifecycle n s) {w : W}
    {socket : Fd} {id : SessionID} {first : HandlerStage} (idle : s.position w = none)
    (registered : s.interest.lookup socket = some id) (serving : first.part = .serving) :
    Lifecycle n (s.moveTo w (some (id, first))) := by
  have known := known_of_seen life fun unseen => unseen.unwatched socket registered
  apply lifecycle_of_phase life (Or.inl idle) (Or.inr ⟨first, rfl⟩) rfl ⟨_, rfl⟩
    (fun _ _ => rfl) rfl (fun _ _ _ => fun same => same) known
  apply phase_shared (life.phases id) (Or.inl ⟨socket, registered⟩)
  · rw [idle]
    exact Or.inl rfl
  · rw [position_moveTo_self, partOf_self, serving]
    exact Or.inr rfl
  · exact fun other different => position_moveTo_ne different _ s
  · rfl
  · exact Iff.rfl

theorem accepted_lifecycle {n : Nat} {s t : EpollWorkers W} (life : Lifecycle n s)
    (room : n < 2 ^ 64 - 2) {w : W} {socket : Fd} (idle : s.position w = none)
    (added : s.mSessionManager.addSession socket .default =
      (some s.mSessionManager.mNextSessionID, t.mSessionManager))
    (moved : t.position = (s.moveTo w
      (some (s.mSessionManager.mNextSessionID, .setConnected socket))).position)
    (told : t.callbacks = s.callbacks) (interest : t.interest = s.interest) :
    Lifecycle (n + 1) t := by
  have table := SessionManager.table_of_addSession added
  have counter := life.counter
  have advanced : t.mSessionManager.mNextSessionID.toNat =
      s.mSessionManager.mNextSessionID.toNat + 1 := by
    rw [table]
    exact SessionManager.next_toNat (by omega)
  have listed : ∀ id, id ∈ t.mSessionManager.mSessions ↔
      id = s.mSessionManager.mNextSessionID ∨ id ∈ s.mSessionManager.mSessions := by
    intro id
    rw [table]
    exact AList.mem_insert _
  have others : ∀ id, id ≠ s.mSessionManager.mNextSessionID → SameFor id s t := by
    intro id different
    apply sameFor_moved moved
    · rw [idle]
      exact partOf_ne different _
    · rw [told]
    · rw [listed]
      exact or_iff_right different
    · rw [interest]
      exact fun socket watched => watched
  constructor
  · rw [told]
    exact life.set
  · omega
  · intro id session found
    rw [SessionManager.getSession, table] at found
    by_cases same : id = s.mSessionManager.mNextSessionID
    · subst same
      rw [AList.lookup_insert] at found
      cases found
      rfl
    · rw [AList.lookup_insert_ne same] at found
      exact life.keyed id session found
  · intro id high
    have different : id ≠ s.mSessionManager.mNextSessionID := by
      rintro rfl
      omega
    exact unseen_of_same (others id different) (life.fresh id (by omega))
  · intro id
    by_cases same : id = s.mSessionManager.mNextSessionID
    · subst same
      have unseen := life.fresh _ (Nat.le_refl _)
      apply Phase.entering w
      · rw [told]
        exact unseen.silent
      · rw [moved, position_moveTo_self]
        exact partOf_self _ (.setConnected socket)
      · intro other different
        rw [moved, position_moveTo_ne different]
        exact unseen.nobody other
      · rw [interest]
        exact unseen.unwatched
      · exact (listed _).mpr (Or.inl rfl)
    · exact phase_of_same (others id same) (life.phases id)

theorem removed_lifecycle {n : Nat} {s : EpollWorkers W} (life : Lifecycle n s) {w : W}
    {id : SessionID} (here : s.position w = some (id, .removeSession)) :
    Lifecycle n { s.moveTo w none with
      mSessionManager := (s.mSessionManager.removeSession id).2 } := by
  refine lifecycle_of_phases life ⟨_, rfl⟩ ?_ ?_ ?_
  · exact SessionManager.mNextSessionID_removeSession s.mSessionManager id
  · intro other session found
    by_cases same : other = id
    · subst same
      cases (SessionManager.getSession_removeSession_self s.mSessionManager other).symm.trans found
    · rw [SessionManager.getSession_removeSession_ne s.mSessionManager same] at found
      exact life.keyed other session found
  · intro other
    by_cases same : other = id
    · subst same
      exact Or.inr ⟨known_of_here life here, removed_phase (life.phases other) here⟩
    · have part : partOf other none = partOf other (s.position w) := by
        rw [here, partOf_ne same, partOf_none]
      exact Or.inl (sameFor_moved rfl part rfl
        (SessionManager.mem_removeSession.trans (and_iff_right same)) fun _ watched => watched)

theorem lifecycle_of_call {n : Nat} {s : EpollWorkers W} (life : Lifecycle n s) {w : W}
    {id : SessionID} {stage : HandlerStage} {position : Option (SessionID × HandlerStage)}
    {call : Callback} (here : s.position w = some (id, stage))
    (there : position = none ∨ ∃ stage, position = some (id, stage)) (own : call.session = id)
    (phase : Phase ((s.moveTo w position).tell call) id) :
    Lifecycle n ((s.moveTo w position).tell call) := by
  refine lifecycle_of_phase life (Or.inr ⟨stage, here⟩) there rfl ⟨_, rfl⟩ ?_ rfl
    (fun _ _ _ watched => watched) (known_of_here life here) phase
  intro other different
  have foreign : call.session ≠ other := by
    rw [own]
    exact different.symm
  rw [callsOf_tell, if_neg foreign, List.append_nil, callbacks_moveTo]

theorem step_lifecycle (n : Nat) (s : EpollWorkers W) (e : WorkerEvent W) (t : EpollWorkers W)
    (life : Lifecycle n s) (room : e.accepts = true → n < 2 ^ 64 - 2)
    (turn : CallsInTurn s e) (next : step s e = some t) :
    Lifecycle (n + if e.accepts then 1 else 0) t := by
  obtain ⟨onAccept, onReceive, onDisconnect⟩ := life.set
  cases step_advance next with
  | refused w socket => exact { life with counter := Nat.le_succ_of_le life.counter }
  | accepted w socket mSessionManager idle added =>
    exact accepted_lifecycle life (room rfl) idle added rfl rfl rfl
  | dispatched e w socket id first idle registered handler =>
    have serving : first.part = .serving := by
      rcases handler with rfl | rfl <;> rfl
    have life' := dispatched_lifecycle life idle registered serving
    exact { life' with counter := Nat.le_trans life'.counter (by omega) }
  | registered w granted id socket here =>
    refine lifecycle_of_phase life (Or.inr ⟨_, here⟩) (Or.inr ⟨_, rfl⟩) rfl ⟨_, rfl⟩
      (fun _ _ => rfl) rfl ?_ (known_of_here life here) (registered_phase (life.phases id) here)
    intro other different fd watched
    by_cases same : fd = socket
    · subst same
      cases (AList.lookup_insert s.interest).symm.trans watched
      exact absurd rfl different
    · exact (AList.lookup_insert_ne same).symm.trans watched
  | unregistered w granted id socket closed here =>
    exact lifecycle_of_phase life (Or.inr ⟨_, here⟩) (Or.inl rfl) rfl ⟨_, rfl⟩
      (fun _ _ => rfl) rfl (fun _ _ _ => watched_closeSocket) (known_of_here life here)
      (unregistered_phase (life.phases id) here closed)
  | received w data positive within id owner session here found connection =>
    exact lifecycle_of_place life here rfl rfl rfl rfl fun _ _ watched => watched
  | ended w answer id position here there =>
    rcases there with rfl | rfl
    · exact lifecycle_of_done life here rfl
    · exact lifecycle_of_place life here rfl rfl rfl rfl fun _ _ watched => watched
  | checked w id stage position here check =>
    rcases check with ⟨rfl, rfl | rfl⟩ | ⟨rfl, rfl | rfl⟩
    · exact lifecycle_of_done life here rfl
    · exact lifecycle_of_place life here rfl rfl rfl rfl fun _ _ watched => watched
    · exact lifecycle_of_done life here rfl
    · exact lifecycle_of_place life here rfl rfl rfl rfl fun _ _ watched => watched
  | stored w id stage stage' session state here found store =>
    have part : stage'.part = stage.part := by
      rcases store with ⟨socket, rfl, rfl⟩ | ⟨rfl, rfl⟩ <;> rfl
    refine lifecycle_of_part life here rfl part rfl rfl ?_ ?_ fun _ _ watched => watched
    · intro other session' found'
      rcases SessionManager.store_cases found' with ⟨rfl, rfl⟩ | ⟨_, before⟩
      · exact life.keyed other session found
      · exact life.keyed other session' before
    · exact fun other => SessionManager.mem_store_iff _ (SessionManager.mem_of_getSession found)
  | greeted w id here =>
    rw [Callbacks.onAccept_set onAccept]
    exact lifecycle_of_call life here (Or.inl rfl) rfl (greeted_phase (life.phases id) here)
  | delivered w id bytesRead here =>
    rw [Callbacks.onReceive_set onReceive]
    exact lifecycle_of_call life here (Or.inr ⟨_, rfl⟩) rfl (delivered_phase (life.phases id) here
      (turn id _ here (Or.inr ⟨bytesRead, rfl⟩)) _)
  | dismissed w id here =>
    rw [Callbacks.onDisconnect_set onDisconnect]
    exact lifecycle_of_call life here (Or.inr ⟨_, rfl⟩) rfl (dismissed_phase (life.phases id) here
      (turn id _ here (Or.inl rfl)))
  | closed w id socket here =>
    exact lifecycle_of_place life here rfl rfl rfl rfl fun _ _ => watched_closeSocket
  | removed w id session here found =>
    rw [life.keyed id session found]
    exact removed_lifecycle life here

theorem tell_out_of_turn {n : Nat} {s : EpollWorkers W} (life : Lifecycle n s) {w : W}
    {id : SessionID} {stage : HandlerStage} (here : s.position w = some (id, stage))
    (serving : stage.part = .serving) (out : ¬InTurn s id) {call : Callback}
    (own : call.session = id) (other : call ≠ .onAccept id)
    (position : Option (SessionID × HandlerStage)) :
    ¬CallbacksOrderly ((s.moveTo w position).tell call) := by
  intro orderly
  have told := orderly id
  rw [callsOf_tell, if_pos own, callbacks_moveTo] at told
  exact out_of_turn_not_orderly (life.phases id) here serving out other told

theorem out_of_turn_broken (n : Nat) (s : EpollWorkers W) (e : WorkerEvent W)
    (t : EpollWorkers W) (life : Lifecycle n s) (out : ¬CallsInTurn s e)
    (next : step s e = some t) : ¬CallbacksOrderly t := by
  cases e with
  | accept | readable | hangUp | register | receive => exact absurd trivial out
  | proceed w =>
    simp only [CallsInTurn, Classical.not_forall] at out
    obtain ⟨id, stage, here, calls, out⟩ := out
    simp only [step, here, Option.bind_some] at next
    rcases calls with rfl | ⟨bytesRead, rfl⟩
    · cases next
      rw [Callbacks.onDisconnect_set life.set.2.2]
      apply tell_out_of_turn life here rfl out
      · rfl
      · intro same
        cases same
    · cases next
      rw [Callbacks.onReceive_set life.set.2.1]
      apply tell_out_of_turn life here rfl out
      · rfl
      · intro same
        cases same

/-- For any workers, and any run of a listening model with fewer than 2^64 - 1 accepts:
    the calls of every session are a prefix of OnAccept OnReceive* OnDisconnect all along
    the run, if and only if each mOnReceive and mOnDisconnect is called in turn. -/
theorem callbacks_orderly_iff (maxSessions : UInt32) (buffer : ReceiveBuffer)
    {es : List (WorkerEvent W)} (few : es.countP WorkerEvent.accepts < 2 ^ 64 - 1) :
    (∀ s ∈ states step (listening maxSessions buffer) es, CallbacksOrderly s) ↔
      ∀ x ∈ steps step (listening maxSessions buffer) es, CallsInTurn x.1 x.2 :=
  holds_along_iff_of_budget step_lifecycle
    (fun _ _ life id => phase_orderly (life.phases id)) out_of_turn_broken es 0 _
    (listening_lifecycle maxSessions buffer) (by omega)

/- Two workers have a client each; both send a byte, and then the first one leaves: the
   calls are in turn. -/
theorem departing_client_orderly :
    let es := connecting true 5 ++ connecting false 6 ++ [.receive true (oneByte 65),
      .receive false (oneByte 66), .proceed false, .proceed true, .receive true .closed,
      .proceed true, .proceed true, .proceed true]
    es.countP WorkerEvent.accepts < 2 ^ 64 - 1 ∧
    ∀ s ∈ states step (listening 2 .zeroed : EpollWorkers Bool) es, CallbacksOrderly s := by
  intro es
  have few : es.countP WorkerEvent.accepts < 2 ^ 64 - 1 := by decide
  refine ⟨few, (callbacks_orderly_iff 2 .zeroed few).mpr ?_⟩
  iterate 6
    refine forall_steps_cons CallsInTurn rfl trivial ?_
    refine forall_steps_cons CallsInTurn rfl (callsInTurn_of_silent rfl nofun nofun) ?_
  refine forall_steps_cons CallsInTurn rfl trivial ?_
  refine forall_steps_cons CallsInTurn rfl trivial ?_
  refine forall_steps_cons CallsInTurn rfl (callsInTurn_of_turn rfl ?_) ?_
  · exact ⟨by decide, fun w => by cases w <;> decide⟩
  refine forall_steps_cons CallsInTurn rfl (callsInTurn_of_turn rfl ?_) ?_
  · exact ⟨by decide, fun w => by cases w <;> decide⟩
  refine forall_steps_cons CallsInTurn rfl trivial ?_
  iterate 2 refine forall_steps_cons CallsInTurn rfl (callsInTurn_of_silent rfl nofun nofun) ?_
  refine forall_steps_cons CallsInTurn rfl (callsInTurn_of_turn rfl ?_) ?_
  · exact ⟨by decide, fun w => by cases w <;> decide⟩
  simp [steps]

/- A worker is given data of a client that another has registered but not yet reported. -/
theorem data_overtakes_accept :
    let es : List (WorkerEvent Bool) := [.accept true 5, .proceed true, .register true true,
      .readable false 5, .proceed false, .receive false (oneByte 65), .proceed false]
    ∃ s ∈ states step (listening 2 .zeroed : EpollWorkers Bool) es, ¬CallbacksOrderly s := by
  intro es
  obtain ⟨s, ends, calls⟩ : ∃ s, run step (listening 2 .zeroed) es = some s ∧
      s.callbacks.callsOf 1 = [.onReceive 1 [65]] := ⟨_, rfl, rfl⟩
  refine ⟨s, mem_states_of_run ends, ?_⟩
  intro orderly
  have first := orderly 1
  rw [calls] at first
  apply Callbacks.not_orderly_first _ first
  exact nofun

end KanchoNet.EpollWorkers
