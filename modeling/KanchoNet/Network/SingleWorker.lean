import KanchoNet.Network.StrandedInput
import KanchoNet.Network.WorkerStreams

/-!
EpollModel with one worker. Nobody closes a socket under it, so it reads every connection
for its own session only; and since it leaves nothing behind, each connected session has
been passed all that has arrived for it whenever the worker is back in epoll_wait.
-/
namespace KanchoNet
open LabelledRuns Tables

def HandlerStage.socketAtHand : HandlerStage → Option Fd
  | .setConnected socket | .registerSocket socket => some socket
  | _ => none

def WorkerEvent.gives {W : Type} : WorkerEvent W → Bool
  | .receive _ (.received _ _ _) => true
  | _ => false

namespace EpollWorkers
variable {W : Type}

/-- A registered socket, and one whose session a worker handles, is the connection of that
    session. -/
structure Owned (s : EpollWorkers W) : Prop where
  named : ∀ id session, s.mSessionManager.getSession id = some session → session.mID = id
  watched : ∀ socket id, s.interest.lookup socket = some id →
    s.sockets.lookup socket = some id ∧
    ∃ session, s.mSessionManager.getSession id = some session ∧ session.mSocket = socket
  served : ∀ w id stage, s.position w = some (id, stage) → stage ≠ .removeSession →
    ∃ session, s.mSessionManager.getSession id = some session ∧
      s.sockets.lookup session.mSocket = some id ∧
      ∀ socket, stage.socketAtHand = some socket → session.mSocket = socket
  leaving : ∀ w id, s.position w = some (id, .removeSession) →
    ∀ socket, s.interest.lookup socket ≠ some id

variable [DecidableEq W] [Subsingleton W]

theorem owned_moved {s t : EpollWorkers W} (owned : Owned s) {w : W}
    {position : Option (SessionID × HandlerStage)}
    (positions : t.position = (s.moveTo w position).position)
    (table : t.mSessionManager = s.mSessionManager) (interest : t.interest = s.interest)
    (sockets : t.sockets = s.sockets)
    (stands : ∀ id stage, position = some (id, stage) → stage ≠ .removeSession ∧
      ∃ session, s.mSessionManager.getSession id = some session ∧
        s.sockets.lookup session.mSocket = some id ∧
        ∀ socket, stage.socketAtHand = some socket → session.mSocket = socket) : Owned t := by
  have here : ∀ x, t.position x = position := by
    intro x
    rw [Subsingleton.elim x w, positions, position_moveTo_self]
  constructor
  · rw [table]
    exact owned.named
  · rw [table, interest, sockets]
    exact owned.watched
  · intro x id stage there _
    rw [table, sockets]
    exact (stands id stage ((here x).symm.trans there)).2
  · intro x id there
    exact absurd rfl (stands id _ ((here x).symm.trans there)).1

omit [DecidableEq W] [Subsingleton W] in
theorem serves_on {s : EpollWorkers W} (owned : Owned s) {w : W} {id : SessionID}
    {before : HandlerStage} (here : s.position w = some (id, before))
    (stays : before ≠ .removeSession) {position : Option (SessionID × HandlerStage)}
    (there : position = none ∨ ∃ stage, position = some (id, stage) ∧ stage ≠ .removeSession ∧
      ∀ socket, stage.socketAtHand = some socket → before.socketAtHand = some socket)
    (other : SessionID) (stage : HandlerStage) (same : position = some (other, stage)) :
    stage ≠ .removeSession ∧ ∃ session, s.mSessionManager.getSession other = some session ∧
      s.sockets.lookup session.mSocket = some other ∧
      ∀ socket, stage.socketAtHand = some socket → session.mSocket = socket := by
  obtain ⟨session, found, connection, atHand⟩ := owned.served w id before here stays
  rcases there with rfl | ⟨after, rfl, kept, sockets⟩
  · cases same
  · cases same
    exact ⟨kept, session, found, connection, fun socket own => atHand socket (sockets socket own)⟩

theorem stored_owned {s : EpollWorkers W} (owned : Owned s) {w : W} {id : SessionID}
    {before after : HandlerStage} (here : s.position w = some (id, before))
    (stays : before ≠ .removeSession) (kept : after ≠ .removeSession)
    (sockets : ∀ socket, after.socketAtHand = some socket → before.socketAtHand = some socket)
    {session : Session Fd} (found : s.mSessionManager.getSession id = some session)
    (state : SessionState) :
    Owned ((s.setSession id (session.setState state)).moveTo w (some (id, after))) := by
  have stored : ∀ other session', s.mSessionManager.getSession other = some session' →
      ∃ session'', (s.mSessionManager.store id (session.setState state)).getSession other =
        some session'' ∧ session''.mSocket = session'.mSocket := by
    intro other session' there
    by_cases same : other = id
    · subst same
      cases found.symm.trans there
      exact ⟨_, SessionManager.getSession_store_self _ _ _, rfl⟩
    · exact ⟨session', (SessionManager.getSession_store_ne _ _ same).trans there, rfl⟩
  constructor
  · intro other session' there
    rcases SessionManager.store_cases there with ⟨rfl, rfl⟩ | ⟨_, old⟩
    · exact owned.named other session found
    · exact owned.named other session' old
  · intro socket other seen
    obtain ⟨connection, session', there, own⟩ := owned.watched socket other seen
    obtain ⟨session'', now, same⟩ := stored other session' there
    exact ⟨connection, session'', now, same.trans own⟩
  · intro x other stage there _
    rw [Subsingleton.elim x w, position_moveTo_self] at there
    cases there
    obtain ⟨session', old, connection, atHand⟩ := owned.served w id before here stays
    obtain ⟨session'', now, same⟩ := stored id session' old
    exact ⟨session'', now, (congrArg s.sockets.lookup same).trans connection,
      fun socket own => same.trans (atHand socket (sockets socket own))⟩
  · intro x other there
    rw [Subsingleton.elim x w, position_moveTo_self] at there
    cases there
    exact absurd rfl kept

theorem closed_owned {s t : EpollWorkers W} (owned : Owned s) {w : W} {closed : Fd}
    {position : Option (SessionID × HandlerStage)}
    (positions : t.position = (s.moveTo w position).position)
    (table : t.mSessionManager = s.mSessionManager)
    (interest : t.interest = s.interest.erase closed) (sockets : t.sockets = s.sockets.erase closed)
    (there : position = none ∨ ∃ id, position = some (id, .removeSession) ∧
      ∀ socket, (s.interest.erase closed).lookup socket ≠ some id) : Owned t := by
  have here : ∀ x, t.position x = position := by
    intro x
    rw [Subsingleton.elim x w, positions, position_moveTo_self]
  constructor
  · rw [table]
    exact owned.named
  · intro socket id seen
    rw [interest] at seen
    rw [table, sockets]
    have different : socket ≠ closed := by
      rintro rfl
      rw [AList.lookup_erase] at seen
      cases seen
    rw [AList.lookup_erase_ne different]
    exact owned.watched socket id (lookup_of_erase seen)
  · intro x id stage stands stays
    rw [here x] at stands
    rcases there with rfl | ⟨other, rfl, _⟩
    · cases stands
    · cases stands
      exact absurd rfl stays
  · intro x id stands
    rw [here x] at stands
    rw [interest]
    rcases there with rfl | ⟨other, rfl, unwatched⟩
    · cases stands
    · cases stands
      exact unwatched

theorem accepted_owned {clients : Nat} {s : EpollWorkers W} (owned : Owned s)
    (placed : Placed clients s) (w : W) {socket : Fd} (unused : socket ∉ s.sockets) :
    Owned (s.acceptClient w socket) := by
  unfold acceptClient
  rcases s.mSessionManager.addSession_cases socket .default with full | ⟨m, added, _⟩
  · rw [full]
    exact owned
  · rw [added]
    obtain rfl := SessionManager.table_of_addSession added
    have old : ∀ id, id.toNat < s.mSessionManager.mNextSessionID.toNat →
        id ≠ s.mSessionManager.mNextSessionID := by
      rintro id before rfl
      exact Nat.lt_irrefl _ before
    constructor
    · intro id session found
      change (s.mSessionManager.mSessions.insert _ _).lookup id = some session at found
      by_cases new : id = s.mSessionManager.mNextSessionID
      · rw [new, AList.lookup_insert] at found
        cases found
        exact new.symm
      · rw [AList.lookup_insert_ne new] at found
        exact owned.named id session found
    · intro fd id seen
      obtain ⟨connection, session, found, own⟩ := owned.watched fd id seen
      have different : fd ≠ socket := by
        rintro rfl
        exact unused (AList.lookup_isSome.mp (by rw [connection]; rfl))
      exact ⟨(AList.lookup_insert_ne different).trans connection, session,
        (AList.lookup_insert_ne (old id (placed.watched fd id seen))).trans found, own⟩
    · intro x id stage there _
      dsimp only at there
      rw [Subsingleton.elim x w, position_moveTo_self] at there
      cases there
      exact ⟨_, AList.lookup_insert _, AList.lookup_insert _, fun fd own => Option.some.inj own⟩
    · intro x id there
      dsimp only at there
      rw [Subsingleton.elim x w, position_moveTo_self] at there
      cases there

theorem dispatched_owned {s : EpollWorkers W} (owned : Owned s) (w : W) {socket : Fd}
    {id : SessionID} {first : HandlerStage} (registered : s.interest.lookup socket = some id)
    (handler : first = .isConnected ∨ first = .isDisconnected) :
    Owned (s.moveTo w (some (id, first))) := by
  apply owned_moved owned rfl rfl rfl rfl
  rintro _ _ ⟨⟩
  obtain ⟨connection, session, found, rfl⟩ := owned.watched socket id registered
  rcases handler with rfl | rfl
  · exact ⟨nofun, session, found, connection, nofun⟩
  · exact ⟨nofun, session, found, connection, nofun⟩

theorem dispatch_owned {s t : EpollWorkers W} (owned : Owned s) {w : W} {socket : Fd}
    {first : HandlerStage} (handler : first = .isConnected ∨ first = .isDisconnected)
    (next : s.dispatch w socket first = some t) : Owned t := by
  unfold dispatch at next
  split at next
  · rename_i id _ registered
    cases next
    exact dispatched_owned owned w registered handler
  · cases next

theorem receive_owned {s t : EpollWorkers W} (owned : Owned s) {w : W} {id : SessionID}
    {answer : RecvAnswer} (here : s.position w = some (id, .recv))
    (next : s.receiveFrom w id answer = some t) : Owned t := by
  cases receiveFrom_advance here next with
  | received w data positive within id owner session here found connection =>
    exact owned_moved owned rfl rfl rfl rfl
      (serves_on owned here nofun (Or.inr ⟨_, rfl, nofun, nofun⟩))
  | ended w answer id next here there =>
    apply owned_moved owned rfl rfl rfl rfl (serves_on owned here nofun _)
    rcases there with rfl | rfl
    · exact Or.inl rfl
    · exact Or.inr ⟨_, rfl, nofun, nofun⟩
  | dispatched e w socket id first _ registered handler =>
    exact dispatched_owned owned w registered handler

theorem register_owned {s t : EpollWorkers W} (owned : Owned s) {w : W} {id : SessionID}
    {socket : Fd} {granted : Bool} (here : s.position w = some (id, .registerSocket socket))
    (next : s.registerSocket w id socket granted = some t) : Owned t := by
  unfold registerSocket at next
  split at next
  · cases next
    obtain ⟨session, found, connection, atHand⟩ := owned.served w id _ here nofun
    obtain rfl := atHand socket rfl
    have moved : Owned (s.moveTo w (some (id, .onAccept))) :=
      owned_moved owned rfl rfl rfl rfl
        (serves_on owned here nofun (Or.inr ⟨_, rfl, nofun, nofun⟩))
    refine ⟨moved.named, ?_, moved.served, ?_⟩
    · intro fd other seen
      change (s.interest.insert session.mSocket id).lookup fd = some other at seen
      by_cases same : fd = session.mSocket
      · rw [same, AList.lookup_insert] at seen
        cases seen
        exact ⟨same ▸ connection, session, found, same.symm⟩
      · rw [AList.lookup_insert_ne same] at seen
        exact owned.watched fd other seen
    · intro x other there
      dsimp only at there
      rw [Subsingleton.elim x w, position_moveTo_self] at there
      cases there
  · obtain ⟨session, found, rfl⟩ := Option.map_eq_some_iff.mp next
    exact closed_owned owned rfl rfl rfl rfl (Or.inl rfl)

theorem proceed_owned {s t : EpollWorkers W} (owned : Owned s) {w : W}
    (next : step s (.proceed w) = some t) : Owned t := by
  obtain ⟨⟨id, stage⟩, here, next⟩ := Option.bind_eq_some_iff.mp next
  have onward {before stage' : HandlerStage} (stands : s.position w = some (id, before))
      (stays : before ≠ .removeSession) (kept : stage' ≠ .removeSession)
      (none : stage'.socketAtHand = none) :=
    serves_on owned stands stays (Or.inr ⟨stage', rfl, kept, by simp [none]⟩)
  cases stage with
  | setConnected socket =>
    obtain ⟨session, found, rfl⟩ := Option.map_eq_some_iff.mp next
    refine stored_owned owned here nofun ?_ ?_ found _
    · nofun
    · exact fun _ own => own
  | registerSocket socket | recv => cases next
  | onAccept =>
    cases next
    exact owned_moved owned rfl rfl rfl rfl (serves_on owned here nofun (Or.inl rfl))
  | isConnected =>
    obtain ⟨session, found, rfl⟩ := Option.map_eq_some_iff.mp next
    split
    · exact owned_moved owned rfl rfl rfl rfl (serves_on owned here nofun (Or.inl rfl))
    · exact owned_moved owned rfl rfl rfl rfl (onward here nofun nofun rfl)
  | onReceive bytesRead =>
    cases next
    exact owned_moved owned rfl rfl rfl rfl (onward here nofun nofun rfl)
  | isDisconnected =>
    obtain ⟨session, found, rfl⟩ := Option.map_eq_some_iff.mp next
    split
    · exact owned_moved owned rfl rfl rfl rfl (serves_on owned here nofun (Or.inl rfl))
    · exact owned_moved owned rfl rfl rfl rfl (onward here nofun nofun rfl)
  | setDisconnected =>
    obtain ⟨session, found, rfl⟩ := Option.map_eq_some_iff.mp next
    refine stored_owned owned here nofun ?_ ?_ found _
    · nofun
    · nofun
  | onDisconnect =>
    cases next
    exact owned_moved owned rfl rfl rfl rfl (onward here nofun nofun rfl)
  | closeSocket =>
    obtain ⟨session, found, rfl⟩ := Option.map_eq_some_iff.mp next
    refine closed_owned owned rfl rfl rfl rfl (Or.inr ⟨id, rfl, fun socket seen => ?_⟩)
    -- the socket registered for the session is the one that was closed
    obtain ⟨_, session', there, own⟩ := owned.watched socket id (lookup_of_erase seen)
    cases found.symm.trans there
    rw [own, AList.lookup_erase] at seen
    cases seen
  | removeSession =>
    obtain ⟨session, found, rfl⟩ := Option.map_eq_some_iff.mp next
    obtain rfl := owned.named id session found
    have done : ∀ x, ({ s.moveTo w none with
        mSessionManager := (s.mSessionManager.removeSession session.mID).2 } :
          EpollWorkers W).position x = none := by
      intro x
      dsimp only
      rw [Subsingleton.elim x w, position_moveTo_self]
    constructor
    · intro other session' there
      have different : other ≠ session.mID := by
        rintro rfl
        cases (SessionManager.getSession_removeSession_self _ _).symm.trans there
      exact owned.named other session'
        ((SessionManager.getSession_removeSession_ne _ different).symm.trans there)
    · intro socket other seen
      have different : other ≠ session.mID := by
        rintro rfl
        exact owned.leaving w _ here socket seen
      obtain ⟨connection, session', there, own⟩ := owned.watched socket other seen
      exact ⟨connection, session',
        (SessionManager.getSession_removeSession_ne _ different).trans there, own⟩
    · intro x other stage there
      cases (done x).symm.trans there
    · intro x other there
      cases (done x).symm.trans there

theorem step_owned {clients : Nat} {s t : EpollWorkers W} {e : WorkerEvent W} (owned : Owned s)
    (placed : Placed clients s) (next : step s e = some t) : Owned t := by
  cases e with
  | accept w socket =>
    simp only [step, Option.ite_none_right_eq_some, Option.some.injEq] at next
    obtain ⟨⟨_, unused⟩, rfl⟩ := next
    exact accepted_owned owned placed w unused
  | readable w socket => exact dispatch_owned owned (Or.inl rfl) next
  | hangUp w socket => exact dispatch_owned owned (Or.inr rfl) next
  | register w granted =>
    obtain ⟨id, socket, here, next⟩ := register_stands next
    exact register_owned owned here next
  | receive w answer =>
    obtain ⟨id, here, next⟩ := receive_stands next
    exact receive_owned owned here next
  | proceed w => exact proceed_owned owned next

/- One worker calls mOnReceive before its next recv(), which is on its own connection. -/
theorem receives_alone {s t : EpollWorkers W} {e : WorkerEvent W} (owned : Owned s)
    (next : step s e = some t) : ReceivesAlone s e := by
  cases e with
  | receive w answer =>
    cases answer with
    | received data positive within =>
      obtain ⟨id, here, _⟩ := receive_stands next
      constructor
      · intro other
        rw [Subsingleton.elim other w, here]
        rfl
      · intro id' session same found
        cases here.symm.trans same
        obtain ⟨session', there, connection, _⟩ := owned.served w id _ here HandlerStage.noConfusion
        cases found.symm.trans there
        exact connection
    | closed | wouldBlock | failed => trivial
  | _ => trivial

omit [Subsingleton W] in
/- Only a recv() that gives data reads, and ids only go up as long as they last. -/
theorem step_counts {clients : Nat} {s t : EpollWorkers W} {e : WorkerEvent W}
    (placed : Placed clients s) (next : step s e = some t)
    (few : e.accepts = true → clients < 2 ^ 64 - 2) :
    (e.gives = false → t.reads = s.reads) ∧
    s.mSessionManager.mNextSessionID.toNat ≤ t.mSessionManager.mNextSessionID.toNat := by
  cases step_advance next with
  | accepted w socket mSessionManager idle added =>
    have counter := placed.counter
    have room := few rfl
    have advanced : (s.mSessionManager.mNextSessionID + 1).toNat =
        s.mSessionManager.mNextSessionID.toNat + 1 := SessionManager.next_toNat (by omega)
    obtain rfl := SessionManager.table_of_addSession added
    refine ⟨fun _ => rfl, ?_⟩
    change _ ≤ (s.mSessionManager.mNextSessionID + 1).toNat
    omega
  | received w data positive within =>
    exact ⟨fun none => absurd none Bool.true_eq_false.mp, Nat.le_refl _⟩
  | removed w id session here found =>
    refine ⟨fun _ => rfl, ?_⟩
    dsimp only
    rw [SessionManager.mNextSessionID_removeSession]
  | _ => exact ⟨fun _ => rfl, Nat.le_refl _⟩

end EpollWorkers

namespace EdgeTriggered
variable {W : Type}

def arrivedTo (s : EdgeTriggered W) (id : SessionID) : List UInt8 :=
  s.arrived.flatMap fun chunk => if chunk.1 = id then chunk.2 else []

structure Accounted (s : EdgeTriggered W) : Prop where
  balance : ∀ id, s.arrivedTo id = s.workers.readOf id ++ s.inbox id
  fresh : ∀ id, s.inbox id ≠ [] →
    id.toNat < s.workers.mSessionManager.mNextSessionID.toNat

/-- The workers are in epoll_wait, and it has nothing to report. -/
structure AtRest (s : EdgeTriggered W) : Prop where
  waiting : ∀ w, s.workers.position w = none
  taken : ∀ w, s.batch w = []
  reported : ∀ socket ∈ s.edges, socket ∉ s.workers.interest

theorem read_up {s : EdgeTriggered W} (nothing : NothingStranded s) (rest : AtRest s)
    {id : SessionID} {session : Session Fd} (watching : Watching s id session) :
    s.inbox id = [] ∧ s.finished id = false := by
  have unnoticed : ¬Noticed s id session.mSocket := by
    rintro (edge | ⟨w, given⟩ | ⟨w, stage, here, _⟩)
    · refine rest.reported _ edge (AList.lookup_isSome.mp ?_)
      rw [watching.watched]
      rfl
    · rw [rest.taken w] at given
      cases given
    · rw [rest.waiting w] at here
      cases here
  have read : ¬Unread s id := fun unread => unnoticed (nothing id session watching unread)
  constructor
  · by_contra left
    exact read (Or.inl left)
  · by_contra ended
    exact read (Or.inr (Bool.eq_true_of_not_eq_false ended))

theorem accounted_of_same {s t : EdgeTriggered W} (accounted : Accounted s)
    (arrived : t.arrived = s.arrived) (reads : t.workers.reads = s.workers.reads)
    (inbox : t.inbox = s.inbox)
    (counter : s.workers.mSessionManager.mNextSessionID.toNat ≤
      t.workers.mSessionManager.mNextSessionID.toNat) : Accounted t := by
  constructor
  · intro id
    have before := accounted.balance id
    unfold arrivedTo EpollWorkers.readOf at before ⊢
    rw [arrived, reads, inbox]
    exact before
  · intro id left
    rw [inbox] at left
    exact (accounted.fresh id left).trans_le counter

theorem arrived_accounted {clients : Nat} {s : EdgeTriggered W} (accounted : Accounted s)
    (placed : s.workers.Placed clients) {socket : Fd} {owner : SessionID}
    (owned : s.workers.sockets.lookup socket = some owner) (data : List UInt8) :
    Accounted { s with
      inbox := Function.update s.inbox owner (s.inbox owner ++ data)
      arrived := s.arrived ++ [(owner, data)] } := by
  constructor
  · intro id
    have before := accounted.balance id
    unfold arrivedTo at before ⊢
    rw [List.flatMap_append, List.flatMap_singleton, before]
    by_cases here : id = owner
    · subst here
      simp
    · simp [here, Ne.symm here]
  · intro id left
    by_cases here : id = owner
    · exact here ▸ placed.connected socket owner owned
    · apply accounted.fresh id
      simpa only [Function.update_of_ne here] using left

variable [DecidableEq W]

theorem received_accounted {s : EdgeTriggered W} (accounted : Accounted s) {amount : Nat}
    {t : EdgeTriggered W} (next : step s (.receive w amount) = some t) : Accounted t := by
  simp only [step] at next
  split at next
  · rename_i id here
    obtain ⟨session, found, next⟩ := Option.bind_eq_some_iff.mp next
    obtain ⟨owner, connection, next⟩ := Option.bind_eq_some_iff.mp next
    obtain ⟨u, ran, rfl⟩ := Option.map_eq_some_iff.mp next
    simp only [EpollWorkers.step, here, EpollWorkers.receiveFrom, found, Option.bind_some,
      connection] at ran
    by_cases empty : s.inbox owner = []
    · have same : Function.update s.inbox owner ((s.inbox owner).drop (took amount)) = s.inbox := by
        rw [empty, List.drop_nil, ← empty, Function.update_eq_self]
      by_cases ended : s.finished owner = true
      · rw [show recvAnswer (s.inbox owner) (s.finished owner) amount = .closed by
          simp [recvAnswer, empty, ended]] at ran
        cases ran
        exact accounted_of_same accounted rfl rfl same (Nat.le_refl _)
      · rw [show recvAnswer (s.inbox owner) (s.finished owner) amount = .wouldBlock by
          simp [recvAnswer, empty, ended]] at ran
        cases ran
        exact accounted_of_same accounted rfl rfl same (Nat.le_refl _)
    · rw [recvAnswer, dif_pos empty] at ran
      cases ran
      constructor
      · intro other
        have before := accounted.balance other
        unfold arrivedTo EpollWorkers.readOf at before ⊢
        rw [before, List.flatMap_append, List.flatMap_singleton, List.append_assoc]
        by_cases same : other = owner
        · subst same
          simp
        · simp [same, Ne.symm same]
      · intro other left
        by_cases same : other = owner
        · exact accounted.fresh other (same ▸ empty)
        · apply accounted.fresh other
          simpa only [Function.update_of_ne same] using left
  · cases next

theorem accept_accounted {clients : Nat} {s : EdgeTriggered W} (accounted : Accounted s)
    (placed : s.workers.Placed clients) (few : clients < 2 ^ 64 - 2) {w : W} {socket : Fd}
    {t : EdgeTriggered W} (next : step s (.accept w socket) = some t) : Accounted t := by
  obtain ⟨u, ran, rfl⟩ := Option.map_eq_some_iff.mp next
  obtain ⟨reads, counter⟩ := EpollWorkers.step_counts placed ran fun _ => few
  refine accounted_of_same accounted rfl (reads rfl) ?_ counter
  -- the new id has not been used
  have unused : s.inbox s.workers.mSessionManager.mNextSessionID = [] := by
    by_contra used
    exact Nat.lt_irrefl _ (accounted.fresh _ used)
  exact (congrArg _ unused.symm).trans (Function.update_eq_self _ _)

theorem step_accounted {clients : Nat} {s t : EdgeTriggered W} {e : KernelEvent W}
    (accounted : Accounted s) (placed : s.workers.Placed clients)
    (few : e.accepts = true → clients < 2 ^ 64 - 2) (next : step s e = some t) : Accounted t := by
  cases e with
  | arrive socket data =>
    obtain ⟨owner, owned, rfl⟩ := Option.map_eq_some_iff.mp next
    have after := arrived_accounted accounted placed owned data
    unfold signal
    split
    · exact accounted_of_same after rfl rfl rfl (Nat.le_refl _)
    · exact after
  | finish socket =>
    obtain ⟨owner, owned, rfl⟩ := Option.map_eq_some_iff.mp next
    unfold signal
    split <;> exact accounted_of_same accounted rfl rfl rfl (Nat.le_refl _)
  | modify socket | wait w sockets =>
    simp only [step, Option.ite_none_right_eq_some, Option.some.injEq] at next
    obtain ⟨_, rfl⟩ := next
    exact accounted_of_same accounted rfl rfl rfl (Nat.le_refl _)
  | accept w socket => exact accept_accounted accounted placed (few rfl) next
  | receive w amount => exact received_accounted accounted next
  | register w granted =>
    obtain ⟨u, ran, rfl⟩ := Option.map_eq_some_iff.mp next
    obtain ⟨reads, counter⟩ := EpollWorkers.step_counts placed ran few
    have after : Accounted { s with workers := u } :=
      accounted_of_same accounted rfl (reads rfl) rfl counter
    dsimp only
    split
    · split
      · exact accounted_of_same after rfl rfl rfl (Nat.le_refl _)
      · exact after
    · exact after
  | readable w | hangUp w =>
    simp only [step] at next
    split at next
    · cases next
    · obtain ⟨u, ran, rfl⟩ := Option.map_eq_some_iff.mp next
      obtain ⟨reads, counter⟩ := EpollWorkers.step_counts placed ran few
      exact accounted_of_same accounted rfl (reads rfl) rfl counter
  | fail w | proceed w =>
    obtain ⟨u, ran, rfl⟩ := Option.map_eq_some_iff.mp next
    obtain ⟨reads, counter⟩ := EpollWorkers.step_counts placed ran few
    exact accounted_of_same accounted rfl (reads rfl) rfl counter

structure Served (clients : Nat) (s : EdgeTriggered W) : Prop where
  attended : Attended clients s
  owned : s.workers.Owned
  flowing : s.workers.Flowing
  accounted : Accounted s

theorem step_served [Subsingleton W] (clients : Nat) (s : EdgeTriggered W) (e : KernelEvent W)
    (t : EdgeTriggered W) (served : Served clients s)
    (few : e.accepts = true → clients < 2 ^ 64 - 2) (next : step s e = some t) :
    Served (clients + if e.accepts then 1 else 0) t := by
  have attended := step_attended clients s e t served.attended few next
  have accounted := step_accounted served.accounted served.attended.placed few next
  rcases step_workers next with ⟨same, _⟩ | ⟨below, ran, _⟩
  · exact ⟨attended, same ▸ served.owned, same ▸ served.flowing, accounted⟩
  · exact ⟨attended, EpollWorkers.step_owned served.owned served.attended.placed ran,
      EpollWorkers.step_flowing _ below _ served.flowing
        (EpollWorkers.receives_alone served.owned ran) ran, accounted⟩

omit [DecidableEq W] in
theorem start_served (maxSessions : UInt32) (buffer : ReceiveBuffer) :
    Served 0 (start (EpollWorkers.listening maxSessions buffer) : EdgeTriggered W) where
  attended := start_attended maxSessions buffer
  owned := ⟨nofun, nofun, nofun, nofun⟩
  flowing := EpollWorkers.listening_flowing maxSessions buffer
  accounted := ⟨fun _ => rfl, fun _ left => absurd rfl left⟩

/-- In every run of a listening model with one worker and fewer connections than there are
    ids, whatever arrives between its steps: mOnReceive has been passed a prefix of what has
    arrived for each session, and all of it for each connected session, none of which the
    client has ended, whenever the worker waits and epoll_wait has nothing to report. -/
theorem one_worker_delivers [Subsingleton W] (maxSessions : UInt32) (buffer : ReceiveBuffer)
    (es : List (KernelEvent W)) (few : es.countP KernelEvent.accepts ≤ 2 ^ 64 - 2) :
    ∀ t ∈ states step (start (EpollWorkers.listening maxSessions buffer)) es,
      (∀ id, t.workers.callbacks.deliveredTo id <+: t.arrivedTo id) ∧
      (AtRest t → ∀ id session, Watching t id session →
        t.workers.callbacks.deliveredTo id = t.arrivedTo id ∧ t.finished id = false) := by
  intro t member
  obtain ⟨clients, served⟩ := invariant_of_budget step_served es 0 _
    (start_served maxSessions buffer) (by omega) t member
  constructor
  · intro id
    rw [served.accounted.balance id]
    exact (EpollWorkers.flowing_intact served.flowing id).trans (List.prefix_append _ _)
  · intro rest id session watching
    obtain ⟨empty, open_⟩ := read_up served.attended.nothing rest watching
    refine ⟨?_, open_⟩
    rw [served.accounted.balance id, empty, List.append_nil]
    cases served.flowing.streaming with
    | settled nobody streams => exact (streams id).symm
    | held w owner bytesRead here =>
      rw [rest.waiting w] at here
      cases here

/- A byte that arrives while the worker is about to call mOnAccept. -/
theorem early_byte_delivered : let early : List (KernelEvent Unit) :=
      [.accept () 5, .proceed (), .register () true, .arrive 5 [72], .proceed (),
        .wait () [5], .readable (), .proceed (), .receive () 0, .proceed (), .receive () 0]
    ∀ t ∈ states step (start (EpollWorkers.listening 2 .zeroed)) early,
      (∀ id, t.workers.callbacks.deliveredTo id <+: t.arrivedTo id) ∧
      (AtRest t → ∀ id session, Watching t id session →
        t.workers.callbacks.deliveredTo id = t.arrivedTo id ∧ t.finished id = false) :=
  one_worker_delivers 2 .zeroed _ (by decide)

end EdgeTriggered
end KanchoNet
