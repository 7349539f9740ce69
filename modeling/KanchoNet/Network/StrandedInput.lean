import KanchoNet.Network.EdgeTriggered
import KanchoNet.Network.WorkerPlaces

/-!
No input is left behind by the workers of an EpollModel. An edge reports a socket once,
so whoever takes it up has to read until nothing is left; what arrives after that makes
an edge of its own.
-/
namespace KanchoNet
open LabelledRuns Tables

def HandlerStage.attends : HandlerStage → Bool
  | .isConnected | .recv | .onReceive _ | .isDisconnected | .setDisconnected => true
  | _ => false

namespace EdgeTriggered
variable {W : Type}

structure Watching (s : EdgeTriggered W) (id : SessionID) (session : Session Fd) : Prop where
  found : s.workers.mSessionManager.getSession id = some session
  connected : session.isConnected = true
  watched : s.workers.interest.lookup session.mSocket = some id
  owned : s.workers.sockets.lookup session.mSocket = some id

def Unread (s : EdgeTriggered W) (id : SessionID) : Prop :=
  s.inbox id ≠ [] ∨ s.finished id = true

/-- epoll_wait is still to report the socket, or has reported it to a worker that is
    still to come to it, or a worker attends to the session. -/
def Noticed (s : EdgeTriggered W) (id : SessionID) (socket : Fd) : Prop :=
  socket ∈ s.edges ∨ (∃ w, socket ∈ s.batch w) ∨
    ∃ w stage, s.workers.position w = some (id, stage) ∧ stage.attends = true

/-- No input of a connected session is left behind. -/
def NothingStranded (s : EdgeTriggered W) : Prop :=
  ∀ id session, Watching s id session → Unread s id → Noticed s id session.mSocket

theorem ready_iff {s : EdgeTriggered W} {socket : Fd} {id : SessionID}
    (owned : s.workers.sockets.lookup socket = some id) :
    s.ready socket = true ↔ Unread s id := by
  simp [ready, owned, Unread]

theorem noticed_of_edges {s t : EdgeTriggered W} {id : SessionID} {socket : Fd}
    (noticed : Noticed s id socket) (workers : t.workers.position = s.workers.position)
    (batch : t.batch = s.batch) (edges : socket ∈ s.edges → socket ∈ t.edges) :
    Noticed t id socket := by
  rcases noticed with edge | given | ⟨w, stage, here, attends⟩
  · exact Or.inl (edges edge)
  · exact Or.inr (Or.inl (batch ▸ given))
  · exact Or.inr (Or.inr ⟨w, stage, workers ▸ here, attends⟩)

theorem rearm_nothingStranded {s : EdgeTriggered W} {socket : Fd}
    (others : ∀ id session, Watching s id session → session.mSocket ≠ socket → Unread s id →
      Noticed s id session.mSocket) : NothingStranded (s.rearm socket) := by
  intro id session watching unread
  have before : Watching s id session :=
    ⟨watching.found, watching.connected, watching.watched, watching.owned⟩
  by_cases here : session.mSocket = socket
  · have reported : s.ready socket = true := (ready_iff (here ▸ before.owned)).mpr unread
    left
    simp [rearm, reported, here]
  · refine noticed_of_edges (others id session before here unread) rfl rfl ?_
    intro edge
    have kept : session.mSocket ∈ s.edges.filter (· ≠ socket) :=
      List.mem_filter.mpr ⟨edge, by simpa using here⟩
    unfold rearm
    dsimp only
    split
    · exact List.mem_cons_of_mem _ kept
    · exact kept

theorem signal_nothingStranded {clients : Nat} {s t : EdgeTriggered W}
    (placed : s.workers.Placed clients) (nothing : NothingStranded s) {socket : Fd}
    {owner : SessionID} (owned : s.workers.sockets.lookup socket = some owner)
    (workers : t.workers = s.workers) (edges : t.edges = s.edges) (batch : t.batch = s.batch)
    (unread : ∀ id, id ≠ owner → Unread t id → Unread s id) :
    NothingStranded (t.signal socket) := by
  have same : (t.signal socket).workers = s.workers ∧ (t.signal socket).batch = s.batch ∧
      (∀ id, Unread (t.signal socket) id ↔ Unread t id) ∧
      ∀ fd ∈ s.edges, fd ∈ (t.signal socket).edges := by
    unfold signal
    split
    · exact ⟨workers, batch, fun _ => Iff.rfl, fun _ edge => List.mem_cons_of_mem _ (edges ▸ edge)⟩
    · exact ⟨workers, batch, fun _ => Iff.rfl, fun _ edge => edges ▸ edge⟩
  intro id session watching waits
  have before : Watching s id session := by
    obtain ⟨found, connected, watched, owned⟩ := watching
    rw [same.1] at found watched owned
    exact ⟨found, connected, watched, owned⟩
  rw [same.2.2.1] at waits
  by_cases here : session.mSocket = socket
  · left
    have registered : socket ∈ t.workers.interest := by
      rw [workers, ← AList.lookup_isSome, ← here, before.watched]
      rfl
    rw [signal, if_pos registered, here]
    exact List.mem_cons_self
  · have different : id ≠ owner := by
      rintro rfl
      exact here (placed.single _ _ id before.owned owned)
    exact noticed_of_edges (nothing id session before (unread id different waits))
      (congrArg EpollWorkers.position same.1) same.2.1 (same.2.2.2 _)

theorem waited_nothingStranded [DecidableEq W] {s : EdgeTriggered W} (nothing : NothingStranded s)
    {w : W} (empty : s.batch w = []) (sockets : List Fd) :
    NothingStranded { s with
      edges := s.edges.filter fun socket => !sockets.contains socket
      batch := Function.update s.batch w sockets } := by
  intro id session watching unread
  have before : Watching s id session :=
    ⟨watching.found, watching.connected, watching.watched, watching.owned⟩
  rcases nothing id session before unread with edge | ⟨x, given⟩ | attended
  · by_cases reported : session.mSocket ∈ sockets
    · refine Or.inr (Or.inl ⟨w, ?_⟩)
      simp only [Function.update_self]
      exact reported
    · exact Or.inl (List.mem_filter.mpr ⟨edge, by simpa using reported⟩)
  · refine Or.inr (Or.inl ⟨x, ?_⟩)
    have different : x ≠ w := by
      rintro rfl
      rw [empty] at given
      cases given
    simp only [Function.update_of_ne different]
    exact given
  · exact Or.inr (Or.inr attended)

variable [DecidableEq W]

theorem noticed_moved {s t : EdgeTriggered W} {id : SessionID} {socket : Fd}
    (noticed : Noticed s id socket) {w : W} {position : Option (SessionID × HandlerStage)}
    (positions : t.workers.position = (s.workers.moveTo w position).position)
    (edges : t.edges = s.edges) (batch : t.batch = s.batch)
    (onward : ∀ stage, s.workers.position w = some (id, stage) → stage.attends = true →
      ∃ stage', position = some (id, stage') ∧ stage'.attends = true) : Noticed t id socket := by
  rcases noticed with edge | given | ⟨x, stage, here, attends⟩
  · exact Or.inl (edges ▸ edge)
  · exact Or.inr (Or.inl (batch ▸ given))
  · refine Or.inr (Or.inr ?_)
    by_cases same : x = w
    · subst same
      obtain ⟨stage', there, attends'⟩ := onward stage here attends
      exact ⟨x, stage', by rw [positions, EpollWorkers.position_moveTo_self, there], attends'⟩
    · exact ⟨x, stage, by rw [positions, EpollWorkers.position_moveTo_ne same, here], attends⟩

theorem moved_nothingStranded {s t : EdgeTriggered W} (nothing : NothingStranded s) {w : W}
    {position : Option (SessionID × HandlerStage)}
    (positions : t.workers.position = (s.workers.moveTo w position).position)
    (edges : t.edges = s.edges) (batch : t.batch = s.batch)
    (watching : ∀ id session, Watching t id session → Unread t id →
      Watching s id session ∧ Unread s id)
    (onward : ∀ id stage session, s.workers.position w = some (id, stage) →
      stage.attends = true → Watching t id session → Unread t id →
      ∃ stage', position = some (id, stage') ∧ stage'.attends = true) : NothingStranded t := by
  intro id session watched unread
  obtain ⟨before, waited⟩ := watching id session watched unread
  exact noticed_moved (nothing id session before waited) positions edges batch
    fun stage here attends => onward id stage session here attends watched unread

section Workers
variable {clients : Nat} {s : EdgeTriggered W} {w : W}

theorem stayed_nothingStranded (nothing : NothingStranded s) {u : EpollWorkers W}
    {position : Option (SessionID × HandlerStage)} {id : SessionID} {before : HandlerStage}
    (here : s.workers.position w = some (id, before))
    (positions : u.position = (s.workers.moveTo w position).position)
    (table : u.mSessionManager = s.workers.mSessionManager)
    (interest : u.interest = s.workers.interest) (sockets : u.sockets = s.workers.sockets)
    (there : before.attends = true → (∃ stage, position = some (id, stage) ∧ stage.attends = true) ∨
      ∀ session, Watching s id session → ¬Unread s id) :
    NothingStranded { s with workers := u } := by
  have watching : ∀ other session, Watching { s with workers := u } other session →
      Watching s other session := by
    rintro other session ⟨found, connected, watched, owned⟩
    rw [table] at found
    rw [interest] at watched
    rw [sockets] at owned
    exact ⟨found, connected, watched, owned⟩
  refine moved_nothingStranded (t := { s with workers := u }) nothing positions rfl rfl ?_ ?_
  · exact fun other session watched unread => ⟨watching other session watched, unread⟩
  · intro other stage session stood attends watched unread
    cases here.symm.trans stood
    rcases there attends with onward | never
    · exact onward
    · exact absurd unread (never session (watching _ session watched))

theorem closed_nothingStranded (nothing : NothingStranded s) {u : EpollWorkers W}
    {position : Option (SessionID × HandlerStage)} {id : SessionID} {before : HandlerStage}
    (here : s.workers.position w = some (id, before)) (done : before.attends = false)
    (positions : u.position = (s.workers.moveTo w position).position)
    (table : u.mSessionManager = s.workers.mSessionManager) {closed : Fd}
    (interest : u.interest = s.workers.interest.erase closed)
    (sockets : u.sockets = s.workers.sockets.erase closed) :
    NothingStranded { s with workers := u } := by
  refine moved_nothingStranded (t := { s with workers := u }) nothing positions rfl rfl ?_ ?_
  · rintro other session ⟨found, connected, watched, owned⟩ unread
    rw [table] at found
    rw [interest] at watched
    rw [sockets] at owned
    exact ⟨⟨found, connected, lookup_of_erase watched,
      lookup_of_erase owned⟩, unread⟩
  · intro other stage session stood attends _ _
    cases here.symm.trans stood
    cases done.symm.trans attends

theorem stored_nothingStranded (nothing : NothingStranded s) {id : SessionID}
    {before after : HandlerStage} {session : Session Fd} {state : SessionState}
    (here : s.workers.position w = some (id, before))
    (found : s.workers.mSessionManager.getSession id = some session)
    (unwatched : state = .connected → ∀ socket, s.workers.interest.lookup socket ≠ some id) :
    NothingStranded { s with
      workers :=
        (s.workers.setSession id (session.setState state)).moveTo w (some (id, after)) } := by
  have own : ∀ session', ¬Watching { s with workers :=
      (s.workers.setSession id (session.setState state)).moveTo w (some (id, after)) } id
        session' := by
    rintro session' ⟨there, connected, watched, owned⟩
    cases (SessionManager.getSession_store_self _ id _).symm.trans there
    by_cases joins : state = .connected
    · exact unwatched joins _ watched
    · exact joins (by simpa [Session.isConnected, Session.setState] using connected)
  refine moved_nothingStranded (t := { s with workers :=
    (s.workers.setSession id (session.setState state)).moveTo w (some (id, after)) })
    nothing rfl rfl rfl ?_ ?_
  · rintro other session' watching unread
    have different : other ≠ id := by
      rintro rfl
      exact own session' watching
    obtain ⟨there, connected, watched, owned⟩ := watching
    exact ⟨⟨(SessionManager.getSession_store_ne _ _ different).symm.trans there, connected,
      watched, owned⟩, unread⟩
  · intro other stage session' stood attends watching _
    cases here.symm.trans stood
    exact absurd watching (own session')

theorem proceed_nothingStranded (placed : s.workers.Placed clients) (nothing : NothingStranded s)
    {u : EpollWorkers W} (next : EpollWorkers.step s.workers (.proceed w) = some u) :
    NothingStranded { s with workers := u } := by
  obtain ⟨⟨id, stage⟩, here, next⟩ := Option.bind_eq_some_iff.mp next
  cases stage with
  | setConnected socket =>
    obtain ⟨session, found, rfl⟩ := Option.map_eq_some_iff.mp next
    exact stored_nothingStranded nothing here found fun _ => (placed.entering w id _ here rfl).1
  | registerSocket socket | recv => cases next
  | onAccept =>
    cases next
    exact stayed_nothingStranded nothing here rfl rfl rfl rfl nofun
  | isConnected =>
    obtain ⟨session, found, rfl⟩ := Option.map_eq_some_iff.mp next
    split
    · rename_i refused
      refine stayed_nothingStranded nothing here rfl rfl rfl rfl fun _ => Or.inr ?_
      rintro session' ⟨there, connected, _, _⟩ _
      cases found.symm.trans there
      exact refused connected
    · exact stayed_nothingStranded nothing here rfl rfl rfl rfl fun _ => Or.inl ⟨_, rfl, rfl⟩
  | onReceive bytesRead =>
    cases next
    exact stayed_nothingStranded nothing here rfl rfl rfl rfl fun _ => Or.inl ⟨_, rfl, rfl⟩
  | isDisconnected =>
    obtain ⟨session, found, rfl⟩ := Option.map_eq_some_iff.mp next
    split
    · rename_i gone
      refine stayed_nothingStranded nothing here rfl rfl rfl rfl fun _ => Or.inr ?_
      rintro session' ⟨there, connected, _, _⟩ _
      cases found.symm.trans there
      simp only [Session.isConnected, Session.isDisconnected, beq_iff_eq] at connected gone
      cases connected.symm.trans gone
    · exact stayed_nothingStranded nothing here rfl rfl rfl rfl fun _ => Or.inl ⟨_, rfl, rfl⟩
  | setDisconnected =>
    obtain ⟨session, found, rfl⟩ := Option.map_eq_some_iff.mp next
    exact stored_nothingStranded nothing here found nofun
  | onDisconnect =>
    cases next
    exact stayed_nothingStranded nothing here rfl rfl rfl rfl nofun
  | closeSocket =>
    obtain ⟨session, found, rfl⟩ := Option.map_eq_some_iff.mp next
    exact closed_nothingStranded nothing here rfl rfl rfl rfl rfl
  | removeSession =>
    obtain ⟨session, found, rfl⟩ := Option.map_eq_some_iff.mp next
    refine moved_nothingStranded (t := { s with workers := { s.workers.moveTo w none with
      mSessionManager := (s.workers.mSessionManager.removeSession session.mID).2 } })
      nothing rfl rfl rfl ?_ ?_
    · rintro other session' ⟨there, connected, watched, owned⟩ unread
      have different : other ≠ session.mID := by
        rintro rfl
        cases (SessionManager.getSession_removeSession_self _ _).symm.trans there
      exact ⟨⟨(SessionManager.getSession_removeSession_ne _ different).symm.trans there,
        connected, watched, owned⟩, unread⟩
    · intro other stage session' stood attends _ _
      cases here.symm.trans stood
      cases attends

theorem dispatched_nothingStranded (nothing : NothingStranded s) {socket : Fd} {rest : List Fd}
    (given : s.batch w = socket :: rest) {first : HandlerStage} (attends : first.attends = true)
    {u : EpollWorkers W} (next : s.workers.dispatch w socket first = some u) :
    NothingStranded { s with workers := u, batch := Function.update s.batch w rest } := by
  unfold EpollWorkers.dispatch at next
  split at next
  · rename_i id idle registered
    cases next
    rintro other session ⟨found, connected, watched, owned⟩ unread
    have own : ((s.workers.moveTo w (some (id, first))).position w) = some (id, first) :=
      EpollWorkers.position_moveTo_self w _ _
    rcases nothing other session ⟨found, connected, watched, owned⟩ unread with
      edge | ⟨x, listed⟩ | ⟨x, stage, here, serves⟩
    · exact Or.inl edge
    · by_cases same : x = w
      · subst same
        rw [given] at listed
        rcases List.mem_cons.mp listed with head | later
        · rw [head] at watched
          cases registered.symm.trans watched
          exact Or.inr (Or.inr ⟨x, first, own, attends⟩)
        · refine Or.inr (Or.inl ⟨x, ?_⟩)
          simp only [Function.update_self]
          exact later
      · refine Or.inr (Or.inl ⟨x, ?_⟩)
        simp only [Function.update_of_ne same]
        exact listed
    · have different : x ≠ w := by
        rintro rfl
        cases idle.symm.trans here
      exact Or.inr (Or.inr ⟨x, stage,
        (EpollWorkers.position_moveTo_ne different _ _).trans here, serves⟩)
  · cases next

/- A recv() that would block has left nothing on the connection of its session. -/
theorem receive_nothingStranded (nothing : NothingStranded s) {amount : Nat} {t : EdgeTriggered W}
    (next : step s (.receive w amount) = some t) : NothingStranded t := by
  simp only [step] at next
  split at next
  · rename_i id here
    obtain ⟨session, found, next⟩ := Option.bind_eq_some_iff.mp next
    obtain ⟨owner, connection, next⟩ := Option.bind_eq_some_iff.mp next
    obtain ⟨u, ran, rfl⟩ := Option.map_eq_some_iff.mp next
    simp only [EpollWorkers.step, here, EpollWorkers.receiveFrom, found, Option.bind_some,
      connection] at ran
    by_cases empty : s.inbox owner = []
    · have same : Function.update s.inbox owner ((s.inbox owner).drop (took amount)) = s.inbox := by
        rw [empty, List.drop_nil, ← empty, Function.update_eq_self]
      rw [same]
      by_cases ended : s.finished owner = true
      · rw [show recvAnswer (s.inbox owner) (s.finished owner) amount = .closed by
          simp [recvAnswer, empty, ended]] at ran
        cases ran
        exact stayed_nothingStranded nothing here rfl rfl rfl rfl fun _ => Or.inl ⟨_, rfl, rfl⟩
      · rw [show recvAnswer (s.inbox owner) (s.finished owner) amount = .wouldBlock by
          simp [recvAnswer, empty, ended]] at ran
        cases ran
        refine stayed_nothingStranded nothing here rfl rfl rfl rfl fun _ => Or.inr ?_
        rintro session' ⟨there, _, _, owned⟩ unread
        cases found.symm.trans there
        cases connection.symm.trans owned
        exact unread.elim (fun some => some empty) ended
    · rw [recvAnswer, dif_pos empty] at ran
      cases ran
      refine moved_nothingStranded nothing rfl rfl rfl ?_ ?_
      · rintro other session' ⟨there, connected, watched, owned⟩ unread
        refine ⟨⟨there, connected, watched, owned⟩, ?_⟩
        by_cases same : other = owner
        · exact Or.inl (same ▸ empty)
        · simpa only [Unread, Function.update_of_ne same] using unread
      · intro other stage session' stood _ _ _
        cases here.symm.trans stood
        exact ⟨_, rfl, rfl⟩
  · cases next

/- Registration makes an edge of what had arrived before it. -/
theorem register_nothingStranded (nothing : NothingStranded s)
    {granted : Bool} {t : EdgeTriggered W} (next : step s (.register w granted) = some t) :
    NothingStranded t := by
  simp only [step] at next
  obtain ⟨u, ran, rfl⟩ := Option.map_eq_some_iff.mp next
  obtain ⟨id, socket, here, ran⟩ := EpollWorkers.register_stands ran
  simp only [here]
  unfold EpollWorkers.registerSocket at ran
  split at ran
  · rename_i open_
    cases ran
    rw [if_pos ⟨(AList.mem_insert _).mpr (Or.inl rfl), open_.2.2⟩]
    apply rearm_nothingStranded
    rintro other session ⟨found, connected, watched, owned⟩ different unread
    have before : Watching s other session :=
      ⟨found, connected, (AList.lookup_insert_ne different).symm.trans watched, owned⟩
    refine noticed_moved (nothing other session before unread) rfl rfl rfl ?_
    intro stage stood attends
    cases here.symm.trans stood
    cases attends
  · obtain ⟨session, found, rfl⟩ := Option.map_eq_some_iff.mp ran
    split
    · rename_i both
      exact absurd (AList.mem_erase.mp both.1).2 both.2
    · exact closed_nothingStranded nothing here rfl rfl rfl rfl rfl

theorem accept_nothingStranded (placed : s.workers.Placed clients) (nothing : NothingStranded s)
    {socket : Fd} {t : EdgeTriggered W} (next : step s (.accept w socket) = some t) :
    NothingStranded t := by
  simp only [step] at next
  obtain ⟨u, ran, rfl⟩ := Option.map_eq_some_iff.mp next
  have waited : ∀ other, other ≠ s.workers.mSessionManager.mNextSessionID →
      Unread { s with
        workers := u
        inbox := Function.update s.inbox s.workers.mSessionManager.mNextSessionID []
        finished := Function.update s.finished s.workers.mSessionManager.mNextSessionID false }
        other → Unread s other := by
    intro other different unread
    simpa only [Unread, Function.update_of_ne different] using unread
  simp only [EpollWorkers.step, Option.ite_none_right_eq_some, Option.some.injEq] at ran
  obtain ⟨⟨idle, _⟩, rfl⟩ := ran
  unfold EpollWorkers.acceptClient at waited ⊢
  rcases s.workers.mSessionManager.addSession_cases socket .default with full | ⟨m, added, _⟩
  · rw [full] at waited ⊢
    rintro other session ⟨found, connected, watched, owned⟩ unread
    have different : other ≠ s.workers.mSessionManager.mNextSessionID := by
      rintro rfl
      exact Nat.lt_irrefl _ (placed.watched _ _ watched)
    exact nothing other session ⟨found, connected, watched, owned⟩ (waited other different unread)
  · rw [added] at waited ⊢
    obtain rfl := SessionManager.table_of_addSession added
    refine moved_nothingStranded nothing rfl rfl rfl ?_ ?_
    · rintro other session ⟨found, connected, watched, owned⟩ unread
      have different : other ≠ s.workers.mSessionManager.mNextSessionID := by
        rintro rfl
        exact Nat.lt_irrefl _ (placed.watched _ _ watched)
      have elsewhere : session.mSocket ≠ socket := by
        intro same
        rw [same] at owned
        cases (AList.lookup_insert s.workers.sockets).symm.trans owned
        exact different rfl
      exact ⟨⟨(AList.lookup_insert_ne different).symm.trans found, connected, watched,
        (AList.lookup_insert_ne elsewhere).symm.trans owned⟩, waited other different unread⟩
    · intro other stage session stood _ _ _
      cases idle.symm.trans stood

theorem fail_nothingStranded (nothing : NothingStranded s) {t : EdgeTriggered W}
    (next : step s (.fail w) = some t) : NothingStranded t := by
  simp only [step, EpollWorkers.step] at next
  obtain ⟨u, ran, rfl⟩ := Option.map_eq_some_iff.mp next
  split at ran
  · rename_i id here
    obtain ⟨session, found, ran⟩ := Option.bind_eq_some_iff.mp ran
    cases ran
    exact stayed_nothingStranded nothing here rfl rfl rfl rfl fun _ => Or.inl ⟨_, rfl, rfl⟩
  · cases ran

end Workers

theorem step_nothingStranded {clients : Nat} {s t : EdgeTriggered W} {e : KernelEvent W}
    (placed : s.workers.Placed clients) (nothing : NothingStranded s)
    (next : step s e = some t) : NothingStranded t := by
  cases e with
  | arrive socket data =>
    obtain ⟨owner, owned, rfl⟩ := Option.map_eq_some_iff.mp next
    refine signal_nothingStranded placed nothing owned rfl rfl rfl ?_
    intro id different unread
    simpa only [Unread, Function.update_of_ne different] using unread
  | finish socket =>
    obtain ⟨owner, owned, rfl⟩ := Option.map_eq_some_iff.mp next
    refine signal_nothingStranded placed nothing owned rfl rfl rfl ?_
    intro id different unread
    simpa only [Unread, Function.update_of_ne different] using unread
  | modify socket =>
    simp only [step, Option.ite_none_right_eq_some, Option.some.injEq] at next
    obtain ⟨_, rfl⟩ := next
    exact rearm_nothingStranded fun id session watching _ => nothing id session watching
  | wait w sockets =>
    simp only [step, Option.ite_none_right_eq_some, Option.some.injEq] at next
    obtain ⟨⟨_, empty, _⟩, rfl⟩ := next
    exact waited_nothingStranded nothing empty sockets
  | accept w socket => exact accept_nothingStranded placed nothing next
  | register w granted => exact register_nothingStranded nothing next
  | readable w =>
    simp only [step] at next
    split at next
    · cases next
    · rename_i socket rest given
      obtain ⟨u, ran, rfl⟩ := Option.map_eq_some_iff.mp next
      exact dispatched_nothingStranded nothing given rfl ran
  | hangUp w =>
    simp only [step] at next
    split at next
    · cases next
    · rename_i socket rest given
      obtain ⟨u, ran, rfl⟩ := Option.map_eq_some_iff.mp next
      exact dispatched_nothingStranded nothing given rfl ran
  | receive w amount => exact receive_nothingStranded nothing next
  | fail w => exact fail_nothingStranded nothing next
  | proceed w =>
    obtain ⟨u, ran, rfl⟩ := Option.map_eq_some_iff.mp next
    exact proceed_nothingStranded placed nothing ran

theorem step_workers {s t : EdgeTriggered W} {e : KernelEvent W} (next : step s e = some t) :
    (t.workers = s.workers ∧ e.accepts = false) ∨
    ∃ below, EpollWorkers.step s.workers below = some t.workers ∧ below.accepts = e.accepts := by
  cases e with
  | arrive socket data | finish socket =>
    obtain ⟨owner, owned, rfl⟩ := Option.map_eq_some_iff.mp next
    left
    unfold signal
    split <;> exact ⟨rfl, rfl⟩
  | modify socket =>
    simp only [step, Option.ite_none_right_eq_some, Option.some.injEq] at next
    obtain ⟨_, rfl⟩ := next
    exact Or.inl ⟨rfl, rfl⟩
  | wait w sockets =>
    simp only [step, Option.ite_none_right_eq_some, Option.some.injEq] at next
    obtain ⟨_, rfl⟩ := next
    exact Or.inl ⟨rfl, rfl⟩
  | accept w socket | fail w | proceed w =>
    obtain ⟨u, ran, rfl⟩ := Option.map_eq_some_iff.mp next
    exact Or.inr ⟨_, ran, rfl⟩
  | register w granted =>
    obtain ⟨u, ran, rfl⟩ := Option.map_eq_some_iff.mp next
    refine Or.inr ⟨_, ran.trans (congrArg some ?_), rfl⟩
    dsimp only
    split
    · split <;> rfl
    · rfl
  | readable w | hangUp w =>
    simp only [step] at next
    split at next
    · cases next
    · obtain ⟨u, ran, rfl⟩ := Option.map_eq_some_iff.mp next
      exact Or.inr ⟨_, ran, rfl⟩
  | receive w amount =>
    simp only [step] at next
    split at next
    · obtain ⟨session, _, next⟩ := Option.bind_eq_some_iff.mp next
      obtain ⟨owner, _, next⟩ := Option.bind_eq_some_iff.mp next
      obtain ⟨u, ran, rfl⟩ := Option.map_eq_some_iff.mp next
      exact Or.inr ⟨_, ran, rfl⟩
    · cases next

structure Attended (clients : Nat) (s : EdgeTriggered W) : Prop where
  placed : s.workers.Placed clients
  nothing : NothingStranded s

theorem step_attended (clients : Nat) (s : EdgeTriggered W) (e : KernelEvent W)
    (t : EdgeTriggered W) (attended : Attended clients s)
    (few : e.accepts = true → clients < 2 ^ 64 - 2) (next : step s e = some t) :
    Attended (clients + if e.accepts then 1 else 0) t := by
  refine ⟨?_, step_nothingStranded attended.placed attended.nothing next⟩
  rcases step_workers next with ⟨same, none⟩ | ⟨below, ran, accepts⟩
  · rw [same, none]
    exact attended.placed
  · rw [← accepts] at few ⊢
    exact EpollWorkers.step_placed clients s.workers below t.workers attended.placed few ran

omit [DecidableEq W] in
theorem start_attended (maxSessions : UInt32) (buffer : ReceiveBuffer) :
    Attended 0 (start (EpollWorkers.listening maxSessions buffer) : EdgeTriggered W) := by
  refine ⟨⟨Nat.le_refl 1, nofun, nofun, nofun, nofun, nofun, nofun⟩, ?_⟩
  rintro id session ⟨found, _, _, _⟩
  cases found

/-- In every run of a listening model with any workers and fewer connections than there
    are ids, whatever arrives between their steps: what has arrived for a connected
    session and was not read has an edge that epoll_wait is still to report, or is in the
    batch of a worker, or a worker attends to the session. -/
theorem nothing_stranded (maxSessions : UInt32) (buffer : ReceiveBuffer)
    (es : List (KernelEvent W)) (few : es.countP KernelEvent.accepts ≤ 2 ^ 64 - 2) :
    ∀ t ∈ states step (start (EpollWorkers.listening maxSessions buffer)) es,
      NothingStranded t := by
  intro t member
  obtain ⟨clients, attended⟩ := invariant_of_budget step_attended es 0 _
    (start_attended maxSessions buffer) (by omega) t member
  exact attended.nothing

/- Data that arrives after recv() would have blocked, and before the worker is back in
   epoll_wait. -/
theorem late_byte_noticed : let late : List (KernelEvent Unit) :=
      [.accept () 5, .proceed (), .register () true, .proceed (), .arrive 5 [72],
        .wait () [5], .readable (), .proceed (), .receive () 0, .proceed (), .receive () 0,
        .arrive 5 [105]]
    ∀ t ∈ states step (start (EpollWorkers.listening 2 .zeroed)) late, NothingStranded t :=
  nothing_stranded 2 .zeroed _ (by decide)

end EdgeTriggered
end KanchoNet
