import KanchoNet.Lib.Tables
import KanchoNet.Network.WorkerPhases

/-!
Where the workers of an EpollModel stand, as far as session ids last: all that is known
of a session comes after its accept, and one worker alone has it until it is registered.
-/
namespace KanchoNet
open LabelledRuns Tables

namespace EpollWorkers
variable {W : Type}

/-- After some number of accepted connections. A connection has one socket, and nobody but
    the worker that accepted it has come to it while its socket is not registered. -/
structure Placed (clients : Nat) (s : EpollWorkers W) : Prop where
  counter : s.mSessionManager.mNextSessionID.toNat ≤ clients + 1
  listed : ∀ id ∈ s.mSessionManager.mSessions, id.toNat < s.mSessionManager.mNextSessionID.toNat
  placed : ∀ w id stage, s.position w = some (id, stage) →
    id.toNat < s.mSessionManager.mNextSessionID.toNat
  watched : ∀ socket id, s.interest.lookup socket = some id →
    id.toNat < s.mSessionManager.mNextSessionID.toNat
  connected : ∀ socket id, s.sockets.lookup socket = some id →
    id.toNat < s.mSessionManager.mNextSessionID.toNat
  single : ∀ socket socket' id, s.sockets.lookup socket = some id →
    s.sockets.lookup socket' = some id → socket = socket'
  entering : ∀ w id stage, s.position w = some (id, stage) → stage.part = .entering →
    (∀ socket, s.interest.lookup socket ≠ some id) ∧
    ∀ x, x ≠ w → ∀ stage', s.position x ≠ some (id, stage')

variable [DecidableEq W]

/- A worker moves on with its session, or takes one up that is registered; entries are
   only taken off. -/
theorem placed_moved {clients : Nat} {s t : EpollWorkers W} (placed : Placed clients s) {w : W}
    {position : Option (SessionID × HandlerStage)}
    (positions : t.position = (s.moveTo w position).position)
    (stands : ∀ id stage, position = some (id, stage) →
      (∃ before, s.position w = some (id, before) ∧
        (stage.part = .entering → before.part = .entering)) ∨
      (stage.part ≠ .entering ∧ ∃ socket, s.interest.lookup socket = some id))
    (counter : t.mSessionManager.mNextSessionID = s.mSessionManager.mNextSessionID)
    (listed : ∀ id ∈ t.mSessionManager.mSessions, id ∈ s.mSessionManager.mSessions)
    (watched : ∀ socket id, t.interest.lookup socket = some id →
      s.interest.lookup socket = some id)
    (connected : ∀ socket id, t.sockets.lookup socket = some id →
      s.sockets.lookup socket = some id) : Placed clients t := by
  have here : t.position w = position := by rw [positions, position_moveTo_self]
  have others : ∀ x, x ≠ w → t.position x = s.position x := by
    intro x different
    rw [positions, position_moveTo_ne different]
  constructor
  · rw [counter]
    exact placed.counter
  · intro id member
    rw [counter]
    exact placed.listed id (listed id member)
  · intro x id stage there
    rw [counter]
    by_cases same : x = w
    · subst same
      rcases stands id stage (here.symm.trans there) with ⟨before, stood, _⟩ | ⟨_, socket, seen⟩
      · exact placed.placed x id before stood
      · exact placed.watched socket id seen
    · exact placed.placed x id stage ((others x same).symm.trans there)
  · intro socket id seen
    rw [counter]
    exact placed.watched socket id (watched socket id seen)
  · intro socket id owned
    rw [counter]
    exact placed.connected socket id (connected socket id owned)
  · intro socket socket' id owned owned'
    exact placed.single socket socket' id (connected socket id owned)
      (connected socket' id owned')
  · intro x id stage there enters
    by_cases same : x = w
    · subst same
      rcases stands id stage (here.symm.trans there) with ⟨before, stood, entered⟩ | ⟨late, _⟩
      · obtain ⟨unwatched, alone⟩ := placed.entering x id before stood (entered enters)
        refine ⟨fun socket seen => unwatched socket (watched socket id seen), ?_⟩
        intro y different stage'
        rw [others y different]
        exact alone y different stage'
      · exact absurd enters late
    · obtain ⟨unwatched, alone⟩ :=
        placed.entering x id stage ((others x same).symm.trans there) enters
      refine ⟨fun socket seen => unwatched socket (watched socket id seen), ?_⟩
      intro y different stage' stood
      by_cases moved : y = w
      · subst moved
        rcases stands id stage' (here.symm.trans stood) with ⟨before, was, _⟩ | ⟨_, socket, seen⟩
        · exact alone y different before was
        · exact unwatched socket seen
      · exact alone y different stage' ((others y moved).symm.trans stood)

theorem accepted_placed {clients : Nat} {s : EpollWorkers W} (placed : Placed clients s)
    (few : clients < 2 ^ 64 - 2) {w : W} {socket : Fd} {mSessionManager : SessionManager Fd}
    (added : s.mSessionManager.addSession socket .default =
      (some s.mSessionManager.mNextSessionID, mSessionManager)) :
    Placed (clients + 1)
      { s.moveTo w (some (s.mSessionManager.mNextSessionID, .setConnected socket)) with
        mSessionManager, sockets := s.sockets.insert socket s.mSessionManager.mNextSessionID } := by
  have counter := placed.counter
  have advanced : (s.mSessionManager.mNextSessionID + 1).toNat =
      s.mSessionManager.mNextSessionID.toNat + 1 := SessionManager.next_toNat (by omega)
  obtain rfl := SessionManager.table_of_addSession added
  have unplaced : ∀ x stage, s.position x ≠ some (s.mSessionManager.mNextSessionID, stage) :=
    fun x stage there => Nat.lt_irrefl _ (placed.placed x _ stage there)
  constructor
  · change (s.mSessionManager.mNextSessionID + 1).toNat ≤ _
    omega
  · intro id member
    change id.toNat < (s.mSessionManager.mNextSessionID + 1).toNat
    rcases (AList.mem_insert _).mp member with rfl | old
    · omega
    · have := placed.listed id old
      omega
  · intro x id stage there
    change id.toNat < (s.mSessionManager.mNextSessionID + 1).toNat
    by_cases same : x = w
    · rw [same] at there
      cases (position_moveTo_self w _ s).symm.trans there
      omega
    · have := placed.placed x id stage ((position_moveTo_ne same _ s).symm.trans there)
      omega
  · intro fd id seen
    change id.toNat < (s.mSessionManager.mNextSessionID + 1).toNat
    have := placed.watched fd id seen
    omega
  · intro fd id owned
    change id.toNat < (s.mSessionManager.mNextSessionID + 1).toNat
    change (s.sockets.insert socket _).lookup fd = some id at owned
    by_cases same : fd = socket
    · rw [same, AList.lookup_insert] at owned
      cases owned
      omega
    · rw [AList.lookup_insert_ne same] at owned
      have := placed.connected fd id owned
      omega
  · intro fd fd' id owned owned'
    have old : ∀ other, s.sockets.lookup other ≠ some s.mSessionManager.mNextSessionID :=
      fun other owned => Nat.lt_irrefl _ (placed.connected other _ owned)
    change (s.sockets.insert socket _).lookup fd = some id at owned
    change (s.sockets.insert socket _).lookup fd' = some id at owned'
    by_cases new : fd = socket <;> by_cases new' : fd' = socket
    · rw [new, new']
    · rw [new, AList.lookup_insert] at owned
      rw [AList.lookup_insert_ne new'] at owned'
      cases owned
      exact absurd owned' (old fd')
    · rw [new', AList.lookup_insert] at owned'
      rw [AList.lookup_insert_ne new] at owned
      cases owned'
      exact absurd owned (old fd)
    · rw [AList.lookup_insert_ne new] at owned
      rw [AList.lookup_insert_ne new'] at owned'
      exact placed.single fd fd' id owned owned'
  · intro x id stage there enters
    by_cases same : x = w
    · rw [same] at there ⊢
      cases (position_moveTo_self w _ s).symm.trans there
      refine ⟨fun fd seen => Nat.lt_irrefl _ (placed.watched fd _ seen), ?_⟩
      intro y different stage' stood
      exact unplaced y stage' ((position_moveTo_ne different _ s).symm.trans stood)
    · have stood : s.position x = some (id, stage) := (position_moveTo_ne same _ s).symm.trans there
      obtain ⟨unwatched, alone⟩ := placed.entering x id stage stood enters
      refine ⟨unwatched, ?_⟩
      intro y different stage' moved
      by_cases own : y = w
      · rw [own] at moved
        cases (position_moveTo_self w _ s).symm.trans moved
        exact unplaced x stage stood
      · exact alone y different stage' ((position_moveTo_ne own _ s).symm.trans moved)

theorem registered_placed {clients : Nat} {s : EpollWorkers W} (placed : Placed clients s) {w : W}
    {id : SessionID} {socket : Fd} (here : s.position w = some (id, .registerSocket socket)) :
    Placed clients
      { s.moveTo w (some (id, .onAccept)) with interest := s.interest.insert socket id } := by
  obtain ⟨_, alone⟩ := placed.entering w id _ here rfl
  have moved : Placed clients (s.moveTo w (some (id, .onAccept))) := by
    apply placed_moved placed rfl _ rfl (fun _ member => member) (fun _ _ seen => seen)
      (fun _ _ owned => owned)
    rintro _ _ ⟨⟩
    exact Or.inl ⟨_, here, nofun⟩
  refine ⟨moved.counter, moved.listed, moved.placed, ?_, moved.connected, moved.single, ?_⟩
  · intro fd other seen
    change (s.interest.insert socket id).lookup fd = some other at seen
    by_cases same : fd = socket
    · rw [same, AList.lookup_insert] at seen
      cases seen
      exact placed.placed w id _ here
    · rw [AList.lookup_insert_ne same] at seen
      exact placed.watched fd other seen
  · intro x other stage there enters
    obtain ⟨unwatched, others⟩ := moved.entering x other stage there enters
    refine ⟨?_, others⟩
    intro fd seen
    change (s.interest.insert socket id).lookup fd = some other at seen
    by_cases same : fd = socket
    · rw [same, AList.lookup_insert] at seen
      cases seen
      by_cases own : x = w
      · rw [own] at there
        cases (position_moveTo_self w _ s).symm.trans there
        cases enters
      · exact alone x own stage ((position_moveTo_ne own _ s).symm.trans there)
    · rw [AList.lookup_insert_ne same] at seen
      exact unwatched fd seen

theorem listed_store {m : SessionManager Fd} {id : SessionID} {session session' : Session Fd}
    (found : m.getSession id = some session) :
    ∀ other ∈ (m.store id session').mSessions, other ∈ m.mSessions :=
  fun _ =>
    (SessionManager.mem_store_iff _ (SessionManager.mem_of_getSession found)).mp

omit [DecidableEq W] in
theorem stands_on {s : EpollWorkers W} {w : W} {id : SessionID} {before : HandlerStage}
    {position : Option (SessionID × HandlerStage)} (here : s.position w = some (id, before))
    (there : position = none ∨ ∃ stage, position = some (id, stage) ∧
      (stage.part = .entering → before.part = .entering)) (other : SessionID)
    (after : HandlerStage) (same : position = some (other, after)) :
    (∃ before, s.position w = some (other, before) ∧
      (after.part = .entering → before.part = .entering)) ∨
    (after.part ≠ .entering ∧ ∃ socket, s.interest.lookup socket = some other) := by
  rcases there with rfl | ⟨stage, rfl, late⟩
  · cases same
  · cases same
    exact Or.inl ⟨before, here, late⟩

theorem register_stands {s t : EpollWorkers W} {w : W} {granted : Bool}
    (next : step s (.register w granted) = some t) :
    ∃ id socket, s.position w = some (id, .registerSocket socket) ∧
      s.registerSocket w id socket granted = some t := by
  simp only [step] at next
  split at next
  · rename_i id socket here
    exact ⟨id, socket, here, next⟩
  · cases next

theorem receive_stands {s t : EpollWorkers W} {w : W} {answer : RecvAnswer}
    (next : step s (.receive w answer) = some t) :
    ∃ id, s.position w = some (id, .recv) ∧ s.receiveFrom w id answer = some t := by
  simp only [step] at next
  split at next
  · rename_i id here
    exact ⟨id, here, next⟩
  · cases next

theorem step_placed (clients : Nat) (s : EpollWorkers W) (e : WorkerEvent W) (t : EpollWorkers W)
    (placed : Placed clients s) (few : e.accepts = true → clients < 2 ^ 64 - 2)
    (next : step s e = some t) : Placed (clients + if e.accepts then 1 else 0) t := by
  have same {m : SessionManager Fd} : ∀ id ∈ m.mSessions, id ∈ m.mSessions := fun _ member => member
  have kept {l : AList fun _ : Fd => SessionID} :
    ∀ socket id, l.lookup socket = some id → l.lookup socket = some id := fun _ _ found => found
  cases step_advance next with
  | refused w socket => exact { placed with counter := Nat.le_succ_of_le placed.counter }
  | accepted w socket mSessionManager idle added => exact accepted_placed placed (few rfl) added
  | dispatched e w socket id first idle registered handler =>
    have moved : Placed clients (s.moveTo w (some (id, first))) := by
      apply placed_moved placed rfl _ rfl same kept kept
      rintro _ _ ⟨⟩
      refine Or.inr ⟨?_, socket, registered⟩
      rcases handler with rfl | rfl <;> decide
    exact { moved with counter := Nat.le_trans moved.counter (by omega) }
  | registered w granted id socket here => exact registered_placed placed here
  | unregistered w granted id socket closed here =>
    exact placed_moved placed rfl (stands_on here (Or.inl rfl)) rfl same
      (fun _ _ seen => lookup_of_erase seen) (fun _ _ owned => lookup_of_erase owned)
  | received w data positive within id owner session here found connection =>
    exact placed_moved placed rfl (stands_on here (Or.inr ⟨_, rfl, nofun⟩)) rfl same kept kept
  | ended w answer id position here there =>
    apply placed_moved placed rfl (stands_on here _) rfl same kept kept
    rcases there with rfl | rfl
    · exact Or.inl rfl
    · exact Or.inr ⟨_, rfl, nofun⟩
  | checked w id stage position here check =>
    apply placed_moved placed rfl (stands_on here _) rfl same kept kept
    rcases check with ⟨_, rfl | rfl⟩ | ⟨_, rfl | rfl⟩
    · exact Or.inl rfl
    · exact Or.inr ⟨_, rfl, nofun⟩
    · exact Or.inl rfl
    · exact Or.inr ⟨_, rfl, nofun⟩
  | stored w id stage after session state here found store =>
    refine placed_moved (t := (s.setSession id (session.setState state)).moveTo w
      (some (id, after))) placed rfl (stands_on here (Or.inr ⟨after, rfl, ?_⟩)) rfl
      (listed_store found) kept kept
    rcases store with ⟨socket, rfl, rfl⟩ | ⟨rfl, rfl⟩
    · exact fun _ => rfl
    · exact nofun
  | greeted w id here =>
    exact placed_moved placed rfl (stands_on here (Or.inl rfl)) rfl same kept kept
  | delivered w id bytesRead here =>
    exact placed_moved placed rfl (stands_on here (Or.inr ⟨_, rfl, nofun⟩)) rfl same kept kept
  | dismissed w id here =>
    exact placed_moved placed rfl (stands_on here (Or.inr ⟨_, rfl, nofun⟩)) rfl same kept kept
  | closed w id socket here =>
    exact placed_moved placed rfl (stands_on here (Or.inr ⟨_, rfl, nofun⟩)) rfl same
      (fun _ _ seen => lookup_of_erase seen) (fun _ _ owned => lookup_of_erase owned)
  | removed w id session here found =>
    exact placed_moved placed rfl (stands_on here (Or.inl rfl))
      (SessionManager.mNextSessionID_removeSession _ _)
      (fun other member => (SessionManager.mem_removeSession.mp member).2) kept kept

end EpollWorkers

end KanchoNet
