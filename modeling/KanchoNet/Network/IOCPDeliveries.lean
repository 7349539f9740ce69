import KanchoNet.Lib.SingleRequests
import KanchoNet.Network.IOCPWorkers
import KanchoNet.Network.ReceiveChain
import KanchoNet.Network.WorkerStreams

/-!
What the workers of an IOCPModel pass to mOnReceive, against what the connections sent.
Each receive has a buffer of its own, and the next one of a session is posted by the
worker that passed the last one on, behind its callback: the stream of every session is
read through one request at a time.
-/
namespace KanchoNet.IOCPWorkers
open GuardedSections LabelledRuns SingleRequests
variable {W : Type}

def arrivedTo (s : IOCPWorkers W) (id : SessionID) : List UInt8 :=
  s.arrived.flatMap fun chunk => if chunk.1 = id then chunk.2 else []

def reads (id : SessionID) (context : OverlappedContext) : Bool :=
  context.operation = .receive ∧ context.session = some id

def answerTo (id : SessionID) (c : Completion) : Option (List UInt8) :=
  if reads id c.context then some c.data else none

/-- The completed receives of a session that no worker has taken up. -/
def waiting (id : SessionID) (s : IOCPWorkers W) : List (List UInt8) :=
  s.queue.filterMap (answerTo id)

def shareOf (id : SessionID) : Option (SessionID × CompletionStage) → Option (Share UInt8)
  | some (other, .isConnected data) => if other = id then some (.carries data) else none
  | some (other, .onReceive data) => if other = id then some (.carries data) else none
  | some (other, .postReceive) => if other = id then some .passed else none
  | _ => none

/-- The session is not Connected, now or ever again. -/
def Dead (s : IOCPWorkers W) (id : SessionID) : Prop :=
  ∀ session, s.mSessionManager.getSession id = some session → ¬session.isConnected = true

/-- For every session: what mOnReceive was passed is a prefix of what arrived, at most one
    receive is in flight or completed, one worker at a time is between the completion of a
    receive and the next one, and then none is in flight or completed; while the session is
    Connected, bytes that were not passed on wait in the port or are with that worker. -/
structure DeliversInOrder (s : IOCPWorkers W) : Prop where
  front : ∀ id, s.callbacks.deliveredTo id <+: s.arrivedTo id
  once : ∀ id, s.inflight.countP (reads id) + (waiting id s).length ≤ 1
  alone : ∀ id w x, (shareOf id (s.position w)).isSome → (shareOf id (s.position x)).isSome → w = x
  single : ∀ id w, (shareOf id (s.position w)).isSome →
    s.inflight.countP (reads id) = 0 ∧ waiting id s = []
  whole : ∀ id session, s.mSessionManager.getSession id = some session →
    session.isConnected = true → waiting id s = [] →
    (∀ w data, shareOf id (s.position w) ≠ some (.carries data)) →
    s.callbacks.deliveredTo id = s.arrivedTo id

/-- Sessions with at most one receive in flight each, before any completion. -/
structure Ready (s : IOCPWorkers W) : Prop where
  set : s.callbacks.mOnReceive = true
  free : ∀ id session, s.mSessionManager.getSession id = some session →
    session.mLock.mFlag = false
  once : ∀ id, s.inflight.countP (reads id) ≤ 1
  fresh : s.queue = [] ∧ s.arrived = [] ∧ s.callbacks.calls = []
  idle : ∀ w, s.position w = none

theorem filterMap_eraseIdx_of_none {α β : Type} {f : α → Option β} {a : α} (none : f a = none) :
    ∀ {l : List α} {index : Nat}, l[index]? = some a →
      (l.eraseIdx index).filterMap f = l.filterMap f
  | [], _, found => by cases found
  | _ :: l, 0, found => by
    cases found
    rw [List.eraseIdx_cons_zero, List.filterMap_cons_none none]
  | b :: l, index + 1, found => by
    have rest : l[index]? = some a := found
    rw [List.eraseIdx_cons_succ, List.filterMap_cons, List.filterMap_cons,
      filterMap_eraseIdx_of_none none rest]

theorem countP_eraseIdx {α : Type} (p : α → Bool) {a : α} {l : List α} {index : Nat}
    (found : l[index]? = some a) :
    l.countP p = (l.eraseIdx index).countP p + if p a then 1 else 0 := by
  obtain ⟨inside, rfl⟩ := List.getElem?_eq_some_iff.mp found
  rw [← (List.getElem_cons_eraseIdx_perm inside).countP_eq, List.countP_cons]

theorem reads_send (id other : SessionID) (wsaBuf : List UInt8) :
    reads id (sendContext other wsaBuf) = false := rfl

theorem reads_receive (id other : SessionID) :
    reads id (receiveContext other) = decide (other = id) := by
  simp [reads, receiveContext]

theorem dead_store {s : IOCPWorkers W} {id other : SessionID} {session session' : Session SOCKET}
    (found : s.mSessionManager.getSession id = some session)
    (state : session'.isConnected = true → session.isConnected = true)
    (dead : Dead s other) : Dead (s.setSession id session') other := by
  intro live there connected
  rcases SessionManager.store_cases there with ⟨rfl, rfl⟩ | ⟨_, before⟩
  · exact dead session found (state connected)
  · exact dead live before connected

theorem arrivedTo_append (s : IOCPWorkers W) (id other : SessionID) (data : List UInt8) :
    { s with arrived := s.arrived ++ [(other, data)] }.arrivedTo id =
      s.arrivedTo id ++ if other = id then data else [] := by
  simp only [arrivedTo, List.flatMap_append, List.flatMap_singleton]

variable [DecidableEq W]

structure Follows (id : SessionID) (s : IOCPWorkers W) (r : Reading W UInt8) : Prop where
  posts : s.inflight.countP (reads id) = r.place.posts
  answers : waiting id s = r.place.answers
  shares : ∀ w, shareOf id (s.position w) = r.place.share w
  arrived : s.arrivedTo id = r.arrived
  passed : s.callbacks.deliveredTo id = r.passed
  lost : ∀ chunk, r.place = .closed chunk → chunk ≠ [] → Dead s id

structure Relays (id : SessionID) (s : IOCPWorkers W) (r : Reading W UInt8) : Prop where
  set : s.callbacks.mOnReceive = true
  free : ∀ id session, s.mSessionManager.getSession id = some session →
    session.mLock.mFlag = false
  follows : Follows id s r

theorem relays_delivers {s : IOCPWorkers W}
    (relays : ∀ id, ∃ r : Reading W UInt8, Relays id s r) : DeliversInOrder s := by
  constructor
  · intro id
    obtain ⟨r, _, _, follows⟩ := relays id
    rw [follows.passed, follows.arrived]
    exact passed_prefix r
  · intro id
    obtain ⟨r, _, _, follows⟩ := relays id
    rw [follows.posts, follows.answers]
    exact posts_answers_le r.place
  · intro id w x first second
    obtain ⟨r, _, _, follows⟩ := relays id
    rw [follows.shares] at first second
    exact share_unique first second
  · intro id w has
    obtain ⟨r, _, _, follows⟩ := relays id
    rw [follows.shares] at has
    rw [follows.posts, follows.answers]
    exact share_alone has
  · intro id session found connected settled nobody
    obtain ⟨r, _, _, follows⟩ := relays id
    rw [follows.passed, follows.arrived]
    apply passed_all
    cases place : r.place with
    | posted | passed => rfl
    | answered chunk =>
      rw [follows.answers, place] at settled
      cases settled
    | carried w chunk =>
      have carries := follows.shares w
      rw [place, Place.share, if_pos rfl] at carries
      exact absurd carries (nobody w chunk)
    | closed chunk =>
      by_contra lost
      exact follows.lost chunk place lost session found connected

theorem follows_of_same {id : SessionID} {s t : IOCPWorkers W} {r : Reading W UInt8}
    (follows : Follows id s r)
    (posts : t.inflight.countP (reads id) = s.inflight.countP (reads id))
    (answers : waiting id t = waiting id s)
    (shares : ∀ w, shareOf id (t.position w) = shareOf id (s.position w))
    (arrived : t.arrivedTo id = s.arrivedTo id)
    (passed : t.callbacks.deliveredTo id = s.callbacks.deliveredTo id)
    (dead : Dead s id → Dead t id) : Follows id t r := by
  constructor
  · exact posts.trans follows.posts
  · exact answers.trans follows.answers
  · exact fun w => (shares w).trans (follows.shares w)
  · exact arrived.trans follows.arrived
  · exact passed.trans follows.passed
  · exact fun chunk place lost => dead (follows.lost chunk place lost)

theorem position_moveTo_self (w : W) (position : Option (SessionID × CompletionStage))
    (s : IOCPWorkers W) : (s.moveTo w position).position w = position :=
  Function.update_self _ _ _

theorem position_moveTo_ne {w other : W} (different : other ≠ w)
    (position : Option (SessionID × CompletionStage)) (s : IOCPWorkers W) :
    (s.moveTo w position).position other = s.position other :=
  Function.update_of_ne different _ _

theorem shares_moveTo {id : SessionID} {s : IOCPWorkers W} {place place' : Place W UInt8} {w : W}
    {position : Option (SessionID × CompletionStage)}
    (before : ∀ x, shareOf id (s.position x) = place.share x)
    (others : ∀ x, x ≠ w → place'.share x = place.share x)
    (own : shareOf id position = place'.share w) (x : W) :
    shareOf id ((s.moveTo w position).position x) = place'.share x := by
  by_cases same : x = w
  · rw [same, position_moveTo_self, own]
  · rw [position_moveTo_ne same, before x, others x same]

theorem share_moveTo {id : SessionID} {s : IOCPWorkers W} {w : W}
    {position : Option (SessionID × CompletionStage)}
    (same : shareOf id position = shareOf id (s.position w)) (x : W) :
    shareOf id ((s.moveTo w position).position x) = shareOf id (s.position x) := by
  by_cases moved : x = w
  · rw [moved, position_moveTo_self, same]
  · rw [position_moveTo_ne moved]

theorem onSession_relays {β : Type} {id other : SessionID} {s t : IOCPWorkers W}
    {r : Reading W UInt8} {body : IOCPPeer → Outcome IOCPPeer β} (relays : Relays id s r)
    (footprint : ∀ p, IOCPPeer.lock.held p = false →
      ∃ value p', body p = .done value p' ∧ IOCPPeer.Footprint p p')
    (handled : s.onSession other body = some t) :
    Relays id t r ∧ t.position = s.position := by
  obtain ⟨session, found, handled⟩ := Option.bind_eq_some_iff.mp handled
  obtain ⟨value, p, run, kept⟩ := footprint ⟨session, s.inflight⟩ (relays.free other session found)
  simp only [run, Option.some.injEq] at handled
  subst handled
  refine ⟨⟨relays.set, ?_, ?_⟩, rfl⟩
  · intro live session' there
    rcases SessionManager.store_cases there with ⟨rfl, rfl⟩ | ⟨_, before⟩
    · exact kept.free
    · exact relays.free live session' before
  · obtain ⟨posted, inflight, sends⟩ := kept.posted
    have none : posted.countP (reads id) = 0 := by
      apply List.countP_eq_zero.mpr
      intro context member
      obtain ⟨wsaBuf, rfl⟩ := sends context member
      simp [reads_send]
    apply follows_of_same relays.follows
    · exact (congrArg (List.countP (reads id)) inflight).trans
        (by rw [List.countP_append, none, Nat.add_zero])
    · rfl
    · exact fun _ => rfl
    · rfl
    · rfl
    · apply dead_store found
      simp only [Session.isConnected, kept.mState]
      exact fun connected => connected

theorem moved_relays {id : SessionID} {s : IOCPWorkers W} {r : Reading W UInt8}
    (relays : Relays id s r) {w : W} {position : Option (SessionID × CompletionStage)}
    (same : shareOf id position = shareOf id (s.position w)) : Relays id (s.moveTo w position) r :=
  ⟨relays.set, relays.free,
    follows_of_same relays.follows rfl rfl (share_moveTo same) rfl rfl fun dead => dead⟩

theorem closed_relays {id : SessionID} {s : IOCPWorkers W} {r : Reading W UInt8}
    (relays : Relays id s r) {w : W} (has : (shareOf id (s.position w)).isSome)
    (dead : r.place.chunk ≠ [] → Dead s id) : Relays id (s.moveTo w none) r.close := by
  have owns := has
  rw [relays.follows.shares w] at owns
  obtain ⟨posts, answers⟩ := share_alone owns
  refine ⟨relays.set, relays.free, ?_⟩
  constructor
  · exact relays.follows.posts.trans posts
  · exact relays.follows.answers.trans answers
  · intro x
    by_cases same : x = w
    · rw [same, position_moveTo_self]
      rfl
    · rw [position_moveTo_ne same, relays.follows.shares x]
      cases share : r.place.share x with
      | none => rfl
      | some _ => exact absurd (share_unique (by rw [share]; rfl) owns) same
  · exact relays.follows.arrived
  · exact relays.follows.passed
  · intro chunk place lost
    cases place
    exact dead lost

theorem completed_relays {id : SessionID} {s t : IOCPWorkers W} {r : Reading W UInt8}
    (relays : Relays id s r) {index : Nat} {c : Completion}
    (found : s.inflight[index]? = some c.context)
    (next : s.complete index c.result c.bytesTransferred c.received = some t) :
    ∃ r', Relation.ReflTransGen Step r r' ∧ Relays id t r' := by
  have posts := countP_eraseIdx (reads id) found
  simp only [complete, found, Option.bind_some, Option.ite_none_left_eq_some,
    Option.some.injEq] at next
  obtain ⟨_, rfl⟩ := next
  have waits : ∀ u : IOCPWorkers W, u.queue = s.queue ++ [c] →
      waiting id u = waiting id s ++ (answerTo id c).toList := by
    intro u queue
    simp only [waiting, queue, List.filterMap_append]
    cases answer : answerTo id c <;> simp [answer]
  by_cases own : reads id c.context = true
  · rw [if_pos own, relays.follows.posts] at posts
    have here : r.place = .posted := by
      cases place : r.place with
      | posted => rfl
      | answered | carried | passed | closed =>
        rw [place] at posts
        cases posts
    obtain ⟨kind, session⟩ : c.context.operation = .receive ∧ c.context.session = some id := by
      simpa [reads] using own
    refine ⟨r.answer here c.data, .single (.answer r here c.data), relays.set, relays.free, ?_⟩
    constructor
    · rw [here] at posts
      exact (Nat.succ.inj posts).symm
    · refine (waits _ rfl).trans ?_
      rw [relays.follows.answers, here, answerTo, if_pos own]
      rfl
    · intro w
      refine (relays.follows.shares w).trans ?_
      rw [here]
      rfl
    · simp only [kind, session]
      refine (arrivedTo_append s id id c.data).trans ?_
      rw [if_pos rfl, relays.follows.arrived]
      rfl
    · exact relays.follows.passed
    · intro chunk place
      cases place
  · rw [if_neg own, Nat.add_zero] at posts
    refine ⟨r, .refl, relays.set, relays.free, ?_⟩
    apply follows_of_same relays.follows posts.symm
    · refine (waits _ rfl).trans ?_
      rw [answerTo, if_neg own]
      exact List.append_nil _
    · exact fun _ => rfl
    · split
      · rename_i other kind session
        have different : other ≠ id := by
          rintro rfl
          exact own (by simp [reads, kind, session])
        refine (arrivedTo_append s id other _).trans ?_
        rw [if_neg different, List.append_nil]
      · rfl
    · rfl
    · exact fun dead => dead

theorem share_handler (id : SessionID) (c : Completion) :
    (reads id c.context = true ∧ shareOf id c.handler = some (.carries c.data)) ∨
    (reads id c.context = true ∧ shareOf id c.handler = none ∧ c.data = []) ∨
    (reads id c.context = false ∧ shareOf id c.handler = none) := by
  by_cases own : reads id c.context = true
  · obtain ⟨kind, session⟩ : c.context.operation = .receive ∧ c.context.session = some id := by
      simpa [reads] using own
    by_cases ends : c.result = false ∨ c.bytesTransferred = 0
    · refine Or.inr (Or.inl ⟨own, ?_, ?_⟩)
      · simp [Completion.handler, ends, kind, session, shareOf]
      · rcases ends with failed | empty
        · simp [Completion.data, failed]
        · simp [Completion.data, empty]
    · exact Or.inl ⟨own, by simp [Completion.handler, ends, kind, session, shareOf]⟩
  · rw [Bool.not_eq_true] at own
    refine Or.inr (Or.inr ⟨own, ?_⟩)
    unfold Completion.handler
    split
    · split
      · cases c.context.session <;> rfl
      · rfl
    · split
      · rfl
      · rename_i kind
        cases session : c.context.session with
        | none => rfl
        | some other =>
          have different : other ≠ id := by
            rintro rfl
            simp [reads, kind, session] at own
          simp [shareOf, different]
      · cases c.context.session <;> rfl
      · cases c.context.session <;> rfl

theorem dequeued_relays {id : SessionID} {s : IOCPWorkers W} {r : Reading W UInt8}
    (relays : Relays id s r) {w : W} {index : Nat} {c : Completion} (idle : s.position w = none)
    (found : s.queue[index]? = some c) :
    ∃ r', Relation.ReflTransGen Step r r' ∧
      Relays id { s.moveTo w c.handler with queue := s.queue.eraseIdx index } r' := by
  have nothing : shareOf id (s.position w) = none := by rw [idle]; rfl
  have taken : reads id c.context = true → r.place = .answered c.data ∧
      (s.queue.eraseIdx index).filterMap (answerTo id) = [] := by
    intro own
    have perm := filterMap_taken (answerTo id) found (if_pos own)
    have answers := relays.follows.answers
    rw [waiting] at answers
    rw [answers] at perm
    cases place : r.place with
    | answered chunk =>
      rw [place] at perm
      obtain ⟨same, rest⟩ := List.cons.inj (List.singleton_perm.mp perm)
      rw [same]
      exact ⟨rfl, rest.symm⟩
    | posted | carried | passed | closed =>
      rw [place] at perm
      exact absurd perm.length_eq (by simp [Place.answers])
  rcases share_handler id c with ⟨own, carries⟩ | ⟨own, drops, empty⟩ | ⟨other, none⟩
  · obtain ⟨here, rest⟩ := taken own
    refine ⟨r.takeUp here w, .single (.takeUp r here w), relays.set, relays.free, ?_⟩
    constructor
    · refine relays.follows.posts.trans ?_
      rw [here]
      rfl
    · exact rest
    · apply shares_moveTo relays.follows.shares
      · intro x different
        rw [here]
        exact if_neg different.symm
      · exact carries.trans (if_pos rfl).symm
    · exact relays.follows.arrived
    · exact relays.follows.passed
    · intro chunk place
      cases place
  · obtain ⟨here, rest⟩ := taken own
    refine ⟨r.close, .single (.close r), relays.set, relays.free, ?_⟩
    constructor
    · refine relays.follows.posts.trans ?_
      rw [here]
      rfl
    · exact rest
    · apply shares_moveTo relays.follows.shares
      · intro x different
        rw [here]
        rfl
      · exact drops
    · exact relays.follows.arrived
    · exact relays.follows.passed
    · intro chunk place lost
      cases place
      rw [here] at lost
      exact absurd empty lost
  · refine ⟨r, .refl, relays.set, relays.free, ?_⟩
    apply follows_of_same relays.follows
    · rfl
    · have apart : answerTo id c = Option.none := by simp [answerTo, other]
      exact filterMap_eraseIdx_of_none apart found
    · exact share_moveTo (none.trans nothing.symm)
    · rfl
    · rfl
    · exact fun dead => dead

theorem delivered_relays {id : SessionID} {s : IOCPWorkers W} {r : Reading W UInt8}
    (relays : Relays id s r) {w : W} {other : SessionID} {data : List UInt8}
    (here : s.position w = some (other, .onReceive data)) :
    ∃ r', Relation.ReflTransGen Step r r' ∧
      Relays id { s.moveTo w (some (other, .postReceive)) with
        callbacks := s.callbacks.onReceive other data } r' := by
  have told := EpollWorkers.deliveredTo_onReceive relays.set other id data
  have set : (s.callbacks.onReceive other data).mOnReceive = true := by
    rw [Callbacks.onReceive_set relays.set]
    exact relays.set
  have shares := relays.follows.shares w
  rw [here] at shares
  by_cases same : other = id
  · subst same
    rw [shareOf, if_pos rfl] at shares
    have place := share_carries_iff.mp shares.symm
    refine ⟨r.pass place, .single (.pass r place), set, relays.free, ?_⟩
    constructor
    · refine relays.follows.posts.trans ?_
      rw [place]
      rfl
    · refine relays.follows.answers.trans ?_
      rw [place]
      rfl
    · apply shares_moveTo relays.follows.shares
      · intro x different
        rw [place]
        exact (if_neg different.symm).trans (if_neg different.symm).symm
      · exact (if_pos rfl).trans (if_pos rfl).symm
    · exact relays.follows.arrived
    · refine told.trans ?_
      rw [if_pos rfl, relays.follows.passed]
      rfl
    · intro chunk closed
      cases closed
  · refine ⟨r, .refl, set, relays.free, ?_⟩
    apply follows_of_same relays.follows
    · rfl
    · rfl
    · apply share_moveTo
      rw [here, shareOf, shareOf, if_neg same, if_neg same]
    · rfl
    · refine told.trans ?_
      rw [if_neg same, List.append_nil]
    · exact fun dead => dead

theorem posted_relays {id : SessionID} {s : IOCPWorkers W} {r : Reading W UInt8}
    (relays : Relays id s r) {w : W} {other : SessionID}
    (here : s.position w = some (other, .postReceive)) :
    ∃ r', Relation.ReflTransGen Step r r' ∧
      Relays id { s.moveTo w none with inflight := s.inflight ++ [receiveContext other] } r' := by
  have shares := relays.follows.shares w
  rw [here] at shares
  have posts : (s.inflight ++ [receiveContext other]).countP (reads id) =
      s.inflight.countP (reads id) + if other = id then 1 else 0 := by
    rw [List.countP_append, List.countP_singleton, reads_receive]
    simp
  by_cases same : other = id
  · subst same
    rw [shareOf, if_pos rfl] at shares
    have place := share_passed_iff.mp shares.symm
    refine ⟨r.ask place, .single (.ask r place), relays.set, relays.free, ?_⟩
    constructor
    · refine posts.trans ?_
      rw [relays.follows.posts, place, if_pos rfl]
      rfl
    · refine relays.follows.answers.trans ?_
      rw [place]
      rfl
    · apply shares_moveTo relays.follows.shares
      · intro x different
        rw [place]
        exact (if_neg different.symm).symm
      · rfl
    · exact relays.follows.arrived
    · exact relays.follows.passed
    · intro chunk closed
      cases closed
  · refine ⟨r, .refl, relays.set, relays.free, ?_⟩
    apply follows_of_same relays.follows
    · refine posts.trans ?_
      rw [if_neg same, Nat.add_zero]
    · rfl
    · apply share_moveTo
      rw [here, shareOf, if_neg same]
      rfl
    · rfl
    · rfl
    · exact fun dead => dead

theorem dropped_relays {id : SessionID} {s : IOCPWorkers W} {r : Reading W UInt8}
    (relays : Relays id s r) {w : W} {other : SessionID} {stage : CompletionStage}
    (here : s.position w = some (other, stage))
    (dead : other = id → r.place.chunk ≠ [] → Dead s id) :
    ∃ r', Relation.ReflTransGen Step r r' ∧ Relays id (s.moveTo w none) r' := by
  cases has : shareOf id (s.position w) with
  | none => exact ⟨r, .refl, moved_relays relays has.symm⟩
  | some share =>
    have own : other = id := by
      by_contra different
      rw [here] at has
      cases stage <;> simp [shareOf, different] at has
    exact ⟨r.close, .single (.close r), closed_relays relays (by rw [has]; rfl) (dead own)⟩

theorem disconnected_relays {id other : SessionID} {s : IOCPWorkers W} {r : Reading W UInt8}
    (relays : Relays id s r) {session : Session SOCKET}
    (found : s.mSessionManager.getSession other = some session) :
    Relays id (s.setSession other (session.setState .disconnected)) r := by
  refine ⟨relays.set, ?_, ?_⟩
  · intro live session' there
    rcases SessionManager.store_cases there with ⟨rfl, rfl⟩ | ⟨_, before⟩
    · exact relays.free live session found
    · exact relays.free live session' before
  · apply follows_of_same relays.follows
    · rfl
    · rfl
    · exact fun _ => rfl
    · rfl
    · rfl
    · apply dead_store found
      intro connected
      cases connected

theorem dismissed_relays {id other : SessionID} {s : IOCPWorkers W} {r : Reading W UInt8}
    (relays : Relays id s r) {w : W} (here : s.position w = some (other, .onDisconnect)) :
    Relays id { s.moveTo w (some (other, .removeSession)) with
      callbacks := s.callbacks.onDisconnect other } r := by
  have same : shareOf id (some (other, .removeSession)) = shareOf id (s.position w) := by
    rw [here]
    rfl
  refine ⟨?_, relays.free, ?_⟩
  · unfold Callbacks.onDisconnect
    split
    · exact relays.set
    · exact relays.set
  · apply follows_of_same relays.follows
    · rfl
    · rfl
    · exact share_moveTo same
    · rfl
    · exact EpollWorkers.deliveredTo_onDisconnect s.callbacks other id
    · exact fun dead => dead

theorem removed_relays {id other gone : SessionID} {s : IOCPWorkers W} {r : Reading W UInt8}
    (relays : Relays id s r) {w : W} (here : s.position w = some (other, .removeSession)) :
    Relays id { s.moveTo w none with
      mSessionManager := (s.mSessionManager.removeSession gone).2 } r := by
  have same : shareOf id none = shareOf id (s.position w) := by
    rw [here]
    rfl
  have before : ∀ live session', (s.mSessionManager.removeSession gone).2.getSession live =
      some session' → s.mSessionManager.getSession live = some session' := by
    intro live session' there
    by_cases removed : live = gone
    · rw [removed, SessionManager.getSession_removeSession_self] at there
      cases there
    · rwa [SessionManager.getSession_removeSession_ne _ removed] at there
  refine ⟨relays.set,
    fun live session' there => relays.free live session' (before live session' there),
    ?_⟩
  apply follows_of_same relays.follows
  · rfl
  · rfl
  · exact share_moveTo same
  · rfl
  · rfl
  · exact fun dead live there => dead live (before id live there)

theorem step_relays (id : SessionID) (s : IOCPWorkers W) (e : PortEvent W) (t : IOCPWorkers W)
    (r : Reading W UInt8) (relays : Relays id s r) (next : step s e = some t) :
    ∃ r', Relation.ReflTransGen Step r r' ∧ Relays id t r' := by
  cases step_advance next with
  | completed index c t found next => exact completed_relays relays found next
  | dequeued w index c idle found => exact dequeued_relays relays idle found
  | dropped w answer other data session here found refused =>
    apply dropped_relays relays here
    rintro rfl _ live there
    cases found.symm.trans there
    exact refused
  | checked w answer other data here =>
    refine ⟨r, .refl, moved_relays relays ?_⟩
    rw [here]
    rfl
  | delivered w answer other data here => exact delivered_relays relays here
  | posted w other here => exact posted_relays relays here
  | unposted w other here =>
    apply dropped_relays relays here
    rintro rfl lost
    have shares := relays.follows.shares w
    rw [here, shareOf, if_pos rfl] at shares
    rw [share_passed_iff.mp shares.symm] at lost
    exact absurd rfl lost
  | sent w answer other bytesTransferred u here handled =>
    obtain ⟨relays', position⟩ := onSession_relays relays
      (fun p free => ⟨(), IOCPPeer.processSend_footprint bytesTransferred answer free⟩) handled
    refine ⟨r, .refl, moved_relays relays' ?_⟩
    rw [position, here]
    rfl
  | examined w answer other position here there =>
    refine ⟨r, .refl, moved_relays relays ?_⟩
    rw [here]
    rcases there with rfl | rfl <;> rfl
  | stored w answer other session here found =>
    refine ⟨r, .refl, moved_relays (disconnected_relays relays found) ?_⟩
    exact (congrArg (shareOf id) here).symm
  | dismissed w answer other here => exact ⟨r, .refl, dismissed_relays relays here⟩
  | removed w answer other session here found => exact ⟨r, .refl, removed_relays relays here⟩
  | queued other packet wsaSend u handled =>
    exact ⟨r, .refl, (onSession_relays relays
      (fun p free => IOCPPeer.send_footprint packet wsaSend free) handled).1⟩

theorem ready_relays {s : IOCPWorkers W} (ready : Ready s) (id : SessionID) :
    ∃ r : Reading W UInt8, Relays id s r := by
  obtain ⟨queue, arrived, calls⟩ := ready.fresh
  have share : ∀ w, shareOf id (s.position w) = none := by
    intro w
    rw [ready.idle w]
    rfl
  have follows : ∀ (place : Place W UInt8) (nothing : place.chunk = []), place.answers = [] →
      (∀ w, place.share w = none) → s.inflight.countP (reads id) = place.posts →
      Follows id s (.fresh place nothing) := by
    intro place nothing answers shares posts
    constructor
    · exact posts
    · refine Eq.trans ?_ answers.symm
      rw [waiting, queue]
      rfl
    · exact fun w => (share w).trans (shares w).symm
    · rw [arrivedTo, arrived]
      rfl
    · rw [Callbacks.deliveredTo, calls]
      rfl
    · rintro chunk rfl lost
      exact absurd nothing lost
  rcases Nat.le_one_iff_eq_zero_or_eq_one.mp (ready.once id) with none | one
  · exact ⟨_, ready.set, ready.free, follows (.closed []) rfl rfl (fun _ => rfl) none⟩
  · exact ⟨_, ready.set, ready.free, follows .posted rfl rfl (fun _ => rfl) one⟩

/-- From sessions with at most one receive in flight each: whatever completes, in
    whatever order any workers take the completions up, make their steps and call Send,
    every session is delivered in order what its connection sent. -/
theorem deliveries_in_order {s : IOCPWorkers W} (ready : Ready s) (es : List (PortEvent W)) :
    ∀ t ∈ states step s es, DeliversInOrder t := by
  intro t member
  apply relays_delivers
  intro id
  obtain ⟨r, relays⟩ := ready_relays ready id
  obtain ⟨r', _, relays'⟩ := run_simulated (step_relays id) es s r relays t member
  exact ⟨r', relays'⟩

def oneSession (W : Type) : IOCPWorkers W where
  mSessionManager := (SessionManager.construct 2).seat 7
  callbacks := ⟨true, true, true, []⟩
  inflight := [receiveContext 1]
  queue := []
  arrived := []
  position _ := none

/- One worker passes a byte on and posts the next receive, another takes that one up. -/
theorem second_worker_in_order :
    let es : List (PortEvent Bool) := [.complete 0 true 1 [65], .dequeue true 0,
      .proceed true true, .proceed true true, .proceed true true, .complete 0 true 1 [66],
      .dequeue false 0]
    (∀ t ∈ states step (oneSession Bool) es, DeliversInOrder t) ∧
    (run step (oneSession Bool) es).map (fun t => (t.callbacks.deliveredTo 1, t.arrivedTo 1)) =
      some ([65], [65, 66]) := by
  intro es
  constructor
  · apply deliveries_in_order
    constructor
    · rfl
    · intro id session found
      rcases SessionManager.getSession_seat_iff.mp found with ⟨_, rfl⟩ | ⟨_, old⟩
      · rfl
      · cases old
    · exact fun id => List.countP_le_length
    · exact ⟨rfl, rfl, rfl⟩
    · exact fun _ => rfl
  · decide +kernel

end KanchoNet.IOCPWorkers
