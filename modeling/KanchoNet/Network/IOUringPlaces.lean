import KanchoNet.Network.IOUringSilence

/-!
Who has a session of an IOUringModel with threads: the receive operation of the ring that
names it, or the worker that has taken the completion. Only mOnAccept is called by a worker
that does not have the session.
-/
namespace KanchoNet
open GuardedSections Interleavings LabelledRuns

namespace IOUringWorkers
open IOUringModel

def Rest.session : Rest → SessionID
  | .accept id => id
  | .receive id _ => id
  | .disconnect id => id

def Rest.keeps : Rest → Option SessionID
  | .accept _ => none
  | .receive id _ => some id
  | .disconnect id => some id

def Place.keeps : Place → Option SessionID
  | .outside => none
  | .callback _ rest _ => rest.keeps
  | .waiting rest => rest.bind Rest.keeps

def named (m : IOUringModel) : List SessionID := m.pending.filterMap IOUringContext.session

structure Unnamed (m : IOUringModel) (id : SessionID) : Prop where
  present : id ∈ m.mSessionManager.mSessions
  absent : id ∉ named m

/-- A step that may name or remove its own session alone. -/
def Spares (own : Option SessionID) (m m' : IOUringModel) : Prop :=
  ∀ id, own ≠ some id → Unnamed m id → Unnamed m' id

variable {T : Type}

structure Placed (s : Threads T IOUringModel Place) : Prop where
  reading : Reading s.shared
  kept : ∀ t id, (s.place t).keeps = some id → Unnamed s.shared id
  alone : ∀ t u id, (s.place t).keeps = some id → (s.place u).keeps = some id → t = u

@[simp] theorem keeps_returned (place : Place) : place.returned.keeps = place.keeps := by
  cases place <;> rfl

@[simp] theorem keeps_blocked (place : Place) : place.blocked.keeps = place.keeps := by
  cases place <;> rfl

theorem Spares.trans {own : Option SessionID} {m m' m'' : IOUringModel} (first : Spares own m m')
    (second : Spares own m' m'') : Spares own m m'' :=
  fun id other before => second id other (first id other before)

theorem spares_of_widened {m m' : IOUringModel} (own : Option SessionID)
    (present : ∀ id ∈ m.mSessionManager.mSessions, id ∈ m'.mSessionManager.mSessions)
    (absent : ∀ id ∈ named m', id ∈ named m) : Spares own m m' :=
  fun id _ before => ⟨present id before.present, fun member => before.absent (absent id member)⟩

theorem spares_same {m m' : IOUringModel} (own : Option SessionID)
    (table : m'.mSessionManager = m.mSessionManager) (operations : m'.pending = m.pending) :
    Spares own m m' := by
  apply spares_of_widened own
  · exact fun id member => table ▸ member
  · exact fun id member => by rwa [named, operations] at member

theorem reading_same {m m' : IOUringModel} (reading : Reading m)
    (table : m'.mSessionManager = m.mSessionManager) (operations : m'.pending = m.pending) :
    Reading m' := by
  apply reading_of_widened reading operations
  · exact fun id member => table ▸ member
  · rw [table]
    exact reading.ids

theorem submitContext_spares (operation : IOOperation) (own : Option SessionID)
    (buffer : List UInt8) (a : SubmitAnswers) (m : IOUringModel) :
    Spares own m (m.submitContext operation own buffer a).2 := by
  obtain ⟨table, same | ⟨ctx, _, names, more⟩⟩ := submitContext_pending operation own buffer a m
  · exact spares_same own table same
  · intro id other before
    refine ⟨table ▸ before.present, fun member => ?_⟩
    obtain ⟨ctx', inside, names'⟩ := List.mem_filterMap.mp member
    rcases List.mem_cons.mp (more.mem_iff.mp inside) with rfl | old
    · exact other (names.symm.trans names')
    · exact before.absent (List.mem_filterMap.mpr ⟨ctx', old, names'⟩)

theorem removeSession_spares {m m' : IOUringModel} {id : SessionID}
    (table : m'.mSessionManager = (m.mSessionManager.removeSession id).2)
    (operations : m'.pending = m.pending) : Spares (some id) m m' := by
  intro other different before
  constructor
  · rw [table]
    exact SessionManager.mem_removeSession.mpr
      ⟨fun same => different (congrArg some same.symm), before.present⟩
  · rw [named, operations]
    exact before.absent

theorem removeSession_reading {m m' : IOUringModel} (reading : Reading m) {id : SessionID}
    (absent : id ∉ named m) (table : m'.mSessionManager = (m.mSessionManager.removeSession id).2)
    (operations : m'.pending = m.pending) : Reading m' := by
  constructor
  · intro ctx member
    rw [operations] at member
    rcases reading.contexts ctx member with accept | ⟨kind, other, names, present⟩
    · exact Or.inl accept
    · refine Or.inr ⟨kind, other, names, ?_⟩
      rw [table]
      refine SessionManager.mem_removeSession.mpr ⟨?_, present⟩
      rintro rfl
      exact absent (List.mem_filterMap.mpr ⟨ctx, member, names⟩)
  · rw [operations]
    exact reading.once
  · intro other member
    rw [table] at member ⊢
    rw [SessionManager.mNextSessionID_removeSession]
    exact reading.ids other (SessionManager.mem_removeSession.mp member).2

theorem setSession_spares {m : IOUringModel} {id : SessionID}
    (present : id ∈ m.mSessionManager.mSessions) (session : Session Fd) (own : Option SessionID) :
    Spares own m (m.setSession id session) :=
  spares_of_widened own (fun _ => (SessionManager.mem_store_iff session present).mpr)
    fun _ member => member

theorem acceptClient_spares {m : IOUringModel} (reading : Reading m) (clientSocket : Fd)
    (a : SubmitAnswers) : Spares none m (acceptClient clientSocket a m) := by
  by_cases full : m.mSessionManager.mMaxSessions.toNat ≤ m.mSessionManager.getSessionCount
  · rw [acceptClient_full full]
    exact spares_same none rfl rfl
  · have seated : Spares none m (m.admitted clientSocket) :=
      spares_of_widened none
        (fun _ member => (SessionManager.mem_seat clientSocket).mpr (Or.inr member))
        fun _ member => member
    have read := submitContext_spares .receive (some m.mSessionManager.mNextSessionID)
      (List.replicate DEFAULT_BUFFER_SIZE.toNat 0) a (m.admitted clientSocket)
    have both : Spares none m
        ((m.admitted clientSocket).submitReceive m.mSessionManager.mNextSessionID a).2 := by
      intro id other before
      refine read id ?_ (seated id other before)
      rintro ⟨⟩
      exact UInt64.lt_irrefl _ (reading.ids _ before.present)
    rw [acceptClient_room full]
    dsimp only
    split
    · exact both.trans (spares_same none rfl rfl)
    · exact both.trans (spares_same none rfl rfl)

theorem leave_placed {m m' : IOUringModel} (reading : Reading m) {ctx : IOUringContext}
    {rest : Rest} (has : ∀ id, rest.keeps = some id → Unnamed m id) {a : SubmitAnswers}
    {place : Place} (left : leave ctx rest a m = some (m', place)) :
    Reading m' ∧ Spares rest.keeps m m' ∧ place = .outside := by
  obtain ⟨t, behind, ended⟩ := Option.map_eq_some_iff.mp left
  cases ended
  have freed (other : Option SessionID) : Spares other t (deallocate ctx t) :=
    spares_same other rfl rfl
  have part : Reading t ∧ Spares rest.keeps m t := by
    cases rest with
    | accept id =>
      obtain ⟨_, _, rfl⟩ := Option.map_eq_some_iff.mp behind
      exact ⟨reading, spares_same none rfl rfl⟩
    | receive id data =>
      obtain ⟨_, _, rfl⟩ := Option.map_eq_some_iff.mp behind
      have mine := has id rfl
      exact ⟨submitContext_reading reading _ a
        (Or.inr ⟨rfl, id, rfl, mine.present, mine.absent⟩), submitContext_spares .receive _ _ a m⟩
    | disconnect id =>
      obtain ⟨_, _, rfl⟩ := Option.map_eq_some_iff.mp behind
      exact ⟨removeSession_reading reading (has id rfl).absent rfl rfl,
        removeSession_spares rfl rfl⟩
  exact ⟨reading_same part.1 rfl rfl, part.2.trans (freed _), rfl⟩

theorem leave_isSome (ctx : IOUringContext) (rest : Rest) (a : SubmitAnswers) (m : IOUringModel) :
    (leave ctx rest a m).isSome = true ↔ rest.session ∈ m.mSessionManager.mSessions := by
  have looked : (leave ctx rest a m).isSome =
      (m.mSessionManager.mSessions.lookup rest.session).isSome := by
    cases rest <;> simp [leave, behindCallback, Rest.session, SessionManager.getSession]
  rw [looked, AList.lookup_isSome]

/- Only behind mOnAccept may the session be gone. -/
theorem leave_defined_iff {m : IOUringModel} (ctx : IOUringContext) {rest : Rest}
    (has : ∀ id, rest.keeps = some id → Unnamed m id) (a : SubmitAnswers) :
    (leave ctx rest a m).isSome = true ↔
      ∀ id, rest = .accept id → id ∈ m.mSessionManager.mSessions := by
  rw [leave_isSome]
  cases rest with
  | accept id =>
    constructor
    · rintro present other ⟨⟩
      exact present
    · exact fun present => present id rfl
  | receive id data => exact iff_of_true (has id rfl).present (by simp)
  | disconnect id => exact iff_of_true (has id rfl).present (by simp)

/-- What a worker has of a completion it has taken: an accept names no session, and the
    session of a receive is with nobody else. -/
def Taken (ctx : IOUringContext) (m : IOUringModel) : Prop :=
  (ctx.operation = .accept ∧ ctx.session = none) ∨
    (ctx.operation = .receive ∧ ∃ id, ctx.session = some id ∧ Unnamed m id)

theorem acceptClient_told {m : IOUringModel} {clientSocket : Fd} {a : SubmitAnswers}
    {id : SessionID} (whole : ∀ b, continued b (some (.accept id)) (acceptClient clientSocket a m) =
      .done () (acceptClient clientSocket a m)) :
    id ∈ (acceptClient clientSocket a m).mSessionManager.mSessions := by
  cases found : (acceptClient clientSocket a m).mSessionManager.getSession id with
  | none =>
    have whole := whole a
    simp [continued, behindCallback, found] at whole
  | some session => exact SessionManager.mem_of_getSession found

theorem disconnectUntilCallback_placed {m : IOUringModel} (reading : Reading m) {id : SessionID}
    (mine : Unnamed m id) : ∃ rest t, disconnectUntilCallback id m = .done rest t ∧
      Reading t ∧ Spares (some id) m t ∧ Unnamed t id ∧
      ∀ told, rest = some told → told = .disconnect id := by
  obtain ⟨session, found⟩ := SessionManager.getSession_of_mem mine.present
  simp only [disconnectUntilCallback, found]
  split
  · exact ⟨_, _, rfl, reading, spares_same _ rfl rfl, mine, by simp⟩
  · have spared (own : Option SessionID) :=
      setSession_spares mine.present (session.setState .disconnected) own
    have told (own : Option SessionID) :
        Spares own (m.setSession id (session.setState .disconnected))
        { m.setSession id (session.setState .disconnected) with
          callbacks := m.callbacks.onDisconnect id } := spares_same own rfl rfl
    refine ⟨_, _, rfl, ?_, (spared _).trans (told _), ?_, ?_⟩
    · exact reading_same (setSession_reading reading mine.present _) rfl rfl
    · exact ((spared none).trans (told none)) id (by simp) mine
    · rintro _ ⟨⟩
      rfl

theorem untilCallback_placed {m : IOUringModel} (reading : Reading m) {ctx : IOUringContext}
    {result : Int32} {received : List UInt8} (arrives : Arrives ctx result received m)
    (taken : Taken ctx m) (a : CompletionAnswers) :
    ∃ rest t, untilCallback ctx result received a m = .done rest t ∧ Reading t ∧
      Spares ctx.session m t ∧ (∀ id, ctx.session = some id → Unnamed t id) ∧
      ∀ told, rest = some told → told.keeps = ctx.session ∧
        told.session ∈ t.mSessionManager.mSessions := by
  rcases taken with ⟨kind, unnamed⟩ | ⟨kind, id, names, mine⟩
  · have rearmed := submitContext_reading reading [] a.accept (Or.inl ⟨rfl, rfl⟩)
    have spared := submitContext_spares .accept none [] a.accept m
    have table := (submitContext_pending .accept none [] a.accept m).1
    simp only [untilCallback, kind, unnamed, submitAccept]
    split
    · exact ⟨_, _, rfl, rearmed, spared, by simp, by simp⟩
    · obtain ⟨rest, ran, kinds, whole⟩ := acceptUntilCallback_whole result.toBitVec a.session
        (m.submitAccept a.accept).2
      refine ⟨rest, _, ran, ?_, spared.trans (acceptClient_spares rearmed _ _), by simp, ?_⟩
      · refine acceptClient_reading rearmed ?_ _ _
        rw [table]
        exact arrives.1 kind
      · rintro told rfl
        obtain ⟨id, ⟨⟩⟩ := kinds.resolve_left (by simp)
        exact ⟨rfl, acceptClient_told whole⟩
  · obtain ⟨session, found⟩ := SessionManager.getSession_of_mem mine.present
    have own : ∀ {t : IOUringModel}, Unnamed t id →
        ∀ other, some id = some other → Unnamed t other := by
      rintro t named _ ⟨⟩
      exact named
    simp only [untilCallback, kind, names, found]
    split
    · exact ⟨_, _, rfl, reading, spares_same _ rfl rfl, own mine, by simp⟩
    · split
      · refine ⟨_, _, rfl, reading_same reading rfl rfl, spares_same _ rfl rfl, ?_, ?_⟩
        · exact own ⟨mine.present, mine.absent⟩
        · rintro _ ⟨⟩
          exact ⟨rfl, mine.present⟩
      · obtain ⟨rest, t, ran, reading', spared, still, kinds⟩ :=
          disconnectUntilCallback_placed reading mine
        refine ⟨rest, t, ran, reading', spared, own still, ?_⟩
        intro told same
        rw [kinds told same]
        exact ⟨rfl, still.present⟩

theorem taken_of_found {m : IOUringModel} (reading : Reading m) {index : Nat}
    {ctx : IOUringContext} (found : m.inflight[index]? = some ctx) :
    Taken ctx { m with inflight := m.inflight.eraseIdx index } := by
  have absent := (dequeued_reading reading found).2
  rcases reading.contexts ctx (List.mem_append_right _ (List.mem_of_getElem? found)) with
    accept | ⟨kind, id, names, present⟩
  · exact Or.inl accept
  · exact Or.inr ⟨kind, id, names, present, absent id names⟩

theorem taken_other {m : IOUringModel} {ctx : IOUringContext} (taken : Taken ctx m) :
    ctx.operation ≠ .send := by
  rintro send
  rcases taken with ⟨kind, _⟩ | ⟨kind, _⟩
  · cases kind.symm.trans send
  · cases kind.symm.trans send

theorem processCompletion_placed {m m' : IOUringModel} (reading : Reading m) {ctx : IOUringContext}
    {result : Int32} {received : List UInt8} (arrives : Arrives ctx result received m)
    (taken : Taken ctx m) {a : CompletionAnswers} {place : Place}
    (handled : processCompletion ctx result received a m = some (m', place)) :
    Reading m' ∧ Spares ctx.session m m' ∧
      ∀ id, place.keeps = some id → ctx.session = some id ∧ Unnamed m' id := by
  obtain ⟨rest, t, ran, reading', spared, own, told⟩ := untilCallback_placed reading arrives taken a
  obtain ⟨rest', t', ran', _, ended⟩ := processCompletion_cases arrives (taken_other taken) handled
  cases ran.symm.trans ran'
  rcases ended with ⟨_, rfl, rfl⟩ | ⟨ends, rfl, ⟨_, rfl, rfl⟩ | ⟨_, left⟩⟩
  · refine ⟨reading_same reading' rfl rfl, spared.trans (spares_same _ rfl rfl), ?_⟩
    rintro _ ⟨⟩
  · refine ⟨reading', spared, fun id keeps => ?_⟩
    have names := (told ends rfl).1.symm.trans keeps
    exact ⟨names, own id names⟩
  · have keeps := (told ends rfl).1
    obtain ⟨read, spares, rfl⟩ := leave_placed reading'
      (fun id names => own id (keeps.symm.trans names)) left
    refine ⟨read, spared.trans (keeps ▸ spares), ?_⟩
    rintro _ ⟨⟩

theorem processCompletion_defined {m : IOUringModel} (reading : Reading m) {ctx : IOUringContext}
    {result : Int32} {received : List UInt8} (arrives : Arrives ctx result received m)
    (taken : Taken ctx m) (a : CompletionAnswers) :
    (processCompletion ctx result received a m).isSome = true ↔ ctx.address ∉ m.deallocated := by
  obtain ⟨rest, t, ran, _, _, _, told⟩ := untilCallback_placed reading arrives taken a
  unfold processCompletion
  split
  · rename_i gone
    exact iff_of_false Bool.false_ne_true (not_not.mpr gone)
  · rename_i there
    refine iff_of_true ?_ there
    rw [ran]
    cases rest with
    | none => rfl
    | some ends =>
      dsimp only
      split
      · rfl
      · exact (leave_isSome ctx ends a.session t).mpr (told ends rfl).2

theorem placed_next {s s' : Threads T IOUringModel Place} (placed : Placed s) {t : T}
    (others : ∀ u, u ≠ t → s'.place u = s.place u) (reading : Reading s'.shared)
    {own : Option SessionID} (spares : Spares own s.shared s'.shared)
    (foreign : ∀ id, own = some id → ∀ u, u ≠ t → (s.place u).keeps ≠ some id)
    (mine : ∀ id, (s'.place t).keeps = some id → own = some id ∧ Unnamed s'.shared id) :
    Placed s' := by
  constructor
  · exact reading
  · intro u id keeps
    by_cases same : u = t
    · exact (mine id (same ▸ keeps)).2
    · rw [others u same] at keeps
      exact spares id (fun names => foreign id names u same keeps) (placed.kept u id keeps)
  · intro u v id first second
    by_cases left : u = t
    · by_cases right : v = t
      · exact left.trans right.symm
      · rw [others v right] at second
        exact absurd second (foreign id (mine id (left ▸ first)).1 v right)
    · rw [others u left] at first
      by_cases right : v = t
      · exact absurd first (foreign id (mine id (right ▸ second)).1 u left)
      · rw [others v right] at second
        exact placed.alone u v id first second

theorem dequeued_spares (m : IOUringModel) (index : Nat) (own : Option SessionID) :
    Spares own m { m with inflight := m.inflight.eraseIdx index } := by
  refine spares_of_widened own (fun _ present => present) fun id member => ?_
  obtain ⟨ctx, inside, names⟩ := List.mem_filterMap.mp member
  refine List.mem_filterMap.mpr ⟨ctx, ?_, names⟩
  exact List.mem_append.mpr ((List.mem_append.mp inside).imp_right List.mem_of_mem_eraseIdx)

theorem step_placed [DecidableEq T] (s : Threads T IOUringModel Place) (e : T × Event)
    (s' : Threads T IOUringModel Place) (placed : Placed s) (next : step move s e = some s') :
    Placed s' := by
  obtain ⟨place', moved, own, others⟩ := step_cases next
  have foreign : ∀ id, (s.place e.1).keeps = some id →
      ∀ u, u ≠ e.1 → (s.place u).keeps ≠ some id :=
    fun id keeps u different keeps' => different (placed.alone u e.1 id keeps' keeps)
  rcases move_cases moved with
    ⟨index, result, received, a, ctx, _, _, found, arrives, handled⟩ |
    ⟨id, packet, a, _, _, after⟩ | ⟨ctx, rest, sends, a, _, inside, left⟩
  · obtain ⟨reading, spares, mine⟩ := processCompletion_placed
      (dequeued_reading placed.reading found).1 arrives (taken_of_found placed.reading found)
      handled
    refine placed_next placed others reading
      ((dequeued_spares s.shared index ctx.session).trans spares) ?_ (own ▸ mine)
    intro id names u _ keeps
    refine (placed.kept u id keeps).absent (List.mem_filterMap.mpr ⟨ctx, ?_, names⟩)
    exact List.mem_append_right _ (List.mem_of_getElem? found)
  · have spares : Reading s'.shared ∧ ∀ own, Spares own s.shared s'.shared := by
      rcases send_frame (leaves_of_sent after) with same | ⟨session, present, changed⟩
      · rw [same]
        exact ⟨placed.reading, fun own => spares_same own rfl rfl⟩
      · rw [changed]
        exact ⟨setSession_reading placed.reading present session, setSession_spares present session⟩
    have keeps : place'.keeps = (s.place e.1).keeps := by
      cases ran : send id packet a s.shared with
      | done value m =>
        rw [ran] at after
        cases after
        exact keeps_returned _
      | stuck m =>
        rw [ran] at after
        cases after
        exact keeps_blocked _
      | undefined =>
        rw [ran] at after
        cases after
    refine placed_next placed others spares.1 (spares.2 _) foreign fun other has => ?_
    rw [own, keeps] at has
    exact ⟨has, spares.2 none other (by simp) (placed.kept e.1 other has)⟩
  · have keeps : (s.place e.1).keeps = rest.keeps := congrArg Place.keeps inside
    obtain ⟨reading, spares, outside⟩ := leave_placed placed.reading
      (fun id has => placed.kept e.1 id (keeps.trans has)) left
    refine placed_next placed others reading (keeps ▸ spares) foreign ?_
    rw [own, outside]
    rintro _ ⟨⟩

theorem started_placed {listenSocket : Fd} {maxSessions : UInt32} {callbacks : Callbacks}
    {listens : Bool} {a : SubmitAnswers} {server : IOUringServer}
    (listening : IOUringServer.startListen listens a
      (.initialized listenSocket maxSessions callbacks) = (true, server)) :
    Placed (started T server.model) := by
  constructor
  · exact (IOUringServer.startListen_reading listening).2.1
  · rintro _ _ ⟨⟩
  · rintro _ _ _ ⟨⟩

/-- Whatever the threads of a server do, a worker can handle a completion whose context is
    not deallocated, and a handler can go on behind its callback, unless that is mOnAccept
    and the session has been destroyed meanwhile. The session of a worker that waits for
    good in mOnReceive or mOnDisconnect is never taken up again: no operation names it and
    no other worker has it. -/
theorem handlers_end_iff [DecidableEq T] {listenSocket : Fd} {maxSessions : UInt32}
    {callbacks : Callbacks} {listens : Bool} {a : SubmitAnswers} {server : IOUringServer}
    (listening : IOUringServer.startListen listens a
      (.initialized listenSocket maxSessions callbacks) = (true, server))
    (es : List (T × Event)) {s : Threads T IOUringModel Place}
    (ends : run (step move) (started T server.model) es = some s) (t : T) :
    (s.place t = .outside → ∀ index ctx result received b, s.shared.inflight[index]? = some ctx →
      Arrives ctx result received s.shared →
      ((step move s (t, .complete index result received b)).isSome = true ↔
        ctx.address ∉ s.shared.deallocated)) ∧
    (∀ ctx rest sends b, s.place t = .callback ctx rest sends →
      ((step move s (t, .returns b)).isSome = true ↔
        ∀ id, rest = .accept id → id ∈ s.shared.mSessionManager.mSessions)) ∧
    ∀ rest id, s.place t = .waiting (some rest) → rest.keeps = some id →
      id ∈ s.shared.mSessionManager.mSessions ∧
      (∀ ctx ∈ s.shared.pending, ctx.session ≠ some id) ∧
      ∀ u, u ≠ t → (s.place u).keeps ≠ some id := by
  have placed : Placed s := invariant_of_kept step_placed es _ (started_placed listening) s
    (mem_states_of_run ends)
  refine ⟨?_, ?_, ?_⟩
  · intro outside index ctx result received b found arrives
    rw [Interleavings.step, Option.isSome_map, outside]
    simp only [move, found, if_pos arrives]
    exact processCompletion_defined (dequeued_reading placed.reading found).1 arrives
      (taken_of_found placed.reading found) b
  · intro ctx rest sends b inside
    rw [Interleavings.step, Option.isSome_map, inside]
    have keeps : (s.place t).keeps = rest.keeps := congrArg Place.keeps inside
    exact leave_defined_iff ctx (fun id names => placed.kept t id (keeps.trans names)) b
  · intro rest id waits keeps
    have keeps' : (s.place t).keeps = some id := (congrArg Place.keeps waits).trans keeps
    have unnamed := placed.kept t id keeps'
    refine ⟨unnamed.present, fun ctx member names => ?_, fun u different keeps'' => ?_⟩
    · exact unnamed.absent (List.mem_filterMap.mpr ⟨ctx, member, names⟩)
    · exact different (placed.alone u t id keeps'' keeps')

theorem step_gone [DecidableEq T] {s : Threads T IOUringModel Place} {t : T}
    (outside : s.place t = .outside) {index : Nat} {ctx : IOUringContext}
    (found : s.shared.inflight[index]? = some ctx) (kind : ctx.operation = .receive)
    {id : SessionID} (names : ctx.session = some id) {session : Session Fd}
    (listed : s.shared.mSessionManager.getSession id = some session)
    (connected : session.mState = .connected) (there : ctx.address ∉ s.shared.deallocated)
    (set : s.shared.callbacks.mOnDisconnect = true) (b : CompletionAnswers) :
    ∃ s', step move s (t, .complete index 0 [] b) = some s' ∧
      s'.place t = .callback ctx (.disconnect id) 0 ∧ id ∈ s'.shared.mSessionManager.mSessions ∧
      ∀ u, u ≠ t → s'.place u = s.place u := by
  have arrives : Arrives ctx 0 [] s.shared := by
    refine ⟨fun accept => ?_, fun _ => ⟨rfl, Nat.zero_le _⟩⟩
    cases kind.symm.trans accept
  have told : (s.shared.callbacks.onDisconnect id).mOnDisconnect = true := by
    rw [Callbacks.onDisconnect_set set]
    exact set
  have moved : move s.shared (s.place t) (.complete index 0 [] b) = some
      ({ setSession id (session.setState .disconnected)
          { s.shared with inflight := s.shared.inflight.eraseIdx index } with
        callbacks := s.shared.callbacks.onDisconnect id }, .callback ctx (.disconnect id) 0) := by
    rw [outside]
    simp only [move, found, if_pos arrives, processCompletion, if_neg there, untilCallback, kind,
      names, listed, disconnectUntilCallback, Session.isConnected, Session.isDisconnected,
      connected, Rest.calls]
    exact if_pos told
  obtain ⟨s', next, shared, here, others⟩ := step_moves moved
  refine ⟨s', next, here, ?_, others⟩
  rw [shared]
  exact (AList.mem_insert _).mpr (Or.inl rfl)

theorem step_forgets [DecidableEq T] {s : Threads T IOUringModel Place} {t : T}
    {ctx : IOUringContext} {id : SessionID} {sends : Nat}
    (inside : s.place t = .callback ctx (.disconnect id) sends)
    (present : id ∈ s.shared.mSessionManager.mSessions) (b : SubmitAnswers) :
    ∃ s', step move s (t, .returns b) = some s' ∧ id ∉ s'.shared.mSessionManager.mSessions ∧
      ∀ u, u ≠ t → s'.place u = s.place u := by
  obtain ⟨session, listed⟩ := SessionManager.getSession_of_mem present
  have left : leave ctx (.disconnect id) b s.shared = some (deallocate ctx { s.shared with
      mSocketToSession := s.shared.mSocketToSession.erase session.mSocket
      closed := s.shared.closed ++ [session.mSocket]
      mSessionManager := (s.shared.mSessionManager.removeSession id).2 }, .outside) := by
    simp only [leave, behindCallback, listed, Option.map_some]
  obtain ⟨s', next, shared, _, others⟩ :=
    step_moves (show move s.shared (s.place t) (.returns b) = _ by rw [inside]; exact left)
  refine ⟨s', next, fun member => ?_, others⟩
  rw [shared] at member
  exact (SessionManager.mem_removeSession.mp member).1 rfl

/-- While one worker is in mOnAccept, the other is told that the client is gone. -/
def goneAtOnce : List (Bool × Event) :=
  greeted ++
    [(false, .complete 1 0 [] ⟨⟨true, true⟩, ⟨true, true⟩⟩), (false, .returns ⟨true, true⟩)]

theorem greeting_outlives_session :
    ∃ s, run (step move) (started Bool listeningServer.model) goneAtOnce = some s ∧
      (step move s (true, .returns ⟨true, true⟩)).isSome = false := by
  obtain ⟨g, ctx, ctx', greet, inside, outside, found, kind, names, listed, there, set⟩ :
      ∃ (g : Threads Bool IOUringModel Place) (ctx ctx' : IOUringContext),
        step move (started Bool listeningServer.model)
          (true, .complete 0 9 [] ⟨⟨true, true⟩, ⟨true, true⟩⟩) = some g ∧
        g.place true = .callback ctx (.accept 1) 0 ∧ g.place false = .outside ∧
        g.shared.inflight[1]? = some ctx' ∧ ctx'.operation = .receive ∧ ctx'.session = some 1 ∧
        g.shared.mSessionManager.getSession 1 = some (Session.accepted 1 9 .default) ∧
        g.shared.deallocated = [] ∧ g.shared.callbacks.mOnDisconnect = true :=
    ⟨_, _, _, rfl, rfl, rfl, rfl, rfl, rfl, rfl, rfl, rfl⟩
  obtain ⟨h, told, inside', present, others⟩ := step_gone outside found kind names listed rfl
    (by simp [there]) set ⟨⟨true, true⟩, ⟨true, true⟩⟩
  obtain ⟨s, forgotten, gone, others'⟩ := step_forgets inside' present ⟨true, true⟩
  have ends : run (step move) (started Bool listeningServer.model) goneAtOnce = some s := by
    simp only [goneAtOnce, greeted, List.singleton_append, run, greet, told, forgotten,
      Option.bind_some]
  have still : s.place true = .callback ctx (.accept 1) 0 :=
    ((others' true (by decide)).trans (others true (by decide))).trans inside
  refine ⟨s, ends, Bool.eq_false_of_not_eq_true fun defined => ?_⟩
  have ended :=
    (handlers_end_iff listeningServer_listens goneAtOnce ends true).2.1 ctx (.accept 1) 0
    ⟨true, true⟩ still
  exact gone (ended.mp defined 1 rfl)

end IOUringWorkers
end KanchoNet
