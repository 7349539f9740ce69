import KanchoNet.Network.EpollIndexes
import KanchoNet.Network.EpollMoments

/-!
The batch loop of EpollModel::ProcessIO and the sessions it hands out. An event carries
a Session* from before the batch, and every handler may destroy the session; the loop
goes on to the other bits of the event and to the other events.
-/
namespace KanchoNet
open GuardedSections

namespace EpollServer

def eventMoments (m : EpollServer) : ReadyEvent → List (Moment EpollServer)
  | .listen _ => []
  | .client id events a =>
    if events &&& (EPOLLERR ||| EPOLLHUP) ≠ 0 then m.disconnectMoments id
    else
      (if events &&& EPOLLIN ≠ 0 then m.receiveMoments id a.recv else []) ++
      (if events &&& EPOLLIN ≠ 0 then m.processReceive id a.recv else .done () m).followed
        fun _ m => if events &&& EPOLLOUT ≠ 0 then m.sendMoments id a.send a.granted else []

def destroyedBy (event : ReadyEvent) (before after : EpollServer) (gone : List SessionID) :
    List SessionID :=
  match event with
  | .listen _ => gone
  | .client id _ _ =>
    if id ∈ before.mSessionManager.mSessions ∧ id ∉ after.mSessionManager.mSessions then id :: gone
    else gone

/-- Every session that the handlers are passed or use while a batch is worked off is in
    the table then, and is the one that was there when the batch began. -/
def BatchSafe (gone : List SessionID) : List ReadyEvent → EpollServer → Prop
  | [], _ => True
  | event :: events, m =>
    (∀ x ∈ m.eventMoments event, Live x ∧ x.session ∉ gone) ∧
    ∀ m', m.handleEvent event = .done () m' → BatchSafe (destroyedBy event m m' gone) events m'

def EndsSession (m : EpollServer) (id : SessionID) (events : BitVec 32) (a : ClientAnswers) :
    Prop :=
  ∃ session, m.mSessionManager.getSession id = some session ∧
    if events &&& (EPOLLERR ||| EPOLLHUP) ≠ 0 then session.isDisconnected = false
    else (events &&& EPOLLIN ≠ 0 ∧ EndsReceive session a.recv) ∨
      (events &&& EPOLLOUT ≠ 0 ∧ EndsSend session a.send)

/-- A client that is read and written in one event is not ended by either, one that is
    only written is not ended. -/
def EventFine (m : EpollServer) (id : SessionID) (events : BitVec 32) (a : ClientAnswers) : Prop :=
  events &&& (EPOLLERR ||| EPOLLHUP) ≠ 0 ∨ events &&& EPOLLOUT = 0 ∨
    ∀ session, m.mSessionManager.getSession id = some session →
      ¬(events &&& EPOLLIN ≠ 0 ∧ EndsReceive session a.recv) ∧ ¬EndsSend session a.send

def Dispatched (events : BitVec 32) : Prop :=
  events &&& (EPOLLERR ||| EPOLLHUP) ≠ 0 ∨ events &&& EPOLLIN ≠ 0 ∨ events &&& EPOLLOUT ≠ 0

/-- No event of the batch is for a session that an earlier one has ended, and each event
    is fine. -/
def BatchFine (gone : List SessionID) : List ReadyEvent → EpollServer → Prop
  | [], _ => True
  | .listen answers :: rest, m => BatchFine gone rest (m.processAccept answers)
  | .client id events a :: rest, m =>
    (Dispatched events → id ∉ gone) ∧ m.EventFine id events a ∧
    ∀ m', m.handleEvent (.client id events a) = .done () m' →
      (m.EndsSession id events a → BatchFine (id :: gone) rest m') ∧
      (¬m.EndsSession id events a → BatchFine gone rest m')

theorem disconnectMoments_session (m : EpollServer) (id : SessionID) :
    ∀ x ∈ m.disconnectMoments id, x.session = id := by
  cases found : m.mSessionManager.getSession id with
  | none =>
    intro x member
    simp only [disconnectMoments, found, List.mem_singleton] at member
    rw [member]
  | some session =>
    intro x member
    exact (disconnectMoments_at found x member).1

theorem receiveMoments_session (m : EpollServer) (id : SessionID) (answers : RecvAnswers) :
    ∀ x ∈ m.receiveMoments id answers, x.session = id := by
  cases found : m.mSessionManager.getSession id with
  | none =>
    intro x member
    simp only [receiveMoments, found, List.mem_singleton] at member
    rw [member]
  | some session =>
    intro x member
    exact (receiveMoments_at found answers x member).1

theorem passed_mem {events : BitVec 32} (dispatched : Dispatched events) (m : EpollServer)
    (id : SessionID) (a : ClientAnswers) :
    ⟨.use, id, m⟩ ∈ m.eventMoments (.client id events a) := by
  unfold eventMoments
  dsimp only
  split
  · exact List.mem_cons_self
  · rename_i ordinary
    by_cases readable : events &&& EPOLLIN ≠ 0
    · rw [if_pos readable]
      exact List.mem_append_left _ List.mem_cons_self
    · rcases dispatched with failed | readable' | writable
      · exact absurd failed ordinary
      · exact absurd readable' readable
      · rw [if_neg readable, if_neg readable, Outcome.followed, if_pos writable]
        exact List.mem_cons_self

theorem live_of_table {m : EpollServer} {id : SessionID} {session session' : Session Fd}
    (found : m.mSessionManager.getSession id = some session) {x : Moment EpollServer}
    (named : x.session = id) (table : x.state.mSessionManager = m.mSessionManager ∨
      x.state.mSessionManager = m.mSessionManager.store id session') : Live x := by
  have inside := SessionManager.mem_of_getSession found
  unfold Live
  rw [named]
  rcases table with same | marked
  · rw [same]
    exact inside
  · rw [marked]
    exact (SessionManager.mem_store_iff _ inside).mpr inside

theorem disconnectMoments_live {m : EpollServer} {id : SessionID} {session : Session Fd}
    (found : m.mSessionManager.getSession id = some session) :
    ∀ x ∈ m.disconnectMoments id, Live x := by
  intro x member
  obtain ⟨named, table, _⟩ := disconnectMoments_at found x member
  exact live_of_table found named table

theorem receiveMoments_live {m : EpollServer} {id : SessionID} {session : Session Fd}
    (found : m.mSessionManager.getSession id = some session) (answers : RecvAnswers) :
    ∀ x ∈ m.receiveMoments id answers, Live x := by
  intro x member
  obtain ⟨named, table, _⟩ := receiveMoments_at found answers x member
  exact live_of_table found named table

theorem processReceive_table {m : EpollServer} {id : SessionID} {session : Session Fd}
    (found : m.mSessionManager.getSession id = some session) (answers : RecvAnswers) :
    ∃ m', m.processReceive id answers = .done () m' ∧
      (EndsReceive session answers → m'.mSessionManager.getSession id = none) ∧
      (¬EndsReceive session answers → m'.mSessionManager = m.mSessionManager) := by
  unfold processReceive
  simp only [found]
  by_cases connected : session.isConnected = true
  · rw [if_neg (not_not.mpr connected)]
    have alive : session.isDisconnected = false := by
      simp only [Session.isConnected, Session.isDisconnected, beq_iff_eq] at connected ⊢
      rw [connected]
      rfl
    have loop : ∃ m', recvLoop id answers m = .done () m' ∧
        (answers.ends = true → m'.mSessionManager.getSession id = none) ∧
        (answers.ends = false → m'.mSessionManager = m.mSessionManager) := by
      generalize table : m.mSessionManager = t at found
      induction answers generalizing m with
      | received data positive within next ih =>
        refine ih ?_
        exact table
      | closed | failed =>
        refine ⟨_, (processDisconnect_eq (table ▸ found)).trans (by rw [alive]; rfl), ?_, ?_⟩
        · exact fun _ => getSession_dropped_self id session m
        · intro never
          cases never
      | wouldBlock =>
        refine ⟨m, rfl, ?_, fun _ => table⟩
        intro never
        cases never
    obtain ⟨m', ran, ended, stayed⟩ := loop
    refine ⟨m', ran, fun ends => ended ends.2, fun fine => stayed ?_⟩
    exact Bool.eq_false_of_not_eq_true fun ends => fine ⟨connected, ends⟩
  · rw [if_pos connected]
    exact ⟨m, rfl, fun ends => absurd ends.1 connected, fun _ => rfl⟩

theorem sendMoments_session (m : EpollServer) (id : SessionID) (answers : SendAnswers)
    (granted : Bool) : ∀ x ∈ m.sendMoments id answers granted, x.session = id := by
  intro x member
  unfold sendMoments at member
  rcases List.mem_cons.mp member with rfl | member
  · rfl
  · split at member
    · cases member
    · rcases List.mem_append.mp member with member | member
      · rcases List.mem_cons.mp member with rfl | member
        · rfl
        · obtain ⟨ending, m', _, member⟩ := mem_followed_iff.mp member
          rcases List.mem_cons.mp member with rfl | member
          · rfl
          · split at member
            · exact disconnectMoments_session m' id x member
            · cases member
      · obtain ⟨_, m', _, member⟩ := mem_followed_iff.mp member
        rw [List.mem_singleton.mp member]

theorem eventMoments_session (m : EpollServer) (id : SessionID) (events : BitVec 32)
    (a : ClientAnswers) : ∀ x ∈ m.eventMoments (.client id events a), x.session = id := by
  intro x member
  unfold eventMoments at member
  dsimp only at member
  split at member
  · exact disconnectMoments_session m id x member
  · rcases List.mem_append.mp member with member | member
    · split at member
      · exact receiveMoments_session m id a.recv x member
      · cases member
    · obtain ⟨_, m', _, member⟩ := mem_followed_iff.mp member
      split at member
      · exact sendMoments_session m' id a.send a.granted x member
      · cases member

/- ProcessSend on a session of the table: the guard unlocks it in the end, unless the
   session is destroyed by then. -/
theorem sendMoments_live_iff {m : EpollServer} {id : SessionID} {session : Session Fd}
    (found : m.mSessionManager.getSession id = some session)
    (free : session.mLock.mFlag = false) (answers : SendAnswers) (granted : Bool) :
    (∀ x ∈ m.sendMoments id answers granted, Live x) ↔ ¬EndsSend session answers := by
  obtain ⟨emptied, left, there, _, uses, used, ⟨fine, moments⟩ | ⟨fails, _, moments⟩⟩ :=
    sendMoments_free found free answers granted
  · rw [moments, List.forall_mem_append, List.forall_mem_singleton]
    apply iff_of_true _ fine
    exact ⟨fun x member => (used x member).2.2, SessionManager.mem_of_getSession there⟩
  · rw [moments, List.forall_mem_append, List.forall_mem_append, List.forall_mem_singleton]
    apply iff_of_false _ (not_not.mpr fails)
    rintro ⟨_, _, unlocked⟩
    exact SessionManager.not_mem_of_getSession (getSession_dropped_self id left emptied) unlocked

theorem processSend_stays {m m' : EpollServer} {id : SessionID} {session : Session Fd}
    (found : m.mSessionManager.getSession id = some session)
    (free : session.mLock.mFlag = false) {answers : SendAnswers}
    {granted : Bool} (fine : ¬EndsSend session answers)
    (sent : m.processSend id answers granted = .done () m') :
    id ∈ m'.mSessionManager.mSessions := by
  rw [processSend_eq] at sent
  obtain ⟨_, emptied, left, _, there, _, ⟨_, _, done⟩ | ⟨fails, _⟩⟩ :=
    sendSection_cases found answers granted
  · rw [guarded_done ((held_of_found found).trans free) done] at sent
    cases sent
    exact (touched_mem (setLock_touched id false emptied) id).mpr
      (SessionManager.mem_of_getSession there)
  · exact absurd fails fine

theorem eventFine_iff {m : EpollServer} {id : SessionID} {session : Session Fd}
    (found : m.mSessionManager.getSession id = some session) {events : BitVec 32}
    {a : ClientAnswers} (ordinary : ¬events &&& (EPOLLERR ||| EPOLLHUP) ≠ 0)
    (writable : events &&& EPOLLOUT ≠ 0) : m.EventFine id events a ↔
      ¬(events &&& EPOLLIN ≠ 0 ∧ EndsReceive session a.recv) ∧ ¬EndsSend session a.send := by
  unfold EventFine
  rw [or_iff_right ordinary, or_iff_right writable]
  constructor
  · exact fun fine => fine session found
  · intro fine other found'
    cases found.symm.trans found'
    exact fine

theorem eventMoments_live_iff {m : EpollServer} {id : SessionID} {session : Session Fd}
    (found : m.mSessionManager.getSession id = some session)
    (free : session.mLock.mFlag = false) (events : BitVec 32) (a : ClientAnswers) :
    (∀ x ∈ m.eventMoments (.client id events a), Live x) ↔ m.EventFine id events a := by
  unfold eventMoments
  dsimp only
  by_cases failed : events &&& (EPOLLERR ||| EPOLLHUP) ≠ 0
  · rw [if_pos failed]
    exact iff_of_true (disconnectMoments_live found) (Or.inl failed)
  rw [if_neg failed, List.forall_mem_append]
  by_cases writable : events &&& EPOLLOUT = 0
  · apply iff_of_true _ (Or.inr (Or.inl writable))
    constructor
    · split
      · exact receiveMoments_live found a.recv
      · exact List.forall_mem_nil _
    · intro x member
      obtain ⟨_, m', _, member⟩ := mem_followed_iff.mp member
      rw [if_neg (not_not.mpr writable)] at member
      cases member
  rw [eventFine_iff found failed writable]
  by_cases readable : events &&& EPOLLIN ≠ 0
  · obtain ⟨m', received, ended, stayed⟩ := processReceive_table found a.recv
    rw [if_pos readable, if_pos readable, received, Outcome.followed, if_pos writable]
    by_cases ends : EndsReceive session a.recv
    · apply iff_of_false
      · rintro ⟨_, passed⟩
        exact SessionManager.not_mem_of_getSession (ended ends) (passed _ List.mem_cons_self)
      · exact fun fine => fine.1 ⟨readable, ends⟩
    · have found' : m'.mSessionManager.getSession id = some session := by
        rw [stayed ends]
        exact found
      rw [sendMoments_live_iff found' free a.send a.granted]
      constructor
      · exact fun safe => ⟨fun both => ends both.2, safe.2⟩
      · exact fun fine => ⟨receiveMoments_live found a.recv, fine.2⟩
  · rw [if_neg readable, if_neg readable, Outcome.followed, if_pos writable,
      sendMoments_live_iff found free a.send a.granted]
    constructor
    · exact fun safe => ⟨fun both => readable both.1, safe.2⟩
    · exact fun fine => ⟨List.forall_mem_nil _, fine.2⟩

theorem endsSession_iff {m : EpollServer} {id : SessionID} {session : Session Fd}
    (found : m.mSessionManager.getSession id = some session) (events : BitVec 32)
    (a : ClientAnswers) : m.EndsSession id events a ↔
      if events &&& (EPOLLERR ||| EPOLLHUP) ≠ 0 then session.isDisconnected = false
      else (events &&& EPOLLIN ≠ 0 ∧ EndsReceive session a.recv) ∨
        (events &&& EPOLLOUT ≠ 0 ∧ EndsSend session a.send) := by
  constructor
  · rintro ⟨other, found', ends⟩
    cases found.symm.trans found'
    exact ends
  · exact fun ends => ⟨session, found, ends⟩

theorem writable_stays {m m' : EpollServer} {id : SessionID} {session : Session Fd}
    (found : m.mSessionManager.getSession id = some session)
    (free : session.mLock.mFlag = false) {events : BitVec 32} {a : ClientAnswers}
    (quiet : ¬(events &&& EPOLLOUT ≠ 0 ∧ EndsSend session a.send))
    (sent : (if events &&& EPOLLOUT ≠ 0 then m.processSend id a.send a.granted
      else .done () m) = .done () m') : id ∈ m'.mSessionManager.mSessions := by
  split at sent
  · rename_i writable
    exact processSend_stays found free (fun fails => quiet ⟨writable, fails⟩) sent
  · cases sent
    exact SessionManager.mem_of_getSession found

/- What a fine event of a session of the table leaves: the session is gone exactly when
   the event ends it. -/
theorem handleEvent_ends_iff {m m' : EpollServer} {id : SessionID} {session : Session Fd}
    (found : m.mSessionManager.getSession id = some session)
    (free : session.mLock.mFlag = false) {events : BitVec 32} {a : ClientAnswers}
    (fine : m.EventFine id events a)
    (handled : m.handleEvent (.client id events a) = .done () m') :
    m.EndsSession id events a ↔ id ∉ m'.mSessionManager.mSessions := by
  rw [endsSession_iff found]
  unfold handleEvent at handled
  dsimp only at handled
  by_cases failed : events &&& (EPOLLERR ||| EPOLLHUP) ≠ 0
  · rw [if_pos failed, processDisconnect_eq found] at handled
    rw [if_pos failed]
    cases gone : session.isDisconnected with
    | true =>
      rw [gone] at handled
      cases handled
      simpa using SessionManager.mem_of_getSession found
    | false =>
      rw [gone] at handled
      cases handled
      exact iff_of_true rfl
        (SessionManager.not_mem_of_getSession (getSession_dropped_self id session m))
  rw [if_neg failed] at handled ⊢
  have quiet : ¬(events &&& EPOLLOUT ≠ 0 ∧ EndsSend session a.send) := by
    rintro ⟨writable, fails⟩
    exact ((eventFine_iff found failed writable).mp fine).2 fails
  rw [or_iff_left quiet]
  by_cases readable : events &&& EPOLLIN ≠ 0
  · obtain ⟨u, received, ended, stayed⟩ := processReceive_table found a.recv
    rw [if_pos readable, received, Outcome.bind] at handled
    by_cases ends : EndsReceive session a.recv
    · apply iff_of_true ⟨readable, ends⟩
      have unwritable : ¬events &&& EPOLLOUT ≠ 0 := fun writable =>
        ((eventFine_iff found failed writable).mp fine).1 ⟨readable, ends⟩
      rw [if_neg unwritable] at handled
      cases handled
      exact SessionManager.not_mem_of_getSession (ended ends)
    · apply iff_of_false (fun both => ends both.2)
      exact not_not.mpr (writable_stays ((stayed ends).symm ▸ found) free quiet handled)
  · rw [if_neg readable, Outcome.bind] at handled
    apply iff_of_false (fun both => readable both.1)
    exact not_not.mpr (writable_stays found free quiet handled)

theorem acceptClient_keeps (client : AcceptedClient) {m : EpollServer} {id : SessionID}
    (inside : id ∈ m.mSessionManager.mSessions) :
    id ∈ (m.acceptClient client).mSessionManager.mSessions := by
  by_cases room : m.mSessionManager.mMaxSessions.toNat ≤ m.mSessionManager.getSessionCount
  · rw [acceptClient_full client room]
    exact inside
  · rw [acceptClient_room client room]
    split
    · exact (SessionManager.mem_seat _).mpr (Or.inr inside)
    · exact (SessionManager.mem_seat _).mpr (Or.inr inside)

theorem processAccept_keeps (answers : AcceptAnswers) {m : EpollServer} {id : SessionID}
    (inside : id ∈ m.mSessionManager.mSessions) :
    id ∈ (m.processAccept answers).mSessionManager.mSessions := by
  induction answers generalizing m with
  | client client next ih => exact ih (acceptClient_keeps client inside)
  | wouldBlock => exact inside
  | failed => exact inside

theorem handled_keeps {m m' : EpollServer} {id other : SessionID} (handled : Handled id m m')
    (different : other ≠ id) (inside : other ∈ m.mSessionManager.mSessions) :
    other ∈ m'.mSessionManager.mSessions := by
  rcases handled with touched | ⟨m₁, session, touched, found, _, rfl⟩
  · exact (touched_mem touched other).mpr inside
  · exact (mem_dropped found).mpr ⟨different, (touched_mem touched other).mpr inside⟩

theorem handleEvent_keeps {m m' : EpollServer} {id other : SessionID} {events : BitVec 32}
    {a : ClientAnswers} (handled : m.handleEvent (.client id events a) = .done () m')
    (different : other ≠ id) (inside : other ∈ m.mSessionManager.mSessions) :
    other ∈ m'.mSessionManager.mSessions := by
  have sends : ∀ {u : EpollServer}, other ∈ u.mSessionManager.mSessions →
      (if events &&& EPOLLOUT ≠ 0 then u.processSend id a.send a.granted else .done () u) =
        .done () m' → other ∈ m'.mSessionManager.mSessions := by
    intro u inside sent
    split at sent
    · exact handled_keeps (processSend_handled (congrArg Outcome.leaves sent)) different inside
    · cases sent
      exact inside
  unfold handleEvent at handled
  dsimp only at handled
  split at handled
  · exact handled_keeps (processDisconnect_handled (Touched.refl m)
      (congrArg Outcome.leaves handled)) different inside
  · split at handled
    · cases received : m.processReceive id a.recv with
      | done _ u =>
        rw [received] at handled
        exact sends (handled_keeps (processReceive_handled (congrArg Outcome.leaves received))
          different inside) handled
      | stuck u =>
        rw [received] at handled
        cases handled
      | undefined =>
        rw [received] at handled
        cases handled
    · exact sends inside handled

theorem undispatched_event {events : BitVec 32} (none : ¬Dispatched events) (m : EpollServer)
    (id : SessionID) (a : ClientAnswers) :
    m.eventMoments (.client id events a) = [] ∧
    m.handleEvent (.client id events a) = .done () m ∧ m.EventFine id events a ∧
    ¬m.EndsSession id events a := by
  unfold Dispatched at none
  rw [not_or, not_or] at none
  obtain ⟨ordinary, unreadable, unwritable⟩ := none
  refine ⟨?_, ?_, Or.inr (Or.inl (not_not.mp unwritable)), ?_⟩
  · unfold eventMoments
    dsimp only
    rw [if_neg ordinary, if_neg unreadable, if_neg unreadable, Outcome.followed, if_neg unwritable]
    rfl
  · unfold handleEvent
    dsimp only
    rw [if_neg ordinary, if_neg unreadable, Outcome.bind, if_neg unwritable]
  · rintro ⟨session, _, ends⟩
    rw [if_neg ordinary] at ends
    rcases ends with ⟨readable, _⟩ | ⟨writable, _⟩
    · exact unreadable readable
    · exact unwritable writable

/-- No thread is inside a section of a session. -/
def LocksFree (m : EpollServer) : Prop :=
  ∀ id session, m.mSessionManager.getSession id = some session → session.mLock.mFlag = false

def FreeBut (id : SessionID) (m : EpollServer) : Prop :=
  ∀ other session, other ≠ id → m.mSessionManager.getSession other = some session →
    session.mLock.mFlag = false

theorem LocksFree.except {m : EpollServer} (free : LocksFree m) (id : SessionID) : FreeBut id m :=
  fun other session _ found => free other session found

theorem store_freeBut {m m' : EpollServer} {id : SessionID} {session : Session Fd}
    (free : FreeBut id m) (table : m'.mSessionManager = m.mSessionManager.store id session) :
    FreeBut id m' := by
  intro other session' different found
  apply free other session' different
  rwa [table, SessionManager.getSession_store_ne _ _ different] at found

theorem setLock_freeBut {m : EpollServer} {id : SessionID} (free : FreeBut id m) (flag : Bool) :
    FreeBut id ((sessionLock id).set flag m) := by
  change FreeBut id (m.modifySession id _)
  unfold modifySession
  split
  · exact free
  · exact store_freeBut free rfl

theorem unlock_free {m : EpollServer} {id : SessionID} (free : FreeBut id m) :
    LocksFree ((sessionLock id).set false m) := by
  intro other session found
  by_cases same : other = id
  · subst other
    change (m.modifySession id (Session.lock.set false)).mSessionManager.getSession id = _ at found
    unfold modifySession at found
    split at found
    · rename_i absent
      cases absent.symm.trans found
    · cases (SessionManager.getSession_store_self _ _ _).symm.trans found
      rfl
  · exact setLock_freeBut free false other session same found

theorem dropped_free {m : EpollServer} {id : SessionID} (free : FreeBut id m)
    (session : Session Fd) : LocksFree (m.dropped id session) := by
  intro other session' found
  by_cases same : other = id
  · rw [same, getSession_dropped_self] at found
    cases found
  · rw [getSession_dropped_ne session m same] at found
    exact free other session' same found

theorem processDisconnect_done {m m' : EpollServer} {id : SessionID}
    (done : m.processDisconnect id = .done () m') :
    m' = m ∨ ∃ session, m' = m.dropped id session := by
  cases found : m.mSessionManager.getSession id with
  | none =>
    simp only [processDisconnect, found] at done
    cases done
  | some session =>
    rw [processDisconnect_eq found] at done
    split at done
    · cases done
      exact Or.inl rfl
    · cases done
      exact Or.inr ⟨session, rfl⟩

theorem processDisconnect_free {m m' : EpollServer} {id : SessionID} (free : LocksFree m)
    (done : m.processDisconnect id = .done () m') : LocksFree m' := by
  obtain rfl | ⟨session, rfl⟩ := processDisconnect_done done
  · exact free
  · exact dropped_free (free.except id) session

theorem recvLoop_free {m m' : EpollServer} {id : SessionID} {answers : RecvAnswers}
    (free : LocksFree m) (done : recvLoop id answers m = .done () m') : LocksFree m' := by
  induction answers generalizing m with
  | received data positive within next ih =>
    exact ih (m := { m with callbacks := m.callbacks.onReceive id data }) free done
  | closed | failed => exact processDisconnect_free free done
  | wouldBlock =>
    cases done
    exact free

theorem processReceive_free {m m' : EpollServer} {id : SessionID} {answers : RecvAnswers}
    (free : LocksFree m) (done : m.processReceive id answers = .done () m') : LocksFree m' := by
  unfold processReceive at done
  split at done
  · cases done
  · split at done
    · cases done
      exact free
    · exact recvLoop_free free done

theorem emptyBuffer_freeBut {m m' : EpollServer} {id : SessionID} {answers : SendAnswers}
    {granted : Bool} {ending : LoopEnd} (free : FreeBut id m)
    (done : m.emptyBuffer id answers granted = .done ending m') : FreeBut id m' := by
  unfold emptyBuffer onSession at done
  split at done
  · cases done
  · cases done
    exact store_freeBut free rfl

theorem processSend_free {m m' : EpollServer} {id : SessionID} {answers : SendAnswers}
    {granted : Bool} (free : LocksFree m) (done : m.processSend id answers granted = .done () m') :
    LocksFree m' := by
  obtain ⟨u, ran, rfl⟩ := of_guarded_done done
  obtain ⟨ending, emptied, sent, after⟩ := of_bind_done ran
  have held := emptyBuffer_freeBut (setLock_freeBut (free.except id) true) sent
  apply unlock_free
  split at after
  · obtain rfl | ⟨session, rfl⟩ := processDisconnect_done after
    · exact held
    · exact (dropped_free held session).except id
  · cases after
    exact held

theorem seat_free {m m' : EpollServer} {socket : Fd} (free : LocksFree m)
    (table : m'.mSessionManager = m.mSessionManager.seat socket) : LocksFree m' := by
  intro id session found
  rw [table] at found
  rcases SessionManager.getSession_seat_iff.mp found with ⟨_, rfl⟩ | ⟨_, found'⟩
  · rfl
  · exact free id session found'

theorem processAccept_free {m : EpollServer} (answers : AcceptAnswers) (free : LocksFree m) :
    LocksFree (m.processAccept answers) := by
  induction answers generalizing m with
  | client client next ih =>
    apply ih
    by_cases room : m.mSessionManager.mMaxSessions.toNat ≤ m.mSessionManager.getSessionCount
    · rw [acceptClient_full client room]
      exact free
    · rw [acceptClient_room client room]
      split
      · exact seat_free free rfl
      · exact seat_free free rfl
  | wouldBlock | failed => exact free

theorem handleEvent_free {m m' : EpollServer} {event : ReadyEvent} (free : LocksFree m)
    (handled : m.handleEvent event = .done () m') : LocksFree m' := by
  cases event with
  | listen answers =>
    cases handled
    exact processAccept_free answers free
  | client id events a =>
    unfold handleEvent at handled
    dsimp only at handled
    split at handled
    · exact processDisconnect_free free handled
    · obtain ⟨_, u, received, sent⟩ := of_bind_done handled
      have between : LocksFree u := by
        split at received
        · exact processReceive_free free received
        · cases received
          exact free
      split at sent
      · exact processSend_free between sent
      · cases sent
        exact between

theorem listen_then_iff {gone : List SessionID} {answers : AcceptAnswers}
    {rest : List ReadyEvent} {m : EpollServer}
    (later : BatchSafe gone rest (m.processAccept answers) ↔
      BatchFine gone rest (m.processAccept answers)) :
    BatchSafe gone (.listen answers :: rest) m ↔ BatchFine gone (.listen answers :: rest) m := by
  unfold BatchFine BatchSafe
  rw [← later]
  constructor
  · exact fun safe => safe.2 _ rfl
  · intro safe
    refine ⟨List.forall_mem_nil _, ?_⟩
    rintro _ ⟨⟩
    exact safe

theorem undispatched_then_iff {gone : List SessionID} {id : SessionID} {events : BitVec 32}
    {a : ClientAnswers} {rest : List ReadyEvent} {m : EpollServer}
    (undispatched : ¬Dispatched events)
    (later : BatchSafe gone rest m ↔ BatchFine gone rest m) :
    BatchSafe gone (.client id events a :: rest) m ↔
      BatchFine gone (.client id events a :: rest) m := by
  obtain ⟨moments, handled, fine, stays⟩ := undispatched_event undispatched m id a
  unfold BatchFine BatchSafe
  rw [moments, handled]
  have same : destroyedBy (.client id events a) m m gone = gone :=
    if_neg fun both => both.2 both.1
  constructor
  · intro safe
    refine ⟨fun yes => absurd yes undispatched, fine, ?_⟩
    rintro _ ⟨⟩
    refine ⟨fun ends => absurd ends stays, fun _ => later.mp ?_⟩
    have onward := safe.2 m rfl
    rwa [same] at onward
  · intro safe
    refine ⟨List.forall_mem_nil _, ?_⟩
    rintro _ ⟨⟩
    rw [same]
    exact later.mpr ((safe.2.2 m rfl).2 stays)

theorem dispatched_then_iff {gone : List SessionID} {id : SessionID} {events : BitVec 32}
    {a : ClientAnswers} {rest : List ReadyEvent} {m : EpollServer} (free : LocksFree m)
    (present : id ∉ gone) (inside : id ∈ m.mSessionManager.mSessions)
    (later : ∀ m' gone', m.handleEvent (.client id events a) = .done () m' →
      (id ∈ m'.mSessionManager.mSessions ∨ id ∈ gone') → (∀ other ∈ gone, other ∈ gone') →
      (BatchSafe gone' rest m' ↔ BatchFine gone' rest m')) :
    BatchSafe gone (.client id events a :: rest) m ↔
      BatchFine gone (.client id events a :: rest) m := by
  obtain ⟨session, found⟩ := SessionManager.getSession_of_mem inside
  have first : (∀ x ∈ m.eventMoments (.client id events a), Live x ∧ x.session ∉ gone) ↔
      m.EventFine id events a := by
    rw [← eventMoments_live_iff found (free id session found)]
    constructor
    · exact fun safe x member => (safe x member).1
    · refine fun live x member => ⟨live x member, ?_⟩
      rw [eventMoments_session m id events a x member]
      exact present
  unfold BatchFine BatchSafe
  rw [first, iff_true_intro (fun _ => present : Dispatched events → id ∉ gone), true_and]
  refine and_congr_right fun fine => forall₂_congr fun m' handled => ?_
  have ended := handleEvent_ends_iff found (free id session found) fine handled
  unfold destroyedBy
  dsimp only
  by_cases ends : m.EndsSession id events a
  · rw [if_pos ⟨inside, ended.mp ends⟩, later m' (id :: gone) handled
      (Or.inr List.mem_cons_self) fun _ => List.mem_cons_of_mem id]
    simp [ends]
  · have there := not_not.mp fun lost => ends (ended.mpr lost)
    rw [if_neg fun both => both.2 there, later m' gone handled (Or.inl there)
      fun _ member => member]
    simp [ends]

/- By induction on the batch: every event still to come is for a session of the table or
   for one that was destroyed in this batch. -/
theorem batchSafe_iff {gone : List SessionID} {batch : List ReadyEvent} {m : EpollServer}
    (free : LocksFree m) (registered : ∀ id events a, .client id events a ∈ batch →
      id ∈ m.mSessionManager.mSessions ∨ id ∈ gone) :
    BatchSafe gone batch m ↔ BatchFine gone batch m := by
  induction batch generalizing gone m with
  | nil => exact Iff.rfl
  | cons event rest ih =>
    have behind := fun id events a member =>
      registered id events a (List.mem_cons_of_mem event member)
    cases event with
    | listen answers =>
      apply listen_then_iff
      apply ih (processAccept_free answers free)
      intro id events a member
      exact (behind id events a member).imp_left (processAccept_keeps answers)
    | client id events a =>
      by_cases dispatched : Dispatched events
      · by_cases present : id ∈ gone
        · apply iff_of_false
          · exact fun safe => (safe.1 _ (passed_mem dispatched m id a)).2 present
          · exact fun fine => fine.1 dispatched present
        · have inside := (registered id events a List.mem_cons_self).resolve_right present
          apply dispatched_then_iff free present inside
          intro m' gone' handled self wider
          apply ih (handleEvent_free free handled)
          intro other events' a' member
          by_cases same : other = id
          · exact same ▸ self
          · rcases behind other events' a' member with old | lost
            · exact Or.inl (handleEvent_keeps handled same old)
            · exact Or.inr (wider other lost)
      · exact undispatched_then_iff dispatched (ih free behind)

end EpollServer

/-- A batch of events, each for a session of the table, that begins with no lock held is
    worked off without a handler being passed or using a destroyed session, exactly when
    no session is ended before its last use in the batch. -/
theorem dispatched_sessions_live_iff {m : EpollServer} {batch : List ReadyEvent}
    (free : m.LocksFree) (registered : ∀ id events a, .client id events a ∈ batch →
      id ∈ m.mSessionManager.mSessions) :
    EpollServer.BatchSafe [] batch m ↔ EpollServer.BatchFine [] batch m :=
  EpollServer.batchSafe_iff free fun id events a member => Or.inl (registered id events a member)

def EpollServer.oneClient : EpollServer := (listening .default 4 3).acceptClient ⟨7, true⟩

theorem EpollServer.oneClient_found : oneClient.mSessionManager.getSession 1 =
    some (Session.accepted 1 7 .default) :=
  SessionManager.getSession_store_self _ _ _

theorem EpollServer.oneClient_free : oneClient.LocksFree :=
  processAccept_free (m := listening .default 4 3) (.client ⟨7, true⟩ .wouldBlock)
    fun _ _ found => by cases found

/- A client that sends a byte and closes, and another that connects. -/
theorem closing_client_batch_live :
    EpollServer.BatchSafe []
      [.client 1 EPOLLIN
          ⟨.received [65] (by decide) (by decide) .closed, fun _ _ => .wouldBlock, true⟩,
        .listen (.client ⟨8, true⟩ .wouldBlock)] EpollServer.oneClient := by
  apply (dispatched_sessions_live_iff EpollServer.oneClient_free _).mpr
  · refine ⟨fun _ => List.not_mem_nil, Or.inr (Or.inl (by decide)), ?_⟩
    intro m' _
    exact ⟨fun _ => trivial, fun _ => trivial⟩
  · intro id events a member
    simp only [List.mem_cons, List.not_mem_nil, or_false, ReadyEvent.client.injEq,
      reduceCtorEq] at member
    rw [member.1]
    exact SessionManager.mem_of_getSession EpollServer.oneClient_found

def waitingPacket : PacketBuffer := PacketBuffer.ofBytes [72, 105] 2 (by decide)

theorem EpollServer.oneClient_queues : ∃ m session,
    oneClient.send 1 waitingPacket true = .done true m ∧
    m.mSessionManager.getSession 1 = some session ∧ session.mState = .connected ∧
    session.mLock.mFlag = false ∧ session.outgoing = waitingPacket.contents := by
  have packed : waitingPacket.contents ≠ [] := by decide
  obtain ⟨p, sent, free, _, outgoing, _⟩ := EpollModel.send_spec true
    (p := ⟨Session.accepted 1 7 .default, oneClient.registry⟩) rfl packed
  have fits : waitingPacket.contents.length ≤ (Session.accepted 1 (7 : Fd) .default).freeSpace := by
    rw [Session.freeSpace_accepted]
    decide
  have queued : oneClient.send 1 waitingPacket true =
      .done true { oneClient with
        mSessionManager := oneClient.mSessionManager.store 1 p.session
        registry := p.registry } := by
    unfold send onSession
    rw [oneClient_found]
    dsimp only
    rw [sent, decide_eq_true fits]
    rfl
  have kept := EpollModel.send_footprint (congrArg Outcome.leaves sent)
  refine ⟨_, p.session, queued, SessionManager.getSession_store_self _ _ _, kept.mState, free, ?_⟩
  rw [outgoing, Session.acceptedPrefix_whole fits, Session.outgoing_accepted, List.nil_append]

/- A client with a packet to be sent closes while its socket is writable: one event
   reports both, and ProcessSend gets the session that ProcessReceive destroyed. -/
theorem closed_writable_client_dangles :
    ∃ m, EpollServer.oneClient.send 1 waitingPacket true = .done true m ∧
      1 ∈ m.mSessionManager.mSessions ∧
      ¬EpollServer.BatchSafe []
        [.client 1 (EPOLLIN ||| EPOLLOUT) ⟨.closed, fun _ _ => .wouldBlock, true⟩] m := by
  obtain ⟨m, session, queued, found, state, free, _⟩ := EpollServer.oneClient_queues
  have connected : session.isConnected = true := by
    rw [Session.isConnected, state]
    rfl
  refine ⟨m, queued, SessionManager.mem_of_getSession found, ?_⟩
  intro safe
  have live := (EpollServer.eventMoments_live_iff found free _ _).mp
    fun x member => (safe.1 x member).1
  rcases live with failed | unwritable | fine
  · exact absurd failed (by decide)
  · exact absurd unwritable (by decide)
  · exact (fine session found).1 ⟨by decide, connected, rfl⟩

end KanchoNet
