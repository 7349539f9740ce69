import KanchoNet.Network.EpollIndexes

/-!
The loop of ProcessAccept against a queue of results. The listen socket is
registered edge-triggered, so only an EAGAIN tells that nothing is left waiting.
-/
namespace KanchoNet

inductive AcceptResult where
  | descriptor (client : AcceptedClient)
  | wouldBlock
  | error

def AcceptAnswers.results : AcceptAnswers → List AcceptResult
  | .client accepted next => .descriptor accepted :: next.results
  | .wouldBlock => [.wouldBlock]
  | .failed => [.error]

namespace EpollServer

/-- The loop of ProcessAccept on the results accept() would give, one after the other:
    those it looks at and the server it returns with; none while it has not returned. -/
def acceptLoop : List AcceptResult → EpollServer → Option (List AcceptResult × EpollServer)
  | [], _ => none
  | .descriptor client :: rest, m =>
    (acceptLoop rest (m.acceptClient client)).map fun (seen, m) => (.descriptor client :: seen, m)
  | .wouldBlock :: _, m => some ([.wouldBlock], m)
  | .error :: _, m => some ([.error], m)

theorem acceptLoop_eq_processAccept (answers : AcceptAnswers) (later : List AcceptResult)
    (m : EpollServer) :
    acceptLoop (answers.results ++ later) m = some (answers.results, m.processAccept answers) := by
  induction answers generalizing m with
  | client accepted next ih =>
    simp only [AcceptAnswers.results, List.cons_append, acceptLoop, ih, processAccept]
    rfl
  | wouldBlock => rfl
  | failed => rfl

def OwnedBy (m : EpollServer) (id : SessionID) (fd : Fd) : Prop :=
  ∃ session, m.mSessionManager.getSession id = some session ∧ session.mSocket = fd ∧
    session.mState = .connected ∧ fd ∈ m.registry.interest ∧
    m.registry.mSocketToSession.lookup fd = some (sessionPtr id)

def Accounted (m : EpollServer) (fd : Fd) : Prop := (∃ id, m.OwnedBy id fd) ∨ fd ∉ m.descriptors

/-- What ProcessAccept leaves: nothing waiting, and every descriptor accounted for. -/
def Drains (m : EpollServer) (results : List AcceptResult) : Prop :=
  ∀ seen m', acceptLoop results m = some (seen, m') →
    seen.getLast? = some .wouldBlock ∧
    ∀ client, .descriptor client ∈ seen → m'.Accounted client.socket

def ErrorsLate (results : List AcceptResult) : Prop :=
  ∀ front back, results = front ++ .error :: back → .wouldBlock ∈ front

/-- The counter has given out the id since it stood at the first one; it may have
    wrapped on the way. -/
def GivenSince (first : SessionID) (m : EpollServer) (id : SessionID) : Prop :=
  (id - first).toNat < (m.mSessionManager.mNextSessionID - first).toNat

def SeatedSince (first : SessionID) (m : EpollServer) : Prop :=
  ∀ id, m.GivenSince first id → id ∈ m.mSessionManager.mSessions

/-- The descriptor belongs to a session with one of those ids or is closed. -/
def AccountedSince (first : SessionID) (m : EpollServer) (fd : Fd) : Prop :=
  (∃ id, m.GivenSince first id ∧ m.OwnedBy id fd) ∨ fd ∉ m.descriptors

/- The table holds as many sessions as the counter has advanced, so it fills up before
   the counter comes round. -/
theorem given_le_getSessionCount {first : SessionID} {m : EpollServer}
    (seated : m.SeatedSince first) :
    (m.mSessionManager.mNextSessionID - first).toNat ≤ m.mSessionManager.getSessionCount := by
  have bound := (m.mSessionManager.mNextSessionID - first).toNat_lt
  have offset : ∀ k ∈ List.range (m.mSessionManager.mNextSessionID - first).toNat,
      (UInt64.ofNat k + first - first).toNat = k := by
    intro k member
    rw [UInt64.add_sub_cancel]
    exact UInt64.toNat_ofNat_of_lt (Nat.lt_trans (List.mem_range.mp member) bound)
  have distinct : ((List.range (m.mSessionManager.mNextSessionID - first).toNat).map
      fun k => UInt64.ofNat k + first).Nodup := by
    apply List.nodup_range.map_on
    intro k member k' member' same
    rw [← offset k member, same, offset k' member']
  have inside : (List.range (m.mSessionManager.mNextSessionID - first).toNat).map
      (fun k => UInt64.ofNat k + first) ⊆ m.mSessionManager.mSessions.keys := by
    intro id member
    obtain ⟨k, small, rfl⟩ := List.mem_map.mp member
    apply seated
    unfold GivenSince
    rw [offset k small]
    exact List.mem_range.mp small
  have fewer := (List.subperm_of_subset distinct inside).length_le
  rw [List.length_map, List.length_range] at fewer
  exact fewer

theorem givenSince_seat_iff {first : SessionID} {m m' : EpollServer} {socket : Fd}
    (seated : m.SeatedSince first)
    (room : ¬m.mSessionManager.mMaxSessions.toNat ≤ m.mSessionManager.getSessionCount)
    (table : m'.mSessionManager = m.mSessionManager.seat socket) (id : SessionID) :
    m'.GivenSince first id ↔ id = m.mSessionManager.mNextSessionID ∨ m.GivenSince first id := by
  have given := given_le_getSessionCount seated
  have few := m.mSessionManager.mMaxSessions.toNat_lt
  have advanced : (m.mSessionManager.mNextSessionID + 1 - first).toNat =
      (m.mSessionManager.mNextSessionID - first).toNat + 1 := by
    rw [UInt64.sub_eq_add_neg, UInt64.add_assoc, UInt64.add_comm 1, ← UInt64.add_assoc,
      ← UInt64.sub_eq_add_neg]
    exact SessionManager.next_toNat (by omega)
  have last : (id - first).toNat = (m.mSessionManager.mNextSessionID - first).toNat ↔
      id = m.mSessionManager.mNextSessionID := by
    rw [UInt64.toNat_inj, UInt64.sub_left_inj]
  unfold GivenSince
  rw [table]
  change (id - first).toNat < (m.mSessionManager.mNextSessionID + 1 - first).toNat ↔ _
  rw [advanced, Nat.lt_succ_iff_lt_or_eq, last]
  exact Or.comm

theorem seat_seatedSince {first : SessionID} {m m' : EpollServer} {socket : Fd}
    (seated : m.SeatedSince first)
    (room : ¬m.mSessionManager.mMaxSessions.toNat ≤ m.mSessionManager.getSessionCount)
    (table : m'.mSessionManager = m.mSessionManager.seat socket) : m'.SeatedSince first := by
  intro id given
  rw [table]
  apply (SessionManager.mem_seat socket).mpr
  exact ((givenSince_seat_iff seated room table id).mp given).imp_right (seated id)

theorem seat_getSession {first : SessionID} {m : EpollServer} {id : SessionID}
    (given : m.GivenSince first id) (socket : Fd) :
    (m.mSessionManager.seat socket).getSession id = m.mSessionManager.getSession id := by
  apply SessionManager.getSession_seat_ne
  rintro rfl
  exact Nat.lt_irrefl _ given

theorem acceptClient_accounts {first : SessionID} {m : EpollServer}
    (seated : m.SeatedSince first) (client : AcceptedClient) :
    (m.acceptClient client).SeatedSince first ∧
    (m.acceptClient client).AccountedSince first client.socket ∧
    ∀ fd, fd ≠ client.socket → m.AccountedSince first fd →
      (m.acceptClient client).AccountedSince first fd := by
  by_cases full : m.mSessionManager.mMaxSessions.toNat ≤ m.mSessionManager.getSessionCount
  · rw [acceptClient_full client full]
    refine ⟨seated, ?_, ?_⟩
    · right
      simp [refused]
    · rintro fd different (owned | closed)
      · exact Or.inl owned
      · exact Or.inr fun isOpen => closed (List.mem_of_mem_filter isOpen)
  · rw [acceptClient_room client full]
    split
    · rename_i granted
      have since : ∀ id, (m.admitted client.socket).GivenSince first id ↔
          id = m.mSessionManager.mNextSessionID ∨ m.GivenSince first id :=
        givenSince_seat_iff seated full rfl
      refine ⟨seat_seatedSince seated full rfl, ?_, ?_⟩
      · left
        exact ⟨_, (since _).mpr (Or.inl rfl), _, SessionManager.getSession_seat_self _ _, rfl, rfl,
          (AList.mem_insert _).mpr (Or.inl rfl), AList.lookup_insert _⟩
      · rintro fd different (⟨id, given, session, found, socket, connected, interested, mapped⟩ |
          closed)
        · left
          exact ⟨id, (since id).mpr (Or.inr given), session,
            (seat_getSession given _).trans found, socket, connected,
            (AList.mem_insert _).mpr (Or.inr interested),
            (AList.lookup_insert_ne different).trans mapped⟩
        · right
          intro isOpen
          rcases List.mem_cons.mp isOpen with same | old
          · exact different same
          · exact closed old
    · have since : ∀ id, (m.abandoned client.socket).GivenSince first id ↔
          id = m.mSessionManager.mNextSessionID ∨ m.GivenSince first id :=
        givenSince_seat_iff seated full rfl
      refine ⟨seat_seatedSince seated full rfl, ?_, ?_⟩
      · right
        simp [abandoned]
      · rintro fd different (⟨id, given, session, found, socket, connected, interested, mapped⟩ |
          closed)
        · left
          refine ⟨id, (since id).mpr (Or.inr given), session,
            (seat_getSession given _).trans found, socket, connected,
            AList.mem_erase.mpr ⟨different, interested⟩, ?_⟩
          exact (AList.lookup_erase_ne different).trans
            ((AList.lookup_insert_ne different).trans mapped)
        · right
          exact fun isOpen => closed (List.mem_of_mem_filter isOpen)

/- By induction on the results: what is accounted for stays so, and what the loop
   obtains becomes so. -/
theorem acceptLoop_accounts {first : SessionID} {results seen : List AcceptResult}
    {m m' : EpollServer} (seated : m.SeatedSince first)
    (ends : acceptLoop results m = some (seen, m')) {fd : Fd}
    (known : m.AccountedSince first fd ∨ ∃ client, .descriptor client ∈ seen ∧ client.socket = fd) :
    m'.AccountedSince first fd := by
  induction results generalizing m seen with
  | nil => cases ends
  | cons result rest ih =>
    cases result with
    | descriptor client =>
      obtain ⟨seated', own, others⟩ := acceptClient_accounts seated client
      simp only [acceptLoop, Option.map_eq_some_iff, Prod.mk.injEq] at ends
      obtain ⟨⟨later, m₁⟩, loop, rfl, rfl⟩ := ends
      apply ih seated' loop
      by_cases same : fd = client.socket
      · subst same
        exact Or.inl own
      · rcases known with accounted | ⟨other, member, socket⟩
        · exact Or.inl (others fd same accounted)
        · right
          rcases List.mem_cons.mp member with here | later
          · cases here
            exact absurd socket.symm same
          · exact ⟨other, later, socket⟩
    | wouldBlock =>
      cases ends
      rcases known with accounted | ⟨other, member, _⟩
      · exact accounted
      · simp at member
    | error =>
      cases ends
      rcases known with accounted | ⟨other, member, _⟩
      · exact accounted
      · simp at member

theorem acceptLoop_descriptors {results seen : List AcceptResult} {m m' : EpollServer}
    (ends : acceptLoop results m = some (seen, m')) {client : AcceptedClient}
    (member : .descriptor client ∈ seen) : m'.Accounted client.socket := by
  have seated : m.SeatedSince m.mSessionManager.mNextSessionID := by
    intro id given
    rw [GivenSince, UInt64.sub_self] at given
    cases given
  rcases acceptLoop_accounts seated ends (Or.inr ⟨client, member, rfl⟩) with
    ⟨id, _, owned⟩ | closed
  · exact Or.inl ⟨id, owned⟩
  · exact Or.inr closed

theorem acceptLoop_looks {results seen : List AcceptResult} {m m' : EpollServer}
    (ends : acceptLoop results m = some (seen, m')) : seen ≠ [] := by
  cases results with
  | nil => cases ends
  | cons result rest =>
    cases result with
    | descriptor client =>
      simp only [acceptLoop, Option.map_eq_some_iff, Prod.mk.injEq] at ends
      obtain ⟨_, _, rfl, _⟩ := ends
      exact List.cons_ne_nil _ _
    | wouldBlock | error =>
      cases ends
      exact List.cons_ne_nil _ _

theorem errorsLate_descriptor (client : AcceptedClient) (rest : List AcceptResult) :
    ErrorsLate (.descriptor client :: rest) ↔ ErrorsLate rest := by
  constructor
  · intro late front back split
    have behind := late (.descriptor client :: front) back (by rw [split, List.cons_append])
    simpa using behind
  · intro late front back split
    cases front with
    | nil => simp at split
    | cons first front =>
      rw [List.cons_append, List.cons.injEq] at split
      exact List.mem_cons_of_mem _ (late front back split.2)

theorem acceptLoop_last_iff (results : List AcceptResult) (m : EpollServer) :
    (∀ seen m', acceptLoop results m = some (seen, m') → seen.getLast? = some .wouldBlock) ↔
      ErrorsLate results := by
  induction results generalizing m with
  | nil => simp [acceptLoop, ErrorsLate]
  | cons result rest ih =>
    cases result with
    | descriptor client =>
      rw [errorsLate_descriptor, ← ih (m.acceptClient client)]
      simp only [acceptLoop, Option.map_eq_some_iff, Prod.mk.injEq]
      have last : ∀ seen : List AcceptResult, seen ≠ [] →
          (AcceptResult.descriptor client :: seen).getLast? = seen.getLast? := by
        intro seen some
        rw [List.getLast?_cons_of_ne_nil some]
      constructor
      · intro ends seen m' loop
        rw [← last seen (acceptLoop_looks loop)]
        exact ends _ m' ⟨(seen, m'), loop, rfl, rfl⟩
      · rintro ends _ m' ⟨⟨seen, m₁⟩, loop, rfl, rfl⟩
        rw [last seen (acceptLoop_looks loop)]
        exact ends seen m₁ loop
    | wouldBlock =>
      apply iff_of_true
      · rintro seen m' ⟨⟩
        rfl
      · intro front back split
        cases front with
        | nil => simp at split
        | cons first front =>
          rw [List.cons_append, List.cons.injEq] at split
          exact split.1 ▸ List.mem_cons_self
    | error =>
      apply iff_of_false
      · intro ends
        have last := ends _ _ rfl
        cases last
      · intro late
        cases late [] rest rfl

end EpollServer

/-- ProcessAccept leaves nothing waiting and no descriptor unaccounted for, exactly when
    no accept() error comes before the EAGAIN. -/
theorem accept_drains_iff (m : EpollServer) (results : List AcceptResult) :
    m.Drains results ↔ EpollServer.ErrorsLate results := by
  rw [← EpollServer.acceptLoop_last_iff results m]
  constructor
  · intro drains seen m' ends
    exact (drains seen m' ends).1
  · intro last seen m' ends
    exact ⟨last seen m' ends, fun client member => EpollServer.acceptLoop_descriptors ends member⟩

/- Two clients are queued and the first one has aborted: the second one is left there. -/
theorem aborted_connection_stops_accept :
    EpollServer.acceptLoop [.error, .descriptor ⟨8, true⟩, .wouldBlock]
        (EpollServer.listening .default 4 3) =
      some ([.error], EpollServer.listening .default 4 3) ∧
    ¬(EpollServer.listening .default 4 3).Drains
      [.error, .descriptor ⟨8, true⟩, .wouldBlock] := by
  refine ⟨rfl, ?_⟩
  intro drains
  have last := (drains _ _ rfl).1
  cases last

end KanchoNet
