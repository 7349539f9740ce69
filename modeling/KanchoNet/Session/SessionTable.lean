import KanchoNet.Session.SessionManager
import KanchoNet.Lib.LabelledRuns

/-!
SessionManager over whole histories of calls. Ids come from a counter, so until it
wraps every new key is above all those handed out, and operator[] overwrites nothing.
-/
namespace KanchoNet.SessionManager
open LabelledRuns
variable {Handle : Type}

inductive Call (Handle : Type) where
  | addSession (socket : Handle) (config : SessionConfig)
  | removeSession (id : SessionID)
  | getSession (id : SessionID)
  | hasSession (id : SessionID)
  | clear

inductive Reply (Handle : Type) where
  | added (id : Option SessionID)
  | answer (result : Bool)
  | found (session : Option (Session Handle))
  | none

def Call.adds : Call Handle → Bool
  | .addSession _ _ => true
  | _ => false

def perform (m : SessionManager Handle) : Call Handle → Reply Handle × SessionManager Handle
  | .addSession socket config =>
    let (id, m) := m.addSession socket config
    (.added id, m)
  | .removeSession id =>
    let (removed, m) := m.removeSession id
    (.answer removed, m)
  | .getSession id => (.found (m.getSession id), m)
  | .hasSession id => (.answer (m.hasSession id), m)
  | .clear => (.none, m.clear)

/-- A table with the calls made on it and their replies, the latest first. -/
structure Recorded (Handle : Type) where
  table : SessionManager Handle
  history : List (Call Handle × Reply Handle)

def record (r : Recorded Handle) (call : Call Handle) : Option (Recorded Handle) :=
  let (reply, table) := r.table.perform call
  some ⟨table, (call, reply) :: r.history⟩

def issued (history : List (Call Handle × Reply Handle)) : List SessionID :=
  history.filterMap fun entry =>
    match entry.2 with
    | .added id => id
    | _ => none

/-- The session was created with this id, and since then neither RemoveSession of
    the id nor Clear was called. -/
def Alive (history : List (Call Handle × Reply Handle)) (id : SessionID)
    (session : Session Handle) : Prop :=
  ∃ since before socket config,
    history = since ++ (.addSession socket config, .added (some id)) :: before ∧
    session = Session.construct id socket config ∧
    ∀ entry ∈ since, entry.1 ≠ .removeSession id ∧ entry.1 ≠ .clear

theorem alive_cons_iff (call : Call Handle) (reply : Reply Handle)
    (history : List (Call Handle × Reply Handle)) (id : SessionID) (session : Session Handle) :
    Alive ((call, reply) :: history) id session ↔
      (∃ socket config, call = .addSession socket config ∧ reply = .added (some id) ∧
        session = Session.construct id socket config) ∨
      (call ≠ .removeSession id ∧ call ≠ .clear ∧ Alive history id session) := by
  constructor
  · rintro ⟨since, before, socket, config, split, created, kept⟩
    cases since with
    | nil =>
      simp only [List.nil_append, List.cons.injEq, Prod.mk.injEq] at split
      exact Or.inl ⟨socket, config, split.1.1, split.1.2, created⟩
    | cons entry since =>
      simp only [List.cons_append, List.cons.injEq] at split
      obtain ⟨rfl, rfl⟩ := split
      obtain ⟨first, later⟩ := List.forall_mem_cons.mp kept
      exact Or.inr ⟨first.1, first.2, since, before, socket, config, rfl, created, later⟩
  · rintro (⟨socket, config, rfl, rfl, created⟩ |
      ⟨stays, keeps, since, before, socket, config, rfl, created, kept⟩)
    · exact ⟨[], history, socket, config, rfl, created, by simp⟩
    · exact ⟨(call, reply) :: since, before, socket, config, rfl, created,
        List.forall_mem_cons.mpr ⟨⟨stays, keeps⟩, kept⟩⟩

theorem alive_issued {history : List (Call Handle × Reply Handle)} {id : SessionID}
    {session : Session Handle} (alive : Alive history id session) : id ∈ issued history := by
  obtain ⟨since, before, socket, config, rfl, _, _⟩ := alive
  simp [issued]

theorem alive_added_self {history : List (Call Handle × Reply Handle)} {fresh : SessionID}
    (unused : fresh ∉ issued history) {socket : Handle} {config : SessionConfig}
    {session : Session Handle} :
    Alive ((.addSession socket config, .added (some fresh)) :: history) fresh session ↔
      session = Session.construct fresh socket config := by
  rw [alive_cons_iff]
  constructor
  · rintro (⟨_, _, call, _, rfl⟩ | ⟨_, _, old⟩)
    · cases call
      rfl
    · exact absurd (alive_issued old) unused
  · intro created
    exact Or.inl ⟨socket, config, rfl, rfl, created⟩

theorem alive_added_ne {history : List (Call Handle × Reply Handle)} {id fresh : SessionID}
    (different : id ≠ fresh) {socket : Handle} {config : SessionConfig}
    {session : Session Handle} :
    Alive ((.addSession socket config, .added (some fresh)) :: history) id session ↔
      Alive history id session := by
  rw [alive_cons_iff]
  constructor
  · rintro (⟨_, _, _, created, _⟩ | ⟨_, _, old⟩)
    · cases created
      exact absurd rfl different
    · exact old
  · intro old
    exact Or.inr ⟨by simp, by simp, old⟩

/-- What the table promises after any history. -/
structure TableLaws (maxSessions : UInt32) (r : Recorded Handle) : Prop where
  bounded : r.table.getSessionCount ≤ maxSessions.toNat
  refused : ∀ socket config,
    ((r.table.addSession socket config).1 = none ↔
      r.table.getSessionCount = maxSessions.toNat) ∧
    ((r.table.addSession socket config).1 = none → (r.table.addSession socket config).2 = r.table)
  keyed : ∀ id session, r.table.getSession id = some session → session.mID = id ∧ id ≠ 0
  fresh : (issued r.history).Nodup
  found : ∀ id session, r.table.getSession id = some session ↔ Alive r.history id session
  has : ∀ id, r.table.hasSession id = true ↔ ∃ session, Alive r.history id session
  removed : ∀ id, ((r.table.removeSession id).1 = true ↔ ∃ session, Alive r.history id session) ∧
    (r.table.removeSession id).2.getSession id = none ∧
    ∀ other ≠ id, (r.table.removeSession id).2.getSession other = r.table.getSession other

structure Counted (maxSessions : UInt32) (calls : Nat) (r : Recorded Handle) : Prop where
  limit : r.table.mMaxSessions = maxSessions
  bounded : r.table.getSessionCount ≤ maxSessions.toNat
  next : 0 < r.table.mNextSessionID.toNat ∧ r.table.mNextSessionID.toNat ≤ calls + 1
  below : ∀ id ∈ issued r.history, 0 < id.toNat ∧ id.toNat < r.table.mNextSessionID.toNat
  fresh : (issued r.history).Nodup
  found : ∀ id session, r.table.getSession id = some session ↔ Alive r.history id session

theorem construct_counted (maxSessions : UInt32) :
    Counted maxSessions 0 (⟨construct maxSessions, []⟩ : Recorded Handle) := by
  constructor
  · rfl
  · exact Nat.zero_le _
  · exact ⟨Nat.one_pos, Nat.le_refl _⟩
  · simp [issued]
  · exact List.nodup_nil
  · intro id session
    constructor
    · intro found
      cases found
    · rintro ⟨since, before, socket, config, split, _⟩
      simp at split

/- A call that creates nothing and leaves the sessions it does not name. -/
theorem counted_of_kept {maxSessions : UInt32} {calls : Nat} {r : Recorded Handle}
    (counted : Counted maxSessions calls r) {call : Call Handle} {reply : Reply Handle}
    {table : SessionManager Handle} (limit : table.mMaxSessions = r.table.mMaxSessions)
    (fewer : table.getSessionCount ≤ r.table.getSessionCount)
    (same : table.mNextSessionID = r.table.mNextSessionID)
    (creates : ∀ id, reply ≠ .added (some id))
    (sessions : ∀ id session, table.getSession id = some session ↔
      call ≠ .removeSession id ∧ call ≠ .clear ∧ r.table.getSession id = some session) :
    Counted maxSessions calls ⟨table, (call, reply) :: r.history⟩ := by
  have unissued : issued ((call, reply) :: r.history) = issued r.history := by
    unfold issued
    rw [List.filterMap_cons_none]
    cases reply with
    | added id =>
      cases id with
      | none => rfl
      | some id => exact absurd rfl (creates id)
    | answer | found | none => rfl
  constructor
  · exact limit.trans counted.limit
  · exact Nat.le_trans fewer counted.bounded
  · rw [same]
    exact counted.next
  · rw [unissued, same]
    exact counted.below
  · rw [unissued]
    exact counted.fresh
  · intro id session
    rw [sessions, alive_cons_iff, counted.found]
    constructor
    · exact Or.inr
    · rintro (⟨_, _, _, added, _⟩ | kept)
      · exact absurd added (creates id)
      · exact kept

theorem addSession_counted {maxSessions : UInt32} {calls : Nat} {r : Recorded Handle}
    (counted : Counted maxSessions calls r) (few : calls < 2 ^ 64 - 2) (socket : Handle)
    (config : SessionConfig) {t : Recorded Handle}
    (next : record r (.addSession socket config) = some t) : Counted maxSessions (calls + 1) t := by
  simp only [record, perform, Option.some.injEq] at next
  subst next
  by_cases full : r.table.mMaxSessions.toNat ≤ r.table.getSessionCount
  · rw [addSession_of_full full]
    have kept : Counted maxSessions calls
        ⟨r.table, (.addSession socket config, .added none) :: r.history⟩ :=
      counted_of_kept counted rfl (Nat.le_refl _) rfl (by simp) (by simp)
    exact { kept with next := ⟨kept.next.1, Nat.le_succ_of_le kept.next.2⟩ }
  · rw [addSession_of_room full]
    have limit := counted.limit
    obtain ⟨positive, count⟩ := counted.next
    have advanced : (r.table.mNextSessionID + 1).toNat = r.table.mNextSessionID.toNat + 1 :=
      next_toNat (by omega)
    have unused : r.table.mNextSessionID ∉ issued r.history := fun old =>
      Nat.lt_irrefl _ (counted.below _ old).2
    have absent : r.table.mNextSessionID ∉ r.table.mSessions := by
      intro present
      obtain ⟨session, found⟩ := getSession_of_mem present
      exact unused (alive_issued ((counted.found _ session).mp found))
    have ids : issued ((Call.addSession socket config, .added (some r.table.mNextSessionID)) ::
        r.history) = r.table.mNextSessionID :: issued r.history :=
      List.filterMap_cons_some rfl
    constructor
    · exact limit
    · simp only [getSessionCount, AList.keys_insert, List.length_cons]
      rw [List.erase_of_not_mem absent]
      rw [getSessionCount, limit] at full
      omega
    · change 0 < (r.table.mNextSessionID + 1).toNat ∧ (r.table.mNextSessionID + 1).toNat ≤ _
      omega
    · rw [ids, advanced]
      intro id member
      rcases List.mem_cons.mp member with rfl | old
      · exact ⟨positive, Nat.lt_succ_self _⟩
      · have := counted.below id old
        omega
    · rw [ids]
      exact List.nodup_cons.mpr ⟨unused, counted.fresh⟩
    · intro id session
      change (r.table.mSessions.insert r.table.mNextSessionID _).lookup id = some session ↔ _
      by_cases same : id = r.table.mNextSessionID
      · subst same
        rw [AList.lookup_insert, alive_added_self unused, Option.some.injEq]
        exact eq_comm
      · rw [AList.lookup_insert_ne same, alive_added_ne same]
        exact counted.found id session

theorem record_counted (maxSessions : UInt32) (calls : Nat) (r : Recorded Handle)
    (call : Call Handle) (t : Recorded Handle) (counted : Counted maxSessions calls r)
    (few : call.adds = true → calls < 2 ^ 64 - 2) (next : record r call = some t) :
    Counted maxSessions (calls + if call.adds then 1 else 0) t := by
  cases call with
  | addSession socket config => exact addSession_counted counted (few rfl) socket config next
  | removeSession id =>
    have next : t = ⟨(r.table.removeSession id).2,
        (.removeSession id, .answer (r.table.removeSession id).1) :: r.history⟩ :=
      (Option.some.inj next).symm
    subst next
    apply counted_of_kept counted
    · exact mMaxSessions_removeSession r.table id
    · exact getSessionCount_removeSession r.table id
    · exact mNextSessionID_removeSession r.table id
    · simp
    · intro other session
      by_cases same : other = id
      · subst same
        simp [getSession_removeSession_self]
      · rw [getSession_removeSession_ne _ same]
        simp [Ne.symm same]
  | getSession id =>
    cases next
    exact counted_of_kept counted rfl (Nat.le_refl _) rfl (by simp) (by simp)
  | hasSession id =>
    cases next
    exact counted_of_kept counted rfl (Nat.le_refl _) rfl (by simp) (by simp)
  | clear =>
    cases next
    apply counted_of_kept counted
    · rfl
    · exact Nat.zero_le _
    · rfl
    · simp
    · intro id session
      simp [clear, getSession]

theorem counted_laws {maxSessions : UInt32} {calls : Nat} {r : Recorded Handle}
    (counted : Counted maxSessions calls r) : TableLaws maxSessions r := by
  have present : ∀ id, id ∈ r.table.mSessions ↔ ∃ session, Alive r.history id session := by
    intro id
    constructor
    · intro member
      obtain ⟨session, found⟩ := getSession_of_mem member
      exact ⟨session, (counted.found id session).mp found⟩
    · rintro ⟨session, alive⟩
      exact mem_of_getSession ((counted.found id session).mpr alive)
  constructor
  · exact counted.bounded
  · intro socket config
    have bounded := counted.bounded
    unfold addSession
    rw [counted.limit]
    split
    · rename_i full
      exact ⟨⟨fun _ => Nat.le_antisymm bounded full, fun _ => rfl⟩, fun _ => rfl⟩
    · rename_i room
      constructor
      · constructor
        · intro created
          cases created
        · intro full
          omega
      · intro created
        cases created
  · intro id session found
    obtain alive := (counted.found id session).mp found
    have positive := (counted.below id (alive_issued alive)).1
    obtain ⟨_, _, socket, config, _, rfl, _⟩ := alive
    refine ⟨rfl, ?_⟩
    rintro rfl
    exact Nat.lt_irrefl _ positive
  · exact counted.fresh
  · exact counted.found
  · intro id
    rw [hasSession, decide_eq_true_iff]
    exact present id
  · intro id
    refine ⟨?_, getSession_removeSession_self r.table id,
      fun other different => getSession_removeSession_ne r.table different⟩
    rw [← present id]
    unfold removeSession
    split <;> simp_all

/-- For any limit and any calls, of which fewer than 2^64 - 1 are AddSession, the
    table keeps its promises after every call. -/
theorem table_laws (maxSessions : UInt32) (calls : List (Call Handle))
    (few : calls.countP Call.adds < 2 ^ 64 - 1) :
    ∀ r ∈ states record ⟨construct maxSessions, []⟩ calls, TableLaws maxSessions r := by
  intro r reached
  obtain ⟨n, counted⟩ := invariant_of_budget (record_counted maxSessions) calls 0 _
    (construct_counted maxSessions) (by omega) r reached
  exact counted_laws counted

/-- A table for one session: the second client is refused, and the third gets a new id. -/
theorem one_seat_table_laws :
    let calls : List (Call Fd) := [.addSession 7 .default, .addSession 8 .default,
      .removeSession 1, .addSession 9 .default]
    calls.countP Call.adds < 2 ^ 64 - 1 ∧
      ∀ r ∈ states record ⟨construct 1, []⟩ calls, TableLaws 1 r := by
  have few : List.countP Call.adds [Call.addSession (7 : Fd) .default, .addSession 8 .default,
      .removeSession 1, .addSession 9 .default] < 2 ^ 64 - 1 := by decide
  exact ⟨few, table_laws 1 _ few⟩

end KanchoNet.SessionManager
