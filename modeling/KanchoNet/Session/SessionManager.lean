import KanchoNet.Session.Session
import Mathlib.Data.List.AList

/-!
The table of sessions and the callbacks into the application. A Session* that the
table handed out is named by its id, which is given to one session only.
-/
namespace KanchoNet

structure SessionManager (Handle : Type) where
  mMaxSessions : UInt32
  mNextSessionID : SessionID
  mSessions : AList fun _ : SessionID => Session Handle

namespace SessionManager
variable {Handle : Type}

def construct (maxSessions : UInt32) : SessionManager Handle := ⟨maxSessions, 1, ∅⟩

def getSessionCount (m : SessionManager Handle) : Nat := m.mSessions.keys.length

def generateSessionID (m : SessionManager Handle) : SessionID × SessionManager Handle :=
  (m.mNextSessionID, { m with mNextSessionID := m.mNextSessionID + 1 })

def addSession (m : SessionManager Handle) (socket : Handle) (config : SessionConfig) :
    Option SessionID × SessionManager Handle :=
  if m.mMaxSessions.toNat ≤ m.getSessionCount then (none, m)
  else
    let (id, m) := m.generateSessionID
    (some id, { m with mSessions := m.mSessions.insert id (Session.construct id socket config) })

def removeSession (m : SessionManager Handle) (id : SessionID) : Bool × SessionManager Handle :=
  if id ∈ m.mSessions then (true, { m with mSessions := m.mSessions.erase id })
  else (false, m)

def getSession (m : SessionManager Handle) (id : SessionID) : Option (Session Handle) :=
  m.mSessions.lookup id

def hasSession (m : SessionManager Handle) (id : SessionID) : Bool := decide (id ∈ m.mSessions)

def clear (m : SessionManager Handle) : SessionManager Handle := { m with mSessions := ∅ }

def liveSessions (m : SessionManager Handle) : List (Session Handle) :=
  m.mSessions.entries.map fun entry => entry.2

/-- A write through the Session* of a session in the table. -/
def store (m : SessionManager Handle) (id : SessionID) (session : Session Handle) :
    SessionManager Handle :=
  { m with mSessions := m.mSessions.insert id session }

theorem next_toNat {id : SessionID} (room : id.toNat + 1 < 2 ^ 64) :
    (id + 1).toNat = id.toNat + 1 := by
  rw [UInt64.toNat_add, UInt64.toNat_one]
  omega

theorem mem_of_getSession {m : SessionManager Handle} {id : SessionID} {session : Session Handle}
    (found : m.getSession id = some session) : id ∈ m.mSessions := by
  rw [← AList.lookup_isSome, show m.mSessions.lookup id = some session from found]
  rfl

theorem getSession_of_mem {m : SessionManager Handle} {id : SessionID} (member : id ∈ m.mSessions) :
    ∃ session, m.getSession id = some session :=
  Option.isSome_iff_exists.mp (AList.lookup_isSome.mpr member)

theorem not_mem_of_getSession {m : SessionManager Handle} {id : SessionID}
    (lost : m.getSession id = none) : id ∉ m.mSessions :=
  AList.lookup_eq_none.mp lost

theorem mem_liveSessions {m : SessionManager Handle} {session : Session Handle} :
    session ∈ m.liveSessions ↔ ∃ id, m.getSession id = some session := by
  unfold liveSessions
  rw [List.mem_map]
  constructor
  · rintro ⟨⟨id, session⟩, member, rfl⟩
    exact ⟨id, AList.mem_lookup_iff.mpr member⟩
  · rintro ⟨id, found⟩
    exact ⟨⟨id, session⟩, AList.mem_lookup_iff.mp found, rfl⟩

theorem liveSockets_nodup {m : SessionManager Handle}
    (distinct : ∀ id session other session', m.getSession id = some session →
      m.getSession other = some session' → session.mSocket = session'.mSocket → id = other) :
    (m.liveSessions.map Session.mSocket).Nodup := by
  rw [liveSessions, List.map_map]
  apply List.Nodup.map_on
  · rintro ⟨id, session⟩ member ⟨other, session'⟩ member' same
    have found : m.getSession id = some session := AList.mem_lookup_iff.mpr member
    have found' : m.getSession other = some session' := AList.mem_lookup_iff.mpr member'
    obtain rfl := distinct id session other session' found found' same
    cases found.symm.trans found'
    rfl
  · exact List.Nodup.of_map Sigma.fst m.mSessions.nodupKeys

@[simp] theorem getSession_store_self (m : SessionManager Handle) (id : SessionID)
    (session : Session Handle) : (m.store id session).getSession id = some session :=
  AList.lookup_insert _

theorem getSession_store_ne (m : SessionManager Handle) {id other : SessionID}
    (session : Session Handle) (different : other ≠ id) :
    (m.store id session).getSession other = m.getSession other :=
  AList.lookup_insert_ne different

theorem store_cases {m : SessionManager Handle} {id other : SessionID}
    {session session' : Session Handle}
    (found : (m.store id session).getSession other = some session') :
    other = id ∧ session' = session ∨ other ≠ id ∧ m.getSession other = some session' := by
  by_cases same : other = id
  · subst same
    exact Or.inl ⟨rfl,
      (Option.some.inj ((getSession_store_self m other session).symm.trans found)).symm⟩
  · exact Or.inr ⟨same, (getSession_store_ne m session same).symm.trans found⟩

theorem map_getSession_store {β : Type} (view : Session Handle → β) {m : SessionManager Handle}
    {id : SessionID} {session session' : Session Handle} (found : m.getSession id = some session)
    (same : view session' = view session) (other : SessionID) :
    ((m.store id session').getSession other).map view = (m.getSession other).map view := by
  by_cases here : other = id
  · subst here
    rw [getSession_store_self, found]
    exact congrArg some same
  · rw [getSession_store_ne m session' here]

theorem mem_store_iff {m : SessionManager Handle} {id other : SessionID}
    (session : Session Handle) (present : id ∈ m.mSessions) :
    other ∈ (m.store id session).mSessions ↔ other ∈ m.mSessions := by
  refine (AList.mem_insert _).trans ⟨?_, Or.inr⟩
  rintro (rfl | member)
  · exact present
  · exact member

theorem mem_removeSession {m : SessionManager Handle} {id other : SessionID} :
    other ∈ (m.removeSession id).2.mSessions ↔ other ≠ id ∧ other ∈ m.mSessions := by
  unfold removeSession
  split
  · exact AList.mem_erase
  · rename_i absent
    exact ⟨fun member => ⟨fun same => absent (same ▸ member), member⟩, And.right⟩

theorem getSession_removeSession_ne (m : SessionManager Handle) {id other : SessionID}
    (different : other ≠ id) : (m.removeSession id).2.getSession other = m.getSession other := by
  unfold removeSession
  split
  · exact AList.lookup_erase_ne different
  · rfl

@[simp] theorem mNextSessionID_removeSession (m : SessionManager Handle) (id : SessionID) :
    (m.removeSession id).2.mNextSessionID = m.mNextSessionID := by
  unfold removeSession
  split <;> rfl

theorem getSession_removeSession_self (m : SessionManager Handle) (id : SessionID) :
    (m.removeSession id).2.getSession id = none := by
  unfold removeSession
  split
  · exact AList.lookup_erase id m.mSessions
  · rename_i absent
    exact AList.lookup_eq_none.mpr absent

theorem getSessionCount_removeSession (m : SessionManager Handle) (id : SessionID) :
    (m.removeSession id).2.getSessionCount ≤ m.getSessionCount := by
  unfold removeSession getSessionCount
  split
  · rw [AList.keys_erase]
    exact List.length_erase_le
  · exact Nat.le_refl _

@[simp] theorem mMaxSessions_removeSession (m : SessionManager Handle) (id : SessionID) :
    (m.removeSession id).2.mMaxSessions = m.mMaxSessions := by
  unfold removeSession
  split <;> rfl

theorem keys_removeSession (m : SessionManager Handle) (id : SessionID) :
    (m.removeSession id).2.mSessions.keys = m.mSessions.keys.erase id := by
  unfold removeSession
  split
  · exact AList.keys_erase id m.mSessions
  · rename_i absent
    exact (List.erase_of_not_mem absent).symm

theorem keys_store (m : SessionManager Handle) (id : SessionID) (session : Session Handle) :
    (m.store id session).mSessions.keys = id :: m.mSessions.keys.erase id :=
  AList.keys_insert m.mSessions

theorem addSession_of_full {m : SessionManager Handle}
    (full : m.mMaxSessions.toNat ≤ m.getSessionCount) (socket : Handle) (config : SessionConfig) :
    m.addSession socket config = (none, m) :=
  if_pos full

theorem addSession_of_room {m : SessionManager Handle}
    (room : ¬m.mMaxSessions.toNat ≤ m.getSessionCount) (socket : Handle) (config : SessionConfig) :
    m.addSession socket config = (some m.mNextSessionID,
      { m with
        mNextSessionID := m.mNextSessionID + 1
        mSessions := m.mSessions.insert m.mNextSessionID
          (Session.construct m.mNextSessionID socket config) }) :=
  if_neg room

theorem table_of_addSession {m t : SessionManager Handle} {socket : Handle} {config : SessionConfig}
    {id : SessionID} (added : m.addSession socket config = (some id, t)) :
    t = { m with
      mNextSessionID := m.mNextSessionID + 1
      mSessions := m.mSessions.insert m.mNextSessionID
        (Session.construct m.mNextSessionID socket config) } := by
  by_cases full : m.mMaxSessions.toNat ≤ m.getSessionCount
  · cases (addSession_of_full full socket config).symm.trans added
  · cases (addSession_of_room full socket config).symm.trans added
    rfl

def seat (m : SessionManager Handle) (socket : Handle) : SessionManager Handle :=
  store { m with
    mNextSessionID := m.mNextSessionID + 1
    mSessions := m.mSessions.insert m.mNextSessionID
      (Session.construct m.mNextSessionID socket .default) }
    m.mNextSessionID (Session.accepted m.mNextSessionID socket .default)

@[simp] theorem getSession_seat_self (m : SessionManager Handle) (socket : Handle) :
    (m.seat socket).getSession m.mNextSessionID =
      some (Session.accepted m.mNextSessionID socket .default) :=
  getSession_store_self _ _ _

theorem getSession_seat_ne (m : SessionManager Handle) (socket : Handle) {id : SessionID}
    (different : id ≠ m.mNextSessionID) : (m.seat socket).getSession id = m.getSession id :=
  (getSession_store_ne _ _ different).trans (AList.lookup_insert_ne different)

theorem getSession_seat_iff {m : SessionManager Handle} {socket : Handle} {id : SessionID}
    {session : Session Handle} : (m.seat socket).getSession id = some session ↔
      (id = m.mNextSessionID ∧ session = Session.accepted id socket .default) ∨
      (id ≠ m.mNextSessionID ∧ m.getSession id = some session) := by
  by_cases same : id = m.mNextSessionID
  · subst same
    rw [getSession_seat_self]
    simp [eq_comm]
  · rw [getSession_seat_ne _ _ same]
    simp [same]

theorem mem_seat {m : SessionManager Handle} (socket : Handle) {id : SessionID} :
    id ∈ (m.seat socket).mSessions ↔ id = m.mNextSessionID ∨ id ∈ m.mSessions := by
  refine (AList.mem_insert _).trans ⟨?_, fun member => Or.inr ((AList.mem_insert _).mpr member)⟩
  rintro (same | member)
  · exact Or.inl same
  · exact (AList.mem_insert _).mp member

theorem keys_seat (m : SessionManager Handle) (socket : Handle) :
    (m.seat socket).mSessions.keys =
      m.mNextSessionID :: m.mSessions.keys.erase m.mNextSessionID := by
  rw [seat, keys_store, AList.keys_insert, List.erase_cons_head]

theorem addSession_cases (m : SessionManager Handle) (socket : Handle) (config : SessionConfig) :
    m.addSession socket config = (none, m) ∨
    ∃ t, m.addSession socket config = (some m.mNextSessionID, t) ∧
      t.mNextSessionID = m.mNextSessionID + 1 ∧
      ∀ id, id ∈ t.mSessions ↔ id = m.mNextSessionID ∨ id ∈ m.mSessions := by
  unfold addSession
  split
  · exact Or.inl rfl
  · exact Or.inr ⟨_, rfl, rfl, fun id => AList.mem_insert _⟩

end SessionManager

inductive Callback where
  | onAccept (session : SessionID)
  | onReceive (session : SessionID) (data : List UInt8)
  | onDisconnect (session : SessionID)
  deriving DecidableEq

structure Callbacks where
  mOnAccept : Bool
  mOnReceive : Bool
  mOnDisconnect : Bool
  calls : List Callback

namespace Callbacks

def onAccept (c : Callbacks) (session : SessionID) : Callbacks :=
  if c.mOnAccept then { c with calls := c.calls ++ [.onAccept session] } else c

def onReceive (c : Callbacks) (session : SessionID) (data : List UInt8) : Callbacks :=
  if c.mOnReceive then { c with calls := c.calls ++ [.onReceive session data] } else c

def onDisconnect (c : Callbacks) (session : SessionID) : Callbacks :=
  if c.mOnDisconnect then { c with calls := c.calls ++ [.onDisconnect session] } else c

theorem onAccept_set {c : Callbacks} (set : c.mOnAccept = true) (id : SessionID) :
    c.onAccept id = { c with calls := c.calls ++ [.onAccept id] } := if_pos set

theorem onReceive_set {c : Callbacks} (set : c.mOnReceive = true) (id : SessionID)
    (data : List UInt8) :
    c.onReceive id data = { c with calls := c.calls ++ [.onReceive id data] } := if_pos set

theorem onDisconnect_set {c : Callbacks} (set : c.mOnDisconnect = true) (id : SessionID) :
    c.onDisconnect id = { c with calls := c.calls ++ [.onDisconnect id] } := if_pos set

end Callbacks
end KanchoNet
