import KanchoNet.Examples.ChatProtocol
import KanchoNet.Lib.Tables
import KanchoNet.Network.EpollWorkers

/-!
The chat server of the examples, one callback at a time. A packet is read where recv() left
it, in a buffer that holds older bytes after it; a string that does not end in the buffer is
read past it. The users of the server are objects on the heap, which two tables point to.
-/
namespace KanchoNet
open CStrings LabelledRuns ChatProtocol Tables

abbrev UserPtr := Nat

structure ChatUser where
  username : List UInt8
  session : SessionID

/-- users are the ChatUser objects there are, userData what GetUserData gives for a session
    that is connected. accepted logs the sessions there were, sent the calls of Send. -/
structure ChatServer where
  mUsers : AList fun _ : SessionID => UserPtr
  users : AList fun _ : UserPtr => ChatUser
  nextUser : UserPtr
  userData : AList fun _ : SessionID => Option UserPtr
  accepted : List SessionID
  sent : List (SessionID × List UInt8)

/-- A string is read past the buffer, a pointer to a deleted ChatUser is followed, or
    strcpy_s has no room. -/
inductive ChatFault where
  | pastBuffer
  | deletedUser
  | noRoom
  deriving DecidableEq

/-- A callback of the network model, with the byte of padding that a response is sent with.
    The buffer is that of recv(), which has given size bytes. -/
inductive ChatEvent where
  | accept (id : SessionID)
  | receive (id : SessionID) (buffer : ReceiveBuffer) (size : Nat) (padding : UInt8)
  | disconnect (id : SessionID)

def stringAt (offset : Nat) (memory : List UInt8) : Except ChatFault (List UInt8) :=
  match readString (memory.drop offset) with
  | none => .error .pastBuffer
  | some text => .ok text

def copyInto (n : Nat) (source : List UInt8) : Except ChatFault (CharArray n) :=
  match strcpy_s (.zeroed n) source with
  | none => .error .noRoom
  | some copied => .ok copied

namespace ChatServer

def construct : ChatServer := ⟨∅, ∅, 0, ∅, [], []⟩

def send (id : SessionID) (packet : List UInt8) (s : ChatServer) : ChatServer :=
  { s with sent := s.sent ++ [(id, packet)] }

def deref (user : UserPtr) (s : ChatServer) : Except ChatFault ChatUser :=
  match s.users.lookup user with
  | none => .error .deletedUser
  | some u => .ok u

def getUserData (id : SessionID) (s : ChatServer) : Option UserPtr := (s.userData.lookup id).join

def onAccept (id : SessionID) (s : ChatServer) : ChatServer :=
  { s with
    users := s.users.insert s.nextUser ⟨[], id⟩
    nextUser := s.nextUser + 1
    userData := s.userData.insert id (some s.nextUser) }

/-- Welcome to KanchoNet Chat Server! -/
def greeting : List UInt8 :=
  "Welcome to KanchoNet Chat Server!".toList.map fun c => UInt8.ofNat c.toNat

def handleLogin (id : SessionID) (memory : List UInt8) (padding : UInt8) (s : ChatServer) :
    Except ChatFault ChatServer :=
  match s.getUserData id with
  | none => .ok s
  | some user =>
    (stringAt 4 memory).bind fun username =>
    (s.deref user).bind fun u =>
    (copyInto 64 greeting).bind fun message =>
      let s := { s with
        users := s.users.insert user { u with username }
        mUsers := s.mUsers.insert id user }
      let response : LoginResponsePacket :=
        ⟨⟨sizeofLoginResponse, PacketType.loginResponse.value⟩, true, message⟩
      .ok (s.send id (response.bytes padding))

def broadcastMessage (packet : List UInt8) :
    List UserPtr → ChatServer → Except ChatFault ChatServer
  | [], s => .ok s
  | user :: rest, s => (s.deref user).bind fun u =>
    broadcastMessage packet rest (s.send u.session packet)

def handleMessage (id : SessionID) (memory : List UInt8) (s : ChatServer) :
    Except ChatFault ChatServer :=
  match s.getUserData id with
  | none => .ok s
  | some user =>
    (s.deref user).bind fun u =>
      if u.username = [] then .ok s
      else
        -- the message is printed before it is copied
        (stringAt 4 memory).bind fun text =>
        (copyInto 32 u.username).bind fun username =>
        (copyInto 256 text).bind fun message =>
          let broadcast : MessageBroadcastPacket :=
            ⟨⟨sizeofMessageBroadcast, PacketType.messageBroadcast.value⟩, username, message⟩
          s.broadcastMessage broadcast.bytes (s.mUsers.entries.map fun entry => entry.2)

def handleLogout (id : SessionID) (s : ChatServer) : Except ChatFault ChatServer :=
  match s.getUserData id with
  | none => .ok s
  | some user =>
    (s.deref user).bind fun u =>
      .ok (if u.username = [] then s else { s with mUsers := s.mUsers.erase id })

/-- Only the type in the header is looked at, and only the first packet. -/
def onReceive (id : SessionID) (memory : List UInt8) (size : Nat) (padding : UInt8)
    (s : ChatServer) : Except ChatFault ChatServer :=
  if size < 4 then .ok s
  else
    match PacketHeader.read memory with
    | none => .error .pastBuffer
    | some header =>
      match PacketType.ofValue header.type with
      | some .login => s.handleLogin id memory padding
      | some .message => s.handleMessage id memory
      | some .logout => s.handleLogout id
      | _ => .ok s

def onDisconnect (id : SessionID) (s : ChatServer) : Except ChatFault ChatServer :=
  match s.getUserData id with
  | none => .ok s
  | some user =>
    (s.deref user).bind fun u =>
      let s := if u.username = [] then s else { s with mUsers := s.mUsers.erase id }
      .ok { s with users := s.users.erase user, userData := s.userData.insert id none }

/-- A callback, with the session that the model makes before OnAccept and destroys after
    OnDisconnect. -/
def handle (s : ChatServer) : ChatEvent → Except ChatFault ChatServer
  | .accept id => .ok (onAccept id { s with
      userData := s.userData.insert id none, accepted := id :: s.accepted })
  | .receive id buffer size padding => s.onReceive id buffer.bytes size padding
  | .disconnect id => (s.onDisconnect id).map fun s => { s with userData := s.userData.erase id }

def allows (s : ChatServer) : ChatEvent → Bool
  | .accept id => !s.accepted.contains id
  | .receive id _ _ _ | .disconnect id => (s.userData.lookup id).isSome

def step : Except ChatFault ChatServer → ChatEvent → Option (Except ChatFault ChatServer)
  | .ok s, e => if s.allows e then some (s.handle e) else none
  | .error _, _ => none

/-- Every session has its own ChatUser, and every ChatUser its session. An entry of mUsers
    is for the ChatUser of its session, and one for a session that is gone dangles. -/
structure Intact (s : ChatServer) : Prop where
  known : ∀ id ∈ s.userData, id ∈ s.accepted
  owns : ∀ id data, s.userData.lookup id = some data →
    ∃ user u, data = some user ∧ s.users.lookup user = some u ∧ u.session = id
  owned : ∀ user u, s.users.lookup user = some u → s.userData.lookup u.session = some (some user)
  issued : ∀ user ∈ s.users, user < s.nextUser
  plain : ∀ user u, s.users.lookup user = some u → 0 ∉ u.username
  listed : ∀ id user, s.mUsers.lookup id = some user →
    user < s.nextUser ∧ id ∈ s.accepted ∧
    (id ∈ s.userData → s.userData.lookup id = some (some user)) ∧
    (id ∉ s.userData → user ∉ s.users)

theorem construct_intact : Intact construct where
  known _ member := absurd member (AList.notMem_empty _)
  owns _ _ found := by cases found
  owned _ _ found := by cases found
  issued _ member := absurd member (AList.notMem_empty _)
  plain _ _ found := by cases found
  listed _ _ found := by cases found

def nameOf (s : ChatServer) (id : SessionID) : Option (List UInt8) :=
  ((s.getUserData id).bind fun user => s.users.lookup user).map ChatUser.username

theorem user_of_connected {s : ChatServer} (intact : Intact s) {id : SessionID}
    (connected : id ∈ s.userData) :
    ∃ user u, s.userData.lookup id = some (some user) ∧ s.users.lookup user = some u ∧
      u.session = id := by
  obtain ⟨data, found⟩ := Option.isSome_iff_exists.mp (AList.lookup_isSome.mpr connected)
  obtain ⟨user, u, rfl, there, own⟩ := intact.owns id data found
  exact ⟨user, u, found, there, own⟩

theorem getUserData_eq {s : ChatServer} {id : SessionID} {user : UserPtr}
    (found : s.userData.lookup id = some (some user)) : s.getUserData id = some user :=
  congrArg Option.join found

theorem nameOf_eq {s : ChatServer} {id : SessionID} {user : UserPtr} {u : ChatUser}
    (found : s.userData.lookup id = some (some user)) (there : s.users.lookup user = some u) :
    s.nameOf id = some u.username := by
  rw [nameOf, getUserData_eq found, Option.bind_some, there]
  rfl

theorem deref_eq {s : ChatServer} {user : UserPtr} {u : ChatUser}
    (there : s.users.lookup user = some u) : s.deref user = .ok u := by
  rw [deref, there]

theorem intact_of_same {s t : ChatServer} (intact : Intact s) (mUsers : t.mUsers = s.mUsers)
    (users : t.users = s.users) (nextUser : t.nextUser = s.nextUser)
    (userData : t.userData = s.userData) (accepted : t.accepted = s.accepted) : Intact t := by
  cases s
  cases t
  cases mUsers
  cases users
  cases nextUser
  cases userData
  cases accepted
  exact ⟨intact.known, intact.owns, intact.owned, intact.issued, intact.plain, intact.listed⟩

theorem accepted_intact {s : ChatServer} (intact : Intact s) {id : SessionID}
    (fresh : id ∉ s.accepted) : Intact (onAccept id { s with
      userData := s.userData.insert id none, accepted := id :: s.accepted }) := by
  have unknown : id ∉ s.userData := fun member => fresh (intact.known id member)
  have unissued : ∀ user ∈ s.users, user ≠ s.nextUser := by
    rintro user member rfl
    exact Nat.lt_irrefl _ (intact.issued _ member)
  have data : ∀ other data, ((s.userData.insert id none).insert id (some s.nextUser)).lookup other =
      some data → other = id ∧ data = some s.nextUser ∨ s.userData.lookup other = some data := by
    intro other data found
    rcases lookup_insert_cases found with ⟨same, rfl⟩ | ⟨different, found⟩
    · exact Or.inl ⟨same, rfl⟩
    · rw [AList.lookup_insert_ne different] at found
      exact Or.inr found
  have kept : ∀ other, other ≠ id →
      ((s.userData.insert id none).insert id (some s.nextUser)).lookup other =
        s.userData.lookup other := by
    intro other different
    rw [AList.lookup_insert_ne different, AList.lookup_insert_ne different]
  constructor
  · intro other member
    obtain ⟨found, there⟩ := Option.isSome_iff_exists.mp (AList.lookup_isSome.mpr member)
    rcases data other found there with ⟨rfl, _⟩ | before
    · exact List.mem_cons_self
    · exact List.mem_cons_of_mem _ (intact.known other (mem_of_lookup before))
  · intro other found there
    rcases data other found there with ⟨rfl, rfl⟩ | before
    · exact ⟨s.nextUser, _, rfl, AList.lookup_insert _, rfl⟩
    · obtain ⟨user, u, rfl, found, own⟩ := intact.owns other found before
      refine ⟨user, u, rfl, ?_, own⟩
      exact (AList.lookup_insert_ne (unissued user (mem_of_lookup found))).trans found
  · intro user u there
    rcases lookup_insert_cases there with ⟨rfl, rfl⟩ | ⟨_, before⟩
    · exact AList.lookup_insert _
    · have owned := intact.owned user u before
      refine (kept u.session ?_).trans owned
      rintro rfl
      exact unknown (mem_of_lookup owned)
  · intro user member
    rcases (AList.mem_insert _).mp member with rfl | old
    · exact Nat.lt_succ_self _
    · exact Nat.lt_succ_of_lt (intact.issued user old)
  · intro user u there
    rcases lookup_insert_cases there with ⟨_, rfl⟩ | ⟨_, before⟩
    · exact List.not_mem_nil
    · exact intact.plain user u before
  · intro other user there
    obtain ⟨issued, was, live, gone⟩ := intact.listed other user there
    have different : other ≠ id := by
      rintro rfl
      exact fresh was
    refine ⟨Nat.lt_succ_of_lt issued, List.mem_cons_of_mem _ was, ?_, ?_⟩
    · intro member
      rw [← AList.lookup_isSome, onAccept, kept other different, AList.lookup_isSome] at member
      exact (kept other different).trans (live member)
    · intro absent member
      rcases (AList.mem_insert _).mp member with same | old
      · exact absurd same (Nat.ne_of_lt issued)
      · refine gone ?_ old
        intro connected
        apply absent
        rw [← AList.lookup_isSome, onAccept, kept other different, AList.lookup_isSome]
        exact connected

theorem named_intact {s : ChatServer} (intact : Intact s) {id : SessionID} {user : UserPtr}
    {u : ChatUser} (found : s.userData.lookup id = some (some user))
    (there : s.users.lookup user = some u) (own : u.session = id) {username : List UInt8}
    (plain : 0 ∉ username) : Intact { s with
      users := s.users.insert user { u with username }
      mUsers := s.mUsers.insert id user } := by
  have inside : ∀ other, other ∈ s.users.insert user { u with username } ↔ other ∈ s.users := by
    intro other
    rw [AList.mem_insert, or_iff_right_iff_imp]
    rintro rfl
    exact mem_of_lookup there
  constructor
  · exact intact.known
  · intro other data found'
    obtain ⟨user', u', rfl, there', own'⟩ := intact.owns other data found'
    by_cases same : user' = user
    · subst same
      cases there.symm.trans there'
      exact ⟨user', _, rfl, AList.lookup_insert _, own'⟩
    · exact ⟨user', u', rfl, (AList.lookup_insert_ne same).trans there', own'⟩
  · intro user' u' there'
    rcases lookup_insert_cases there' with ⟨rfl, rfl⟩ | ⟨_, before⟩
    · exact own ▸ found
    · exact intact.owned user' u' before
  · intro user' member
    exact intact.issued user' ((inside user').mp member)
  · intro user' u' there'
    rcases lookup_insert_cases there' with ⟨_, rfl⟩ | ⟨_, before⟩
    · exact plain
    · exact intact.plain user' u' before
  · intro other user' there'
    rcases lookup_insert_cases there' with ⟨rfl, rfl⟩ | ⟨_, before⟩
    · exact ⟨intact.issued user' (mem_of_lookup there), intact.known other (mem_of_lookup found),
        fun _ => found, fun absent => absurd (mem_of_lookup found) absent⟩
    · obtain ⟨issued, was, live, gone⟩ := intact.listed other user' before
      exact ⟨issued, was, live, fun absent member => gone absent ((inside user').mp member)⟩

theorem unlisted_intact {s : ChatServer} (intact : Intact s) (id : SessionID) :
    Intact { s with mUsers := s.mUsers.erase id } where
  known := intact.known
  owns := intact.owns
  owned := intact.owned
  issued := intact.issued
  plain := intact.plain
  listed := fun other user there => intact.listed other user (lookup_of_erase there)

theorem deleted_intact {s : ChatServer} (intact : Intact s) {id : SessionID} {user : UserPtr}
    (found : s.userData.lookup id = some (some user)) :
    Intact { s with
      users := s.users.erase user
      userData := (s.userData.insert id none).erase id } := by
  have kept : ∀ other, other ≠ id →
      ((s.userData.insert id none).erase id).lookup other = s.userData.lookup other := by
    intro other different
    rw [AList.lookup_erase_ne different, AList.lookup_insert_ne different]
  have before : ∀ other data, ((s.userData.insert id none).erase id).lookup other = some data →
      other ≠ id ∧ s.userData.lookup other = some data := by
    intro other data there
    have different := ne_of_lookup_erase there
    exact ⟨different, (kept other different).symm.trans there⟩
  constructor
  · intro other member
    obtain ⟨data, there⟩ := Option.isSome_iff_exists.mp (AList.lookup_isSome.mpr member)
    exact intact.known other (mem_of_lookup (before other data there).2)
  · intro other data there
    obtain ⟨different, was⟩ := before other data there
    obtain ⟨user', u, rfl, there', own⟩ := intact.owns other data was
    refine ⟨user', u, rfl, (AList.lookup_erase_ne ?_).trans there', own⟩
    rintro rfl
    -- one ChatUser is not that of two sessions
    have owned := intact.owned user' u there'
    obtain ⟨user'', u'', same, there'', own''⟩ := intact.owns id (some user') found
    cases same
    cases there'.symm.trans there''
    exact different (own.symm.trans own'')
  · intro user' u there
    have owned := intact.owned user' u (lookup_of_erase there)
    refine (kept u.session ?_).trans owned
    intro same
    rw [same, found] at owned
    cases owned
    exact ne_of_lookup_erase there rfl
  · intro user' member
    exact intact.issued user' (AList.mem_erase.mp member).2
  · intro user' u there
    exact intact.plain user' u (lookup_of_erase there)
  · intro other user' there
    obtain ⟨issued, was, live, gone⟩ := intact.listed other user' there
    refine ⟨issued, was, ?_, ?_⟩
    · intro member
      obtain ⟨data, there⟩ := Option.isSome_iff_exists.mp (AList.lookup_isSome.mpr member)
      obtain ⟨different, was⟩ := before other data there
      exact (kept other different).trans (live (mem_of_lookup was))
    · intro absent member
      obtain ⟨different, old⟩ := AList.mem_erase.mp member
      by_cases same : other = id
      · have mine := live (same ▸ mem_of_lookup found)
        rw [same, found] at mine
        cases mine
        exact different rfl
      · refine gone ?_ old
        intro connected
        apply absent
        rw [← AList.lookup_isSome, kept other same, AList.lookup_isSome]
        exact connected

def told (packet : List UInt8) (members : List SessionID) (s : ChatServer) : ChatServer :=
  { s with sent := s.sent ++ members.map fun id => (id, packet) }

/- The entries that are left lead to the sessions they are for. -/
theorem broadcastMessage_told (packet : List UInt8)
    {entries : List (Sigma fun _ : SessionID => UserPtr)}
    {s : ChatServer} (live : ∀ entry ∈ entries, ∃ u, s.users.lookup entry.2 = some u ∧
      u.session = entry.1) :
    s.broadcastMessage packet (entries.map fun entry => entry.2) =
      .ok (s.told packet (entries.map fun entry => entry.1)) := by
  induction entries generalizing s with
  | nil => simp [broadcastMessage, told]
  | cons entry entries ih =>
    obtain ⟨⟨u, there, own⟩, later⟩ := List.forall_mem_cons.mp live
    rw [List.map_cons, broadcastMessage, deref_eq there]
    refine (ih (s := s.send u.session packet) later).trans ?_
    simp [told, send, own]

theorem broadcastMessage_deleted (packet : List UInt8) {pointers : List UserPtr} {s : ChatServer}
    (gone : ∃ user ∈ pointers, user ∉ s.users) :
    s.broadcastMessage packet pointers = .error .deletedUser := by
  induction pointers generalizing s with
  | nil =>
    obtain ⟨user, member, _⟩ := gone
    cases member
  | cons first pointers ih =>
    rw [broadcastMessage, deref]
    cases there : s.users.lookup first with
    | none => rfl
    | some u =>
      apply ih
      obtain ⟨user, member, absent⟩ := gone
      rcases List.mem_cons.mp member with rfl | later
      · exact absurd (mem_of_lookup there) absent
      · exact ⟨user, later, absent⟩

theorem stringAt_ok {offset : Nat} {memory text : List UInt8}
    (read : readString (memory.drop offset) = some text) : stringAt offset memory = .ok text := by
  rw [stringAt, read]

theorem stringAt_error {offset : Nat} {memory : List UInt8}
    (read : readString (memory.drop offset) = none) :
    stringAt offset memory = .error .pastBuffer := by
  rw [stringAt, read]

theorem copyInto_ok {n : Nat} {source : List UInt8} (fits : source.length < n) :
    ∃ copied, copyInto n source = .ok copied ∧ (0 ∉ source → copied.text = some source) := by
  obtain ⟨copied, copy⟩ := Option.isSome_iff_exists.mp
    ((strcpy_s_isSome_iff (.zeroed n)).mpr fits)
  refine ⟨copied, ?_, fun plain => text_strcpy_s plain copy⟩
  rw [copyInto, copy]

theorem copyInto_error {n : Nat} {source : List UInt8} (long : ¬source.length < n) :
    copyInto n source = .error .noRoom := by
  have none : strcpy_s (CharArray.zeroed n) source = none := by
    rw [← Option.not_isSome_iff_eq_none, strcpy_s_isSome_iff]
    exact long
  rw [copyInto, none]

theorem greeting_plain : 0 ∉ greeting := by decide

theorem greeting_fits : greeting.length < 64 := by decide

section Handlers
variable {s : ChatServer} {id : SessionID} {user : UserPtr} {u : ChatUser}
  (found : s.userData.lookup id = some (some user)) (there : s.users.lookup user = some u)
include found there

theorem handleLogin_ok {memory username : List UInt8} (padding : UInt8)
    (read : readString (memory.drop 4) = some username) :
    ∃ packet, decode packet = some (.loginResponse true greeting) ∧
      s.handleLogin id memory padding = .ok (send id packet { s with
        users := s.users.insert user { u with username }
        mUsers := s.mUsers.insert id user }) := by
  obtain ⟨message, copied, text⟩ := copyInto_ok greeting_fits
  refine ⟨_, decode_loginResponse (p := ⟨⟨sizeofLoginResponse, PacketType.loginResponse.value⟩,
    true, message⟩) rfl (text greeting_plain) padding, ?_⟩
  rw [handleLogin, getUserData_eq found]
  dsimp only
  rw [stringAt_ok read, deref_eq there, copied]
  rfl

omit there in
theorem handleLogin_error {memory : List UInt8} (padding : UInt8)
    (read : readString (memory.drop 4) = none) :
    s.handleLogin id memory padding = .error .pastBuffer := by
  rw [handleLogin, getUserData_eq found]
  dsimp only
  rw [stringAt_error read]
  rfl

theorem handleMessage_unnamed (memory : List UInt8) (unnamed : u.username = []) :
    s.handleMessage id memory = .ok s := by
  rw [handleMessage, getUserData_eq found]
  dsimp only
  rw [deref_eq there]
  exact if_pos unnamed

theorem handleMessage_ok (intact : Intact s) {memory text : List UInt8} (named : u.username ≠ [])
    (short : u.username.length < 32) (read : readString (memory.drop 4) = some text)
    (fits : text.length < 256) (connected : ∀ other ∈ s.mUsers, other ∈ s.userData) :
    ∃ packet, decode packet = some (.message u.username text) ∧
      s.handleMessage id memory =
        .ok (s.told packet (s.mUsers.entries.map fun entry => entry.1)) := by
  obtain ⟨username, copied, name⟩ := copyInto_ok short
  obtain ⟨message, copied', text'⟩ := copyInto_ok fits
  refine ⟨_, decode_messageBroadcast (p := ⟨⟨sizeofMessageBroadcast,
    PacketType.messageBroadcast.value⟩, username, message⟩) rfl (name (intact.plain user u there))
    (text' (readString_eq read).1), ?_⟩
  rw [handleMessage, getUserData_eq found]
  dsimp only
  rw [deref_eq there]
  dsimp only [Except.bind]
  rw [if_neg named, stringAt_ok read, copied]
  dsimp only
  rw [copied']
  apply broadcastMessage_told
  intro entry member
  have listed : s.mUsers.lookup entry.1 = some entry.2 := AList.mem_lookup_iff.mpr member
  have present := connected entry.1 (mem_of_lookup listed)
  have points := (intact.listed entry.1 entry.2 listed).2.2.1 present
  obtain ⟨user', u', same, there', own⟩ := intact.owns entry.1 (some entry.2) points
  cases same
  exact ⟨u', there', own⟩

theorem handleMessage_error (intact : Intact s) {memory : List UInt8} (named : u.username ≠ [])
    (careless : ¬(u.username.length < 32 ∧
      (∃ text, readString (memory.drop 4) = some text ∧ text.length < 256) ∧
      ∀ other ∈ s.mUsers, other ∈ s.userData)) :
    ∃ fault, s.handleMessage id memory = .error fault := by
  rw [handleMessage, getUserData_eq found]
  dsimp only
  rw [deref_eq there]
  dsimp only [Except.bind]
  rw [if_neg named]
  cases read : readString (memory.drop 4) with
  | none =>
    rw [stringAt_error read]
    exact ⟨_, rfl⟩
  | some text =>
    rw [stringAt_ok read]
    dsimp only
    by_cases short : u.username.length < 32
    · obtain ⟨username, copied, _⟩ := copyInto_ok short
      by_cases fits : text.length < 256
      · obtain ⟨message, copied', _⟩ := copyInto_ok fits
        rw [copied]
        dsimp only
        rw [copied']
        refine ⟨_, broadcastMessage_deleted _ ?_⟩
        -- somebody is listed who is gone
        by_contra live
        refine careless ⟨short, ⟨text, read, fits⟩, ?_⟩
        intro other member
        by_contra absent
        obtain ⟨pointer, listed⟩ := Option.isSome_iff_exists.mp (AList.lookup_isSome.mpr member)
        refine live ⟨pointer, ?_, (intact.listed other pointer listed).2.2.2 absent⟩
        exact List.mem_map_of_mem (AList.mem_lookup_iff.mp listed)
      · rw [copied]
        dsimp only
        rw [copyInto_error fits]
        exact ⟨_, rfl⟩
    · rw [copyInto_error short]
      exact ⟨_, rfl⟩

theorem handleLogout_eq : s.handleLogout id =
    .ok (if u.username = [] then s else { s with mUsers := s.mUsers.erase id }) := by
  rw [handleLogout, getUserData_eq found]
  dsimp only
  rw [deref_eq there]
  rfl

theorem disconnect_eq : s.handle (.disconnect id) = .ok { s with
    mUsers := if u.username = [] then s.mUsers else s.mUsers.erase id
    users := s.users.erase user
    userData := (s.userData.insert id none).erase id } := by
  rw [handle, onDisconnect, getUserData_eq found]
  dsimp only
  rw [deref_eq there]
  dsimp only [Except.bind, Except.map]
  split <;> rfl

end Handlers

/-- What a client may send: a name or message that ends in the buffer. Under a name that is
    not empty a message is shorter than 256 bytes, the name shorter than 32, and everybody
    who is listed is still connected. -/
def Careful (s : ChatServer) : ChatEvent → Prop
  | .receive id buffer size _ => 4 ≤ size →
    match (PacketHeader.read buffer.bytes).bind fun header => PacketType.ofValue header.type with
    | some .login => 0 ∈ buffer.bytes.drop 4
    | some .message => ∀ name, s.nameOf id = some name → name ≠ [] →
      name.length < 32 ∧
      (∃ text, readString (buffer.bytes.drop 4) = some text ∧ text.length < 256) ∧
      ∀ other ∈ s.mUsers, other ∈ s.userData
    | _ => True
  | _ => True

inductive Handled (s : ChatServer) : ChatEvent → ChatServer → Prop where
  | accepted (id : SessionID) (fresh : id ∉ s.accepted) :
      Handled s (.accept id) (onAccept id { s with
        userData := s.userData.insert id none, accepted := id :: s.accepted })
  | ignored (id : SessionID) (buffer : ReceiveBuffer) (size : Nat) (padding : UInt8) :
      Handled s (.receive id buffer size padding) s
  | loggedIn (id : SessionID) (buffer : ReceiveBuffer) (size : Nat) (padding : UInt8)
      (user : UserPtr) (u : ChatUser) (username packet : List UInt8)
      (found : s.userData.lookup id = some (some user)) (there : s.users.lookup user = some u)
      (read : readString (buffer.bytes.drop 4) = some username) :
      Handled s (.receive id buffer size padding) (send id packet { s with
        users := s.users.insert user { u with username }
        mUsers := s.mUsers.insert id user })
  | said (id : SessionID) (buffer : ReceiveBuffer) (size : Nat) (padding : UInt8)
      (packet : List UInt8) (members : List SessionID) :
      Handled s (.receive id buffer size padding) (s.told packet members)
  | loggedOut (id : SessionID) (buffer : ReceiveBuffer) (size : Nat) (padding : UInt8) :
      Handled s (.receive id buffer size padding) { s with mUsers := s.mUsers.erase id }
  | left (id : SessionID) (user : UserPtr) (u : ChatUser)
      (found : s.userData.lookup id = some (some user)) (there : s.users.lookup user = some u) :
      Handled s (.disconnect id) { s with
        mUsers := if u.username = [] then s.mUsers else s.mUsers.erase id
        users := s.users.erase user
        userData := (s.userData.insert id none).erase id }

theorem buffer_header (buffer : ReceiveBuffer) :
    ∃ header, PacketHeader.read buffer.bytes = some header := by
  apply PacketHeader.read_isSome
  rw [buffer.full]
  decide

/- A callback succeeds when the client is careful, and faults when it is not. -/
theorem handle_cases {s : ChatServer} (intact : Intact s) {e : ChatEvent}
    (allowed : s.allows e = true) :
    (Careful s e ∧ ∃ t, s.handle e = .ok t ∧ Handled s e t) ∨
    (¬Careful s e ∧ ∃ fault, s.handle e = .error fault) := by
  cases e with
  | accept id =>
    refine Or.inl ⟨trivial, _, rfl, .accepted id ?_⟩
    simpa [allows] using allowed
  | disconnect id =>
    obtain ⟨user, u, found, there, _⟩ := user_of_connected intact (AList.lookup_isSome.mp allowed)
    exact Or.inl ⟨trivial, _, disconnect_eq found there, .left id user u found there⟩
  | receive id buffer size padding =>
    obtain ⟨user, u, found, there, _⟩ := user_of_connected intact (AList.lookup_isSome.mp allowed)
    obtain ⟨header, read⟩ := buffer_header buffer
    simp only [handle, onReceive, Careful, read, Option.bind_some]
    by_cases short : size < 4
    · rw [if_pos short]
      exact Or.inl ⟨fun long => absurd short (Nat.not_lt.mpr long), s, rfl, .ignored _ _ _ _⟩
    · rw [if_neg short]
      have long : 4 ≤ size := Nat.not_lt.mp short
      cases kind : PacketType.ofValue header.type with
      | none => exact Or.inl ⟨fun _ => trivial, s, rfl, .ignored _ _ _ _⟩
      | some type =>
        clear kind
        cases type with
        | loginResponse | messageBroadcast =>
          exact Or.inl ⟨fun _ => trivial, s, rfl, .ignored _ _ _ _⟩
        | logout =>
          refine Or.inl ⟨fun _ => trivial, _, handleLogout_eq found there, ?_⟩
          split
          · exact .ignored _ _ _ _
          · exact .loggedOut _ _ _ _
        | login =>
          cases string : readString (buffer.bytes.drop 4) with
          | none =>
            refine Or.inr ⟨fun careful => ?_, _, handleLogin_error found padding string⟩
            have some := readString_isSome_iff.mpr (careful long)
            rw [string] at some
            cases some
          | some username =>
            obtain ⟨packet, _, done⟩ := handleLogin_ok found there padding string
            refine Or.inl ⟨fun _ => ?_, _, done, .loggedIn _ _ _ _ user u _ _ found there string⟩
            rw [← readString_isSome_iff, string]
            rfl
        | message =>
          by_cases unnamed : u.username = []
          · refine Or.inl ⟨fun _ name named some => ?_, s,
              handleMessage_unnamed found there _ unnamed, .ignored _ _ _ _⟩
            rw [nameOf_eq found there] at named
            cases named
            exact absurd unnamed some
          · by_cases careful : u.username.length < 32 ∧
              (∃ text, readString (buffer.bytes.drop 4) = some text ∧ text.length < 256) ∧
              ∀ other ∈ s.mUsers, other ∈ s.userData
            · obtain ⟨fits, ⟨text, string, fits'⟩, connected⟩ := careful
              obtain ⟨packet, _, done⟩ :=
                handleMessage_ok found there intact unnamed fits string fits' connected
              refine Or.inl ⟨fun _ name named _ => ?_, _, done, .said _ _ _ _ _ _⟩
              rw [nameOf_eq found there] at named
              cases named
              exact ⟨fits, ⟨text, string, fits'⟩, connected⟩
            · refine Or.inr ⟨fun all => careful (all long _ (nameOf_eq found there) unnamed), ?_⟩
              exact handleMessage_error found there intact unnamed careful

theorem handled_intact {s t : ChatServer} {e : ChatEvent} (intact : Intact s)
    (handled : Handled s e t) : Intact t := by
  cases handled with
  | accepted id fresh => exact accepted_intact intact fresh
  | ignored => exact intact
  | loggedIn id buffer size padding user u username packet found there read =>
    have own : u.session = id := by
      obtain ⟨user', u', same, there', own⟩ := intact.owns id _ found
      cases same
      cases there.symm.trans there'
      exact own
    exact intact_of_same (named_intact intact found there own (readString_eq read).1)
      rfl rfl rfl rfl rfl
  | said => exact intact_of_same intact rfl rfl rfl rfl rfl
  | loggedOut id => exact unlisted_intact intact id
  | left id user u found there =>
    split
    · exact deleted_intact intact found
    · exact deleted_intact (unlisted_intact intact id) found

def Running (r : Except ChatFault ChatServer) : Prop := ∃ s, r = .ok s ∧ Intact s

def CarefulNext (r : Except ChatFault ChatServer) (e : ChatEvent) : Prop :=
  ∀ s, r = .ok s → Careful s e

theorem step_cases {s : ChatServer} (intact : Intact s) {e : ChatEvent}
    {r : Except ChatFault ChatServer} (next : step (.ok s) e = some r) :
    (Careful s e ∧ ∃ t, r = .ok t ∧ Handled s e t) ∨
    (¬Careful s e ∧ ∃ fault, r = .error fault) := by
  simp only [step, Option.ite_none_right_eq_some, Option.some.injEq] at next
  obtain ⟨allowed, rfl⟩ := next
  exact handle_cases intact allowed

theorem step_running (r : Except ChatFault ChatServer) (e : ChatEvent)
    (r' : Except ChatFault ChatServer) (running : Running r) (careful : CarefulNext r e)
    (next : step r e = some r') : Running r' := by
  obtain ⟨s, rfl, intact⟩ := running
  rcases step_cases intact next with ⟨_, t, rfl, handled⟩ | ⟨careless, _⟩
  · exact ⟨t, rfl, handled_intact intact handled⟩
  · exact absurd (careful s rfl) careless

theorem careless_faults (r : Except ChatFault ChatServer) (e : ChatEvent)
    (r' : Except ChatFault ChatServer) (running : Running r) (careless : ¬CarefulNext r e)
    (next : step r e = some r') : ¬∃ s, r' = .ok s := by
  rintro ⟨t, rfl⟩
  obtain ⟨s, rfl, intact⟩ := running
  rcases step_cases intact next with ⟨careful, _⟩ | ⟨_, fault, failed⟩
  · refine careless fun s' same => ?_
    cases same
    exact careful
  · cases failed

/-- In every run of callbacks that a network model may make, from a new server, no callback
    reads past its buffer, follows the pointer of a deleted user or fails in strcpy_s exactly
    as long as all that is received is careful. -/
theorem survives_iff (es : List ChatEvent) :
    (∀ r ∈ states step (.ok construct) es, ∃ s, r = .ok s) ↔
      ∀ x ∈ steps step (.ok construct) es, CarefulNext x.1 x.2 :=
  holds_along_iff step_running (fun _ running => running.imp fun _ there => there.1)
    careless_faults es _ ⟨construct, rfl, construct_intact⟩

/-- Everybody who is listed is connected, so no entry of mUsers dangles. -/
def ListedConnected (s : ChatServer) : Prop := ∀ id ∈ s.mUsers, id ∈ s.userData

def LeavesNamed (r : Except ChatFault ChatServer) : ChatEvent → Prop
  | .disconnect id => ∀ s, r = .ok s → id ∈ s.mUsers → s.nameOf id ≠ some []
  | _ => True

theorem handled_connected {s t : ChatServer} {e : ChatEvent} (connected : ListedConnected s)
    (handled : Handled s e t) : ListedConnected t ↔ LeavesNamed (.ok s) e := by
  cases handled with
  | accepted id fresh =>
    refine iff_of_true (fun other listed => ?_) trivial
    refine (AList.mem_insert _).mpr (Or.inr ((AList.mem_insert _).mpr (Or.inr ?_)))
    exact connected other listed
  | ignored | said => exact iff_of_true connected trivial
  | loggedIn id buffer size padding user u username packet found there =>
    refine iff_of_true (fun other listed => ?_) trivial
    rcases (AList.mem_insert _).mp listed with rfl | before
    · exact mem_of_lookup found
    · exact connected other before
  | loggedOut id =>
    exact iff_of_true (fun other listed => connected other (AList.mem_erase.mp listed).2) trivial
  | left id user u found there =>
    have name := nameOf_eq found there
    have stays : ∀ other, other ∈ (s.userData.insert id none).erase id ↔
        other ≠ id ∧ other ∈ s.userData := by
      intro other
      rw [AList.mem_erase, AList.mem_insert]
      constructor
      · rintro ⟨different, same | there⟩
        · exact absurd same different
        · exact ⟨different, there⟩
      · exact fun ⟨different, there⟩ => ⟨different, Or.inr there⟩
    constructor
    · intro after s' same listed
      cases same
      rw [name]
      intro unnamed
      have empty := Option.some.inj unnamed
      have there : id ∈ (s.userData.insert id none).erase id := by
        apply after
        rw [if_pos empty]
        exact listed
      exact ((stays id).mp there).1 rfl
    · intro named other listed
      rw [stays]
      split at listed
      · rename_i empty
        refine ⟨?_, connected other listed⟩
        rintro rfl
        exact named s rfl listed (name.trans (congrArg some empty))
      · obtain ⟨different, before⟩ := AList.mem_erase.mp listed
        exact ⟨different, connected other before⟩

def Listing (r : Except ChatFault ChatServer) : Prop :=
  ∀ s, r = .ok s → Intact s ∧ ListedConnected s

theorem step_listing (r : Except ChatFault ChatServer) (e : ChatEvent)
    (r' : Except ChatFault ChatServer) (listing : Listing r) (named : LeavesNamed r e)
    (next : step r e = some r') : Listing r' := by
  rintro t rfl
  cases r with
  | error fault => cases next
  | ok s =>
    obtain ⟨intact, connected⟩ := listing s rfl
    rcases step_cases intact next with ⟨_, t', same, handled⟩ | ⟨_, fault, failed⟩
    · cases same
      exact ⟨handled_intact intact handled, (handled_connected connected handled).mpr named⟩
    · cases failed

theorem unnamed_dangles (r : Except ChatFault ChatServer) (e : ChatEvent)
    (r' : Except ChatFault ChatServer) (listing : Listing r) (unnamed : ¬LeavesNamed r e)
    (next : step r e = some r') : ¬∀ t, r' = .ok t → ListedConnected t := by
  intro after
  cases r with
  | error fault => cases next
  | ok s =>
    obtain ⟨intact, connected⟩ := listing s rfl
    rcases step_cases intact next with ⟨_, t, rfl, handled⟩ | ⟨careless, _⟩
    · exact unnamed ((handled_connected connected handled).mp (after t rfl))
    · -- OnDisconnect does not fault
      cases e with
      | disconnect id => exact careless trivial
      | accept | receive => exact unnamed trivial

/-- Everybody who is listed stays connected exactly as long as no client that is listed
    leaves with an empty name: such a login puts the client into the table, and OnDisconnect
    takes it for one that never logged in. -/
theorem listed_connected_iff (es : List ChatEvent) :
    (∀ r ∈ states step (.ok construct) es, ∀ s, r = .ok s → ListedConnected s) ↔
      ∀ x ∈ steps step (.ok construct) es, LeavesNamed x.1 x.2 := by
  refine holds_along_iff step_listing (fun _ listing s same => (listing s same).2)
    unnamed_dangles es _ ?_
  rintro s ⟨⟩
  exact ⟨construct_intact, fun id listed => absurd listed (AList.notMem_empty _)⟩

end ChatServer
end KanchoNet
