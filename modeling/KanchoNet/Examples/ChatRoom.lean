import KanchoNet.Examples.ChatServer

/-!
What the chat server is for: a room that people enter and leave, in which they take a name,
talk and listen. A packet that a client has built as ChatProtocol says does in the server
what it means in the room, whatever came with it in the same recv().
-/
namespace KanchoNet
open CStrings LabelledRuns ChatProtocol Tables

/-- Who is in the room and under which name, empty at first; who listens; and what each has
    been told. -/
structure ChatRoom where
  names : SessionID → Option (List UInt8)
  listening : SessionID → Bool
  heard : SessionID → List Heard

inductive RoomEvent where
  | enter (id : SessionID)
  | login (id : SessionID) (name : List UInt8)
  | say (id : SessionID) (text : List UInt8)
  | logout (id : SessionID)
  | leave (id : SessionID)

namespace ChatRoom

def empty : ChatRoom := ⟨fun _ => none, fun _ => false, fun _ => []⟩

/-- Everybody who listens hears what is said under a name. -/
def next (r : ChatRoom) : RoomEvent → ChatRoom
  | .enter id => { r with names := Function.update r.names id (some []) }
  | .login id name =>
    { names := Function.update r.names id (some name)
      listening := Function.update r.listening id true
      heard := Function.update r.heard id
        (r.heard id ++ [.loginResponse true ChatServer.greeting]) }
  | .say id text =>
    match r.names id with
    | none | some [] => r
    | some name =>
      let heard other := r.heard other ++ if r.listening other then [.message name text] else []
      { r with heard }
  | .logout id => { r with listening := Function.update r.listening id false }
  | .leave id => { r with
      names := Function.update r.names id none
      listening := Function.update r.listening id false }

end ChatRoom

/-- What a client sends: a string ends in its field, and a name is not empty. The server does
    not look at the size in the header. -/
inductive ClientPacket where
  | login (size : UInt16) (username : CharArray 32) (name : List UInt8)
      (ends : username.text = some name) (named : name ≠ [])
  | message (size : UInt16) (field : CharArray 256) (text : List UInt8)
      (ends : field.text = some text)
  | logout (size : UInt16)

namespace ClientPacket

def bytes : ClientPacket → List UInt8
  | .login size username _ _ _ => LoginPacket.bytes ⟨⟨size, PacketType.login.value⟩, username⟩
  | .message size field _ _ => MessagePacket.bytes ⟨⟨size, PacketType.message.value⟩, field⟩
  | .logout size => LogoutPacket.bytes ⟨⟨size, PacketType.logout.value⟩⟩

def type : ClientPacket → PacketType
  | .login _ _ _ _ _ => .login
  | .message _ _ _ _ => .message
  | .logout _ => .logout

def meaning (id : SessionID) : ClientPacket → RoomEvent
  | .login _ _ name _ _ => .login id name
  | .message _ _ text _ => .say id text
  | .logout _ => .logout id

def sizeof : ClientPacket → Nat
  | .login _ _ _ _ _ => 36
  | .message _ _ _ _ => 260
  | .logout _ => 4

theorem bytes_length (p : ClientPacket) : p.bytes.length = p.sizeof := by
  cases p with
  | login size username =>
    rw [bytes, LoginPacket.bytes, List.length_append, PacketHeader.bytes_length, username.full]
    rfl
  | message size field =>
    rw [bytes, MessagePacket.bytes, List.length_append, PacketHeader.bytes_length, field.full]
    rfl
  | logout size => rfl

theorem bytes_long (p : ClientPacket) : 4 ≤ p.bytes.length := by
  rw [bytes_length]
  cases p <;> exact Nat.le_of_ble_eq_true rfl

theorem read_type (p : ClientPacket) (rest : List UInt8) :
    ∃ header, PacketHeader.read (p.bytes ++ rest) = some header ∧
      PacketType.ofValue header.type = some p.type := by
  cases p with
  | login size username =>
    refine ⟨⟨size, PacketType.login.value⟩, ?_, ofValue_value .login⟩
    rw [bytes, LoginPacket.bytes, List.append_assoc, PacketHeader.read_bytes]
  | message size field =>
    refine ⟨⟨size, PacketType.message.value⟩, ?_, ofValue_value .message⟩
    rw [bytes, MessagePacket.bytes, List.append_assoc, PacketHeader.read_bytes]
  | logout size =>
    refine ⟨⟨size, PacketType.logout.value⟩, ?_, ofValue_value .logout⟩
    rw [bytes, LogoutPacket.bytes, PacketHeader.read_bytes]

end ClientPacket

/-- A client connects, leaves, or sends a packet, which is the first thing that one recv()
    gives; after it there may be more of what was sent, and what was in the buffer. -/
inductive ClientEvent where
  | connect (id : SessionID)
  | packet (id : SessionID) (p : ClientPacket) (rest : List UInt8)
      (full : (p.bytes ++ rest).length = DEFAULT_BUFFER_SIZE.toNat) (size : Nat)
      (whole : p.bytes.length ≤ size) (padding : UInt8)
  | leave (id : SessionID)

namespace ClientEvent

def callback : ClientEvent → ChatEvent
  | .connect id => .accept id
  | .packet id p rest full size _ padding => .receive id ⟨p.bytes ++ rest, full⟩ size padding
  | .leave id => .disconnect id

def meaning : ClientEvent → RoomEvent
  | .connect id => .enter id
  | .packet id p _ _ _ _ _ => p.meaning id
  | .leave id => .leave id

end ClientEvent

namespace ChatServer

def sentTo (s : ChatServer) (id : SessionID) : List (List UInt8) :=
  s.sent.filterMap fun call => if call.1 = id then some call.2 else none

theorem sentTo_send (s : ChatServer) (id other : SessionID) (packet : List UInt8) :
    (s.send id packet).sentTo other = s.sentTo other ++ if id = other then [packet] else [] := by
  unfold sentTo send
  rw [List.filterMap_append]
  by_cases same : id = other
  · simp [same]
  · simp [same]

theorem addressed_once (packet : List UInt8) {members : List SessionID} (once : members.Nodup)
    (id : SessionID) : ((members.map fun member => (member, packet)).filterMap fun call =>
      if call.1 = id then some call.2 else none) = if id ∈ members then [packet] else [] := by
  induction members with
  | nil => rfl
  | cons member members ih =>
    obtain ⟨new, later⟩ := List.nodup_cons.mp once
    rw [List.map_cons, List.filterMap_cons, ih later]
    by_cases same : member = id
    · subst same
      simp [new]
    · simp [same, Ne.symm same]

theorem sentTo_told (s : ChatServer) (packet : List UInt8) (id : SessionID) :
    (s.told packet (s.mUsers.entries.map fun entry => entry.1)).sentTo id =
      s.sentTo id ++ if id ∈ s.mUsers then [packet] else [] := by
  unfold sentTo told
  rw [List.filterMap_append]
  refine congrArg _ ((addressed_once packet s.mUsers.nodupKeys id).trans ?_)
  exact if_congr Iff.rfl rfl rfl

theorem nameOf_same {s t : ChatServer} (intact : Intact s) {id : SessionID}
    (data : t.userData.lookup id = s.userData.lookup id)
    (users : ∀ user u, s.users.lookup user = some u → u.session = id →
      t.users.lookup user = some u) : t.nameOf id = s.nameOf id := by
  cases found : s.userData.lookup id with
  | none => simp only [nameOf, getUserData, data, found, Option.join_none, Option.bind_none]
  | some points =>
    obtain ⟨user, u, rfl, there, own⟩ := intact.owns id points found
    rw [nameOf_eq found there, nameOf_eq (data.trans found) (users user u there own)]

theorem nameOf_accepted {s : ChatServer} (intact : Intact s) {id : SessionID} (other : SessionID) :
    (onAccept id { s with
      userData := s.userData.insert id none, accepted := id :: s.accepted }).nameOf other =
      Function.update s.nameOf id (some []) other := by
  by_cases same : other = id
  · subst same
    rw [Function.update_self]
    exact nameOf_eq (u := ⟨[], other⟩) (AList.lookup_insert _) (AList.lookup_insert s.users)
  · rw [Function.update_of_ne same]
    apply nameOf_same intact
    · exact (AList.lookup_insert_ne same).trans (AList.lookup_insert_ne same)
    · intro user u there _
      refine (AList.lookup_insert_ne ?_).trans there
      rintro rfl
      exact Nat.lt_irrefl _ (intact.issued _ (mem_of_lookup there))

section Named
variable {s : ChatServer} (intact : Intact s) {id : SessionID} {user : UserPtr} {u : ChatUser}
  (found : s.userData.lookup id = some (some user)) (there : s.users.lookup user = some u)
include intact found there

theorem other_user {other : SessionID} (different : other ≠ id) {user' : UserPtr} {u' : ChatUser}
    (there' : s.users.lookup user' = some u') (own : u'.session = other) : user' ≠ user := by
  rintro rfl
  have owned := intact.owned user' u' there'
  obtain ⟨user'', u'', same, there'', own''⟩ := intact.owns id (some user') found
  cases same
  cases there'.symm.trans there''
  exact different (own.symm.trans own'')

theorem nameOf_named (username : List UInt8) (other : SessionID) :
    ({ s with
      users := s.users.insert user { u with username }
      mUsers := s.mUsers.insert id user } : ChatServer).nameOf other =
      Function.update s.nameOf id (some username) other := by
  by_cases same : other = id
  · subst same
    rw [Function.update_self]
    exact nameOf_eq (u := { u with username }) found (AList.lookup_insert s.users)
  · rw [Function.update_of_ne same]
    refine nameOf_same intact rfl fun user' u' there' own => ?_
    exact (AList.lookup_insert_ne (other_user intact found there same there' own)).trans there'

theorem nameOf_deleted (mUsers : AList fun _ : SessionID => UserPtr) (other : SessionID) :
    ({ s with
      mUsers
      users := s.users.erase user
      userData := (s.userData.insert id none).erase id } : ChatServer).nameOf other =
      Function.update s.nameOf id none other := by
  by_cases same : other = id
  · subst same
    rw [Function.update_self]
    simp only [nameOf, getUserData, AList.lookup_erase, Option.join_none, Option.bind_none,
      Option.map_none]
  · rw [Function.update_of_ne same]
    apply nameOf_same intact
    · rw [AList.lookup_erase_ne same, AList.lookup_insert_ne same]
    · intro user' u' there' own
      exact (AList.lookup_erase_ne (other_user intact found there same there' own)).trans there'

end Named

/-- The server is where the room is: the same names, the same listeners, and each session
    was sent packets that say what its client heard. -/
structure Serves (r : ChatRoom) (s : ChatServer) : Prop where
  intact : Intact s
  connected : ListedConnected s
  names : ∀ id, r.names id = s.nameOf id
  short : ∀ id name, r.names id = some name → name.length < 32
  listening : ∀ id, r.listening id = true ↔ id ∈ s.mUsers
  named : ∀ id ∈ s.mUsers, r.names id ≠ some []
  heard : ∀ id, (s.sentTo id).map decode = (r.heard id).map some

theorem construct_serves : Serves .empty construct where
  intact := construct_intact
  connected _ listed := absurd listed (AList.notMem_empty _)
  names _ := rfl
  short _ _ named := by cases named
  listening _ := by
    rw [← AList.lookup_isSome]
    rfl
  named _ listed := absurd listed (AList.notMem_empty _)
  heard _ := rfl

section Room
variable {r : ChatRoom} {s : ChatServer} (serves : Serves r s) {id : SessionID}
include serves

theorem enter_serves (fresh : id ∉ s.accepted) : Serves (r.next (.enter id)) (onAccept id { s with
    userData := s.userData.insert id none, accepted := id :: s.accepted }) := by
  have unlisted : ∀ other ∈ s.mUsers, other ≠ id := by
    rintro other listed rfl
    exact fresh (serves.intact.known other (serves.connected other listed))
  constructor
  · exact accepted_intact serves.intact fresh
  · intro other listed
    refine (AList.mem_insert _).mpr (Or.inr ((AList.mem_insert _).mpr (Or.inr ?_)))
    exact serves.connected other listed
  · intro other
    rw [nameOf_accepted serves.intact, ← funext serves.names]
    rfl
  · intro other name named
    change Function.update r.names id (some []) other = some name at named
    by_cases same : other = id
    · rw [same, Function.update_self] at named
      cases named
      exact Nat.zero_lt_succ _
    · rw [Function.update_of_ne same] at named
      exact serves.short other name named
  · exact serves.listening
  · intro other listed
    change Function.update r.names id (some []) other ≠ some []
    rw [Function.update_of_ne (unlisted other listed)]
    exact serves.named other listed
  · exact serves.heard

theorem login_serves {user : UserPtr} {u : ChatUser} {name packet : List UInt8}
    (found : s.userData.lookup id = some (some user)) (there : s.users.lookup user = some u)
    (own : u.session = id) (plain : 0 ∉ name) (named : name ≠ []) (short : name.length < 32)
    (answer : decode packet = some (.loginResponse true greeting)) :
    Serves (r.next (.login id name)) (send id packet { s with
      users := s.users.insert user { u with username := name }
      mUsers := s.mUsers.insert id user }) := by
  constructor
  · exact intact_of_same (named_intact serves.intact found there own plain) rfl rfl rfl rfl rfl
  · intro other listed
    rcases (AList.mem_insert _).mp listed with rfl | before
    · exact mem_of_lookup found
    · exact serves.connected other before
  · intro other
    refine Eq.trans ?_ (nameOf_named serves.intact found there name other).symm
    rw [← funext serves.names]
    rfl
  · intro other name' named'
    change Function.update r.names id (some name) other = some name' at named'
    by_cases same : other = id
    · rw [same, Function.update_self] at named'
      cases named'
      exact short
    · rw [Function.update_of_ne same] at named'
      exact serves.short other name' named'
  · intro other
    change Function.update r.listening id true other = true ↔ other ∈ s.mUsers.insert id user
    rw [AList.mem_insert]
    by_cases same : other = id
    · simp [same]
    · rw [Function.update_of_ne same, serves.listening other]
      simp [same]
  · intro other listed
    change Function.update r.names id (some name) other ≠ some []
    by_cases same : other = id
    · rw [same, Function.update_self]
      exact fun empty => named (Option.some.inj empty)
    · rw [Function.update_of_ne same]
      exact serves.named other (((AList.mem_insert _).mp listed).resolve_left same)
  · intro other
    have before : (s.sentTo other).map decode = (r.heard other).map some := serves.heard other
    rw [sentTo_send]
    change ((s.sentTo other) ++ _).map decode = (Function.update r.heard id _ other).map some
    by_cases same : other = id
    · subst same
      simp [before, answer]
    · rw [if_neg (Ne.symm same), List.append_nil, Function.update_of_ne same, before]

theorem unnamed_serves {text : List UInt8} (unnamed : s.nameOf id = some []) :
    Serves (r.next (.say id text)) s := by
  have same : r.next (.say id text) = r := by
    simp only [ChatRoom.next, serves.names id, unnamed]
  rw [same]
  exact serves

theorem say_serves {name text packet : List UInt8} (own : s.nameOf id = some name)
    (named : name ≠ []) (broadcast : decode packet = some (.message name text)) :
    Serves (r.next (.say id text)) (s.told packet (s.mUsers.entries.map fun entry => entry.1)) := by
  let heard other := r.heard other ++ if r.listening other then [.message name text] else []
  have next : r.next (.say id text) = { r with heard } := by
    simp only [ChatRoom.next, serves.names id, own]
    rfl
  rw [next]
  constructor
  · exact intact_of_same serves.intact rfl rfl rfl rfl rfl
  · exact serves.connected
  · exact serves.names
  · exact serves.short
  · exact serves.listening
  · exact serves.named
  · intro other
    rw [sentTo_told, List.map_append, serves.heard other]
    by_cases listed : other ∈ s.mUsers
    · simp [heard, listed, (serves.listening other).mpr listed, broadcast]
    · have deaf : ¬r.listening other = true := mt (serves.listening other).mp listed
      simp [heard, listed, deaf]

theorem unlisted_serves : Serves (r.next (.logout id)) { s with mUsers := s.mUsers.erase id } := by
  constructor
  · exact unlisted_intact serves.intact id
  · exact fun other listed => serves.connected other (AList.mem_erase.mp listed).2
  · exact serves.names
  · exact serves.short
  · intro other
    change Function.update r.listening id false other = true ↔ other ∈ s.mUsers.erase id
    rw [AList.mem_erase]
    by_cases same : other = id
    · simp [same]
    · rw [Function.update_of_ne same, serves.listening other]
      simp [same]
  · exact fun other listed => serves.named other (AList.mem_erase.mp listed).2
  · exact serves.heard

/- Who never logged in is not listed. -/
theorem silent_serves (unlisted : id ∉ s.mUsers) : Serves (r.next (.logout id)) s := by
  have deaf : r.listening id = false :=
    Bool.eq_false_of_not_eq_true (mt (serves.listening id).mp unlisted)
  have same : r.next (.logout id) = r := by
    rw [ChatRoom.next, ← deaf, Function.update_eq_self]
  rw [same]
  exact serves

theorem leave_serves {user : UserPtr} {u : ChatUser}
    (found : s.userData.lookup id = some (some user)) (there : s.users.lookup user = some u)
    {mUsers : AList fun _ : SessionID => UserPtr}
    (listed : ∀ other, other ∈ mUsers ↔ other ≠ id ∧ other ∈ s.mUsers)
    (intact : Intact { s with
      mUsers, users := s.users.erase user, userData := (s.userData.insert id none).erase id }) :
    Serves (r.next (.leave id)) { s with
      mUsers, users := s.users.erase user, userData := (s.userData.insert id none).erase id } := by
  constructor
  · exact intact
  · intro other member
    obtain ⟨different, before⟩ := (listed other).mp member
    refine AList.mem_erase.mpr ⟨different, (AList.mem_insert _).mpr (Or.inr ?_)⟩
    exact serves.connected other before
  · intro other
    refine Eq.trans ?_ (nameOf_deleted serves.intact found there mUsers other).symm
    rw [← funext serves.names]
    rfl
  · intro other name named
    change Function.update r.names id none other = some name at named
    by_cases same : other = id
    · rw [same, Function.update_self] at named
      cases named
    · rw [Function.update_of_ne same] at named
      exact serves.short other name named
  · intro other
    change Function.update r.listening id false other = true ↔ other ∈ mUsers
    rw [listed]
    by_cases same : other = id
    · simp [same]
    · rw [Function.update_of_ne same, serves.listening other]
      simp [same]
  · intro other member
    obtain ⟨different, before⟩ := (listed other).mp member
    change Function.update r.names id none other ≠ some []
    rw [Function.update_of_ne different]
    exact serves.named other before
  · exact serves.heard

end Room

theorem field_read (header : PacketHeader) {n : Nat} {field : CharArray n} {text : List UInt8}
    (ends : field.text = some text) (rest : List UInt8) :
    readString ((header.bytes ++ field.bytes ++ rest).drop 4) = some text := by
  rw [List.append_assoc]
  exact readString_append ends rest

theorem packet_serves {r : ChatRoom} {s : ChatServer} (serves : Serves r s) {id : SessionID}
    (member : id ∈ s.userData) (p : ClientPacket) (rest : List UInt8) (padding : UInt8) {size : Nat}
    (whole : p.bytes.length ≤ size) :
    ∃ t, s.onReceive id (p.bytes ++ rest) size padding = .ok t ∧
      Serves (r.next (p.meaning id)) t := by
  obtain ⟨user, u, found, there, own⟩ := user_of_connected serves.intact member
  have name := nameOf_eq found there
  obtain ⟨header, read, type⟩ := p.read_type rest
  have long : ¬size < 4 := Nat.not_lt.mpr (p.bytes_long.trans whole)
  rw [onReceive, if_neg long, read]
  dsimp only
  rw [type]
  cases p with
  | login size username text ends named =>
    obtain ⟨packet, answer, done⟩ := handleLogin_ok found there padding
      (field_read ⟨size, PacketType.login.value⟩ ends rest)
    exact ⟨_, done, login_serves serves found there own (readString_eq ends).1 named
      (CharArray.text_short ends) answer⟩
  | message size field text ends =>
    by_cases unnamed : u.username = []
    · exact ⟨s, handleMessage_unnamed found there _ unnamed,
        unnamed_serves serves (name.trans (congrArg some unnamed))⟩
    · have short := serves.short id u.username ((serves.names id).trans name)
      obtain ⟨packet, broadcast, done⟩ := handleMessage_ok found there serves.intact unnamed short
        (field_read ⟨size, PacketType.message.value⟩ ends rest)
        (CharArray.text_short ends) serves.connected
      exact ⟨_, done, say_serves serves name unnamed broadcast⟩
  | logout size =>
    refine ⟨_, handleLogout_eq found there, ?_⟩
    split
    · rename_i unnamed
      refine silent_serves serves fun listed => ?_
      exact serves.named id listed ((serves.names id).trans (name.trans (congrArg some unnamed)))
    · exact unlisted_serves serves

theorem disconnect_serves {r : ChatRoom} {s : ChatServer} (serves : Serves r s) {id : SessionID}
    (member : id ∈ s.userData) :
    ∃ t, s.handle (.disconnect id) = .ok t ∧ Serves (r.next (.leave id)) t := by
  obtain ⟨user, u, found, there, own⟩ := user_of_connected serves.intact member
  have name := nameOf_eq found there
  refine ⟨_, disconnect_eq found there, leave_serves serves found there ?_ ?_⟩
  · intro other
    split
    · rename_i unnamed
      refine ⟨fun listed => ⟨?_, listed⟩, fun both => both.2⟩
      rintro rfl
      exact serves.named other listed
        ((serves.names other).trans (name.trans (congrArg some unnamed)))
    · rw [AList.mem_erase]
  · split
    · exact deleted_intact serves.intact found
    · exact deleted_intact (unlisted_intact serves.intact id) found

theorem handle_serves {r : ChatRoom} {s : ChatServer} (serves : Serves r s) {e : ClientEvent}
    (allowed : s.allows e.callback = true) :
    ∃ t, s.handle e.callback = .ok t ∧ Serves (r.next e.meaning) t := by
  cases e with
  | connect id =>
    have fresh : id ∉ s.accepted := by simpa [ClientEvent.callback, allows] using allowed
    exact ⟨_, rfl, enter_serves serves fresh⟩
  | packet id p rest full size whole padding =>
    exact packet_serves serves (AList.lookup_isSome.mp allowed) p rest padding whole
  | leave id => exact disconnect_serves serves (AList.lookup_isSome.mp allowed)

theorem run_serves (es : List ClientEvent) {r : ChatRoom} {s : ChatServer} (serves : Serves r s)
    {x : Except ChatFault ChatServer}
    (ends : run step (.ok s) (es.map ClientEvent.callback) = some x) :
    ∃ t, x = .ok t ∧ Serves (es.foldl (fun r e => r.next e.meaning) r) t := by
  induction es generalizing r s with
  | nil =>
    cases ends
    exact ⟨s, rfl, serves⟩
  | cons e es ih =>
    obtain ⟨y, next, rest⟩ := Option.bind_eq_some_iff.mp ends
    simp only [step, Option.ite_none_right_eq_some, Option.some.injEq] at next
    obtain ⟨allowed, rfl⟩ := next
    obtain ⟨t, done, serves'⟩ := handle_serves serves allowed
    rw [done] at rest
    exact ih serves' rest

/-- In every run of callbacks that a network model may make, where each client builds its
    packets as ChatProtocol says and sends no empty name, and each recv() starts with a
    packet: no callback faults, every client was sent exactly what it hears in the room, in
    that order, and those are listed who listen. What follows a packet in the same recv() is
    lost. -/
theorem chat_room_served (es : List ClientEvent) {x : Except ChatFault ChatServer}
    (ends : run step (.ok construct) (es.map ClientEvent.callback) = some x) :
    let room := es.foldl (fun r e => r.next e.meaning) ChatRoom.empty
    ∃ s, x = .ok s ∧ (∀ id, (s.sentTo id).map decode = (room.heard id).map some) ∧
      ∀ id, id ∈ s.mUsers ↔ room.listening id = true := by
  intro room
  obtain ⟨s, rfl, serves⟩ := run_serves es construct_serves ends
  exact ⟨s, rfl, serves.heard, fun id => (serves.listening id).symm⟩

/- A client logs in as A and says B. -/
theorem small_talk_served :
    let name : CharArray 32 := ⟨65 :: List.replicate 31 0, by
      rw [List.length_cons, List.length_replicate]⟩
    let text : CharArray 256 := ⟨66 :: List.replicate 255 0, by
      rw [List.length_cons, List.length_replicate]⟩
    let smallTalk : List ClientEvent :=
      [.connect 1,
        .packet 1 (.login 36 name [65] rfl (List.cons_ne_nil _ _)) (List.replicate 8156 0) (by
          rw [List.length_append, ClientPacket.bytes_length, List.length_replicate]
          rfl) 36 (ClientPacket.bytes_length _).le 0,
        .packet 1 (.message 260 text [66] rfl) (List.replicate 7932 0) (by
          rw [List.length_append, ClientPacket.bytes_length, List.length_replicate]
          rfl) 260 (ClientPacket.bytes_length _).le 0]
    ∃ s, run step (.ok construct) (smallTalk.map ClientEvent.callback) = some (.ok s) ∧
      (s.sentTo 1).map decode =
        [some (.loginResponse true greeting), some (.message [65] [66])] := by
  intro name text smallTalk
  have ends : (run step (.ok construct) (smallTalk.map ClientEvent.callback)).isSome = true := by
    decide
  obtain ⟨x, ends⟩ := Option.isSome_iff_exists.mp ends
  obtain ⟨s, rfl, heard, _⟩ := chat_room_served smallTalk ends
  exact ⟨s, ends, heard 1⟩

end ChatServer
end KanchoNet
