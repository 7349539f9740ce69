import KanchoNet.Session.Session
import KanchoNet.Lib.LabelledRuns
import Mathlib.Data.List.AList

/-!
What EpollModel registers with epoll and how ProcessIO reads it back. epoll_data
is a union: the fd member is the low half of the word that holds the pointer on
a little-endian machine, and storing one leaves the other half of the word.
-/
namespace KanchoNet
open LabelledRuns

abbrev SessionPtr := BitVec 64

structure EpollData where
  word : BitVec 64
  deriving DecidableEq

namespace EpollData

def ofPtr (ptr : SessionPtr) : EpollData := ⟨ptr⟩

def setFd (data : EpollData) (fd : Fd) : EpollData := ⟨data.word.extractLsb' 32 32 ++ fd⟩

def ptr (data : EpollData) : SessionPtr := data.word

def fd (data : EpollData) : Fd := data.word.extractLsb' 0 32

theorem low_half (high : BitVec 32) (fd : Fd) :
    BitVec.extractLsb' 0 32 (high ++ fd : BitVec 64) = fd := by
  ext i inside
  rw [BitVec.getElem_extractLsb', Nat.zero_add]
  refine (BitVec.getLsbD_append (x := high) (y := fd)).trans ?_
  rw [if_pos inside, BitVec.getLsbD_eq_getElem inside]

@[simp] theorem fd_setFd (data : EpollData) (fd : Fd) : (data.setFd fd).fd = fd := low_half _ fd

theorem ptr_setFd (ptr : SessionPtr) (fd : Fd) :
    ((ofPtr ptr).setFd fd).ptr = ptr.extractLsb' 32 32 ++ fd := rfl

end EpollData

/-- The pointer survives the fd stored over it exactly when they share the low half. -/
theorem pointer_survives_iff (ptr : SessionPtr) (fd : Fd) :
    ptr.extractLsb' 32 32 ++ fd = ptr ↔ ptr.extractLsb' 0 32 = fd := by
  constructor
  · intro same
    have low := congrArg (BitVec.extractLsb' 0 32) same
    rw [← low, EpollData.low_half]
  · rintro rfl
    ext i inside
    simp only [BitVec.getElem_append, BitVec.getElem_extractLsb', Nat.zero_add]
    split
    · exact BitVec.getLsbD_eq_getElem inside
    · rw [Nat.add_sub_cancel' (by omega)]
      exact BitVec.getLsbD_eq_getElem inside

def EPOLLIN : BitVec 32 := 0x001
def EPOLLOUT : BitVec 32 := 0x004
def EPOLLERR : BitVec 32 := 0x008
def EPOLLHUP : BitVec 32 := 0x010
def EPOLLET : BitVec 32 := 0x80000000

structure EpollEvent where
  events : BitVec 32
  data : EpollData
  deriving DecidableEq

/-- The socket map of the model and the interest list the kernel keeps for mEpollFd. -/
structure EpollRegistry where
  mListenSocket : Fd
  mSocketToSession : AList fun _ : Fd => SessionPtr
  interest : AList fun _ : Fd => EpollEvent

namespace EpollRegistry

/-- epoll_ctl(EPOLL_CTL_ADD); a descriptor already registered is refused. -/
def ctlAdd (r : EpollRegistry) (fd : Fd) (ev : EpollEvent) (granted : Bool) :
    Bool × EpollRegistry :=
  if granted ∧ fd ∉ r.interest then (true, { r with interest := r.interest.insert fd ev })
  else (false, r)

def ctlMod (r : EpollRegistry) (fd : Fd) (ev : EpollEvent) (granted : Bool) :
    Bool × EpollRegistry :=
  if granted ∧ fd ∈ r.interest then (true, { r with interest := r.interest.insert fd ev })
  else (false, r)

/-- ev.data.ptr = session, then ev.data.fd = socket. -/
def clientEvent (events : BitVec 32) (session : SessionPtr) (socket : Fd) : EpollEvent :=
  ⟨events, (EpollData.ofPtr session).setFd socket⟩

def listening (listenSocket : Fd) : EpollRegistry where
  mListenSocket := listenSocket
  mSocketToSession := ∅
  interest := AList.singleton listenSocket
    ⟨EPOLLIN ||| EPOLLET, (EpollData.ofPtr 0).setFd listenSocket⟩

def registerSocket (r : EpollRegistry) (socket : Fd) (session : SessionPtr) (events : BitVec 32)
    (granted : Bool) : Bool × EpollRegistry :=
  r.ctlAdd socket (clientEvent events session socket) granted

def modifySocket (r : EpollRegistry) (socket : Fd) (events : BitVec 32) (granted : Bool) :
    Bool × EpollRegistry :=
  match r.mSocketToSession.lookup socket with
  | none => (false, r)
  | some session => r.ctlMod socket (clientEvent events session socket) granted

/-- mSocketToSession.erase, UnregisterSocket and the close of the socket, which
    takes it off the interest list even where EPOLL_CTL_DEL failed. -/
def closeSocket (r : EpollRegistry) (socket : Fd) : EpollRegistry where
  mListenSocket := r.mListenSocket
  mSocketToSession := r.mSocketToSession.erase socket
  interest := r.interest.erase socket

def acceptSocket (r : EpollRegistry) (socket : Fd) (session : SessionPtr) (granted : Bool) :
    EpollRegistry :=
  let r := { r with mSocketToSession := r.mSocketToSession.insert socket session }
  let (registered, r) := r.registerSocket socket session (EPOLLIN ||| EPOLLET) granted
  if registered then r else r.closeSocket socket

end EpollRegistry

inductive EpollHandler where
  | processAccept
  | processReceive (session : SessionPtr)
  | processSend (session : SessionPtr)
  | processDisconnect (session : SessionPtr)
  deriving DecidableEq

def dispatchEvent (listenSocket : Fd) (ev : EpollEvent) : List EpollHandler :=
  if ev.data.fd = listenSocket then [.processAccept]
  else
    let session := ev.data.ptr
    if session = 0 then []
    else if ev.events &&& (EPOLLERR ||| EPOLLHUP) ≠ 0 then [.processDisconnect session]
    else
      (if ev.events &&& EPOLLIN ≠ 0 then [.processReceive session] else []) ++
      (if ev.events &&& EPOLLOUT ≠ 0 then [.processSend session] else [])

namespace EpollRegistry

inductive RegistryEvent where
  | accept (socket : Fd) (session : SessionPtr) (granted : Bool)
  | modify (socket : Fd) (events : BitVec 32) (granted : Bool)
  | close (socket : Fd)

/-- accept() gives a descriptor that is not open, so neither the listen socket
    nor one that is still registered. -/
def step (r : EpollRegistry) : RegistryEvent → Option EpollRegistry
  | .accept socket session granted =>
    if socket ≠ r.mListenSocket ∧ socket ∉ r.interest then
      some (r.acceptSocket socket session granted)
    else none
  | .modify socket events granted => some (r.modifySocket socket events granted).2
  | .close socket => if socket ≠ r.mListenSocket then some (r.closeSocket socket) else none

theorem step_accept {r : EpollRegistry} {socket : Fd} (session : SessionPtr) (granted : Bool)
    (fresh : socket ≠ r.mListenSocket ∧ socket ∉ r.interest) :
    step r (.accept socket session granted) = some (r.acceptSocket socket session granted) :=
  if_pos fresh

def reported (r : EpollRegistry) (socket : Fd) (ready : BitVec 32) : Option EpollEvent :=
  (r.interest.lookup socket).map fun ev => ⟨ready, ev.data⟩

/-- Every event reported for the socket runs handlers of its own session only,
    and at least one. -/
def RoundTrips (r : EpollRegistry) (socket : Fd) (session : SessionPtr) : Prop :=
  ∀ ready ev, r.reported socket ready = some ev →
    ready &&& (EPOLLIN ||| EPOLLOUT ||| EPOLLERR ||| EPOLLHUP) ≠ 0 →
    dispatchEvent r.mListenSocket ev ≠ [] ∧
    ∀ handler ∈ dispatchEvent r.mListenSocket ev, handler = .processReceive session ∨
      handler = .processSend session ∨ handler = .processDisconnect session

def Encoded (r : EpollRegistry) : Prop :=
  ∀ socket session, r.mSocketToSession.lookup socket = some session →
    socket ≠ r.mListenSocket ∧ ∀ ev, r.interest.lookup socket = some ev →
      ev.data = (EpollData.ofPtr session).setFd socket

theorem listening_encoded (listenSocket : Fd) : Encoded (listening listenSocket) := by
  intro socket session mapped
  simp [listening] at mapped

theorem modifySocket_cases (r : EpollRegistry) (socket : Fd) (events : BitVec 32)
    (granted : Bool) : (r.modifySocket socket events granted).2 = r ∨
      ∃ session, r.mSocketToSession.lookup socket = some session ∧
        (r.modifySocket socket events granted).2 =
          { r with interest := r.interest.insert socket (clientEvent events session socket) } := by
  unfold modifySocket
  split
  · exact Or.inl rfl
  · rename_i session mapped
    unfold ctlMod
    split
    · exact Or.inr ⟨session, mapped, rfl⟩
    · exact Or.inl rfl

def Registered (r : EpollRegistry) (socket : Fd) : Prop :=
  socket ∈ r.mSocketToSession ∧ socket ∈ r.interest

def WaitsForWrite (r : EpollRegistry) (socket : Fd) : Prop :=
  ∃ ev, r.interest.lookup socket = some ev ∧ ev.events &&& EPOLLOUT ≠ 0

theorem acceptSocket_registered {r : EpollRegistry} {socket : Fd} (session : SessionPtr)
    (fresh : socket ∉ r.interest) : Registered (r.acceptSocket socket session true) socket := by
  simp [acceptSocket, registerSocket, ctlAdd, fresh, Registered, AList.mem_insert]

theorem modifySocket_registered {r : EpollRegistry} {socket : Fd} (registered : Registered r socket)
    (events : BitVec 32) (granted : Bool) :
    Registered (r.modifySocket socket events granted).2 socket := by
  rcases modifySocket_cases r socket events granted with same | ⟨session, _, changed⟩
  · rwa [same]
  · rw [changed]
    exact ⟨registered.1, (AList.mem_insert _).mpr (Or.inl rfl)⟩

theorem modifySocket_refused (r : EpollRegistry) (socket : Fd) (events : BitVec 32) :
    (r.modifySocket socket events false).2 = r := by
  unfold modifySocket ctlMod
  split <;> simp

theorem modifySocket_waits {r : EpollRegistry} {socket : Fd} (registered : Registered r socket)
    {events : BitVec 32} (writing : events &&& EPOLLOUT ≠ 0) :
    WaitsForWrite (r.modifySocket socket events true).2 socket := by
  obtain ⟨session, mapped⟩ := Option.isSome_iff_exists.mp (AList.lookup_isSome.mpr registered.1)
  simp only [modifySocket, mapped, ctlMod, registered.2, and_self, if_true]
  exact ⟨_, AList.lookup_insert _, writing⟩

theorem closeSocket_encoded {r : EpollRegistry} (encoded : Encoded r) (socket : Fd) :
    Encoded (r.closeSocket socket) := by
  intro other session mapped
  by_cases same : other = socket
  · subst same
    simp [closeSocket] at mapped
  · simp only [closeSocket, AList.lookup_erase_ne same] at mapped ⊢
    exact encoded other session mapped

theorem acceptSocket_encoded {r : EpollRegistry} (encoded : Encoded r) {socket : Fd}
    (session : SessionPtr) (granted : Bool)
    (fresh : socket ≠ r.mListenSocket ∧ socket ∉ r.interest) :
    Encoded (r.acceptSocket socket session granted) := by
  have mapped : Encoded { r with
      mSocketToSession := r.mSocketToSession.insert socket session } := by
    intro other session' found
    by_cases same : other = socket
    · subst same
      constructor
      · exact fresh.1
      · intro ev registered
        rw [AList.lookup_eq_none.mpr fresh.2] at registered
        cases registered
    · rw [AList.lookup_insert_ne same] at found
      exact encoded other session' found
  by_cases added : granted = true ∧ socket ∉ r.interest
  · simp only [acceptSocket, registerSocket, ctlAdd, if_pos added, if_true]
    intro other session' found
    by_cases same : other = socket
    · subst same
      simp only [AList.lookup_insert, Option.some.injEq] at found ⊢
      subst found
      exact ⟨fresh.1, fun ev registered => registered ▸ rfl⟩
    · have := mapped other session' found
      simpa only [AList.lookup_insert_ne same] using this
  · -- CloseSession rolls the map entry back
    simp only [acceptSocket, registerSocket, ctlAdd, if_neg added]
    exact closeSocket_encoded mapped socket

theorem modifySocket_encoded {r : EpollRegistry} (encoded : Encoded r) (socket : Fd)
    (events : BitVec 32) (granted : Bool) :
    Encoded (r.modifySocket socket events granted).2 := by
  rcases modifySocket_cases r socket events granted with same | ⟨session, mapped, changed⟩
  · rw [same]
    exact encoded
  · rw [changed]
    intro other session' found
    constructor
    · exact (encoded other session' found).1
    · intro ev registered
      by_cases same : other = socket
      · subst same
        rw [mapped] at found
        cases found
        simp only [AList.lookup_insert, Option.some.injEq] at registered
        exact registered ▸ rfl
      · rw [AList.lookup_insert_ne same] at registered
        exact (encoded other session' found).2 ev registered

theorem step_encoded (r : EpollRegistry) (e : RegistryEvent) (r' : EpollRegistry)
    (encoded : Encoded r) (next : step r e = some r') : Encoded r' := by
  cases e with
  | accept socket session granted =>
    simp only [step] at next
    split at next
    · rename_i fresh
      cases next
      exact acceptSocket_encoded encoded session granted fresh
    · cases next
  | modify socket events granted =>
    cases next
    exact modifySocket_encoded encoded socket events granted
  | close socket =>
    simp only [step] at next
    split at next
    · cases next
      exact closeSocket_encoded encoded socket
    · cases next

theorem reached_encoded {listenSocket : Fd} {es : List RegistryEvent} {r : EpollRegistry}
    (reached : r ∈ states step (listening listenSocket) es) : Encoded r :=
  invariant_of_kept step_encoded es _ (listening_encoded listenSocket) r reached

/- What ProcessIO does with an event of a client socket: it never accepts, and the
   session is the high half of the pointer joined to the descriptor. -/
theorem dispatch_client {listenSocket socket : Fd} {session : SessionPtr} {ready : BitVec 32}
    (client : socket ≠ listenSocket) :
    dispatchEvent listenSocket ⟨ready, (EpollData.ofPtr session).setFd socket⟩ =
      let decoded : SessionPtr := session.extractLsb' 32 32 ++ socket
      if decoded = 0 then []
      else if ready &&& (EPOLLERR ||| EPOLLHUP) ≠ 0 then [.processDisconnect decoded]
      else
        (if ready &&& EPOLLIN ≠ 0 then [.processReceive decoded] else []) ++
        (if ready &&& EPOLLOUT ≠ 0 then [.processSend decoded] else []) := by
  simp only [dispatchEvent, EpollData.fd_setFd, if_neg client, EpollData.ptr_setFd]
  rfl

theorem some_handler_ready {ready : BitVec 32}
    (interesting : ready &&& (EPOLLIN ||| EPOLLOUT ||| EPOLLERR ||| EPOLLHUP) ≠ 0)
    (alive : ¬ready &&& (EPOLLERR ||| EPOLLHUP) ≠ 0) :
    ready &&& EPOLLIN ≠ 0 ∨ ready &&& EPOLLOUT ≠ 0 := by
  by_contra none
  simp only [ne_eq, not_or, not_not] at none alive
  apply interesting
  have split : ready &&& (EPOLLIN ||| EPOLLOUT ||| EPOLLERR ||| EPOLLHUP) =
      ready &&& EPOLLIN ||| ready &&& EPOLLOUT ||| ready &&& (EPOLLERR ||| EPOLLHUP) := by
    ext i inside
    simp only [BitVec.getElem_and, BitVec.getElem_or]
    cases ready[i] <;> simp [Bool.or_assoc]
  rw [split, none.1, none.2, alive]
  rfl

/-- In every reachable registry an event of a client socket is never taken for the
    listen socket, and it reaches the session registered for the socket exactly
    when that pointer is not null and ends in the descriptor's own 32 bits. -/
theorem event_reaches_registered_session_iff {listenSocket : Fd} {es : List RegistryEvent}
    {r : EpollRegistry} (reached : r ∈ states step (listening listenSocket) es)
    {socket : Fd} {session : SessionPtr}
    (mapped : r.mSocketToSession.lookup socket = some session)
    (registered : socket ∈ r.interest) :
    (∀ ready ev, r.reported socket ready = some ev →
      .processAccept ∉ dispatchEvent r.mListenSocket ev) ∧
    (RoundTrips r socket session ↔ session ≠ 0 ∧ session.extractLsb' 0 32 = socket) := by
  obtain ⟨client, encoded⟩ := reached_encoded reached socket session mapped
  obtain ⟨stored, found⟩ := Option.isSome_iff_exists.mp (AList.lookup_isSome.mpr registered)
  have data := encoded stored found
  have event : ∀ ready ev, r.reported socket ready = some ev ↔
      ⟨ready, (EpollData.ofPtr session).setFd socket⟩ = ev := by
    intro ready ev
    simp [reported, found, data]
  constructor
  · intro ready ev read
    rw [← (event ready ev).mp read, dispatch_client client]
    dsimp only
    split
    · simp
    · split
      · simp
      · split <;> split <;> simp
  · rw [← pointer_survives_iff]
    constructor
    · intro trips
      -- a readable event names the decoded session, so that must be the registered one
      have read := trips EPOLLIN _ ((event _ _).mpr rfl) (by decide)
      rw [dispatch_client client] at read
      dsimp only at read
      split at read
      · exact absurd rfl read.1
      · rename_i present
        have handler := read.2 (.processReceive (session.extractLsb' 32 32 ++ socket))
          (by rw [if_neg (by decide), if_pos (by decide)]; simp)
        simp only [EpollHandler.processReceive.injEq, reduceCtorEq, or_false] at handler
        exact ⟨handler ▸ present, handler⟩
    · rintro ⟨present, survives⟩ ready ev read interesting
      rw [← (event ready ev).mp read, dispatch_client client, survives]
      dsimp only
      rw [if_neg present]
      split
      · simp
      · rename_i alive
        rcases some_handler_ready interesting alive with readable | writable
        · rw [if_pos readable]
          split <;> simp
        · rw [if_pos writable]
          split <;> simp

theorem low_half_pointer_round_trips :
    RoundTrips ((listening 3).acceptSocket 7 0x7f0000000007 true) 7 0x7f0000000007 :=
  (event_reaches_registered_session_iff
    (show _ ∈ states step (listening 3) [.accept 7 0x7f0000000007 true] from
      mem_states_next (step_accept _ _ (by decide)) (mem_states_self _ _ _))
    (by decide) (by decide)).2.mpr (by decide)

/- A page-aligned session pointer on descriptor 7 comes back as another address. -/
theorem aligned_pointer_lost :
    (listening 3).acceptSocket 7 0x7f0000001000 true ∈
      states step (listening 3) [.accept 7 0x7f0000001000 true] ∧
    ¬RoundTrips ((listening 3).acceptSocket 7 0x7f0000001000 true) 7 0x7f0000001000 := by
  refine ⟨mem_states_next (step_accept _ _ (by decide)) (mem_states_self _ _ _), fun trips => ?_⟩
  have read := trips EPOLLIN ⟨EPOLLIN, ⟨0x7f0000000007⟩⟩ (by decide) (by decide)
  exact absurd (read.2 (.processReceive 0x7f0000000007) (by decide)) (by decide)

end EpollRegistry
end KanchoNet
