import KanchoNet.Network.EpollWorkers

/-!
EpollModel's workers with the kernel that answers them. Sockets are registered with
EPOLLET, so epoll_wait reports a socket once for what arrives, and not for what is left
unread; ProcessReceive therefore reads until recv() would block. Data may arrive between
any two steps of the workers.
-/
namespace KanchoNet
open LabelledRuns

/-- The workers and the kernel: what has arrived on a connection and was not read, the
    connections the peer has closed, the sockets with an edge to report, and the events
    epoll_wait gave to a worker that it has not come to. arrived logs what arrives. -/
structure EdgeTriggered (W : Type) where
  workers : EpollWorkers W
  inbox : SessionID → List UInt8
  finished : SessionID → Bool
  edges : List Fd
  batch : W → List Fd
  arrived : List (SessionID × List UInt8)

/-- Something arrives on a socket, ModifySocket asks epoll_ctl again, epoll_wait returns a
    batch, or a worker takes its next step. recv() gives as much as the kernel likes. -/
inductive KernelEvent (W : Type) where
  | arrive (socket : Fd) (data : List UInt8)
  | finish (socket : Fd)
  | modify (socket : Fd)
  | wait (worker : W) (sockets : List Fd)
  | accept (worker : W) (socket : Fd)
  | register (worker : W) (granted : Bool)
  | readable (worker : W)
  | hangUp (worker : W)
  | receive (worker : W) (amount : Nat)
  | fail (worker : W)
  | proceed (worker : W)

def KernelEvent.accepts {W : Type} : KernelEvent W → Bool
  | .accept _ _ => true
  | _ => false

def took (amount : Nat) : Nat := min (amount + 1) DEFAULT_BUFFER_SIZE.toNat

theorem took_pos (amount : Nat) : 0 < took amount := by
  have limit : DEFAULT_BUFFER_SIZE.toNat = 8192 := by decide
  unfold took
  omega

def recvAnswer (inbox : List UInt8) (finished : Bool) (amount : Nat) : RecvAnswer :=
  if some : inbox ≠ [] then
    .received (inbox.take (took amount))
      (by
        have := took_pos amount
        have := List.length_pos_iff.mpr some
        rw [List.length_take]
        omega)
      ((List.length_take_le _ _).trans (Nat.min_le_right _ _))
  else if finished then .closed
  else .wouldBlock

namespace EdgeTriggered
variable {W : Type}

def start (workers : EpollWorkers W) : EdgeTriggered W where
  workers := workers
  inbox _ := []
  finished _ := false
  edges := []
  batch _ := []
  arrived := []

/-- There is something to read on the socket: data or the end of the stream. -/
def ready (s : EdgeTriggered W) (socket : Fd) : Bool :=
  (s.workers.sockets.lookup socket).any fun id => !(s.inbox id).isEmpty || s.finished id

def signal (socket : Fd) (s : EdgeTriggered W) : EdgeTriggered W :=
  if socket ∈ s.workers.interest then { s with edges := socket :: s.edges } else s

/-- epoll_ctl with ADD or MOD makes an edge of what is there already. -/
def rearm (socket : Fd) (s : EdgeTriggered W) : EdgeTriggered W :=
  let others := s.edges.filter (· ≠ socket)
  { s with edges := if s.ready socket then socket :: others else others }

variable [DecidableEq W]

/-- A step of a worker that the kernel has no part in. -/
def step (s : EdgeTriggered W) : KernelEvent W → Option (EdgeTriggered W)
  | .arrive socket data => (s.workers.sockets.lookup socket).map fun id =>
    signal socket { s with
      inbox := Function.update s.inbox id (s.inbox id ++ data)
      arrived := s.arrived ++ [(id, data)] }
  | .finish socket => (s.workers.sockets.lookup socket).map fun id =>
    signal socket { s with finished := Function.update s.finished id true }
  | .modify socket => if socket ∈ s.workers.interest then some (s.rearm socket) else none
  | .wait w sockets =>
    if s.workers.position w = none ∧ s.batch w = [] ∧
        sockets.all fun socket => s.edges.contains socket && socket ∈ s.workers.interest then
      some { s with
        edges := s.edges.filter fun socket => !sockets.contains socket
        batch := Function.update s.batch w sockets }
    else none
  | .accept w socket => (EpollWorkers.step s.workers (.accept w socket)).map fun workers =>
    -- nothing has arrived yet on a new connection
    let id := s.workers.mSessionManager.mNextSessionID
    { s with
      workers
      inbox := Function.update s.inbox id []
      finished := Function.update s.finished id false }
  | .register w granted => (EpollWorkers.step s.workers (.register w granted)).map fun workers =>
    let s' := { s with workers }
    match s.workers.position w with
    | some (_, .registerSocket socket) =>
      if socket ∈ workers.interest ∧ socket ∉ s.workers.interest then s'.rearm socket else s'
    | _ => s'
  | .readable w =>
    match s.batch w with
    | [] => none
    | socket :: rest => (EpollWorkers.step s.workers (.readable w socket)).map fun workers =>
      { s with workers, batch := Function.update s.batch w rest }
  | .hangUp w =>
    match s.batch w with
    | [] => none
    | socket :: rest => (EpollWorkers.step s.workers (.hangUp w socket)).map fun workers =>
      { s with workers, batch := Function.update s.batch w rest }
  | .receive w amount =>
    match s.workers.position w with
    | some (id, .recv) =>
      (s.workers.mSessionManager.getSession id).bind fun session =>
        (s.workers.sockets.lookup session.mSocket).bind fun owner =>
          let answer := recvAnswer (s.inbox owner) (s.finished owner) amount
          (EpollWorkers.step s.workers (.receive w answer)).map fun workers =>
            { s with
              workers
              inbox := Function.update s.inbox owner ((s.inbox owner).drop (took amount)) }
    | _ => none
  | .fail w => (EpollWorkers.step s.workers (.receive w .failed)).map fun workers =>
    { s with workers }
  | .proceed w => (EpollWorkers.step s.workers (.proceed w)).map fun workers => { s with workers }

end EdgeTriggered

end KanchoNet
