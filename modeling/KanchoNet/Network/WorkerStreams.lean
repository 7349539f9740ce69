import KanchoNet.Network.EpollWorkers

/-!
What the workers of an EpollModel pass to mOnReceive, against what the connections
sent. All recv() calls fill the one mReceiveBuffer, and a worker passes its bytes on
in a later step: the streams are safe while one worker at a time is between the two.
-/
namespace KanchoNet
open LabelledRuns

def Callbacks.deliveredTo (c : Callbacks) (id : SessionID) : List UInt8 :=
  c.calls.flatMap fun
    | .onReceive session data => if session = id then data else []
    | _ => []

namespace EpollWorkers
variable {W : Type}

def readOf (s : EpollWorkers W) (id : SessionID) : List UInt8 :=
  s.reads.flatMap fun chunk => if chunk.1 = id then chunk.2 else []

def StreamsIntact (s : EpollWorkers W) : Prop :=
  ∀ id, s.callbacks.deliveredTo id <+: s.readOf id

def heldAt : Option (SessionID × HandlerStage) → Option (SessionID × Nat)
  | some (id, .onReceive bytesRead) => some (id, bytesRead)
  | _ => none

/-- A recv() gives data only while no worker is yet to call mOnReceive, and from
    the connection of its own session. -/
def ReceivesAlone (s : EpollWorkers W) : WorkerEvent W → Prop
  | .receive w (.received _ _ _) =>
    (∀ other, heldAt (s.position other) = none) ∧
    ∀ id session, s.position w = some (id, .recv) →
      s.mSessionManager.getSession id = some session →
      s.sockets.lookup session.mSocket = some id
  | _ => True

/-- Either all that was read is delivered, or one worker is to deliver the rest, which
    stands at the front of the buffer. -/
inductive Streaming (s : EpollWorkers W) : Prop where
  | settled (nobody : ∀ w, heldAt (s.position w) = none)
      (streams : ∀ id, s.readOf id = s.callbacks.deliveredTo id)
  | held (w : W) (id : SessionID) (bytesRead : Nat)
      (here : heldAt (s.position w) = some (id, bytesRead))
      (alone : ∀ other, other ≠ w → heldAt (s.position other) = none)
      (streams : ∀ other, s.readOf other = s.callbacks.deliveredTo other ++
        if id = other then s.mReceiveBuffer.bytes.take bytesRead else [])

structure Flowing (s : EpollWorkers W) : Prop where
  set : s.callbacks.mOnReceive = true
  streaming : Streaming s

theorem flowing_intact {s : EpollWorkers W} (flowing : Flowing s) : StreamsIntact s := by
  intro id
  cases flowing.streaming with
  | settled nobody streams =>
    rw [streams id]
  | held w owner bytesRead here alone streams =>
    rw [streams id]
    exact List.prefix_append _ _

/-- The streams do not see a step that changes neither them, nor the buffer, nor which
    worker holds bytes. -/
theorem streaming_of_same {s t : EpollWorkers W} (streaming : Streaming s)
    (holding : ∀ w, heldAt (t.position w) = heldAt (s.position w))
    (buffer : t.mReceiveBuffer = s.mReceiveBuffer) (reads : t.reads = s.reads)
    (delivered : ∀ id, t.callbacks.deliveredTo id = s.callbacks.deliveredTo id) :
    Streaming t := by
  have read : ∀ id, t.readOf id = s.readOf id := by
    intro id
    unfold readOf
    rw [reads]
  cases streaming with
  | settled nobody streams =>
    apply Streaming.settled
    · intro w
      rw [holding w]
      exact nobody w
    · intro id
      rw [read id, delivered id]
      exact streams id
  | held w id bytesRead here alone streams =>
    apply Streaming.held w id bytesRead
    · rw [holding w]
      exact here
    · intro other different
      rw [holding other]
      exact alone other different
    · intro other
      rw [read other, delivered other, buffer]
      exact streams other

theorem deliveredTo_onReceive {c : Callbacks} (set : c.mOnReceive = true) (id other : SessionID)
    (data : List UInt8) : (c.onReceive id data).deliveredTo other =
      c.deliveredTo other ++ if id = other then data else [] := by
  rw [Callbacks.onReceive_set set]
  unfold Callbacks.deliveredTo
  rw [List.flatMap_append, List.flatMap_singleton]

theorem deliveredTo_onAccept (c : Callbacks) (id other : SessionID) :
    (c.onAccept id).deliveredTo other = c.deliveredTo other := by
  unfold Callbacks.onAccept Callbacks.deliveredTo
  split
  · rw [List.flatMap_append, List.flatMap_singleton, List.append_nil]
  · rfl

theorem deliveredTo_onDisconnect (c : Callbacks) (id other : SessionID) :
    (c.onDisconnect id).deliveredTo other = c.deliveredTo other := by
  unfold Callbacks.onDisconnect Callbacks.deliveredTo
  split
  · rw [List.flatMap_append, List.flatMap_singleton, List.append_nil]
  · rfl

theorem listening_flowing (maxSessions : UInt32) (buffer : ReceiveBuffer) :
    Flowing (listening maxSessions buffer : EpollWorkers W) := by
  constructor
  · rfl
  · exact .settled (fun _ => rfl) (fun _ => rfl)

variable [DecidableEq W]

theorem flowing_moved {s t : EpollWorkers W} (flowing : Flowing s) {w : W}
    {position : Option (SessionID × HandlerStage)} (before : heldAt (s.position w) = none)
    (after : heldAt position = none)
    (positions : t.position = (s.moveTo w position).position)
    (set : t.callbacks.mOnReceive = s.callbacks.mOnReceive)
    (buffer : t.mReceiveBuffer = s.mReceiveBuffer) (reads : t.reads = s.reads)
    (delivered : ∀ id, t.callbacks.deliveredTo id = s.callbacks.deliveredTo id) : Flowing t := by
  constructor
  · exact set.trans flowing.set
  · apply streaming_of_same flowing.streaming
    · intro other
      rw [positions]
      exact view_moveTo heldAt (after.trans before.symm) other
    · exact buffer
    · exact reads
    · exact delivered

theorem received_flowing {s : EpollWorkers W} (flowing : Flowing s) {w : W} {id : SessionID}
    (nobody : ∀ other, heldAt (s.position other) = none) {data : List UInt8}
    (within : data.length ≤ DEFAULT_BUFFER_SIZE.toNat) :
    Flowing { s.moveTo w (some (id, .onReceive data.length)) with
      mReceiveBuffer := s.mReceiveBuffer.fill data within
      reads := s.reads ++ [(id, data)] } := by
  constructor
  · exact flowing.set
  · apply Streaming.held w id data.length
    · exact congrArg heldAt (position_moveTo_self w _ s)
    · intro other different
      exact (congrArg heldAt (position_moveTo_ne different _ s)).trans (nobody other)
    · intro other
      have before : s.readOf other = s.callbacks.deliveredTo other := by
        cases flowing.streaming with
        | settled _ streams => exact streams other
        | held x owner bytesRead here =>
          rw [nobody x] at here
          cases here
      rw [ReceiveBuffer.take_fill]
      simp only [readOf, List.flatMap_append, List.flatMap_singleton]
      exact congrArg (· ++ _) before

theorem delivered_flowing {s : EpollWorkers W} (flowing : Flowing s) {w : W} {id : SessionID}
    {bytesRead : Nat} (here : s.position w = some (id, .onReceive bytesRead)) :
    Flowing { s.moveTo w (some (id, .recv)) with
      callbacks := s.callbacks.onReceive id (s.mReceiveBuffer.bytes.take bytesRead) } := by
  have holds : heldAt (s.position w) = some (id, bytesRead) := congrArg heldAt here
  constructor
  · unfold Callbacks.onReceive
    split
    · exact flowing.set
    · exact flowing.set
  · cases flowing.streaming with
    | settled nobody =>
      rw [nobody w] at holds
      cases holds
    | held x owner count held alone streams =>
      obtain rfl : w = x := by
        by_contra different
        rw [alone w different] at holds
        cases holds
      cases held.symm.trans holds
      apply Streaming.settled
      · intro other
        by_cases same : other = w
        · subst same
          exact congrArg heldAt (position_moveTo_self other _ s)
        · exact (congrArg heldAt (position_moveTo_ne same _ s)).trans (alone other same)
      · intro other
        exact (streams other).trans (deliveredTo_onReceive flowing.set id other _).symm

theorem step_flowing (s : EpollWorkers W) (e : WorkerEvent W) (t : EpollWorkers W)
    (flowing : Flowing s) (receives : ReceivesAlone s e) (next : step s e = some t) :
    Flowing t := by
  cases step_advance next with
  | refused w socket => exact flowing
  | accepted w socket mSessionManager idle =>
    exact flowing_moved flowing (congrArg heldAt idle) rfl rfl rfl rfl rfl fun _ => rfl
  | dispatched e w socket id first idle registered handler =>
    apply flowing_moved flowing (congrArg heldAt idle) _ rfl rfl rfl rfl fun _ => rfl
    rcases handler with rfl | rfl <;> rfl
  | registered w granted id socket here | unregistered w granted id socket closed here
  | closed w id socket here | removed w id session here =>
    exact flowing_moved flowing (congrArg heldAt here) rfl rfl rfl rfl rfl fun _ => rfl
  | received w data positive within id owner session here found connection =>
    obtain ⟨nobody, own⟩ := receives
    cases connection.symm.trans (own id session here found)
    exact received_flowing flowing nobody within
  | ended w answer id position here there =>
    apply flowing_moved flowing (congrArg heldAt here) _ rfl rfl rfl rfl fun _ => rfl
    rcases there with rfl | rfl <;> rfl
  | checked w id stage position here check =>
    rcases check with ⟨rfl, rfl | rfl⟩ | ⟨rfl, rfl | rfl⟩ <;>
      exact flowing_moved flowing (congrArg heldAt here) rfl rfl rfl rfl rfl fun _ => rfl
  | stored w id stage position session state here found store =>
    rcases store with ⟨socket, rfl, rfl⟩ | ⟨rfl, rfl⟩ <;>
      exact flowing_moved flowing (congrArg heldAt here) rfl rfl rfl rfl rfl fun _ => rfl
  | greeted w id here =>
    have set : (s.callbacks.onAccept id).mOnReceive = s.callbacks.mOnReceive := by
      unfold Callbacks.onAccept
      split <;> rfl
    exact flowing_moved flowing (congrArg heldAt here) rfl rfl set rfl rfl
      (deliveredTo_onAccept s.callbacks id)
  | delivered w id bytesRead here => exact delivered_flowing flowing here
  | dismissed w id here =>
    have set : (s.callbacks.onDisconnect id).mOnReceive = s.callbacks.mOnReceive := by
      unfold Callbacks.onDisconnect
      split <;> rfl
    exact flowing_moved flowing (congrArg heldAt here) rfl rfl set rfl rfl
      (deliveredTo_onDisconnect s.callbacks id)

/-- In every run of a listening model with any workers in which each recv() that gives
    data is made while no worker is yet to call mOnReceive, and reads the connection of
    its own session, every session is passed a prefix of what its connection sent. -/
theorem streams_intact_of_receivesAlone (maxSessions : UInt32) (buffer : ReceiveBuffer)
    (es : List (WorkerEvent W))
    (alone : ∀ x ∈ steps step (listening maxSessions buffer) es, ReceivesAlone x.1 x.2) :
    ∀ s ∈ states step (listening maxSessions buffer) es, StreamsIntact s := by
  intro s reached
  exact flowing_intact (invariant_of_guarded step_flowing es _
    (listening_flowing maxSessions buffer) alone s reached)

/- Each of two workers reads a byte of its client and passes it on before the other reads. -/
theorem read_bytes_intact :
    let es := connecting true 5 ++ connecting false 6 ++ [.receive true (oneByte 65),
      .proceed true, .receive false (oneByte 66), .proceed false]
    (∀ x ∈ steps step (listening 2 .zeroed) es, ReceivesAlone x.1 x.2) ∧
    ∀ s ∈ states step (listening 2 .zeroed : EpollWorkers Bool) es, StreamsIntact s := by
  intro es
  have alone : ∀ x ∈ steps step (listening 2 .zeroed : EpollWorkers Bool) es,
      ReceivesAlone x.1 x.2 := by
    iterate 12 refine forall_steps_cons ReceivesAlone rfl trivial ?_
    refine forall_steps_cons ReceivesAlone rfl ⟨fun other => by cases other <;> rfl, ?_⟩ ?_
    · intro id session here found
      cases here
      cases found
      rfl
    refine forall_steps_cons ReceivesAlone rfl trivial ?_
    refine forall_steps_cons ReceivesAlone rfl ⟨fun other => by cases other <;> rfl, ?_⟩ ?_
    · intro id session here found
      cases here
      cases found
      rfl
    exact forall_steps_cons ReceivesAlone rfl trivial (by simp [steps])
  exact ⟨alone, streams_intact_of_receivesAlone 2 .zeroed es alone⟩

/- Two workers: the second reads a byte of its client before the first has passed on
   that of its own. -/
theorem shared_buffer_crosses_streams :
    let es := connecting true 5 ++ connecting false 6 ++
      [.receive true (oneByte 65), .receive false (oneByte 66), .proceed true]
    ∃ s ∈ states step (listening 2 .zeroed : EpollWorkers Bool) es, ¬StreamsIntact s := by
  intro es
  obtain ⟨s, ends, delivered, read⟩ : ∃ s, run step (listening 2 .zeroed) es = some s ∧
      s.callbacks.deliveredTo 1 = [66] ∧ s.readOf 1 = [65] := ⟨_, rfl, rfl, rfl⟩
  refine ⟨s, mem_states_of_run ends, ?_⟩
  intro intact
  have crossed := intact 1
  rw [delivered, read] at crossed
  exact absurd crossed (by decide)

end EpollWorkers
end KanchoNet
