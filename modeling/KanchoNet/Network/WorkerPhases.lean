import KanchoNet.Network.EpollWorkers

/-!
How far a session of an EpollModel has come while several workers run it: which parts
of its handling they are in, and which of its callbacks were called. Each step of a
worker leads from phase to phase, as long as callbacks are called in turn.
-/
namespace KanchoNet

def Callback.session : Callback → SessionID
  | .onAccept session => session
  | .onReceive session _ => session
  | .onDisconnect session => session

namespace Callbacks

def callsOf (c : Callbacks) (id : SessionID) : List Callback :=
  c.calls.filter fun call => call.session = id

/-- A prefix of OnAccept OnReceive* OnDisconnect. -/
def Orderly (id : SessionID) (calls : List Callback) : Prop :=
  ∃ data : List (List UInt8),
    calls <+: .onAccept id :: data.map (.onReceive id) ++ [.onDisconnect id]

theorem orderly_nil (id : SessionID) : Orderly id [] := ⟨[], List.nil_prefix⟩

theorem orderly_closed (id : SessionID) (data : List (List UInt8)) :
    Orderly id (.onAccept id :: data.map (.onReceive id) ++ [.onDisconnect id]) :=
  ⟨data, List.prefix_rfl⟩

theorem orderly_open (id : SessionID) (data : List (List UInt8)) :
    Orderly id (.onAccept id :: data.map (.onReceive id)) :=
  ⟨data, List.prefix_append _ _⟩

theorem not_orderly_first {id : SessionID} {call : Callback} (late : call ≠ .onAccept id) :
    ¬Orderly id [call] := by
  rintro ⟨data, started⟩
  rw [List.cons_append] at started
  exact late (List.cons_prefix_cons.mp started).1

theorem not_orderly_after {id : SessionID} (data : List (List UInt8)) (call : Callback) :
    ¬Orderly id ((.onAccept id :: data.map (.onReceive id) ++ [.onDisconnect id]) ++ [call]) := by
  rintro ⟨word, rest, same⟩
  -- the calls before the last are all in the word before its OnDisconnect
  have before := congrArg List.dropLast same
  rw [List.append_assoc _ [call], List.dropLast_append_of_ne_nil (by simp),
    List.dropLast_append_of_ne_nil (List.cons_ne_nil _ _), List.dropLast_singleton,
    List.append_nil] at before
  have member : Callback.onDisconnect id ∈ Callback.onAccept id :: word.map (.onReceive id) := by
    rw [← before]
    simp
  simp at member

end Callbacks

/-- The parts of a session's handling; the callbacks between accept and close are
    called from the serving part. -/
inductive HandlerPart where
  | entering
  | greeting
  | serving
  | leaving
  deriving DecidableEq

def HandlerStage.part : HandlerStage → HandlerPart
  | .setConnected _ | .registerSocket _ => .entering
  | .onAccept => .greeting
  | .closeSocket | .removeSession => .leaving
  | _ => .serving

def partOf (id : SessionID) : Option (SessionID × HandlerStage) → Option HandlerPart
  | some (other, stage) => if other = id then some stage.part else none
  | none => none

@[simp] theorem partOf_self (id : SessionID) (stage : HandlerStage) :
    partOf id (some (id, stage)) = some stage.part := if_pos rfl

@[simp] theorem partOf_none (id : SessionID) : partOf id none = none := rfl

theorem partOf_ne {id other : SessionID} (different : other ≠ id) (stage : HandlerStage) :
    partOf other (some (id, stage)) = none := if_neg different.symm

theorem stage_of_partOf {id : SessionID} {position : Option (SessionID × HandlerStage)}
    {part : HandlerPart} (stands : partOf id position = some part) :
    ∃ stage, position = some (id, stage) ∧ stage.part = part := by
  unfold partOf at stands
  split at stands
  · split at stands
    · rename_i same
      exact ⟨_, congrArg (fun id => some (id, _)) same, Option.some.inj stands⟩
    · cases stands
  · cases stands

def Sharing (part : Option HandlerPart) : Prop := part = none ∨ part = some .serving

theorem sharing_not_accepting {part : Option HandlerPart} (sharing : Sharing part) :
    part ≠ some .entering ∧ part ≠ some .greeting := by
  rcases sharing with rfl | rfl
  · constructor <;> exact nofun
  · constructor <;> decide

namespace EpollWorkers
variable {W : Type}

/-- The session is in the table, no worker is yet to call its mOnAccept, and none is
    closing its socket or removing it. -/
def InTurn (s : EpollWorkers W) (id : SessionID) : Prop :=
  id ∈ s.mSessionManager.mSessions ∧ ∀ w, s.position w ≠ some (id, .onAccept) ∧
    s.position w ≠ some (id, .closeSocket) ∧ s.position w ≠ some (id, .removeSession)

structure Unseen (s : EpollWorkers W) (id : SessionID) : Prop where
  silent : s.callbacks.callsOf id = []
  nobody : ∀ w, partOf id (s.position w) = none
  unwatched : ∀ socket, s.interest.lookup socket ≠ some id

/-- How far a session has come: who handles it and what was called for it. -/
inductive Phase (s : EpollWorkers W) (id : SessionID) : Prop where
  | unseen (unseen : Unseen s id)
  | entering (w : W) (silent : s.callbacks.callsOf id = [])
      (here : partOf id (s.position w) = some .entering)
      (alone : ∀ other, other ≠ w → partOf id (s.position other) = none)
      (unwatched : ∀ socket, s.interest.lookup socket ≠ some id)
      (listed : id ∈ s.mSessionManager.mSessions)
  | greeting (w : W) (silent : s.callbacks.callsOf id = [])
      (here : partOf id (s.position w) = some .greeting)
      (others : ∀ other, other ≠ w → Sharing (partOf id (s.position other)))
      (listed : id ∈ s.mSessionManager.mSessions)
  | served (data : List (List UInt8))
      (begun : s.callbacks.callsOf id = .onAccept id :: data.map (.onReceive id))
      (workers : ∀ w, Sharing (partOf id (s.position w)))
      (listed : id ∈ s.mSessionManager.mSessions)
  | left (data : List (List UInt8))
      (done : s.callbacks.callsOf id =
        .onAccept id :: data.map (.onReceive id) ++ [.onDisconnect id])
      (workers : ∀ w, partOf id (s.position w) ≠ some .entering ∧
        partOf id (s.position w) ≠ some .greeting)
      (gone : id ∉ s.mSessionManager.mSessions ∨ ∃ w, partOf id (s.position w) = some .leaving)

theorem phase_orderly {s : EpollWorkers W} {id : SessionID} (phase : Phase s id) :
    Callbacks.Orderly id (s.callbacks.callsOf id) := by
  cases phase with
  | unseen unseen =>
    rw [unseen.silent]
    exact Callbacks.orderly_nil id
  | entering w silent | greeting w silent =>
    rw [silent]
    exact Callbacks.orderly_nil id
  | served data begun =>
    rw [begun]
    exact Callbacks.orderly_open id data
  | left data done =>
    rw [done]
    exact Callbacks.orderly_closed id data

structure SameFor (id : SessionID) (s t : EpollWorkers W) : Prop where
  calls : t.callbacks.callsOf id = s.callbacks.callsOf id
  parts : ∀ w, partOf id (t.position w) = partOf id (s.position w)
  listed : id ∈ t.mSessionManager.mSessions ↔ id ∈ s.mSessionManager.mSessions
  watched : ∀ socket, t.interest.lookup socket = some id → s.interest.lookup socket = some id

theorem unseen_of_same {s t : EpollWorkers W} {id : SessionID} (same : SameFor id s t)
    (unseen : Unseen s id) : Unseen t id := by
  constructor
  · exact same.calls.trans unseen.silent
  · intro w
    exact (same.parts w).trans (unseen.nobody w)
  · intro socket watched
    exact unseen.unwatched socket (same.watched socket watched)

theorem phase_of_same {s t : EpollWorkers W} {id : SessionID} (same : SameFor id s t)
    (phase : Phase s id) : Phase t id := by
  have calls := same.calls
  have parts := same.parts
  have listed := same.listed
  cases phase with
  | unseen unseen => exact .unseen (unseen_of_same same unseen)
  | entering w silent here alone unwatched present =>
    apply Phase.entering w
    · exact calls.trans silent
    · exact (parts w).trans here
    · intro other different
      exact (parts other).trans (alone other different)
    · intro socket watched
      exact unwatched socket (same.watched socket watched)
    · exact listed.mpr present
  | greeting w silent here others present =>
    apply Phase.greeting w
    · exact calls.trans silent
    · exact (parts w).trans here
    · intro other different
      rw [parts other]
      exact others other different
    · exact listed.mpr present
  | served data begun workers present =>
    apply Phase.served data
    · exact calls.trans begun
    · intro w
      rw [parts w]
      exact workers w
    · exact listed.mpr present
  | left data done workers gone =>
    apply Phase.left data
    · exact calls.trans done
    · intro w
      rw [parts w]
      exact workers w
    · rcases gone with absent | ⟨w, leaving⟩
      · exact Or.inl fun present => absent (listed.mp present)
      · exact Or.inr ⟨w, (parts w).trans leaving⟩

theorem apart_of_sharing {s : EpollWorkers W} {id : SessionID} {w x : W} {part : HandlerPart}
    (sharing : Sharing (partOf id (s.position w))) (here : partOf id (s.position x) = some part)
    (other : part ≠ .serving) : x ≠ w := by
  rintro rfl
  rcases sharing with idle | serving
  · cases here.symm.trans idle
  · cases here.symm.trans serving
    exact other rfl

theorem phase_shared {s t : EpollWorkers W} {id : SessionID} (phase : Phase s id) {w : W}
    (seen : (∃ socket, s.interest.lookup socket = some id) ∨
      partOf id (s.position w) = some .serving)
    (before : Sharing (partOf id (s.position w)))
    (after : Sharing (partOf id (t.position w)))
    (others : ∀ other, other ≠ w → t.position other = s.position other)
    (calls : t.callbacks.callsOf id = s.callbacks.callsOf id)
    (listed : id ∈ t.mSessionManager.mSessions ↔ id ∈ s.mSessionManager.mSessions) :
    Phase t id := by
  cases phase with
  | unseen unseen =>
    rcases seen with ⟨socket, watched⟩ | serving
    · exact absurd watched (unseen.unwatched socket)
    · cases (unseen.nobody w).symm.trans serving
  | entering x silent here alone unwatched present =>
    rcases seen with ⟨socket, watched⟩ | serving
    · exact absurd watched (unwatched socket)
    · by_cases same : w = x
      · subst same
        cases here.symm.trans serving
      · cases (alone w same).symm.trans serving
  | greeting x silent here workers present =>
    have different : x ≠ w := apart_of_sharing before here (by decide)
    apply Phase.greeting x
    · exact calls.trans silent
    · rw [others x different]
      exact here
    · intro other apart
      by_cases same : other = w
      · subst same
        exact after
      · rw [others other same]
        exact workers other apart
    · exact listed.mpr present
  | served data begun workers present =>
    apply Phase.served data
    · exact calls.trans begun
    · intro other
      by_cases same : other = w
      · subst same
        exact after
      · rw [others other same]
        exact workers other
    · exact listed.mpr present
  | left data done workers gone =>
    apply Phase.left data
    · exact calls.trans done
    · intro other
      by_cases same : other = w
      · subst same
        exact sharing_not_accepting after
      · rw [others other same]
        exact workers other
    · rcases gone with absent | ⟨x, leaving⟩
      · exact Or.inl fun present => absent (listed.mp present)
      · have different : x ≠ w := apart_of_sharing before leaving (by decide)
        refine Or.inr ⟨x, ?_⟩
        rw [others x different]
        exact leaving

inductive Standing (s : EpollWorkers W) (id : SessionID) (w : W) : Option HandlerPart → Prop where
  | away : Standing s id w none
  | entering (silent : s.callbacks.callsOf id = [])
      (alone : ∀ other, other ≠ w → partOf id (s.position other) = none)
      (unwatched : ∀ socket, s.interest.lookup socket ≠ some id)
      (listed : id ∈ s.mSessionManager.mSessions) : Standing s id w (some .entering)
  | greeting (silent : s.callbacks.callsOf id = [])
      (others : ∀ other, other ≠ w → Sharing (partOf id (s.position other)))
      (listed : id ∈ s.mSessionManager.mSessions) : Standing s id w (some .greeting)
  | early (silent : s.callbacks.callsOf id = []) (x : W)
      (greeting : partOf id (s.position x) = some .greeting) : Standing s id w (some .serving)
  | serving (data : List (List UInt8))
      (begun : s.callbacks.callsOf id = .onAccept id :: data.map (.onReceive id))
      (workers : ∀ w, Sharing (partOf id (s.position w)))
      (listed : id ∈ s.mSessionManager.mSessions) : Standing s id w (some .serving)
  | late (data : List (List UInt8))
      (done : s.callbacks.callsOf id =
        .onAccept id :: data.map (.onReceive id) ++ [.onDisconnect id])
      (gone : id ∉ s.mSessionManager.mSessions ∨ ∃ x, partOf id (s.position x) = some .leaving) :
      Standing s id w (some .serving)
  | leaving (data : List (List UInt8))
      (done : s.callbacks.callsOf id =
        .onAccept id :: data.map (.onReceive id) ++ [.onDisconnect id])
      (workers : ∀ w, partOf id (s.position w) ≠ some .entering ∧
        partOf id (s.position w) ≠ some .greeting) : Standing s id w (some .leaving)

theorem phase_standing {s : EpollWorkers W} {id : SessionID} (phase : Phase s id) (w : W) :
    Standing s id w (partOf id (s.position w)) := by
  cases phase with
  | unseen unseen =>
    rw [unseen.nobody w]
    exact .away
  | entering x silent here alone unwatched listed =>
    by_cases same : w = x
    · subst same
      rw [here]
      exact .entering silent alone unwatched listed
    · rw [alone w same]
      exact .away
  | greeting x silent here others listed =>
    by_cases same : w = x
    · subst same
      rw [here]
      exact .greeting silent others listed
    · rcases others w same with idle | serving
      · rw [idle]
        exact .away
      · rw [serving]
        exact .early silent x here
  | served data begun workers listed =>
    rcases workers w with idle | serving
    · rw [idle]
      exact .away
    · rw [serving]
      exact .serving data begun workers listed
  | left data done workers gone =>
    cases part : partOf id (s.position w) with
    | none => exact .away
    | some part' =>
      cases part' with
      | entering => exact absurd part (workers w).1
      | greeting => exact absurd part (workers w).2
      | serving => exact .late data done gone
      | leaving => exact .leaving data done workers

theorem standing_here {s : EpollWorkers W} {id : SessionID} (phase : Phase s id) {w : W}
    {stage : HandlerStage} (here : s.position w = some (id, stage)) :
    Standing s id w (some stage.part) := by
  have standing := phase_standing phase w
  rw [here, partOf_self] at standing
  exact standing

def tell (call : Callback) (s : EpollWorkers W) : EpollWorkers W :=
  { s with callbacks := { s.callbacks with calls := s.callbacks.calls ++ [call] } }

@[simp] theorem position_tell (call : Callback) (s : EpollWorkers W) :
    (s.tell call).position = s.position := rfl

theorem callsOf_tell (call : Callback) (s : EpollWorkers W) (id : SessionID) :
    (s.tell call).callbacks.callsOf id =
      s.callbacks.callsOf id ++ if call.session = id then [call] else [] := by
  simp [tell, Callbacks.callsOf, List.filter_append, List.filter_singleton]

theorem watched_closeSocket {s : EpollWorkers W} {closed socket : Fd} {id : SessionID}
    (watched : (s.closeSocket closed).interest.lookup socket = some id) :
    s.interest.lookup socket = some id := by
  by_cases same : socket = closed
  · subst same
    cases (AList.lookup_erase socket s.interest).symm.trans watched
  · exact (AList.lookup_erase_ne same).symm.trans watched

theorem inTurn_parts {s : EpollWorkers W} {id : SessionID} (turn : InTurn s id) (w : W) :
    partOf id (s.position w) ≠ some .greeting ∧ partOf id (s.position w) ≠ some .leaving := by
  obtain ⟨accepting, closing, removing⟩ := turn.2 w
  constructor <;>
  · intro stands
    obtain ⟨stage, here, part⟩ := stage_of_partOf stands
    cases stage <;> contradiction

theorem inTurn_of_served {s : EpollWorkers W} {id : SessionID}
    (workers : ∀ w, Sharing (partOf id (s.position w)))
    (listed : id ∈ s.mSessionManager.mSessions) : InTurn s id := by
  refine ⟨listed, fun w => ⟨?_, ?_, ?_⟩⟩ <;>
  · intro stands
    have part := workers w
    rw [stands, partOf_self] at part
    rcases part with idle | serving
    · cases idle
    · cases serving

theorem served_of_turn {s : EpollWorkers W} {w : W} {id : SessionID} {stage : HandlerStage}
    (phase : Phase s id) (here : s.position w = some (id, stage))
    (serving : stage.part = .serving) (turn : InTurn s id) :
    ∃ data : List (List UInt8),
      s.callbacks.callsOf id = .onAccept id :: data.map (.onReceive id) ∧
      ∀ x, Sharing (partOf id (s.position x)) := by
  have standing := standing_here phase here
  rw [serving] at standing
  cases standing with
  | early silent x greeting => exact absurd greeting (inTurn_parts turn x).1
  | serving data begun workers => exact ⟨data, begun, workers⟩
  | late data done gone =>
    rcases gone with absent | ⟨x, leaving⟩
    · exact absurd turn.1 absent
    · exact absurd leaving (inTurn_parts turn x).2

/- Outside its turn, a call comes before mOnAccept or after mOnDisconnect. -/
theorem out_of_turn_not_orderly {s : EpollWorkers W} {w : W} {id : SessionID}
    {stage : HandlerStage} (phase : Phase s id) (here : s.position w = some (id, stage))
    (serving : stage.part = .serving) (out : ¬InTurn s id)
    {call : Callback} (other : call ≠ .onAccept id) :
    ¬Callbacks.Orderly id (s.callbacks.callsOf id ++ [call]) := by
  have standing := standing_here phase here
  rw [serving] at standing
  cases standing with
  | early silent x greeting =>
    rw [silent]
    exact Callbacks.not_orderly_first other
  | serving data begun workers listed =>
    exact absurd (inTurn_of_served workers listed) out
  | late data done gone =>
    rw [done]
    exact Callbacks.not_orderly_after data call

variable [DecidableEq W]

theorem sameFor_moved {s t : EpollWorkers W} {w : W} {id : SessionID}
    {position : Option (SessionID × HandlerStage)}
    (moved : t.position = (s.moveTo w position).position)
    (part : partOf id position = partOf id (s.position w))
    (calls : t.callbacks.callsOf id = s.callbacks.callsOf id)
    (listed : id ∈ t.mSessionManager.mSessions ↔ id ∈ s.mSessionManager.mSessions)
    (watched : ∀ socket, t.interest.lookup socket = some id →
      s.interest.lookup socket = some id) : SameFor id s t := by
  constructor
  · exact calls
  · intro other
    rw [moved]
    exact view_moveTo (partOf id) part other
  · exact listed
  · exact watched

theorem registered_phase {s : EpollWorkers W} {w : W} {id : SessionID} {socket : Fd}
    (phase : Phase s id) (here : s.position w = some (id, .registerSocket socket)) :
    Phase { s.moveTo w (some (id, .onAccept)) with
      interest := s.interest.insert socket id } id := by
  cases standing_here phase here with
  | entering silent alone unwatched listed =>
    apply Phase.greeting w
    · exact silent
    · rw [position_moveTo_self]
      exact partOf_self id .onAccept
    · intro other different
      rw [position_moveTo_ne different]
      exact Or.inl (alone other different)
    · exact listed

theorem unregistered_phase {s : EpollWorkers W} {w : W} {id : SessionID} {socket : Fd}
    (phase : Phase s id) (here : s.position w = some (id, .registerSocket socket)) (closed : Fd) :
    Phase ((s.closeSocket closed).moveTo w none) id := by
  cases standing_here phase here with
  | entering silent alone unwatched listed =>
    apply Phase.unseen
    constructor
    · exact silent
    · intro other
      by_cases same : other = w
      · rw [same, position_moveTo_self, partOf_none]
      · rw [position_moveTo_ne same]
        exact alone other same
    · intro socket watched
      exact unwatched socket (watched_closeSocket watched)

theorem greeted_phase {s : EpollWorkers W} {w : W} {id : SessionID} (phase : Phase s id)
    (here : s.position w = some (id, .onAccept)) :
    Phase ((s.moveTo w none).tell (.onAccept id)) id := by
  cases standing_here phase here with
  | greeting silent others listed =>
    apply Phase.served []
    · rw [callsOf_tell, callbacks_moveTo, silent]
      exact if_pos rfl
    · intro other
      rw [position_tell]
      by_cases same : other = w
      · rw [same, position_moveTo_self]
        exact Or.inl rfl
      · rw [position_moveTo_ne same]
        exact others other same
    · exact listed

theorem delivered_phase {s : EpollWorkers W} {w : W} {id : SessionID} {bytesRead : Nat}
    (phase : Phase s id) (here : s.position w = some (id, .onReceive bytesRead))
    (turn : InTurn s id) (data : List UInt8) :
    Phase ((s.moveTo w (some (id, .recv))).tell (.onReceive id data)) id := by
  obtain ⟨earlier, begun, workers⟩ := served_of_turn phase here rfl turn
  apply Phase.served (earlier ++ [data])
  · rw [callsOf_tell, callbacks_moveTo, begun]
    simp [Callback.session]
  · intro other
    rw [position_tell]
    by_cases same : other = w
    · rw [same, position_moveTo_self]
      exact Or.inr (partOf_self id .recv)
    · rw [position_moveTo_ne same]
      exact workers other
  · exact turn.1

theorem dismissed_phase {s : EpollWorkers W} {w : W} {id : SessionID} (phase : Phase s id)
    (here : s.position w = some (id, .onDisconnect)) (turn : InTurn s id) :
    Phase ((s.moveTo w (some (id, .closeSocket))).tell (.onDisconnect id)) id := by
  obtain ⟨data, begun, workers⟩ := served_of_turn phase here rfl turn
  have leaving : partOf id (((s.moveTo w (some (id, .closeSocket))).tell
      (.onDisconnect id)).position w) = some .leaving := by
    rw [position_tell, position_moveTo_self]
    exact partOf_self id .closeSocket
  apply Phase.left data
  · rw [callsOf_tell, callbacks_moveTo, begun]
    simp [Callback.session]
  · intro other
    by_cases same : other = w
    · rw [same, leaving]
      constructor <;> decide
    · rw [position_tell, position_moveTo_ne same]
      exact sharing_not_accepting (workers other)
  · exact Or.inr ⟨w, leaving⟩

theorem removed_phase {s : EpollWorkers W} {w : W} {id : SessionID} (phase : Phase s id)
    (here : s.position w = some (id, .removeSession)) :
    Phase { s.moveTo w none with
      mSessionManager := (s.mSessionManager.removeSession id).2 } id := by
  cases standing_here phase here with
  | leaving data done workers =>
    apply Phase.left data
    · exact done
    · intro other
      by_cases same : other = w
      · subst same
        simp
      · simp only [position_moveTo_ne same]
        exact workers other
    · exact Or.inl fun present => (SessionManager.mem_removeSession.mp present).1 rfl

end EpollWorkers
end KanchoNet
