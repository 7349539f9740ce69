import KanchoNet.Lib.Interleavings
import KanchoNet.Network.IOUringServer

/-!
An IOUringModel with any number of threads, as if the ring served one of them at a time.
A worker stands inside the callback of a handler until the application returns; there
and outside of handlers threads call Send, and a Send that gets stuck keeps its thread.
-/
namespace KanchoNet
open GuardedSections Interleavings LabelledRuns

namespace IOUringWorkers
open IOUringModel

inductive Rest where
  | accept (id : SessionID)
  | receive (id : SessionID) (data : List UInt8)
  | disconnect (id : SessionID)

/-- A callback counts the Sends that have returned to it. Who waits for good is in a Send,
    and will not do what its handler still had to. -/
inductive Place where
  | outside
  | callback (ctx : IOUringContext) (rest : Rest) (sends : Nat)
  | waiting (rest : Option Rest)

inductive Event where
  | complete (index : Nat) (result : Int32) (received : List UInt8) (answers : CompletionAnswers)
  | send (id : SessionID) (packet : PacketBuffer) (answers : SubmitAnswers)
  | returns (answers : SubmitAnswers)

def Rest.calls : Rest → Callbacks → Bool
  | .accept _, callbacks => callbacks.mOnAccept
  | .receive _ _, callbacks => callbacks.mOnReceive
  | .disconnect _, callbacks => callbacks.mOnDisconnect

def acceptUntilCallback (clientSocket : Fd) (a : SubmitAnswers) (m : IOUringModel) :
    Outcome IOUringModel (Option Rest) :=
  match m.mSessionManager.addSession clientSocket .default with
  | (none, mSessionManager) =>
    .done none { m with mSessionManager, closed := m.closed ++ [clientSocket] }
  | (some id, mSessionManager) =>
    let session := Session.accepted id clientSocket .default
    let m := { m with
      mSessionManager := mSessionManager.store id session
      mSocketToSession := m.mSocketToSession.insert clientSocket id }
    let (submitted, m) := m.submitReceive id a
    if ¬submitted then .done none (m.closeSession session)
    else .done (some (.accept id)) { m with callbacks := m.callbacks.onAccept id }

def disconnectUntilCallback (id : SessionID) (m : IOUringModel) :
    Outcome IOUringModel (Option Rest) :=
  match m.mSessionManager.getSession id with
  | none => .undefined
  | some session =>
    if session.isDisconnected then .done none m
    else
      let m := m.setSession id (session.setState .disconnected)
      .done (some (.disconnect id)) { m with callbacks := m.callbacks.onDisconnect id }

/-- The handler of a completion, up to its callback. A send completion, which calls back
    under the session's lock, is left whole. -/
def untilCallback (ctx : IOUringContext) (result : Int32) (received : List UInt8)
    (a : CompletionAnswers) (m : IOUringModel) : Outcome IOUringModel (Option Rest) :=
  match ctx.operation with
  | .accept =>
    let (_, m) := m.submitAccept a.accept
    if result < 0 then .done none m else acceptUntilCallback result.toBitVec a.session m
  | .receive =>
    match ctx.session with
    | none => .done none m
    | some id =>
      match m.mSessionManager.getSession id with
      | none => .undefined
      | some session =>
        if ¬session.isConnected then .done none m
        else if 0 < result then
          let data := received.take result.toNatClampNeg
          .done (some (.receive id data)) { m with callbacks := m.callbacks.onReceive id data }
        else disconnectUntilCallback id m
  | .send => (m.processSendCompletion ctx result a.session).bind fun _ m => .done none m
  | .disconnect => .done none m

def behindCallback (rest : Rest) (a : SubmitAnswers) (m : IOUringModel) : Option IOUringModel :=
  match rest with
  -- the log line reads the id of the session
  | .accept id => (m.mSessionManager.getSession id).map fun _ => m
  | .receive id _ => (m.mSessionManager.getSession id).map fun _ => (m.submitReceive id a).2
  | .disconnect id => (m.mSessionManager.getSession id).map fun session =>
    { m with
      mSocketToSession := m.mSocketToSession.erase session.mSocket
      closed := m.closed ++ [session.mSocket]
      mSessionManager := (m.mSessionManager.removeSession id).2 }

def deallocate (ctx : IOUringContext) (m : IOUringModel) : IOUringModel :=
  { m with deallocated := m.deallocated ++ [ctx.address] }

def leave (ctx : IOUringContext) (rest : Rest) (a : SubmitAnswers) (m : IOUringModel) :
    Option (IOUringModel × Place) :=
  (behindCallback rest a m).map fun m => (deallocate ctx m, .outside)

def processCompletion (ctx : IOUringContext) (result : Int32) (received : List UInt8)
    (a : CompletionAnswers) (m : IOUringModel) : Option (IOUringModel × Place) :=
  if ctx.address ∈ m.deallocated then none
  else
    match untilCallback ctx result received a m with
    | .undefined => none
    | .stuck m => some (m, .waiting none)
    | .done none m => some (deallocate ctx m, .outside)
    | .done (some rest) m =>
      if rest.calls m.callbacks then some (m, .callback ctx rest 0) else leave ctx rest a.session m

def Place.returned : Place → Place
  | .callback ctx rest sends => .callback ctx rest (sends + 1)
  | place => place

def Place.blocked : Place → Place
  | .outside => .waiting none
  | .callback _ rest _ => .waiting (some rest)
  | .waiting rest => .waiting rest

theorem blocked_waits (place : Place) : ∃ rest, place.blocked = .waiting rest := by
  cases place with
  | outside => exact ⟨none, rfl⟩
  | callback _ rest _ => exact ⟨some rest, rfl⟩
  | waiting rest => exact ⟨rest, rfl⟩

def sent (place : Place) : Outcome IOUringModel Bool → Option (IOUringModel × Place)
  | .done _ m => some (m, place.returned)
  | .stuck m => some (m, place.blocked)
  | .undefined => none

/-- recv counts the bytes it writes to the buffer of its context, and clients are accepted
    while session ids have not run out. -/
def Arrives (ctx : IOUringContext) (result : Int32) (received : List UInt8) (m : IOUringModel) :
    Prop :=
  (ctx.operation = .accept → m.mSessionManager.mNextSessionID.toNat + 1 < 2 ^ 64) ∧
  (ctx.operation = .receive →
    received.length = result.toNatClampNeg ∧ received.length ≤ ctx.buffer.length)

instance (ctx : IOUringContext) (result : Int32) (received : List UInt8) (m : IOUringModel) :
    Decidable (Arrives ctx result received m) :=
  inferInstanceAs (Decidable ((_ → _) ∧ (_ → _)))

def move (m : IOUringModel) : Place → Event → Option (IOUringModel × Place)
  | .outside, .complete index result received a =>
    match m.inflight[index]? with
    | none => none
    | some ctx =>
      if Arrives ctx result received m then
        processCompletion ctx result received a { m with inflight := m.inflight.eraseIdx index }
      else none
  | .outside, .send id packet a => sent .outside (m.send id packet a)
  | .callback ctx rest sends, .send id packet a =>
    sent (.callback ctx rest sends) (m.send id packet a)
  | .callback ctx rest _, .returns a => leave ctx rest a m
  | _, _ => none

def started (T : Type) (m : IOUringModel) : Threads T IOUringModel Place := ⟨m, fun _ => .outside⟩

def continued (a : SubmitAnswers) (rest : Option Rest) (m : IOUringModel) :
    Outcome IOUringModel Unit :=
  match rest with
  | none => .done () m
  | some rest =>
    match behindCallback rest a m with
    | none => .undefined
    | some m => .done () m

def resumed (a : SubmitAnswers) : IOUringModel × Place → Option IOUringModel
  | (m, .callback ctx rest _) => (leave ctx rest a m).map Prod.fst
  | (m, _) => some m

theorem acceptUntilCallback_whole (clientSocket : Fd) (a : SubmitAnswers) (m : IOUringModel) :
    ∃ rest, acceptUntilCallback clientSocket a m = .done rest (acceptClient clientSocket a m) ∧
      (rest = none ∨ ∃ id, rest = some (.accept id)) ∧
      ∀ b, continued b rest (acceptClient clientSocket a m) =
        .done () (acceptClient clientSocket a m) := by
  unfold acceptUntilCallback acceptClient
  rcases SessionManager.addSession_cases m.mSessionManager clientSocket .default with
    full | ⟨t, added, _, _⟩
  · rw [full]
    exact ⟨none, rfl, Or.inl rfl, fun _ => rfl⟩
  · rw [added]
    dsimp only
    split
    · exact ⟨none, rfl, Or.inl rfl, fun _ => rfl⟩
    · refine ⟨_, rfl, Or.inr ⟨_, rfl⟩, fun b => ?_⟩
      have listed := SessionManager.getSession_store_self t m.mSessionManager.mNextSessionID
        (Session.accepted m.mSessionManager.mNextSessionID clientSocket .default)
      rw [continued, behindCallback]
      dsimp only
      rw [(submitReceive_keeps _ _ _).1]
      simp only [listed, Option.map_some]

theorem disconnectUntilCallback_whole (id : SessionID) (a : SubmitAnswers) (m : IOUringModel) :
    (disconnectUntilCallback id m).bind (continued a) = m.processDisconnect id := by
  unfold disconnectUntilCallback processDisconnect
  cases found : m.mSessionManager.getSession id with
  | none => rfl
  | some session =>
    dsimp only
    split
    · rfl
    · simp only [Outcome.bind, continued, behindCallback, setSession,
        SessionManager.getSession_store_self, Option.map_some]
      rfl

theorem receive_whole (ctx : IOUringContext) (result : Int32) (received : List UInt8)
    (a : CompletionAnswers) (m : IOUringModel) (kind : ctx.operation = .receive) :
    (untilCallback ctx result received a m).bind (continued a.session) =
      processReceiveCompletion ctx result received a.session m := by
  unfold untilCallback processReceiveCompletion
  rw [kind]
  dsimp only
  cases ctx.session with
  | none => rfl
  | some id =>
    dsimp only
    cases found : m.mSessionManager.getSession id with
    | none => rfl
    | some session =>
      dsimp only
      split
      · rfl
      · split
        · simp only [Outcome.bind, continued, behindCallback, found, Option.map_some]
        · exact disconnectUntilCallback_whole id a.session m

theorem leave_continued (ctx : IOUringContext) (rest : Rest) (a : SubmitAnswers)
    (m : IOUringModel) : (leave ctx rest a m).map Prod.fst =
      ((continued a (some rest) m).bind fun _ m => .done () (deallocate ctx m)).leaves := by
  cases run : behindCallback rest a m with
  | none => simp [leave, continued, run, Outcome.bind, Outcome.leaves]
  | some t => simp [leave, continued, run, Outcome.bind, Outcome.leaves]

/-- When the application makes no Send in its callbacks, a worker that is not interrupted
    handles a completion as IOUringModel does. -/
theorem processCompletion_whole (ctx : IOUringContext) (result : Int32) (received : List UInt8)
    (a : CompletionAnswers) (m : IOUringModel) :
    (processCompletion ctx result received a m).bind (resumed a.session) =
      (IOUringModel.processCompletion ctx result received a m).leaves := by
  have parts : (untilCallback ctx result received a m).bind (continued a.session) =
      match ctx.operation with
      | .accept => .done () (m.processAcceptCompletion result a)
      | .receive => m.processReceiveCompletion ctx result received a.session
      | .send => m.processSendCompletion ctx result a.session
      | .disconnect => .done () m := by
    cases kind : ctx.operation with
    | accept =>
      simp only [untilCallback, kind, processAcceptCompletion]
      split
      · rfl
      · obtain ⟨rest, ran, _, ends⟩ := acceptUntilCallback_whole result.toBitVec a.session
          (m.submitAccept a.accept).2
        rw [ran]
        exact ends a.session
    | receive => exact receive_whole ctx result received a m kind
    | send =>
      simp only [untilCallback, kind]
      cases m.processSendCompletion ctx result a.session <;> rfl
    | disconnect => simp only [untilCallback, kind, Outcome.bind, continued]
  unfold processCompletion IOUringModel.processCompletion
  split
  · rfl
  · refine Eq.trans ?_ (congrArg (fun handled =>
      (handled.bind fun _ m => Outcome.done () (deallocate ctx m)).leaves) parts)
    cases untilCallback ctx result received a m with
    | undefined => rfl
    | stuck t => rfl
    | done rest t =>
      cases rest with
      | none => rfl
      | some rest =>
        refine Eq.trans ?_ (leave_continued ctx rest a.session t)
        dsimp only
        split
        · rfl
        · cases run : behindCallback rest a.session t with
          | none => simp [leave, run]
          | some u => simp [leave, run, resumed]

end IOUringWorkers
end KanchoNet
