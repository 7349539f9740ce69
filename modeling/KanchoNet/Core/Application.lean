import KanchoNet.Core.NetworkEngine

/-!
An application on NetworkEngine over EpollModel, run by one worker: the handlers of the
model with the callbacks the application overrides called inside them, which may call
Send on the engine. wire logs the bytes that send() took from each session.
-/
namespace KanchoNet
open GuardedSections LabelledRuns

structure Deployed (α : Type) where
  engine : NetworkEngine
  members : α
  wire : List (SessionID × List UInt8)

/-- What epoll_ctl answers to the Sends of a callback. Only the first Send of a session
    asks it. -/
abbrev Grants := SessionID → Bool

structure Application (α : Type) where
  onAccept : SessionID → Grants → Deployed α → Outcome (Deployed α) Unit
  onReceive : SessionID → List UInt8 → Grants → Deployed α → Outcome (Deployed α) Unit
  onDisconnect : SessionID → Grants → Deployed α → Outcome (Deployed α) Unit

namespace Deployed
variable {α : Type}

def model (s : Deployed α) : EpollServer := s.engine.mNetworkModel

def withModel (s : Deployed α) (m : EpollServer) : Deployed α :=
  { s with engine := { s.engine with mNetworkModel := m } }

def send (id : SessionID) (data : List UInt8) (granted : Bool) (s : Deployed α) :
    Outcome (Deployed α) Bool :=
  (s.engine.sendBytes (some id) ⟨some data, UInt64.ofNat data.length, by
    rintro bytes ⟨⟩
    rw [UInt64.toNat_ofNat']
    exact Nat.mod_le _ _⟩ granted).within fun engine => { s with engine }

def modelLock (id : SessionID) : Lock (Deployed α) where
  held s := (EpollServer.sessionLock id).held s.model
  set flag s := s.withModel ((EpollServer.sessionLock id).set flag s.model)

@[simp] theorem model_withModel (s : Deployed α) (m : EpollServer) : (s.withModel m).model = m :=
  rfl

@[simp] theorem withModel_withModel (s : Deployed α) (m m' : EpollServer) :
    (s.withModel m).withModel m' = s.withModel m' := rfl

@[simp] theorem wire_withModel (s : Deployed α) (m : EpollServer) : (s.withModel m).wire = s.wire :=
  rfl

@[simp] theorem withModel_model (s : Deployed α) : s.withModel s.model = s := rfl

end Deployed

namespace Application
variable {α : Type}

def silent : Application α where
  onAccept _ _ s := .done () s
  onReceive _ _ _ s := .done () s
  onDisconnect _ _ s := .done () s

def acceptClient (a : Application α) (client : AcceptedClient) (grants : Grants)
    (s : Deployed α) : Outcome (Deployed α) Unit :=
  let m := s.model.openDescriptor client.socket
  match m.mSessionManager.addSession client.socket .default with
  | (none, mSessionManager) =>
    .done () (s.withModel { m.closeDescriptor client.socket with mSessionManager })
  | (some id, mSessionManager) =>
    let session := Session.accepted id client.socket .default
    let m := { m with mSessionManager := mSessionManager.store id session }
    let mSocketToSession := m.registry.mSocketToSession.insert client.socket (sessionPtr id)
    let (registered, registry) := { m.registry with mSocketToSession }.registerSocket
      client.socket (sessionPtr id) (EPOLLIN ||| EPOLLET) client.granted
    let m := { m with registry }
    if ¬registered then .done () (s.withModel (m.closeSession session))
    else
      let s := s.withModel { m with callbacks := m.callbacks.onAccept id }
      if s.model.callbacks.mOnAccept then a.onAccept id grants s else .done () s

/-- The end of ProcessDisconnect, behind the callback. -/
def eraseSession (id : SessionID) (s : Deployed α) : Outcome (Deployed α) Unit :=
  match s.model.mSessionManager.getSession id with
  | none => .undefined
  | some session =>
    let m := { s.model.closeDescriptor session.mSocket with
      registry := s.model.registry.closeSocket session.mSocket }
    .done () (s.withModel { m with mSessionManager := (m.mSessionManager.removeSession id).2 })

def processDisconnect (a : Application α) (id : SessionID) (grants : Grants)
    (s : Deployed α) : Outcome (Deployed α) Unit :=
  match s.model.mSessionManager.getSession id with
  | none => .undefined
  | some session =>
    if session.isDisconnected then .done () s
    else
      let m := s.model.setSession id (session.setState .disconnected)
      let s := s.withModel { m with callbacks := m.callbacks.onDisconnect id }
      (if s.model.callbacks.mOnDisconnect then a.onDisconnect id grants s
        else .done () s).bind fun _ s => eraseSession id s

/-- The loop of ProcessReceive from its turn on; each call of mOnReceive has grants of
    its own. -/
def recvLoop (a : Application α) (id : SessionID) (grants : Nat → Grants) :
    RecvAnswers → Nat → Deployed α → Outcome (Deployed α) Unit
  | .received data _ _ next, turn, s =>
    let s := s.withModel { s.model with callbacks := s.model.callbacks.onReceive id data }
    (if s.model.callbacks.mOnReceive then a.onReceive id data (grants turn) s
      else .done () s).bind fun _ s => recvLoop a id grants next (turn + 1) s
  | .closed, turn, s => a.processDisconnect id (grants turn) s
  | .wouldBlock, _, s => .done () s
  | .failed, turn, s => a.processDisconnect id (grants turn) s

def processReceive (a : Application α) (id : SessionID) (answers : RecvAnswers)
    (grants : Nat → Grants) (s : Deployed α) : Outcome (Deployed α) Unit :=
  match s.model.mSessionManager.getSession id with
  | none => .undefined
  | some session =>
    if ¬session.isConnected then .done () s else a.recvLoop id grants answers 0 s

def drain (id : SessionID) (answers : SendAnswers) (granted : Bool) (s : Deployed α) :
    Outcome (Deployed α) LoopEnd :=
  match s.model.mSessionManager.getSession id with
  | none => .undefined
  | some session =>
    let result := EpollModel.sendLoop answers granted 0 ⟨session, s.model.registry⟩
    let s := s.withModel { s.model with
      mSessionManager := s.model.mSessionManager.store id result.peer.session
      registry := result.peer.registry }
    .done result.ending { s with wire := s.wire ++ [(id, result.wire)] }

def processSend (a : Application α) (id : SessionID) (answers : SendAnswers) (granted : Bool)
    (grants : Grants) (s : Deployed α) : Outcome (Deployed α) Unit :=
  guarded (Deployed.modelLock id) (fun s =>
    (drain id answers granted s).bind fun ending s =>
      if ending = .disconnect then a.processDisconnect id grants s else .done () s) s

inductive Event where
  | acceptClient (client : AcceptedClient) (grants : Grants)
  | receive (id : SessionID) (answers : RecvAnswers) (grants : Nat → Grants)
  | writable (id : SessionID) (answers : SendAnswers) (granted : Bool) (grants : Grants)
  | hangUp (id : SessionID) (grants : Grants)

def Event.accepts : Event → Bool
  | .acceptClient _ _ => true
  | _ => false

/-- One turn of the loop of ProcessAccept or an event of a registered session, while the
    engine and its model run. -/
def step (a : Application α) (s : Deployed α) (e : Event) : Option (Deployed α) :=
  if ¬s.engine.mRunning ∨ ¬s.model.mRunning then none
  else
    match e with
    | .acceptClient client grants => (a.acceptClient client grants s).leaves
    | .receive id answers grants =>
      if s.model.registered id then (a.processReceive id answers grants s).leaves else none
    | .writable id answers granted grants =>
      if s.model.registered id then (a.processSend id answers granted grants s).leaves else none
    | .hangUp id grants =>
      if s.model.registered id then (a.processDisconnect id grants s).leaves else none

def Event.below : Event → EpollServer.Event
  | .acceptClient client _ => .acceptClient client
  | .receive id answers _ => .receive id answers
  | .writable id answers granted _ => .writable id answers granted
  | .hangUp id _ => .hangUp id

theorem acceptClient_full (a : Application α) (client : AcceptedClient) (grants : Grants)
    {s : Deployed α}
    (full : s.model.mSessionManager.mMaxSessions.toNat ≤ s.model.mSessionManager.getSessionCount) :
    a.acceptClient client grants s = .done () (s.withModel (s.model.refused client.socket)) := by
  simp only [acceptClient, EpollServer.openDescriptor, SessionManager.addSession_of_full full]
  exact congrArg (fun m => Outcome.done () (s.withModel m))
    (EpollServer.close_opened client.socket s.model)

theorem acceptClient_room (a : Application α) (client : AcceptedClient) (grants : Grants)
    {s : Deployed α}
    (room : ¬s.model.mSessionManager.mMaxSessions.toNat ≤ s.model.mSessionManager.getSessionCount) :
    a.acceptClient client grants s =
      if client.granted = true ∧ client.socket ∉ s.model.registry.interest then
        let s' := s.withModel (s.model.admitted client.socket)
        if s'.model.callbacks.mOnAccept then
          a.onAccept s.model.mSessionManager.mNextSessionID grants s'
        else .done () s'
      else .done () (s.withModel (s.model.abandoned client.socket)) := by
  simp only [acceptClient, EpollServer.openDescriptor, SessionManager.addSession_of_room room,
    EpollServer.registerSocket_mapped]
  by_cases granted : client.granted = true ∧ client.socket ∉ s.model.registry.interest
  · simp only [if_pos granted]
    rfl
  · have closed : (client.socket :: s.model.descriptors).filter (· ≠ client.socket) =
        s.model.descriptors.filter (· ≠ client.socket) := List.filter_cons_of_neg (by simp)
    simp only [if_neg granted]
    exact congrArg (fun descriptors => Outcome.done ()
      (s.withModel { s.model.abandoned client.socket with descriptors })) closed

section Silent
variable (s : Deployed α)

theorem acceptClient_silent (client : AcceptedClient) (grants : Grants) :
    (silent.acceptClient client grants s).within Deployed.model =
      .done () (s.model.acceptClient client) := by
  by_cases full :
      s.model.mSessionManager.mMaxSessions.toNat ≤ s.model.mSessionManager.getSessionCount
  · rw [acceptClient_full silent client grants full, EpollServer.acceptClient_full client full]
    rfl
  · rw [acceptClient_room silent client grants full, EpollServer.acceptClient_room client full]
    split
    · dsimp only [silent]
      rw [ite_self]
      rfl
    · rfl

theorem processDisconnect_silent (id : SessionID) (grants : Grants) :
    (silent.processDisconnect id grants s).within Deployed.model =
      s.model.processDisconnect id := by
  unfold processDisconnect EpollServer.processDisconnect
  cases found : s.model.mSessionManager.getSession id with
  | none => rfl
  | some session =>
    dsimp only [silent]
    by_cases gone : session.isDisconnected = true
    · rw [if_pos gone, if_pos gone]
      rfl
    · rw [if_neg gone, if_neg gone, ite_self]
      simp only [Outcome.bind, eraseSession, Deployed.model_withModel, EpollServer.setSession,
        SessionManager.getSession_store_self]
      rfl

theorem recvLoop_silent (id : SessionID) (grants : Nat → Grants) (answers : RecvAnswers)
    (turn : Nat) : (silent.recvLoop id grants answers turn s).within Deployed.model =
      EpollServer.recvLoop id answers s.model := by
  induction answers generalizing turn s with
  | received data positive within next ih =>
    rw [recvLoop]
    dsimp only [silent]
    rw [ite_self]
    exact ih _ (turn + 1)
  | closed => exact processDisconnect_silent s id (grants turn)
  | wouldBlock => rfl
  | failed => exact processDisconnect_silent s id (grants turn)

theorem processReceive_silent (id : SessionID) (answers : RecvAnswers) (grants : Nat → Grants) :
    (silent.processReceive id answers grants s).within Deployed.model =
      s.model.processReceive id answers := by
  unfold processReceive EpollServer.processReceive
  cases found : s.model.mSessionManager.getSession id with
  | none => rfl
  | some session =>
    dsimp only
    by_cases connected : session.isConnected = true
    · rw [if_neg (not_not.mpr connected), if_neg (not_not.mpr connected)]
      exact recvLoop_silent s id grants answers 0
    · rw [if_pos connected, if_pos connected]
      rfl

theorem drain_within (id : SessionID) (answers : SendAnswers) (granted : Bool) :
    (drain id answers granted s).within Deployed.model =
      s.model.onSession id fun p =>
        let result := EpollModel.sendLoop answers granted 0 p
        .done result.ending result.peer := by
  unfold drain EpollServer.onSession
  cases found : s.model.mSessionManager.getSession id <;> rfl

theorem processSend_silent (id : SessionID) (answers : SendAnswers) (granted : Bool)
    (grants : Grants) : (silent.processSend id answers granted grants s).within Deployed.model =
      s.model.processSend id answers granted := by
  unfold processSend EpollServer.processSend
  apply guarded_within
  · exact fun _ => rfl
  · exact fun _ _ => rfl
  · intro t
    rw [within_bind (fun ending m =>
      if ending = .disconnect then m.processDisconnect id else .done () m), drain_within]
    intro ending u
    split
    · exact processDisconnect_silent u id grants
    · rfl

/-- Under an application that overrides nothing the engine's model is the model alone. -/
theorem step_silent (running : s.engine.mRunning = true) (e : Event) :
    (step silent s e).map Deployed.model = EpollServer.step s.model e.below := by
  unfold step EpollServer.step
  by_cases listens : s.model.mRunning = true
  · simp only [running, listens, not_true_eq_false, or_self, if_false]
    cases e with
    | acceptClient client grants =>
      exact (leaves_within _ _).symm.trans
        (congrArg Outcome.leaves (acceptClient_silent s client grants))
    | receive id answers grants =>
      dsimp only [Event.below]
      split
      · exact (leaves_within _ _).symm.trans
          (congrArg Outcome.leaves (processReceive_silent s id answers grants))
      · rfl
    | writable id answers granted grants =>
      dsimp only [Event.below]
      split
      · exact (leaves_within _ _).symm.trans
          (congrArg Outcome.leaves (processSend_silent s id answers granted grants))
      · rfl
    | hangUp id grants =>
      dsimp only [Event.below]
      split
      · exact (leaves_within _ _).symm.trans
          (congrArg Outcome.leaves (processDisconnect_silent s id grants))
      · rfl
  · rw [if_pos (Or.inr listens), if_pos listens]
    rfl

end Silent

end Application
end KanchoNet
