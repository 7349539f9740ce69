import KanchoNet.Lib.ReplyingMachines
import KanchoNet.Network.EpollIndexes
import KanchoNet.Network.EpollViews

/-!
NetworkEngine over EpollModel, called by one thread. What Stop brings back: the flags
of the engine and of the model, and all that a later Initialize builds on.
-/
namespace KanchoNet
open GuardedSections LabelledRuns ReplyingMachines

structure NetworkEngine where
  mInitialized : Bool
  mRunning : Bool
  mConfig : EngineConfig
  mNetworkModel : EpollServer

inductive EngineCall where
  | initializeEngine (config : EngineConfig) (answers : InitializeAnswers)
  | start (listens granted : Bool)
  | processIo (wait : WaitAnswer)
  | send (session : Option SessionID) (packet : PacketBuffer) (granted : Bool)
  | sendBytes (session : Option SessionID) (data : RingBuffer.Argument) (granted : Bool)
  | stop

namespace NetworkEngine

def construct : NetworkEngine := ⟨false, false, .default, EpollServer.construct⟩

def initializeEngine (config : EngineConfig) (a : InitializeAnswers) (e : NetworkEngine) :
    Bool × NetworkEngine :=
  if e.mInitialized then (false, e)
  else if ¬config.validate then (false, e)
  else
    let (initialized, mNetworkModel) := e.mNetworkModel.setCallbacks.initializeModel config a
    let e := { e with mConfig := config, mNetworkModel }
    if ¬initialized then (false, e) else (true, { e with mInitialized := true })

def start (listens granted : Bool) (e : NetworkEngine) : Bool × NetworkEngine :=
  if ¬e.mInitialized ∨ e.mRunning then (false, e)
  else
    let (listening, mNetworkModel) := e.mNetworkModel.startListen listens granted
    let e := { e with mNetworkModel }
    if ¬listening then (false, e) else (true, { e with mRunning := true })

def stop (e : NetworkEngine) : NetworkEngine :=
  if ¬e.mRunning then e
  else { e with
    mRunning := false
    mNetworkModel := e.mNetworkModel.shutdown
    mInitialized := false }

def onModel (e : NetworkEngine) (o : Outcome EpollServer Bool) : Outcome NetworkEngine Bool :=
  o.within fun mNetworkModel => { e with mNetworkModel }

def processIo (wait : WaitAnswer) (e : NetworkEngine) : Outcome NetworkEngine Bool :=
  if ¬e.mRunning then .done false e else e.onModel (e.mNetworkModel.processIo wait)

def send (session : Option SessionID) (packet : PacketBuffer) (granted : Bool)
    (e : NetworkEngine) : Outcome NetworkEngine Bool :=
  match session with
  | none => .done false e
  | some id =>
    if ¬e.mRunning then .done false e
    else e.onModel (e.mNetworkModel.send id packet granted)

def sendBytes (session : Option SessionID) (data : RingBuffer.Argument) (granted : Bool)
    (e : NetworkEngine) : Outcome NetworkEngine Bool :=
  match session, data with
  | some id, ⟨some bytes, size, reaches⟩ =>
    if ¬e.mRunning ∨ size = 0 then .done false e
    else e.onModel (e.mNetworkModel.send id (PacketBuffer.ofBytes bytes size (reaches bytes rfl))
      granted)
  | _, _ => .done false e

def call (e : NetworkEngine) : EngineCall → Outcome NetworkEngine Bool
  | .initializeEngine config answers =>
    .done (e.initializeEngine config answers).1 (e.initializeEngine config answers).2
  | .start listens granted => .done (e.start listens granted).1 (e.start listens granted).2
  | .processIo wait => e.processIo wait
  | .send session packet granted => e.send session packet granted
  | .sendBytes session data granted => e.sendBytes session data granted
  | .stop => .done true e.stop

def quiet (e : NetworkEngine) : NetworkEngine :=
  { e with mNetworkModel := { e.mNetworkModel with
    callbacks := { e.mNetworkModel.callbacks with calls := [] } } }

def answer (e : NetworkEngine) (c : EngineCall) : Option ((Bool × List Callback) × NetworkEngine) :=
  match e.quiet.call c with
  | .done result e => some ((result, e.mNetworkModel.callbacks.calls), e)
  | .stuck _ => none
  | .undefined => none

end NetworkEngine

namespace EpollServer

theorem handled_flags {id : SessionID} {m m' : EpollServer} (handled : Handled id m m') :
    m'.mInitialized = m.mInitialized ∧ m'.mRunning = m.mRunning := by
  rcases handled with touched | ⟨m₁, session, touched, _, _, rfl⟩
  · exact touched.flags
  · exact touched.flags

theorem acceptClient_flags (client : AcceptedClient) (m : EpollServer) :
    (m.acceptClient client).mInitialized = m.mInitialized ∧
    (m.acceptClient client).mRunning = m.mRunning := by
  by_cases full : m.mSessionManager.mMaxSessions.toNat ≤ m.mSessionManager.getSessionCount
  · rw [acceptClient_full client full]
    exact ⟨rfl, rfl⟩
  · rw [acceptClient_room client full]
    split <;> exact ⟨rfl, rfl⟩

theorem processAccept_flags (answers : AcceptAnswers) (m : EpollServer) :
    (m.processAccept answers).mInitialized = m.mInitialized ∧
    (m.processAccept answers).mRunning = m.mRunning := by
  induction answers generalizing m with
  | client client rest ih =>
    obtain ⟨initialized, running⟩ := acceptClient_flags client m
    obtain ⟨initialized', running'⟩ := ih (m.acceptClient client)
    exact ⟨initialized'.trans initialized, running'.trans running⟩
  | wouldBlock => exact ⟨rfl, rfl⟩
  | failed => exact ⟨rfl, rfl⟩

theorem handleEvent_flags {event : ReadyEvent} {m m' : EpollServer}
    (next : (m.handleEvent event).leaves = some m') :
    m'.mInitialized = m.mInitialized ∧ m'.mRunning = m.mRunning := by
  cases event with
  | listen answers => exact Option.some.inj next ▸ processAccept_flags answers m
  | client id events a =>
    simp only [handleEvent] at next
    split at next
    · exact handled_flags (processDisconnect_handled (Touched.refl m) next)
    · have received : ∀ u, (if events &&& EPOLLIN ≠ 0 then m.processReceive id a.recv
          else .done () m).leaves = some u →
          u.mInitialized = m.mInitialized ∧ u.mRunning = m.mRunning := by
        intro u left
        split at left
        · exact handled_flags (processReceive_handled left)
        · exact Option.some.inj left ▸ ⟨rfl, rfl⟩
      rcases bind_leaves_cases next with ⟨_, u, ran, after⟩ | stuck
      · obtain ⟨initialized, running⟩ := received u (by rw [ran]; rfl)
        split at after
        · obtain ⟨initialized', running'⟩ := handled_flags (processSend_handled after)
          exact ⟨initialized'.trans initialized, running'.trans running⟩
        · exact Option.some.inj after ▸ ⟨initialized, running⟩
      · exact received m' (by rw [stuck]; rfl)

theorem handleEvents_flags (events : List ReadyEvent) {m m' : EpollServer}
    (next : (handleEvents events m).leaves = some m') :
    m'.mInitialized = m.mInitialized ∧ m'.mRunning = m.mRunning := by
  induction events generalizing m with
  | nil => exact Option.some.inj next ▸ ⟨rfl, rfl⟩
  | cons event events ih =>
    rcases bind_leaves_cases next with ⟨_, u, ran, after⟩ | stuck
    · have handled : (m.handleEvent event).leaves = some u := by
        rw [ran]
        rfl
      obtain ⟨initialized, running⟩ := handleEvent_flags handled
      obtain ⟨initialized', running'⟩ := ih after
      exact ⟨initialized'.trans initialized, running'.trans running⟩
    · exact handleEvent_flags (by rw [stuck]; rfl)

theorem processIo_flags {wait : WaitAnswer} {m m' : EpollServer}
    (next : (m.processIo wait).leaves = some m') :
    m'.mInitialized = m.mInitialized ∧ m'.mRunning = m.mRunning := by
  unfold processIo at next
  split at next
  · exact Option.some.inj next ▸ ⟨rfl, rfl⟩
  · cases wait with
    | interrupted => exact Option.some.inj next ▸ ⟨rfl, rfl⟩
    | failed => exact Option.some.inj next ▸ ⟨rfl, rfl⟩
    | ready events =>
      rw [leaves_bind_done] at next
      exact handleEvents_flags events next

def HoldsNone (m : EpollServer) : Prop :=
  ∀ fd ∈ m.descriptors, 0 ≤ fd.toInt → fd ≠ m.registry.mListenSocket ∧ fd ≠ m.mEpollFd

/- An Initialize that fails opens nothing for good and keeps all but its handles. -/
theorem initializeModel_failed {config : EngineConfig} {a : InitializeAnswers}
    {m m' : EpollServer} (idle : m.mInitialized = false)
    (failed : m.initializeModel config a = (false, m')) :
    m'.mInitialized = false ∧ m'.mRunning = m.mRunning ∧
    m'.mSessionManager = m.mSessionManager ∧
    m'.registry.mSocketToSession = m.registry.mSocketToSession ∧
    (HoldsNone m → HoldsNone m') := by
  have negative : ∀ fd : Fd, 0 ≤ fd.toInt → fd ≠ -1 := by
    rintro fd usable rfl
    exact absurd usable (by decide)
  unfold initializeModel at failed
  rw [if_neg (by simp [idle])] at failed
  dsimp only at failed
  split at failed
  · cases failed
    refine ⟨idle, rfl, rfl, rfl, fun none fd isOpen usable => ?_⟩
    exact ⟨(none fd isOpen usable).1, negative fd usable⟩
  · split at failed
    · cases failed
      refine ⟨idle, rfl, rfl, rfl, fun none fd isOpen usable => ?_⟩
      exact ⟨negative fd usable, of_decide_eq_true (List.mem_filter.mp isOpen).2⟩
    · split at failed
      · cases failed
        refine ⟨idle, rfl, rfl, rfl, fun none fd isOpen usable => ?_⟩
        obtain ⟨isOpen, noEpoll⟩ := List.mem_filter.mp isOpen
        exact ⟨of_decide_eq_true (List.mem_filter.mp isOpen).2, of_decide_eq_true noEpoll⟩
      · cases failed

theorem initializeModel_succeeded {config : EngineConfig} {a : InitializeAnswers}
    {m m' : EpollServer} (idle : m.mInitialized = false)
    (succeeded : m.initializeModel config a = (true, m')) :
    m'.mInitialized = true ∧ m'.mRunning = m.mRunning := by
  unfold initializeModel at succeeded
  rw [if_neg (by simp [idle])] at succeeded
  dsimp only at succeeded
  split at succeeded
  · cases succeeded
  · split at succeeded
    · cases succeeded
    · split at succeeded
      · cases succeeded
      · cases succeeded
        exact ⟨rfl, rfl⟩

theorem startListen_flags {listens granted result : Bool} {m m' : EpollServer}
    (initialized : m.mInitialized = true) (silent : m.mRunning = false)
    (ran : m.startListen listens granted = (result, m')) :
    m'.mInitialized = m.mInitialized ∧ m'.mRunning = result := by
  unfold startListen at ran
  rw [if_neg (not_not.mpr initialized), if_neg (by simp [silent])] at ran
  split at ran
  · cases ran
    exact ⟨rfl, silent⟩
  · dsimp only at ran
    split at ran
    · cases ran
      exact ⟨rfl, silent⟩
    · cases ran
      exact ⟨rfl, rfl⟩

theorem initializeModel_callbacks (config : EngineConfig) (a : InitializeAnswers)
    (m : EpollServer) : (m.initializeModel config a).2.callbacks = m.callbacks := by
  unfold initializeModel
  dsimp only
  split
  · rfl
  · split
    · rfl
    · split
      · rfl
      · split <;> rfl

/- An Initialize that succeeds leaves nothing of an idle server but its callbacks. -/
theorem initializeModel_idle (config : EngineConfig) (a : InitializeAnswers) {m m' : EpollServer}
    (idle : m.mInitialized = false ∧ m.mRunning = false)
    (idle' : m'.mInitialized = false ∧ m'.mRunning = false)
    (mapped : m.registry.mSocketToSession = ∅) (mapped' : m'.registry.mSocketToSession = ∅)
    (callbacks : m'.callbacks = m.callbacks) :
    (m.initializeModel config a).1 = (m'.initializeModel config a).1 ∧
    ((m.initializeModel config a).1 = true →
      (m.initializeModel config a).2.forget = (m'.initializeModel config a).2.forget) := by
  obtain ⟨epollFd, listenSocket, bound⟩ := a
  unfold initializeModel
  rw [if_neg (by simp [idle.1]), if_neg (by simp [idle'.1])]
  cases epollFd with
  | none => exact ⟨rfl, fun impossible => by cases impossible⟩
  | some epollFd =>
    cases listenSocket with
    | none => exact ⟨rfl, fun impossible => by cases impossible⟩
    | some listenSocket =>
      cases bound with
      | false => exact ⟨rfl, fun impossible => by cases impossible⟩
      | true => simp [forget, openDescriptor, idle, idle', mapped, mapped', callbacks]

theorem shutdown_handles {m : EpollServer} (initialized : m.mInitialized = true) :
    m.shutdown.registry.mListenSocket = INVALID_SOCKET_HANDLE ∧
    m.shutdown.mEpollFd.toInt < 0 := by
  unfold shutdown
  rw [if_neg (not_not.mpr initialized)]
  dsimp only
  generalize m.mSessionManager.liveSessions.foldl (fun m session => closeSession session m)
    { m with mRunning := false } = closed
  obtain ⟨_, _, _, _, _, _, listenSocket, _⟩ := closeListenSocket_keeps
    { closed with
      mSessionManager := closed.mSessionManager.clear
      registry := { closed.registry with mSocketToSession := ∅ } }
  generalize closeListenSocket _ = silent at listenSocket ⊢
  obtain ⟨_, _, _, _, epollFd, _, listenSocket', _⟩ := closeEpoll_keeps silent
  exact ⟨listenSocket'.trans listenSocket, epollFd⟩

end EpollServer

namespace NetworkEngine

/-- The engine and its model have the same flags, and an engine that is not initialized
    holds nothing. -/
structure Consistent (e : NetworkEngine) : Prop where
  initialized : e.mNetworkModel.mInitialized = e.mInitialized
  running : e.mNetworkModel.mRunning = e.mRunning
  order : e.mRunning = true → e.mInitialized = true
  sessions : e.mInitialized = false → e.mNetworkModel.mSessionManager.mSessions = ∅ ∧
    e.mNetworkModel.registry.mSocketToSession = ∅
  holdsNone : e.mInitialized = false → e.mNetworkModel.HoldsNone

theorem construct_consistent : Consistent construct := by
  constructor
  · rfl
  · rfl
  · intro running
    cases running
  · intro _
    exact ⟨rfl, rfl⟩
  · intro _ fd isOpen
    cases isOpen

theorem quiet_consistent {e : NetworkEngine} (consistent : Consistent e) : Consistent e.quiet :=
  ⟨consistent.initialized, consistent.running, consistent.order, consistent.sessions,
    consistent.holdsNone⟩

theorem initializeEngine_consistent {e : NetworkEngine} (consistent : Consistent e)
    (config : EngineConfig) (a : InitializeAnswers) :
    Consistent (e.initializeEngine config a).2 := by
  unfold initializeEngine
  split
  · exact consistent
  · rename_i idle
    rw [Bool.not_eq_true] at idle
    split
    · exact consistent
    · have idleModel : e.mNetworkModel.setCallbacks.mInitialized = false :=
        consistent.initialized.trans idle
      obtain ⟨sessions, mapped⟩ := consistent.sessions idle
      cases ran : e.mNetworkModel.setCallbacks.initializeModel config a with
      | mk initialized m =>
        cases initialized with
        | false =>
          obtain ⟨flag, running, table, sockets, none⟩ :=
            EpollServer.initializeModel_failed idleModel ran
          constructor
          · exact flag.trans idle.symm
          · exact running.trans consistent.running
          · exact consistent.order
          · intro _
            exact ⟨(congrArg SessionManager.mSessions table).trans sessions, sockets.trans mapped⟩
          · intro _
            exact none (consistent.holdsNone idle)
        | true =>
          obtain ⟨flag, running⟩ := EpollServer.initializeModel_succeeded idleModel ran
          constructor
          · exact flag
          · exact running.trans consistent.running
          · intro _
            rfl
          · intro uninitialized
            cases uninitialized
          · intro uninitialized
            cases uninitialized

theorem start_consistent {e : NetworkEngine} (consistent : Consistent e) (listens granted : Bool) :
    Consistent (e.start listens granted).2 := by
  unfold start
  split
  · exact consistent
  · rename_i ready
    rw [not_or, not_not] at ready
    have uninitialized : ∀ {P : Prop}, e.mInitialized = false → P := fun idle => by
      cases ready.1.symm.trans idle
    have silent : e.mRunning = false := Bool.eq_false_iff.mpr ready.2
    cases ran : e.mNetworkModel.startListen listens granted with
    | mk result m =>
      obtain ⟨initialized, running⟩ := EpollServer.startListen_flags
        (consistent.initialized.trans ready.1) (consistent.running.trans silent) ran
      cases result with
      | false =>
        constructor
        · exact initialized.trans consistent.initialized
        · exact running.trans silent.symm
        · exact consistent.order
        · exact uninitialized
        · exact uninitialized
      | true =>
        constructor
        · exact initialized.trans consistent.initialized
        · exact running
        · exact fun _ => ready.1
        · exact uninitialized
        · exact uninitialized

theorem onModel_consistent {e e' : NetworkEngine} (consistent : Consistent e)
    (running : e.mRunning = true) {o : Outcome EpollServer Bool}
    (flags : ∀ m, o.leaves = some m → m.mInitialized = e.mNetworkModel.mInitialized ∧
      m.mRunning = e.mNetworkModel.mRunning) {result : Bool}
    (ran : e.onModel o = .done result e') : Consistent e' := by
  cases o with
  | done value m =>
    cases ran
    obtain ⟨initialized, running'⟩ := flags m rfl
    have started := consistent.order running
    constructor
    · exact initialized.trans consistent.initialized
    · exact running'.trans consistent.running
    · exact consistent.order
    · intro idle
      cases started.symm.trans idle
    · intro idle
      cases started.symm.trans idle
  | stuck m => cases ran
  | undefined => cases ran

theorem stop_consistent {e : NetworkEngine} (consistent : Consistent e) : Consistent e.stop := by
  unfold stop
  split
  · exact consistent
  · rename_i running
    have initialized := consistent.initialized.trans (consistent.order (not_not.mp running))
    obtain ⟨flag, stopped, table, mapped, _⟩ := EpollServer.shutdown_spec initialized
    obtain ⟨listenSocket, epollFd⟩ := EpollServer.shutdown_handles initialized
    constructor
    · exact flag
    · exact stopped
    · intro still
      cases still
    · intro _
      exact ⟨congrArg SessionManager.mSessions table, mapped⟩
    · intro _ fd isOpen usable
      constructor
      · rintro rfl
        rw [listenSocket] at usable
        exact absurd usable (by decide)
      · rintro rfl
        exact absurd epollFd (Int.not_lt.mpr usable)

theorem answer_consistent (e : NetworkEngine) (c : EngineCall) (e' : NetworkEngine)
    (consistent : Consistent e) (next : ReplyingMachines.next answer e c = some e') :
    Consistent e' := by
  have calm := quiet_consistent consistent
  obtain ⟨reply, answered, rfl⟩ := Option.map_eq_some_iff.mp next
  unfold answer at answered
  split at answered
  · rename_i result t ran
    cases answered
    cases c with
    | initializeEngine config a =>
      cases ran
      exact initializeEngine_consistent calm config a
    | start listens granted =>
      cases ran
      exact start_consistent calm listens granted
    | processIo wait =>
      simp only [call, processIo] at ran
      split at ran
      · cases ran
        exact calm
      · rename_i running
        exact onModel_consistent calm (not_not.mp running)
          (fun m left => EpollServer.processIo_flags left) ran
    | send session packet granted =>
      simp only [call, send] at ran
      split at ran
      · cases ran
        exact calm
      · split at ran
        · cases ran
          exact calm
        · rename_i running
          exact onModel_consistent calm (not_not.mp running)
            (fun m left => (EpollServer.send_touched left).flags) ran
    | sendBytes session data granted =>
      simp only [call, sendBytes] at ran
      split at ran
      · split at ran
        · cases ran
          exact calm
        · rename_i running
          rw [not_or] at running
          exact onModel_consistent calm (not_not.mp running.1)
            (fun m left => (EpollServer.send_touched left).flags) ran
      · cases ran
        exact calm
    | stop =>
      cases ran
      exact stop_consistent calm
  · cases answered
  · cases answered

def forget (e : NetworkEngine) : NetworkEngine :=
  { e with mNetworkModel := e.mNetworkModel.forget }

theorem forget_eq_iff {e f : NetworkEngine} : e.forget = f.forget ↔
    f = { e with mNetworkModel := f.mNetworkModel } ∧
      e.mNetworkModel.forget = f.mNetworkModel.forget := by
  constructor
  · intro alike
    obtain ⟨initialized, running, config, models⟩ := NetworkEngine.mk.inj alike
    refine ⟨?_, models⟩
    rw [initialized, running, config]
  · rintro ⟨same, alike⟩
    rw [same]
    exact congrArg (fun mNetworkModel => { e with mNetworkModel }) alike

theorem withModel_alike {m m' : EpollServer} (models : m.forget = m'.forget)
    (mInitialized mRunning : Bool) (mConfig : EngineConfig) :
    forget ⟨mInitialized, mRunning, mConfig, m⟩ = forget ⟨mInitialized, mRunning, mConfig, m'⟩ :=
  congrArg (NetworkEngine.mk mInitialized mRunning mConfig) models

section Alike
variable {e f : NetworkEngine} (alike : e.forget = f.forget)
include alike

theorem alike_flags : f.mInitialized = e.mInitialized ∧ f.mRunning = e.mRunning ∧
    f.mConfig = e.mConfig := by
  rw [(forget_eq_iff.mp alike).1]
  exact ⟨rfl, rfl, rfl⟩

theorem onModel_alike {o o' : Outcome EpollServer Bool} (agree : o.Agree EpollServer.forget o') :
    (e.onModel o).Agree forget (f.onModel o') := by
  have within : ∀ (g : NetworkEngine) (o : Outcome EpollServer Bool),
      (g.onModel o).within forget =
        (o.within EpollServer.forget).within fun mNetworkModel => { g with mNetworkModel } := by
    intro g o
    cases o <;> rfl
  unfold Outcome.Agree
  rw [within, within, agree, (forget_eq_iff.mp alike).1]

theorem initializeEngine_alike (config : EngineConfig) (a : InitializeAnswers) :
    (e.initializeEngine config a).1 = (f.initializeEngine config a).1 ∧
    (e.initializeEngine config a).2.forget = (f.initializeEngine config a).2.forget := by
  obtain ⟨_, models⟩ := forget_eq_iff.mp alike
  obtain ⟨initialized, running, _⟩ := alike_flags alike
  have set : e.mNetworkModel.setCallbacks.forget = f.mNetworkModel.setCallbacks.forget := by
    rw [EpollServer.forget_eq_iff.mp models]
    rfl
  obtain ⟨result, after⟩ := EpollServer.initializeModel_alike set config a
  unfold initializeEngine
  rw [initialized]
  split
  · exact ⟨rfl, alike⟩
  · split
    · exact ⟨rfl, alike⟩
    · dsimp only
      rw [result, running]
      split
      · exact ⟨rfl, withModel_alike after _ _ _⟩
      · exact ⟨rfl, withModel_alike after _ _ _⟩

theorem start_alike (listens granted : Bool) :
    (e.start listens granted).1 = (f.start listens granted).1 ∧
    (e.start listens granted).2.forget = (f.start listens granted).2.forget := by
  obtain ⟨_, models⟩ := forget_eq_iff.mp alike
  obtain ⟨initialized, running, config⟩ := alike_flags alike
  obtain ⟨result, after⟩ := EpollServer.startListen_alike models listens granted
  unfold start
  rw [initialized, running]
  split
  · exact ⟨rfl, alike⟩
  · dsimp only
    rw [result, config]
    split
    · exact ⟨rfl, withModel_alike after _ _ _⟩
    · exact ⟨rfl, withModel_alike after _ _ _⟩

theorem stop_alike : e.stop.forget = f.stop.forget := by
  obtain ⟨_, models⟩ := forget_eq_iff.mp alike
  obtain ⟨_, running, config⟩ := alike_flags alike
  unfold stop
  rw [running]
  split
  · exact alike
  · rw [config]
    exact withModel_alike (EpollServer.shutdown_alike models) _ _ _

theorem call_alike (c : EngineCall) : (e.call c).Agree forget (f.call c) := by
  obtain ⟨_, models⟩ := forget_eq_iff.mp alike
  obtain ⟨_, running, _⟩ := alike_flags alike
  cases c with
  | initializeEngine config a =>
    obtain ⟨result, after⟩ := initializeEngine_alike alike config a
    simp only [call, result]
    exact agree_done _ after
  | start listens granted =>
    obtain ⟨result, after⟩ := start_alike alike listens granted
    simp only [call, result]
    exact agree_done _ after
  | processIo wait =>
    simp only [call, processIo, running]
    split
    · exact agree_done _ alike
    · exact onModel_alike alike (EpollServer.processIo_alike wait models)
  | send session packet granted =>
    simp only [call, send, running]
    split
    · exact agree_done _ alike
    · split
      · exact agree_done _ alike
      · exact onModel_alike alike (EpollServer.send_alike _ packet granted models)
  | sendBytes session data granted =>
    simp only [call, sendBytes, running]
    split
    · split
      · exact agree_done _ alike
      · exact onModel_alike alike (EpollServer.send_alike _ _ granted models)
    · exact agree_done _ alike
  | stop => exact agree_done _ (stop_alike alike)

end Alike

structure Idle (e : NetworkEngine) : Prop where
  engine : e.mInitialized = false ∧ e.mRunning = false
  model : e.mNetworkModel.mInitialized = false ∧ e.mNetworkModel.mRunning = false
  mapped : e.mNetworkModel.registry.mSocketToSession = ∅

def Alike (e f : NetworkEngine) : Prop :=
  (Idle e ∧ Idle f) ∨ e.quiet.forget = f.quiet.forget

theorem quiet_idle {e : NetworkEngine} (idle : Idle e) : Idle e.quiet :=
  ⟨idle.engine, idle.model, idle.mapped⟩

theorem answer_alike {e f : NetworkEngine} (alike : e.quiet.forget = f.quiet.forget)
    (c : EngineCall) : Matched Alike (answer e c) (answer f c) := by
  have agree := call_alike alike c
  unfold answer
  cases ran : e.quiet.call c with
  | done result e' =>
    cases ran' : f.quiet.call c with
    | done result' f' =>
      rw [ran, ran'] at agree
      obtain ⟨rfl, after⟩ := Outcome.done.inj agree
      obtain ⟨_, models⟩ := forget_eq_iff.mp after
      have calls : f'.mNetworkModel.callbacks = e'.mNetworkModel.callbacks := by
        rw [EpollServer.forget_eq_iff.mp models]
      refine Or.inr ⟨_, e', f', rfl, ?_, Or.inr (congrArg quiet after)⟩
      dsimp only
      rw [calls]
    | stuck f' =>
      rw [ran, ran'] at agree
      cases agree
    | undefined =>
      rw [ran, ran'] at agree
      cases agree
  | stuck e' =>
    cases ran' : f.quiet.call c with
    | done result' f' =>
      rw [ran, ran'] at agree
      cases agree
    | stuck f' => exact Or.inl ⟨rfl, rfl⟩
    | undefined => exact Or.inl ⟨rfl, rfl⟩
  | undefined =>
    cases ran' : f.quiet.call c with
    | done result' f' =>
      rw [ran, ran'] at agree
      cases agree
    | stuck f' => exact Or.inl ⟨rfl, rfl⟩
    | undefined => exact Or.inl ⟨rfl, rfl⟩

theorem idle_call {e : NetworkEngine} (idle : Idle e) {c : EngineCall}
    (other : ∀ config a, c ≠ .initializeEngine config a) :
    e.call c = .done (match c with | .stop => true | _ => false) e := by
  cases c with
  | initializeEngine config a => exact absurd rfl (other config a)
  | start listens granted => simp [call, start, idle.engine]
  | processIo wait => simp [call, processIo, idle.engine]
  | send session packet granted =>
    simp only [call, send]
    split
    · rfl
    · simp [idle.engine]
  | sendBytes session data granted =>
    simp only [call, sendBytes]
    split
    · simp [idle.engine]
    · rfl
  | stop => simp [call, stop, idle.engine]

theorem answer_idle {e f : NetworkEngine} (idle : Idle e) (idle' : Idle f) (c : EngineCall) :
    Matched Alike (answer e c) (answer f c) := by
  have calm := quiet_idle idle
  have calm' := quiet_idle idle'
  by_cases initializes : ∃ config a, c = .initializeEngine config a
  · obtain ⟨config, a, rfl⟩ := initializes
    have started : e.quiet.mNetworkModel.setCallbacks.callbacks = ⟨true, true, true, []⟩ := rfl
    have started' : f.quiet.mNetworkModel.setCallbacks.callbacks = ⟨true, true, true, []⟩ := rfl
    have idleModel : e.quiet.mNetworkModel.setCallbacks.mInitialized = false ∧
        e.quiet.mNetworkModel.setCallbacks.mRunning = false := calm.model
    have idleModel' : f.quiet.mNetworkModel.setCallbacks.mInitialized = false ∧
        f.quiet.mNetworkModel.setCallbacks.mRunning = false := calm'.model
    obtain ⟨result, models⟩ := EpollServer.initializeModel_idle config a idleModel idleModel'
      calm.mapped calm'.mapped (started'.trans started.symm)
    have told := (EpollServer.initializeModel_callbacks config a _).trans started
    have told' := (EpollServer.initializeModel_callbacks config a _).trans started'
    simp only [answer, call, initializeEngine, calm.engine, calm'.engine]
    by_cases valid : config.validate = true
    · cases ran : e.quiet.mNetworkModel.setCallbacks.initializeModel config a with
      | mk initialized m =>
        cases ran' : f.quiet.mNetworkModel.setCallbacks.initializeModel config a with
        | mk initialized' m' =>
          rw [ran, ran'] at result models
          rw [ran] at told
          rw [ran'] at told'
          dsimp only at result models told told'
          subst result
          cases initialized with
          | false =>
            obtain ⟨flag, running, _, sockets, _⟩ :=
              EpollServer.initializeModel_failed idleModel.1 ran
            obtain ⟨flag', running', _, sockets', _⟩ :=
              EpollServer.initializeModel_failed idleModel'.1 ran'
            simp only [valid, Bool.false_eq_true, not_true_eq_false, not_false_eq_true, if_true,
              if_false, told, told']
            refine Or.inr ⟨_, _, _, rfl, rfl, Or.inl ⟨?_, ?_⟩⟩
            · exact ⟨⟨rfl, rfl⟩, ⟨flag, running.trans calm.model.2⟩,
                sockets.trans calm.mapped⟩
            · exact ⟨⟨rfl, rfl⟩, ⟨flag', running'.trans calm'.model.2⟩,
                sockets'.trans calm'.mapped⟩
          | true =>
            simp only [valid, Bool.false_eq_true, not_true_eq_false, if_false, told, told']
            refine Or.inr ⟨_, _, _, rfl, rfl, Or.inr ?_⟩
            exact congrArg quiet (withModel_alike (models rfl) true false config)
    · simp only [valid, Bool.false_eq_true, not_false_eq_true, if_true, if_false]
      exact Or.inr ⟨_, _, _, rfl, rfl, Or.inl ⟨calm, calm'⟩⟩
  · have other : ∀ config a, c ≠ .initializeEngine config a :=
      fun config a same => initializes ⟨config, a, same⟩
    unfold answer
    rw [idle_call calm other, idle_call calm' other]
    exact Or.inr ⟨(_, []), e.quiet, f.quiet, rfl, rfl, Or.inl ⟨calm, calm'⟩⟩

/-- Idle engines answer all later calls alike. -/
theorem idle_replies {e f : NetworkEngine} (idle : Idle e) (idle' : Idle f)
    (calls : List EngineCall) : replies answer e calls = replies answer f calls := by
  have start : Alike e f := Or.inl ⟨idle, idle'⟩
  apply same_replies _ calls e f start
  intro e f c alike
  rcases alike with ⟨idle, idle'⟩ | alike
  · exact answer_idle idle idle' c
  · exact answer_alike alike c

theorem construct_idle : Idle construct := ⟨⟨rfl, rfl⟩, ⟨rfl, rfl⟩, rfl⟩

/-- Stop leaves an engine that is not initialized, whose model holds no listen socket,
    no epoll descriptor and no session, which refuses to process and to send, and
    answers all later calls as a new one does. -/
structure StopRestores (e : NetworkEngine) : Prop where
  flags : e.stop.mInitialized = false ∧ e.stop.mRunning = false
  closed : ∀ fd ∈ e.stop.mNetworkModel.descriptors, 0 ≤ fd.toInt →
    ∀ m ∈ [e.mNetworkModel, e.stop.mNetworkModel],
      fd ≠ m.registry.mListenSocket ∧ fd ≠ m.mEpollFd
  sessions : e.stop.mNetworkModel.mSessionManager.mSessions = ∅ ∧
    e.stop.mNetworkModel.registry.mSocketToSession = ∅
  refuses : (∀ wait, e.stop.processIo wait = .done false e.stop) ∧
    (∀ session packet granted, e.stop.send session packet granted = .done false e.stop) ∧
    ∀ session data granted, e.stop.sendBytes session data granted = .done false e.stop
  likeNew : ∀ calls, replies answer e.stop calls = replies answer construct calls

theorem consistent_idle {e : NetworkEngine} (consistent : Consistent e)
    (uninitialized : e.mInitialized = false) : Idle e := by
  have stopped : e.mRunning = false := by
    rw [← Bool.not_eq_true]
    intro running
    cases (consistent.order running).symm.trans uninitialized
  exact ⟨⟨uninitialized, stopped⟩,
    ⟨consistent.initialized.trans uninitialized, consistent.running.trans stopped⟩,
    (consistent.sessions uninitialized).2⟩

theorem stop_closes {e : NetworkEngine} (consistent : Consistent e)
    (ready : e.mRunning = true ∨ e.mInitialized = false) :
    ∀ fd ∈ e.stop.mNetworkModel.descriptors, 0 ≤ fd.toInt →
      fd ≠ e.mNetworkModel.registry.mListenSocket ∧ fd ≠ e.mNetworkModel.mEpollFd := by
  rcases ready with running | uninitialized
  · have initialized := consistent.initialized.trans (consistent.order running)
    have shut : e.stop.mNetworkModel = e.mNetworkModel.shutdown := by
      rw [stop, if_neg (not_not.mpr running)]
    intro fd isOpen usable
    rw [shut] at isOpen
    obtain ⟨_, _, listenSocket, epollFd⟩ :=
      (EpollServer.mem_shutdown_descriptors initialized).mp isOpen
    constructor
    · intro same
      rw [listenSocket same] at usable
      exact absurd usable (by decide)
    · intro same
      exact absurd (epollFd same) (Int.not_lt.mpr (same ▸ usable))
  · have unchanged : e.stop = e :=
      if_pos (by simp [(consistent_idle consistent uninitialized).engine])
    rw [unchanged]
    exact consistent.holdsNone uninitialized

theorem consistent_stop_iff {e : NetworkEngine} (consistent : Consistent e) :
    StopRestores e ↔ e.mRunning = true ∨ e.mInitialized = false := by
  constructor
  · intro restores
    by_contra neither
    rw [not_or] at neither
    have unchanged : e.stop = e := if_pos neither.1
    exact neither.2 (unchanged ▸ restores.flags.1)
  · intro ready
    have after := stop_consistent consistent
    have uninitialized : e.stop.mInitialized = false := by
      unfold stop
      split
      · rename_i stopped
        exact ready.resolve_left stopped
      · rfl
    have idle := consistent_idle after uninitialized
    constructor
    · exact idle.engine
    · intro fd isOpen usable m member
      rcases List.mem_cons.mp member with rfl | rest
      · exact stop_closes consistent ready fd isOpen usable
      · rw [List.mem_singleton.mp rest]
        exact after.holdsNone uninitialized fd isOpen usable
    · exact after.sessions uninitialized
    · refine ⟨fun wait => ?_, fun session packet granted => ?_, fun session data granted => ?_⟩
      · exact idle_call idle (c := .processIo wait) (by simp)
      · exact idle_call idle (c := .send session packet granted) (by simp)
      · exact idle_call idle (c := .sendBytes session data granted) (by simp)
    · exact idle_replies idle construct_idle

/-- After any calls, Stop brings the engine back to a state like that of a new one, if
    and only if it is called while the engine runs or is not initialized. -/
theorem stop_restores_iff (calls : List EngineCall) :
    ∀ e ∈ states (ReplyingMachines.next answer) construct calls,
      StopRestores e ↔ e.mRunning = true ∨ e.mInitialized = false := by
  intro e reached
  exact consistent_stop_iff
    (invariant_of_kept answer_consistent calls construct construct_consistent e reached)

/-- An engine that was started and got one client is restored by Stop. -/
theorem served_client_restored :
    ∃ e ∈ states (ReplyingMachines.next answer) construct
      [.initializeEngine .default ⟨some 3, some 4, true⟩, .start true true,
        .processIo (.ready [.listen (.client ⟨7, true⟩ .wouldBlock)])],
      e.mRunning = true ∧ e.mNetworkModel.mSessionManager.getSessionCount = 1 ∧
      StopRestores e := by
  obtain ⟨e, reached, running, one⟩ :
      ∃ e ∈ states (ReplyingMachines.next answer) construct
        [.initializeEngine .default ⟨some 3, some 4, true⟩, .start true true,
          .processIo (.ready [.listen (.client ⟨7, true⟩ .wouldBlock)])],
        e.mRunning = true ∧ e.mNetworkModel.mSessionManager.getSessionCount = 1 :=
    ⟨_, mem_states_next rfl (mem_states_next rfl (mem_states_next rfl
      (mem_states_self _ _ []))), rfl, rfl⟩
  exact ⟨e, reached, running, one, (stop_restores_iff _ e reached).mpr (Or.inl running)⟩

/- Stop does nothing to an engine that is initialized and was not started. -/
theorem unstarted_engine_stays :
    ∃ e ∈ states (ReplyingMachines.next answer) construct
      [.initializeEngine .default ⟨some 3, some 4, true⟩], ¬StopRestores e := by
  refine ⟨_, mem_states_next rfl (mem_states_self _ _ []), ?_⟩
  intro restores
  cases restores.flags.1

end NetworkEngine
end KanchoNet
