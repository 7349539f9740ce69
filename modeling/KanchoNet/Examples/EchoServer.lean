import KanchoNet.Core.Application
import KanchoNet.Lib.BoundedRelay
import KanchoNet.Network.EpollMoments
import KanchoNet.Network.WorkerStreams

/-!
EchoServer on NetworkEngine over EpollModel: what a client is sent, against what it sent.
The send buffer of a session makes the echo a relay: OnReceive queues what fits behind
the bytes that wait, and ProcessSend passes on what stands at the front.
-/
namespace KanchoNet
open GuardedSections LabelledRuns BoundedRelay

def RecvAnswers.data : RecvAnswers → List UInt8
  | .received data _ _ next => data ++ next.data
  | .closed => []
  | .wouldBlock => []
  | .failed => []

namespace EchoServer

/-- OnReceive sends the data back, and the result of Send is not looked at; the other
    callbacks only print. -/
def application : Application Unit where
  onAccept _ _ s := .done () s
  onReceive id data grants s := (s.send id data (grants id)).bind fun _ s => .done () s
  onDisconnect _ _ s := .done () s

def receivedFrom (s : Deployed Unit) (id : SessionID) : List UInt8 :=
  s.model.callbacks.deliveredTo id

def sentTo (s : Deployed Unit) (id : SessionID) : List UInt8 :=
  s.wire.flatMap fun chunk => if chunk.1 = id then chunk.2 else []

/-- What a handler does for its session: some bytes are received and some sent, and the
    session is changed or gone. -/
structure Exchange (id : SessionID) (received sent : List UInt8) (after : Option (Session Fd))
    (s t : Deployed Unit) : Prop where
  running : t.engine.mRunning = s.engine.mRunning
  set : t.model.callbacks.mOnReceive = s.model.callbacks.mOnReceive
  counter : t.model.mSessionManager.mNextSessionID = s.model.mSessionManager.mNextSessionID
  received : ∀ other,
    receivedFrom t other = receivedFrom s other ++ if id = other then received else []
  sent : ∀ other, sentTo t other = sentTo s other ++ if id = other then sent else []
  own : t.model.mSessionManager.getSession id = after
  others : ∀ other, other ≠ id →
    t.model.mSessionManager.getSession other = s.model.mSessionManager.getSession other

theorem Exchange.trans {id : SessionID} {received received' sent sent' : List UInt8}
    {middle after : Option (Session Fd)} {s t u : Deployed Unit}
    (first : Exchange id received sent middle s t)
    (second : Exchange id received' sent' after t u) :
    Exchange id (received ++ received') (sent ++ sent') after s u := by
  constructor
  · exact second.running.trans first.running
  · exact second.set.trans first.set
  · exact second.counter.trans first.counter
  · intro other
    rw [second.received, first.received]
    split <;> simp
  · intro other
    rw [second.sent, first.sent]
    split <;> simp
  · exact second.own
  · intro other different
    exact (second.others other different).trans (first.others other different)

theorem exchange_none (id : SessionID) (s : Deployed Unit) :
    Exchange id [] [] (s.model.mSessionManager.getSession id) s s :=
  ⟨rfl, rfl, rfl, by simp, by simp, rfl, fun _ _ => rfl⟩

theorem exchange_store (id : SessionID) (session : Session Fd) (registry : EpollRegistry)
    (s : Deployed Unit) : Exchange id [] [] (some session) s (s.withModel { s.model with
      mSessionManager := s.model.mSessionManager.store id session, registry }) := by
  constructor
  · rfl
  · rfl
  · rfl
  · intro other
    rw [ite_self, List.append_nil]
    rfl
  · intro other
    rw [ite_self, List.append_nil]
    rfl
  · exact SessionManager.getSession_store_self _ id session
  · exact fun other different => SessionManager.getSession_store_ne _ session different

theorem exchange_received {s : Deployed Unit} (set : s.model.callbacks.mOnReceive = true)
    (id : SessionID) (data : List UInt8) :
    Exchange id data [] (s.model.mSessionManager.getSession id) s
      (s.withModel { s.model with callbacks := s.model.callbacks.onReceive id data }) := by
  constructor
  · rfl
  · change (s.model.callbacks.onReceive id data).mOnReceive = _
    rw [Callbacks.onReceive_set set]
  · rfl
  · exact fun other => EpollWorkers.deliveredTo_onReceive set id other data
  · intro other
    rw [ite_self, List.append_nil]
    rfl
  · rfl
  · exact fun _ _ => rfl

theorem exchange_dropped (id : SessionID) (session : Session Fd) (s : Deployed Unit) :
    Exchange id [] [] none s (s.withModel (s.model.dropped id session)) := by
  constructor
  · rfl
  · change (s.model.callbacks.onDisconnect id).mOnReceive = _
    unfold Callbacks.onDisconnect
    split <;> rfl
  · exact EpollServer.mNextSessionID_dropped id session s.model
  · intro other
    rw [ite_self, List.append_nil]
    exact EpollWorkers.deliveredTo_onDisconnect s.model.callbacks id other
  · intro other
    rw [ite_self, List.append_nil]
    rfl
  · exact EpollServer.getSession_dropped_self id session s.model
  · exact fun other different => EpollServer.getSession_dropped_ne session s.model different

/- A Send of the application queues what fits behind the bytes that wait. -/
theorem send_exchange {s : Deployed Unit} {id : SessionID} {session : Session Fd}
    (running : s.engine.mRunning = true)
    (found : s.model.mSessionManager.getSession id = some session)
    (free : session.mLock.mFlag = false) {data : List UInt8} (positive : 0 < data.length)
    (short : data.length < 2 ^ 64) (granted : Bool) :
    ∃ value t session', s.send id data granted = .done value t ∧
      Exchange id [] [] (some session') s t ∧ session'.mLock.mFlag = false ∧
      session'.mState = session.mState ∧
      session'.outgoing = session.outgoing ++ data.take session.freeSpace ∧
      session'.freeSpace = session.freeSpace - data.length := by
  have size : (UInt64.ofNat data.length).toNat = data.length := by
    rw [UInt64.toNat_ofNat']
    exact Nat.mod_eq_of_lt short
  have nonzero : UInt64.ofNat data.length ≠ 0 := by
    rw [← UInt64.toNat_inj.ne, size]
    exact Nat.pos_iff_ne_zero.mp positive
  generalize reaches : PacketBuffer.ofBytes data (UInt64.ofNat data.length)
    (le_of_eq size) = packet
  have contents : packet.contents = data := by
    rw [← reaches]
    simp only [PacketBuffer.contents, PacketBuffer.ofBytes, size, List.take_length]
  have packed : packet.contents ≠ [] := by
    rw [contents]
    exact List.length_pos_iff.mp positive
  obtain ⟨p, ran, free', _, queued, _⟩ := EpollModel.send_spec
    (p := ⟨session, s.model.registry⟩) granted free packed
  have left := EpollModel.send_freeSpace (p := ⟨session, s.model.registry⟩) free ran
  have state := (EpollModel.send_footprint (congrArg Outcome.leaves ran)).mState
  rw [contents] at left ran
  rw [Session.acceptedPrefix_eq_take, contents] at queued
  have sent : s.send id data granted = .done (decide (data.length ≤ session.freeSpace))
      (s.withModel { s.model with
        mSessionManager := s.model.mSessionManager.store id p.session
        registry := p.registry }) := by
    unfold Deployed.send NetworkEngine.sendBytes
    dsimp only
    rw [if_neg (by simp [running, nonzero]), reaches]
    unfold NetworkEngine.onModel EpollServer.send EpollServer.onSession
    simp only [show s.engine.mNetworkModel.mSessionManager.getSession id = some session from found]
    rw [show EpollModel.send packet granted ⟨session, s.engine.mNetworkModel.registry⟩ = _ from ran]
    rfl
  exact ⟨_, _, p.session, sent, exchange_store id p.session p.registry s, free', state, queued,
    left⟩

theorem processDisconnect_eq {s : Deployed Unit} {id : SessionID} {session : Session Fd}
    (found : s.model.mSessionManager.getSession id = some session) (grants : Grants) :
    application.processDisconnect id grants s =
      .done () (if session.isDisconnected then s
        else s.withModel (s.model.dropped id session)) := by
  simp only [Application.processDisconnect, found]
  by_cases gone : session.isDisconnected = true
  · rw [if_pos gone, if_pos gone]
  · rw [if_neg gone, if_neg gone]
    dsimp only [application]
    rw [ite_self]
    simp only [Outcome.bind, Application.eraseSession, Deployed.model_withModel,
      EpollServer.setSession, SessionManager.getSession_store_self]
    rfl

theorem recvLoop_exchange (answers : RecvAnswers) {s : Deployed Unit} {id : SessionID}
    {session : Session Fd} (running : s.engine.mRunning = true)
    (set : s.model.callbacks.mOnReceive = true)
    (found : s.model.mSessionManager.getSession id = some session)
    (free : session.mLock.mFlag = false) (grants : Nat → Grants) (turn : Nat) :
    ∃ t session', Exchange id answers.data [] (some session') s t ∧
      session'.mLock.mFlag = false ∧ session'.mState = session.mState ∧
      session'.outgoing = session.outgoing ++ answers.data.take session.freeSpace ∧
      application.recvLoop id grants answers turn s = if answers.ends = true then
        .done () (if session'.isDisconnected then t else t.withModel (t.model.dropped id session'))
        else .done () t := by
  have nothing : Exchange id [] [] (some session) s s := found ▸ exchange_none id s
  induction answers generalizing s session turn with
  | received data positive within next ih =>
    have told := exchange_received set id data
    generalize heard : s.withModel { s.model with
      callbacks := s.model.callbacks.onReceive id data } = t at told
    have found' : t.model.mSessionManager.getSession id = some session := told.own.trans found
    have short : data.length < 2 ^ 64 := by
      have limit : DEFAULT_BUFFER_SIZE.toNat = 8192 := by decide
      omega
    obtain ⟨value, u, session', sent, queued, free', state, outgoing, left⟩ :=
      send_exchange (told.running.trans running) found' free positive short (grants turn id)
    have both := told.trans queued
    obtain ⟨v, session'', rest, free'', state', outgoing', loop⟩ :=
      ih (both.running.trans running) (both.set.trans set) both.own free' (turn + 1)
        (both.own ▸ exchange_none id u)
    refine ⟨v, session'', by simpa [RecvAnswers.data] using both.trans rest, free'',
      state'.trans state, ?_, ?_⟩
    · rw [outgoing', outgoing, left, List.append_assoc]
      exact congrArg (session.outgoing ++ ·) List.take_append.symm
    · rw [Application.recvLoop]
      dsimp only
      rw [heard, if_pos (told.set.trans set)]
      change ((t.send id data (grants turn id)).bind fun _ s => Outcome.done () s).bind _ = _
      rw [sent]
      exact loop
  | closed =>
    exact ⟨s, session, nothing, free, rfl, by simp [RecvAnswers.data],
      processDisconnect_eq found (grants turn)⟩
  | wouldBlock => exact ⟨s, session, nothing, free, rfl, by simp [RecvAnswers.data], rfl⟩
  | failed =>
    exact ⟨s, session, nothing, free, rfl, by simp [RecvAnswers.data],
      processDisconnect_eq found (grants turn)⟩

/- A session that is gone has no lock to write. -/
theorem exchange_lock (id : SessionID) (flag : Bool) (s : Deployed Unit) :
    Exchange id [] [] ((s.model.mSessionManager.getSession id).map (Session.lock.set flag)) s
      ((Deployed.modelLock id).set flag s) := by
  cases found : s.model.mSessionManager.getSession id with
  | none =>
    have same : (Deployed.modelLock id).set flag s = s := by
      simp only [Deployed.modelLock, EpollServer.sessionLock, EpollServer.modifySession, found,
        Deployed.withModel_model]
    rw [same]
    have none := exchange_none id s
    rwa [found] at none
  | some session =>
    have stored : (Deployed.modelLock id).set flag s = s.withModel { s.model with
        mSessionManager := s.model.mSessionManager.store id (Session.lock.set flag session)
        registry := s.model.registry } := by
      simp only [Deployed.modelLock, EpollServer.sessionLock, EpollServer.modifySession, found]
      rfl
    rw [stored]
    exact exchange_store id _ _ s

theorem drain_exchange {s : Deployed Unit} {id : SessionID} {session : Session Fd}
    (found : s.model.mSessionManager.getSession id = some session) (answers : SendAnswers)
    (granted : Bool) : ∃ ending t sent session',
      Application.drain id answers granted s = .done ending t ∧
      Exchange id [] sent (some session') s t ∧ sent ++ session'.outgoing = session.outgoing := by
  have emptied := (EpollModel.sendLoop_spec answers granted 0 ⟨session, s.model.registry⟩).1
  generalize ran : EpollModel.sendLoop answers granted 0 ⟨session, s.model.registry⟩ = result
    at emptied
  have stored := exchange_store id result.peer.session result.peer.registry s
  refine ⟨result.ending, { s.withModel { s.model with
      mSessionManager := s.model.mSessionManager.store id result.peer.session
      registry := result.peer.registry } with wire := s.wire ++ [(id, result.wire)] },
    result.wire, result.peer.session, ?_, ⟨stored.running, stored.set, stored.counter,
      stored.received, ?_, stored.own, stored.others⟩, emptied.stream⟩
  · simp only [Application.drain, found, ran]
    rfl
  · intro other
    refine List.flatMap_append.trans ?_
    rw [List.flatMap_singleton]
    rfl

/-- What the handler of a session does under the echo: it receives some bytes, queues
    what fits, sends some from the front, and leaves the session unlocked or ends it. -/
def Echoed (id : SessionID) (session : Session Fd) (received : List UInt8)
    (s t : Deployed Unit) : Prop :=
  ∃ sent rest after, Exchange id received sent after s t ∧
    sent ++ rest = session.outgoing ++ received.take session.freeSpace ∧
    ∀ session', after = some session' → session'.mLock.mFlag = false ∧ session'.outgoing = rest

def heardIn (session : Session Fd) (answers : RecvAnswers) : List UInt8 :=
  if session.isConnected then answers.data else []

section Handlers
variable {s : Deployed Unit} {id : SessionID} {session : Session Fd}
  (found : s.model.mSessionManager.getSession id = some session)
  (free : session.mLock.mFlag = false)
include found free

theorem disconnect_echoed (grants : Grants) :
    ∃ t, application.processDisconnect id grants s = .done () t ∧ Echoed id session [] s t := by
  refine ⟨_, processDisconnect_eq found grants, ?_⟩
  split
  · refine ⟨[], session.outgoing, some session, found ▸ exchange_none id s, by simp, ?_⟩
    rintro _ ⟨⟩
    exact ⟨free, rfl⟩
  · exact ⟨[], session.outgoing, none, exchange_dropped id session s, by simp, nofun⟩

theorem receive_echoed (running : s.engine.mRunning = true)
    (set : s.model.callbacks.mOnReceive = true) (answers : RecvAnswers) (grants : Nat → Grants) :
    ∃ t, application.processReceive id answers grants s = .done () t ∧
      Echoed id session (heardIn session answers) s t ∧
      (EpollServer.EndsReceive session answers ↔
        t.model.mSessionManager.getSession id = none) := by
  simp only [Application.processReceive, found]
  by_cases connected : session.isConnected = true
  · rw [if_neg (not_not.mpr connected)]
    obtain ⟨t, session', exchange, free', state, outgoing, loop⟩ :=
      recvLoop_exchange answers running set found free grants 0
    have alive : session'.isDisconnected = false := by
      simp only [Session.isConnected, Session.isDisconnected, beq_iff_eq] at connected ⊢
      rw [state, connected]
      rfl
    have heard : heardIn session answers = answers.data := if_pos connected
    rw [loop, alive, heard]
    by_cases ends : answers.ends = true
    · rw [if_pos ends]
      have dropped := exchange.trans (exchange_dropped id session' t)
      rw [List.append_nil, List.append_nil] at dropped
      refine ⟨_, rfl, ⟨[], _, none, dropped, rfl, ?_⟩, iff_of_true ⟨connected, ends⟩ dropped.own⟩
      rintro _ ⟨⟩
    · rw [if_neg ends]
      refine ⟨t, rfl, ⟨[], _, some session', exchange, rfl, ?_⟩,
        iff_of_false (fun e => ends e.2) ?_⟩
      · rintro _ ⟨⟩
        exact ⟨free', outgoing⟩
      · rw [exchange.own]
        exact Option.some_ne_none session'
  · rw [if_pos connected]
    have heard : heardIn session answers = [] := if_neg connected
    rw [heard]
    refine ⟨s, rfl, ⟨[], session.outgoing, some session, found ▸ exchange_none id s, by simp, ?_⟩,
      iff_of_false (fun e => connected e.1) (by simp [found])⟩
    rintro _ ⟨⟩
    exact ⟨free, rfl⟩

theorem writable_echoed (answers : SendAnswers) (granted : Bool) (grants : Grants) :
    ∃ t, application.processSend id answers granted grants s = .done () t ∧
      Echoed id session [] s t := by
  have unlocked : (Deployed.modelLock id).held s = false :=
    (EpollServer.held_of_found found).trans free
  have locked := exchange_lock id true s
  rw [found] at locked
  obtain ⟨ending, u, sent, emptied, drained, passed, stream⟩ :=
    drain_exchange locked.own answers granted
  have both := locked.trans passed
  obtain ⟨v, after, ran, ended, kept⟩ : ∃ v after,
      (if ending = .disconnect then application.processDisconnect id grants u else .done () u) =
        .done () v ∧ Exchange id [] [] after u v ∧
      ∀ left, after = some left → left.outgoing = emptied.outgoing := by
    split
    · rw [processDisconnect_eq passed.own grants]
      split
      · refine ⟨u, some emptied, rfl, passed.own ▸ exchange_none id u, ?_⟩
        rintro _ ⟨⟩
        rfl
      · exact ⟨_, none, rfl, exchange_dropped id emptied u, nofun⟩
    · refine ⟨u, some emptied, rfl, passed.own ▸ exchange_none id u, ?_⟩
      rintro _ ⟨⟩
      rfl
  have released := exchange_lock id false v
  rw [ended.own] at released
  have whole := (both.trans ended).trans released
  refine ⟨_, ?_, sent, emptied.outgoing, _, by simpa using whole, ?_, ?_⟩
  · rw [Application.processSend, guarded_of_free unlocked, drained]
    simp only [Outcome.bind, ran]
  · rw [stream, List.take_nil, List.append_nil]
    rfl
  · intro session' same
    obtain ⟨left, there, rfl⟩ := Option.map_eq_some_iff.mp same
    exact ⟨rfl, kept left there⟩

end Handlers

theorem acceptClient_cases (client : AcceptedClient) (grants : Grants) (s : Deployed Unit) :
    ∃ m, application.acceptClient client grants s = .done () (s.withModel m) ∧
      m.callbacks.mOnReceive = s.model.callbacks.mOnReceive ∧
      (∀ id, m.callbacks.deliveredTo id = s.model.callbacks.deliveredTo id) ∧
      (m.mSessionManager = s.model.mSessionManager ∨
        m.mSessionManager = s.model.mSessionManager.seat client.socket) := by
  by_cases full :
      s.model.mSessionManager.mMaxSessions.toNat ≤ s.model.mSessionManager.getSessionCount
  · exact ⟨_, Application.acceptClient_full application client grants full, rfl, fun _ => rfl,
      Or.inl rfl⟩
  · rw [Application.acceptClient_room application client grants full]
    split
    · refine ⟨s.model.admitted client.socket, ite_self _, ?_, fun id => ?_, Or.inr rfl⟩
      · change (s.model.callbacks.onAccept s.model.mSessionManager.mNextSessionID).mOnReceive = _
        unfold Callbacks.onAccept
        split <;> rfl
      · exact EpollWorkers.deliveredTo_onAccept s.model.callbacks _ id
    · exact ⟨s.model.abandoned client.socket, rfl, rfl, fun _ => rfl, Or.inr rfl⟩

structure Serving (clients : Nat) (s : Deployed Unit) : Prop where
  running : s.engine.mRunning = true
  set : s.model.callbacks.mOnReceive = true
  counter : s.model.mSessionManager.mNextSessionID.toNat ≤ clients + 1
  known : ∀ id session, s.model.mSessionManager.getSession id = some session →
    id.toNat < s.model.mSessionManager.mNextSessionID.toNat ∧ session.mLock.mFlag = false
  unheard : ∀ id, s.model.mSessionManager.mNextSessionID.toNat ≤ id.toNat →
    receivedFrom s id = [] ∧ sentTo s id = []

structure Relays (s : Deployed Unit) (id : SessionID) (r : Relay UInt8) : Prop where
  received : receivedFrom s id = r.heard
  sent : sentTo s id = r.passed
  waiting : ∀ session, s.model.mSessionManager.getSession id = some session →
    session.outgoing = r.waiting

section Steps
variable {clients : Nat} {s t : Deployed Unit}

theorem echoed_serving (serving : Serving clients s) {id : SessionID} {session : Session Fd}
    (found : s.model.mSessionManager.getSession id = some session) {received : List UInt8}
    (echoed : Echoed id session received s t) : Serving clients t := by
  obtain ⟨sent, rest, after, exchange, _, unlocked⟩ := echoed
  have own := (serving.known id session found).1
  constructor
  · exact exchange.running.trans serving.running
  · exact exchange.set.trans serving.set
  · rw [exchange.counter]
    exact serving.counter
  · intro other session' there
    rw [exchange.counter]
    by_cases same : other = id
    · subst same
      exact ⟨own, (unlocked session' (exchange.own.symm.trans there)).1⟩
    · exact serving.known other session' ((exchange.others other same).symm.trans there)
  · intro other late
    rw [exchange.counter] at late
    have different : id ≠ other := by
      rintro rfl
      omega
    rw [exchange.received, exchange.sent, if_neg different, List.append_nil, if_neg different,
      List.append_nil]
    exact serving.unheard other late

/- The relay of the session hears what is received and passes on what is sent. -/
theorem echoed_relays {id : SessionID} {session : Session Fd} {received : List UInt8}
    (found : s.model.mSessionManager.getSession id = some session)
    (echoed : Echoed id session received s t) {r : Relay UInt8} (relays : Relays s id r) :
    ∃ front rest, ∃ whole : front ++ rest = (r.hear received session.freeSpace).waiting,
      Relays t id ((r.hear received session.freeSpace).pass whole) := by
  obtain ⟨sent, rest, after, exchange, whole, unlocked⟩ := echoed
  rw [relays.waiting session found] at whole
  refine ⟨sent, rest, whole, ?_, ?_, ?_⟩
  · rw [exchange.received, if_pos rfl, relays.received]
    rfl
  · rw [exchange.sent, if_pos rfl, relays.sent]
    rfl
  · intro session' there
    exact (unlocked session' (exchange.own.symm.trans there)).2

theorem others_relay {id other : SessionID} (different : other ≠ id) {session : Session Fd}
    {received : List UInt8} (echoed : Echoed id session received s t) {r : Relay UInt8}
    (relays : Relays s other r) : Relays t other r := by
  obtain ⟨sent, rest, after, exchange, _, _⟩ := echoed
  constructor
  · rw [exchange.received, if_neg different.symm, List.append_nil, relays.received]
  · rw [exchange.sent, if_neg different.symm, List.append_nil, relays.sent]
  · intro session' there
    exact relays.waiting session' ((exchange.others other different).symm.trans there)

section Accepted
variable {m : EpollServer} {socket : Fd}
  (delivered : ∀ id, m.callbacks.deliveredTo id = s.model.callbacks.deliveredTo id)
  (table : m.mSessionManager = s.model.mSessionManager ∨
    m.mSessionManager = s.model.mSessionManager.seat socket)
include delivered table

theorem accepted_serving (serving : Serving clients s) (few : clients < 2 ^ 64 - 2)
    (set : m.callbacks.mOnReceive = s.model.callbacks.mOnReceive) :
    Serving (clients + 1) (s.withModel m) := by
  have counter := serving.counter
  have next : m.mSessionManager.mNextSessionID.toNat ≤
        s.model.mSessionManager.mNextSessionID.toNat + 1 ∧
      s.model.mSessionManager.mNextSessionID.toNat ≤ m.mSessionManager.mNextSessionID.toNat := by
    rcases table with same | seated
    · rw [same]
      omega
    · rw [seated]
      have advanced : (s.model.mSessionManager.mNextSessionID + 1).toNat =
        s.model.mSessionManager.mNextSessionID.toNat + 1 := SessionManager.next_toNat (by omega)
      change (s.model.mSessionManager.mNextSessionID + 1).toNat ≤ _ ∧
        _ ≤ (s.model.mSessionManager.mNextSessionID + 1).toNat
      omega
  constructor
  · exact serving.running
  · exact set.trans serving.set
  · change m.mSessionManager.mNextSessionID.toNat ≤ _
    omega
  · intro id session found
    change m.mSessionManager.getSession id = some session at found
    change id.toNat < m.mSessionManager.mNextSessionID.toNat ∧ _
    rcases table with same | seated
    · rw [same] at found ⊢
      exact serving.known id session found
    · rw [seated] at found
      rcases SessionManager.getSession_seat_iff.mp found with ⟨rfl, rfl⟩ | ⟨_, old⟩
      · refine ⟨?_, rfl⟩
        rw [seated]
        change _ < (s.model.mSessionManager.mNextSessionID + 1).toNat
        rw [SessionManager.next_toNat (by omega)]
        omega
      · have := serving.known id session old
        exact ⟨by omega, this.2⟩
  · intro id late
    change m.mSessionManager.mNextSessionID.toNat ≤ id.toNat at late
    obtain ⟨none, nothing⟩ := serving.unheard id (by omega)
    exact ⟨(delivered id).trans none, nothing⟩

theorem accepted_relays (serving : Serving clients s) {id : SessionID} {r : Relay UInt8}
    (relays : Relays s id r) : Relays (s.withModel m) id .empty ∨
      Relays (s.withModel m) id r ∧
        m.mSessionManager.getSession id = s.model.mSessionManager.getSession id := by
  have stays (same : m.mSessionManager.getSession id = s.model.mSessionManager.getSession id) :
      Relays (s.withModel m) id r :=
    ⟨(delivered id).trans relays.received, relays.sent,
      fun session found => relays.waiting session (same.symm.trans found)⟩
  rcases table with same | seated
  · exact Or.inr ⟨stays (by rw [same]), by rw [same]⟩
  · by_cases fresh : id = s.model.mSessionManager.mNextSessionID
    · subst fresh
      obtain ⟨none, nothing⟩ := serving.unheard _ (Nat.le_refl _)
      refine Or.inl ⟨(delivered _).trans none, nothing, ?_⟩
      intro session found
      change m.mSessionManager.getSession _ = some session at found
      rw [seated, SessionManager.getSession_seat_self] at found
      cases found
      exact Session.outgoing_accepted _ socket .default
    · have same := SessionManager.getSession_seat_ne s.model.mSessionManager socket fresh
      rw [← seated] at same
      exact Or.inr ⟨stays same, same⟩

end Accepted
end Steps

/-- A ProcessReceive that leaves its session connected brings no more than its send
    buffer has room for. -/
def Fits (s : Deployed Unit) : Application.Event → Prop
  | .receive id answers _ => ∀ session, s.model.mSessionManager.getSession id = some session →
    ¬EpollServer.EndsReceive session answers →
      (heardIn session answers).length ≤ session.freeSpace
  | _ => True

theorem registered_found {m : EpollServer} {id : SessionID} (registered : m.registered id = true) :
    ∃ session, m.mSessionManager.getSession id = some session := by
  unfold EpollServer.registered at registered
  cases found : m.mSessionManager.getSession id with
  | none =>
    rw [found] at registered
    cases registered
  | some session => exact ⟨session, rfl⟩

inductive Served (s : Deployed Unit) : Application.Event → Deployed Unit → Prop where
  | accepted (client : AcceptedClient) (grants : Grants) (m : EpollServer)
      (set : m.callbacks.mOnReceive = s.model.callbacks.mOnReceive)
      (delivered : ∀ id, m.callbacks.deliveredTo id = s.model.callbacks.deliveredTo id)
      (table : m.mSessionManager = s.model.mSessionManager ∨
        m.mSessionManager = s.model.mSessionManager.seat client.socket) :
      Served s (.acceptClient client grants) (s.withModel m)
  | handled (e : Application.Event) (id : SessionID) (session : Session Fd)
      (received : List UInt8) (t : Deployed Unit) (handler : e.accepts = false)
      (found : s.model.mSessionManager.getSession id = some session)
      (echoed : Echoed id session received s t)
      (fits : Fits s e ↔ (t.model.mSessionManager.getSession id ≠ none →
        received.length ≤ session.freeSpace)) : Served s e t

theorem step_served {clients : Nat} {s t : Deployed Unit} {e : Application.Event}
    (serving : Serving clients s) (next : Application.step application s e = some t) :
    Served s e t := by
  unfold Application.step at next
  split at next
  · cases next
  · cases e with
    | acceptClient client grants =>
      obtain ⟨m, ran, set, delivered, table⟩ := acceptClient_cases client grants s
      simp only [ran] at next
      cases next
      exact .accepted client grants m set delivered table
    | receive id answers grants =>
      simp only [Option.ite_none_right_eq_some] at next
      obtain ⟨registered, next⟩ := next
      obtain ⟨session, found⟩ := registered_found registered
      obtain ⟨u, ran, echoed, ends⟩ := receive_echoed found (serving.known id session found).2
        serving.running serving.set answers grants
      simp only [ran] at next
      cases next
      refine .handled _ id session _ t rfl found echoed ?_
      rw [ne_eq, ← ends]
      constructor
      · exact fun fits stays => fits session found stays
      · intro fits live there stays
        cases found.symm.trans there
        exact fits stays
    | writable id answers granted grants =>
      simp only [Option.ite_none_right_eq_some] at next
      obtain ⟨registered, next⟩ := next
      obtain ⟨session, found⟩ := registered_found registered
      obtain ⟨u, ran, echoed⟩ := writable_echoed found (serving.known id session found).2
        answers granted grants
      simp only [ran] at next
      cases next
      exact .handled _ id session [] t rfl found echoed (iff_of_true trivial fun _ => Nat.zero_le _)
    | hangUp id grants =>
      simp only [Option.ite_none_right_eq_some] at next
      obtain ⟨registered, next⟩ := next
      obtain ⟨session, found⟩ := registered_found registered
      obtain ⟨u, ran, echoed⟩ := disconnect_echoed found (serving.known id session found).2 grants
      simp only [ran] at next
      cases next
      exact .handled _ id session [] t rfl found echoed (iff_of_true trivial fun _ => Nat.zero_le _)

def started (config : EngineConfig) (epollFd listenSocket : Fd) : Deployed Unit where
  engine := ((NetworkEngine.construct.initializeEngine config
    ⟨some epollFd, some listenSocket, true⟩).2.start true true).2
  members := ()
  wire := []

theorem started_engine {config : EngineConfig} (valid : config.validate = true)
    (epollFd listenSocket : Fd) : (started config epollFd listenSocket).engine =
      ⟨true, true, config, EpollServer.listening config epollFd listenSocket⟩ := by
  have initialized : NetworkEngine.construct.initializeEngine config
      ⟨some epollFd, some listenSocket, true⟩ = (true, ⟨true, false, config,
        (EpollServer.construct.setCallbacks.initializeModel config
          ⟨some epollFd, some listenSocket, true⟩).2⟩) := by
    unfold NetworkEngine.initializeEngine
    rw [if_neg (by decide), if_neg (not_not.mpr valid)]
    rfl
  simp only [started, initialized]
  rfl

theorem started_model {config : EngineConfig} (valid : config.validate = true)
    (epollFd listenSocket : Fd) : (started config epollFd listenSocket).model =
      EpollServer.listening config epollFd listenSocket := by
  rw [Deployed.model, started_engine valid]

theorem started_serving {config : EngineConfig} (valid : config.validate = true)
    (epollFd listenSocket : Fd) : Serving 0 (started config epollFd listenSocket) := by
  have model := started_model valid epollFd listenSocket
  constructor
  · rw [started_engine valid]
  · rw [model]
    rfl
  · rw [model]
    exact Nat.le_refl 1
  · intro id session found
    rw [model] at found
    cases found
  · intro id _
    rw [receivedFrom, model]
    exact ⟨rfl, rfl⟩

theorem started_relays {config : EngineConfig} (valid : config.validate = true)
    (epollFd listenSocket : Fd) (id : SessionID) :
    Relays (started config epollFd listenSocket) id .empty := by
  have model := started_model valid epollFd listenSocket
  constructor
  · rw [receivedFrom, model]
    rfl
  · rfl
  · intro session found
    rw [model] at found
    cases found

/-- What was sent to a session, and behind it what waits to be sent, is in the order of
    what it sent, with nothing else in between. -/
structure OnlyEchoes (s : Deployed Unit) : Prop where
  sent : ∀ id, List.Sublist (sentTo s id) (receivedFrom s id)
  waiting : ∀ id session, s.model.mSessionManager.getSession id = some session →
    List.Sublist (sentTo s id ++ session.outgoing) (receivedFrom s id)

/-- Nothing is missing either: what waits is all that is left. -/
structure EchoesAll (s : Deployed Unit) : Prop where
  sent : ∀ id, sentTo s id <+: receivedFrom s id
  waiting : ∀ id session, s.model.mSessionManager.getSession id = some session →
    sentTo s id ++ session.outgoing = receivedFrom s id

def Relayed (clients : Nat) (s : Deployed Unit) : Prop :=
  Serving clients s ∧ ∀ id, ∃ r, Relays s id r

def Mirrored (clients : Nat) (s : Deployed Unit) : Prop :=
  Serving clients s ∧ ∀ id, ∃ r, Relays s id r ∧ r.passed <+: r.heard ∧
    (s.model.mSessionManager.getSession id ≠ none → r.Lossless)

theorem relayed_onlyEchoes {clients : Nat} {s : Deployed Unit} (relayed : Relayed clients s) :
    OnlyEchoes s := by
  constructor
  · intro id
    obtain ⟨r, relays⟩ := relayed.2 id
    rw [relays.sent, relays.received]
    exact r.passed_sublist
  · intro id session found
    obtain ⟨r, relays⟩ := relayed.2 id
    rw [relays.sent, relays.received, relays.waiting session found]
    exact r.kept

theorem mirrored_echoesAll {clients : Nat} {s : Deployed Unit} (mirrored : Mirrored clients s) :
    EchoesAll s := by
  constructor
  · intro id
    obtain ⟨r, relays, front, _⟩ := mirrored.2 id
    rw [relays.sent, relays.received]
    exact front
  · intro id session found
    obtain ⟨r, relays, _, lossless⟩ := mirrored.2 id
    rw [relays.sent, relays.received, relays.waiting session found]
    exact lossless (by simp [found])

theorem step_relayed (clients : Nat) (s : Deployed Unit) (e : Application.Event) (t : Deployed Unit)
    (relayed : Relayed clients s) (few : e.accepts = true → clients < 2 ^ 64 - 2)
    (next : Application.step application s e = some t) :
    Relayed (clients + if e.accepts then 1 else 0) t := by
  obtain ⟨serving, relays⟩ := relayed
  cases step_served serving next with
  | accepted client grants m set delivered table =>
    refine ⟨accepted_serving delivered table serving (few rfl) set, fun id => ?_⟩
    obtain ⟨r, relay⟩ := relays id
    rcases accepted_relays delivered table serving relay with fresh | ⟨kept, _⟩
    · exact ⟨.empty, fresh⟩
    · exact ⟨r, kept⟩
  | handled _ id session received _ handler found echoed fits =>
    rw [handler]
    refine ⟨echoed_serving serving found echoed, fun other => ?_⟩
    obtain ⟨r, relay⟩ := relays other
    by_cases same : other = id
    · subst same
      obtain ⟨front, rest, whole, relay'⟩ := echoed_relays found echoed relay
      exact ⟨_, relay'⟩
    · exact ⟨r, others_relay same echoed relay⟩

theorem step_mirrored (clients : Nat) (s : Deployed Unit) (e : Application.Event)
    (t : Deployed Unit) (mirrored : Mirrored clients s)
    (few : e.accepts = true → clients < 2 ^ 64 - 2) (fits : Fits s e)
    (next : Application.step application s e = some t) :
    Mirrored (clients + if e.accepts then 1 else 0) t := by
  obtain ⟨serving, relays⟩ := mirrored
  cases step_served serving next with
  | accepted client grants m set delivered table =>
    refine ⟨accepted_serving delivered table serving (few rfl) set, fun id => ?_⟩
    obtain ⟨r, relay, front, lossless⟩ := relays id
    rcases accepted_relays delivered table serving relay with fresh | ⟨kept, same⟩
    · exact ⟨.empty, fresh, List.nil_prefix, fun _ => rfl⟩
    · refine ⟨r, kept, front, fun live => lossless ?_⟩
      rw [← same]
      exact live
  | handled _ id session received _ handler found echoed fits_iff =>
    rw [handler]
    refine ⟨echoed_serving serving found echoed, fun other => ?_⟩
    obtain ⟨r, relay, front, lossless⟩ := relays other
    by_cases same : other = id
    · subst same
      have before := lossless (by simp [found])
      obtain ⟨sent, rest, whole, relay'⟩ := echoed_relays found echoed relay
      refine ⟨_, relay', Relay.hear_pass_prefix before whole, fun live => ?_⟩
      rw [Relay.pass_lossless_iff whole, Relay.hear_lossless_iff before]
      exact fits_iff.mp fits live
    · refine ⟨r, others_relay same echoed relay, front, fun live => lossless ?_⟩
      obtain ⟨_, _, _, exchange, _, _⟩ := echoed
      rw [← exchange.others other same]
      exact live

/- A ProcessReceive that brings more than there is room for loses the rest. -/
theorem overflow_misses (clients : Nat) (s : Deployed Unit) (e : Application.Event)
    (t : Deployed Unit) (mirrored : Mirrored clients s) (overflow : ¬Fits s e)
    (next : Application.step application s e = some t) : ¬EchoesAll t := by
  obtain ⟨serving, relays⟩ := mirrored
  cases step_served serving next with
  | accepted client grants m set delivered table => exact absurd trivial overflow
  | handled _ id session received _ handler found echoed fits_iff =>
    rw [fits_iff, Classical.not_imp] at overflow
    obtain ⟨live, long⟩ := overflow
    obtain ⟨session', there⟩ := Option.ne_none_iff_exists'.mp live
    obtain ⟨r, relay, _, lossless⟩ := relays id
    have before := lossless (by simp [found])
    obtain ⟨sent, rest, whole, relay'⟩ := echoed_relays found echoed relay
    intro echoes
    have all := echoes.waiting id session' there
    rw [relay'.sent, relay'.received, relay'.waiting session' there] at all
    apply long
    rw [← Relay.hear_lossless_iff before]
    exact (Relay.pass_lossless_iff whole).mp all

/-- In every run of an echo server with fewer clients than there are ids, whatever the
    system answers: a client is only ever sent bytes that it sent, in their order. -/
theorem only_echoes {config : EngineConfig} (valid : config.validate = true)
    (epollFd listenSocket : Fd) (es : List Application.Event)
    (few : es.countP Application.Event.accepts ≤ 2 ^ 64 - 2) :
    ∀ t ∈ states (Application.step application) (started config epollFd listenSocket) es,
      OnlyEchoes t := by
  intro t member
  obtain ⟨clients, relayed⟩ := invariant_of_budget step_relayed es 0
    (started config epollFd listenSocket)
    ⟨started_serving valid epollFd listenSocket,
      fun id => ⟨_, started_relays valid epollFd listenSocket id⟩⟩ (by omega) t member
  exact relayed_onlyEchoes relayed

def takeAll : SendAnswers := fun _ sendBuffer =>
  if some : 0 < sendBuffer.length then .sent sendBuffer.length some (Nat.le_refl _)
  else .wouldBlock

/-- Two clients, of which one sends two bytes and is sent what waits for it. -/
def greeting : List Application.Event :=
  [.acceptClient ⟨7, true⟩ fun _ => true, .acceptClient ⟨8, true⟩ fun _ => true,
    .receive 1 (.received [72, 105] (Nat.succ_pos 1) (by decide) .wouldBlock) fun _ _ => true,
    .writable 1 takeAll true fun _ => true, .writable 2 takeAll true fun _ => true]

theorem greeting_received :
    ∃ t ∈ states (Application.step application) (started .default 4 3) greeting,
      receivedFrom t 1 = [72, 105] := by
  obtain ⟨s, ran, serving, found, registered, silent⟩ : ∃ s,
      run (Application.step application) (started .default 4 3) (greeting.take 2) = some s ∧
      (s.engine.mRunning = true ∧ s.model.mRunning = true ∧
        s.model.callbacks.mOnReceive = true) ∧
      s.model.mSessionManager.getSession 1 = some (Session.accepted 1 7 .default) ∧
      s.model.registered 1 = true ∧ receivedFrom s 1 = [] :=
    ⟨_, rfl, ⟨rfl, rfl, rfl⟩, rfl, rfl, rfl⟩
  obtain ⟨t, received, ⟨sent, rest, after, exchange, _⟩, _⟩ := receive_echoed found rfl serving.1
    serving.2.2 (.received [72, 105] (Nat.succ_pos 1) (by decide) .wouldBlock) fun _ _ => true
  have next : Application.step application s (.receive 1
      (.received [72, 105] (Nat.succ_pos 1) (by decide) .wouldBlock) fun _ _ => true) = some t := by
    simp only [Application.step, serving.1, serving.2.1, registered, received]
    rfl
  refine ⟨t, ?_, ?_⟩
  · exact mem_states_append ran (mem_states_next next (mem_states_self _ t (greeting.drop 3)))
  · rw [exchange.received, silent]
    rfl

theorem greeting_only_echoed :
    (∀ t ∈ states (Application.step application) (started .default 4 3) greeting, OnlyEchoes t) ∧
    ∃ t ∈ states (Application.step application) (started .default 4 3) greeting,
      receivedFrom t 1 = [72, 105] :=
  ⟨only_echoes EngineConfig.default_valid 4 3 greeting (by decide), greeting_received⟩

/-- A client in the table is sent all of them, but for those that wait in its send buffer,
    and one that has left was sent a prefix, exactly as long as no ProcessReceive of a
    session that stays brings more than the send buffer has room for. -/
theorem echoes_all_iff {config : EngineConfig} (valid : config.validate = true)
    (epollFd listenSocket : Fd) (es : List Application.Event)
    (few : es.countP Application.Event.accepts ≤ 2 ^ 64 - 2) :
    (∀ t ∈ states (Application.step application) (started config epollFd listenSocket) es,
      EchoesAll t) ↔
    ∀ x ∈ steps (Application.step application) (started config epollFd listenSocket) es,
      Fits x.1 x.2 :=
  holds_along_iff_of_budget step_mirrored (fun _ _ => mirrored_echoesAll) overflow_misses es 0
    (started config epollFd listenSocket)
    ⟨started_serving valid epollFd listenSocket, fun id =>
      ⟨.empty, started_relays valid epollFd listenSocket id, List.nil_prefix, fun _ => rfl⟩⟩
    (by omega)

/- The two bytes fit and are echoed. -/
theorem greeting_echoed :
    (∀ t ∈ states (Application.step application) (started .default 4 3) greeting, EchoesAll t) ∧
    (∀ x ∈ steps (Application.step application) (started .default 4 3) greeting, Fits x.1 x.2) ∧
    ∃ t ∈ states (Application.step application) (started .default 4 3) greeting,
      receivedFrom t 1 = [72, 105] := by
  have fits : ∀ x ∈ steps (Application.step application) (started .default 4 3) greeting,
      Fits x.1 x.2 := by
    refine forall_steps_cons Fits rfl trivial (forall_steps_cons Fits rfl trivial ?_)
    refine forall_steps_next Fits ?_ fun t _ => ?_
    · intro session found _
      obtain rfl : Session.accepted 1 7 .default = session := Option.some.inj found
      rw [Session.freeSpace_accepted]
      decide
    · exact forall_steps_next Fits trivial fun t _ =>
        forall_steps_next Fits trivial fun t _ => List.forall_mem_nil _
  have echoes := (echoes_all_iff EngineConfig.default_valid 4 3 greeting (by decide)).mpr fits
  exact ⟨echoes, fits, greeting_received⟩

end EchoServer
end KanchoNet
