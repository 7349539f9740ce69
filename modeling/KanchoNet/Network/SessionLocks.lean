import KanchoNet.Network.IOUringModel

/-!
Which calls into IOUringModel return. Send and ProcessSendCompletion hold the
session's lock when they call SubmitSend, which takes it once more.
-/
namespace KanchoNet.IOUringModel
open GuardedSections

def sendSection (id : SessionID) (result : Int32) (a : SubmitAnswers) (m : IOUringModel) :
    Outcome IOUringModel Unit :=
  match m.mSessionManager.getSession id with
  | none => .undefined
  | some session =>
    if 0 < result then
      let session := session.skipSent (UInt64.ofNat result.toNatClampNeg)
      let m := m.setSession id session
      if 0 < session.mSendBuffer.getAvailableRead then
        (m.submitSend id a).bind fun _ m => .done () m
      else .done () (m.setSession id (session.setSending false))
    else (m.setSession id (session.setSending false)).processDisconnect id

theorem processSendCompletion_eq (ctx : IOUringContext) (result : Int32) (a : SubmitAnswers)
    (m : IOUringModel) : m.processSendCompletion ctx result a =
      match ctx.session with
      | none => .done () m
      | some id => guarded (sessionLock id) (sendSection id result a) m := rfl

@[simp] theorem getSession_setSession (id : SessionID) (session : Session Fd) (m : IOUringModel) :
    (m.setSession id session).mSessionManager.getSession id = some session :=
  SessionManager.getSession_store_self _ _ _

theorem modifySession_of_found {m : IOUringModel} {id : SessionID} {session : Session Fd}
    (found : m.mSessionManager.getSession id = some session) (f : Session Fd → Session Fd) :
    m.modifySession id f = m.setSession id (f session) := by
  rw [modifySession, found]

theorem held_of_found {m : IOUringModel} {id : SessionID} {session : Session Fd}
    (found : m.mSessionManager.getSession id = some session) :
    (sessionLock id).held m = session.mLock.mFlag := by
  simp only [sessionLock, found, Option.any_some]
  rfl

theorem locked_of_found {m : IOUringModel} {id : SessionID} {session : Session Fd}
    (found : m.mSessionManager.getSession id = some session) (flag : Bool) :
    (sessionLock id).set flag m = m.setSession id (Session.lock.set flag session) :=
  modifySession_of_found found _

@[simp] theorem setSession_setSession (id : SessionID) (first second : Session Fd)
    (m : IOUringModel) : (m.setSession id first).setSession id second = m.setSession id second := by
  simp only [setSession, SessionManager.store, AList.insert_insert]

theorem set_setSession (id : SessionID) (session : Session Fd) (flag : Bool) (m : IOUringModel) :
    (sessionLock id).set flag (m.setSession id session) =
      m.setSession id (Session.lock.set flag session) := by
  rw [locked_of_found (getSession_setSession id session m), setSession_setSession]

/- SubmitSend under a caller that holds the lock is where a thread gets stuck. -/
theorem submitSend_stuck {m : IOUringModel} {id : SessionID} {session : Session Fd}
    (found : m.mSessionManager.getSession id = some session) (held : session.mLock.mFlag = true)
    (a : SubmitAnswers) :
    submitSend id a m = .stuck (m.setSession id (session.setSending true)) := by
  have marked := getSession_setSession id (session.setSending true) m
  rw [submitSend, modifySession_of_found found]
  exact guarded_of_held ((held_of_found marked).trans held) _

/- Send on a session whose lock is free: refused, queued, or stuck for good with the
   packet in the buffer and the lock held. -/
theorem send_eq {m : IOUringModel} {id : SessionID} {session : Session Fd}
    (found : m.mSessionManager.getSession id = some session) (free : session.mLock.mFlag = false)
    {packet : PacketBuffer} (packed : packet.contents ≠ []) (a : SubmitAnswers) :
    send id packet a m =
      let queued := (session.writePacket packet).2
      if session.freeSpace < packet.contents.length then .done false (m.setSession id queued)
      else if session.mIsSending then .done true (m.setSession id queued)
      else .stuck (m.setSession id (Session.lock.set true (queued.setSending true))) := by
  have overflow : ((Session.lock.set true session).writePacket packet).1 < packet.getSize ↔
      session.freeSpace < packet.contents.length := Session.writePacket_overflows_iff _ packet
  have queued : ((Session.lock.set true session).writePacket packet).2 =
      Session.lock.set true (session.writePacket packet).2 := rfl
  have restored : Session.lock.set false (Session.lock.set true (session.writePacket packet).2) =
      (session.writePacket packet).2 :=
    Session.lock_restored (s := (session.writePacket packet).2) free true
  have body := getSession_setSession id (Session.lock.set true session) m
  simp only [send, PacketBuffer.isEmpty_eq_false packed, Bool.false_eq_true, ↓reduceIte]
  rw [guarded_of_free ((held_of_found found).trans free)]
  have sending : (Session.lock.set true (session.writePacket packet).2).mIsSending =
      session.mIsSending := rfl
  simp only [locked_of_found found, body, overflow, queued, sending, setSession_setSession]
  split
  · rw [Outcome.bind, set_setSession, restored]
  · split
    · rw [Outcome.bind, set_setSession, restored]
    · rw [submitSend_stuck (getSession_setSession _ _ _) rfl, setSession_setSession]
      rfl

theorem send_empty {packet : PacketBuffer} (id : SessionID) (a : SubmitAnswers) (m : IOUringModel)
    (empty : packet.contents = []) : send id packet a m = .done false m :=
  if_pos ((PacketBuffer.isEmpty_iff packet).mpr empty)

theorem send_blocked {m : IOUringModel} {id : SessionID} {session : Session Fd}
    (found : m.mSessionManager.getSession id = some session) (held : session.mLock.mFlag = true)
    {packet : PacketBuffer} (packed : packet.contents ≠ []) (a : SubmitAnswers) :
    send id packet a m = .stuck m := by
  simp only [send, PacketBuffer.isEmpty_eq_false packed, Bool.false_eq_true, ↓reduceIte]
  exact guarded_of_held ((held_of_found found).trans held) _

theorem send_destroyed {m : IOUringModel} {id : SessionID}
    (absent : m.mSessionManager.getSession id = none) {packet : PacketBuffer}
    (packed : packet.contents ≠ []) (a : SubmitAnswers) : send id packet a m = .undefined := by
  have free : (sessionLock id).held m = false := by
    simp only [sessionLock, absent, Option.any_none]
  have same : (sessionLock id).set true m = m := by
    simp only [sessionLock, modifySession, absent]
  simp only [send, PacketBuffer.isEmpty_eq_false packed, Bool.false_eq_true, ↓reduceIte]
  rw [guarded_of_free free, same]
  simp only [absent, Outcome.bind]

theorem send_returns_iff {m : IOUringModel} {id : SessionID} {session : Session Fd}
    (found : m.mSessionManager.getSession id = some session) (free : session.mLock.mFlag = false)
    (packet : PacketBuffer) (a : SubmitAnswers) :
    (send id packet a m).returns = true ↔ packet.contents = [] ∨
      session.freeSpace < packet.contents.length ∨ session.mIsSending = true := by
  by_cases empty : packet.contents = []
  · simp [send_empty id a m empty, empty, Outcome.returns]
  · rw [send_eq found free empty]
    dsimp only
    split
    · rename_i overflow
      simp [overflow, Outcome.returns]
    · rename_i fits
      split
      · rename_i busy
        simp [busy, Outcome.returns]
      · rename_i idle
        simp [empty, fits, idle, Outcome.returns]

theorem processDisconnect_returns {m : IOUringModel} {id : SessionID} {session : Session Fd}
    (found : m.mSessionManager.getSession id = some session) :
    (processDisconnect id m).returns = true := by
  simp only [processDisconnect, found]
  split <;> rfl

theorem processReceiveCompletion_returns {m : IOUringModel} {id : SessionID} {session : Session Fd}
    (found : m.mSessionManager.getSession id = some session) {ctx : IOUringContext}
    (named : ctx.session = some id) (result : Int32) (received : List UInt8) (a : SubmitAnswers) :
    (processReceiveCompletion ctx result received a m).returns = true := by
  simp only [processReceiveCompletion, named, found]
  split
  · rfl
  · split
    · rfl
    · exact processDisconnect_returns found

theorem processSendCompletion_returns_iff {m : IOUringModel} {id : SessionID}
    {session : Session Fd} (found : m.mSessionManager.getSession id = some session)
    (free : session.mLock.mFlag = false) {ctx : IOUringContext} (named : ctx.session = some id)
    (result : Int32) (a : SubmitAnswers) :
    (processSendCompletion ctx result a m).returns = true ↔
      result ≤ 0 ∨ session.outgoing.length ≤ result.toNatClampNeg := by
  have body := getSession_setSession id (Session.lock.set true session) m
  simp only [processSendCompletion, named, guarded_returns_iff, held_of_found found, free,
    true_and, locked_of_found found, body]
  split
  · rename_i positive
    have left : 0 < ((Session.lock.set true session).skipSent
          (UInt64.ofNat result.toNatClampNeg)).mSendBuffer.getAvailableRead ↔
        result.toNatClampNeg < session.outgoing.length := by
      have small := result.toNatClampNeg_lt
      have word : (UInt64.ofNat result.toNatClampNeg).toNat = result.toNatClampNeg := by
        rw [UInt64.toNat_ofNat']
        omega
      have rest := Session.outgoing_skipSent (Session.lock.set true session)
        (UInt64.ofNat result.toNatClampNeg)
      rw [word, Session.outgoing_lock] at rest
      rw [LiveRing.getAvailableRead_pos_iff, ← Session.outgoing, rest, Ne, List.drop_eq_nil_iff,
        Nat.not_le]
    rw [← Int32.not_lt]
    simp only [left, positive, not_true_eq_false, false_or]
    split
    · rename_i more
      rw [submitSend_stuck (getSession_setSession _ _ _) rfl]
      simpa [Outcome.bind, Outcome.returns] using more
    · rename_i drained
      simpa [Outcome.returns] using drained
  · rename_i negative
    rw [processDisconnect_returns (getSession_setSession _ _ _)]
    simp [Int32.not_lt.mp negative]

/-- Which calls on a session whose lock is free come back: a receive completion always;
    a Send that is empty, refused or queued behind another; a send completion that
    failed or leaves nothing to send. All others wait for the lock they hold. -/
theorem calls_return_iff {m : IOUringModel} {id : SessionID} {session : Session Fd}
    (found : m.mSessionManager.getSession id = some session)
    (free : session.mLock.mFlag = false) :
    (∀ packet a, (send id packet a m).returns = true ↔ packet.contents = [] ∨
      session.freeSpace < packet.contents.length ∨ session.mIsSending = true) ∧
    (∀ ctx result received a, ctx.session = some id →
      (processReceiveCompletion ctx result received a m).returns = true) ∧
    (∀ ctx result a, ctx.session = some id →
      ((processSendCompletion ctx result a m).returns = true ↔
        result ≤ 0 ∨ session.outgoing.length ≤ result.toNatClampNeg)) :=
  ⟨fun packet a => send_returns_iff found free packet a,
    fun _ result received a named => processReceiveCompletion_returns found named result received a,
    fun _ result a named => processSendCompletion_returns_iff found free named result a⟩

def oneClient : IOUringModel :=
  (submitReceive 1 ⟨true, true⟩
    { mSessionManager :=
        ((SessionManager.construct 100).addSession 7 .default).2.store 1
          (Session.accepted 1 7 .default)
      mSocketToSession := AList.singleton 7 1
      callbacks := ⟨true, true, true, []⟩
      nextContext := 0
      prepared := []
      inflight := []
      deallocated := []
      closed := [] }).2

theorem oneClient_found :
    oneClient.mSessionManager.getSession 1 = some (Session.accepted 1 7 .default) := rfl

theorem failed_completions_return :
    (processReceiveCompletion ⟨0, .receive, some 1, []⟩ (-104) [] ⟨true, true⟩ oneClient).returns =
      true ∧
    (processSendCompletion ⟨1, .send, some 1, [1]⟩ (-32) ⟨true, true⟩ oneClient).returns = true :=
  have calls := calls_return_iff oneClient_found rfl
  ⟨calls.2.1 _ _ _ _ rfl, (calls.2.2 _ _ _ rfl).mpr (Or.inl (by decide))⟩

/- The first packet of a session never comes back from Send. -/
theorem first_packet_deadlocks :
    (send 1 (PacketBuffer.ofBytes [1, 2, 3] 3 (by decide)) ⟨true, true⟩ oneClient).returns =
      false := by
  rw [← Bool.not_eq_true, send_returns_iff oneClient_found rfl, Session.freeSpace_accepted]
  decide

end KanchoNet.IOUringModel
