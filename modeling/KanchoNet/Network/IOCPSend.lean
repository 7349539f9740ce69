import KanchoNet.Session.Session

/-!
The sending side of IOCPModel for one session. A send posts a copy of the front of
the buffer; the bytes leave the buffer when its completion is handled. Whether
WSASend accepts an operation is an argument.
-/
namespace KanchoNet
open GuardedSections

def INVALID_SOCKET : SOCKET := BitVec.allOnes 64

/-- An operation handed to Windows; sessions are named by their ids, which are
    never given out twice. -/
structure OverlappedContext where
  operation : IOOperation
  session : Option SessionID
  wsaBuf : List UInt8
  acceptSocket : SOCKET
  deriving DecidableEq

structure IOCPPeer where
  session : Session SOCKET
  inflight : List OverlappedContext

def IOCPPeer.lock : Lock IOCPPeer where
  held p := Session.lock.held p.session
  set flag p := { p with session := Session.lock.set flag p.session }

def sendContext (id : SessionID) (wsaBuf : List UInt8) : OverlappedContext :=
  ⟨.send, some id, wsaBuf, INVALID_SOCKET⟩

namespace IOCPPeer

def postSend (wsaSend : Bool) (p : IOCPPeer) : Bool × IOCPPeer :=
  let p := { p with session := p.session.setSending true }
  let buffer := p.session.mSendBuffer.peekBytes DEFAULT_BUFFER_SIZE
  if buffer.length = 0 then (true, { p with session := p.session.setSending false })
  else if wsaSend then
    (true, { p with inflight := p.inflight ++ [sendContext p.session.mID buffer] })
  else (false, { p with session := p.session.setSending false })

def send (packet : PacketBuffer) (wsaSend : Bool) (p : IOCPPeer) : Outcome IOCPPeer Bool :=
  if packet.isEmpty then .done false p
  else guarded IOCPPeer.lock (fun p =>
    let (written, session) := p.session.writePacket packet
    let p := { p with session }
    if written < packet.getSize then .done false p
    else if p.session.mIsSending then .done true p
    else
      let (posted, p) := postSend wsaSend p
      .done posted p) p

/-- ProcessSend for a completion of the session; its context has left the flight. -/
def processSend (bytesTransferred : UInt32) (wsaSend : Bool) (p : IOCPPeer) :
    Outcome IOCPPeer Unit :=
  guarded IOCPPeer.lock (fun p =>
    let p := { p with session := p.session.skipSent bytesTransferred.toUInt64 }
    if 0 < p.session.mSendBuffer.getAvailableRead then
      -- the result of PostSend is not looked at
      let (_, p) := postSend wsaSend p
      .done () p
    else .done () { p with session := p.session.setSending false }) p

theorem postSend_eq (wsaSend : Bool) (p : IOCPPeer) :
    postSend wsaSend p =
      if p.session.outgoing = [] then (true, { p with session := p.session.setSending false })
      else if wsaSend then (true, ⟨p.session.setSending true,
        p.inflight ++ [sendContext p.session.mID (p.session.outgoing.take 8192)]⟩)
      else (false, { p with session := p.session.setSending false }) := by
  have buffer : (p.session.setSending true).mSendBuffer.peekBytes DEFAULT_BUFFER_SIZE =
      p.session.outgoing.take 8192 := LiveRing.peekBytes_eq _ _
  have none : (p.session.outgoing.take 8192).length = 0 ↔ p.session.outgoing = [] := by
    simp [List.length_eq_zero_iff]
  simp only [postSend, buffer, none]
  rfl

theorem postSend_posts {p : IOCPPeer} (nonempty : p.session.outgoing ≠ []) :
    postSend true p = (true, ⟨p.session.setSending true,
      p.inflight ++ [sendContext p.session.mID (p.session.outgoing.take 8192)]⟩) := by
  rw [postSend_eq, if_neg nonempty, if_pos rfl]

theorem postSend_fails {p : IOCPPeer} (nonempty : p.session.outgoing ≠ []) :
    postSend false p = (false, { p with session := p.session.setSending false }) := by
  rw [postSend_eq, if_neg nonempty, if_neg (by decide)]

theorem postSend_outgoing (wsaSend : Bool) (p : IOCPPeer) :
    (postSend wsaSend p).2.session.outgoing = p.session.outgoing := by
  rw [postSend_eq]
  split
  · rfl
  · split <;> rfl

theorem postSend_sending (wsaSend : Bool) (p : IOCPPeer) :
    (postSend wsaSend p).2.session.mIsSending = true ↔
      wsaSend = true ∧ p.session.outgoing ≠ [] := by
  rw [postSend_eq]
  split
  · rename_i empty
    simp [empty]
  · rename_i some
    split <;> simp_all

theorem postSend_lock (wsaSend flag : Bool) (p : IOCPPeer) :
    postSend wsaSend (IOCPPeer.lock.set flag p) =
      ((postSend wsaSend p).1, IOCPPeer.lock.set flag (postSend wsaSend p).2) := by
  rw [postSend_eq, postSend_eq,
    show (IOCPPeer.lock.set flag p).session.outgoing = p.session.outgoing from rfl]
  split
  · rfl
  · split <;> rfl

theorem lock_restored {p : IOCPPeer} (free : IOCPPeer.lock.held p = false) (flag : Bool) :
    IOCPPeer.lock.set false (IOCPPeer.lock.set flag p) = p :=
  congrArg (fun session => { p with session }) (Session.lock_restored free flag)

theorem postSend_free {p : IOCPPeer} (free : IOCPPeer.lock.held p = false) (wsaSend : Bool) :
    IOCPPeer.lock.held (postSend wsaSend p).2 = false := by
  rw [postSend_eq]
  split
  · exact free
  · split <;> exact free

theorem send_empty {packet : PacketBuffer} (wsaSend : Bool) (p : IOCPPeer)
    (empty : packet.contents = []) : send packet wsaSend p = .done false p :=
  if_pos ((PacketBuffer.isEmpty_iff packet).mpr empty)

/- Send on a session whose lock is free: refused by the overflow test, queued behind
   the send in flight, or answered as PostSend answers. -/
theorem send_eq {packet : PacketBuffer} (wsaSend : Bool) {p : IOCPPeer}
    (free : IOCPPeer.lock.held p = false) (packed : packet.contents ≠ []) :
    send packet wsaSend p =
      let q := { p with session := (p.session.writePacket packet).2 }
      if p.session.freeSpace < packet.contents.length then .done false q
      else if p.session.mIsSending then .done true q
      else .done (postSend wsaSend q).1 (postSend wsaSend q).2 := by
  have overflow : ((IOCPPeer.lock.set true p).session.writePacket packet).1 < packet.getSize ↔
      p.session.freeSpace < packet.contents.length := Session.writePacket_overflows_iff _ packet
  have queued : { IOCPPeer.lock.set true p with
        session := ((IOCPPeer.lock.set true p).session.writePacket packet).2 } =
      IOCPPeer.lock.set true { p with session := (p.session.writePacket packet).2 } := rfl
  have sending : ((IOCPPeer.lock.set true p).session.writePacket packet).2.mIsSending =
      p.session.mIsSending := rfl
  have free' : IOCPPeer.lock.held { p with session := (p.session.writePacket packet).2 } =
      false := free
  simp only [send, PacketBuffer.isEmpty_eq_false packed, Bool.false_eq_true, ↓reduceIte]
  rw [guarded_of_free free]
  simp only [overflow, queued, sending, postSend_lock]
  split
  · rw [Outcome.bind, lock_restored free']
  · split
    · rw [Outcome.bind, lock_restored free']
    · rw [Outcome.bind, lock_restored (postSend_free free' wsaSend)]

theorem processSend_eq (bytesTransferred : UInt32) (wsaSend : Bool) {p : IOCPPeer}
    (free : IOCPPeer.lock.held p = false) :
    processSend bytesTransferred wsaSend p =
      let q := { p with session := p.session.skipSent bytesTransferred.toUInt64 }
      if q.session.outgoing = [] then .done () { q with session := q.session.setSending false }
      else .done () (postSend wsaSend q).2 := by
  have left : 0 < ((IOCPPeer.lock.set true p).session.skipSent
        bytesTransferred.toUInt64).mSendBuffer.getAvailableRead ↔
      ¬(p.session.skipSent bytesTransferred.toUInt64).outgoing = [] :=
    LiveRing.getAvailableRead_pos_iff _
  have skipped : { IOCPPeer.lock.set true p with
        session := (IOCPPeer.lock.set true p).session.skipSent bytesTransferred.toUInt64 } =
      IOCPPeer.lock.set true
        { p with session := p.session.skipSent bytesTransferred.toUInt64 } := rfl
  have free' : IOCPPeer.lock.held
      { p with session := p.session.skipSent bytesTransferred.toUInt64 } = false := free
  simp only [processSend]
  rw [guarded_of_free free]
  simp only [skipped, postSend_lock, left, ite_not]
  split
  · exact congrArg (Outcome.done ()) (lock_restored
      (p := ⟨(p.session.skipSent bytesTransferred.toUInt64).setSending false, p.inflight⟩) free
      true)
  · rw [Outcome.bind, lock_restored (postSend_free free' wsaSend)]

structure Footprint (p p' : IOCPPeer) : Prop where
  mID : p'.session.mID = p.session.mID
  mState : p'.session.mState = p.session.mState
  free : IOCPPeer.lock.held p' = false
  posted : ∃ posted, p'.inflight = p.inflight ++ posted ∧
    ∀ context ∈ posted, ∃ wsaBuf, context = sendContext p.session.mID wsaBuf

theorem postSend_footprint {p : IOCPPeer} (free : IOCPPeer.lock.held p = false) (wsaSend : Bool) :
    Footprint p (postSend wsaSend p).2 := by
  have idle : Footprint p { p with session := p.session.setSending false } :=
    ⟨rfl, rfl, free, [], (List.append_nil _).symm, by simp⟩
  rw [postSend_eq]
  split
  · exact idle
  · split
    · exact ⟨rfl, rfl, free, [_], rfl, by simp⟩
    · exact idle

theorem send_footprint (packet : PacketBuffer) (wsaSend : Bool) {p : IOCPPeer}
    (free : IOCPPeer.lock.held p = false) :
    ∃ value p', send packet wsaSend p = .done value p' ∧ Footprint p p' := by
  by_cases empty : packet.contents = []
  · exact ⟨_, _, send_empty wsaSend p empty, rfl, rfl, free, [], by simp⟩
  have queued : Footprint p { p with session := (p.session.writePacket packet).2 } :=
    ⟨rfl, rfl, free, [], (List.append_nil _).symm, by simp⟩
  rw [send_eq wsaSend free empty]
  dsimp only
  split
  · exact ⟨_, _, rfl, queued⟩
  · split
    · exact ⟨_, _, rfl, queued⟩
    · obtain ⟨mID, mState, free', posted⟩ := postSend_footprint queued.free wsaSend
      exact ⟨_, _, rfl, mID, mState, free', posted⟩

theorem processSend_footprint (bytesTransferred : UInt32) (wsaSend : Bool) {p : IOCPPeer}
    (free : IOCPPeer.lock.held p = false) :
    ∃ p', processSend bytesTransferred wsaSend p = .done () p' ∧ Footprint p p' := by
  have skipped : Footprint p
      { p with session := p.session.skipSent bytesTransferred.toUInt64 } :=
    ⟨rfl, rfl, free, [], (List.append_nil _).symm, by simp⟩
  rw [processSend_eq bytesTransferred wsaSend free]
  dsimp only
  split
  · exact ⟨_, rfl, rfl, rfl, free, [], (List.append_nil _).symm, by simp⟩
  · obtain ⟨mID, mState, free', posted⟩ := postSend_footprint skipped.free wsaSend
    exact ⟨_, rfl, mID, mState, free', posted⟩

end IOCPPeer
end KanchoNet
