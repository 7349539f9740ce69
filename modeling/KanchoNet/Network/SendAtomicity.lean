import KanchoNet.Network.PendingSends
import KanchoNet.Network.IOCPModel
import KanchoNet.Network.SessionLocks

/-!
What Send reports and what it did to the outgoing stream, for the three models. Write
takes what fits before the overflow test, and IOCPModel queues before it posts.
-/
namespace KanchoNet
open GuardedSections

/-- A Send that reports success added the packet, one that reports failure nothing. -/
def AllOrNothing (packet : PacketBuffer) (before : List UInt8) (value : Bool)
    (after : List UInt8) : Prop :=
  after = if value then before ++ packet.contents else before

variable {Handle : Type}

/- A Send that is refused for overflow has kept what fitted. -/
theorem refused_all_or_nothing_iff {packet : PacketBuffer} {s : Session Handle}
    (packed : packet.contents ≠ []) {after : List UInt8}
    (queued : after = s.outgoing ++ s.acceptedPrefix packet) :
    AllOrNothing packet s.outgoing false after ↔ s.freeSpace = 0 := by
  rw [← Session.acceptedPrefix_eq_nil_iff packed, AllOrNothing, queued]
  simp

theorem whole_all_or_nothing {packet : PacketBuffer} {s : Session Handle}
    (fits : packet.contents.length ≤ s.freeSpace) {after : List UInt8}
    (queued : after = s.outgoing ++ s.acceptedPrefix packet) :
    AllOrNothing packet s.outgoing true after := by
  rw [queued, Session.acceptedPrefix_whole fits]
  rfl

theorem EpollModel.send_whole_iff {packet : PacketBuffer}
    (packed : packet.contents ≠ []) {p : EpollPeer} (free : EpollPeer.lock.held p = false)
    (granted : Bool) :
    (∀ value p', EpollModel.send packet granted p = .done value p' →
      AllOrNothing packet p.session.outgoing value p'.session.outgoing) ↔
      packet.contents.length ≤ p.session.freeSpace ∨ p.session.freeSpace = 0 := by
  obtain ⟨p', run, _, _, queued, _⟩ := EpollModel.send_spec granted free packed
  rw [run, forall_done_iff]
  by_cases fits : packet.contents.length ≤ p.session.freeSpace
  · rw [decide_eq_true fits]
    exact iff_of_true (whole_all_or_nothing fits queued) (Or.inl fits)
  · rw [decide_eq_false fits, refused_all_or_nothing_iff packed queued]
    simp [fits]

theorem IOCPPeer.send_whole_iff {packet : PacketBuffer} (packed : packet.contents ≠ [])
    {p : IOCPPeer} (free : IOCPPeer.lock.held p = false) (wsaSend : Bool) :
    (∀ value p', IOCPPeer.send packet wsaSend p = .done value p' →
      AllOrNothing packet p.session.outgoing value p'.session.outgoing) ↔
      p.session.freeSpace = 0 ∨ packet.contents.length ≤ p.session.freeSpace ∧
        (p.session.mIsSending = true ∨ wsaSend = true) := by
  have queued := Session.outgoing_writePacket_accepted p.session packet
  rw [IOCPPeer.send_eq wsaSend free packed]
  dsimp only
  by_cases overflow : p.session.freeSpace < packet.contents.length
  · rw [if_pos overflow, forall_done_iff, refused_all_or_nothing_iff packed queued]
    simp [Nat.not_le.mpr overflow]
  · have fits := Nat.not_lt.mp overflow
    rw [if_neg overflow]
    by_cases busy : p.session.mIsSending = true
    · rw [if_pos busy, forall_done_iff]
      exact iff_of_true (whole_all_or_nothing fits queued) (Or.inr ⟨fits, Or.inl busy⟩)
    · have more :=
        Session.outgoing_writePacket_ne_nil packed (Session.freeSpace_ne_zero packed fits)
      rw [if_neg busy, forall_done_iff, IOCPPeer.postSend_outgoing]
      cases wsaSend with
      | true =>
        rw [IOCPPeer.postSend_posts (p := ⟨_, p.inflight⟩) more]
        exact iff_of_true (whole_all_or_nothing fits queued) (Or.inr ⟨fits, Or.inr rfl⟩)
      | false =>
        -- the packet stays queued although its Send reports a failure
        rw [IOCPPeer.postSend_fails (p := ⟨_, p.inflight⟩) more,
          refused_all_or_nothing_iff packed queued]
        simp [busy]

theorem IOUringModel.send_whole_iff {packet : PacketBuffer}
    (packed : packet.contents ≠ []) {m : IOUringModel} {id : SessionID} {session : Session Fd}
    (found : m.mSessionManager.getSession id = some session) (free : session.mLock.mFlag = false)
    (a : SubmitAnswers) :
    (∀ value m', IOUringModel.send id packet a m = .done value m' →
      ∀ session', m'.mSessionManager.getSession id = some session' →
        AllOrNothing packet session.outgoing value session'.outgoing) ↔
      packet.contents.length ≤ session.freeSpace ∨ session.freeSpace = 0 := by
  have queued := Session.outgoing_writePacket_accepted session packet
  have stored := IOUringModel.getSession_setSession id (session.writePacket packet).2 m
  have written : ∀ value, (∀ session', (m.setSession id
      (session.writePacket packet).2).mSessionManager.getSession id = some session' →
      AllOrNothing packet session.outgoing value session'.outgoing) ↔
      AllOrNothing packet session.outgoing value (session.writePacket packet).2.outgoing := by
    intro value
    simp [stored]
  rw [IOUringModel.send_eq found free packed]
  dsimp only
  by_cases overflow : session.freeSpace < packet.contents.length
  · rw [if_pos overflow, forall_done_iff, written, refused_all_or_nothing_iff packed queued]
    simp [Nat.not_le.mpr overflow]
  · have fits := Nat.not_lt.mp overflow
    rw [if_neg overflow]
    split
    · rw [forall_done_iff, written]
      exact iff_of_true (whole_all_or_nothing fits queued) (Or.inl fits)
    · -- an idle session's Send does not come back
      exact iff_of_true (fun _ _ none => by cases none) (Or.inl fits)

/-- When Send is all or nothing: in EpollModel and IOUringModel if the packet fits or
    nothing does; in IOCPModel it must also be queued behind a send or be posted. -/
theorem send_all_or_nothing_iff {packet : PacketBuffer} (packed : packet.contents ≠ [])
    {p : EpollPeer} (freeP : EpollPeer.lock.held p = false) (granted : Bool)
    {q : IOCPPeer} (freeQ : IOCPPeer.lock.held q = false) (wsaSend : Bool)
    {m : IOUringModel} {id : SessionID} {session : Session Fd}
    (found : m.mSessionManager.getSession id = some session) (free : session.mLock.mFlag = false)
    (a : SubmitAnswers) :
    ((∀ value p', EpollModel.send packet granted p = .done value p' →
      AllOrNothing packet p.session.outgoing value p'.session.outgoing) ↔
      packet.contents.length ≤ p.session.freeSpace ∨ p.session.freeSpace = 0) ∧
    ((∀ value q', IOCPPeer.send packet wsaSend q = .done value q' →
      AllOrNothing packet q.session.outgoing value q'.session.outgoing) ↔
      q.session.freeSpace = 0 ∨ packet.contents.length ≤ q.session.freeSpace ∧
        (q.session.mIsSending = true ∨ wsaSend = true)) ∧
    ((∀ value m', IOUringModel.send id packet a m = .done value m' →
      ∀ session', m'.mSessionManager.getSession id = some session' →
        AllOrNothing packet session.outgoing value session'.outgoing) ↔
      packet.contents.length ≤ session.freeSpace ∨ session.freeSpace = 0) :=
  ⟨EpollModel.send_whole_iff packed freeP granted,
    IOCPPeer.send_whole_iff packed freeQ wsaSend,
    IOUringModel.send_whole_iff packed found free a⟩

def threeBytes : PacketBuffer := PacketBuffer.ofBytes [1, 2, 3] 3 (by decide)

def epollClient : EpollPeer :=
  ⟨Session.accepted 1 7 .default, (EpollRegistry.listening 3).acceptSocket 7 0x1000 true⟩

def iocpClient : IOCPPeer := ⟨Session.accepted 1 9 .default, [receiveContext 1]⟩

theorem fitting_packet_all_or_nothing :
    (∀ value p', EpollModel.send threeBytes true epollClient = .done value p' →
      AllOrNothing threeBytes epollClient.session.outgoing value p'.session.outgoing) ∧
    (∀ value q', IOCPPeer.send threeBytes true iocpClient = .done value q' →
      AllOrNothing threeBytes iocpClient.session.outgoing value q'.session.outgoing) := by
  have all := send_all_or_nothing_iff (show threeBytes.contents ≠ [] by decide)
    (p := epollClient) rfl true (q := iocpClient) rfl true IOUringModel.oneClient_found rfl
    ⟨true, true⟩
  refine ⟨all.1.mpr (Or.inl ?_), all.2.1.mpr (Or.inr ⟨?_, Or.inr rfl⟩)⟩
  · rw [epollClient, Session.freeSpace_accepted]
    decide
  · rw [iocpClient, Session.freeSpace_accepted]
    decide

/- A packet one byte too long is refused and cut short in the stream; a packet whose
   post fails is refused and left there whole. -/
theorem refused_packets_stay :
    ¬(∀ value p', EpollModel.send oversizedPacket true epollClient = .done value p' →
      AllOrNothing oversizedPacket epollClient.session.outgoing value p'.session.outgoing) ∧
    ¬(∀ value q', IOCPPeer.send threeBytes false iocpClient = .done value q' →
      AllOrNothing threeBytes iocpClient.session.outgoing value q'.session.outgoing) ∧
    ¬(∀ value m', IOUringModel.send 1 oversizedPacket ⟨true, true⟩ IOUringModel.oneClient =
        .done value m' → ∀ session', m'.mSessionManager.getSession 1 = some session' →
      AllOrNothing oversizedPacket (Session.accepted 1 (7 : Fd) .default).outgoing value
        session'.outgoing) := by
  have long := oversizedPacket_length
  have packed := oversizedPacket_packed
  rw [EpollModel.send_whole_iff packed rfl, IOCPPeer.send_whole_iff (by decide) rfl,
    IOUringModel.send_whole_iff packed IOUringModel.oneClient_found rfl, long, epollClient,
    iocpClient, Session.freeSpace_accepted, Session.freeSpace_accepted]
  decide

end KanchoNet
