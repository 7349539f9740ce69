import KanchoNet.Network.EpollPending
import KanchoNet.Network.IOCPStream

/-!
Outgoing bytes that wait for a transmission, for IOCPModel and for both models. An
IOCP session is stranded by a Send that does not fit or whose post fails while it
is idle, and by a completion that can not post what is left.
-/
namespace KanchoNet
open GuardedSections LabelledRuns

namespace IOCPRun

def Pending (r : IOCPRun) : Prop :=
  r.peer.session.outgoing ≠ [] → r.peer.session.mIsSending = true ∧
    ∃ context ∈ r.peer.inflight, context.operation = .send ∧
      context.session = some r.peer.session.mID

/-- A Send to an idle session is empty, finds no room at all, or fits and is posted;
    a completion leaves nothing to send, or what it leaves is posted. -/
def Posts (r : IOCPRun) : Event → Prop
  | .send packet wsaSend =>
    r.peer.session.mIsSending = true ∨ packet.contents = [] ∨ r.peer.session.freeSpace = 0 ∨
      (packet.contents.length ≤ r.peer.session.freeSpace ∧ wsaSend = true)
  | .complete _ bytesTransferred wsaSend =>
    wsaSend = true ∨ r.peer.session.outgoing.length ≤ bytesTransferred.toNat

structure Tracked (r : IOCPRun) : Prop where
  free : IOCPPeer.lock.held r.peer = false
  flight : OneFlight r.peer
  idle : r.peer.session.mIsSending = false → r.peer.session.outgoing = []

theorem start_tracked (id : SessionID) (socket : SOCKET) (config : SessionConfig) :
    Tracked (start id socket config) :=
  ⟨rfl, Or.inl ⟨rfl, rfl⟩, fun _ => Session.outgoing_accepted id socket config⟩

theorem tracked_pending (r : IOCPRun) (tracked : Tracked r) : Pending r := by
  intro nonempty
  rcases tracked.flight with ⟨idle, _⟩ | ⟨busy, wsaBuf, one, _⟩
  · exact absurd (tracked.idle idle) nonempty
  · exact ⟨busy, _, by rw [one]; exact List.mem_singleton_self _, rfl, rfl⟩

/- A tracked session takes every Send; what is left of the lemma is the flag. -/
theorem step_send_tracked {r r' : IOCPRun} {packet : PacketBuffer} {wsaSend : Bool}
    (tracked : Tracked r) (next : step r (.send packet wsaSend) = some r') :
    IOCPPeer.lock.held r'.peer = false ∧ OneFlight r'.peer ∧
      r'.peer.session.outgoing = r.peer.session.outgoing ++ r.peer.session.acceptedPrefix packet ∧
      (r'.peer.session.mIsSending = true ↔ r.peer.session.mIsSending = true ∨
        packet.contents ≠ [] ∧ packet.contents.length ≤ r.peer.session.freeSpace ∧
          wsaSend = true) := by
  obtain ⟨value, peer, run, after⟩ := send_flight tracked.flight tracked.free packet wsaSend
  simp only [step, run] at next
  cases next
  exact after

theorem step_send_some {r : IOCPRun} (tracked : Tracked r) (packet : PacketBuffer)
    (wsaSend : Bool) : ∃ r', step r (.send packet wsaSend) = some r' := by
  obtain ⟨value, peer, run, _⟩ := send_flight tracked.flight tracked.free packet wsaSend
  simp only [step, run]
  exact ⟨_, rfl⟩

theorem step_complete_tracked {r r' : IOCPRun} {index : Nat} {bytesTransferred : UInt32}
    {wsaSend : Bool} (tracked : Tracked r)
    (next : step r (.complete index bytesTransferred wsaSend) = some r') :
    IOCPPeer.lock.held r'.peer = false ∧ OneFlight r'.peer ∧
      r'.peer.session.outgoing = r.peer.session.outgoing.drop bytesTransferred.toNat ∧
      (r'.peer.session.mIsSending = true ↔
        wsaSend = true ∧ r.peer.session.outgoing.drop bytesTransferred.toNat ≠ []) := by
  simp only [step] at next
  split at next
  · cases next
  · rename_i context found
    split at next
    · obtain ⟨peer, run, after⟩ := processSend_flight
        (p := { r.peer with inflight := r.peer.inflight.eraseIdx index })
        (tracked.flight.landed found).1 tracked.free bytesTransferred wsaSend
      rw [run] at next
      cases next
      exact after
    · cases next

theorem step_tracked (r : IOCPRun) (e : Event) (r' : IOCPRun) (tracked : Tracked r)
    (posts : Posts r e) (next : step r e = some r') : Tracked r' := by
  cases e with
  | send packet wsaSend =>
    obtain ⟨free, flight, queued, sending⟩ := step_send_tracked tracked next
    refine ⟨free, flight, fun idle => ?_⟩
    rw [← Bool.not_eq_true, sending, not_or, not_and, not_and] at idle
    have nothing := tracked.idle (Bool.not_eq_true _ ▸ idle.1)
    rw [queued, nothing, List.nil_append]
    rcases posts with busy | empty | full | ⟨fits, posted⟩
    · exact absurd busy idle.1
    · exact Session.acceptedPrefix_empty _ empty
    · exact Session.acceptedPrefix_full packet full
    · by_cases empty : packet.contents = []
      · exact Session.acceptedPrefix_empty _ empty
      · exact absurd posted (idle.2 empty fits)
  | complete index bytesTransferred wsaSend =>
    obtain ⟨free, flight, left, sending⟩ := step_complete_tracked tracked next
    refine ⟨free, flight, fun idle => ?_⟩
    rw [← Bool.not_eq_true, sending, not_and, not_not] at idle
    rw [left]
    rcases posts with posted | short
    · exact idle posted
    · exact List.drop_eq_nil_iff.mpr short

theorem unposted_strands (r : IOCPRun) (e : Event) (r' : IOCPRun) (tracked : Tracked r)
    (unposted : ¬Posts r e) (next : step r e = some r') : ¬Pending r' := by
  intro pending
  cases e with
  | send packet wsaSend =>
    obtain ⟨_, _, queued, sending⟩ := step_send_tracked tracked next
    simp only [Posts, not_or, not_and] at unposted
    obtain ⟨idle, packed, room, refused⟩ := unposted
    have nonempty : r'.peer.session.outgoing ≠ [] := by
      rw [queued]
      simp [Session.acceptedPrefix_ne_nil packed room]
    rcases sending.mp (pending nonempty).1 with busy | ⟨_, fits, posted⟩
    · exact idle busy
    · exact refused fits posted
  | complete index bytesTransferred wsaSend =>
    obtain ⟨_, _, left, sending⟩ := step_complete_tracked tracked next
    simp only [Posts, not_or, Nat.not_le] at unposted
    have nonempty : r'.peer.session.outgoing ≠ [] := by
      rw [left, Ne, List.drop_eq_nil_iff]
      omega
    exact unposted.1 (sending.mp (pending nonempty).1).1

end IOCPRun

/-- In a run of either model from a newly connected session, buffered bytes always
    have a transmission pending exactly when every step of the run meets the guard. -/
theorem transmission_pending_along_iff (id : SessionID) (config : SessionConfig) {socket : Fd}
    {registry : EpollRegistry} (session : SessionPtr) (fresh : socket ∉ registry.interest)
    (es : List EpollRun.Event) (handle : SOCKET) (fs : List IOCPRun.Event) :
    ((∀ r ∈ states EpollRun.step (EpollRun.connected id socket config registry session) es,
        r.Pending) ↔
      ∀ x ∈ steps EpollRun.step (EpollRun.connected id socket config registry session) es,
        x.1.Armed x.2) ∧
    ((∀ r ∈ states IOCPRun.step (IOCPRun.start id handle config) fs, r.Pending) ↔
      ∀ x ∈ steps IOCPRun.step (IOCPRun.start id handle config) fs, x.1.Posts x.2) :=
  ⟨holds_along_iff EpollRun.step_tracked EpollRun.tracked_pending EpollRun.unarmed_strands es _
      (fun _ => EpollRun.connected_tracked id config session fresh),
    holds_along_iff IOCPRun.step_tracked IOCPRun.tracked_pending IOCPRun.unposted_strands fs _
      (IOCPRun.start_tracked id handle config)⟩

theorem three_bytes_stay_pending :
    (∀ r ∈ states EpollRun.step (EpollRun.connected 1 7 ⟨4, by decide⟩ (.listening 3) 0x1000)
        [.send (PacketBuffer.ofBytes [1, 2, 3] 3 (by decide)) true], r.Pending) ∧
    ∀ r ∈ states IOCPRun.step (IOCPRun.start 1 9 ⟨4, by decide⟩)
        [.send (PacketBuffer.ofBytes [1, 2, 3] 3 (by decide)) true], r.Pending := by
  have both := transmission_pending_along_iff 1 ⟨4, by decide⟩ 0x1000
    (show (7 : Fd) ∉ (EpollRegistry.listening 3).interest by decide)
    [.send (PacketBuffer.ofBytes [1, 2, 3] 3 (by decide)) true] 9
    [.send (PacketBuffer.ofBytes [1, 2, 3] 3 (by decide)) true]
  refine ⟨both.1.mpr fun x member => ?_, both.2.mpr fun x member => ?_⟩
  · rw [mem_steps_single member]
    exact Or.inr (Or.inr (Or.inr ⟨by decide +kernel, Or.inl rfl⟩))
  · rw [mem_steps_single member]
    exact Or.inr (Or.inr (Or.inr ⟨by decide +kernel, rfl⟩))

def oversizedPacket : PacketBuffer :=
  PacketBuffer.ofBytes (List.replicate 2097153 0) 2097153
    (by rw [List.length_replicate]; decide)

theorem oversizedPacket_length : oversizedPacket.contents.length = 2097153 :=
  oversizedPacket.contents_length

theorem oversizedPacket_packed : oversizedPacket.contents ≠ [] := by
  rw [← List.length_pos_iff, oversizedPacket_length]
  decide

/- A packet one byte too long fills the buffer of either model, and nothing is pending. -/
theorem oversized_packet_strands :
    (∃ r ∈ states EpollRun.step (EpollRun.connected 1 7 .default (.listening 3) 0x1000)
        [.send oversizedPacket true], ¬r.Pending) ∧
    ∃ r ∈ states IOCPRun.step (IOCPRun.start 1 9 .default) [.send oversizedPacket true],
      ¬r.Pending := by
  have long := oversizedPacket_length
  have packed := oversizedPacket_packed
  constructor
  · have room : (EpollRun.connected 1 7 .default (.listening 3) 0x1000).peer.session.freeSpace =
        2097152 := Session.freeSpace_accepted _ _ _
    have tracked := EpollRun.connected_tracked 1 .default 0x1000
      (show (7 : Fd) ∉ (EpollRegistry.listening 3).interest by decide)
    obtain ⟨r, next⟩ := EpollRun.step_send_some tracked.free rfl oversizedPacket true
    refine ⟨r, mem_states_next next (mem_states_self _ _ _),
      EpollRun.unarmed_strands _ _ _ (fun _ => tracked) ?_ next⟩
    rintro (busy | empty | full | ⟨fits, _⟩)
    · exact Bool.false_ne_true busy
    · exact packed empty
    · omega
    · omega
  · have room : (IOCPRun.start 1 9 .default).peer.session.freeSpace = 2097152 :=
      Session.freeSpace_accepted _ _ _
    have tracked := IOCPRun.start_tracked 1 9 .default
    obtain ⟨r, next⟩ := IOCPRun.step_send_some tracked oversizedPacket true
    refine ⟨r, mem_states_next next (mem_states_self _ _ _),
      IOCPRun.unposted_strands _ _ _ tracked ?_ next⟩
    rintro (busy | empty | full | ⟨fits, _⟩)
    · exact Bool.false_ne_true busy
    · exact packed empty
    · omega
    · omega

end KanchoNet
