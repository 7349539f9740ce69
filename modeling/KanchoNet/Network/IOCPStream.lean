import KanchoNet.Network.IOCPSend
import KanchoNet.Lib.LabelledRuns
import KanchoNet.Lib.OutgoingStream

/-!
The outgoing stream of one IOCPModel session over whole runs of Send and send
completions, each atomic under the session lock. The bytes of a send in flight
are still in the buffer; only its completion takes them out.
-/
namespace KanchoNet
open GuardedSections LabelledRuns OutgoingStream

structure IOCPRun where
  peer : IOCPPeer
  accepted : List UInt8
  completed : List UInt8

namespace IOCPRun

inductive Event where
  | send (packet : PacketBuffer) (wsaSend : Bool)
  | complete (index : Nat) (bytesTransferred : UInt32) (wsaSend : Bool)

/-- A completion is of any operation in flight, for one byte up to all it posted. -/
def step (r : IOCPRun) : Event → Option IOCPRun
  | .send packet wsaSend =>
    match IOCPPeer.send packet wsaSend r.peer with
    | .done _ peer => some { r with
        peer, accepted := r.accepted ++ r.peer.session.acceptedPrefix packet }
    | _ => none
  | .complete index bytesTransferred wsaSend =>
    match r.peer.inflight[index]? with
    | none => none
    | some context =>
      if 0 < bytesTransferred.toNat ∧ bytesTransferred.toNat ≤ context.wsaBuf.length then
        match IOCPPeer.processSend bytesTransferred wsaSend
            { r.peer with inflight := r.peer.inflight.eraseIdx index } with
        | .done _ peer => some { r with
            peer, completed := r.completed ++ context.wsaBuf.take bytesTransferred.toNat }
        | _ => none
      else none

def start (id : SessionID) (socket : SOCKET) (config : SessionConfig) : IOCPRun where
  peer := ⟨Session.accepted id socket config, []⟩
  accepted := []
  completed := []

/-- Nothing is in flight for an idle session; otherwise one send is, of the bytes at
    the front of the buffer. -/
def OneFlight (p : IOCPPeer) : Prop :=
  (p.session.mIsSending = false ∧ p.inflight = []) ∨
  (p.session.mIsSending = true ∧ ∃ wsaBuf, p.inflight = [sendContext p.session.mID wsaBuf] ∧
    wsaBuf ≠ [] ∧ wsaBuf <+: p.session.outgoing)

theorem OneFlight.landed {p : IOCPPeer} (flight : OneFlight p) {index : Nat}
    {context : OverlappedContext} (found : p.inflight[index]? = some context) :
    p.inflight.eraseIdx index = [] ∧ context.wsaBuf <+: p.session.outgoing := by
  rcases flight with ⟨_, none⟩ | ⟨_, wsaBuf, one, _, front⟩
  · simp [none] at found
  · rw [one, List.getElem?_singleton] at found
    split at found
    · rename_i first
      cases found
      rw [one, first]
      exact ⟨rfl, front⟩
    · cases found

theorem postSend_flight {p : IOCPPeer} (wsaSend : Bool) (idle : p.inflight = []) :
    OneFlight (IOCPPeer.postSend wsaSend p).2 := by
  rw [IOCPPeer.postSend_eq]
  split
  · exact Or.inl ⟨rfl, idle⟩
  · rename_i some
    split
    · refine Or.inr ⟨rfl, p.session.outgoing.take 8192, by rw [idle]; rfl, ?_,
        List.take_prefix _ _⟩
      simpa using some
    · exact Or.inl ⟨rfl, idle⟩

theorem send_flight {p : IOCPPeer} (flight : OneFlight p) (free : IOCPPeer.lock.held p = false)
    (packet : PacketBuffer) (wsaSend : Bool) :
    ∃ value p', IOCPPeer.send packet wsaSend p = .done value p' ∧
      IOCPPeer.lock.held p' = false ∧ OneFlight p' ∧
      p'.session.outgoing = p.session.outgoing ++ p.session.acceptedPrefix packet ∧
      (p'.session.mIsSending = true ↔ p.session.mIsSending = true ∨ packet.contents ≠ [] ∧
        packet.contents.length ≤ p.session.freeSpace ∧ wsaSend = true) := by
  by_cases empty : packet.contents = []
  · refine ⟨_, _, IOCPPeer.send_empty wsaSend p empty, free, flight, ?_, by simp [empty]⟩
    rw [Session.acceptedPrefix_empty _ empty, List.append_nil]
  have queued := Session.outgoing_writePacket_accepted p.session packet
  have behind : OneFlight { p with session := (p.session.writePacket packet).2 } := by
    rcases flight with ⟨idle, none⟩ | ⟨busy, wsaBuf, one, some, front⟩
    · exact Or.inl ⟨idle, none⟩
    · refine Or.inr ⟨busy, wsaBuf, one, some, ?_⟩
      rw [queued]
      exact front.trans (List.prefix_append _ _)
  have free' : IOCPPeer.lock.held { p with session := (p.session.writePacket packet).2 } =
      false := free
  rw [IOCPPeer.send_eq wsaSend free empty]
  dsimp only
  split
  · rename_i overflow
    refine ⟨_, _, rfl, free, behind, queued, (?_ : p.session.mIsSending = true ↔ _)⟩
    simp [Nat.not_le.mpr overflow]
  · rename_i fits
    rw [Nat.not_lt] at fits
    split
    · rename_i busy
      refine ⟨_, _, rfl, free, behind, queued, (?_ : p.session.mIsSending = true ↔ _)⟩
      simp [busy]
    · rename_i idle
      have nothing : p.inflight = [] := by
        rcases flight with ⟨_, none⟩ | ⟨busy, _⟩
        · exact none
        · exact absurd busy idle
      refine ⟨_, _, rfl, IOCPPeer.postSend_free free' wsaSend,
        postSend_flight wsaSend nothing, (IOCPPeer.postSend_outgoing _ _).trans queued, ?_⟩
      have more := Session.outgoing_writePacket_ne_nil empty (Session.freeSpace_ne_zero empty fits)
      rw [IOCPPeer.postSend_sending]
      simp [more, idle, empty, fits]

theorem processSend_flight {p : IOCPPeer} (idle : p.inflight = [])
    (free : IOCPPeer.lock.held p = false) (bytesTransferred : UInt32) (wsaSend : Bool) :
    ∃ p', IOCPPeer.processSend bytesTransferred wsaSend p = .done () p' ∧
      IOCPPeer.lock.held p' = false ∧ OneFlight p' ∧
      p'.session.outgoing = p.session.outgoing.drop bytesTransferred.toNat ∧
      (p'.session.mIsSending = true ↔
        wsaSend = true ∧ p.session.outgoing.drop bytesTransferred.toNat ≠ []) := by
  have left := Session.outgoing_skipSent p.session bytesTransferred.toUInt64
  rw [UInt32.toNat_toUInt64] at left
  have free' : IOCPPeer.lock.held
      { p with session := p.session.skipSent bytesTransferred.toUInt64 } = false := free
  rw [IOCPPeer.processSend_eq bytesTransferred wsaSend free]
  dsimp only
  split
  · rename_i drained
    rw [left] at drained
    exact ⟨_, rfl, free, Or.inl ⟨rfl, idle⟩, left, by simp [drained]⟩
  · refine ⟨_, rfl, IOCPPeer.postSend_free free' wsaSend,
      postSend_flight wsaSend idle, (IOCPPeer.postSend_outgoing _ _).trans left, ?_⟩
    rw [IOCPPeer.postSend_sending, left]

structure Streams (r : IOCPRun) (s : Stream UInt8) : Prop where
  free : IOCPPeer.lock.held r.peer = false
  flight : OneFlight r.peer
  accepted : s.accepted = r.accepted
  sent : s.sent = r.completed
  pending : s.pending = r.peer.session.outgoing

theorem start_streams (id : SessionID) (socket : SOCKET) (config : SessionConfig) :
    Streams (start id socket config) Stream.empty :=
  ⟨rfl, Or.inl ⟨rfl, rfl⟩, rfl, rfl, (Session.outgoing_accepted id socket config).symm⟩

theorem step_streams (r : IOCPRun) (e : Event) (r' : IOCPRun) (s : Stream UInt8)
    (streams : Streams r s) (next : step r e = some r') :
    ∃ t, Relation.ReflTransGen OutgoingStream.Step s t ∧ Streams r' t := by
  obtain ⟨free, flight, accepted, sent, pending⟩ := streams
  cases e with
  | send packet wsaSend =>
    obtain ⟨value, peer, run, free', flight', queued, _⟩ := send_flight flight free packet wsaSend
    simp only [step, run] at next
    cases next
    exact ⟨s.accept (r.peer.session.acceptedPrefix packet), .single (.accept s _), free', flight',
      by rw [accept_accepted, accepted], sent, by rw [queued, accept_pending, pending]⟩
  | complete index bytesTransferred wsaSend =>
    simp only [step] at next
    split at next
    · cases next
    · rename_i context found
      obtain ⟨landed, front⟩ := flight.landed found
      split at next
      · rename_i valid
        obtain ⟨peer, run, free', flight', left, _⟩ := processSend_flight
          (p := { r.peer with inflight := r.peer.inflight.eraseIdx index }) landed free
          bytesTransferred wsaSend
        rw [run] at next
        cases next
        refine ⟨s.transmit bytesTransferred.toNat, .single (.transmit s _), free', flight',
          accepted, ?_, by rw [left, transmit_pending, pending]⟩
        obtain ⟨rest, whole⟩ := front
        rw [transmit_sent, pending, sent, ← whole, List.take_append_of_le_length valid.2]
      · cases next

/-- In every state of every run at most one send is in flight, exactly while the
    session is marked sending; its bytes are at the front of the buffer; and the
    bytes completed and the bytes still buffered are the bytes accepted, in order. -/
theorem iocp_stream_faithful {id : SessionID} {socket : SOCKET} {config : SessionConfig}
    {es : List Event} {r : IOCPRun} (reached : r ∈ states step (start id socket config) es) :
    r.peer.inflight.length ≤ 1 ∧
    (r.peer.session.mIsSending = true ↔ r.peer.inflight ≠ []) ∧
    (∀ context ∈ r.peer.inflight, context.operation = .send ∧
      context.session = some r.peer.session.mID ∧ context.wsaBuf <+: r.peer.session.outgoing) ∧
    r.completed ++ r.peer.session.outgoing = r.accepted := by
  obtain ⟨s, _, streams⟩ := run_simulated step_streams es _ _
    (start_streams id socket config) r reached
  have balanced : r.completed ++ r.peer.session.outgoing = r.accepted := by
    rw [← streams.sent, ← streams.pending, ← streams.accepted]
    exact s.balanced
  rcases streams.flight with ⟨idle, none⟩ | ⟨busy, wsaBuf, one, _, front⟩
  · simp [none, idle, balanced]
  · simp [one, busy, balanced, sendContext, front]

/- A packet of three bytes posted, and two of them reported sent. -/
theorem partly_completed_packet_streams :
    ∃ r, (step (start 1 7 ⟨4, by decide⟩)
        (.send (PacketBuffer.ofBytes [1, 2, 3] 3 (by decide)) true)).bind
        (fun r => step r (.complete 0 2 true)) = some r ∧
      r.completed ++ r.peer.session.outgoing = [1, 2, 3] := by
  have queued : ((step (start 1 7 ⟨4, by decide⟩)
      (.send (PacketBuffer.ofBytes [1, 2, 3] 3 (by decide)) true)).bind
        (fun r => step r (.complete 0 2 true))).map IOCPRun.accepted = some [1, 2, 3] := by
    decide +kernel
  obtain ⟨r, run, accepted⟩ := Option.map_eq_some_iff.mp queued
  obtain ⟨r₁, sent, completed⟩ := Option.bind_eq_some_iff.mp run
  have reached := mem_states_next sent
    (mem_states_next completed (mem_states_self step r []))
  exact ⟨r, run, (iocp_stream_faithful reached).2.2.2.trans accepted⟩

end IOCPRun
end KanchoNet
