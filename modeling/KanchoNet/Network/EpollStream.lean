import KanchoNet.Network.EpollSend
import KanchoNet.Lib.OutgoingStream

/-!
The outgoing stream of one EpollModel session over whole runs of Send and
ProcessSend, each atomic under the session lock, up to the session's disconnect.
-/
namespace KanchoNet
open GuardedSections LabelledRuns OutgoingStream

structure EpollRun where
  peer : EpollPeer
  accepted : List UInt8
  wire : List UInt8
  ended : Bool

namespace EpollRun

inductive Event where
  | send (packet : PacketBuffer) (granted : Bool)
  | processSend (answers : SendAnswers) (granted : Bool)

def step (r : EpollRun) : Event → Option EpollRun
  | .send packet granted =>
    if r.ended then none else
    match EpollModel.send packet granted r.peer with
    | .done _ peer => some { r with
        peer, accepted := r.accepted ++ r.peer.session.acceptedPrefix packet }
    | _ => none
  | .processSend answers granted =>
    if r.ended then none else
    match EpollModel.processSend answers granted r.peer with
    | .done result peer => some { r with
        peer, wire := r.wire ++ result.wire, ended := result.ending = .disconnect }
    | _ => none

def start (id : SessionID) (socket : Fd) (config : SessionConfig) (registry : EpollRegistry) :
    EpollRun where
  peer := ⟨Session.accepted id socket config, registry⟩
  accepted := []
  wire := []
  ended := false

/-- The run's bytes are those of an abstract stream, and the lock is free. -/
structure Streams (r : EpollRun) (s : Stream UInt8) : Prop where
  free : EpollPeer.lock.held r.peer = false
  accepted : s.accepted = r.accepted
  sent : s.sent = r.wire
  pending : s.pending = r.peer.session.outgoing

theorem start_streams (id : SessionID) (socket : Fd) (config : SessionConfig)
    (registry : EpollRegistry) : Streams (start id socket config registry) Stream.empty :=
  ⟨rfl, rfl, rfl, (Session.outgoing_accepted id socket config).symm⟩

/- A Send is one accept of the stream, a ProcessSend one transmit. -/
theorem step_streams (r : EpollRun) (e : Event) (r' : EpollRun) (s : Stream UInt8)
    (streams : Streams r s) (next : step r e = some r') :
    ∃ t, Relation.ReflTransGen OutgoingStream.Step s t ∧ Streams r' t := by
  obtain ⟨free, accepted, sent, pending⟩ := streams
  cases e with
  | send packet granted =>
    simp only [step] at next
    split at next
    · cases next
    · refine ⟨s.accept (r.peer.session.acceptedPrefix packet), .single (.accept s _), ?_⟩
      by_cases empty : packet.contents = []
      · rw [EpollModel.send_empty granted r.peer empty] at next
        cases next
        have none := r.peer.session.acceptedPrefix_empty empty
        exact ⟨free, by rw [accept_accepted, accepted], sent,
          by rw [none, accept_pending, List.append_nil, pending]⟩
      · obtain ⟨peer, run, free', _, queued, _, _⟩ := EpollModel.send_spec granted free empty
        rw [run] at next
        cases next
        exact ⟨free', by rw [accept_accepted, accepted], sent,
          by rw [queued, accept_pending, pending]⟩
  | processSend answers granted =>
    simp only [step] at next
    split at next
    · cases next
    · obtain ⟨result, peer, run, free', _, stream, _⟩ :=
        EpollModel.processSend_spec answers granted free
      rw [run] at next
      cases next
      refine ⟨s.transmit result.wire.length, .single (.transmit s _), free', accepted, ?_, ?_⟩
      · rw [transmit_sent, pending, ← stream, List.take_left, sent]
      · rw [transmit_pending, pending, ← stream, List.drop_left]

/-- A ProcessSend offered the kernel the front of what was left again and again, the
    bytes taken are gone from the buffer and no others, and it ended with everything sent
    and the session idle, with the rest still queued after an EAGAIN, or in a disconnect
    after an answer of zero or an error. -/
def EndsWell (answers : SendAnswers) (before after : EpollPeer) (result : LoopResult) : Prop :=
  EpollModel.Asked answers 0 before.session.outgoing result.log ∧
  result.calls = result.log.length ∧
  result.wire ++ after.session.outgoing = before.session.outgoing ∧
  EpollModel.Follows result.ending result.log ∧
  match result.ending with
  | .drained => after.session.outgoing = [] ∧ after.session.mIsSending = false
  | .wouldBlock => after.session.outgoing ≠ [] ∧
      after.session.mIsSending = before.session.mIsSending
  | .disconnect => after.session.outgoing ≠ []

/-- In every state of every run the bytes the kernel took and the bytes still
    buffered are the bytes accepted, in order; and a ProcessSend there returns
    after at most one send() per buffered byte and one more. -/
theorem epoll_stream_faithful {id : SessionID} {socket : Fd} {config : SessionConfig}
    {registry : EpollRegistry} {es : List Event} {r : EpollRun}
    (reached : r ∈ states step (start id socket config registry) es) :
    r.wire ++ r.peer.session.outgoing = r.accepted ∧
    ∀ answers granted, ∃ result after,
      EpollModel.processSend answers granted r.peer = .done result after ∧
      result.calls ≤ r.peer.session.outgoing.length + 1 ∧
      EndsWell answers r.peer after result := by
  obtain ⟨s, _, streams⟩ := run_simulated step_streams es _ _
    (start_streams id socket config registry) r reached
  constructor
  · rw [← streams.sent, ← streams.pending, ← streams.accepted]
    exact s.balanced
  · intro answers granted
    obtain ⟨result, after, run, _, _, stream, bound, drained, stopped, logged⟩ :=
      EpollModel.processSend_spec answers granted streams.free
    refine ⟨result, after, run, by omega, logged.asked, logged.counted.trans (Nat.zero_add _),
      stream, logged.follows, ?_⟩
    split
    · rename_i ending
      exact ⟨(drained ending).1, (drained ending).2.1⟩
    · rename_i ending
      obtain ⟨queued, flag, _⟩ := stopped (by rw [ending]; decide)
      exact ⟨queued, flag⟩
    · rename_i ending
      exact (stopped (by rw [ending]; decide)).1

def twoBytes : SendAnswers := fun calls sendBuffer =>
  if room : calls = 0 ∧ 2 ≤ sendBuffer.length then .sent 2 Nat.two_pos room.2 else .wouldBlock

/- Three bytes queued in a buffer of eight, two of them sent, then two more queued. -/
theorem queued_packet_streams :
    ∃ r, run step (start 1 7 ⟨4, by decide⟩ (.listening 3))
        [.send (PacketBuffer.ofBytes [1, 2, 3] 3 (by decide)) true, .processSend twoBytes true,
          .send (PacketBuffer.ofBytes [4, 5] 2 (by decide)) true] = some r ∧
      r.wire = [1, 2] ∧ r.wire ++ r.peer.session.outgoing = [1, 2, 3, 4, 5] ∧
      ∃ result after, EpollModel.processSend twoBytes true r.peer = .done result after ∧
        result.calls ≤ 4 ∧ EndsWell twoBytes r.peer after result := by
  have queued : (run step (start 1 7 ⟨4, by decide⟩ (.listening 3))
      [.send (PacketBuffer.ofBytes [1, 2, 3] 3 (by decide)) true, .processSend twoBytes true,
        .send (PacketBuffer.ofBytes [4, 5] 2 (by decide)) true]).map
      (fun r => (r.wire, r.accepted, r.peer.session.outgoing.length)) =
      some ([1, 2], [1, 2, 3, 4, 5], 3) := by decide +kernel
  obtain ⟨r, ran, measured⟩ := Option.map_eq_some_iff.mp queued
  have wire : r.wire = [1, 2] := congrArg Prod.fst measured
  have accepted : r.accepted = [1, 2, 3, 4, 5] := congrArg (fun x => x.2.1) measured
  have left : r.peer.session.outgoing.length = 3 := congrArg (fun x => x.2.2) measured
  obtain ⟨stream, ends⟩ := epoll_stream_faithful (mem_states_of_run ran)
  obtain ⟨result, after, sent, bound, well⟩ := ends twoBytes true
  rw [left] at bound
  exact ⟨r, ran, wire, stream.trans accepted, result, after, sent, bound, well⟩

end EpollRun
end KanchoNet
