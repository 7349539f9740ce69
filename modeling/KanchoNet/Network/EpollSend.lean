import KanchoNet.Network.EpollRegistry

/-!
The sending side of EpollModel for one session: Send queues a packet and asks for
EPOLLOUT, ProcessSend empties the buffer into the socket when it is writable. The
results of epoll_ctl and of the kernel's send() are arguments.
-/
namespace KanchoNet
open GuardedSections

structure EpollPeer where
  session : Session Fd
  registry : EpollRegistry

def EpollPeer.lock : Lock EpollPeer where
  held p := Session.lock.held p.session
  set flag p := { p with session := Session.lock.set flag p.session }

inductive SendResult (offered : Nat) where
  | sent (count : Nat) (positive : 0 < count) (within : count ≤ offered)
  | closed
  | wouldBlock
  | failed

abbrev SendAnswers := Nat → (sendBuffer : List UInt8) → SendResult sendBuffer.length

inductive LoopEnd where
  | drained
  | wouldBlock
  | disconnect
  deriving DecidableEq

/-- One send(): the bytes offered to the kernel and what it answered. -/
structure SendCall where
  offered : List UInt8
  answer : SendResult offered.length

def SendCall.taken (call : SendCall) : List UInt8 :=
  match call.answer with
  | .sent count _ _ => call.offered.take count
  | .closed | .wouldBlock | .failed => []

structure LoopResult where
  ending : LoopEnd
  calls : Nat
  log : List SendCall
  peer : EpollPeer

def LoopResult.wire (result : LoopResult) : List UInt8 :=
  result.log.flatMap SendCall.taken

namespace EpollModel

def send (packet : PacketBuffer) (granted : Bool) (p : EpollPeer) : Outcome EpollPeer Bool :=
  if packet.isEmpty then .done false p
  else guarded EpollPeer.lock (fun p =>
    let (written, session) := p.session.writePacket packet
    let p := { p with session }
    if written < packet.getSize then .done false p
    else if p.session.mIsSending then .done true p
    else
      let p := { p with session := p.session.setSending true }
      -- the result of ModifySocket is not looked at
      let (_, registry) := p.registry.modifySocket p.session.mSocket
        (EPOLLIN ||| EPOLLOUT ||| EPOLLET) granted
      .done true { p with registry }) p

theorem sent_shortens {s : Session Fd} {count : Nat} (positive : 0 < count)
    (within : count ≤ (s.mSendBuffer.peekBytes DEFAULT_BUFFER_SIZE).length) :
    (s.skipSent (UInt64.ofNat count)).outgoing = s.outgoing.drop count ∧
      (s.mSendBuffer.peekBytes DEFAULT_BUFFER_SIZE).take count = s.outgoing.take count ∧
      count ≤ s.outgoing.length := by
  have short : DEFAULT_BUFFER_SIZE.toNat = 8192 := by decide
  rw [LiveRing.peekBytes_eq, List.length_take, short] at within
  have word : (UInt64.ofNat count).toNat = count := by
    rw [UInt64.toNat_ofNat']
    omega
  refine ⟨by rw [Session.outgoing_skipSent, word], ?_, by rw [Session.outgoing]; omega⟩
  rw [LiveRing.peekBytes_eq, List.take_take, Nat.min_eq_left (by omega), Session.outgoing]

def sendLoop (answers : SendAnswers) (granted : Bool) (calls : Nat) (p : EpollPeer) : LoopResult :=
  if p.session.mSendBuffer.getAvailableRead = 0 then
    let p := { p with session := p.session.setSending false }
    let (_, registry) := p.registry.modifySocket p.session.mSocket (EPOLLIN ||| EPOLLET) granted
    ⟨.drained, calls, [], { p with registry }⟩
  else
    let sendBuffer := p.session.mSendBuffer.peekBytes DEFAULT_BUFFER_SIZE
    match answers calls sendBuffer with
    | .sent count positive within =>
      let rest := sendLoop answers granted (calls + 1)
        { p with session := p.session.skipSent (UInt64.ofNat count) }
      { rest with log := ⟨sendBuffer, .sent count positive within⟩ :: rest.log }
    | .closed => ⟨.disconnect, calls + 1, [⟨sendBuffer, .closed⟩], p⟩
    | .wouldBlock => ⟨.wouldBlock, calls + 1, [⟨sendBuffer, .wouldBlock⟩], p⟩
    | .failed => ⟨.disconnect, calls + 1, [⟨sendBuffer, .failed⟩], p⟩
termination_by p.session.outgoing.length
decreasing_by
  obtain ⟨rest, _, part⟩ := sent_shortens positive within
  rw [rest, List.length_drop]
  omega

/-- ProcessSend up to the ProcessDisconnect it may end in. -/
def processSend (answers : SendAnswers) (granted : Bool) (p : EpollPeer) :
    Outcome EpollPeer LoopResult :=
  guarded EpollPeer.lock (fun p =>
    let result := sendLoop answers granted 0 p
    .done result result.peer) p

theorem send_empty {packet : PacketBuffer} (granted : Bool) (p : EpollPeer)
    (empty : packet.contents = []) : send packet granted p = .done false p :=
  if_pos ((PacketBuffer.isEmpty_iff packet).mpr empty)

/- All a Send can do: queue the prefix that fits and, if that is the whole packet
   of an idle session, mark it sending and ask for EPOLLOUT. -/
theorem send_spec {packet : PacketBuffer} (granted : Bool) {p : EpollPeer}
    (free : EpollPeer.lock.held p = false) (packed : packet.contents ≠ []) :
    ∃ p', send packet granted p =
        .done (decide (packet.contents.length ≤ p.session.freeSpace)) p' ∧
      EpollPeer.lock.held p' = false ∧ p'.session.mSocket = p.session.mSocket ∧
      p'.session.outgoing = p.session.outgoing ++ p.session.acceptedPrefix packet ∧
      p'.session.mIsSending =
        (p.session.mIsSending || decide (packet.contents.length ≤ p.session.freeSpace)) ∧
      p'.registry = if packet.contents.length ≤ p.session.freeSpace ∧ p.session.mIsSending = false
        then (p.registry.modifySocket p.session.mSocket
          (EPOLLIN ||| EPOLLOUT ||| EPOLLET) granted).2
        else p.registry := by
  have queued := Session.outgoing_writePacket_accepted p.session packet
  simp only [send, PacketBuffer.isEmpty_eq_false packed, Bool.false_eq_true, ↓reduceIte]
  rw [guarded_of_free free]
  have overflow : ((EpollPeer.lock.set true p).session.writePacket packet).1 < packet.getSize ↔
      p.session.freeSpace < packet.contents.length := Session.writePacket_overflows_iff _ packet
  have flag : ((EpollPeer.lock.set true p).session.writePacket packet).2.mIsSending =
      p.session.mIsSending := rfl
  by_cases fits : packet.contents.length ≤ p.session.freeSpace
  · rw [if_neg (by rw [overflow]; omega), decide_eq_true fits]
    cases sending : p.session.mIsSending with
    | true =>
      rw [if_pos (flag.trans sending)]
      exact ⟨_, rfl, rfl, rfl, queued, sending, by simp; rfl⟩
    | false =>
      rw [if_neg (by rw [flag, sending]; decide)]
      exact ⟨_, rfl, rfl, rfl, queued, rfl, by rw [if_pos ⟨fits, rfl⟩]; rfl⟩
  · rw [if_pos (by rw [overflow]; omega), decide_eq_false fits]
    refine ⟨_, rfl, rfl, rfl, queued, by rw [Bool.or_false]; rfl, ?_⟩
    rw [if_neg (fun both => fits both.1)]
    rfl

theorem send_freeSpace {packet : PacketBuffer} {granted value : Bool} {p p' : EpollPeer}
    (free : EpollPeer.lock.held p = false) (ran : send packet granted p = .done value p') :
    p'.session.freeSpace = p.session.freeSpace - packet.contents.length := by
  have left := Session.freeSpace_writePacket p.session packet
  by_cases empty : packet.contents = []
  · rw [send_empty granted p empty] at ran
    cases ran
    rw [empty, List.length_nil, Nat.sub_zero]
  · simp only [send, PacketBuffer.isEmpty_eq_false empty, Bool.false_eq_true, ↓reduceIte] at ran
    rw [guarded_of_free free] at ran
    split at ran
    · cases ran
      exact left
    · split at ran <;> cases ran <;> exact left

theorem peeked_nonempty {p : EpollPeer} (nonempty : ¬p.session.mSendBuffer.getAvailableRead = 0) :
    p.session.mSendBuffer.peekBytes DEFAULT_BUFFER_SIZE ≠ [] := by
  rw [LiveRing.getAvailableRead_eq_zero_iff] at nonempty
  rw [LiveRing.peekBytes_eq, Ne, List.take_eq_nil_iff]
  exact not_or.mpr ⟨by decide, nonempty⟩

structure Emptied (before : EpollPeer) (granted : Bool) (result : LoopResult) : Prop where
  stream : result.wire ++ result.peer.session.outgoing = before.session.outgoing
  socket : result.peer.session.mSocket = before.session.mSocket
  drained : result.ending = .drained → result.peer.session.outgoing = [] ∧
    result.peer.session.mIsSending = false ∧
    result.peer.registry =
      (before.registry.modifySocket before.session.mSocket (EPOLLIN ||| EPOLLET) granted).2
  stopped : result.ending ≠ .drained → result.peer.session.outgoing ≠ [] ∧
    result.peer.session.mIsSending = before.session.mIsSending ∧
    result.peer.registry = before.registry

theorem stop_emptied {p : EpollPeer} {ending : LoopEnd} {last : SendCall} (granted : Bool)
    (calls : Nat) (nonempty : ¬p.session.mSendBuffer.getAvailableRead = 0)
    (early : ending ≠ .drained) (refused : last.taken = []) :
    Emptied p granted ⟨ending, calls + 1, [last], p⟩ ∧
      calls + 1 ≤ calls + p.session.outgoing.length := by
  rw [LiveRing.getAvailableRead_eq_zero_iff] at nonempty
  have some : 0 < p.session.outgoing.length := List.length_pos_iff.mpr nonempty
  have stream : [last].flatMap SendCall.taken ++ p.session.outgoing = p.session.outgoing := by
    rw [List.flatMap_singleton, refused, List.nil_append]
  exact ⟨⟨stream, rfl, fun drained => absurd drained early, fun _ => ⟨nonempty, rfl, rfl⟩⟩,
    by omega⟩

theorem sendLoop_spec (answers : SendAnswers) (granted : Bool) (calls : Nat) (p : EpollPeer) :
    Emptied p granted (sendLoop answers granted calls p) ∧
      (sendLoop answers granted calls p).calls ≤ calls + p.session.outgoing.length := by
  fun_induction sendLoop answers granted calls p with
  | case1 calls p empty p' _ registry changed =>
    rw [LiveRing.getAvailableRead_eq_zero_iff] at empty
    have registry_eq : registry = (p.registry.modifySocket p.session.mSocket
        (EPOLLIN ||| EPOLLET) granted).2 := congrArg Prod.snd changed.symm
    exact ⟨⟨rfl, rfl, fun _ => ⟨empty, rfl, registry_eq⟩, fun other => absurd rfl other⟩,
      Nat.le_add_right _ _⟩
  | case2 calls p nonempty sendBuffer count positive within answer rest ih =>
    obtain ⟨⟨stream, socket, drained, stopped⟩, bound⟩ := ih
    obtain ⟨left, taken, part⟩ := sent_shortens positive within
    rw [left] at stream
    rw [left, List.length_drop] at bound
    change rest.calls ≤ _ at bound
    refine ⟨⟨?_, socket, drained, stopped⟩, by dsimp only; omega⟩
    change (sendBuffer.take count ++ rest.wire) ++ rest.peer.session.outgoing = _
    rw [List.append_assoc, stream, taken, List.take_append_drop]
  | case3 calls p nonempty => exact stop_emptied granted calls nonempty (by decide) rfl
  | case4 calls p nonempty => exact stop_emptied granted calls nonempty (by decide) rfl
  | case5 calls p nonempty => exact stop_emptied granted calls nonempty (by decide) rfl

/-- The send() calls of a loop that finds these bytes buffered, the first of them call
    number `first`: each offers the front of the bytes left and gets the kernel's answer. -/
structure Asked (answers : SendAnswers) (first : Nat) (bytes : List UInt8)
    (log : List SendCall) : Prop where
  answered : ∀ i call, log[i]? = some call → call.answer = answers (first + i) call.offered
  offered : ∀ i call, log[i]? = some call → call.offered ≠ [] ∧ call.offered =
    (bytes.drop ((log.take i).flatMap SendCall.taken).length).take DEFAULT_BUFFER_SIZE.toNat

theorem Asked.none (answers : SendAnswers) (first : Nat) (bytes : List UInt8) :
    Asked answers first bytes [] :=
  ⟨fun i call found => by simp at found, fun i call found => by simp at found⟩

theorem Asked.cons {answers : SendAnswers} {first : Nat} {bytes : List UInt8} {call : SendCall}
    {log : List SendCall} (rest : Asked answers (first + 1) (bytes.drop call.taken.length) log)
    (answered : call.answer = answers first call.offered) (nonempty : call.offered ≠ [])
    (front : call.offered = bytes.take DEFAULT_BUFFER_SIZE.toNat) :
    Asked answers first bytes (call :: log) := by
  constructor
  · intro i other found
    cases i with
    | zero =>
      cases found
      exact answered
    | succ i =>
      rw [rest.answered i other found]
      congr 1
      omega
  · intro i other found
    cases i with
    | zero =>
      cases found
      exact ⟨nonempty, front⟩
    | succ i =>
      obtain ⟨some, equal⟩ := rest.offered i other found
      refine ⟨some, equal.trans ?_⟩
      rw [List.take_succ_cons, List.flatMap_cons, List.length_append, List.drop_drop]

/-- What the last of the calls was answered: a drained loop and the calls before the
    last one had bytes taken every time. -/
def Follows (ending : LoopEnd) (log : List SendCall) : Prop :=
  match ending with
  | .drained => ∀ call ∈ log, call.taken ≠ []
  | .wouldBlock => ∃ before offered, log = before ++ [⟨offered, .wouldBlock⟩] ∧
      ∀ call ∈ before, call.taken ≠ []
  | .disconnect => ∃ before last, log = before ++ [last] ∧
      (last.answer = .closed ∨ last.answer = .failed) ∧ ∀ call ∈ before, call.taken ≠ []

theorem Follows.cons {ending : LoopEnd} {log : List SendCall} {call : SendCall}
    (rest : Follows ending log) (took : call.taken ≠ []) : Follows ending (call :: log) := by
  cases ending with
  | drained => exact List.forall_mem_cons.mpr ⟨took, rest⟩
  | wouldBlock =>
    obtain ⟨before, offered, rfl, all⟩ := rest
    exact ⟨call :: before, offered, rfl, List.forall_mem_cons.mpr ⟨took, all⟩⟩
  | disconnect =>
    obtain ⟨before, last, rfl, refused, all⟩ := rest
    exact ⟨call :: before, last, rfl, refused, List.forall_mem_cons.mpr ⟨took, all⟩⟩

structure Logged (answers : SendAnswers) (first : Nat) (bytes : List UInt8)
    (result : LoopResult) : Prop where
  asked : Asked answers first bytes result.log
  follows : Follows result.ending result.log
  counted : result.calls = first + result.log.length

theorem stop_asked {answers : SendAnswers} {p : EpollPeer} (calls : Nat)
    (nonempty : ¬p.session.mSendBuffer.getAvailableRead = 0)
    {answer : SendResult (p.session.mSendBuffer.peekBytes DEFAULT_BUFFER_SIZE).length}
    (answered : answers calls (p.session.mSendBuffer.peekBytes DEFAULT_BUFFER_SIZE) = answer) :
    Asked answers calls p.session.outgoing
      [⟨p.session.mSendBuffer.peekBytes DEFAULT_BUFFER_SIZE, answer⟩] :=
  (Asked.none answers (calls + 1) _).cons answered.symm (peeked_nonempty nonempty)
    (LiveRing.peekBytes_eq _ _)

theorem sendLoop_logged (answers : SendAnswers) (granted : Bool) (calls : Nat) (p : EpollPeer) :
    Logged answers calls p.session.outgoing (sendLoop answers granted calls p) := by
  fun_induction sendLoop answers granted calls p with
  | case1 calls p => exact ⟨.none _ _ _, fun call found => absurd found List.not_mem_nil, rfl⟩
  | case2 calls p nonempty sendBuffer count positive within answer rest ih =>
    obtain ⟨asked, follows, counted⟩ := ih
    have taken : (sendBuffer.take count).length = count := List.length_take_of_le within
    have left : (p.session.skipSent (UInt64.ofNat count)).outgoing =
        p.session.outgoing.drop (sendBuffer.take count).length := by
      rw [taken]
      exact (sent_shortens positive within).1
    have took : sendBuffer.take count ≠ [] := by
      rw [← List.length_pos_iff, taken]
      exact positive
    rw [left] at asked
    refine ⟨asked.cons answer.symm (peeked_nonempty nonempty) (LiveRing.peekBytes_eq _ _),
      follows.cons took, ?_⟩
    change rest.calls = calls + (rest.log.length + 1)
    change rest.calls = calls + 1 + rest.log.length at counted
    omega
  | case3 calls p nonempty sendBuffer answer =>
    exact ⟨stop_asked calls nonempty answer,
      ⟨[], _, rfl, .inl rfl, fun call found => absurd found List.not_mem_nil⟩, rfl⟩
  | case4 calls p nonempty sendBuffer answer =>
    exact ⟨stop_asked calls nonempty answer,
      ⟨[], _, rfl, fun call found => absurd found List.not_mem_nil⟩, rfl⟩
  | case5 calls p nonempty sendBuffer answer =>
    exact ⟨stop_asked calls nonempty answer,
      ⟨[], _, rfl, .inr rfl, fun call found => absurd found List.not_mem_nil⟩, rfl⟩

/-- ProcessSend on a session whose lock is free makes at most one send() per byte
    buffered and then returns. -/
theorem processSend_spec (answers : SendAnswers) (granted : Bool) {p : EpollPeer}
    (free : EpollPeer.lock.held p = false) :
    ∃ result p', processSend answers granted p = .done result p' ∧
      EpollPeer.lock.held p' = false ∧ p'.session.mSocket = p.session.mSocket ∧
      result.wire ++ p'.session.outgoing = p.session.outgoing ∧
      result.calls ≤ p.session.outgoing.length ∧
      (result.ending = .drained → p'.session.outgoing = [] ∧ p'.session.mIsSending = false ∧
        p'.registry =
          (p.registry.modifySocket p.session.mSocket (EPOLLIN ||| EPOLLET) granted).2) ∧
      (result.ending ≠ .drained → p'.session.outgoing ≠ [] ∧
        p'.session.mIsSending = p.session.mIsSending ∧ p'.registry = p.registry) ∧
      Logged answers 0 p.session.outgoing result := by
  obtain ⟨emptied, bound⟩ := sendLoop_spec answers granted 0 (EpollPeer.lock.set true p)
  have logged := sendLoop_logged answers granted 0 (EpollPeer.lock.set true p)
  rw [Nat.zero_add] at bound
  refine ⟨_, _, guarded_done free rfl, rfl, emptied.socket, emptied.stream, bound,
    emptied.drained, emptied.stopped, logged⟩

end EpollModel
end KanchoNet
