import KanchoNet.Network.EpollStream

/-!
Outgoing bytes of an EpollModel session that wait for a transmission. A session
is never stranded as long as each Send it gets while idle is queued whole and the
interest in EPOLLOUT is in place; every other Send strands it at once.
-/
namespace KanchoNet.EpollRun
open GuardedSections LabelledRuns EpollRegistry

def connected (id : SessionID) (socket : Fd) (config : SessionConfig) (registry : EpollRegistry)
    (session : SessionPtr) : EpollRun :=
  start id socket config (registry.acceptSocket socket session true)

def waitsForWrite (r : EpollRun) : Prop :=
  WaitsForWrite r.peer.registry r.peer.session.mSocket

/-- Buffered bytes of a session that has not ended have a transmission pending. -/
def Pending (r : EpollRun) : Prop :=
  r.ended = false → r.peer.session.outgoing ≠ [] →
    r.peer.session.mIsSending = true ∧ r.waitsForWrite

/-- A Send to an idle session is empty, finds no room at all, or fits and has
    EPOLLOUT granted or still registered. -/
def Armed (r : EpollRun) : Event → Prop
  | .send packet granted =>
    r.peer.session.mIsSending = true ∨ packet.contents = [] ∨ r.peer.session.freeSpace = 0 ∨
      (packet.contents.length ≤ r.peer.session.freeSpace ∧ (granted = true ∨ r.waitsForWrite))
  | .processSend _ _ => True

structure Tracked (r : EpollRun) : Prop where
  free : EpollPeer.lock.held r.peer = false
  registered : Registered r.peer.registry r.peer.session.mSocket
  sending : r.peer.session.mIsSending = true ↔ r.peer.session.outgoing ≠ []
  waiting : r.peer.session.mIsSending = true → r.waitsForWrite

def TrackedUntilEnd (r : EpollRun) : Prop := r.ended = false → Tracked r

theorem connected_tracked (id : SessionID) {socket : Fd} (config : SessionConfig)
    {registry : EpollRegistry} (session : SessionPtr) (fresh : socket ∉ registry.interest) :
    Tracked (connected id socket config registry session) where
  free := rfl
  registered := acceptSocket_registered session fresh
  sending := by
    rw [show (connected id socket config registry session).peer.session.outgoing = [] from
      Session.outgoing_accepted id socket config]
    exact ⟨fun sending => (Bool.false_ne_true sending).elim, fun nonempty => absurd rfl nonempty⟩
  waiting sending := (Bool.false_ne_true sending).elim

theorem tracked_pending (r : EpollRun) (tracked : TrackedUntilEnd r) : Pending r :=
  fun running nonempty =>
    have sending := (tracked running).sending.mpr nonempty
    ⟨sending, (tracked running).waiting sending⟩

theorem step_send_cases {r r' : EpollRun} {packet : PacketBuffer} {granted : Bool}
    (next : step r (.send packet granted) = some r') : r.ended = false ∧
    ∃ value peer, EpollModel.send packet granted r.peer = .done value peer ∧
      r' = { r with peer, accepted := r.accepted ++ r.peer.session.acceptedPrefix packet } := by
  simp only [step] at next
  split at next
  · cases next
  · rename_i running
    rw [Bool.not_eq_true] at running
    split at next
    · rename_i value peer run
      cases next
      exact ⟨running, value, peer, run, rfl⟩
    · cases next

theorem step_send_some {r : EpollRun} (free : EpollPeer.lock.held r.peer = false)
    (running : r.ended = false) (packet : PacketBuffer) (granted : Bool) :
    ∃ r', step r (.send packet granted) = some r' := by
  simp only [step, running, Bool.false_eq_true, if_false]
  by_cases empty : packet.contents = []
  · rw [EpollModel.send_empty granted r.peer empty]
    exact ⟨_, rfl⟩
  · obtain ⟨peer, run, _⟩ := EpollModel.send_spec granted free empty
    rw [run]
    exact ⟨_, rfl⟩

theorem step_processSend_cases {r r' : EpollRun} {answers : SendAnswers} {granted : Bool}
    (next : step r (.processSend answers granted) = some r') : r.ended = false ∧
    ∃ result peer, EpollModel.processSend answers granted r.peer = .done result peer ∧
      r' = { r with
        peer, wire := r.wire ++ result.wire, ended := result.ending = .disconnect } := by
  simp only [step] at next
  split at next
  · cases next
  · rename_i running
    rw [Bool.not_eq_true] at running
    split at next
    · rename_i result peer run
      cases next
      exact ⟨running, result, peer, run, rfl⟩
    · cases next

theorem send_kept {r r' : EpollRun} {packet : PacketBuffer} {granted : Bool} (tracked : Tracked r)
    (armed : Armed r (.send packet granted)) (next : step r (.send packet granted) = some r') :
    Tracked r' := by
  obtain ⟨_, value, peer, run, rfl⟩ := step_send_cases next
  by_cases empty : packet.contents = []
  · rw [EpollModel.send_empty granted r.peer empty] at run
    cases run
    exact ⟨tracked.free, tracked.registered, tracked.sending, tracked.waiting⟩
  obtain ⟨free, registered, sending, waiting⟩ := tracked
  obtain ⟨peer', run', free', socket, queued, flag, registry⟩ :=
    EpollModel.send_spec granted free empty
  obtain ⟨rfl, rfl⟩ := Outcome.done.inj (run.symm.trans run')
  by_cases busy : r.peer.session.mIsSending = true
  · rw [if_neg (by simp [busy])] at registry
    rw [busy, Bool.true_or] at flag
    constructor
    · exact free'
    · simpa only [registry, socket] using registered
    · simpa [flag, queued] using fun none => absurd none (sending.mp busy)
    · intro _
      simpa only [waitsForWrite, registry, socket] using waiting busy
  rw [Bool.not_eq_true] at busy
  have idle : r.peer.session.outgoing = [] := by
    simpa [busy] using sending
  by_cases fits : packet.contents.length ≤ r.peer.session.freeSpace
  · have room := Session.freeSpace_ne_zero empty fits
    rw [if_pos ⟨fits, busy⟩] at registry
    rw [decide_eq_true fits, Bool.or_true] at flag
    constructor
    · exact free'
    · rw [registry, socket]
      exact modifySocket_registered registered _ _
    · simpa [flag, queued] using fun _ => Session.acceptedPrefix_ne_nil empty room
    · intro _
      rcases armed with sends | none | full | ⟨_, rfl | waits⟩
      · exact absurd sends (by simp [busy])
      · exact absurd none empty
      · exact absurd full room
      · rw [waitsForWrite, registry, socket]
        exact modifySocket_waits registered (by decide)
      · cases granted with
        | true =>
          rw [waitsForWrite, registry, socket]
          exact modifySocket_waits registered (by decide)
        | false => rwa [waitsForWrite, registry, socket, modifySocket_refused]
  · have full : r.peer.session.freeSpace = 0 := by
      simpa [Armed, busy, empty, fits] using armed
    rw [if_neg (fun both => fits both.1)] at registry
    rw [busy, decide_eq_false fits, Bool.or_false] at flag
    rw [Session.acceptedPrefix_full packet full, List.append_nil] at queued
    constructor
    · exact free'
    · simpa only [registry, socket] using registered
    · simp [flag, queued, idle]
    · intro marked
      exact absurd marked (by simp [flag])

theorem processSend_kept {r r' : EpollRun} {answers : SendAnswers} {granted : Bool}
    (tracked : Tracked r) (next : step r (.processSend answers granted) = some r') :
    TrackedUntilEnd r' := by
  obtain ⟨_, result, peer, run, rfl⟩ := step_processSend_cases next
  obtain ⟨free, registered, sending, waiting⟩ := tracked
  obtain ⟨result', peer', run', free', socket, stream, _, drained, stopped, _⟩ :=
    EpollModel.processSend_spec answers granted free
  obtain ⟨rfl, rfl⟩ := Outcome.done.inj (run.symm.trans run')
  intro running
  by_cases ending : result.ending = .drained
  · obtain ⟨outgoing, flag, registry⟩ := drained ending
    constructor
    · exact free'
    · rw [registry, socket]
      exact modifySocket_registered registered _ _
    · simp [flag, outgoing]
    · intro marked
      exact absurd marked (by simp [flag])
  · obtain ⟨outgoing, flag, registry⟩ := stopped ending
    have nonempty : r.peer.session.outgoing ≠ [] := by
      rw [← stream]
      simp [outgoing]
    have busy := sending.mpr nonempty
    constructor
    · exact free'
    · simpa only [registry, socket] using registered
    · simp [flag, outgoing, busy]
    · intro _
      simpa only [waitsForWrite, registry, socket] using waiting busy

theorem step_tracked (r : EpollRun) (e : Event) (r' : EpollRun) (tracked : TrackedUntilEnd r)
    (armed : Armed r e) (next : step r e = some r') : TrackedUntilEnd r' := by
  cases e with
  | send packet granted =>
    exact fun _ => send_kept (tracked (step_send_cases next).1) armed next
  | processSend answers granted =>
    exact processSend_kept (tracked (step_processSend_cases next).1) next

/- A Send outside the guard leaves bytes behind that nothing will transmit. -/
theorem unarmed_strands (r : EpollRun) (e : Event) (r' : EpollRun) (tracked : TrackedUntilEnd r)
    (unarmed : ¬Armed r e) (next : step r e = some r') : ¬Pending r' := by
  cases e with
  | processSend answers granted => exact absurd trivial unarmed
  | send packet granted =>
    obtain ⟨running, value, peer, run, rfl⟩ := step_send_cases next
    obtain ⟨free, _, _, _⟩ := tracked running
    simp only [Armed, not_or, not_and, Bool.not_eq_true] at unarmed
    obtain ⟨idle, packed, room, refused⟩ := unarmed
    obtain ⟨peer', run', _, socket, queued, flag, registry⟩ :=
      EpollModel.send_spec granted free packed
    obtain ⟨rfl, rfl⟩ := Outcome.done.inj (run.symm.trans run')
    have nonempty : peer.session.outgoing ≠ [] := by
      rw [queued]
      simp [Session.acceptedPrefix_ne_nil packed room]
    intro pending
    obtain ⟨sending, waits⟩ := pending running nonempty
    rw [flag, idle, Bool.false_or, decide_eq_true_eq] at sending
    obtain ⟨denied, silent⟩ := refused sending
    rw [if_pos ⟨sending, idle⟩, denied, modifySocket_refused] at registry
    exact silent (by simpa only [waitsForWrite, registry, socket] using waits)

end KanchoNet.EpollRun
