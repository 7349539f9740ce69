import KanchoNet.Network.IOCPSessions

/-!
The accept pipeline of IOCPModel, from StartListen to Shutdown. An AcceptEx is posted
to receive nothing, so ProcessIO takes its completion for a broken connection.
-/
namespace KanchoNet
open GuardedSections LabelledRuns

/-- A server with the accept socket that the last step dequeued, if any. -/
structure AcceptRun where
  model : IOCPModel
  dequeued : Option SOCKET

namespace AcceptRun
open IOCPModel

inductive ServerEvent where
  | io (e : IOCPModel.Event)
  | shutdown

def acceptDequeued (m : IOCPModel) : ServerEvent → Option SOCKET
  | .io (.processIo (.completion index _ _ _) _) =>
    if m.mRunning then
      (m.inflight[index]?.filter fun context => context.operation = .accept).map
        OverlappedContext.acceptSocket
    else none
  | _ => none

def step (r : AcceptRun) : ServerEvent → Option AcceptRun
  | .io e => (IOCPModel.step r.model e).map fun model => ⟨model, acceptDequeued r.model (.io e)⟩
  | .shutdown => some ⟨r.model.shutdown, none⟩

def Owned (m : IOCPModel) (socket : SOCKET) : Prop :=
  ∃ id session, m.mSessionManager.getSession id = some session ∧
    session.mState = .connected ∧ session.mSocket = socket

/-- While the server runs, one AcceptEx is in flight, and the socket of an accept
    just dequeued has an owner or is closed. -/
def Accepting (r : AcceptRun) : Prop :=
  r.model.mRunning = true →
    (r.model.inflight.filter fun context => context.operation = .accept).length = 1 ∧
    ∀ socket, r.dequeued = some socket → Owned r.model socket ∨ socket ∈ r.model.closed

def LeavesAccept (r : AcceptRun) (e : ServerEvent) : Prop := acceptDequeued r.model e = none

structure Untouched (r : AcceptRun) : Prop where
  sessions : r.model.mSessionManager.mSessions = ∅
  inflight : r.model.mRunning = true → ∃ socket, r.model.inflight = [acceptContext socket]
  dequeued : r.dequeued = none

theorem startListen_untouched {listenSocket acceptSocket : SOCKET} {maxSessions : UInt32}
    {callbacks : Callbacks} {listens associated acceptEx : Bool} {m : IOCPModel}
    (listening : startListen listens associated acceptSocket acceptEx
      (initialized listenSocket maxSessions callbacks) = (true, m)) : Untouched ⟨m, none⟩ := by
  unfold startListen registerAccept at listening
  cases listens <;> cases associated <;> cases acceptEx <;>
    by_cases invalid : acceptSocket = INVALID_SOCKET <;>
    simp only [initialized, invalid] at listening <;> simp at listening
  subst listening
  exact ⟨rfl, fun _ => ⟨acceptSocket, rfl⟩, rfl⟩

theorem untouched_accepting (r : AcceptRun) (untouched : Untouched r) : Accepting r := by
  intro running
  obtain ⟨socket, one⟩ := untouched.inflight running
  rw [one, untouched.dequeued]
  exact ⟨rfl, fun socket none => by cases none⟩

/- Without sessions the only completion a running server can get is the accept. -/
theorem io_untouched {r : AcceptRun} (untouched : Untouched r) {e : IOCPModel.Event}
    {m : IOCPModel} (next : IOCPModel.step r.model e = some m) :
    (m = r.model ∧ acceptDequeued r.model (.io e) = none) ∨
    ∃ socket, m = { r.model with inflight := [] } ∧ m.mRunning = true ∧
      acceptDequeued r.model (.io e) = some socket := by
  cases e with
  | send id packet wsaSend =>
    have absent : r.model.mSessionManager.getSession id = none := by
      rw [SessionManager.getSession, untouched.sessions]
      rfl
    simp [IOCPModel.step, IOCPModel.send, onSession, absent, Outcome.leaves] at next
  | processIo status a =>
    simp only [IOCPModel.step] at next
    split at next
    · rename_i valid
      by_cases running : r.model.mRunning = true
      · obtain ⟨socket, one⟩ := untouched.inflight running
        unfold processIo at next
        rw [if_neg (not_not.mpr running)] at next
        cases status with
        | timeout => exact Or.inl ⟨(Option.some.inj next).symm, rfl⟩
        | failed => exact Or.inl ⟨(Option.some.inj next).symm, rfl⟩
        | completion index result bytesTransferred received =>
          right
          rw [completes, one, List.getElem?_singleton] at valid
          split at valid
          · rename_i first
            subst first
            -- an AcceptEx posted to receive nothing reports no bytes
            have empty : bytesTransferred = 0 := by
              simpa [acceptContext, ← UInt32.toNat_inj] using valid
            simp only [one, List.getElem?_cons_zero, List.eraseIdx_cons_zero, handleCompletion,
              empty, or_true, if_true] at next
            refine ⟨socket, (Option.some.inj next).symm, ?_, ?_⟩
            · rw [← Option.some.inj next]
              exact running
            · simp [acceptDequeued, running, one, acceptContext]
          · simp at valid
      · left
        have idle : processIo status a r.model = .done false r.model := if_pos running
        rw [idle] at next
        refine ⟨(Option.some.inj next).symm, ?_⟩
        cases status <;> simp [acceptDequeued, running]
    · cases next

theorem step_untouched (r : AcceptRun) (e : ServerEvent) (r' : AcceptRun)
    (untouched : Untouched r) (leaves : LeavesAccept r e) (next : step r e = some r') :
    Untouched r' := by
  cases e with
  | shutdown =>
    cases next
    unfold shutdown
    split
    · exact ⟨untouched.sessions, untouched.inflight, rfl⟩
    · exact ⟨rfl, fun running => (Bool.false_ne_true running).elim, rfl⟩
  | io e =>
    obtain ⟨m, ran, rfl⟩ := Option.map_eq_some_iff.mp next
    rcases io_untouched untouched ran with ⟨rfl, none⟩ | ⟨socket, _, _, taken⟩
    · exact ⟨untouched.sessions, untouched.inflight, none⟩
    · cases leaves.symm.trans taken

theorem accept_stalls (r : AcceptRun) (e : ServerEvent) (r' : AcceptRun)
    (untouched : Untouched r) (taken : ¬LeavesAccept r e) (next : step r e = some r') :
    ¬Accepting r' := by
  cases e with
  | shutdown => exact absurd rfl taken
  | io e =>
    obtain ⟨m, ran, rfl⟩ := Option.map_eq_some_iff.mp next
    rcases io_untouched untouched ran with ⟨_, none⟩ | ⟨socket, rfl, running, _⟩
    · exact absurd none taken
    · intro accepting
      have none := (accepting running).1
      cases none

/-- From a successful StartListen the accept pipeline works in every state of a run
    exactly when the run never takes an accept completion off the port. -/
theorem accepting_along_iff {listenSocket acceptSocket : SOCKET} {maxSessions : UInt32}
    {callbacks : Callbacks} {listens associated acceptEx : Bool} {m : IOCPModel}
    (listening : startListen listens associated acceptSocket acceptEx
      (initialized listenSocket maxSessions callbacks) = (true, m)) (es : List ServerEvent) :
    (∀ r ∈ states step ⟨m, none⟩ es, Accepting r) ↔
      ∀ x ∈ steps step ⟨m, none⟩ es, LeavesAccept x.1 x.2 :=
  holds_along_iff step_untouched untouched_accepting accept_stalls es _
    (startListen_untouched listening)

def listeningServer : IOCPModel :=
  (startListen true true 5 true (initialized 3 100 ⟨true, true, true, []⟩)).2

def plainAnswers : ProcessAnswers := ⟨6, true, true, true, true⟩

theorem idle_server_accepts :
    listeningServer.mRunning = true ∧
    ∀ r ∈ states step ⟨listeningServer, none⟩ [.io (.processIo .timeout plainAnswers)],
      Accepting r := by
  have listening : startListen true true 5 true (initialized 3 100 ⟨true, true, true, []⟩) =
      (true, listeningServer) := rfl
  refine ⟨rfl, (accepting_along_iff listening _).mpr fun x member => ?_⟩
  rw [mem_steps_single member]
  rfl

/- The first client: its accept completes with no bytes, and no AcceptEx is left. -/
theorem first_client_stalls_accepts :
    ∃ r ∈ states step ⟨listeningServer, none⟩
        [.io (.processIo (.completion 0 true 0 []) plainAnswers)],
      r.model.mRunning = true ∧ r.dequeued = some 5 ∧ r.model.inflight = [] ∧ ¬Accepting r := by
  have next : step ⟨listeningServer, none⟩
      (.io (.processIo (.completion 0 true 0 []) plainAnswers)) =
      some ⟨{ listeningServer with inflight := [] }, some 5⟩ := rfl
  refine ⟨_, mem_states_next next (mem_states_self _ _ _), rfl, rfl, rfl, fun accepting => ?_⟩
  cases (accepting rfl).1

end AcceptRun
end KanchoNet
