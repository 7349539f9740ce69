import KanchoNet.Examples.Shutdown
import KanchoNet.Network.IOUringSilence

/-!
A main function whose server is over IOUringModel, as that of ChatServer is where liburing
is present. The Send of a worker keeps it inside ProcessIO, where main waits for it: Stop is
never called.
-/
namespace KanchoNet
open Interleavings LabelledRuns

namespace ExampleMain
open IOUringWorkers (Place Silent)

/-- ProcessIO returns when no handler is under way. -/
def overIOUring (stop : IOUringModel → IOUringModel) :
    Served IOUringModel Place IOUringWorkers.Event where
  move := IOUringWorkers.move
  entry := .outside
  returns
    | .outside => true
    | _ => false
  stop

variable {stop : IOUringModel → IOUringModel} {n : Nat}

/-- Until main has returned the server is one that never transmits. -/
def SilentYet (p : Program IOUringModel Place n) : Prop :=
  p.main = .returned ∨ ∃ stuck, Silent stuck p.server

theorem move_silent {stuck : SessionID → Prop} {m m' : IOUringModel} {place place' : Place}
    {e : IOUringWorkers.Event} (silent : Silent stuck m)
    (moved : IOUringWorkers.move m place e = some (m', place')) :
    ∃ stuck', Silent stuck' m' := by
  let alone : Threads Unit IOUringModel Place := ⟨m, fun _ => place⟩
  obtain ⟨s', next, shared, _⟩ := step_of_move (s := alone) (t := ()) moved
  exact ⟨_, shared ▸ IOUringWorkers.step_silent stuck alone ((), e) s' silent next⟩

theorem step_silentYet (p : Program IOUringModel Place n) (e : Event IOUringWorkers.Event n)
    (p' : Program IOUringModel Place n) (yet : SilentYet p)
    (next : step (overIOUring stop) p e = some p') : SilentYet p' := by
  cases e with
  | main input =>
    rcases mainStep_cases next with
      ⟨i, main, rfl⟩ | ⟨_, early, m, _, rfl⟩ | ⟨main, rfl⟩ | ⟨i, main, _, rfl⟩ |
      ⟨k, main, _, rfl⟩ | ⟨main, rfl⟩
    · exact Or.inr (yet.resolve_left (by simp [main]))
    · refine Or.inr (yet.resolve_left fun returned => ?_)
      rw [returned] at early
      cases early
    · exact Or.inr (yet.resolve_left (by simp [main]))
    · exact Or.inr (yet.resolve_left (by simp [main]))
    · exact Or.inr (yet.resolve_left (by simp [main]))
    · exact Or.inl rfl
  | worker i inside =>
    rcases yet with returned | ⟨stuck, silent⟩
    · exact Or.inl ((workerStep_frame next).1.trans returned)
    · right
      rcases workerStep_cases next with
        ⟨_, _, rfl⟩ | ⟨_, _, rfl⟩ | ⟨place, _, _, _, rfl⟩ |
        ⟨e, place, server, place', _, _, moved, rfl⟩
      · exact ⟨stuck, silent⟩
      · exact ⟨stuck, silent⟩
      · exact ⟨stuck, silent⟩
      · exact move_silent silent moved

/- Who waits in a Send stays there, whatever main and the other workers do. -/
theorem step_waiting {p p' : Program IOUringModel Place n} {e : Event IOUringWorkers.Event n}
    (known : Known p) {i : Fin n} {rest : Option IOUringWorkers.Rest}
    (waiting : p.workers i = .inside (.waiting rest))
    (next : step (overIOUring stop) p e = some p') :
    p'.workers i = .inside (.waiting rest) := by
  cases e with
  | main input =>
    rcases mainStep_cases next with
      ⟨j, main, rfl⟩ | ⟨_, _, m, _, rfl⟩ | ⟨_, rfl⟩ | ⟨_, _, _, rfl⟩ | ⟨_, _, _, rfl⟩ | ⟨_, rfl⟩
    · have other : i ≠ j := by
        rintro rfl
        have unborn := (known.born i).mpr (by rw [main]; exact decide_eq_false (Nat.lt_irrefl _))
        cases waiting.symm.trans unborn
      exact (workers_setWorker_ne p other .loading).trans waiting
    · exact waiting
    · exact waiting
    · exact waiting
    · exact waiting
    · exact waiting
  | worker j inside =>
    have other : i ≠ j := by
      rintro rfl
      rcases workerStep_cases next with
        ⟨_, here, _⟩ | ⟨_, here, _⟩ | ⟨place, _, here, returns, _⟩ |
        ⟨e, place, server, place', _, here, moved, _⟩
      · cases waiting.symm.trans here
      · cases waiting.symm.trans here
      · cases waiting.symm.trans here
        cases returns
      · cases waiting.symm.trans here
        cases e <;> cases moved
    exact ((workerStep_frame next).2.2.1 i other).trans waiting

structure Unjoined (i : Fin n) (p : Program IOUringModel Place n) : Prop where
  known : Known p
  waiting : ∃ rest, p.workers i = .inside (.waiting rest)

theorem step_unjoined {i : Fin n} (p : Program IOUringModel Place n)
    (e : Event IOUringWorkers.Event n) (p' : Program IOUringModel Place n)
    (unjoined : Unjoined i p) (next : step (overIOUring stop) p e = some p') :
    Unjoined i p' := by
  obtain ⟨rest, waiting⟩ := unjoined.waiting
  exact ⟨step_known p e p' unjoined.known next, rest, step_waiting unjoined.known waiting next⟩

theorem unjoined_main {i : Fin n} {p : Program IOUringModel Place n} (unjoined : Unjoined i p) :
    p.main.joined i = false := by
  obtain ⟨rest, waiting⟩ := unjoined.waiting
  apply Bool.eq_false_of_not_eq_true
  intro joined
  cases waiting.symm.trans (unjoined.known.ended i joined)

theorem silent_inside {p : Program IOUringModel Place n} (yet : SilentYet p) (known : Known p)
    {i : Fin n} {place : Place} (here : p.workers i = .inside place) :
    ∃ stuck, Silent stuck p.server := by
  refine yet.resolve_left fun returned => ?_
  cases here.symm.trans (known.ended i (by rw [returned]; rfl))

theorem send_stuck {stuck : SessionID → Prop} {m : IOUringModel} (silent : Silent stuck m)
    {id : SessionID} {session : Session Fd} {packet : PacketBuffer}
    (found : m.mSessionManager.getSession id = some session) (packed : packet.contents ≠ [])
    (fits : packet.contents.length ≤ session.freeSpace) (a : SubmitAnswers) :
    ∃ m', m.send id packet a = .stuck m' := by
  rcases IOUringWorkers.send_cases silent found packet a with
    ⟨empty, _⟩ | ⟨_, _, sent⟩ | ⟨_, _, overflow, _⟩ | ⟨_, _, _, sent⟩
  · exact absurd empty packed
  · exact ⟨m, sent⟩
  · exact absurd fits (Nat.not_le_of_lt overflow)
  · exact ⟨_, sent⟩

theorem send_waits {p p' : Program IOUringModel Place n} (yet : SilentYet p) (known : Known p)
    {i : Fin n} {id : SessionID} {packet : PacketBuffer} {a : SubmitAnswers} {session : Session Fd}
    (found : p.server.mSessionManager.getSession id = some session)
    (packed : packet.contents ≠ []) (fits : packet.contents.length ≤ session.freeSpace)
    (next : step (overIOUring stop) p (.worker i (some (.send id packet a))) = some p') :
    Unjoined i p' := by
  refine ⟨step_known p _ p' known next, ?_⟩
  rcases workerStep_cases next with
    ⟨none, _⟩ | ⟨none, _⟩ | ⟨place, none, _⟩ | ⟨e, place, server, place', event, here, moved, rfl⟩
  · cases none
  · cases none
  · cases none
  · cases event
    obtain ⟨stuck, silent⟩ := silent_inside yet known here
    rcases IOUringWorkers.move_cases moved with
      ⟨_, _, _, _, _, other, _⟩ | ⟨id', packet', a', same, _, after⟩ | ⟨_, _, _, _, other, _⟩
    · cases other
    · cases same
      obtain ⟨m, gets⟩ := send_stuck silent found packed fits a
      rw [gets] at after
      cases after
      obtain ⟨rest, blocked⟩ := IOUringWorkers.blocked_waits place
      exact ⟨rest, (workers_setWorker_self _ i _).trans (congrArg Worker.inside blocked)⟩
    · cases other

/-- Once a worker has made a Send of a packet that fits, main never gets past joining it:
    whatever else happens, Stop is not called. -/
theorem sender_unjoined {listenSocket : Fd} {maxSessions : UInt32} {callbacks : Callbacks}
    {listens : Bool} {a : SubmitAnswers} {server : IOUringServer}
    (listening : IOUringServer.startListen listens a
      (.initialized listenSocket maxSessions callbacks) = (true, server))
    (stop : IOUringModel → IOUringModel) (n : Nat) (es : List (Event IOUringWorkers.Event n))
    {p p' q : Program IOUringModel Place n}
    (ends : run (step (overIOUring stop)) (begun n server.model) es = some p)
    {i : Fin n} {id : SessionID} {packet : PacketBuffer} {b : SubmitAnswers} {session : Session Fd}
    (found : p.server.mSessionManager.getSession id = some session)
    (packed : packet.contents ≠ []) (fits : packet.contents.length ≤ session.freeSpace)
    (sends : step (overIOUring stop) p (.worker i (some (.send id packet b))) = some p')
    (es' : List (Event IOUringWorkers.Event n))
    (onward : run (step (overIOUring stop)) p' es' = some q) :
    (∃ rest, q.workers i = .inside (.waiting rest)) ∧ q.main.joined i = false ∧
      q.main ≠ .stopping ∧ q.main ≠ .returned := by
  have reached := mem_states_of_run ends
  have known := invariant_of_kept step_known es _ (begun_known n server.model) p reached
  have yet := invariant_of_kept step_silentYet es _
    (Or.inr ⟨_, IOUringWorkers.startListen_silent listening⟩) p reached
  have waits := send_waits yet known found packed fits sends
  have unjoined := invariant_of_kept step_unjoined es' p' waits q (mem_states_of_run onward)
  have never := unjoined_main unjoined
  refine ⟨unjoined.waiting, never, ?_, ?_⟩
  · intro main
    rw [main] at never
    cases never
  · intro main
    rw [main] at never
    cases never

theorem callback_sends {m : IOUringModel} (silent : ∃ stuck, Silent stuck m)
    (es : List (Event IOUringWorkers.Event n)) {p : Program IOUringModel Place n}
    (ends : run (step (overIOUring stop)) (begun n m) es = some p) {i : Fin n}
    {ctx : IOUringContext} {rest : IOUringWorkers.Rest} {sends : Nat}
    (here : p.workers i = .inside (.callback ctx rest sends)) {id : SessionID}
    {session : Session Fd} {packet : PacketBuffer}
    (found : p.server.mSessionManager.getSession id = some session)
    (packed : packet.contents ≠ []) (fits : packet.contents.length ≤ session.freeSpace)
    (a : SubmitAnswers) :
    ∃ p', step (overIOUring stop) p (.worker i (some (.send id packet a))) = some p' := by
  have reached := mem_states_of_run ends
  have known := invariant_of_kept step_known es _ (begun_known n m) p reached
  have yet := invariant_of_kept step_silentYet es _ (Or.inr silent) p reached
  obtain ⟨stuck, silent⟩ := silent_inside yet known here
  obtain ⟨m', gets⟩ := send_stuck silent found packed fits a
  refine ⟨{ p with server := m' }.setWorker i (.inside (.waiting (some rest))), ?_⟩
  simp only [step, workerStep, here, overIOUring, IOUringWorkers.move, gets, IOUringWorkers.sent,
    IOUringWorkers.Place.blocked, Option.map_some]

/-- The last of four workers is in mOnAccept for a client. -/
def greeted : List (Event IOUringWorkers.Event 4) :=
  List.replicate 5 (.main none) ++ [.worker (Fin.last 3) none, .worker (Fin.last 3) none,
    .worker (Fin.last 3) (some (.complete 0 9 [] ⟨⟨true, true⟩, ⟨true, true⟩⟩))]

theorem greeted_inside : ∃ p,
    run (step (overIOUring id)) (begun 4 IOUringWorkers.listeningServer.model) greeted = some p ∧
    (∃ ctx rest sends, p.workers (Fin.last 3) = .inside (.callback ctx rest sends)) ∧
    p.server.mSessionManager.getSession 1 = some (Session.accepted 1 9 .default) :=
  ⟨_, rfl, ⟨_, _, _, rfl⟩, rfl⟩

theorem greeter_unjoined : ∃ p p',
    run (step (overIOUring id)) (begun 4 IOUringWorkers.listeningServer.model) greeted = some p ∧
    step (overIOUring id) p (.worker (Fin.last 3) (some (.send 1
      IOUringWorkers.welcome ⟨true, true⟩))) = some p' ∧
    ∀ es' q, run (step (overIOUring id)) p' es' = some q → q.main ≠ .returned := by
  obtain ⟨p, ends, ⟨ctx, rest, sends, here⟩, found⟩ := greeted_inside
  have listening := IOUringWorkers.listeningServer_listens
  have packed : IOUringWorkers.welcome.contents ≠ [] := by
    decide
  have fits : IOUringWorkers.welcome.contents.length ≤
      (Session.accepted 1 (9 : Fd) .default).freeSpace := by
    rw [Session.freeSpace_accepted]
    decide
  obtain ⟨p', next⟩ := callback_sends ⟨_, IOUringWorkers.startListen_silent listening⟩ greeted ends
    here found packed fits ⟨true, true⟩
  refine ⟨p, p', ends, next, fun es' q onward => ?_⟩
  exact (sender_unjoined listening id 4 greeted ends found packed fits next es' onward).2.2.2

end ExampleMain
end KanchoNet
