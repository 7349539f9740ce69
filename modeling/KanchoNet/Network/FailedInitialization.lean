import KanchoNet.Network.EpollServer
import KanchoNet.Network.Initialization

/-!
What an Initialize that fails leaves behind, for each of the four models: an exit is the
result of the call with the resources it took and how often each was given back.
-/
namespace KanchoNet
open ResourceLedger LabelledRuns

abbrev Exit := Bool × List (Entry Resource)

structure Leaves (before : Ledger Resource) (exit : Exit) (result initialized : Bool)
    (after : Ledger Resource) : Prop where
  result : result = exit.1
  initialized : initialized = exit.1
  ledger : after = before ++ exit.2

theorem leaves_settled_iff {before after : Ledger Resource} {exit : Exit}
    {result initialized : Bool} (leaves : Leaves before exit result initialized after) :
    (result = false → Settled before after) ↔
      (exit.1 = false → ∀ entry ∈ exit.2, entry.releases = 1) := by
  rw [leaves.result, leaves.ledger, settled_append_iff]

theorem leaksNothing_iff_exits {α σ : Type} {object : Initializable α σ Resource}
    (exit : α → σ → Exit)
    (leaves : ∀ a s, object.initialized s = false →
      Leaves (object.ledger s) (exit a s) (object.attempt a s).1
        (object.initialized (object.attempt a s).2) (object.ledger (object.attempt a s).2))
    (idle : ∀ s, object.initialized s = false → object.shutdown s = s)
    (s : σ) (attempts : List α) : object.LeaksNothing s attempts ↔
      ∀ x ∈ steps object.step s attempts, object.initialized x.1 = false →
        (exit x.2 x.1).1 = false → ∀ entry ∈ (exit x.2 x.1).2, entry.releases = 1 := by
  have lawful : object.Lawful := by
    constructor
    · intro a s fresh failed
      have left := leaves a s fresh
      exact left.initialized.trans (left.result.symm.trans failed)
    · exact idle
  have each := fun a s fresh => leaves_settled_iff (leaves a s fresh)
  exact Initializable.leaksNothing_iff lawful each s attempts

/-- The exit of a call that takes resources stage by stage, behind some that it has taken
    and given back early. Where a stage is refused all are given back. -/
def unwound (early : List (Entry Resource)) : List (Bool × List Resource) → List Resource → Exit
  | [], taken => (true, early ++ taken.map fun resource => ⟨resource, 0⟩)
  | (granted, resources) :: later, taken =>
    if granted then unwound early later (taken ++ resources)
    else (false, early ++ taken.map fun resource => ⟨resource, 1⟩)

theorem unwound_settled {early : List (Entry Resource)}
    (settled : ∀ entry ∈ early, entry.releases = 1) {stages : List (Bool × List Resource)}
    {taken : List Resource} (failed : (unwound early stages taken).1 = false) :
    ∀ entry ∈ (unwound early stages taken).2, entry.releases = 1 := by
  induction stages generalizing taken with
  | nil => cases failed
  | cons stage later ih =>
    obtain ⟨granted, resources⟩ := stage
    cases granted with
    | true => exact ih failed
    | false =>
      rw [unwound, if_neg (by simp), List.forall_mem_append]
      refine ⟨settled, fun entry member => ?_⟩
      obtain ⟨resource, _, rfl⟩ := List.mem_map.mp member
      rfl

theorem leaksNothing_of_unwound {α σ : Type} {object : Initializable α σ Resource}
    (early : α → σ → List (Entry Resource)) (stages : α → σ → List (Bool × List Resource))
    (settled : ∀ a s, ∀ entry ∈ early a s, entry.releases = 1)
    (leaves : ∀ a s, object.initialized s = false →
      Leaves (object.ledger s) (unwound (early a s) (stages a s) []) (object.attempt a s).1
        (object.initialized (object.attempt a s).2) (object.ledger (object.attempt a s).2))
    (idle : ∀ s, object.initialized s = false → object.shutdown s = s)
    (s : σ) (attempts : List α) : object.LeaksNothing s attempts :=
  (leaksNothing_iff_exits (fun a s => unwound (early a s) (stages a s) []) leaves idle s
    attempts).mpr fun x _ _ => unwound_settled (settled x.2 x.1)

namespace EpollHandles

def object : Initializable Answers EpollHandles Resource where
  attempt := initializeModel
  initialized := mInitialized
  shutdown := shutdown
  ledger := os

def stages (a : Answers) : List (Bool × List Resource) :=
  [(a.epoll, [.epoll]), (a.listenSocket, [.socket]), (a.bound, [])]

theorem initializeModel_leaves {m : EpollHandles} (fresh : m.mInitialized = false)
    (a : Answers) : Leaves m.os (unwound [] (stages a) []) (initializeModel a m).1
      (initializeModel a m).2.mInitialized (initializeModel a m).2.os := by
  obtain ⟨config, epoll, listenSocket, bound⟩ := a
  cases epoll with
  | false => constructor <;> simp [initializeModel, stages, unwound, fresh, acquire]
  | true =>
    cases listenSocket with
    | false =>
      constructor <;> simp [initializeModel, stages, unwound, fresh, acquire, release_append_self]
      rfl
    | true =>
      cases bound with
      | false =>
        constructor <;>
          simp [initializeModel, stages, unwound, fresh, acquire, release_append_self,
            release_append]
        rfl
      | true => constructor <;> simp [initializeModel, stages, unwound, fresh, acquire]

theorem object_leaksNothing (m : EpollHandles) (attempts : List Answers) :
    object.LeaksNothing m attempts :=
  leaksNothing_of_unwound (fun _ _ => []) (fun a _ => stages a) (fun _ _ => List.forall_mem_nil _)
    (fun a _ fresh => initializeModel_leaves fresh a)
    (fun m fresh => if_pos (by simp [show m.mInitialized = false from fresh])) m attempts

/-- EpollServer has the descriptors themselves where a handle names an entry; its
    Initialize returns the same. -/
theorem initializeModel_agrees {m : EpollHandles} {server : EpollServer}
    (same : m.mInitialized = server.mInitialized) (config : EngineConfig)
    (a : InitializeAnswers) :
    (initializeModel ⟨config, a.epollFd.isSome, a.listenSocket.isSome, a.bound⟩ m).1 =
      (server.initializeModel config a).1 := by
  unfold initializeModel EpollServer.initializeModel
  cases fresh : server.mInitialized with
  | true => simp [same, fresh]
  | false =>
    cases a.epollFd with
    | none => simp [same, fresh, acquire]
    | some epollFd =>
      cases a.listenSocket with
      | none => simp [same, fresh, acquire]
      | some listenSocket =>
        cases bound : a.bound with
        | false => simp [same, fresh, acquire]
        | true => simp [same, fresh, acquire]

end EpollHandles

namespace IOUringHandles

def object : Initializable Answers IOUringHandles Resource where
  attempt := initializeModel
  initialized := mInitialized
  shutdown := shutdown
  ledger := os

/-- The ring made to see whether io_uring is supported, if it was made now. -/
def probe (a : Answers) (m : IOUringHandles) : List (Entry Resource) :=
  if m.mIOUringSupportChecked ∨ ¬a.testRing then [] else [⟨.ring, 1⟩]

def supported (a : Answers) (m : IOUringHandles) : Bool :=
  if m.mIOUringSupportChecked then m.mIOUringSupported else a.testRing

def stages (a : Answers) (m : IOUringHandles) : List (Bool × List Resource) :=
  [(supported a m, []), (a.ring, [.ring]), (a.listenSocket, [.socket]), (a.bound, [])]

theorem isIOUringSupported_leaves (a : Answers) (m : IOUringHandles) :
    (isIOUringSupported a m).1 = supported a m ∧
    (isIOUringSupported a m).2.os = m.os ++ probe a m ∧
    (isIOUringSupported a m).2.mInitialized = m.mInitialized := by
  unfold isIOUringSupported supported probe
  by_cases checked : m.mIOUringSupportChecked = true
  · simp [checked]
  · cases made : a.testRing with
    | false => simp [checked, acquire, release]
    | true =>
      simp [checked, acquire, release_append_self]
      rfl

theorem initializeModel_leaves {m : IOUringHandles} (fresh : m.mInitialized = false)
    (a : Answers) : Leaves m.os (unwound (probe a m) (stages a m) []) (initializeModel a m).1
      (initializeModel a m).2.mInitialized (initializeModel a m).2.os := by
  obtain ⟨checked, os, idle⟩ := isIOUringSupported_leaves a m
  unfold initializeModel
  rw [if_neg (by simp [fresh])]
  generalize isIOUringSupported a m = check at checked os idle ⊢
  obtain ⟨result, u⟩ := check
  dsimp only at checked os idle ⊢
  unfold stages
  rw [← checked]
  cases result with
  | false => exact ⟨rfl, idle.trans fresh, by simp [unwound, os]⟩
  | true =>
    have behind (rest : List (Entry Resource)) : m.os ++ (probe a m ++ rest) = u.os ++ rest := by
      rw [os, List.append_assoc]
    generalize probe a m = early at os behind ⊢
    obtain ⟨config, testRing, ring, listenSocket, bound⟩ := a
    cases ring with
    | false => constructor <;> simp [unwound, createIOUring, acquire, idle, fresh, os]
    | true =>
      cases listenSocket with
      | false =>
        constructor <;>
          simp [unwound, createIOUring, acquire, idle, fresh, behind, release_append_self]
        rfl
      | true =>
        cases bound with
        | false =>
          constructor <;>
            simp [unwound, createIOUring, acquire, idle, fresh, behind, release_append_self,
              release_append]
          rfl
        | true => constructor <;> simp [unwound, createIOUring, acquire, idle, fresh, behind]

theorem probe_settled (a : Answers) (m : IOUringHandles) :
    ∀ entry ∈ probe a m, entry.releases = 1 := by
  unfold probe
  split
  · exact List.forall_mem_nil _
  · rw [List.forall_mem_singleton]

theorem object_leaksNothing (m : IOUringHandles) (attempts : List Answers) :
    object.LeaksNothing m attempts :=
  leaksNothing_of_unwound probe stages probe_settled
    (fun a _ fresh => initializeModel_leaves fresh a)
    (fun m fresh => if_pos (by simp [show m.mInitialized = false from fresh])) m attempts

end IOUringHandles

namespace IOCPHandles

def object : Initializable Answers IOCPHandles Resource where
  attempt := initializeModel
  initialized := mInitialized
  shutdown := shutdown
  ledger := os

def stages (a : Answers) : List (Bool × List Resource) :=
  [(a.winsock, [.winsock]), (a.completionPort, [.completionPort]), (a.listenSocket, [.socket]),
    (a.extensionFunctions, []), (a.bound, [])]

theorem initializeModel_leaves {m : IOCPHandles} (fresh : m.mInitialized = false)
    (a : Answers) : Leaves m.os (unwound [] (stages a) []) (initializeModel a m).1
      (initializeModel a m).2.mInitialized (initializeModel a m).2.os := by
  obtain ⟨config, winsock, completionPort, listenSocket, extensionFunctions, bound⟩ := a
  cases winsock with
  | false => constructor <;> simp [initializeModel, stages, unwound, fresh, acquire]
  | true =>
    cases completionPort with
    | false =>
      constructor <;>
        simp [initializeModel, cleanupNetwork, stages, unwound, fresh, acquire, release_append_self]
      rfl
    | true =>
      cases listenSocket with
      | false =>
        constructor <;> simp [initializeModel, cleanupNetwork, stages, unwound, fresh, acquire,
          release_append_self, release_append]
        rfl
      | true =>
        cases extensionFunctions with
        | false =>
          constructor <;> simp [initializeModel, cleanupNetwork, stages, unwound, fresh, acquire,
            release_append_self, release_append]
          rfl
        | true =>
          cases bound with
          | false =>
            constructor <;> simp [initializeModel, cleanupNetwork, stages, unwound, fresh, acquire,
              release_append_self, release_append]
            rfl
          | true => constructor <;> simp [initializeModel, stages, unwound, fresh, acquire]

theorem object_leaksNothing (m : IOCPHandles) (attempts : List Answers) :
    object.LeaksNothing m attempts :=
  leaksNothing_of_unwound (fun _ _ => []) (fun a _ => stages a) (fun _ _ => List.forall_mem_nil _)
    (fun a _ fresh => initializeModel_leaves fresh a)
    (fun m fresh => if_pos (by simp [show m.mInitialized = false from fresh])) m attempts

end IOCPHandles

namespace RIOHandles

def object : Initializable Answers RIOHandles Resource where
  attempt := initializeModel
  initialized := mInitialized
  shutdown := shutdown
  ledger := os

def supported (a : Answers) (m : RIOHandles) : Bool :=
  if m.mRioSupportChecked then m.mRioSupported else a.supported

def eventEntry (event : Bool) : List (Entry Resource) := if event then [⟨.event, 0⟩] else []

theorem isRIOSupported_leaves (a : Answers) (m : RIOHandles) :
    (isRIOSupported a m).1 = supported a m ∧ (isRIOSupported a m).2.os = m.os ∧
    (isRIOSupported a m).2.mInitialized = m.mInitialized := by
  unfold isRIOSupported supported
  split
  · exact ⟨rfl, rfl, rfl⟩
  · exact ⟨rfl, rfl, rfl⟩

def resources (a : Answers) : Exit :=
  if ¬a.completionQueue then (false, eventEntry a.event)
  else if ¬a.receiveBuffer then
    (false, eventEntry a.event ++ [⟨.completionQueue, 0⟩, ⟨.memory, 1⟩])
  else if ¬a.sendBuffer then
    (false, eventEntry a.event ++
      [⟨.completionQueue, 0⟩, ⟨.memory, 1⟩, ⟨.registeredBuffer, 1⟩, ⟨.memory, 1⟩])
  else
    (true, eventEntry a.event ++
      [⟨.completionQueue, 0⟩, ⟨.memory, 0⟩, ⟨.registeredBuffer, 0⟩,
        ⟨.memory, 0⟩, ⟨.registeredBuffer, 0⟩])

def lateExit (a : Answers) : Exit :=
  if ¬(resources a).1 then (false, [⟨.winsock, 1⟩, ⟨.socket, 1⟩] ++ (resources a).2)
  else if ¬a.bound then
    (false, [⟨.winsock, 1⟩, ⟨.socket, 1⟩] ++ (eventEntry a.event ++ [⟨.completionQueue, 0⟩,
      ⟨.memory, 1⟩, ⟨.registeredBuffer, 1⟩, ⟨.memory, 1⟩, ⟨.registeredBuffer, 1⟩]))
  else (true, [⟨.winsock, 0⟩, ⟨.socket, 0⟩] ++ (resources a).2)

def exit (a : Answers) (m : RIOHandles) : Exit :=
  if ¬supported a m then (false, [])
  else if ¬a.winsock then (false, [])
  else if ¬a.listenSocket then (false, [⟨.winsock, 1⟩])
  else if ¬a.rioFunctions then (false, [⟨.winsock, 1⟩, ⟨.socket, 1⟩])
  else lateExit a

theorem acquire_event (event : Bool) (os : Ledger Resource) :
    (acquire .event event os).2 = os ++ eventEntry event := by
  cases event with
  | false => exact (List.append_nil _).symm
  | true => rfl

theorem createRIOResources_leaves (a : Answers) (m : RIOHandles) :
    let u := (createRIOResources a m).2
    (createRIOResources a m).1 = (resources a).1 ∧ u.os = m.os ++ (resources a).2 ∧
    u.mInitialized = m.mInitialized ∧ u.winsock = m.winsock ∧
    u.mListenSocket = m.mListenSocket ∧
    ((resources a).1 = true →
      (deregisterBuffers u).os = m.os ++ (eventEntry a.event ++ [⟨.completionQueue, 0⟩,
        ⟨.memory, 1⟩, ⟨.registeredBuffer, 1⟩, ⟨.memory, 1⟩, ⟨.registeredBuffer, 1⟩]) ∧
      (deregisterBuffers u).mInitialized = m.mInitialized ∧
      (deregisterBuffers u).winsock = m.winsock ∧
      (deregisterBuffers u).mListenSocket = m.mListenSocket) := by
  obtain ⟨config, support, winsock, listenSocket, rioFunctions, event, completionQueue,
    receiveBuffer, sendBuffer, bound⟩ := a
  have made := acquire_event event m.os
  unfold createRIOResources resources
  dsimp only at made ⊢
  generalize acquire .event event m.os = first at made ⊢
  obtain ⟨hEvent, os⟩ := first
  dsimp only at made ⊢
  have behind (rest : List (Entry Resource)) :
      m.os ++ (eventEntry event ++ rest) = os ++ rest := by
    rw [made, List.append_assoc]
  cases completionQueue with
  | false => simp [acquire, made]
  | true =>
    cases receiveBuffer with
    | false =>
      simp [acquire, registerBuffer, behind, release_append]
      rfl
    | true =>
      cases sendBuffer with
      | false =>
        simp [acquire, registerBuffer, deregisterBuffer, behind, release_append]
        rfl
      | true =>
        simp [acquire, registerBuffer, deregisterBuffers, deregisterBuffer, behind,
          release_append]
        rfl

theorem closeListenSocket_cleanup {m : RIOHandles} {os more : Ledger Resource}
    (ledger : m.os = os ++ ([⟨.winsock, 0⟩, ⟨.socket, 0⟩] ++ more))
    (winsock : m.winsock = some os.length) (listenSocket : m.mListenSocket = some (os.length + 1)) :
    m.closeListenSocket.cleanupNetwork.os =
      os ++ ([⟨.winsock, 1⟩, ⟨.socket, 1⟩] ++ more) := by
  unfold closeListenSocket cleanupNetwork
  dsimp only
  rw [ledger, winsock, listenSocket, release_append, release_append_self]
  rfl

theorem initializeResources_leaves {m : RIOHandles} {os : Ledger Resource}
    (ledger : m.os = os ++ [⟨.winsock, 0⟩, ⟨.socket, 0⟩]) (winsock : m.winsock = some os.length)
    (listenSocket : m.mListenSocket = some (os.length + 1)) (fresh : m.mInitialized = false)
    (a : Answers) : Leaves os (lateExit a) (initializeResources a m).1
      (initializeResources a m).2.mInitialized (initializeResources a m).2.os := by
  obtain ⟨created, taken, idle, winsock', listenSocket', undone⟩ := createRIOResources_leaves a m
  rw [ledger] at taken undone
  rw [fresh] at idle undone
  rw [winsock] at winsock' undone
  rw [listenSocket] at listenSocket' undone
  rw [List.append_assoc] at taken undone
  unfold initializeResources lateExit
  rw [← created] at undone ⊢
  generalize createRIOResources a m = result at created taken idle winsock' listenSocket' undone ⊢
  obtain ⟨result, u⟩ := result
  dsimp only at created taken idle winsock' listenSocket' undone ⊢
  cases result with
  | false =>
    simp only [Bool.false_eq_true, not_false_eq_true, ↓reduceIte]
    exact ⟨rfl, idle, closeListenSocket_cleanup taken winsock' listenSocket'⟩
  | true =>
    simp only [not_true_eq_false, ↓reduceIte]
    cases bound : a.bound with
    | false =>
      obtain ⟨taken, idle, winsock', listenSocket'⟩ := undone rfl
      simp only [Bool.false_eq_true, not_false_eq_true, ↓reduceIte]
      exact ⟨rfl, idle, closeListenSocket_cleanup taken winsock' listenSocket'⟩
    | true =>
      simp only [not_true_eq_false, ↓reduceIte]
      exact ⟨rfl, rfl, taken⟩

theorem initializeModel_leaves {m : RIOHandles} (fresh : m.mInitialized = false)
    (a : Answers) : Leaves m.os (exit a m) (initializeModel a m).1
      (initializeModel a m).2.mInitialized (initializeModel a m).2.os := by
  obtain ⟨checked, os, idle⟩ := isRIOSupported_leaves a { m with mConfig := a.config }
  have same : supported a { m with mConfig := a.config } = supported a m := rfl
  rw [same] at checked
  unfold initializeModel
  rw [if_neg (by simp [fresh])]
  generalize isRIOSupported a { m with mConfig := a.config } = check at checked os idle ⊢
  obtain ⟨result, u⟩ := check
  dsimp only at checked os idle ⊢
  unfold exit
  rw [← checked, ← os]
  rw [fresh] at idle
  cases result with
  | false => exact ⟨rfl, idle, (List.append_nil _).symm⟩
  | true =>
    simp only [not_true_eq_false, ↓reduceIte]
    cases started : a.winsock with
    | false => constructor <;> simp [acquire, idle]
    | true =>
      cases socket : a.listenSocket with
      | false =>
        constructor <;> simp [acquire, idle, cleanupNetwork, release_append_self]
        rfl
      | true =>
        cases functions : a.rioFunctions with
        | false =>
          constructor <;> simp [acquire, idle, closeListenSocket, cleanupNetwork,
            release_append_self, release_append]
          rfl
        | true =>
          simp only [acquire, if_true, not_true_eq_false, if_false, reduceCtorEq]
          apply initializeResources_leaves
          · simp
          · rfl
          · simp
          · exact idle

def Unwinds (a : Answers) (m : RIOHandles) : Prop :=
  supported a m = true → a.winsock = true → a.listenSocket = true → a.rioFunctions = true →
    (a.event = false ∧ a.completionQueue = false) ∨
    (a.completionQueue = true ∧ a.receiveBuffer = true ∧ a.sendBuffer = true ∧ a.bound = true)

theorem lateExit_settled_iff (a : Answers) :
    ((lateExit a).1 = false → ∀ entry ∈ (lateExit a).2, entry.releases = 1) ↔
      (a.event = false ∧ a.completionQueue = false) ∨
      (a.completionQueue = true ∧ a.receiveBuffer = true ∧ a.sendBuffer = true ∧
        a.bound = true) := by
  obtain ⟨config, support, winsock, listenSocket, rioFunctions, event, completionQueue,
    receiveBuffer, sendBuffer, bound⟩ := a
  unfold lateExit resources eventEntry
  cases completionQueue with
  | false =>
    cases event with
    | false => simp
    | true => simp
  | true =>
    -- the completion queue is not closed on any of the exits
    have leaks : ∀ entries : List (Entry Resource), ⟨.completionQueue, 0⟩ ∈ entries →
        ¬∀ entry ∈ entries, entry.releases = 1 := by
      intro entries member settled
      cases settled _ member
    cases receiveBuffer with
    | false => exact iff_of_false (fun settled => leaks _ (by simp) (settled rfl)) (by simp)
    | true =>
      cases sendBuffer with
      | false => exact iff_of_false (fun settled => leaks _ (by simp) (settled rfl)) (by simp)
      | true =>
        cases bound with
        | false => exact iff_of_false (fun settled => leaks _ (by simp) (settled rfl)) (by simp)
        | true => simp

theorem exit_settled_iff (a : Answers) (m : RIOHandles) :
    ((exit a m).1 = false → ∀ entry ∈ (exit a m).2, entry.releases = 1) ↔ Unwinds a m := by
  unfold exit Unwinds
  cases supported a m with
  | false => simp
  | true =>
    cases winsock : a.winsock with
    | false => simp
    | true =>
      cases listenSocket : a.listenSocket with
      | false => simp
      | true =>
        cases functions : a.rioFunctions with
        | false => simp
        | true => simpa using lateExit_settled_iff a

theorem object_leaksNothing_iff (m : RIOHandles) (attempts : List Answers) :
    object.LeaksNothing m attempts ↔ ∀ x ∈ steps object.step m attempts,
      x.1.mInitialized = false → Unwinds x.2 x.1 := by
  rw [leaksNothing_iff_exits exit (fun a _ fresh => initializeModel_leaves fresh a)
    (fun m fresh => if_pos (by simp [show m.mInitialized = false from fresh])) m attempts]
  exact forall₂_congr fun x _ => forall_congr' fun _ => exit_settled_iff x.2 x.1

def construct : RIOHandles where
  mInitialized := false
  mRunning := false
  mConfig := .default
  winsock := none
  mListenSocket := none
  mCompletionQueue := none
  hEvent := none
  mRecvBufferInfo := ⟨.zero, none, 0, 0⟩
  mSendBufferInfo := ⟨.zero, none, 0, 0⟩
  mSessionManager := SessionManager.construct 0
  mRioSupportChecked := false
  mRioSupported := false
  reports := ⟨false, []⟩
  os := []

end RIOHandles

inductive Attempts where
  | epoll (m : EpollHandles) (attempts : List EpollHandles.Answers)
  | ioUring (m : IOUringHandles) (attempts : List IOUringHandles.Answers)
  | iocp (m : IOCPHandles) (attempts : List IOCPHandles.Answers)
  | rio (m : RIOHandles) (attempts : List RIOHandles.Answers)

namespace Attempts

def LeakNothing : Attempts → Prop
  | .epoll m attempts => EpollHandles.object.LeaksNothing m attempts
  | .ioUring m attempts => IOUringHandles.object.LeaksNothing m attempts
  | .iocp m attempts => IOCPHandles.object.LeaksNothing m attempts
  | .rio m attempts => RIOHandles.object.LeaksNothing m attempts

/-- No call on a RIOModel fails after it has made its event or its completion queue. -/
def Unwind : Attempts → Prop
  | .rio m attempts => ∀ x ∈ steps RIOHandles.object.step m attempts,
      x.1.mInitialized = false → RIOHandles.Unwinds x.2 x.1
  | _ => True

end Attempts

/-- Whatever fails in any sequence of Initialize calls, EpollModel, IOUringModel and
    IOCPModel give back all that a failed call took; RIOModel does so exactly when no
    call fails after it has made its event or its completion queue. -/
theorem failed_initialization_leaks_iff (calls : Attempts) :
    calls.LeakNothing ↔ calls.Unwind := by
  cases calls with
  | epoll m attempts => exact iff_of_true (EpollHandles.object_leaksNothing m attempts) trivial
  | ioUring m attempts => exact iff_of_true (IOUringHandles.object_leaksNothing m attempts) trivial
  | iocp m attempts => exact iff_of_true (IOCPHandles.object_leaksNothing m attempts) trivial
  | rio m attempts => exact RIOHandles.object_leaksNothing_iff m attempts

/- The port is in use: bind() fails, and the event and the completion queue stay open. -/
theorem port_in_use_leaks :
    ¬(Attempts.rio RIOHandles.construct
      [⟨.default, true, true, true, true, true, true, true, true, false⟩]).LeakNothing := by
  intro nothing
  have settled := nothing.failures (RIOHandles.construct, _) List.mem_cons_self rfl rfl
  obtain ⟨more, taken, once⟩ := settled
  have left : (⟨.completionQueue, 0⟩ : Entry Resource) ∈ more := by
    have same : more = _ := (List.nil_append more).symm.trans taken.symm
    rw [same]
    decide
  cases once _ left

end KanchoNet
