import KanchoNet.Lib.Interleavings
import KanchoNet.Session.Session

/-!
SpinLock with any number of threads. A thread stands at the atomic operation it makes
next; each exchange, load and store is one step, and so is the call of a function.
-/
namespace KanchoNet
open Interleavings LabelledRuns

namespace SpinLock

def construct : SpinLock := ⟨false⟩

/-- mFlag.exchange: the value it had, and the lock with the new one. -/
def exchange (desired : Bool) (l : SpinLock) : Bool × SpinLock := (l.mFlag, ⟨desired⟩)

def load (l : SpinLock) : Bool := l.mFlag

def store (desired : Bool) (_ : SpinLock) : SpinLock := ⟨desired⟩

inductive Place where
  | outside
  | lockExchange
  | lockLoad
  | tryLockExchange
  | inside
  | unlockStore
  deriving DecidableEq

inductive Action where
  | lock
  | tryLock
  | unlock
  | atomic
  deriving DecidableEq

/-- unlock is called by a thread that has got the lock, as the destructor of
    SpinLockGuard calls it behind the lock of its constructor. -/
def move (l : SpinLock) : Place → Action → Option (SpinLock × Place)
  | .outside, .lock => some (l, .lockExchange)
  | .outside, .tryLock => some (l, .tryLockExchange)
  | .inside, .unlock => some (l, .unlockStore)
  | .lockExchange, .atomic =>
    let (held, l) := l.exchange true
    some (l, if held then .lockLoad else .inside)
  | .lockLoad, .atomic => some (l, if l.load then .lockLoad else .lockExchange)
  | .tryLockExchange, .atomic =>
    let (held, l) := l.exchange true
    some (l, if ¬held then .inside else .outside)
  | .unlockStore, .atomic => some (l.store false, .outside)
  | _, _ => none

def Place.holds : Place → Bool
  | .inside => true
  | .unlockStore => true
  | _ => false

theorem exchange_held {l : SpinLock} (held : l.mFlag = true) : (l.exchange true).2 = l := by
  cases l
  cases held
  rfl

theorem move_passes {l l' : SpinLock} {p p' : Place} {a : Action}
    (moved : move l p a = some (l', p')) :
    (l'.mFlag = l.mFlag ∧ p'.holds = p.holds) ∨
    (l.mFlag = false ∧ p.holds = false ∧ l'.mFlag = true ∧ p'.holds = true) ∨
    (p.holds = true ∧ l'.mFlag = false ∧ p'.holds = false) := by
  obtain ⟨flag⟩ := l
  fun_cases move ⟨flag⟩ p a with
  | case1 | case2 | case3 =>
    cases moved
    exact Or.inl ⟨rfl, rfl⟩
  | case4 | case6 =>
    cases flag with
    | false =>
      cases moved
      exact Or.inr (Or.inl ⟨rfl, rfl, rfl, rfl⟩)
    | true =>
      cases moved
      exact Or.inl ⟨rfl, rfl⟩
  | case5 =>
    cases flag with
    | false | true =>
      cases moved
      exact Or.inl ⟨rfl, rfl⟩
  | case7 =>
    cases moved
    exact Or.inr (Or.inr ⟨rfl, rfl, rfl⟩)
  | case8 => simp [move, *] at moved

/-- The lock is the token that its holder owns. -/
def token : Token move where
  taken := mFlag
  owns := Place.holds
  passes := move_passes

def unused (T : Type) : Threads T SpinLock Place := ⟨construct, fun _ => .outside⟩

variable {T : Type}

def Holds (s : Threads T SpinLock Place) (t : T) : Prop := (s.place t).holds = true

/-- At most one thread holds the lock, and the flag says whether one does. -/
structure Excludes (s : Threads T SpinLock Place) : Prop where
  alone : ∀ t u, Holds s t → Holds s u → t = u
  flag : s.shared.mFlag = true ↔ ∃ t, Holds s t

def TriesInVain (s : Threads T SpinLock Place) (e : T × Action) : Prop :=
  s.place e.1 = .tryLockExchange ∧ e.2 = .atomic ∧ (s.shared.exchange true).1 = true

theorem excludes_of_heldBy {s : Threads T SpinLock Place} {owner : Option T}
    (held : HeldBy token s owner) : Excludes s := by
  constructor
  · exact fun t u first second => owner_unique held first second
  · exact taken_iff_owned held

theorem unused_heldBy (T : Type) : HeldBy token (unused T) none := by
  constructor
  · rfl
  · exact fun t => iff_of_false (by simp [unused, token, Place.holds]) (by simp)

variable [DecidableEq T]

theorem tryInVain_step {s s' : Threads T SpinLock Place} {e : T × Action}
    (vain : TriesInVain s e) (next : step move s e = some s') :
    s'.shared = s.shared ∧ ∀ t, Holds s' t ↔ Holds s t := by
  obtain ⟨tries, atomic, held⟩ := vain
  obtain ⟨p', moved, own, others⟩ := step_cases next
  rw [tries, atomic] at moved
  obtain ⟨same, left⟩ : (s.shared.exchange true).2 = s'.shared ∧ .outside = p' := by
    simpa [move, held] using moved
  constructor
  · exact same.symm.trans (exchange_held held)
  · intro t
    unfold Holds
    by_cases trier : t = e.1
    · rw [trier, own, ← left, tries]
      rfl
    · rw [others t trier]

/-- Whatever the threads call and however their atomic operations interleave, at most one
    of them holds the lock, its flag is set exactly while one does, and a try_lock that
    returns false changes neither the lock nor who holds it. -/
theorem spin_lock_excludes (es : List (T × Action)) :
    (∀ s ∈ states (step move) (unused T) es, Excludes s) ∧
    ∀ x ∈ steps (step move) (unused T) es, TriesInVain x.1 x.2 →
      ∀ s', step move x.1 x.2 = some s' →
        s'.shared = x.1.shared ∧ ∀ t, Holds s' t ↔ Holds x.1 t := by
  constructor
  · intro s member
    obtain ⟨owner, _, held⟩ := held_along es (unused_heldBy T) s member
    exact excludes_of_heldBy held
  · exact fun x _ vain s' next => tryInVain_step vain next

end SpinLock
end KanchoNet
