import KanchoNet.Lib.Interleavings
import Mathlib.Algebra.Order.BigOperators.Group.Finset

/-!
The main functions of the examples. Each starts workers that call ProcessIO while running
is set, reads lines up to a q, clears running, joins the workers in their order and calls
Stop. What a thread does inside ProcessIO is left to the server.
-/
namespace KanchoNet
open Interleavings LabelledRuns

/-- A server as main and its workers drive it: the atomic steps of a thread inside
    ProcessIO, and the places where ProcessIO begins and may return. -/
structure Served (σ π ε : Type) where
  move : Move σ π ε
  entry : π
  returns : π → Bool
  stop : σ → σ

namespace ExampleMain
variable {σ π ε : Type} {n : Nat}

/-- A worker that is calling has read running as set. -/
inductive Worker (π : Type) where
  | unborn
  | loading
  | calling
  | inside (place : π)
  | ended

inductive Main where
  | starting (i : Nat)
  | reading
  | storing
  | joining (i : Nat)
  | stopping
  | returned

structure Program (σ π : Type) (n : Nat) where
  server : σ
  running : Bool
  workers : Fin n → Worker π
  main : Main

inductive Event (ε : Type) (n : Nat) where
  | main (input : Option String)
  | worker (i : Fin n) (inside : Option ε)

def Worker.isEnded : Worker π → Bool
  | .ended => true
  | _ => false

def quits : Option String → Bool
  | none => true
  | some input => input == "q" || input == "Q"

def Program.setWorker (p : Program σ π n) (i : Fin n) (w : Worker π) : Program σ π n :=
  { p with workers := Function.update p.workers i w }

@[simp] theorem workers_setWorker_self (p : Program σ π n) (i : Fin n) (w : Worker π) :
    (p.setWorker i w).workers i = w :=
  Function.update_self _ _ _

theorem workers_setWorker_ne (p : Program σ π n) {i j : Fin n} (other : j ≠ i) (w : Worker π) :
    (p.setWorker i w).workers j = p.workers j :=
  Function.update_of_ne other _ _

def mainStep (S : Served σ π ε) (input : Option String) (p : Program σ π n) :
    Option (Program σ π n) :=
  match p.main with
  | .starting i =>
    if h : i < n then some { p.setWorker ⟨i, h⟩ .loading with main := .starting (i + 1) }
    else some { p with main := .reading }
  | .reading => some { p with main := if quits input then .storing else .reading }
  | .storing => some { p with running := false, main := .joining 0 }
  | .joining i =>
    if h : i < n then
      -- join waits
      if (p.workers ⟨i, h⟩).isEnded then some { p with main := .joining (i + 1) } else none
    else some { p with main := .stopping }
  | .stopping => some { p with server := S.stop p.server, main := .returned }
  | .returned => none

def workerStep (S : Served σ π ε) (i : Fin n) (inside : Option ε) (p : Program σ π n) :
    Option (Program σ π n) :=
  match p.workers i, inside with
  | .loading, none => some (p.setWorker i (if p.running then .calling else .ended))
  | .calling, none => some (p.setWorker i (.inside S.entry))
  | .inside place, some e =>
    (S.move p.server place e).map fun next =>
      { p with server := next.1 }.setWorker i (.inside next.2)
  | .inside place, none => if S.returns place then some (p.setWorker i .loading) else none
  | _, _ => none

def step (S : Served σ π ε) (p : Program σ π n) : Event ε n → Option (Program σ π n)
  | .main input => mainStep S input p
  | .worker i inside => workerStep S i inside p

def begun (n : Nat) (server : σ) : Program σ π n := ⟨server, true, fun _ => .unborn, .starting 0⟩

def Main.started : Main → Nat → Bool
  | .starting k, i => decide (i < k)
  | _, _ => true

def Main.stored : Main → Bool
  | .joining _ | .stopping | .returned => true
  | _ => false

def Main.joined : Main → Nat → Bool
  | .joining k, i => decide (i < k)
  | .stopping, _ | .returned, _ => true
  | _, _ => false

structure Known (p : Program σ π n) : Prop where
  running : p.running = !p.main.stored
  born : ∀ i : Fin n, p.workers i = .unborn ↔ p.main.started i = false
  ended : ∀ i : Fin n, p.main.joined i = true → p.workers i = .ended

theorem begun_known (n : Nat) (server : σ) : Known (begun n server : Program σ π n) := by
  constructor
  · rfl
  · exact fun i => iff_of_true rfl (decide_eq_false (Nat.not_lt_zero i))
  · rintro i ⟨⟩

theorem Known.born_later {p : Program σ π n} (known : Known p) {m : Main} {i : Fin n}
    (before : p.main.started i = true) (after : m.started i = true) :
    p.workers i = .unborn ↔ m.started i = false := by
  rw [known.born i, before, after]

theorem ended_of_isEnded {w : Worker π} (ended : w.isEnded = true) : w = .ended := by
  cases w with
  | ended => rfl
  | unborn => cases ended
  | loading => cases ended
  | calling => cases ended
  | inside => cases ended

theorem stored_of_joined {m : Main} {i : Nat} (joined : m.joined i = true) : m.stored = true := by
  cases m with
  | joining => rfl
  | stopping => rfl
  | returned => rfl
  | starting => cases joined
  | reading => cases joined
  | storing => cases joined

/-- What main does in a step: it starts a worker, reads on, clears running, joins a worker,
    is done with that, or stops the server. -/
theorem mainStep_cases {S : Served σ π ε} {input : Option String} {p p' : Program σ π n}
    (next : mainStep S input p = some p') :
    (∃ i : Fin n, p.main = .starting i ∧
      p' = { p.setWorker i .loading with main := .starting (i + 1) }) ∨
    ((∀ i : Fin n, p.main.started i = true) ∧ p.main.stored = false ∧
      ∃ m, (m = .reading ∨ m = .storing) ∧ p' = { p with main := m }) ∨
    (p.main = .storing ∧ p' = { p with running := false, main := .joining 0 }) ∨
    (∃ i : Fin n, p.main = .joining i ∧ p.workers i = .ended ∧
      p' = { p with main := .joining (i + 1) }) ∨
    (∃ k, p.main = .joining k ∧ n ≤ k ∧ p' = { p with main := .stopping }) ∨
    (p.main = .stopping ∧ p' = { p with server := S.stop p.server, main := .returned }) := by
  unfold mainStep at next
  cases here : p.main with
  | starting k =>
    simp only [here] at next
    split at next
    · rename_i more
      cases next
      exact Or.inl ⟨⟨k, more⟩, rfl, rfl⟩
    · rename_i all
      cases next
      refine Or.inr (Or.inl ⟨fun i => ?_, rfl, .reading, Or.inl rfl, rfl⟩)
      exact decide_eq_true (i.isLt.trans_le (Nat.le_of_not_lt all))
  | reading =>
    simp only [here] at next
    cases next
    refine Or.inr (Or.inl ⟨fun _ => rfl, rfl, _, ?_, rfl⟩)
    split
    · exact Or.inr rfl
    · exact Or.inl rfl
  | storing =>
    simp only [here] at next
    cases next
    exact Or.inr (Or.inr (Or.inl ⟨rfl, rfl⟩))
  | joining k =>
    simp only [here] at next
    split at next
    · rename_i more
      split at next
      · rename_i ended
        cases next
        exact Or.inr (Or.inr (Or.inr (Or.inl ⟨⟨k, more⟩, rfl, ended_of_isEnded ended, rfl⟩)))
      · cases next
    · rename_i all
      cases next
      exact Or.inr (Or.inr (Or.inr (Or.inr (Or.inl ⟨k, rfl, Nat.le_of_not_lt all, rfl⟩))))
  | stopping =>
    simp only [here] at next
    cases next
    exact Or.inr (Or.inr (Or.inr (Or.inr (Or.inr ⟨rfl, rfl⟩))))
  | returned =>
    simp only [here] at next
    cases next

theorem workerStep_cases {S : Served σ π ε} {i : Fin n} {inside : Option ε}
    {p p' : Program σ π n} (next : workerStep S i inside p = some p') :
    (inside = none ∧ p.workers i = .loading ∧
      p' = p.setWorker i (if p.running then .calling else .ended)) ∨
    (inside = none ∧ p.workers i = .calling ∧ p' = p.setWorker i (.inside S.entry)) ∨
    (∃ place, inside = none ∧ p.workers i = .inside place ∧ S.returns place = true ∧
      p' = p.setWorker i .loading) ∨
    (∃ e place server place', inside = some e ∧ p.workers i = .inside place ∧
      S.move p.server place e = some (server, place') ∧
      p' = { p with server }.setWorker i (.inside place')) := by
  unfold workerStep at next
  split at next
  · rename_i here
    cases next
    exact Or.inl ⟨rfl, here, rfl⟩
  · rename_i here
    cases next
    exact Or.inr (Or.inl ⟨rfl, here, rfl⟩)
  · rename_i place e here
    obtain ⟨⟨server, place'⟩, moved, rfl⟩ := Option.map_eq_some_iff.mp next
    exact Or.inr (Or.inr (Or.inr ⟨e, place, server, place', rfl, here, moved, rfl⟩))
  · rename_i place here
    split at next
    · rename_i returns
      cases next
      exact Or.inr (Or.inr (Or.inl ⟨place, rfl, here, returns, rfl⟩))
    · cases next
  · cases next

theorem workerStep_frame {S : Served σ π ε} {i : Fin n} {inside : Option ε}
    {p p' : Program σ π n} (next : workerStep S i inside p = some p') :
    p'.main = p.main ∧ p'.running = p.running ∧ (∀ j, j ≠ i → p'.workers j = p.workers j) ∧
      p.workers i ≠ .ended ∧ p.workers i ≠ .unborn ∧ p'.workers i ≠ .unborn := by
  rcases workerStep_cases next with
    ⟨_, here, rfl⟩ | ⟨_, here, rfl⟩ | ⟨place, _, here, _, rfl⟩ |
    ⟨e, place, server, place', _, here, _, rfl⟩
  · refine ⟨rfl, rfl, fun j other => workers_setWorker_ne p other _, by simp [here],
      by simp [here], ?_⟩
    rw [workers_setWorker_self]
    split <;> simp
  · exact ⟨rfl, rfl, fun j other => workers_setWorker_ne p other _, by simp [here],
      by simp [here], by simp⟩
  · exact ⟨rfl, rfl, fun j other => workers_setWorker_ne p other _, by simp [here],
      by simp [here], by simp⟩
  · exact ⟨rfl, rfl, fun j other => workers_setWorker_ne _ other _, by simp [here],
      by simp [here], by simp⟩

theorem mainStep_known {S : Served σ π ε} {input : Option String} {p p' : Program σ π n}
    (known : Known p) (next : mainStep S input p = some p') : Known p' := by
  have running := known.running
  rcases mainStep_cases next with
    ⟨i, main, rfl⟩ | ⟨started, early, m, onward, rfl⟩ | ⟨main, rfl⟩ | ⟨i, main, ended, rfl⟩ |
    ⟨k, main, all, rfl⟩ | ⟨main, rfl⟩
  · refine ⟨running.trans (by rw [main]; rfl), fun j => ?_, nofun⟩
    by_cases same : j = i
    · subst same
      exact iff_of_false (by simp [Program.setWorker]) (by simp [Main.started])
    · have apart : (j : Nat) ≠ i := fun eq => same (Fin.ext eq)
      have born := known.born j
      rw [main] at born
      have sooner : decide ((j : Nat) < i + 1) = decide ((j : Nat) < i) := by
        apply decide_eq_decide.mpr
        omega
      rw [Main.started, sooner]
      change (p.setWorker i .loading).workers j = .unborn ↔ _
      rw [workers_setWorker_ne p same]
      exact born
  · have unstored : m.stored = false := by
      rcases onward with rfl | rfl <;> rfl
    refine ⟨running.trans (by rw [early, unstored]), fun j => ?_, fun j joined => ?_⟩
    · refine known.born_later (started j) ?_
      rcases onward with rfl | rfl <;> rfl
    · cases unstored.symm.trans (stored_of_joined joined)
  · refine ⟨rfl, fun j => known.born_later (by rw [main]; rfl) rfl, fun j joined => ?_⟩
    simp [Main.joined] at joined
  · refine ⟨running.trans (by rw [main]; rfl),
      fun j => known.born_later (by rw [main]; rfl) rfl, fun j joined => ?_⟩
    by_cases same : j = i
    · exact same ▸ ended
    · have apart : (j : Nat) ≠ i := fun eq => same (Fin.ext eq)
      apply known.ended j
      rw [main]
      simp only [Main.joined, decide_eq_true_eq] at joined ⊢
      omega
  · refine ⟨running.trans (by rw [main]; rfl),
      fun j => known.born_later (by rw [main]; rfl) rfl, fun j _ => ?_⟩
    apply known.ended j
    rw [main]
    exact decide_eq_true (j.isLt.trans_le all)
  · refine ⟨running.trans (by rw [main]; rfl),
      fun j => known.born_later (by rw [main]; rfl) rfl, fun j _ => ?_⟩
    exact known.ended j (by rw [main]; rfl)

theorem step_known {S : Served σ π ε} (p : Program σ π n) (e : Event ε n) (p' : Program σ π n)
    (known : Known p) (next : step S p e = some p') : Known p' := by
  cases e with
  | main input => exact mainStep_known known next
  | worker i inside =>
    obtain ⟨main, running, others, alive, born, born'⟩ := workerStep_frame next
    constructor
    · rw [main, running]
      exact known.running
    · intro j
      rw [main, ← known.born j]
      by_cases same : j = i
      · rw [same]
        exact iff_of_false born' born
      · rw [others j same]
    · intro j joined
      rw [main] at joined
      by_cases same : j = i
      · exact absurd (known.ended i (same ▸ joined)) alive
      · rw [others j same]
        exact known.ended j joined

theorem step_stored {S : Served σ π ε} {p p' : Program σ π n} {e : Event ε n}
    (stored : p.main.stored = true) (next : step S p e = some p') : p'.main.stored = true := by
  cases e with
  | worker i inside => exact (workerStep_frame next).1 ▸ stored
  | main input =>
    rcases mainStep_cases next with
      ⟨i, main, rfl⟩ | ⟨_, early, m, _, rfl⟩ | ⟨main, rfl⟩ | ⟨i, main, _, rfl⟩ |
      ⟨k, main, _, rfl⟩ | ⟨main, rfl⟩
    · cases main ▸ stored
    · cases early.symm.trans stored
    · rfl
    · rfl
    · rfl
    · rfl

theorem step_enters {S : Served σ π ε} {p p' : Program σ π n} {e : Event ε n}
    (next : step S p e = some p') {i : Fin n} {place' : π}
    (inside : p'.workers i = .inside place') :
    p.workers i = .calling ∨ ∃ place, p.workers i = .inside place := by
  cases e with
  | main input =>
    rcases mainStep_cases next with
      ⟨j, main, rfl⟩ | ⟨_, _, m, _, rfl⟩ | ⟨_, rfl⟩ | ⟨_, _, _, rfl⟩ | ⟨_, _, _, rfl⟩ | ⟨_, rfl⟩
    · by_cases same : i = j
      · rw [same] at inside
        cases (workers_setWorker_self p j .loading).symm.trans inside
      · exact Or.inr ⟨place', (workers_setWorker_ne p same .loading).symm.trans inside⟩
    · exact Or.inr ⟨place', inside⟩
    · exact Or.inr ⟨place', inside⟩
    · exact Or.inr ⟨place', inside⟩
    · exact Or.inr ⟨place', inside⟩
    · exact Or.inr ⟨place', inside⟩
  | worker j own =>
    obtain ⟨_, _, others, _⟩ := workerStep_frame next
    by_cases same : i = j
    · subst same
      rcases workerStep_cases next with
        ⟨_, _, rfl⟩ | ⟨_, here, _⟩ | ⟨place, _, here, _, _⟩ | ⟨_, place, _, _, _, here, _, _⟩
      · rw [workers_setWorker_self] at inside
        split at inside <;> cases inside
      · exact Or.inl here
      · exact Or.inr ⟨place, here⟩
      · exact Or.inr ⟨place, here⟩
    · exact Or.inr ⟨place', (others i same).symm.trans inside⟩

/- Once running is cleared no worker reads it as set. -/
theorem step_calls {S : Served σ π ε} {p p' : Program σ π n} {e : Event ε n}
    (cleared : p.running = false) (next : step S p e = some p') {i : Fin n}
    (calling : p'.workers i = .calling) : p.workers i = .calling := by
  cases e with
  | main input =>
    rcases mainStep_cases next with
      ⟨j, main, rfl⟩ | ⟨_, _, m, _, rfl⟩ | ⟨_, rfl⟩ | ⟨_, _, _, rfl⟩ | ⟨_, _, _, rfl⟩ | ⟨_, rfl⟩
    · by_cases same : i = j
      · rw [same] at calling
        cases (workers_setWorker_self p j .loading).symm.trans calling
      · exact (workers_setWorker_ne p same .loading).symm.trans calling
    · exact calling
    · exact calling
    · exact calling
    · exact calling
    · exact calling
  | worker j own =>
    obtain ⟨_, _, others, _⟩ := workerStep_frame next
    by_cases same : i = j
    · subst same
      rcases workerStep_cases next with
        ⟨_, _, rfl⟩ | ⟨_, here, _⟩ | ⟨place, _, here, _, rfl⟩ | ⟨_, place, _, _, _, here, _, rfl⟩
      · rw [workers_setWorker_self, cleared] at calling
        cases calling
      · exact here
      · rw [workers_setWorker_self] at calling
        cases calling
      · rw [workers_setWorker_self] at calling
        cases calling
    · exact (others i same).symm.trans calling

/-- The steps that a worker still makes outside ProcessIO once running is cleared. -/
def Worker.left : Worker π → Nat
  | .unborn | .ended => 0
  | .loading => 1
  | .calling => 3
  | .inside _ => 2

def Main.left (n : Nat) : Main → Nat
  | .joining k => n - k + 2
  | .stopping => 1
  | _ => 0

def Program.left (p : Program σ π n) : Nat := (∑ i, (p.workers i).left) + p.main.left n

def Event.own : Event ε n → Bool
  | .worker _ (some _) => false
  | _ => true

theorem left_setWorker (p : Program σ π n) (i : Fin n) (w : Worker π) :
    (p.setWorker i w).left + (p.workers i).left = p.left + w.left := by
  have before := Finset.add_sum_erase Finset.univ (fun j => (p.workers j).left) (Finset.mem_univ i)
  have after := Finset.add_sum_erase Finset.univ (fun j => ((p.setWorker i w).workers j).left)
    (Finset.mem_univ i)
  have rest : ∑ j ∈ Finset.univ.erase i, ((p.setWorker i w).workers j).left =
      ∑ j ∈ Finset.univ.erase i, (p.workers j).left :=
    Finset.sum_congr rfl fun j member => by
      rw [workers_setWorker_ne p (Finset.ne_of_mem_erase member)]
  simp only [workers_setWorker_self, rest] at before after
  have main : (p.setWorker i w).main = p.main := rfl
  unfold Program.left
  rw [main]
  omega

theorem left_le (p : Program σ π n) : p.left ≤ 4 * n + 2 := by
  have each : ∀ i ∈ Finset.univ, (p.workers i).left ≤ 3 := by
    intro i _
    cases p.workers i <;> simp [Worker.left]
  have workers := Finset.sum_le_card_nsmul Finset.univ _ 3 each
  have main : p.main.left n ≤ n + 2 := by
    cases p.main <;> simp [Main.left]
  rw [Finset.card_univ, Fintype.card_fin, Nat.nsmul_eq_mul] at workers
  unfold Program.left
  omega

/- A step outside ProcessIO is one less to make. -/
theorem left_step {S : Served σ π ε} {p p' : Program σ π n} {e : Event ε n} (known : Known p)
    (stored : p.main.stored = true) (next : step S p e = some p') :
    p'.left + e.own.toNat = p.left := by
  cases e with
  | main input =>
    rcases mainStep_cases next with
      ⟨i, main, rfl⟩ | ⟨_, early, m, _, rfl⟩ | ⟨main, rfl⟩ | ⟨i, main, _, rfl⟩ |
      ⟨k, main, all, rfl⟩ | ⟨main, rfl⟩
    · cases main ▸ stored
    · cases early.symm.trans stored
    · cases main ▸ stored
    · have more := i.isLt
      simp only [Program.left, Main.left, main, Event.own, Bool.toNat_true]
      omega
    · simp only [Program.left, Main.left, main, Event.own, Bool.toNat_true]
      omega
    · simp only [Program.left, Main.left, main, Event.own, Bool.toNat_true]
  | worker i inside =>
    rcases workerStep_cases next with
      ⟨rfl, here, rfl⟩ | ⟨rfl, here, rfl⟩ | ⟨place, rfl, here, _, rfl⟩ |
      ⟨e, place, server, place', rfl, here, _, rfl⟩
    · have counts := left_setWorker p i .ended
      rw [here] at counts
      rw [known.running, stored]
      exact counts
    · have counts := left_setWorker p i (.inside S.entry)
      rw [here] at counts
      simp only [Worker.left, Event.own, Bool.toNat_true] at counts ⊢
      omega
    · have counts := left_setWorker p i .loading
      rw [here] at counts
      simp only [Worker.left, Event.own, Bool.toNat_true] at counts ⊢
      omega
    · have counts := left_setWorker { p with server } i (.inside place')
      rw [here] at counts
      exact Nat.add_right_cancel counts

/-- Main and the workers can take no step but inside ProcessIO. -/
def Rests (S : Served σ π ε) (p : Program σ π n) : Prop :=
  ∀ e : Event ε n, e.own = true → step S p e = none

theorem rests_cases {S : Served σ π ε} {p : Program σ π n} (known : Known p)
    (stored : p.main.stored = true) (rests : Rests S p) :
    p.main = .returned ∨ ∃ (i : Fin n) (place : π), p.main = .joining i ∧
      p.workers i = .inside place ∧ S.returns place = false := by
  have main := rests (.main none) rfl
  change mainStep S none p = none at main
  unfold mainStep at main
  cases here : p.main with
  | returned => exact Or.inl rfl
  | starting => cases here ▸ stored
  | reading => cases here ▸ stored
  | storing => cases here ▸ stored
  | stopping => simp [here] at main
  | joining k =>
    right
    simp only [here] at main
    split at main
    · rename_i more
      have own := rests (.worker ⟨k, more⟩ none) rfl
      change workerStep S ⟨k, more⟩ none p = none at own
      unfold workerStep at own
      cases at' : p.workers ⟨k, more⟩ with
      | unborn =>
        have unstarted := (known.born ⟨k, more⟩).mp at'
        rw [here] at unstarted
        cases unstarted
      | loading => simp [at'] at own
      | calling => simp [at'] at own
      | ended => simp [at', Worker.isEnded] at main
      | inside place =>
        refine ⟨⟨k, more⟩, place, rfl, at', Bool.eq_false_of_not_eq_true fun returns => ?_⟩
        simp [at', returns] at own
    · cases main

structure Ending (p q : Program σ π n) : Prop where
  known : Known q
  stored : q.main.stored = true
  calling : ∀ i, q.workers i = .calling → p.workers i = .calling
  inside : ∀ i place', q.workers i = .inside place' →
    p.workers i = .calling ∨ ∃ place, p.workers i = .inside place

theorem step_ending {S : Served σ π ε} {p : Program σ π n} (q : Program σ π n) (e : Event ε n)
    (r : Program σ π n) (ending : Ending p q) (next : step S q e = some r) : Ending p r := by
  have cleared : q.running = false := by
    rw [ending.known.running, ending.stored]
    rfl
  refine ⟨step_known q e r ending.known next, step_stored ending.stored next, ?_, ?_⟩
  · intro i there
    exact ending.calling i (step_calls cleared next there)
  · intro i place' there
    rcases step_enters next there with before | ⟨place, before⟩
    · exact Or.inl (ending.calling i before)
    · exact ending.inside i place before

theorem returned_rests {S : Served σ π ε} {p : Program σ π n} (known : Known p)
    (returned : p.main = .returned) (e : Event ε n) : step S p e = none := by
  cases e with
  | main input =>
    change mainStep S input p = none
    unfold mainStep
    rw [returned]
  | worker i inside =>
    change workerStep S i inside p = none
    unfold workerStep
    rw [known.ended i (by rw [returned]; rfl)]

/-- How a main function ends, for any server and number of workers. No worker is in
    ProcessIO when Stop is called, and nothing happens after main has returned. Once running
    is cleared no worker reads it as set again, so that only those that had read it before
    still call ProcessIO, and main and the workers have a bounded number of steps left
    outside it; when none of them can be made, main has returned or waits for a worker that
    is inside ProcessIO and can not return from there. -/
theorem shuts_down (S : Served σ π ε) (n : Nat) (server : σ) (es : List (Event ε n))
    {p : Program σ π n} (ends : run (step S) (begun n server) es = some p) :
    (p.main = .stopping ∨ p.main = .returned → ∀ i, p.workers i = .ended) ∧
    (p.main = .returned → ∀ e, step S p e = none) ∧
    (p.running = false → ∀ (es' : List (Event ε n)) (p' : Program σ π n),
      run (step S) p es' = some p' →
      (∀ i, p'.workers i = .calling → p.workers i = .calling) ∧
      (∀ i place', p'.workers i = .inside place' →
        p.workers i = .calling ∨ ∃ place, p.workers i = .inside place) ∧
      es'.countP Event.own ≤ 4 * n + 2 ∧
      (Rests S p' → p'.main = .returned ∨ ∃ (i : Fin n) (place : π), p'.main = .joining i ∧
        p'.workers i = .inside place ∧ S.returns place = false)) := by
  have known := invariant_of_kept step_known es _ (begun_known n server) p (mem_states_of_run ends)
  refine ⟨?_, returned_rests known, fun cleared es' p' onward => ?_⟩
  · rintro (main | main) i
    · exact known.ended i (by rw [main]; rfl)
    · exact known.ended i (by rw [main]; rfl)
  · have stored : p.main.stored = true := by
      rw [known.running] at cleared
      simpa using cleared
    have start : Ending p p :=
      ⟨known, stored, fun _ here => here, fun i place here => Or.inr ⟨place, here⟩⟩
    have ending := invariant_of_kept step_ending es' p start p' (mem_states_of_run onward)
    have counts : p'.left + es'.countP Event.own = p.left := counted_along step_ending
      (fun q e r ending next => left_step ending.known ending.stored next) start onward
    have bound := left_le p
    exact ⟨ending.calling, ending.inside, by omega, rests_cases ending.known ending.stored⟩

def idle : Served Unit Unit Unit := ⟨fun _ _ _ => some ((), ()), (), fun _ => true, id⟩

/-- Four workers, of which one calls ProcessIO after the input has ended, having read
    running before. -/
def quitting : List (Event Unit 4) :=
  List.replicate 5 (.main none) ++ [.worker 0 none, .main none, .main none] ++
    [.worker 0 none, .worker 0 none, .worker 0 none, .worker 1 none, .worker 2 none,
      .worker 3 none] ++
    List.replicate 6 (.main none)

theorem quitting_ends : ∃ p, run (step idle) (begun 4 ()) quitting = some p ∧
    p.main = .returned ∧ ∀ i, p.workers i = .ended :=
  ⟨_, rfl, rfl, (shuts_down idle 4 () quitting rfl).1 (Or.inr rfl)⟩

end ExampleMain
end KanchoNet
