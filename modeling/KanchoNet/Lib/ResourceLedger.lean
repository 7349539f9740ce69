import KanchoNet.Lib.LabelledRuns

/-!
Resources that code takes from a system and gives back. The ledger has an entry for each
one that was granted, with the number of times it was given back; a handle names an
entry, so a value that the system hands out again is another resource.
-/
namespace ResourceLedger
open LabelledRuns
variable {κ : Type}

structure Entry (κ : Type) where
  kind : κ
  releases : Nat
  deriving DecidableEq

abbrev Ledger (κ : Type) := List (Entry κ)

/-- What a variable holds: a granted resource, or the invalid value. -/
abbrev Handle := Option Nat

def acquire (kind : κ) (granted : Bool) (ledger : Ledger κ) : Handle × Ledger κ :=
  if granted then (some ledger.length, ledger ++ [⟨kind, 0⟩]) else (none, ledger)

/-- Giving back through the invalid value does nothing. -/
def release (handle : Handle) (ledger : Ledger κ) : Ledger κ :=
  match handle with
  | none => ledger
  | some index => ledger.modify index fun entry => { entry with releases := entry.releases + 1 }

/-- Everything granted since then was given back exactly once, and nothing from before
    was touched. -/
def Settled (before after : Ledger κ) : Prop :=
  ∃ more, after = before ++ more ∧ ∀ entry ∈ more, entry.releases = 1

theorem settled_refl (ledger : Ledger κ) : Settled ledger ledger :=
  ⟨[], (List.append_nil _).symm, List.forall_mem_nil _⟩

theorem settled_trans {first second third : Ledger κ} (early : Settled first second)
    (late : Settled second third) : Settled first third := by
  obtain ⟨more, rfl, once⟩ := early
  obtain ⟨rest, rfl, once'⟩ := late
  refine ⟨more ++ rest, List.append_assoc _ _ _, ?_⟩
  rw [List.forall_mem_append]
  exact ⟨once, once'⟩

theorem settled_append_iff {ledger more : Ledger κ} :
    Settled ledger (ledger ++ more) ↔ ∀ entry ∈ more, entry.releases = 1 := by
  constructor
  · rintro ⟨rest, same, once⟩
    rw [List.append_cancel_left same]
    exact once
  · exact fun once => ⟨more, rfl, once⟩

theorem release_append (ledger more : Ledger κ) (index : Nat) :
    release (some (ledger.length + index)) (ledger ++ more) =
      ledger ++ release (some index) more := by
  induction ledger with
  | nil => simp [release]
  | cons entry ledger ih =>
    rw [List.length_cons, Nat.add_right_comm]
    exact congrArg (entry :: ·) ih

theorem release_append_self (ledger more : Ledger κ) :
    release (some ledger.length) (ledger ++ more) = ledger ++ release (some 0) more :=
  release_append ledger more 0

structure Initializable (α σ κ : Type) where
  attempt : α → σ → Bool × σ
  initialized : σ → Bool
  shutdown : σ → σ
  ledger : σ → Ledger κ

namespace Initializable
variable {α σ : Type} (object : Initializable α σ κ)

def step (s : σ) (a : α) : Option σ := some (object.attempt a s).2

/-- Whenever an attempt on the uninitialized object fails, it has given back what it took;
    if all attempts fail, destroying the object leaves nothing behind. -/
structure LeaksNothing (s : σ) (attempts : List α) : Prop where
  failures : ∀ x ∈ steps object.step s attempts, object.initialized x.1 = false →
    (object.attempt x.2 x.1).1 = false →
    Settled (object.ledger x.1) (object.ledger (object.attempt x.2 x.1).2)
  destroyed : object.initialized s = false →
    (∀ x ∈ steps object.step s attempts, (object.attempt x.2 x.1).1 = false) →
    ∀ t, run object.step s attempts = some t →
    Settled (object.ledger s) (object.ledger (object.shutdown t))

structure Lawful : Prop where
  failed : ∀ a s, object.initialized s = false → (object.attempt a s).1 = false →
    object.initialized (object.attempt a s).2 = false
  idle : ∀ s, object.initialized s = false → object.shutdown s = s

variable {object}

theorem destroyed_of_failures (lawful : object.Lawful) {s : σ} {attempts : List α}
    (failures : ∀ x ∈ steps object.step s attempts, object.initialized x.1 = false →
      (object.attempt x.2 x.1).1 = false →
      Settled (object.ledger x.1) (object.ledger (object.attempt x.2 x.1).2))
    (fresh : object.initialized s = false)
    (fail : ∀ x ∈ steps object.step s attempts, (object.attempt x.2 x.1).1 = false)
    {t : σ} (ends : run object.step s attempts = some t) :
    Settled (object.ledger s) (object.ledger (object.shutdown t)) := by
  induction attempts generalizing s with
  | nil =>
    rw [← Option.some.inj ends, lawful.idle s fresh]
    exact settled_refl _
  | cons a attempts ih =>
    simp only [steps, step, List.forall_mem_cons] at failures fail
    have later := ih failures.2 (lawful.failed a s fresh fail.1) fail.2 ends
    exact settled_trans (failures.1 fresh fail.1) later

/-- When each attempt is known to leak or not, so is every sequence of them. -/
theorem leaksNothing_iff (lawful : object.Lawful) {Fine : α → σ → Prop}
    (exact_of : ∀ a s, object.initialized s = false →
      (((object.attempt a s).1 = false →
        Settled (object.ledger s) (object.ledger (object.attempt a s).2)) ↔ Fine a s))
    (s : σ) (attempts : List α) : object.LeaksNothing s attempts ↔
      ∀ x ∈ steps object.step s attempts, object.initialized x.1 = false → Fine x.2 x.1 := by
  constructor
  · intro nothing x member fresh
    exact (exact_of x.2 x.1 fresh).mp (nothing.failures x member fresh)
  · intro fine
    have failures : ∀ x ∈ steps object.step s attempts, object.initialized x.1 = false →
        (object.attempt x.2 x.1).1 = false →
        Settled (object.ledger x.1) (object.ledger (object.attempt x.2 x.1).2) :=
      fun x member fresh => (exact_of x.2 x.1 fresh).mpr (fine x member fresh)
    exact ⟨failures, fun fresh fail t ends => destroyed_of_failures lawful failures fresh fail ends⟩

end Initializable
end ResourceLedger
