import KanchoNet.Lib.LabelledRuns
import Mathlib.Data.Fintype.Card
import Mathlib.Logic.Function.Basic

/-!
Threads that take turns over a state they share, one atomic step of one thread at a
time. A token is a part of the shared state that places may own. No step gives it to a
thread while it is taken, so it passes from one owner to the next.
-/
namespace Interleavings
open LabelledRuns Relation
variable {T σ π ε : Type}

structure Threads (T σ π : Type) where
  shared : σ
  place : T → π

/-- A step of one thread, seen from it: the shared state and its own place afterwards. -/
abbrev Move (σ π ε : Type) := σ → π → ε → Option (σ × π)

structure Token (move : Move σ π ε) where
  taken : σ → Bool
  owns : π → Bool
  -- kept, acquired or released
  passes : ∀ {s s' : σ} {p p' : π} {e : ε}, move s p e = some (s', p') →
    (taken s' = taken s ∧ owns p' = owns p) ∨
    (taken s = false ∧ owns p = false ∧ taken s' = true ∧ owns p' = true) ∨
    (owns p = true ∧ taken s' = false ∧ owns p' = false)

/-- What a token is for: one thread has it, or none. -/
inductive Passes : Option T → Option T → Prop where
  | acquired (t : T) : Passes none (some t)
  | released (t : T) : Passes (some t) none

structure HeldBy {move : Move σ π ε} (token : Token move) (s : Threads T σ π)
    (owner : Option T) : Prop where
  taken : token.taken s.shared = owner.isSome
  owns : ∀ t, token.owns (s.place t) = true ↔ owner = some t

section Exclusion
variable {move : Move σ π ε} {token : Token move} {s : Threads T σ π} {owner : Option T}

theorem owner_unique (held : HeldBy token s owner) {t u : T}
    (first : token.owns (s.place t) = true) (second : token.owns (s.place u) = true) : t = u :=
  Option.some.inj (((held.owns t).mp first).symm.trans ((held.owns u).mp second))

theorem taken_iff_owned (held : HeldBy token s owner) :
    token.taken s.shared = true ↔ ∃ t, token.owns (s.place t) = true := by
  rw [held.taken, Option.isSome_iff_exists]
  exact exists_congr fun t => (held.owns t).symm

end Exclusion

section Counting
variable [Fintype T]

def standing (kind : π → Bool) (s : Threads T σ π) : Nat :=
  (Finset.univ.filter fun t => kind (s.place t) = true).card

theorem standing_le (kind : π → Bool) (s : Threads T σ π) : standing kind s ≤ Fintype.card T :=
  Finset.card_le_univ _

end Counting

variable [DecidableEq T]

def step (move : Move σ π ε) (s : Threads T σ π) (e : T × ε) : Option (Threads T σ π) :=
  (move s.shared (s.place e.1) e.2).map fun next =>
    ⟨next.1, Function.update s.place e.1 next.2⟩

theorem step_cases {move : Move σ π ε} {s s' : Threads T σ π} {e : T × ε}
    (next : step move s e = some s') :
    ∃ p', move s.shared (s.place e.1) e.2 = some (s'.shared, p') ∧
      s'.place e.1 = p' ∧ ∀ t, t ≠ e.1 → s'.place t = s.place t := by
  obtain ⟨⟨shared, p'⟩, moved, rfl⟩ := Option.map_eq_some_iff.mp next
  exact ⟨p', moved, Function.update_self _ _ _, fun t other => Function.update_of_ne other _ _⟩

theorem step_of_move {move : Move σ π ε} {s : Threads T σ π} {t : T} {a : ε} {shared : σ} {p : π}
    (moved : move s.shared (s.place t) a = some (shared, p)) :
    ∃ s', step move s (t, a) = some s' ∧ s'.shared = shared ∧ s'.place t = p := by
  refine ⟨⟨shared, Function.update s.place t p⟩, ?_, rfl, Function.update_self _ _ _⟩
  simp only [step, moved, Option.map_some]

theorem step_moves {move : Move σ π ε} {s : Threads T σ π} {t : T} {a : ε} {shared : σ} {p : π}
    (moved : move s.shared (s.place t) a = some (shared, p)) :
    ∃ s', step move s (t, a) = some s' ∧ s'.shared = shared ∧ s'.place t = p ∧
      ∀ u, u ≠ t → s'.place u = s.place u := by
  obtain ⟨s', next, shared', here⟩ := step_of_move moved
  obtain ⟨_, _, _, others⟩ := step_cases next
  exact ⟨s', next, shared', here, others⟩

theorem standing_without [Fintype T] (kind : π → Bool) (s : Threads T σ π) (t : T) :
    standing kind s = ((Finset.univ.filter fun t => kind (s.place t) = true).erase t).card +
      (kind (s.place t)).toNat := by
  cases here : kind (s.place t) with
  | true => exact (Finset.card_erase_add_one (by simp [here])).symm
  | false =>
    rw [Finset.erase_eq_of_notMem (by simp [here]), standing, Bool.toNat_false, Nat.add_zero]

theorem standing_step [Fintype T] {move : Move σ π ε} {s s' : Threads T σ π} {e : T × ε}
    (next : step move s e = some s') (kind : π → Bool) :
    standing kind s + (kind (s'.place e.1)).toNat =
      standing kind s' + (kind (s.place e.1)).toNat := by
  obtain ⟨_, _, _, others⟩ := step_cases next
  have rest : (Finset.univ.filter fun t => kind (s'.place t) = true).erase e.1 =
      (Finset.univ.filter fun t => kind (s.place t) = true).erase e.1 := by
    ext t
    simp only [Finset.mem_erase, Finset.mem_filter, Finset.mem_univ, true_and]
    refine and_congr_right fun other => ?_
    rw [others t other]
  have before := standing_without kind s e.1
  have after := standing_without kind s' e.1
  rw [rest] at after
  omega

theorem heldBy_step {move : Move σ π ε} {token : Token move} {s s' : Threads T σ π} {e : T × ε}
    {owner : Option T} (held : HeldBy token s owner) (next : step move s e = some s') :
    ∃ owner', ReflTransGen Passes owner owner' ∧ HeldBy token s' owner' := by
  obtain ⟨p', moved, own, others⟩ := step_cases next
  have elsewhere : ∀ t, t ≠ e.1 → (token.owns (s'.place t) = true ↔ owner = some t) := by
    intro t other
    rw [others t other]
    exact held.owns t
  rcases token.passes moved with ⟨taken, owns⟩ | ⟨free, _, taken, owns⟩ | ⟨before, taken, owns⟩
  · refine ⟨owner, .refl, taken.trans held.taken, ?_⟩
    intro t
    by_cases same : t = e.1
    · rw [same, own, owns]
      exact held.owns e.1
    · exact elsewhere t same
  · have nobody : owner = none := by
      rw [held.taken, Option.isSome_eq_false_iff, Option.isNone_iff_eq_none] at free
      exact free
    subst nobody
    refine ⟨some e.1, .single (.acquired e.1), taken, ?_⟩
    intro t
    by_cases same : t = e.1
    · rw [same, own, owns]
      exact iff_of_true rfl rfl
    · rw [elsewhere t same, Option.some_inj]
      exact iff_of_false (by simp) (Ne.symm same)
  · have here : owner = some e.1 := (held.owns e.1).mp before
    subst here
    refine ⟨none, .single (.released e.1), taken, ?_⟩
    intro t
    by_cases same : t = e.1
    · rw [same, own, owns]
      exact iff_of_false (by simp) (by simp)
    · rw [elsewhere t same, Option.some_inj]
      exact iff_of_false (Ne.symm same) (by simp)

/-- Along every run from a state in which nobody has it, the token passes from owner to
    owner. -/
theorem held_along {move : Move σ π ε} {token : Token move} (es : List (T × ε))
    {s : Threads T σ π} (start : HeldBy token s none) : ∀ s' ∈ states (step move) s es,
      ∃ owner, ReflTransGen Passes none owner ∧ HeldBy token s' owner :=
  run_simulated (fun _ _ _ _ held next => heldBy_step held next) es s none start

end Interleavings
