import Mathlib.Init

/-!
A relay with a bounded buffer: what it hears waits in order to be passed on, and what
does not fit is dropped. It passes on nothing else and in no other order; as long as
everything fits, nothing is missing.
-/
namespace BoundedRelay
variable {α : Type}

structure Relay (α : Type) where
  heard : List α
  passed : List α
  waiting : List α
  kept : List.Sublist (passed ++ waiting) heard

/-- All that was heard is passed on or waits. -/
def Relay.Lossless (r : Relay α) : Prop := r.passed ++ r.waiting = r.heard

namespace Relay

def empty : Relay α := ⟨[], [], [], .slnil⟩

def hear (r : Relay α) (data : List α) (room : Nat) : Relay α where
  heard := r.heard ++ data
  passed := r.passed
  waiting := r.waiting ++ data.take room
  kept := by
    rw [← List.append_assoc]
    exact r.kept.append (List.take_sublist room data)

def pass (r : Relay α) {front rest : List α} (whole : front ++ rest = r.waiting) : Relay α where
  heard := r.heard
  passed := r.passed ++ front
  waiting := rest
  kept := by
    rw [List.append_assoc, whole]
    exact r.kept

theorem passed_sublist (r : Relay α) : List.Sublist r.passed r.heard :=
  (List.sublist_append_left r.passed r.waiting).trans r.kept

theorem hear_lossless_iff {r : Relay α} (lossless : r.Lossless) (data : List α) (room : Nat) :
    (r.hear data room).Lossless ↔ data.length ≤ room := by
  unfold Lossless at lossless ⊢
  simp only [hear]
  rw [← List.append_assoc, lossless, List.append_cancel_left_eq]
  constructor
  · intro whole
    have count := congrArg List.length whole
    rw [List.length_take] at count
    omega
  · exact List.take_of_length_le

theorem pass_lossless_iff {r : Relay α} {front rest : List α}
    (whole : front ++ rest = r.waiting) : (r.pass whole).Lossless ↔ r.Lossless := by
  unfold Lossless
  simp only [pass]
  rw [List.append_assoc, whole]

/- What is passed on of a relay that has missed nothing so far is the front of what it
   has heard, also when the last data does not fit. -/
theorem hear_pass_prefix {r : Relay α} (lossless : r.Lossless) {data : List α} {room : Nat}
    {front rest : List α} (whole : front ++ rest = (r.hear data room).waiting) :
    ((r.hear data room).pass whole).passed <+: ((r.hear data room).pass whole).heard := by
  refine ⟨rest ++ data.drop room, ?_⟩
  have kept : front ++ rest ++ data.drop room = r.waiting ++ data := by
    rw [whole]
    simp only [hear, List.append_assoc, List.take_append_drop]
  calc (r.passed ++ front) ++ (rest ++ data.drop room)
      = r.passed ++ (front ++ rest ++ data.drop room) := by simp only [List.append_assoc]
    _ = (r.passed ++ r.waiting) ++ data := by rw [kept, List.append_assoc]
    _ = r.heard ++ data := by rw [lossless]

end Relay
end BoundedRelay
