import Mathlib.Init

/-!
A stream that is read through one request at a time. The request is answered with a
chunk; a worker takes the answer up, passes the chunk on and only then asks again. So
workers can not overtake each other, and what was passed on is the front of what arrived.
-/
namespace SingleRequests
variable {W α : Type}

/-- Where the one request of a stream is. A request that is not asked again is closed,
    with the chunk that was not passed on. -/
inductive Place (W α : Type) where
  | posted
  | answered (chunk : List α)
  | carried (worker : W) (chunk : List α)
  | passed (worker : W)
  | closed (lost : List α)

def Place.chunk : Place W α → List α
  | .posted => []
  | .answered chunk => chunk
  | .carried _ chunk => chunk
  | .passed _ => []
  | .closed lost => lost

def Place.posts : Place W α → Nat
  | .posted => 1
  | _ => 0

def Place.answers : Place W α → List (List α)
  | .answered chunk => [chunk]
  | _ => []

theorem posts_answers_le (place : Place W α) : place.posts + place.answers.length ≤ 1 := by
  cases place with
  | posted | answered => exact Nat.le_refl 1
  | carried | passed | closed => exact Nat.zero_le 1

/-- What a worker has of the request: its chunk, or the duty to ask again. -/
inductive Share (α : Type) where
  | carries (chunk : List α)
  | passed

def Place.share [DecidableEq W] (w : W) : Place W α → Option (Share α)
  | .carried worker chunk => if worker = w then some (.carries chunk) else none
  | .passed worker => if worker = w then some .passed else none
  | _ => none

theorem share_owner [DecidableEq W] {place : Place W α} {w : W} (has : (place.share w).isSome) :
    (∃ chunk, place = .carried w chunk) ∨ place = .passed w := by
  cases place with
  | carried worker chunk =>
    by_cases same : worker = w
    · exact Or.inl ⟨chunk, by rw [same]⟩
    · simp [Place.share, same] at has
  | passed worker =>
    by_cases same : worker = w
    · exact Or.inr (by rw [same])
    · simp [Place.share, same] at has
  | posted | answered | closed => cases has

theorem share_carries_iff [DecidableEq W] {place : Place W α} {w : W} {chunk : List α} :
    place.share w = some (.carries chunk) ↔ place = .carried w chunk := by
  cases place with
  | carried worker chunk' => simp [Place.share]
  | passed worker => simp [Place.share]
  | posted | answered | closed => simp [Place.share]

theorem share_passed_iff [DecidableEq W] {place : Place W α} {w : W} :
    place.share w = some .passed ↔ place = .passed w := by
  cases place with
  | carried worker chunk => simp [Place.share]
  | passed worker => simp [Place.share]
  | posted | answered | closed => simp [Place.share]

theorem share_unique [DecidableEq W] {place : Place W α} {w x : W}
    (first : (place.share w).isSome) (second : (place.share x).isSome) : w = x := by
  rcases share_owner first with ⟨chunk, rfl⟩ | rfl
  · rcases share_owner second with ⟨_, same⟩ | same
    · cases same
      rfl
    · cases same
  · rcases share_owner second with ⟨_, same⟩ | same
    · cases same
    · cases same
      rfl

theorem share_alone [DecidableEq W] {place : Place W α} {w : W} (has : (place.share w).isSome) :
    place.posts = 0 ∧ place.answers = [] := by
  rcases share_owner has with ⟨chunk, rfl⟩ | rfl
  · exact ⟨rfl, rfl⟩
  · exact ⟨rfl, rfl⟩

structure Reading (W α : Type) where
  place : Place W α
  arrived : List α
  passed : List α
  balanced : passed ++ place.chunk = arrived

namespace Reading

def fresh (place : Place W α) (nothing : place.chunk = []) : Reading W α :=
  ⟨place, [], [], by rw [nothing, List.append_nil]⟩

def answer (s : Reading W α) (here : s.place = .posted) (chunk : List α) : Reading W α where
  place := .answered chunk
  arrived := s.arrived ++ chunk
  passed := s.passed
  balanced := by
    rw [← s.balanced, here]
    simp only [Place.chunk, List.append_nil]

def takeUp (s : Reading W α) {chunk : List α} (here : s.place = .answered chunk) (w : W) :
    Reading W α where
  place := .carried w chunk
  arrived := s.arrived
  passed := s.passed
  balanced := by
    rw [← s.balanced, here]
    rfl

def pass (s : Reading W α) {w : W} {chunk : List α} (here : s.place = .carried w chunk) :
    Reading W α where
  place := .passed w
  arrived := s.arrived
  passed := s.passed ++ chunk
  balanced := by
    rw [← s.balanced, here]
    simp only [Place.chunk, List.append_nil]

def ask (s : Reading W α) {w : W} (here : s.place = .passed w) : Reading W α where
  place := .posted
  arrived := s.arrived
  passed := s.passed
  balanced := by
    rw [← s.balanced, here]
    rfl

def close (s : Reading W α) : Reading W α where
  place := .closed s.place.chunk
  arrived := s.arrived
  passed := s.passed
  balanced := s.balanced

end Reading

inductive Step : Reading W α → Reading W α → Prop where
  | answer (s : Reading W α) (here : s.place = .posted) (chunk : List α) :
    Step s (s.answer here chunk)
  | takeUp (s : Reading W α) {chunk : List α} (here : s.place = .answered chunk) (w : W) :
      Step s (s.takeUp here w)
  | pass (s : Reading W α) {w : W} {chunk : List α} (here : s.place = .carried w chunk) :
      Step s (s.pass here)
  | ask (s : Reading W α) {w : W} (here : s.place = .passed w) : Step s (s.ask here)
  | close (s : Reading W α) : Step s s.close

theorem passed_prefix (s : Reading W α) : s.passed <+: s.arrived :=
  ⟨s.place.chunk, s.balanced⟩

theorem passed_all {s : Reading W α} (nothing : s.place.chunk = []) : s.passed = s.arrived := by
  rw [← s.balanced, nothing, List.append_nil]

end SingleRequests
