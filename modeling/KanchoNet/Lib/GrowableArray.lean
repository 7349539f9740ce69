import KanchoNet.Lib.CheckedMemory

/-!
Growable arrays: the elements, and the cells there is memory for. A call that needs
more cells asks for memory; the answer is none when there is none, and the call then
fails with the array as it was, or the cells given beyond those asked for.
-/
namespace GrowableArrays
open CyclicWindow

structure GrowableArray (α : Type) where
  elements : List α
  capacity : Nat
  stored : elements.length ≤ capacity

variable {α : Type}

def resized (fill : α) (n : Nat) (elements : List α) : List α :=
  elements.take n ++ List.replicate (n - elements.length) fill

@[simp] theorem resized_length (fill : α) (n : Nat) (elements : List α) :
    (resized fill n elements).length = n := by
  rw [resized, List.length_append, List.length_take, List.length_replicate]
  omega

theorem resized_nil (fill : α) (n : Nat) : resized fill n [] = List.replicate n fill := by
  rw [resized, List.take_nil, List.nil_append, List.length_nil, Nat.sub_zero]

/- A resize gives the fill alone when all that it keeps of the elements is the fill. -/
theorem resized_eq_fill_iff (fill : α) (n : Nat) (elements : List α) :
    resized fill n elements = List.replicate n fill ↔ ∀ x ∈ elements.take n, x = fill := by
  rw [List.eq_replicate_iff]
  constructor
  · intro filled x member
    exact filled.2 x (List.mem_append_left _ member)
  · intro kept
    refine ⟨resized_length fill n elements, ?_⟩
    intro x member
    rcases List.mem_append.mp member with old | new
    · exact kept x old
    · exact List.eq_of_mem_replicate new

theorem resized_take (fill : α) {n k : Nat} {elements : List α} (kept : k ≤ n)
    (inside : k ≤ elements.length) : (resized fill n elements).take k = elements.take k := by
  rw [resized, List.take_append_of_le_length (by rw [List.length_take]; omega), List.take_take,
    Nat.min_eq_left kept]

namespace GrowableArray

def empty : GrowableArray α := ⟨[], 0, Nat.le_refl _⟩

def reserve (memory : Option Nat) (n : Nat) (a : GrowableArray α) : Option (GrowableArray α) :=
  if n ≤ a.capacity then some a
  else memory.map fun spare =>
    ⟨a.elements, max a.capacity (n + spare), Nat.le_trans a.stored (Nat.le_max_left _ _)⟩

def resize (fill : α) (memory : Option Nat) (n : Nat) (a : GrowableArray α) :
    Option (GrowableArray α) :=
  if fits : n ≤ a.capacity then
    some ⟨resized fill n a.elements, a.capacity, by rw [resized_length]; exact fits⟩
  else memory.map fun spare =>
    ⟨resized fill n a.elements, n + spare, by rw [resized_length]; exact Nat.le_add_right _ _⟩

/-- The elements of another array, in the own memory where they fit. -/
def assign (memory : Option Nat) (a other : GrowableArray α) : Option (GrowableArray α) :=
  if fits : other.elements.length ≤ a.capacity then some ⟨other.elements, a.capacity, fits⟩
  else memory.map fun spare =>
    ⟨other.elements, other.elements.length + spare, Nat.le_add_right _ _⟩

def memcpy (pos : Nat) (src : List α) (n : Nat) (a : GrowableArray α) :
    Option (GrowableArray α) :=
  if inside : pos + (src.take n).length ≤ a.elements.length ∧ n ≤ src.length then
    some ⟨overwrite a.elements pos (src.take n), a.capacity, by
      rw [overwrite_length inside.1]; exact a.stored⟩
  else none

theorem reserve_elements (spare n : Nat) (a : GrowableArray α) :
    ∃ b, a.reserve (some spare) n = some b ∧ b.elements = a.elements := by
  unfold reserve
  split
  · exact ⟨a, rfl, rfl⟩
  · exact ⟨_, rfl, rfl⟩

theorem resize_elements (fill : α) (spare n : Nat) (a : GrowableArray α) :
    ∃ b, a.resize fill (some spare) n = some b ∧ b.elements = resized fill n a.elements := by
  unfold resize
  split
  · exact ⟨_, rfl, rfl⟩
  · exact ⟨_, rfl, rfl⟩

theorem assign_elements (spare : Nat) (a other : GrowableArray α) :
    ∃ b, a.assign (some spare) other = some b ∧ b.elements = other.elements := by
  unfold assign
  split
  · exact ⟨_, rfl, rfl⟩
  · exact ⟨_, rfl, rfl⟩

theorem reserve_some {memory : Option Nat} {n : Nat} {a b : GrowableArray α}
    (reserved : a.reserve memory n = some b) :
    b.elements = a.elements ∧ n ≤ b.capacity ∧ a.capacity ≤ b.capacity := by
  unfold reserve at reserved
  split at reserved
  · cases reserved
    exact ⟨rfl, ‹_›, Nat.le_refl _⟩
  · obtain ⟨spare, _, rfl⟩ := Option.map_eq_some_iff.mp reserved
    exact ⟨rfl, by simp only; omega, by simp only; omega⟩

theorem resize_some {fill : α} {memory : Option Nat} {n : Nat} {a b : GrowableArray α}
    (longer : a.resize fill memory n = some b) :
    b.elements = resized fill n a.elements ∧ n ≤ b.capacity ∧ a.capacity ≤ b.capacity := by
  unfold resize at longer
  split at longer
  · cases longer
    exact ⟨rfl, ‹_›, Nat.le_refl _⟩
  · obtain ⟨spare, _, rfl⟩ := Option.map_eq_some_iff.mp longer
    exact ⟨rfl, by simp only; omega, by simp only; omega⟩

theorem resize_within {fill : α} {memory : Option Nat} {n : Nat} {a : GrowableArray α}
    (fits : n ≤ a.capacity) : ∃ b, a.resize fill memory n = some b ∧ b.capacity = a.capacity := by
  unfold resize
  rw [dif_pos fits]
  exact ⟨_, rfl, rfl⟩

theorem memcpy_capacity {pos n : Nat} {src : List α} {a b : GrowableArray α}
    (copied : a.memcpy pos src n = some b) : b.capacity = a.capacity := by
  unfold memcpy at copied
  split at copied
  · cases copied
    rfl
  · cases copied

theorem resize_eq_none_iff (fill : α) {memory : Option Nat} {n : Nat} {a : GrowableArray α} :
    a.resize fill memory n = none ↔ a.capacity < n ∧ memory = none := by
  unfold resize
  split
  · simp
    omega
  · simp
    omega

theorem reserve_ne_none {memory : Option Nat} (granted : memory.isSome) (n : Nat)
    (a : GrowableArray α) : a.reserve memory n ≠ none := by
  obtain ⟨spare, rfl⟩ := Option.isSome_iff_exists.mp granted
  obtain ⟨b, reserved, _⟩ := reserve_elements spare n a
  simp [reserved]

theorem resize_ne_none (fill : α) {memory : Option Nat} (granted : memory.isSome) (n : Nat)
    (a : GrowableArray α) : a.resize fill memory n ≠ none := by
  rw [Ne, resize_eq_none_iff]
  rintro ⟨_, rfl⟩
  cases granted

theorem assign_ne_none {memory : Option Nat} (granted : memory.isSome)
    (a other : GrowableArray α) : a.assign memory other ≠ none := by
  obtain ⟨spare, rfl⟩ := Option.isSome_iff_exists.mp granted
  obtain ⟨b, assigned, _⟩ := assign_elements spare a other
  simp [assigned]

theorem assign_some {memory : Option Nat} {a other b : GrowableArray α}
    (assigned : a.assign memory other = some b) :
    b.elements = other.elements ∧ a.capacity ≤ b.capacity := by
  unfold assign at assigned
  split at assigned
  · cases assigned
    exact ⟨rfl, Nat.le_refl _⟩
  · obtain ⟨spare, _, rfl⟩ := Option.map_eq_some_iff.mp assigned
    exact ⟨rfl, by simp only; omega⟩

theorem memcpy_inside (pos n : Nat) (src : List α) (a : GrowableArray α)
    (target : pos + n ≤ a.elements.length) (source : n ≤ src.length) :
    ∃ b, a.memcpy pos src n = some b ∧ b.elements = overwrite a.elements pos (src.take n) ∧
      b.capacity = a.capacity := by
  have taken : (src.take n).length = n := List.length_take_of_le source
  have inside : pos + (src.take n).length ≤ a.elements.length ∧ n ≤ src.length := by omega
  exact ⟨_, dif_pos inside, rfl, rfl⟩

theorem memcpy_elements (pos : Nat) (src : List α) (n : Nat) (a : GrowableArray α) :
    (a.memcpy pos src n).map elements = CheckedMemory.memcpy a.elements pos src 0 n := by
  unfold memcpy CheckedMemory.memcpy
  rw [List.drop_zero, Nat.zero_add]
  by_cases inside : pos + n ≤ a.elements.length ∧ n ≤ src.length
  · have taken : (src.take n).length = n := List.length_take_of_le inside.2
    rw [dif_pos (by rw [taken]; exact inside), if_pos inside]
    rfl
  · rw [dif_neg, if_neg inside]
    · rfl
    · rintro ⟨target, source⟩
      rw [List.length_take_of_le source] at target
      exact inside ⟨target, source⟩

end GrowableArray
end GrowableArrays
