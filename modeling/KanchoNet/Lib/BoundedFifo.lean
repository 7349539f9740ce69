import Mathlib.Data.List.Basic

/-!
A bounded first-in first-out queue. An append takes as much of the data as there
is room for behind what is queued; a removal takes from the front.
-/
namespace BoundedFifo

structure Fifo (α : Type) where
  capacity : Nat
  queue : List α
  bounded : queue.length ≤ capacity

variable {α : Type}

def Fifo.empty (capacity : Nat) : Fifo α := ⟨capacity, [], Nat.zero_le _⟩

def Fifo.room (f : Fifo α) : Nat := f.capacity - f.queue.length

def Fifo.append (f : Fifo α) (data : List α) : Fifo α where
  capacity := f.capacity
  queue := f.queue ++ data.take f.room
  bounded := by
    have := f.bounded
    simp only [List.length_append, List.length_take, Fifo.room]
    omega

def Fifo.remove (f : Fifo α) (n : Nat) : Fifo α where
  capacity := f.capacity
  queue := f.queue.drop n
  bounded := by
    have := f.bounded
    rw [List.length_drop]
    omega

def Fifo.clear (f : Fifo α) : Fifo α := ⟨f.capacity, [], Nat.zero_le _⟩

end BoundedFifo
