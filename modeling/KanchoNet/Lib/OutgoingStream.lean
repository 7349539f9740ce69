import Mathlib.Init

/-!
An outgoing byte stream: data accepted for sending waits in order until some of
it, from the front, has been transmitted. What has been sent and what is still
pending always add up to what was accepted.
-/
namespace OutgoingStream
variable {α : Type}

structure Stream (α : Type) where
  accepted : List α
  sent : List α
  pending : List α
  balanced : sent ++ pending = accepted

def Stream.empty : Stream α := ⟨[], [], [], rfl⟩

def Stream.accept (s : Stream α) (data : List α) : Stream α where
  accepted := s.accepted ++ data
  sent := s.sent
  pending := s.pending ++ data
  balanced := by rw [← s.balanced, List.append_assoc]

def Stream.transmit (s : Stream α) (n : Nat) : Stream α where
  accepted := s.accepted
  sent := s.sent ++ s.pending.take n
  pending := s.pending.drop n
  balanced := by rw [List.append_assoc, List.take_append_drop, s.balanced]

@[simp] theorem accept_accepted (s : Stream α) (data : List α) :
    (s.accept data).accepted = s.accepted ++ data := rfl

@[simp] theorem accept_pending (s : Stream α) (data : List α) :
    (s.accept data).pending = s.pending ++ data := rfl

@[simp] theorem transmit_sent (s : Stream α) (n : Nat) :
    (s.transmit n).sent = s.sent ++ s.pending.take n := rfl

@[simp] theorem transmit_pending (s : Stream α) (n : Nat) :
    (s.transmit n).pending = s.pending.drop n := rfl

inductive Step : Stream α → Stream α → Prop where
  | accept (s : Stream α) (data : List α) : Step s (s.accept data)
  | transmit (s : Stream α) (n : Nat) : Step s (s.transmit n)

end OutgoingStream
