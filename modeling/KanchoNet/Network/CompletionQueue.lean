import KanchoNet.Lib.LabelledRuns

/-!
How ProcessIO of IOUringModel consumes the completion queue. The ring counters are
kept unwrapped: the tail is the number of entries ever posted. The kernel may post
while the loop runs, so the loop reads the tail again before each entry.
-/
namespace KanchoNet
open LabelledRuns
variable {α : Type}

structure CompletionQueue (α : Type) where
  posted : List α
  khead : Nat
  processed : List α

namespace CompletionQueue

def empty : CompletionQueue α := ⟨[], 0, []⟩

def tail (q : CompletionQueue α) : Nat := q.posted.length

def post (q : CompletionQueue α) (cqes : List α) : CompletionQueue α :=
  { q with posted := q.posted ++ cqes }

def processCompletion (q : CompletionQueue α) (cqe : α) : CompletionQueue α :=
  { q with processed := q.processed ++ [cqe] }

/-- io_uring_cq_advance; io_uring_cqe_seen is an advance by one. -/
def cqAdvance (q : CompletionQueue α) (count : Nat) : CompletionQueue α :=
  { q with khead := q.khead + count }

@[simp] theorem posted_post (q : CompletionQueue α) (cqes : List α) :
    (q.post cqes).posted = q.posted ++ cqes := rfl

@[simp] theorem posted_processCompletion (q : CompletionQueue α) (cqe : α) :
    (q.processCompletion cqe).posted = q.posted := rfl

@[simp] theorem posted_cqAdvance (q : CompletionQueue α) (count : Nat) :
    (q.cqAdvance count).posted = q.posted := rfl

theorem arrivals_length (arrivals : List (List α)) :
    (arrivals.headD []).length + arrivals.tail.flatten.length = arrivals.flatten.length := by
  cases arrivals <;> simp

/-- The loop of ProcessIO from a head, with what the kernel posts before each read of
    the tail. A head past the tail would read a stale slot. -/
def forEachCqe (arrivals : List (List α)) (q : CompletionQueue α) (head count : Nat) :
    Option (Nat × CompletionQueue α) :=
  let q' := q.post (arrivals.headD [])
  if head = q'.tail then some (count, q')
  else if waiting : head < q'.posted.length then
    forEachCqe arrivals.tail ((q'.processCompletion q'.posted[head]).cqAdvance 1)
      (head + 1) (count + 1)
  else none
termination_by q.posted.length + arrivals.flatten.length - head
decreasing_by
  have same := arrivals_length arrivals
  have inside : head < (q.post (arrivals.headD [])).posted.length := waiting
  simp only [posted_cqAdvance, posted_processCompletion, posted_post,
    List.length_append] at inside ⊢
  omega

/-- ProcessIO while running. A wait that fails returns before the loop, as does one
    that times out because nothing is there. -/
def processIo (waitFails : Bool) (arrivals : List (List α)) (q : CompletionQueue α) :
    Option (Bool × CompletionQueue α) :=
  if waitFails then some (false, q)
  else if q.khead = q.tail then some (true, q)
  else
    match forEachCqe arrivals q q.khead 0 with
    | none => none
    | some (count, q) => some (true, if 0 < count then q.cqAdvance count else q)

inductive Event (α : Type) where
  | post (cqe : α)
  | processIo (waitFails : Bool) (arrivals : List (List α))

def step (q : CompletionQueue α) : Event α → Option (CompletionQueue α)
  | .post cqe => some (q.post [cqe])
  | .processIo waitFails arrivals => (processIo waitFails arrivals q).map Prod.snd

/-- The entries handled are the first ones posted, each once and in order, and the
    head stands right behind them. -/
def HandledOnce (q : CompletionQueue α) : Prop :=
  q.processed <+: q.posted ∧ q.khead = q.processed.length

def FindsNothing (q : CompletionQueue α) : Event α → Prop
  | .post _ => True
  | .processIo waitFails _ => waitFails = true ∨ q.khead = q.tail

/- The loop handles everything up to the tail it last reads. The head moves by one
   for each entry; the count of the call is that move again. -/
theorem forEachCqe_spec (arrivals : List (List α)) (q : CompletionQueue α) (head count : Nat)
    (handled : q.processed = q.posted.take head) (within : head ≤ q.tail) :
    ∃ count' q', forEachCqe arrivals q head count = some (count', q') ∧
      q'.processed = q'.posted ∧ count' + head = count + q'.tail ∧
      q'.khead + head = q.khead + q'.tail ∧ q.tail ≤ q'.tail := by
  fun_induction forEachCqe arrivals q head count with
  | case1 arrivals q count q' =>
    have tails : q'.tail = q.tail + (arrivals.headD []).length := List.length_append
    have none : arrivals.headD [] = [] := List.length_eq_zero_iff.mp (by omega)
    refine ⟨_, _, rfl, ?_, rfl, rfl, by omega⟩
    have same : q'.posted = q.posted := by rw [posted_post, none, List.append_nil]
    rw [same, show q'.processed = q.processed from rfl, handled, ← same]
    exact List.take_length
  | case2 arrivals q head count q' more waiting ih =>
    have tails : q'.tail = q.tail + (arrivals.headD []).length := List.length_append
    have next : ((q'.processCompletion q'.posted[head]).cqAdvance 1).processed =
        q'.posted.take (head + 1) := by
      have kept : q'.posted.take head = q.processed := by
        rw [posted_post, List.take_append_of_le_length within, ← handled]
      rw [List.take_add_one, List.getElem?_eq_getElem waiting, kept]
      rfl
    obtain ⟨count', q'', run, all, counted, advanced, grown⟩ := ih next waiting
    have moved : ((q'.processCompletion q'.posted[head]).cqAdvance 1).khead = q.khead + 1 := rfl
    have held : ((q'.processCompletion q'.posted[head]).cqAdvance 1).tail = q'.tail := rfl
    exact ⟨count', q'', run, all, by omega, by omega, by omega⟩
  | case3 arrivals q head count q' more none =>
    have tails : q'.tail = q.tail + (arrivals.headD []).length := List.length_append
    exact absurd (Nat.lt_of_le_of_ne (by omega) more) none

theorem handled_take {q : CompletionQueue α} (handled : HandledOnce q) :
    q.processed = q.posted.take q.khead ∧ q.khead ≤ q.tail := by
  obtain ⟨front, head⟩ := handled
  rw [head]
  exact ⟨List.prefix_iff_eq_take.mp front, front.length_le⟩

theorem step_handled (q : CompletionQueue α) (e : Event α) (q' : CompletionQueue α)
    (handled : HandledOnce q) (nothing : FindsNothing q e) (next : step q e = some q') :
    HandledOnce q' := by
  cases e with
  | post cqe =>
    cases next
    exact ⟨handled.1.trans (List.prefix_append _ _), handled.2⟩
  | processIo waitFails arrivals =>
    have same : processIo waitFails arrivals q = some (!waitFails, q) := by
      rcases nothing with rfl | empty
      · rfl
      · cases waitFails <;> simp [processIo, empty]
    simp only [step, same] at next
    cases next
    exact handled

theorem found_entry_overtakes (q : CompletionQueue α) (e : Event α) (q' : CompletionQueue α)
    (handled : HandledOnce q) (found : ¬FindsNothing q e) (next : step q e = some q') :
    ¬HandledOnce q' := by
  cases e with
  | post cqe => exact absurd trivial found
  | processIo waitFails arrivals =>
    obtain ⟨front, within⟩ := handled_take handled
    simp only [FindsNothing, not_or, Bool.not_eq_true] at found
    obtain ⟨rfl, some⟩ := found
    obtain ⟨count, q₁, run, all, counted, advanced, grown⟩ :=
      forEachCqe_spec arrivals q q.khead 0 front within
    have positive : 0 < count := by omega
    simp only [step, processIo, Bool.false_eq_true, if_false, if_neg some, run,
      if_pos positive, Option.map_some, Option.some.injEq] at next
    subst next
    intro handled'
    have head : q₁.khead + count = q₁.processed.length := handled'.2
    rw [all] at head
    change q₁.khead + count = q₁.tail at head
    omega

/-- In a run from an empty queue every completion is handled once, in order, with the
    head right behind, exactly when no ProcessIO call finds an entry. -/
theorem handled_once_along_iff (es : List (Event α)) :
    (∀ q ∈ states step (empty : CompletionQueue α) es, HandledOnce q) ↔
      ∀ x ∈ steps step (empty : CompletionQueue α) es, FindsNothing x.1 x.2 :=
  holds_along_iff step_handled (fun _ handled => handled) found_entry_overtakes es _
    ⟨List.nil_prefix, rfl⟩

/- One entry, one call: the head goes to two while the tail is one. -/
theorem one_completion_overtaken :
    ⟨[5], 2, [5]⟩ ∈ states step (empty : CompletionQueue Nat) [.post 5, .processIo false []] ∧
      ¬HandledOnce (⟨[5], 2, [5]⟩ : CompletionQueue Nat) := by
  have posted : step (empty : CompletionQueue Nat) (.post 5) = some ⟨[5], 0, []⟩ := rfl
  have called : step (⟨[5], 0, []⟩ : CompletionQueue Nat) (.processIo false []) =
      some ⟨[5], 2, [5]⟩ := by
    simp [step, processIo, forEachCqe, tail, post, processCompletion, cqAdvance]
  refine ⟨mem_states_next posted (mem_states_next called (mem_states_self _ _ _)), ?_⟩
  exact fun handled => absurd handled.2 (by decide)

end CompletionQueue
end KanchoNet
