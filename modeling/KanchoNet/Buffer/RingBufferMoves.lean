import KanchoNet.Buffer.RingBufferDirect

/-!
Buffers after a move. The destination is the source as it was. The source keeps
no storage and a capacity word of 0, below the 1 that every constructor leaves,
so what a caller may still do with it depends on the operation.
-/
namespace KanchoNet.RingBuffer
open CheckedMemory BoundedFifo

/-- The size functions; IsFull is a test on GetAvailableWrite. -/
inductive SizeQuery where
  | availableRead
  | availableWrite
  | contiguousWrite
  | contiguousRead
  deriving DecidableEq

def SizeQuery.exact (rb : RingBuffer) : SizeQuery → Prop
  | .availableRead | .contiguousRead => rb.mWritePos < rb.mReadPos → rb.mReadPos ≤ rb.mCapacity
  | .availableWrite =>
    (rb.mWritePos < rb.mReadPos → rb.mReadPos ≤ rb.mCapacity) ∧
      1 + rb.getAvailableRead.toNat ≤ rb.mCapacity.toNat
  | .contiguousWrite =>
    if rb.mWritePos ≥ rb.mReadPos then
      rb.mWritePos.toNat + (if rb.mReadPos = 0 then 1 else 0) ≤ rb.mCapacity.toNat
    else rb.mWritePos.toNat + 1 ≤ rb.mReadPos.toNat

inductive Use where
  | call (op : Operation)
  | commitWrite (size : UInt64)
  | commitRead (size : UInt64)
  | query (size : SizeQuery)
  | isEmpty
  | isFull
  | getCapacity

namespace Use

/-- The buffer afterwards; none where a copy leaves its range or a remainder is by zero. -/
def apply (rb : RingBuffer) : Use → Option RingBuffer
  | call op => (rb.call op).map Prod.snd
  | commitWrite size => rb.commitWrite size
  | commitRead size => rb.commitRead size
  | query _ | isEmpty | isFull | getCapacity => some rb

def evaluates (rb : RingBuffer) : Use → List SizeQuery
  | call (.write data) =>
    if data.wanted = 0 then []
    else if stdMin data.size rb.getAvailableWrite = 0 then [.availableWrite]
    else [.availableWrite, .contiguousWrite]
  | call (.read buffer) | call (.peek buffer) =>
    if buffer.wanted = 0 then []
    else if stdMin buffer.size rb.getAvailableRead = 0 then [.availableRead]
    else [.availableRead, .contiguousRead]
  | call (.skip _) => [.availableRead]
  | call .clear => []
  | commitWrite _ => [.availableWrite]
  | commitRead _ => [.availableRead]
  | query size => [size]
  | isFull => [.availableWrite]
  | isEmpty | getCapacity => []

/-- One use that is total: it is defined, its size computations are exact, and the
    free space it is told does not exceed the storage. -/
structure Total (rb : RingBuffer) (use : Use) : Prop where
  defined : (use.apply rb).isSome
  exact : ∀ size ∈ use.evaluates rb, size.exact rb
  stored : .availableWrite ∈ use.evaluates rb → rb.getAvailableWrite.toNat ≤ rb.mBuffer.length

def AllTotal (rb : RingBuffer) : List Use → Prop
  | [] => True
  | use :: uses => Total rb use ∧ ∀ rb', use.apply rb = some rb' → AllTotal rb' uses

/-- The uses that neither ask for the free space nor take a remainder by the capacity. -/
def spared : Use → Prop
  | call (.write data) => data.wanted = 0
  | call _ => True
  | commitWrite _ | commitRead _ => False
  | query size => size = .availableRead ∨ size = .contiguousRead
  | isFull => False
  | isEmpty | getCapacity => True

theorem write_nothing {data : Argument} (none : data.wanted = 0) (rb : RingBuffer) :
    rb.write data.pointer data.size = some (0, rb) := by
  obtain ⟨pointer, size, reaches⟩ := data
  cases pointer with
  | none => rfl
  | some bytes =>
    have zero : size = 0 := UInt64.toNat_inj.mp none
    simp [RingBuffer.write, zero]

theorem movedFrom_peek (buffer : Argument) :
    movedFrom.peek buffer.pointer buffer.size = some (0, buffer.pointer) := by
  obtain ⟨pointer, size, reaches⟩ := buffer
  cases pointer with
  | none => rfl
  | some bytes =>
    have empty : stdMin size movedFrom.getAvailableRead = 0 := by
      rw [← UInt64.toNat_inj, stdMin_toNat]
      exact Nat.min_zero _
    simp [RingBuffer.peek, empty]

theorem spared_keeps_movedFrom {use : Use} (fine : use.spared) :
    use.apply movedFrom = some movedFrom := by
  cases use with
  | call op =>
    cases op with
    | write data => simp [apply, RingBuffer.call, write_nothing fine]
    | read buffer => simp [apply, RingBuffer.call, RingBuffer.read, movedFrom_peek]
    | peek buffer => simp [apply, RingBuffer.call, movedFrom_peek]
    | skip size =>
      have empty : stdMin size movedFrom.getAvailableRead = 0 := by
        rw [← UInt64.toNat_inj, stdMin_toNat]
        exact Nat.min_zero _
      simp [apply, RingBuffer.call, RingBuffer.skip, empty]
    | clear => rfl
  | commitWrite size => cases fine
  | commitRead size => cases fine
  | query size => rfl
  | isEmpty => rfl
  | isFull => rfl
  | getCapacity => rfl

theorem movedFrom_readable (size : SizeQuery)
    (reading : size = .availableRead ∨ size = .contiguousRead) :
    size.exact movedFrom := by
  rcases reading with rfl | rfl
  · intro wrapped
    exact absurd wrapped (by decide)
  · intro wrapped
    exact absurd wrapped (by decide)

theorem movedFrom_not_writable (size : SizeQuery)
    (writing : size = .availableWrite ∨ size = .contiguousWrite) : ¬size.exact movedFrom := by
  rcases writing with rfl | rfl
  · rintro ⟨_, room⟩
    exact absurd room (by decide)
  · simp [SizeQuery.exact, movedFrom]

theorem spared_evaluates {use : Use} (fine : use.spared) {size : SizeQuery}
    (evaluated : size ∈ use.evaluates movedFrom) :
    size = .availableRead ∨ size = .contiguousRead := by
  cases use with
  | call op =>
    cases op with
    | write data =>
      have none : data.wanted = 0 := fine
      simp [evaluates, none] at evaluated
    | read buffer | peek buffer =>
      simp only [evaluates] at evaluated
      split at evaluated
      · cases evaluated
      · split at evaluated <;> simp at evaluated <;> tauto
    | skip amount =>
      left
      simpa [evaluates] using evaluated
    | clear => cases evaluated
  | commitWrite amount => cases fine
  | commitRead amount => cases fine
  | query asked =>
    obtain rfl : size = asked := by simpa [evaluates] using evaluated
    exact fine
  | isEmpty => cases evaluated
  | isFull => cases fine
  | getCapacity => cases evaluated

theorem total_of_spared {use : Use} (fine : use.spared) : Total movedFrom use := by
  constructor
  · simp [spared_keeps_movedFrom fine]
  · intro size evaluated
    exact movedFrom_readable size (spared_evaluates fine evaluated)
  · intro asked
    have reading := spared_evaluates fine asked
    simp at reading

theorem spared_of_total {use : Use} (total : Total movedFrom use) : use.spared := by
  have no_write_size : .availableWrite ∉ use.evaluates movedFrom := by
    intro evaluated
    exact movedFrom_not_writable _ (Or.inl rfl) (total.exact _ evaluated)
  cases use with
  | call op =>
    cases op with
    | write data =>
      by_contra wanted
      apply no_write_size
      have some : ¬data.wanted = 0 := wanted
      simp only [evaluates, some, ↓reduceIte]
      split <;> simp
    | read buffer | peek buffer | skip amount | clear => trivial
  | commitWrite amount => exact no_write_size (by simp [evaluates])
  | commitRead amount =>
    -- the remainder by the capacity word
    have undefined := total.defined
    simp [apply, RingBuffer.commitRead, modulo, movedFrom] at undefined
  | query asked =>
    have exact := total.exact asked (by simp [evaluates])
    cases asked with
    | availableRead => exact Or.inl rfl
    | contiguousRead => exact Or.inr rfl
    | availableWrite => exact absurd exact (movedFrom_not_writable _ (Or.inl rfl))
    | contiguousWrite => exact absurd exact (movedFrom_not_writable _ (Or.inr rfl))
  | isEmpty => trivial
  | isFull => exact no_write_size (by simp [evaluates])
  | getCapacity => trivial

theorem allTotal_movedFrom_iff (uses : List Use) :
    AllTotal movedFrom uses ↔ ∀ use ∈ uses, use.spared := by
  induction uses with
  | nil => simp [AllTotal]
  | cons use uses ih =>
    rw [AllTotal, List.forall_mem_cons]
    constructor
    · rintro ⟨total, later⟩
      have fine := spared_of_total total
      exact ⟨fine, ih.mp (later _ (spared_keeps_movedFrom fine))⟩
    · rintro ⟨fine, later⟩
      refine ⟨total_of_spared fine, ?_⟩
      intro rb' applied
      rw [spared_keeps_movedFrom fine, Option.some.injEq] at applied
      subst applied
      exact ih.mpr later

end Use

/-- The two sides of a move: the destination is the queue the source was, and the
    source is an empty buffer on which the given uses are total. -/
structure MoveUsable (other : RingBuffer) (moved : RingBuffer × RingBuffer) (uses : List Use) :
    Prop where
  queued : moved.1.contents = other.contents
  room : moved.1.room = other.room
  fifo : ∀ ops, ∃ f : Fifo UInt8, f.queue = other.contents ∧ f.room = other.room ∧
    ∃ rb', moved.1.calls ops = some ((queueCalls f ops).1, rb') ∧
      Represents rb' (queueCalls f ops).2
  emptied : moved.2.contents = [] ∧ moved.2.isEmpty = true
  usable : Use.AllTotal moved.2 uses

theorem moveUsable_iff {other : RingBuffer} (reachable : Reachable other) (uses : List Use) :
    MoveUsable other (other, movedFrom) uses ↔ ∀ use ∈ uses, use.spared := by
  constructor
  · intro moved
    exact (Use.allTotal_movedFrom_iff uses).mp moved.usable
  · intro fine
    have r := represents reachable.wellFormed
    have empty : movedFrom.contents = [] ∧ movedFrom.isEmpty = true := by decide
    refine ⟨rfl, rfl, ?_, empty, (Use.allTotal_movedFrom_iff uses).mpr fine⟩
    intro ops
    exact ⟨_, rfl, r.room.symm, calls_refine r ops⟩

end KanchoNet.RingBuffer
