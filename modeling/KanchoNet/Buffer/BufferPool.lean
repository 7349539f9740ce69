import KanchoNet.Buffer.PacketStorage
import KanchoNet.Lib.LabelledRuns

/-!
The pool of packet buffers and those who hold buffers of it. Clear keeps the bytes
of a vector, so a recycled buffer still has those of its last holder in it.
-/
namespace KanchoNet
open GrowableArrays LabelledRuns

structure BufferPool where
  mBufferSize : UInt64
  mTotalAllocated : UInt64
  mPool : List PacketStorage

def MAX_POOL_SIZE : Nat := 1000

namespace BufferPool

/-- The constructor, with an answer for the memory of each initial buffer. -/
def construct (bufferSize : UInt64) (initial : List (Option Nat)) : Option BufferPool :=
  (initial.mapM fun memory => PacketStorage.construct memory bufferSize).map fun mPool =>
    ⟨bufferSize, 0, mPool⟩

def allocate (memory : Option Nat) (pool : BufferPool) : Option PacketStorage × BufferPool :=
  match pool.mPool.getLast? with
  | some buffer => (some buffer.clear, { pool with mPool := pool.mPool.dropLast })
  | none =>
    let pool := { pool with mTotalAllocated := pool.mTotalAllocated + 1 }
    (PacketStorage.construct memory pool.mBufferSize, pool)

def deallocate (buffer : Option PacketStorage) (pool : BufferPool) : BufferPool :=
  match buffer with
  | none => pool
  | some buffer =>
    if pool.mPool.length < MAX_POOL_SIZE then
      { pool with mPool := pool.mPool ++ [buffer.clear] }
    else pool

def clear (pool : BufferPool) : BufferPool := { pool with mPool := [], mTotalAllocated := 0 }

end BufferPool

structure PoolUse where
  pool : BufferPool
  held : List PacketStorage

/-- Calls of the pool, and what the holders do with their buffers: calls, writes
    through GetData(), and moves of the content out of them and into them. -/
inductive PoolEvent where
  | allocate (memory : Option Nat)
  | deallocate (holder : Option Nat)
  | clear
  | call (holder : Nat) (memory : Option Nat) (op : PacketOp)
  | write (holder position : Nat) (bytes : List UInt8)
  | moveOut (holder : Nat)
  | moveInto (holder : Nat) (other : PacketStorage)

namespace PoolUse

def update (holder : Nat) (f : PacketStorage → Option PacketStorage) (u : PoolUse) :
    Option PoolUse :=
  match u.held[holder]? with
  | none => none
  | some buffer => (f buffer).map fun changed => { u with held := u.held.set holder changed }

def step (u : PoolUse) : PoolEvent → Option PoolUse
  | .allocate memory =>
    match u.pool.allocate memory with
    | (none, pool) => some { u with pool }
    | (some buffer, pool) => some ⟨pool, u.held ++ [buffer]⟩
  | .deallocate none => some { u with pool := u.pool.deallocate none }
  | .deallocate (some holder) =>
    match u.held[holder]? with
    | none => none
    | some buffer => some ⟨u.pool.deallocate (some buffer), u.held.eraseIdx holder⟩
  | .clear => some { u with pool := u.pool.clear }
  | .call holder memory op => u.update holder fun p => (p.apply memory op).map Prod.snd
  | .write holder position bytes => u.update holder fun p =>
    if position + bytes.length ≤ p.mSize.toNat then
      (p.mData.memcpy position bytes bytes.length).map fun mData => { p with mData }
    else none
  | .moveOut holder => u.update holder fun _ => some ⟨GrowableArray.empty, 0⟩
  | .moveInto holder other => u.update holder fun _ => some other

end PoolUse

/-- What the first call that changes the elements keeps of those left in the vector:
    nothing, unless it is a Resize. -/
def exposed (leftover : List UInt8) : List (PacketOp × Nat) → List UInt8
  | [] => []
  | (op, _) :: ops =>
    match op with
    | .resize newSize => leftover.take newSize.toNat
    | .clear | .reserve _ | .copied => exposed leftover ops
    | .append data size | .setData data size =>
      if data = none ∨ size = 0 then exposed leftover ops else []
    | .appendBuffer other => if other.mSize = 0 then exposed leftover ops else []
    | .assign _ => []

namespace Image

theorem memcpy_whole (leftover src : List UInt8) (n : Nat) :
    CheckedMemory.memcpy (resized 0 n leftover) 0 src 0 n =
      CheckedMemory.memcpy (resized 0 n []) 0 src 0 n := by
  unfold CheckedMemory.memcpy
  rw [resized_length, resized_length]
  split
  · rename_i inside
    have whole : ((src.drop 0).take n).length = n := by
      rw [List.drop_zero, List.length_take]
      omega
    have covered : ∀ cells : List UInt8, cells.length = n →
        CyclicWindow.overwrite cells 0 ((src.drop 0).take n) = (src.drop 0).take n := by
      intro cells size
      rw [CyclicWindow.overwrite, whole, Nat.zero_add, ← size, List.drop_length,
        List.append_nil, List.take_zero, List.nil_append, size]
    rw [covered _ (resized_length 0 n leftover), covered _ (resized_length 0 n [])]
  · rfl

theorem appended_cleared (leftover : List UInt8) {data : Option (List UInt8)} {size : UInt64}
    (changes : ¬(data = none ∨ size = 0)) :
    (⟨leftover, 0⟩ : Image).appended data size = (⟨[], 0⟩ : Image).appended data size := by
  cases data with
  | none => exact absurd (Or.inl rfl) changes
  | some src =>
    have filled : size ≠ 0 := fun empty => changes (Or.inr empty)
    simp only [appended, if_neg filled, UInt64.zero_add, UInt64.toNat_zero]
    rw [memcpy_whole]

theorem appended_nothing (i : Image) {data : Option (List UInt8)} {size : UInt64}
    (nothing : data = none ∨ size = 0) : i.appended data size = some i := by
  rcases nothing with rfl | rfl
  · rfl
  · cases data <;> rfl

theorem observations_later {leftover : List UInt8} {op : PacketOp} (spare : Nat)
    {ops : List (PacketOp × Nat)}
    (kept : ∀ elements, (⟨elements, 0⟩ : Image).after op = some ⟨elements, 0⟩) :
    observations ⟨leftover, 0⟩ ((op, spare) :: ops) = observations ⟨[], 0⟩ ((op, spare) :: ops) ↔
      observations ⟨leftover, 0⟩ ops = observations ⟨[], 0⟩ ops := by
  simp only [observations, kept]
  constructor
  · intro same
    exact (List.cons.inj same).2
  · intro same
    rw [same]
    rfl

theorem observations_settled {leftover : List UInt8} {op : PacketOp} (spare : Nat)
    {ops : List (PacketOp × Nat)}
    (same : (⟨leftover, 0⟩ : Image).after op = (⟨[], 0⟩ : Image).after op) :
    observations ⟨leftover, 0⟩ ((op, spare) :: ops) =
      observations ⟨[], 0⟩ ((op, spare) :: ops) := by
  simp only [observations, same]

theorem observations_resized (leftover : List UInt8) (newSize : UInt64) (spare : Nat)
    (ops : List (PacketOp × Nat)) :
    observations ⟨leftover, 0⟩ ((.resize newSize, spare) :: ops) =
        observations ⟨[], 0⟩ ((.resize newSize, spare) :: ops) ↔
      ∀ byte ∈ leftover.take newSize.toNat, byte = 0 := by
  rw [← resized_eq_fill_iff, ← resized_nil]
  constructor
  · intro same
    simp only [observations, after, observe] at same
    have visible := congrArg Prod.snd (List.cons.inj same).1
    have whole : ∀ elements : List UInt8,
        (resized 0 newSize.toNat elements).take newSize.toNat =
          resized 0 newSize.toNat elements := fun _ =>
      List.take_of_length_le (Nat.le_of_eq (resized_length _ _ _))
    rw [whole, whole] at visible
    exact visible
  · intro same
    apply observations_settled
    simp only [after, same]

/-- On a cleared buffer the calls show what they show on a new one exactly when the
    bytes they expose are zero. -/
theorem observations_iff (leftover : List UInt8) (ops : List (PacketOp × Nat)) :
    observations ⟨leftover, 0⟩ ops = observations ⟨[], 0⟩ ops ↔
      ∀ byte ∈ exposed leftover ops, byte = 0 := by
  induction ops with
  | nil => simp [observations, exposed]
  | cons call ops ih =>
    obtain ⟨op, spare⟩ := call
    have later : (∀ elements, (⟨elements, 0⟩ : Image).after op = some ⟨elements, 0⟩) →
        (observations ⟨leftover, 0⟩ ((op, spare) :: ops) =
          observations ⟨[], 0⟩ ((op, spare) :: ops) ↔
            ∀ byte ∈ exposed leftover ops, byte = 0) := fun kept =>
      (observations_later spare kept).trans ih
    have settled : (⟨leftover, 0⟩ : Image).after op = (⟨[], 0⟩ : Image).after op →
        (observations ⟨leftover, 0⟩ ((op, spare) :: ops) =
          observations ⟨[], 0⟩ ((op, spare) :: ops) ↔
            ∀ byte ∈ ([] : List UInt8), byte = 0) := fun same =>
      iff_of_true (observations_settled spare same) (by simp)
    cases op with
    | append data size =>
      simp only [exposed]
      split
      · rename_i nothing
        exact later fun elements => appended_nothing _ nothing
      · rename_i changes
        exact settled (appended_cleared leftover changes)
    | appendBuffer other =>
      have appends : ∀ elements, (⟨elements, 0⟩ : Image).after (.appendBuffer other) =
          (⟨elements, 0⟩ : Image).appended (some other.mData.elements) other.mSize := fun _ => rfl
      simp only [exposed]
      split
      · rename_i empty
        exact later fun elements => (appends elements).trans (appended_nothing _ (Or.inr empty))
      · rename_i filled
        have changes : ¬(some other.mData.elements = none ∨ other.mSize = 0) := by
          rintro (null | empty)
          · cases null
          · exact filled empty
        exact settled ((appends _).trans ((appended_cleared leftover changes).trans
          (appends _).symm))
    | setData data size =>
      have appends : ∀ elements, (⟨elements, 0⟩ : Image).after (.setData data size) =
          (⟨elements, 0⟩ : Image).appended data size := by
        intro elements
        cases data with
        | none => rfl
        | some src => simp [after, appended]
      simp only [exposed]
      split
      · rename_i nothing
        exact later fun elements => (appends elements).trans (appended_nothing _ nothing)
      · rename_i changes
        exact settled ((appends _).trans ((appended_cleared leftover changes).trans
          (appends _).symm))
    | resize newSize => exact observations_resized leftover newSize spare ops
    | clear => exact later fun elements => rfl
    | reserve capacity => exact later fun elements => rfl
    | copied => exact later fun elements => rfl
    | assign other => exact settled rfl

end Image

namespace BufferPool

theorem allocate_image {pool : BufferPool} {memory : Option Nat} {buffer : PacketStorage}
    (allocated : (pool.allocate memory).1 = some buffer) :
    buffer.image = ⟨buffer.mData.elements, 0⟩ := by
  unfold allocate at allocated
  split at allocated
  · cases allocated
    rfl
  · obtain ⟨mData, _, rfl⟩ := Option.map_eq_some_iff.mp allocated
    rfl

end BufferPool

theorem PacketStorage.construct_image {memory : Option Nat} {initialCapacity : UInt64}
    {buffer : PacketStorage} (made : construct memory initialCapacity = some buffer) :
    buffer.image = ⟨[], 0⟩ := by
  obtain ⟨mData, reserved, rfl⟩ := Option.map_eq_some_iff.mp made
  unfold GrowableArray.reserve at reserved
  split at reserved
  · cases reserved
    rfl
  · obtain ⟨spare, _, rfl⟩ := Option.map_eq_some_iff.mp reserved
    rfl

namespace PoolUse

theorem update_pool {u t : PoolUse} {holder : Nat} {f : PacketStorage → Option PacketStorage}
    (next : u.update holder f = some t) : t.pool = u.pool := by
  unfold update at next
  split at next
  · cases next
  · obtain ⟨changed, _, rfl⟩ := Option.map_eq_some_iff.mp next
    rfl

theorem step_mBufferSize (bufferSize : UInt64) (u : PoolUse) (e : PoolEvent) (t : PoolUse)
    (size : u.pool.mBufferSize = bufferSize) (next : step u e = some t) :
    t.pool.mBufferSize = bufferSize := by
  cases e with
  | allocate memory =>
    have kept : (u.pool.allocate memory).2.mBufferSize = u.pool.mBufferSize := by
      unfold BufferPool.allocate
      split <;> rfl
    simp only [step] at next
    split at next
    all_goals
      rename_i allocated
      cases next
      rw [allocated] at kept
      exact kept.trans size
  | deallocate holder =>
    have kept : ∀ buffer, (u.pool.deallocate buffer).mBufferSize = u.pool.mBufferSize := by
      intro buffer
      unfold BufferPool.deallocate
      split
      · rfl
      · split <;> rfl
    cases holder with
    | none =>
      cases next
      exact (kept none).trans size
    | some holder =>
      simp only [step] at next
      split at next
      · cases next
      · cases next
        exact (kept _).trans size
  | clear =>
    cases next
    exact size
  | call holder memory op => exact update_pool next ▸ size
  | write holder position bytes => exact update_pool next ▸ size
  | moveOut holder => exact update_pool next ▸ size
  | moveInto holder other => exact update_pool next ▸ size

end PoolUse

/-- After any use of a pool, a buffer it allocates shows under any calls what a new
    buffer of the pool's size shows, if and only if every byte its vector still has that
    the calls expose is zero. -/
theorem recycled_like_new_iff {bufferSize : UInt64} {initial : List (Option Nat)}
    {pool : BufferPool} (made : BufferPool.construct bufferSize initial = some pool)
    (events : List PoolEvent) :
    ∀ u ∈ states PoolUse.step ⟨pool, []⟩ events, u.pool.mBufferSize = bufferSize ∧
      ∀ memory memory' buffer new, (u.pool.allocate memory).1 = some buffer →
        PacketStorage.construct memory' bufferSize = some new →
        ∀ ops, buffer.observations ops = new.observations ops ↔
          ∀ byte ∈ exposed buffer.mData.elements ops, byte = 0 := by
  intro u reached
  constructor
  · obtain ⟨mPool, _, rfl⟩ := Option.map_eq_some_iff.mp made
    exact invariant_of_kept (PoolUse.step_mBufferSize bufferSize) events ⟨_, []⟩ rfl u reached
  · intro memory memory' buffer new allocated constructed ops
    rw [PacketStorage.observations_image, PacketStorage.observations_image,
      BufferPool.allocate_image allocated, PacketStorage.construct_image constructed]
    exact Image.observations_iff buffer.mData.elements ops

def oneByteReturned : List PoolEvent :=
  [.allocate (some 0), .call 0 (some 0) (.append (some [7]) 1), .deallocate (some 0)]

theorem rewritten_buffer_like_new :
    ∃ u ∈ states PoolUse.step ⟨⟨16, 0, []⟩, []⟩ oneByteReturned, ∃ buffer new,
      (u.pool.allocate (some 0)).1 = some buffer ∧
      PacketStorage.construct (some 0) 16 = some new ∧ buffer.mData.elements = [7] ∧
      buffer.observations [(.setData (some [1, 2]) 2, 0), (.resize 4, 0)] =
        new.observations [(.setData (some [1, 2]) 2, 0), (.resize 4, 0)] := by
  have made : BufferPool.construct 16 [] = some ⟨16, 0, []⟩ := rfl
  obtain ⟨u, reached, buffer, allocated, leftover⟩ :
      ∃ u ∈ states PoolUse.step ⟨⟨16, 0, []⟩, []⟩ oneByteReturned, ∃ buffer,
        (u.pool.allocate (some 0)).1 = some buffer ∧ buffer.mData.elements = [7] :=
    ⟨_, mem_states_next rfl (mem_states_next rfl (mem_states_next rfl
      (mem_states_self _ _ []))), _, rfl, rfl⟩
  obtain ⟨new, constructed⟩ : ∃ new, PacketStorage.construct (some 0) 16 = some new := ⟨_, rfl⟩
  refine ⟨u, reached, buffer, new, allocated, constructed, leftover, ?_⟩
  obtain ⟨_, like⟩ := recycled_like_new_iff made oneByteReturned u reached
  apply (like _ _ buffer new allocated constructed _).mpr
  intro byte visible
  cases visible

/- The next holder resizes its buffer and sees the byte. -/
theorem resized_buffer_leaks :
    ∃ pool, BufferPool.construct 16 [] = some pool ∧
      ∃ u ∈ states PoolUse.step ⟨pool, []⟩ oneByteReturned, ∃ buffer new,
        (u.pool.allocate (some 0)).1 = some buffer ∧
        PacketStorage.construct (some 0) 16 = some new ∧
        buffer.observations [(.resize 1, 0)] = [(1, [7])] ∧
        new.observations [(.resize 1, 0)] = [(1, [0])] := by
  refine ⟨_, rfl, _, mem_states_next rfl (mem_states_next rfl (mem_states_next rfl
    (mem_states_self _ _ []))), _, _, rfl, rfl, rfl, rfl⟩

end KanchoNet
