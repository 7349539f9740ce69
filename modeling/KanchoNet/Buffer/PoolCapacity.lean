import KanchoNet.Buffer.BufferPool
import KanchoNet.Buffer.PacketStrings

/-!
How many buffers a pool holds and how much they can take. The number is bounded
whatever the holders do; the capacity of a recycled buffer is what its last holder
left it.
-/
namespace KanchoNet
open GrowableArrays LabelledRuns
open RingBuffer (Argument)

namespace PacketStorage

def fill (p : PacketStorage) : List Argument → Option (Bool × PacketStorage)
  | [] => some (true, p)
  | data :: rest =>
    match p.append ⟨none, none⟩ data.pointer data.size with
    | some (true, q) => q.fill rest
    | stopped => stopped

theorem append_within {data : Argument} {p : PacketStorage} (inside : p.Inside)
    (fits : p.mSize.toNat + data.wanted ≤ p.mData.capacity)
    (word : p.mSize.toNat + data.wanted < 2 ^ 64) :
    ∃ q, p.append ⟨none, none⟩ data.pointer data.size = some (true, q) ∧ q.Inside ∧
      q.mData.capacity = p.mData.capacity ∧ q.mSize.toNat = p.mSize.toNat + data.wanted ∧
      q.contents = p.contents ++ data.offered := by
  obtain ⟨pointer, size, reaches⟩ := data
  have same : p.contents = p.contents ++ [] := (List.append_nil _).symm
  cases pointer with
  | none => exact ⟨p, rfl, inside, rfl, rfl, same⟩
  | some src =>
    simp only [Argument.wanted, Option.isSome_some, ↓reduceIte] at fits word ⊢
    obtain ⟨done, q, called, inside', contents, _⟩ :=
      append_contents ⟨none, none⟩ ⟨some src, size, reaches⟩ inside word
    have newSize : (p.mSize + size).toNat = p.mSize.toNat + size.toNat := by
      rw [UInt64.toNat_add, Nat.mod_eq_of_lt word]
    have kept : done = true ∧ q.mData.capacity = p.mData.capacity ∧
        q.mSize.toNat = p.mSize.toNat + size.toNat := by
      simp only [append] at called
      split at called
      · rename_i empty
        cases called
        subst empty
        exact ⟨rfl, rfl, rfl⟩
      · obtain ⟨mData, longer, capacity⟩ :
            ∃ b, p.mData.resize 0 none (p.mSize + size).toNat = some b ∧
              b.capacity = p.mData.capacity := GrowableArray.resize_within (by omega)
        have enough : ¬p.mData.capacity < (p.mSize + size).toNat := by omega
        simp only [enough, ↓reduceIte, longer] at called
        obtain ⟨copied, written, result⟩ := Option.map_eq_some_iff.mp called
        cases result
        exact ⟨rfl, (GrowableArray.memcpy_capacity written).trans capacity, newSize⟩
    obtain ⟨rfl, capacity, longer⟩ := kept
    exact ⟨q, called, inside', capacity, longer, contents rfl⟩

theorem fill_within {data : List Argument} {p : PacketStorage} (inside : p.Inside)
    (fits : p.mSize.toNat + (data.map Argument.wanted).sum ≤ p.mData.capacity)
    (word : p.mSize.toNat + (data.map Argument.wanted).sum < 2 ^ 64) :
    ∃ q, p.fill data = some (true, q) ∧ q.mData.capacity = p.mData.capacity ∧
      q.contents = p.contents ++ (data.map Argument.offered).flatten := by
  induction data generalizing p with
  | nil => exact ⟨p, rfl, rfl, by simp⟩
  | cons first rest ih =>
    simp only [List.map_cons, List.sum_cons] at fits word
    obtain ⟨q, appended, inside', capacity, size, contents⟩ :=
      @append_within first p inside (by omega) (by omega)
    obtain ⟨r, filled, capacity', contents'⟩ := ih inside' (by omega) (by omega)
    refine ⟨r, ?_, capacity'.trans capacity, ?_⟩
    · simp only [fill, appended]
      exact filled
    · rw [contents', contents, List.append_assoc]
      rfl

end PacketStorage

theorem PacketStorage.construct_roomy {memory : Option Nat} {initialCapacity : UInt64}
    {buffer : PacketStorage} (made : construct memory initialCapacity = some buffer) :
    initialCapacity.toNat ≤ buffer.mData.capacity := by
  obtain ⟨mData, reserved, rfl⟩ := Option.map_eq_some_iff.mp made
  exact (GrowableArray.reserve_some reserved).2.1

namespace BufferPool

/-- The pool's own account: its buffer size, how many buffers it may hold, and that each
    of them has room for the buffer size. -/
structure Roomy (bufferSize : UInt64) (limit : Nat) (pool : BufferPool) : Prop where
  size : pool.mBufferSize = bufferSize
  bounded : pool.mPool.length ≤ limit
  roomy : ∀ buffer ∈ pool.mPool, bufferSize.toNat ≤ buffer.mData.capacity

theorem construct_roomy {bufferSize : UInt64} {initial : List (Option Nat)} {pool : BufferPool}
    (made : construct bufferSize initial = some pool) :
    pool.Roomy bufferSize (max initial.length MAX_POOL_SIZE) := by
  obtain ⟨mPool, built, rfl⟩ := Option.map_eq_some_iff.mp made
  have spec : mPool.length = initial.length ∧
      ∀ buffer ∈ mPool, bufferSize.toNat ≤ buffer.mData.capacity := by
    clear made
    induction initial generalizing mPool with
    | nil =>
      cases built
      exact ⟨rfl, by simp⟩
    | cons memory initial ih =>
      simp only [List.mapM_cons, Option.bind_eq_bind, Option.bind_eq_some_iff] at built
      obtain ⟨first, constructed, rest, others, joined⟩ := built
      cases joined
      obtain ⟨length, roomy⟩ := ih rest others
      refine ⟨congrArg (· + 1) length, ?_⟩
      intro buffer member
      rcases List.mem_cons.mp member with rfl | later
      · exact PacketStorage.construct_roomy constructed
      · exact roomy buffer later
  exact ⟨rfl, by simp only; omega, spec.2⟩

theorem allocate_pool (memory : Option Nat) (pool : BufferPool) :
    (pool.allocate memory).2.mPool = pool.mPool.dropLast := by
  unfold allocate
  split
  · rfl
  · rename_i empty
    rw [List.getLast?_eq_none_iff.mp empty]
    rfl

theorem allocate_roomy {bufferSize : UInt64} {limit : Nat} {pool : BufferPool}
    (roomy : pool.Roomy bufferSize limit) {memory : Option Nat} {buffer : PacketStorage}
    (allocated : (pool.allocate memory).1 = some buffer) :
    buffer.mSize = 0 ∧ bufferSize.toNat ≤ buffer.mData.capacity := by
  unfold allocate at allocated
  split at allocated
  · rename_i last found
    cases allocated
    exact ⟨rfl, roomy.roomy last (List.mem_of_getLast? found)⟩
  · have constructed : PacketStorage.construct memory pool.mBufferSize = some buffer := allocated
    have room := PacketStorage.construct_roomy constructed
    rw [roomy.size] at room
    exact ⟨congrArg Image.size (PacketStorage.construct_image constructed), room⟩

end BufferPool

namespace PoolUse

/-- A buffer that the pool takes back still has room for the buffer size. -/
def GivesRoom (u : PoolUse) (e : PoolEvent) : Prop :=
  ∀ holder buffer, e = .deallocate (some holder) → u.held[holder]? = some buffer →
    u.pool.mPool.length < MAX_POOL_SIZE → u.pool.mBufferSize.toNat ≤ buffer.mData.capacity

theorem step_pool {u t : PoolUse} {e : PoolEvent} (next : step u e = some t) :
    t.pool.mPool.Sublist u.pool.mPool ∨
      ∃ holder buffer, e = .deallocate (some holder) ∧ u.held[holder]? = some buffer ∧
        u.pool.mPool.length < MAX_POOL_SIZE ∧ t.pool.mPool = u.pool.mPool ++ [buffer.clear] := by
  have updated : t.pool = u.pool → t.pool.mPool.Sublist u.pool.mPool := by
    intro same
    rw [same]
  cases e with
  | allocate memory =>
    left
    have dropped := BufferPool.allocate_pool memory u.pool
    simp only [step] at next
    split at next
    all_goals
      rename_i allocated
      cases next
      rw [allocated] at dropped
      simp only at dropped
      rw [dropped]
      exact List.dropLast_sublist _
  | deallocate holder =>
    cases holder with
    | none =>
      cases next
      exact Or.inl (List.Sublist.refl _)
    | some holder =>
      simp only [step] at next
      split at next
      · cases next
      · rename_i buffer found
        cases next
        by_cases room : u.pool.mPool.length < MAX_POOL_SIZE
        · right
          exact ⟨holder, buffer, rfl, found, room, by simp [BufferPool.deallocate, room]⟩
        · left
          simp [BufferPool.deallocate, room]
  | clear =>
    cases next
    exact Or.inl (List.nil_sublist _)
  | call holder memory op => exact Or.inl (updated (update_pool next))
  | write holder position bytes => exact Or.inl (updated (update_pool next))
  | moveOut holder => exact Or.inl (updated (update_pool next))
  | moveInto holder other => exact Or.inl (updated (update_pool next))

theorem step_keeps_room {bufferSize : UInt64} {limit : Nat} (large : MAX_POOL_SIZE ≤ limit)
    (u : PoolUse) (e : PoolEvent) (t : PoolUse) (roomy : u.pool.Roomy bufferSize limit)
    (good : u.GivesRoom e) (next : step u e = some t) : t.pool.Roomy bufferSize limit := by
  have size := step_mBufferSize bufferSize u e t roomy.size next
  rcases step_pool next with fewer | ⟨holder, buffer, returned, found, room, more⟩
  · refine ⟨size, Nat.le_trans fewer.length_le roomy.bounded, ?_⟩
    intro buffer member
    exact roomy.roomy buffer (fewer.mem member)
  · have wide := good holder buffer returned found room
    rw [roomy.size] at wide
    refine ⟨size, ?_, ?_⟩
    · rw [more, List.length_append, List.length_singleton]
      omega
    · intro b member
      rw [more, List.mem_append, List.mem_singleton] at member
      rcases member with old | rfl
      · exact roomy.roomy b old
      · exact wide

end PoolUse

/-- What the pool promises its callers: it stays small, and a buffer it allocates is
    empty and takes the buffer size without asking for memory. -/
structure PoolPromise (bufferSize : UInt64) (initialCount : Nat) (u : PoolUse) : Prop where
  bounded : u.pool.mPool.length ≤ max initialCount 1000
  allocated : ∀ memory buffer, (u.pool.allocate memory).1 = some buffer →
    buffer.mSize = 0 ∧ bufferSize.toNat ≤ buffer.mData.capacity ∧
    ∀ data : List Argument, (data.map Argument.wanted).sum ≤ bufferSize.toNat →
      ∃ full, buffer.fill data = some (true, full) ∧
        full.mData.capacity = buffer.mData.capacity ∧
        full.contents = (data.map Argument.offered).flatten

theorem BufferPool.Roomy.promise {bufferSize : UInt64} {initialCount : Nat} {u : PoolUse}
    (roomy : u.pool.Roomy bufferSize (max initialCount MAX_POOL_SIZE)) :
    PoolPromise bufferSize initialCount u := by
  refine ⟨roomy.bounded, ?_⟩
  intro memory buffer allocated
  obtain ⟨empty, room⟩ := BufferPool.allocate_roomy roomy allocated
  refine ⟨empty, room, ?_⟩
  intro data fits
  have zero : buffer.mSize.toNat = 0 := by
    rw [empty]
    rfl
  have word := bufferSize.toNat_lt
  have inside : buffer.Inside := by
    rw [PacketStorage.Inside, zero]
    exact Nat.zero_le _
  obtain ⟨full, filled, capacity, contents⟩ :=
    @PacketStorage.fill_within data buffer inside (by omega) (by omega)
  have nothing : buffer.contents = [] := by
    rw [PacketStorage.contents, zero]
    exact List.take_zero
  rw [nothing, List.nil_append] at contents
  exact ⟨full, filled, capacity, contents⟩

/-- A pool keeps its promises through a run exactly when every buffer it takes back
    still has room for the buffer size. -/
theorem pool_promises_iff {bufferSize : UInt64} {initial : List (Option Nat)} {pool : BufferPool}
    (made : BufferPool.construct bufferSize initial = some pool) (events : List PoolEvent) :
    (∀ u ∈ states PoolUse.step ⟨pool, []⟩ events, PoolPromise bufferSize initial.length u) ↔
      ∀ x ∈ steps PoolUse.step ⟨pool, []⟩ events, x.1.GivesRoom x.2 := by
  refine holds_along_iff (PoolUse.step_keeps_room (Nat.le_max_right _ _))
    (fun u roomy => roomy.promise) ?_ events _ (BufferPool.construct_roomy made)
  intro u e t roomy small next promise
  unfold PoolUse.GivesRoom at small
  push Not at small
  obtain ⟨holder, buffer, rfl, found, room, short⟩ := small
  -- the buffer given back is the next one allocated
  have more : t.pool.mPool = u.pool.mPool ++ [buffer.clear] := by
    simp only [PoolUse.step, found, Option.some.injEq] at next
    simp [← next, BufferPool.deallocate, room]
  have allocated : (t.pool.allocate none).1 = some buffer.clear := by
    simp [BufferPool.allocate, more, PacketStorage.clear]
  have wide := (promise.allocated none _ allocated).2.1
  rw [roomy.size] at short
  exact absurd wide (Nat.not_le.mpr short)

/- A buffer given back with its bytes in it still has room for sixteen. -/
theorem pool_promises_after_append :
    ∃ pool, BufferPool.construct 16 [] = some pool ∧
      ∀ u ∈ states PoolUse.step ⟨pool, []⟩ oneByteReturned, PoolPromise 16 0 u := by
  refine ⟨_, rfl, (@pool_promises_iff 16 [] _ rfl oneByteReturned).mpr ?_⟩
  refine forall_steps_cons PoolUse.GivesRoom rfl (by intro _ _ same; cases same) ?_
  refine forall_steps_cons PoolUse.GivesRoom rfl (by intro _ _ same; cases same) ?_
  intro x member
  rw [mem_steps_single member]
  intro holder buffer same found _
  cases same
  cases found
  decide

/- A holder moves the content out and gives the buffer back: the next one gets a buffer
   without memory. -/
theorem moved_out_buffer_has_no_room :
    ∃ pool, BufferPool.construct 16 [] = some pool ∧
      ∃ u ∈ states PoolUse.step ⟨pool, []⟩
          [.allocate (some 0), .moveOut 0, .deallocate (some 0)],
        ∃ buffer, (u.pool.allocate (some 0)).1 = some buffer ∧ buffer.mData.capacity = 0 ∧
          ¬PoolPromise 16 0 u := by
  obtain ⟨pool, made, u, reached, buffer, allocated, empty⟩ :
      ∃ pool, BufferPool.construct 16 [] = some pool ∧
        ∃ u ∈ states PoolUse.step ⟨pool, []⟩
            [.allocate (some 0), .moveOut 0, .deallocate (some 0)],
          ∃ buffer, (u.pool.allocate (some 0)).1 = some buffer ∧ buffer.mData.capacity = 0 :=
    ⟨_, rfl, _, mem_states_next rfl (mem_states_next rfl (mem_states_next rfl
      (mem_states_self _ _ []))), _, rfl, rfl⟩
  refine ⟨pool, made, u, reached, buffer, allocated, empty, ?_⟩
  intro promise
  have wide := (promise.allocated _ _ allocated).2.1
  rw [empty] at wide
  exact absurd wide (by decide)

end KanchoNet
