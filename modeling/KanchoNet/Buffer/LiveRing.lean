import KanchoNet.Buffer.RingBufferFifo

/-!
Ring buffers that carry their invariant, and packets. The sessions of a server
hold buffers that are never moved from, so every operation on them is total.
-/
namespace KanchoNet
open RingBuffer

structure LiveRing where
  ring : RingBuffer
  wellFormed : ring.WellFormed

namespace LiveRing

def construct (capacity : UInt64) (storable : capacity.toNat + 1 ≤ 2 ^ 63 - 1) : LiveRing :=
  ⟨RingBuffer.construct capacity, construct_wellFormed storable⟩

def queue (b : LiveRing) : List UInt8 := b.ring.contents

def room (b : LiveRing) : Nat := b.ring.room

def getAvailableRead (b : LiveRing) : UInt64 := b.ring.getAvailableRead

theorem write_isSome (b : LiveRing) (data : Argument) :
    (b.ring.write data.pointer data.size).isSome := by
  obtain ⟨n, rb, written, _⟩ := write_defined b.wellFormed data
  simp [written]

theorem write_wellFormed (b : LiveRing) (data : Argument) :
    ((b.ring.write data.pointer data.size).get (b.write_isSome data)).2.WellFormed := by
  obtain ⟨n, rb, written, _, wf, _⟩ := write_defined b.wellFormed data
  simpa [written] using wf

def write (b : LiveRing) (data : Argument) : UInt64 × LiveRing :=
  (((b.ring.write data.pointer data.size).get (b.write_isSome data)).1,
    ⟨_, b.write_wellFormed data⟩)

theorem skip_isSome (b : LiveRing) (size : UInt64) : (b.ring.skip size).isSome := by
  obtain ⟨n, rb, skipped, _⟩ := skip_removes b.wellFormed size
  simp [skipped]

theorem skip_wellFormed (b : LiveRing) (size : UInt64) :
    ((b.ring.skip size).get (b.skip_isSome size)).2.WellFormed := by
  obtain ⟨n, rb, skipped, _, wf, _⟩ := skip_removes b.wellFormed size
  simpa [skipped] using wf

def skip (b : LiveRing) (size : UInt64) : LiveRing := ⟨_, b.skip_wellFormed size⟩

def localArray (size : UInt64) : Argument where
  pointer := some (List.replicate size.toNat 0)
  size := size
  reaches := by simp

theorem peek_isSome (b : LiveRing) (buffer : Argument) :
    (b.ring.peek buffer.pointer buffer.size).isSome := by
  obtain ⟨n, peeked, _⟩ := peek_defined b.wellFormed buffer
  simp [peeked]

def peek (b : LiveRing) (buffer : Argument) : UInt64 × Option (List UInt8) :=
  (b.ring.peek buffer.pointer buffer.size).get (b.peek_isSome buffer)

def peekBytes (b : LiveRing) (size : UInt64) : List UInt8 :=
  let (dataSize, array) := b.peek (localArray size)
  (array.getD []).take dataSize.toNat

theorem write_count (b : LiveRing) (data : Argument) :
    (b.write data).1.toNat = min data.wanted b.room := by
  obtain ⟨n, rb, written, amount, _⟩ := write_defined b.wellFormed data
  simpa [write, written, room] using amount

theorem write_queue (b : LiveRing) (data : Argument) :
    (b.write data).2.queue = b.queue ++ data.offered.take b.room := by
  obtain ⟨n, rb, written, amount, _, _, _, contents⟩ := write_defined b.wellFormed data
  have taken : data.offered.take n.toNat = data.offered.take b.room := by
    rw [amount, ← data.offered_length, Nat.min_comm, ← List.take_eq_take_min, room]
  rw [← taken]
  simpa [write, queue, written] using contents

theorem write_room (b : LiveRing) (data : Argument) :
    (b.write data).2.room = b.room - data.wanted := by
  obtain ⟨n, rb, written, amount, wf, capacity, _, contents⟩ := write_defined b.wellFormed data
  have before := length_add_room b.wellFormed
  have after := length_add_room wf
  have offered := data.offered_length
  rw [contents, capacity, List.length_append, List.length_take] at after
  have left : rb.room = b.ring.room - data.wanted := by omega
  simpa [write, room, written] using left

theorem skip_queue (b : LiveRing) (size : UInt64) :
    (b.skip size).queue = b.queue.drop size.toNat := by
  obtain ⟨n, rb, skipped, amount, _, _, contents⟩ := skip_removes b.wellFormed size
  rw [amount, drop_min_length] at contents
  simpa [skip, queue, skipped] using contents

theorem peekBytes_eq (b : LiveRing) (size : UInt64) :
    b.peekBytes size = b.queue.take size.toNat := by
  obtain ⟨n, peeked, amount⟩ := peek_defined b.wellFormed (localArray size)
  have wanted : (localArray size).wanted = size.toNat := by simp [Argument.wanted, localArray]
  have reached : (localArray size).filled (b.ring.contents.take size.toNat) =
      some (CyclicWindow.overwrite (List.replicate size.toNat 0) 0
        (b.ring.contents.take size.toNat)) := rfl
  rw [wanted] at peeked amount
  rw [reached] at peeked
  have count : n.toNat = (b.ring.contents.take size.toNat).length := by
    rw [amount, List.length_take]
  simp only [peekBytes, peek, peeked, Option.get_some, Option.getD_some, queue, count]
  simp [CyclicWindow.overwrite]

theorem getAvailableRead_toNat (b : LiveRing) : b.getAvailableRead.toNat = b.queue.length :=
  (contents_length b.wellFormed).symm

theorem getAvailableRead_eq_zero_iff (b : LiveRing) : b.getAvailableRead = 0 ↔ b.queue = [] := by
  rw [← UInt64.toNat_inj, getAvailableRead_toNat, UInt64.toNat_zero, List.length_eq_zero_iff]

theorem getAvailableRead_pos_iff (b : LiveRing) : 0 < b.getAvailableRead ↔ b.queue ≠ [] := by
  rw [UInt64.lt_iff_toNat_lt, getAvailableRead_toNat, UInt64.toNat_zero, List.length_pos_iff]

theorem construct_queue (capacity : UInt64) (storable : capacity.toNat + 1 ≤ 2 ^ 63 - 1) :
    (construct capacity storable).queue = [] := construct_contents capacity

theorem construct_room (capacity : UInt64) (storable : capacity.toNat + 1 ≤ 2 ^ 63 - 1) :
    (construct capacity storable).room = capacity.toNat := by
  simp only [room, RingBuffer.room, construct, construct_contents, List.length_nil]
  simp only [RingBuffer.construct, UInt64.toNat_add, UInt64.toNat_one]
  omega

end LiveRing

structure PacketBuffer where
  mData : List UInt8
  mSize : UInt64
  inside : mSize.toNat ≤ mData.length

namespace PacketBuffer

def isEmpty (p : PacketBuffer) : Bool := p.mSize == 0

def getSize (p : PacketBuffer) : UInt64 := p.mSize

def argument (p : PacketBuffer) : Argument where
  pointer := some p.mData
  size := p.mSize
  reaches := by
    intro bytes same
    cases same
    exact p.inside

def contents (p : PacketBuffer) : List UInt8 := p.mData.take p.mSize.toNat

def ofBytes (data : List UInt8) (size : UInt64) (reaches : size.toNat ≤ data.length) :
    PacketBuffer where
  mData := data.take size.toNat
  mSize := size
  inside := by simp [reaches]

theorem contents_length (p : PacketBuffer) : p.contents.length = p.mSize.toNat := by
  have := p.inside
  rw [contents, List.length_take]
  omega

theorem isEmpty_iff (p : PacketBuffer) : p.isEmpty = true ↔ p.contents = [] := by
  rw [isEmpty, beq_iff_eq, ← UInt64.toNat_inj, UInt64.toNat_zero, ← List.length_eq_zero_iff,
    contents_length]

theorem isEmpty_eq_false {p : PacketBuffer} (packed : p.contents ≠ []) : p.isEmpty = false := by
  rw [← Bool.not_eq_true, isEmpty_iff]
  exact packed

end PacketBuffer
end KanchoNet
