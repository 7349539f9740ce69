import KanchoNet.Lib.CheckedMemory

/-!
The circular byte buffer. Positions and sizes are size_t words with wrapping
arithmetic; mBuffer is the vector's storage. A result of none is undefined
behaviour: a memcpy that leaves its range or a remainder by zero.
-/
namespace KanchoNet
open CyclicWindow CheckedMemory

structure RingBuffer where
  mBuffer : List UInt8
  mCapacity : UInt64
  mReadPos : UInt64
  mWritePos : UInt64
  deriving DecidableEq

namespace RingBuffer

/-- The constructor; the extra slot tells full from empty. -/
def construct (capacity : UInt64) : RingBuffer where
  mBuffer := List.replicate (capacity + 1).toNat 0
  mCapacity := capacity + 1
  mReadPos := 0
  mWritePos := 0

def getAvailableRead (rb : RingBuffer) : UInt64 :=
  if rb.mWritePos ≥ rb.mReadPos then rb.mWritePos - rb.mReadPos
  else rb.mCapacity - rb.mReadPos + rb.mWritePos

def getAvailableWrite (rb : RingBuffer) : UInt64 := rb.mCapacity - 1 - rb.getAvailableRead

def getContiguousWriteSize (rb : RingBuffer) : UInt64 :=
  if rb.mWritePos ≥ rb.mReadPos then
    let toEnd := rb.mCapacity - rb.mWritePos
    if rb.mReadPos = 0 then toEnd - 1 else toEnd
  else rb.mReadPos - rb.mWritePos - 1

def getContiguousReadSize (rb : RingBuffer) : UInt64 :=
  if rb.mWritePos ≥ rb.mReadPos then rb.mWritePos - rb.mReadPos
  else rb.mCapacity - rb.mReadPos

def write (rb : RingBuffer) (data : Option (List UInt8)) (size : UInt64) :
    Option (UInt64 × RingBuffer) :=
  match data with
  | none => some (0, rb)
  | some src =>
    if size = 0 then some (0, rb) else
    let writeSize := stdMin size rb.getAvailableWrite
    if writeSize = 0 then some (0, rb) else
    let contiguousSize := rb.getContiguousWriteSize
    if writeSize ≤ contiguousSize then do
      let mBuffer ← memcpy rb.mBuffer rb.mWritePos.toNat src 0 writeSize.toNat
      let mWritePos ← modulo (rb.mWritePos + writeSize) rb.mCapacity
      return (writeSize, { rb with mBuffer, mWritePos })
    else do
      let mBuffer ← memcpy rb.mBuffer rb.mWritePos.toNat src 0 contiguousSize.toNat
      let mBuffer ← memcpy mBuffer 0 src contiguousSize.toNat (writeSize - contiguousSize).toNat
      return (writeSize, { rb with mBuffer, mWritePos := writeSize - contiguousSize })

/-- Returns the bytes copied and the memory behind the pointer afterwards. -/
def peek (rb : RingBuffer) (buffer : Option (List UInt8)) (size : UInt64) :
    Option (UInt64 × Option (List UInt8)) :=
  match buffer with
  | none => some (0, none)
  | some dest =>
    if size = 0 then some (0, some dest) else
    let peekSize := stdMin size rb.getAvailableRead
    if peekSize = 0 then some (0, some dest) else
    let contiguousSize := rb.getContiguousReadSize
    if peekSize ≤ contiguousSize then do
      let dest ← memcpy dest 0 rb.mBuffer rb.mReadPos.toNat peekSize.toNat
      return (peekSize, some dest)
    else do
      let dest ← memcpy dest 0 rb.mBuffer rb.mReadPos.toNat contiguousSize.toNat
      let dest ← memcpy dest contiguousSize.toNat rb.mBuffer 0 (peekSize - contiguousSize).toNat
      return (peekSize, some dest)

def read (rb : RingBuffer) (buffer : Option (List UInt8)) (size : UInt64) :
    Option (UInt64 × Option (List UInt8) × RingBuffer) := do
  let (readSize, dest) ← rb.peek buffer size
  if readSize > 0 then
    let mReadPos ← modulo (rb.mReadPos + readSize) rb.mCapacity
    return (readSize, dest, { rb with mReadPos })
  else return (readSize, dest, rb)

def skip (rb : RingBuffer) (size : UInt64) : Option (UInt64 × RingBuffer) :=
  let skipSize := stdMin size rb.getAvailableRead
  if skipSize > 0 then do
    let mReadPos ← modulo (rb.mReadPos + skipSize) rb.mCapacity
    return (skipSize, { rb with mReadPos })
  else some (skipSize, rb)

def clear (rb : RingBuffer) : RingBuffer := { rb with mReadPos := 0, mWritePos := 0 }

def getCapacity (rb : RingBuffer) : UInt64 := rb.mCapacity

def isEmpty (rb : RingBuffer) : Bool := rb.mReadPos == rb.mWritePos

def isFull (rb : RingBuffer) : Bool := rb.getAvailableWrite == 0

def getWritePtr (rb : RingBuffer) : Nat := rb.mWritePos.toNat

def getReadPtr (rb : RingBuffer) : Nat := rb.mReadPos.toNat

def commitWrite (rb : RingBuffer) (size : UInt64) : Option RingBuffer := do
  let commitSize := stdMin size rb.getAvailableWrite
  let mWritePos ← modulo (rb.mWritePos + commitSize) rb.mCapacity
  return { rb with mWritePos }

def commitRead (rb : RingBuffer) (size : UInt64) : Option RingBuffer := do
  let commitSize := stdMin size rb.getAvailableRead
  let mReadPos ← modulo (rb.mReadPos + commitSize) rb.mCapacity
  return { rb with mReadPos }

/-- The source of a move. std::move leaves its vector empty. -/
def movedFrom : RingBuffer where
  mBuffer := []
  mCapacity := 0
  mReadPos := 0
  mWritePos := 0

def moveConstruct (other : RingBuffer) : RingBuffer × RingBuffer :=
  ({ mBuffer := other.mBuffer
     mCapacity := other.mCapacity
     mReadPos := other.mReadPos
     mWritePos := other.mWritePos }, movedFrom)

/-- Move assignment: the two objects after it. An object moved to itself is left alone. -/
def moveAssign (rb other : RingBuffer) (sameObject : Bool) : RingBuffer × RingBuffer :=
  if !sameObject then
    ({ rb with
        mBuffer := other.mBuffer
        mCapacity := other.mCapacity
        mReadPos := other.mReadPos
        mWritePos := other.mWritePos }, movedFrom)
  else (rb, other)

/-- The representation invariant. The bound is the largest size std::vector
    allows, so no sum of two positions wraps. -/
structure WellFormed (rb : RingBuffer) : Prop where
  size : rb.mBuffer.length = rb.mCapacity.toNat
  storable : rb.mCapacity.toNat ≤ 2 ^ 63 - 1
  reading : rb.mReadPos.toNat < rb.mCapacity.toNat
  writing : rb.mWritePos.toNat < rb.mCapacity.toNat

def contents (rb : RingBuffer) : List UInt8 :=
  window rb.mBuffer rb.mReadPos.toNat rb.getAvailableRead.toNat

/-- Bytes that can be written before the sacrificed slot is reached. -/
def room (rb : RingBuffer) : Nat := rb.mCapacity.toNat - 1 - rb.contents.length

theorem construct_wellFormed {capacity : UInt64} (storable : capacity.toNat + 1 ≤ 2 ^ 63 - 1) :
    (construct capacity).WellFormed := by
  have words : (capacity + 1).toNat = capacity.toNat + 1 := by
    rw [UInt64.toNat_add, UInt64.toNat_one]
    omega
  constructor <;> simp only [construct, List.length_replicate, words, UInt64.toNat_zero] <;> omega

theorem construct_contents (capacity : UInt64) : (construct capacity).contents = [] := by
  simp [contents, construct, getAvailableRead]

section Sizes
variable {rb : RingBuffer} (wf : rb.WellFormed)
include wf

theorem availableRead_toNat : rb.getAvailableRead.toNat =
    if rb.mReadPos.toNat ≤ rb.mWritePos.toNat then rb.mWritePos.toNat - rb.mReadPos.toNat
    else rb.mCapacity.toNat - rb.mReadPos.toNat + rb.mWritePos.toNat := by
  have := wf.storable; have := wf.reading; have := wf.writing
  simp only [getAvailableRead, ge_iff_le, UInt64.le_iff_toNat_le]
  split
  · rw [UInt64.toNat_sub]
    omega
  · rw [UInt64.toNat_add, UInt64.toNat_sub]
    omega

theorem availableRead_lt : rb.getAvailableRead.toNat < rb.mCapacity.toNat := by
  have := wf.reading; have := wf.writing
  rw [availableRead_toNat wf]
  split <;> omega

theorem contents_length : rb.contents.length = rb.getAvailableRead.toNat := by
  have := availableRead_lt wf
  exact window_length _ (by rw [wf.size]; omega)

theorem contents_window :
    rb.contents = window rb.mBuffer rb.mReadPos.toNat rb.contents.length := by
  rw [contents_length wf, contents]

theorem availableWrite_toNat : rb.getAvailableWrite.toNat = rb.room := by
  have := wf.storable; have := availableRead_lt wf
  rw [getAvailableWrite, room, contents_length wf, UInt64.toNat_sub, UInt64.toNat_sub,
    UInt64.toNat_one]
  omega

theorem length_add_room : rb.contents.length + rb.room + 1 = rb.mCapacity.toNat := by
  have := availableRead_lt wf
  rw [room, contents_length wf]
  omega

/- The contiguous write size reaches either the end of the storage or the whole room. -/
theorem contiguousWrite_toNat : rb.getContiguousWriteSize.toNat =
    if rb.mReadPos.toNat ≤ rb.mWritePos.toNat ∧ 0 < rb.mReadPos.toNat then
      rb.mCapacity.toNat - rb.mWritePos.toNat
    else rb.room := by
  have := wf.storable; have := wf.reading; have := wf.writing
  have words := availableRead_toNat wf
  simp only [getContiguousWriteSize, ge_iff_le, UInt64.le_iff_toNat_le, room, contents_length wf,
    ← UInt64.toNat_inj, UInt64.toNat_zero]
  split at words
  · rw [if_pos ‹_›]
    split
    · rw [if_neg (by omega), UInt64.toNat_sub, UInt64.toNat_sub, UInt64.toNat_one]
      omega
    · rw [if_pos (by omega), UInt64.toNat_sub]
      omega
  · rw [if_neg ‹_›, if_neg (by omega), UInt64.toNat_sub, UInt64.toNat_sub, UInt64.toNat_one]
    omega

theorem contiguousRead_toNat : rb.getContiguousReadSize.toNat =
    if rb.mReadPos.toNat ≤ rb.mWritePos.toNat then rb.getAvailableRead.toNat
    else rb.mCapacity.toNat - rb.mReadPos.toNat := by
  have := wf.storable; have := wf.reading; have := wf.writing
  have words := availableRead_toNat wf
  simp only [getContiguousReadSize, ge_iff_le, UInt64.le_iff_toNat_le]
  split at words <;> simp only [*, ↓reduceIte] <;> rw [UInt64.toNat_sub] <;> omega

end Sizes

end RingBuffer
end KanchoNet
