import KanchoNet.Buffer.RingBufferFifo

/-!
The zero-copy side of the ring buffer. A caller that fills the contiguous region
at GetWritePtr and commits it, round by round, ends in the state of one Write;
the same loop over GetReadPtr ends in the state of one Read.
-/
namespace KanchoNet.RingBuffer
open CyclicWindow CheckedMemory

/-- The states of a buffer that has not been moved from. A caller may store
    anywhere in the contiguous region at the write pointer. -/
inductive Reachable : RingBuffer → Prop where
  | constructed {capacity : UInt64} (storable : capacity.toNat + 1 ≤ 2 ^ 63 - 1) :
      Reachable (construct capacity)
  | called {rb rb' : RingBuffer} {op : Operation} {reply : Reply} (before : Reachable rb)
      (returned : rb.call op = some (reply, rb')) : Reachable rb'
  | stored {rb : RingBuffer} {offset : Nat} {data mBuffer : List UInt8} (before : Reachable rb)
      (region : offset + data.length ≤ rb.getContiguousWriteSize.toNat)
      (copied : memcpy rb.mBuffer (rb.getWritePtr + offset) data 0 data.length = some mBuffer) :
      Reachable { rb with mBuffer }
  | committedWrite {rb rb' : RingBuffer} {size : UInt64} (before : Reachable rb)
      (committed : rb.commitWrite size = some rb') : Reachable rb'
  | committedRead {rb rb' : RingBuffer} {size : UInt64} (before : Reachable rb)
      (committed : rb.commitRead size = some rb') : Reachable rb'
  | moveConstructed {other : RingBuffer} (source : Reachable other) :
      Reachable other.moveConstruct.1
  | moveAssigned {rb other : RingBuffer} (source : Reachable other) :
      Reachable (rb.moveAssign other false).1

section Regions
variable {rb : RingBuffer} (wf : rb.WellFormed)
include wf

theorem contiguousWrite_le : rb.getContiguousWriteSize.toNat ≤ rb.room := by
  have contiguous := contiguousWrite_toNat wf
  have unread := availableRead_toNat wf
  have full := length_add_room wf
  rw [← contents_length wf] at unread
  split at contiguous <;> split at unread <;> omega

theorem contiguousWrite_eq_zero_iff : rb.getContiguousWriteSize.toNat = 0 ↔ rb.room = 0 := by
  have writing := wf.writing
  have shorter := contiguousWrite_le wf
  have contiguous := contiguousWrite_toNat wf
  split at contiguous <;> omega

theorem contiguousWrite_inside :
    rb.mWritePos.toNat + rb.getContiguousWriteSize.toNat ≤ rb.mCapacity.toNat := by
  have writing := wf.writing
  have contiguous := contiguousWrite_toNat wf
  split at contiguous
  · omega
  · have := room_ahead_of_end wf ‹_›
    omega

theorem contiguousRead_le : rb.getContiguousReadSize.toNat ≤ rb.contents.length := by
  have contiguous := contiguousRead_toNat wf
  have unread := availableRead_toNat wf
  rw [← contents_length wf] at contiguous unread
  split at contiguous <;> split at unread <;> omega

theorem contiguousRead_eq_zero_iff :
    rb.getContiguousReadSize.toNat = 0 ↔ rb.contents.length = 0 := by
  have reading := wf.reading
  have contiguous := contiguousRead_toNat wf
  have unread := availableRead_toNat wf
  rw [← contents_length wf] at contiguous unread
  split at contiguous <;> split at unread <;> omega

theorem contiguousRead_inside :
    rb.mReadPos.toNat + rb.getContiguousReadSize.toNat ≤ rb.mCapacity.toNat := by
  have reading := wf.reading; have writing := wf.writing
  have contiguous := contiguousRead_toNat wf
  have unread := availableRead_toNat wf
  split at contiguous <;> split at unread <;> omega

/- An unread byte lies before the write pointer or behind the region. -/
theorem unread_outside_region {i : Nat} (unread : i < rb.contents.length) :
    (rb.mReadPos.toNat + i) % rb.mCapacity.toNat < rb.mWritePos.toNat ∨
      rb.mWritePos.toNat + rb.getContiguousWriteSize.toNat ≤
        (rb.mReadPos.toNat + i) % rb.mCapacity.toNat := by
  have reading := wf.reading
  have full := length_add_room wf
  have cell := cell_position reading (i := i) (by omega)
  have contiguous := contiguousWrite_toNat wf
  have length := availableRead_toNat wf
  rw [← contents_length wf] at length
  split at cell <;> split at contiguous <;> split at length <;> omega

theorem readRegion_eq : (rb.mBuffer.drop rb.getReadPtr).take rb.getContiguousReadSize.toNat =
    rb.contents.take rb.getContiguousReadSize.toNat := by
  have shorter := contiguousRead_le wf
  have inside := contiguousRead_inside wf
  rw [contents_window wf, window_take, Nat.min_eq_left shorter,
    window_straight (by rw [wf.size]; exact inside)]
  rfl

end Regions

theorem remaining_decreases {remaining region : UInt64} (part : ¬stdMin remaining region = 0) :
    (remaining - stdMin remaining region).toNat < remaining.toNat := by
  rw [← UInt64.toNat_inj, stdMin_toNat, UInt64.toNat_zero] at part
  have shorter : stdMin remaining region ≤ remaining := by
    rw [UInt64.le_iff_toNat_le, stdMin_toNat]
    omega
  rw [UInt64.toNat_sub_of_le _ _ shorter, stdMin_toNat]
  omega

/-- A caller's loop: copy what the region holds, commit it, and go on until the
    bytes or the space are exhausted. Returns the non-empty rounds and the bytes
    copied. -/
def writeLoop (rb : RingBuffer) (src : List UInt8) (remaining : UInt64) :
    Option (Nat × UInt64 × RingBuffer) :=
  let n := stdMin remaining rb.getContiguousWriteSize
  if n = 0 then some (0, 0, rb)
  else do
    let mBuffer ← memcpy rb.mBuffer rb.getWritePtr src 0 n.toNat
    let rb ← { rb with mBuffer }.commitWrite n
    let (rounds, copied, rb) ← writeLoop rb (src.drop n.toNat) (remaining - n)
    return (rounds + 1, n + copied, rb)
termination_by remaining.toNat
decreasing_by exact remaining_decreases ‹_›

def readLoop (rb : RingBuffer) (dest : List UInt8) (taken : Nat) (remaining : UInt64) :
    Option (Nat × UInt64 × List UInt8 × RingBuffer) :=
  let n := stdMin remaining rb.getContiguousReadSize
  if n = 0 then some (0, 0, dest, rb)
  else do
    let dest ← memcpy dest taken rb.mBuffer rb.getReadPtr n.toNat
    let rb ← rb.commitRead n
    let (rounds, copied, dest, rb) ← readLoop rb dest (taken + n.toNat) (remaining - n)
    return (rounds + 1, n + copied, dest, rb)
termination_by remaining.toNat
decreasing_by exact remaining_decreases ‹_›

theorem writeLoop_stops {rb : RingBuffer} {src : List UInt8} {remaining : UInt64}
    (exhausted : remaining.toNat = 0 ∨ rb.getContiguousWriteSize.toNat = 0) :
    rb.writeLoop src remaining = some (0, 0, rb) := by
  have none : stdMin remaining rb.getContiguousWriteSize = 0 := by
    rw [← UInt64.toNat_inj, stdMin_toNat, UInt64.toNat_zero]
    omega
  rw [writeLoop, none]
  rfl

theorem readLoop_stops {rb : RingBuffer} {dest : List UInt8} {taken : Nat} {remaining : UInt64}
    (exhausted : remaining.toNat = 0 ∨ rb.getContiguousReadSize.toNat = 0) :
    rb.readLoop dest taken remaining = some (0, 0, dest, rb) := by
  have none : stdMin remaining rb.getContiguousReadSize = 0 := by
    rw [← UInt64.toNat_inj, stdMin_toNat, UInt64.toNat_zero]
    omega
  rw [readLoop, none]
  rfl

section Rounds
variable (rb : RingBuffer)

theorem stdMin_of_le {a b : UInt64} (small : a.toNat ≤ b.toNat) : stdMin a b = a := by
  rw [← UInt64.toNat_inj, stdMin_toNat]
  omega

theorem commitWrite_eq {n mWritePos : UInt64} (fits : n.toNat ≤ rb.getAvailableWrite.toNat)
    (advanced : modulo (rb.mWritePos + n) rb.mCapacity = some mWritePos) :
    rb.commitWrite n = some { rb with mWritePos } := by
  simp only [commitWrite, stdMin_of_le fits, advanced]
  rfl

theorem commitRead_eq {n mReadPos : UInt64} (fits : n.toNat ≤ rb.getAvailableRead.toNat)
    (advanced : modulo (rb.mReadPos + n) rb.mCapacity = some mReadPos) :
    rb.commitRead n = some { rb with mReadPos } := by
  simp only [commitRead, stdMin_of_le fits, advanced]
  rfl

theorem writeLoop_round {src mBuffer : List UInt8} {remaining n mWritePos : UInt64}
    (amount : n.toNat = min remaining.toNat rb.getContiguousWriteSize.toNat)
    (positive : n.toNat ≠ 0) (fits : n.toNat ≤ rb.getAvailableWrite.toNat)
    (copied : memcpy rb.mBuffer rb.mWritePos.toNat src 0 n.toNat = some mBuffer)
    (advanced : modulo (rb.mWritePos + n) rb.mCapacity = some mWritePos) :
    rb.writeLoop src remaining =
      ({ rb with mBuffer, mWritePos }.writeLoop (src.drop n.toNat) (remaining - n)).map
        fun (rounds, copied, rb) => (rounds + 1, n + copied, rb) := by
  have chunk : stdMin remaining rb.getContiguousWriteSize = n := by
    rw [← UInt64.toNat_inj, stdMin_toNat, amount]
  have another : n ≠ 0 := by
    rintro rfl
    exact positive rfl
  have committed : { rb with mBuffer }.commitWrite n = some { rb with mBuffer, mWritePos } :=
    commitWrite_eq { rb with mBuffer } fits advanced
  rw [writeLoop, chunk]
  simp only [another, ↓reduceIte, getWritePtr, copied, committed, Option.bind_eq_bind,
    Option.bind_some]
  cases writeLoop _ _ _ <;> rfl

theorem readLoop_round {dest dest' : List UInt8} {taken : Nat} {remaining n mReadPos : UInt64}
    (amount : n.toNat = min remaining.toNat rb.getContiguousReadSize.toNat)
    (positive : n.toNat ≠ 0) (fits : n.toNat ≤ rb.getAvailableRead.toNat)
    (copied : memcpy dest taken rb.mBuffer rb.mReadPos.toNat n.toNat = some dest')
    (advanced : modulo (rb.mReadPos + n) rb.mCapacity = some mReadPos) :
    rb.readLoop dest taken remaining =
      ({ rb with mReadPos }.readLoop dest' (taken + n.toNat) (remaining - n)).map
        fun (rounds, copied, dest, rb) => (rounds + 1, n + copied, dest, rb) := by
  have chunk : stdMin remaining rb.getContiguousReadSize = n := by
    rw [← UInt64.toNat_inj, stdMin_toNat, amount]
  have another : n ≠ 0 := by
    rintro rfl
    exact positive rfl
  have committed := commitRead_eq rb fits advanced
  rw [readLoop, chunk]
  simp only [another, ↓reduceIte, getReadPtr, copied, committed, Option.bind_eq_bind,
    Option.bind_some]
  cases readLoop _ _ _ _ <;> rfl

end Rounds

section Loops
variable {rb : RingBuffer} (wf : rb.WellFormed)
include wf

theorem room_extended {rb' : RingBuffer} (wf' : rb'.WellFormed) {src : List UInt8} {n : Nat}
    (capacity : rb'.mCapacity = rb.mCapacity) (reaches : n ≤ src.length)
    (contents : rb'.contents = rb.contents ++ src.take n) : rb'.room + n = rb.room := by
  have before := length_add_room wf
  have after := length_add_room wf'
  rw [contents, List.length_append, List.length_take, capacity] at after
  omega

theorem writeLoop_straight {src mBuffer : List UInt8} {size n mWritePos : UInt64}
    (reaches : n.toNat ≤ src.length) (amount : n.toNat = min size.toNat rb.room)
    (positive : n.toNat ≠ 0) (straight : n.toNat ≤ rb.getContiguousWriteSize.toNat)
    (copied : memcpy rb.mBuffer rb.mWritePos.toNat src 0 n.toNat = some mBuffer)
    (advanced : modulo (rb.mWritePos + n) rb.mCapacity = some mWritePos)
    (wf' : ({ rb with mBuffer, mWritePos } : RingBuffer).WellFormed)
    (contents' : ({ rb with mBuffer, mWritePos } : RingBuffer).contents =
      rb.contents ++ src.take n.toNat) :
    rb.writeLoop src size = some (1, n, { rb with mBuffer, mWritePos }) := by
  have space := availableWrite_toNat wf
  have shorter := contiguousWrite_le wf
  have room := room_extended wf wf' rfl reaches contents'
  have rest : (size - n).toNat = size.toNat - n.toNat :=
    UInt64.toNat_sub_of_le _ _ (UInt64.le_iff_toNat_le.mpr (by omega))
  have exhausted : (size - n).toNat = 0 ∨
      ({ rb with mBuffer, mWritePos } : RingBuffer).getContiguousWriteSize.toNat = 0 := by
    rw [contiguousWrite_eq_zero_iff wf', rest]
    omega
  rw [writeLoop_round rb (by omega) positive (by omega) copied advanced, writeLoop_stops exhausted]
  simp

/- Write in two copies is one round up to the end of the storage and one from cell 0. -/
theorem writeLoop_around {src front mBuffer : List UInt8} {size n c : UInt64}
    (reaches : n.toNat ≤ src.length) (amount : n.toNat = min size.toNat rb.room)
    (contiguous : rb.getContiguousWriteSize = c) (positive : c.toNat ≠ 0)
    (toEnd : rb.mWritePos.toNat + c.toNat = rb.mCapacity.toNat) (wraps : c.toNat < n.toNat)
    (first : memcpy rb.mBuffer rb.mWritePos.toNat src 0 c.toNat = some front)
    (second : memcpy front 0 src c.toNat (n - c).toNat = some mBuffer)
    (wf' : ({ rb with mBuffer, mWritePos := n - c } : RingBuffer).WellFormed)
    (contents' : ({ rb with mBuffer, mWritePos := n - c } : RingBuffer).contents =
      rb.contents ++ src.take n.toNat) :
    rb.writeLoop src size = some (2, n, { rb with mBuffer, mWritePos := n - c }) := by
  have space := availableWrite_toNat wf
  have full := length_add_room wf
  have rest : (n - c).toNat = n.toNat - c.toNat :=
    UInt64.toNat_sub_of_le _ _ (UInt64.le_iff_toNat_le.mpr (by omega))
  have left : (size - c).toNat = size.toNat - c.toNat :=
    UInt64.toNat_sub_of_le _ _ (UInt64.le_iff_toNat_le.mpr (by omega))
  -- the first round ends on cell 0
  obtain ⟨origin, landed, position⟩ := advance_defined wf wf.writing (n := c) (by omega)
  rw [toEnd, Nat.mod_self] at position
  obtain rfl : origin = 0 := UInt64.toNat_inj.mp position
  obtain ⟨front', origin, first', landed', wf₁, contents₁⟩ :=
    placed_straight wf src (n := c) (by omega) (by omega) (by omega)
  obtain rfl := Option.some.inj (first'.symm.trans first)
  obtain rfl := Option.some.inj (landed'.symm.trans landed)
  have space₁ := availableWrite_toNat wf₁
  have room₁ := room_extended wf wf₁ rfl (by omega) contents₁
  have contiguous₁ := contiguousWrite_toNat wf₁
  rw [if_neg (by simp only [UInt64.toNat_zero]; omega)] at contiguous₁
  have second₁ := (memcpy_drop front' 0 (n - c).toNat (by omega)).trans second
  have landed₁ : modulo (0 + (n - c)) rb.mCapacity = some (n - c) := by
    have small := wf'.writing
    rw [UInt64.zero_add, modulo_of_lt (by omega)]
    congr 1
    rw [← UInt64.toNat_inj, UInt64.toNat_mod, Nat.mod_eq_of_lt small]
  -- the second round takes the rest
  have room₂ := room_extended wf wf' rfl reaches contents'
  have exhausted : (size - c - (n - c)).toNat = 0 ∨
      ({ rb with mBuffer, mWritePos := n - c } : RingBuffer).getContiguousWriteSize.toNat = 0 := by
    rw [contiguousWrite_eq_zero_iff wf',
      UInt64.toNat_sub_of_le _ _ (UInt64.le_iff_toNat_le.mpr (by omega)), left, rest]
    omega
  have total : c + (n - c) = n := by
    have word := n.toNat_lt
    rw [← UInt64.toNat_inj, UInt64.toNat_add, rest, Nat.mod_eq_of_lt] <;> omega
  rw [writeLoop_round rb (by rw [contiguous]; omega) positive (by omega) first landed,
    writeLoop_round { rb with mBuffer := front', mWritePos := 0 } (by omega) (by omega)
      (by omega) second₁ landed₁, writeLoop_stops exhausted]
  simp [total]

theorem writeLoop_eq_write {src : List UInt8} {size : UInt64} (reaches : size.toNat ≤ src.length) :
    ∃ rounds n rb', rounds ≤ 2 ∧ rb.write (some src) size = some (n, rb') ∧
      rb.writeLoop src size = some (rounds, n, rb') := by
  have empty := contiguousWrite_eq_zero_iff wf
  have inside := contiguousWrite_inside wf
  have contiguous := contiguousWrite_toNat wf
  have accepted : (stdMin size rb.getAvailableWrite).toNat = min size.toNat rb.room := by
    rw [stdMin_toNat, availableWrite_toNat wf]
  simp only [write]
  split
  · rename_i none
    subst none
    exact ⟨0, 0, rb, by omega, rfl, writeLoop_stops (Or.inl rfl)⟩
  · generalize stdMin size rb.getAvailableWrite = n at accepted ⊢
    rename_i requested
    rw [← UInt64.toNat_inj, UInt64.toNat_zero] at requested
    split
    · rename_i none
      subst none
      rw [UInt64.toNat_zero] at accepted
      exact ⟨0, 0, rb, by omega, rfl, writeLoop_stops (Or.inr (by omega))⟩
    · rename_i positive
      rw [← UInt64.toNat_inj, UInt64.toNat_zero] at positive
      split
      · rename_i straight
        rw [UInt64.le_iff_toNat_le] at straight
        obtain ⟨mBuffer, mWritePos, copied, advanced, wf', contents'⟩ :=
          placed_straight wf src (n := n) (by omega) (by omega) (by omega)
        refine ⟨1, n, { rb with mBuffer, mWritePos }, by omega, ?_, ?_⟩
        · rw [copied, advanced]
          rfl
        · exact writeLoop_straight wf (by omega) accepted positive straight copied advanced wf'
            contents'
      · rename_i wraps
        rw [UInt64.le_iff_toNat_le] at wraps
        have toEnd : rb.mWritePos.toNat + rb.getContiguousWriteSize.toNat = rb.mCapacity.toNat := by
          split at contiguous <;> omega
        obtain ⟨front, mBuffer, first, second, wf', contents'⟩ :=
          placed_around wf src (n := n) (by omega) (by omega) toEnd (by omega)
        refine ⟨2, n, _, by omega, ?_, writeLoop_around wf (by omega) accepted rfl (by omega) toEnd
          (by omega) first second wf' contents'⟩
        rw [first, Option.bind_eq_bind, Option.bind_some, second]
        rfl

theorem readLoop_straight {dest dest' : List UInt8} {size n mReadPos : UInt64}
    (amount : n.toNat = min size.toNat rb.contents.length) (positive : n.toNat ≠ 0)
    (straight : n.toNat ≤ rb.getContiguousReadSize.toNat)
    (copied : memcpy dest 0 rb.mBuffer rb.mReadPos.toNat n.toNat = some dest')
    (advanced : modulo (rb.mReadPos + n) rb.mCapacity = some mReadPos)
    (wf' : ({ rb with mReadPos } : RingBuffer).WellFormed)
    (contents' : ({ rb with mReadPos } : RingBuffer).contents = rb.contents.drop n.toNat) :
    rb.readLoop dest 0 size = some (1, n, dest', { rb with mReadPos }) := by
  have unread := contents_length wf
  have shorter := contiguousRead_le wf
  have rest : (size - n).toNat = size.toNat - n.toNat :=
    UInt64.toNat_sub_of_le _ _ (UInt64.le_iff_toNat_le.mpr (by omega))
  have exhausted : (size - n).toNat = 0 ∨
      ({ rb with mReadPos } : RingBuffer).getContiguousReadSize.toNat = 0 := by
    rw [contiguousRead_eq_zero_iff wf', contents', List.length_drop, rest]
    omega
  rw [readLoop_round rb (by omega) positive (by omega) copied advanced, readLoop_stops exhausted]
  simp

theorem readLoop_around {dest front dest' : List UInt8} {size n c mReadPos : UInt64}
    (amount : n.toNat = min size.toNat rb.contents.length)
    (contiguous : rb.getContiguousReadSize = c)
    (toEnd : rb.mReadPos.toNat + c.toNat = rb.mCapacity.toNat) (wraps : c.toNat < n.toNat)
    (first : memcpy dest 0 rb.mBuffer rb.mReadPos.toNat c.toNat = some front)
    (second : memcpy front c.toNat rb.mBuffer 0 (n - c).toNat = some dest')
    (advanced : modulo (rb.mReadPos + n) rb.mCapacity = some mReadPos)
    (wf' : ({ rb with mReadPos } : RingBuffer).WellFormed)
    (contents' : ({ rb with mReadPos } : RingBuffer).contents = rb.contents.drop n.toNat) :
    rb.readLoop dest 0 size = some (2, n, dest', { rb with mReadPos }) := by
  have unread := contents_length wf
  have full := length_add_room wf
  have reading := wf.reading
  have rest : (n - c).toNat = n.toNat - c.toNat :=
    UInt64.toNat_sub_of_le _ _ (UInt64.le_iff_toNat_le.mpr (by omega))
  have left : (size - c).toNat = size.toNat - c.toNat :=
    UInt64.toNat_sub_of_le _ _ (UInt64.le_iff_toNat_le.mpr (by omega))
  -- the first round ends on cell 0
  obtain ⟨origin, landed, position⟩ := advance_defined wf reading (n := c) (by omega)
  obtain ⟨wf₁, contents₁⟩ := removed wf (by omega) position
  rw [toEnd, Nat.mod_self] at position
  obtain rfl : origin = 0 := UInt64.toNat_inj.mp position
  have unread₁ := contents_length wf₁
  have contiguous₁ := contiguousRead_toNat wf₁
  rw [contents₁, List.length_drop] at unread₁
  rw [if_pos (by simp only [UInt64.toNat_zero]; omega)] at contiguous₁
  -- the second round takes the rest
  obtain ⟨p, landed₁, position₁⟩ := advance_defined wf₁ wf₁.reading (n := n - c)
    (by simp only; omega)
  obtain ⟨p', advanced', position'⟩ := advance_defined wf reading (n := n) (by omega)
  obtain rfl := Option.some.inj (advanced'.symm.trans advanced)
  have same : p = p' := by
    have around : rb.mReadPos.toNat + n.toNat = rb.mCapacity.toNat + (n - c).toNat := by omega
    rw [← UInt64.toNat_inj, position₁, position', around, Nat.add_mod_left, UInt64.toNat_zero,
      Nat.zero_add]
  subst same
  have exhausted : (size - c - (n - c)).toNat = 0 ∨
      ({ rb with mReadPos := p } : RingBuffer).getContiguousReadSize.toNat = 0 := by
    rw [contiguousRead_eq_zero_iff wf', contents', List.length_drop,
      UInt64.toNat_sub_of_le _ _ (UInt64.le_iff_toNat_le.mpr (by omega)), left, rest]
    omega
  have total : c + (n - c) = n := by
    have word := n.toNat_lt
    rw [← UInt64.toNat_inj, UInt64.toNat_add, rest, Nat.mod_eq_of_lt] <;> omega
  have behind : 0 + c.toNat = c.toNat := Nat.zero_add _
  rw [readLoop_round rb (by rw [contiguous]; omega) (by omega) (by omega) first landed, behind,
    readLoop_round { rb with mReadPos := 0 } (by omega) (by omega) (by omega) second
      landed₁, readLoop_stops exhausted]
  simp [total]

theorem readLoop_eq_read {dest : List UInt8} {size : UInt64} (reaches : size.toNat ≤ dest.length) :
    ∃ rounds n dest' rb', rounds ≤ 2 ∧ rb.read (some dest) size = some (n, some dest', rb') ∧
      rb.readLoop dest 0 size = some (rounds, n, dest', rb') := by
  have unread := contents_length wf
  have full := length_add_room wf
  have reading := wf.reading
  have empty := contiguousRead_eq_zero_iff wf
  have inside := contiguousRead_inside wf
  have contiguous := contiguousRead_toNat wf
  have taken : (stdMin size rb.getAvailableRead).toNat = min size.toNat rb.contents.length := by
    rw [stdMin_toNat, unread]
  simp only [read, peek]
  split
  · rename_i none
    subst none
    exact ⟨0, 0, dest, rb, by omega, rfl, readLoop_stops (Or.inl rfl)⟩
  · generalize stdMin size rb.getAvailableRead = n at taken ⊢
    split
    · rename_i requested none
      subst none
      rw [← UInt64.toNat_inj, UInt64.toNat_zero] at requested
      rw [UInt64.toNat_zero] at taken
      exact ⟨0, 0, dest, rb, by omega, rfl, readLoop_stops (Or.inr (by omega))⟩
    · rename_i positive
      rw [← UInt64.toNat_inj, UInt64.toNat_zero] at positive
      have more : n > 0 := by
        rw [gt_iff_lt, UInt64.lt_iff_toNat_lt, UInt64.toNat_zero]
        omega
      obtain ⟨mReadPos, advanced, position⟩ := advance_defined wf reading (n := n) (by omega)
      obtain ⟨wf', contents'⟩ := removed wf (by omega) position
      split
      · rename_i straight
        rw [UInt64.le_iff_toNat_le] at straight
        obtain ⟨dest', copied⟩ : ∃ dest', memcpy dest 0 rb.mBuffer rb.mReadPos.toNat n.toNat =
            some dest' := ⟨_, memcpy_inside (by omega) (by rw [wf.size]; omega)⟩
        refine ⟨1, n, dest', { rb with mReadPos }, by omega, ?_,
          readLoop_straight wf taken positive straight copied advanced wf' contents'⟩
        rw [copied]
        simp [more, advanced]
      · rename_i wraps
        rw [UInt64.le_iff_toNat_le] at wraps
        have toEnd : rb.mReadPos.toNat + rb.getContiguousReadSize.toNat = rb.mCapacity.toNat := by
          split at contiguous <;> omega
        have rest : (n - rb.getContiguousReadSize).toNat =
            n.toNat - rb.getContiguousReadSize.toNat :=
          UInt64.toNat_sub_of_le _ _ (UInt64.le_iff_toNat_le.mpr (by omega))
        obtain ⟨front, first⟩ : ∃ front, memcpy dest 0 rb.mBuffer rb.mReadPos.toNat
            rb.getContiguousReadSize.toNat = some front :=
          ⟨_, memcpy_inside (by omega) (by rw [wf.size]; omega)⟩
        have size := memcpy_length first
        obtain ⟨dest', second⟩ : ∃ dest', memcpy front rb.getContiguousReadSize.toNat rb.mBuffer 0
            (n - rb.getContiguousReadSize).toNat = some dest' :=
          ⟨_, memcpy_inside (by omega) (by rw [wf.size]; omega)⟩
        refine ⟨2, n, dest', { rb with mReadPos }, by omega, ?_,
          readLoop_around wf taken rfl toEnd (by omega) first second advanced wf' contents'⟩
        rw [first]
        simp [second, more, advanced]

end Loops

section Commits
variable {rb : RingBuffer} (wf : rb.WellFormed)
include wf

theorem commitWrite_defined (size : UInt64) :
    ∃ rb', rb.commitWrite size = some rb' ∧ rb'.WellFormed := by
  have full := length_add_room wf
  have commit : (stdMin size rb.getAvailableWrite).toNat ≤ rb.room := by
    rw [stdMin_toNat, availableWrite_toNat wf]
    omega
  obtain ⟨p, advanced, position⟩ :=
    advance_defined wf wf.writing (n := stdMin size rb.getAvailableWrite) (by omega)
  have inside : p.toNat < rb.mCapacity.toNat := by
    rw [position]
    exact Nat.mod_lt _ (by omega)
  refine ⟨{ rb with mWritePos := p }, ?_, wf.size, wf.storable, wf.reading, inside⟩
  simp only [commitWrite, advanced]
  rfl

theorem commitRead_defined (size : UInt64) :
    ∃ rb', rb.commitRead size = some rb' ∧ rb'.WellFormed := by
  have full := length_add_room wf
  have commit : (stdMin size rb.getAvailableRead).toNat ≤ rb.contents.length := by
    rw [stdMin_toNat, contents_length wf]
    omega
  obtain ⟨p, advanced, position⟩ :=
    advance_defined wf wf.reading (n := stdMin size rb.getAvailableRead) (by omega)
  refine ⟨{ rb with mReadPos := p }, ?_, (removed wf commit position).1⟩
  simp only [commitRead, advanced]
  rfl

theorem represents :
    Represents rb ⟨rb.contents.length + rb.room, rb.contents, Nat.le_add_right _ _⟩ := by
  have full := length_add_room wf
  exact ⟨wf, full.symm, rfl⟩

end Commits

theorem Reachable.wellFormed {rb : RingBuffer} (reachable : Reachable rb) : rb.WellFormed := by
  induction reachable with
  | constructed storable => exact construct_wellFormed storable
  | called before returned wf =>
    rename_i rb rb' op reply
    obtain ⟨rb₁, returned', r⟩ := call_refines (represents wf) op
    rw [returned, Option.some.injEq, Prod.mk.injEq] at returned'
    rw [returned'.2]
    exact r.wellFormed
  | stored before region copied wf =>
    exact ⟨(memcpy_length copied).trans wf.size, wf.storable, wf.reading, wf.writing⟩
  | committedWrite before committed wf =>
    rename_i rb rb' size
    obtain ⟨rb₁, committed', wf₁⟩ := commitWrite_defined wf size
    obtain rfl := Option.some.inj (committed'.symm.trans committed)
    exact wf₁
  | committedRead before committed wf =>
    rename_i rb rb' size
    obtain ⟨rb₁, committed', wf₁⟩ := commitRead_defined wf size
    obtain rfl := Option.some.inj (committed'.symm.trans committed)
    exact wf₁
  | moveConstructed source wf => exact wf
  | moveAssigned source wf => exact wf

/-- What the zero-copy interface promises in one state. -/
structure DirectAccess (rb : RingBuffer) : Prop where
  writeSize : rb.getContiguousWriteSize ≤ rb.getAvailableWrite
  writeSize_zero : rb.getContiguousWriteSize = 0 ↔ rb.getAvailableWrite = 0
  readSize : rb.getContiguousReadSize ≤ rb.getAvailableRead
  readSize_zero : rb.getContiguousReadSize = 0 ↔ rb.getAvailableRead = 0
  writeRegion : rb.getWritePtr + rb.getContiguousWriteSize.toNat ≤ rb.mBuffer.length
  unread : ∀ i < rb.contents.length,
    ¬(rb.getWritePtr ≤ (rb.mReadPos.toNat + i) % rb.mCapacity.toNat ∧
      (rb.mReadPos.toNat + i) % rb.mCapacity.toNat <
        rb.getWritePtr + rb.getContiguousWriteSize.toNat)
  readRegion : rb.getReadPtr + rb.getContiguousReadSize.toNat ≤ rb.mBuffer.length
  nextUnread : (rb.mBuffer.drop rb.getReadPtr).take rb.getContiguousReadSize.toNat =
    rb.contents.take rb.getContiguousReadSize.toNat
  writing : ∀ (d : List UInt8) (size : UInt64), size.toNat = d.length →
    ∃ rounds n rb', rounds ≤ 2 ∧ rb.write (some d) size = some (n, rb') ∧
      rb.writeLoop d size = some (rounds, n, rb')
  reading : ∀ (dest : List UInt8) (size : UInt64), size.toNat ≤ dest.length →
    ∃ rounds n dest' rb', rounds ≤ 2 ∧ rb.read (some dest) size = some (n, some dest', rb') ∧
      rb.readLoop dest 0 size = some (rounds, n, dest', rb')

theorem zero_copy_agrees_with_copying {rb : RingBuffer} (reachable : Reachable rb) :
    DirectAccess rb := by
  have wf := reachable.wellFormed
  constructor
  · rw [UInt64.le_iff_toNat_le, availableWrite_toNat wf]
    exact contiguousWrite_le wf
  · rw [← UInt64.toNat_inj, ← UInt64.toNat_inj, availableWrite_toNat wf]
    exact contiguousWrite_eq_zero_iff wf
  · rw [UInt64.le_iff_toNat_le, ← contents_length wf]
    exact contiguousRead_le wf
  · rw [← UInt64.toNat_inj, ← UInt64.toNat_inj, ← contents_length wf]
    exact contiguousRead_eq_zero_iff wf
  · rw [wf.size]
    exact contiguousWrite_inside wf
  · intro i unread region
    have outside := unread_outside_region wf unread
    simp only [getWritePtr] at region
    omega
  · rw [wf.size]
    exact contiguousRead_inside wf
  · exact readRegion_eq wf
  · intro d size length
    exact writeLoop_eq_write wf (by omega)
  · intro dest size reaches
    exact readLoop_eq_read wf reaches

/- Four bytes in, two out: the region at the write pointer is cut by the end. -/
theorem zero_copy_agrees_when_wrapped :
    ∃ rb, rb.getContiguousWriteSize = 1 ∧ rb.getAvailableWrite = 2 ∧ DirectAccess rb := by
  have start : Reachable (construct 4) := .constructed (by decide)
  have written := @Reachable.called _ _ (.write ⟨some [1, 2, 3, 4], 4, by simp⟩) _ start rfl
  have skipped := @Reachable.called _ _ (.skip 2) _ written rfl
  exact ⟨_, by decide, by decide, zero_copy_agrees_with_copying skipped⟩

end KanchoNet.RingBuffer
