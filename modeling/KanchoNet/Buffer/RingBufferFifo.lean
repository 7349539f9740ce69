import KanchoNet.Buffer.RingBuffer
import KanchoNet.Lib.BoundedFifo

/-!
RingBuffer is a bounded first-in first-out queue of bytes. Every operation on a
well-formed buffer is defined, keeps it well-formed, and acts on the unread
bytes as the queue operation of the same name.
-/
namespace KanchoNet.RingBuffer
open CyclicWindow CheckedMemory BoundedFifo

section Positions
variable {rb : RingBuffer} (wf : rb.WellFormed)
include wf

theorem advance_defined {pos n : UInt64} (inside : pos.toNat < rb.mCapacity.toNat)
    (short : n.toNat < rb.mCapacity.toNat) :
    ∃ p, modulo (pos + n) rb.mCapacity = some p ∧
      p.toNat = (pos.toNat + n.toNat) % rb.mCapacity.toNat := by
  have := wf.storable
  refine ⟨_, modulo_of_lt (by omega), ?_⟩
  rw [UInt64.toNat_mod, UInt64.toNat_add, Nat.mod_eq_of_lt (b := 2 ^ 64) (by omega)]

theorem writePos_behind_contents :
    rb.mWritePos.toNat = (rb.mReadPos.toNat + rb.contents.length) % rb.mCapacity.toNat := by
  have := wf.reading; have := wf.writing
  have := availableRead_lt wf
  have unread := availableRead_toNat wf
  rw [contents_length wf, cell_position wf.reading (by omega)]
  split at unread <;> split <;> omega

theorem room_ahead_of_end (straight : ¬(rb.mReadPos.toNat ≤ rb.mWritePos.toNat ∧
      0 < rb.mReadPos.toNat)) :
    rb.mWritePos.toNat + rb.room < rb.mCapacity.toNat := by
  have := wf.reading
  have unread := availableRead_toNat wf
  have := length_add_room wf
  rw [contents_length wf] at this
  split at unread <;> omega

theorem extended {mBuffer data : List UInt8} (mWritePos : UInt64)
    (fits : data.length ≤ rb.room) (size : mBuffer.length = rb.mBuffer.length)
    (position : mWritePos.toNat = (rb.mWritePos.toNat + data.length) % rb.mCapacity.toNat)
    (cells : window mBuffer rb.mReadPos.toNat (rb.contents.length + data.length) =
      rb.contents ++ data) :
    ({ rb with mBuffer, mWritePos } : RingBuffer).WellFormed ∧
      ({ rb with mBuffer, mWritePos } : RingBuffer).contents = rb.contents ++ data := by
  have reading := wf.reading; have writing := wf.writing
  have full := length_add_room wf
  have extended : ({ rb with mBuffer, mWritePos } : RingBuffer).WellFormed := by
    refine ⟨size.trans wf.size, wf.storable, reading, ?_⟩
    rw [position]
    exact Nat.mod_lt _ (by omega)
  refine ⟨extended, ?_⟩
  have unread := availableRead_toNat extended
  have before := availableRead_toNat wf
  rw [cell_position writing (by omega)] at position
  rw [← contents_length wf] at before
  have length : ({ rb with mBuffer, mWritePos } : RingBuffer).getAvailableRead.toNat =
      rb.contents.length + data.length := by
    rw [unread]
    split at position <;> split at before <;> split <;> simp only at * <;> omega
  rw [contents, length]
  exact cells

theorem placed_straight (src : List UInt8) {n : UInt64} (reaches : n.toNat ≤ src.length)
    (fits : n.toNat ≤ rb.room)
    (straight : rb.mWritePos.toNat + n.toNat ≤ rb.mCapacity.toNat) :
    ∃ mBuffer mWritePos, memcpy rb.mBuffer rb.mWritePos.toNat src 0 n.toNat = some mBuffer ∧
      modulo (rb.mWritePos + n) rb.mCapacity = some mWritePos ∧
      ({ rb with mBuffer, mWritePos } : RingBuffer).WellFormed ∧
      ({ rb with mBuffer, mWritePos } : RingBuffer).contents =
        rb.contents ++ src.take n.toNat := by
  have full := length_add_room wf
  have reading := wf.reading
  have accepted : (src.take n.toNat).length = n.toNat := by
    rw [List.length_take]
    omega
  have behind := writePos_behind_contents wf
  have storage := wf.size
  rw [← storage] at reading behind straight
  obtain ⟨p, advanced, position⟩ := advance_defined wf wf.writing (n := n) (by omega)
  have target : rb.mWritePos.toNat + (src.take n.toNat).length ≤ rb.mBuffer.length := by
    rw [accepted]
    exact straight
  have cells := window_overwrite _ reading behind (by omega) target
  rw [← contents_window wf] at cells
  exact ⟨_, p, memcpy_inside straight (by omega), advanced,
    extended wf p (by omega) (overwrite_length target) (by rw [accepted]; exact position) cells⟩

/- Two copies of Write: the first one ends exactly at the end of the storage. -/
theorem placed_around (src : List UInt8) {n c : UInt64} (reaches : n.toNat ≤ src.length)
    (fits : n.toNat ≤ rb.room) (toEnd : rb.mWritePos.toNat + c.toNat = rb.mCapacity.toNat)
    (wraps : c.toNat < n.toNat) :
    ∃ front mBuffer, memcpy rb.mBuffer rb.mWritePos.toNat src 0 c.toNat = some front ∧
      memcpy front 0 src c.toNat (n - c).toNat = some mBuffer ∧
      ({ rb with mBuffer, mWritePos := n - c } : RingBuffer).WellFormed ∧
      ({ rb with mBuffer, mWritePos := n - c } : RingBuffer).contents =
        rb.contents ++ src.take n.toNat := by
  have full := length_add_room wf
  have reading := wf.reading
  have behind := writePos_behind_contents wf
  have storage := wf.size
  rw [← storage] at reading behind
  have rest : (n - c).toNat = n.toNat - c.toNat :=
    UInt64.toNat_sub_of_le _ _ (UInt64.le_iff_toNat_le.mpr (by omega))
  have accepted : (src.take n.toNat).length = n.toNat := by
    rw [List.length_take]
    omega
  have first : (src.take c.toNat).length = c.toNat := by
    rw [List.length_take]
    omega
  have second : ((src.drop c.toNat).take (n - c).toNat).length = n.toNat - c.toNat := by
    rw [List.length_take, List.length_drop, rest]
    omega
  have joined : src.take c.toNat ++ (src.drop c.toNat).take (n - c).toNat = src.take n.toNat := by
    rw [rest, ← List.take_add]
    congr 1
    omega
  have target : rb.mWritePos.toNat + (src.take c.toNat).length ≤ rb.mBuffer.length := by omega
  have size := overwrite_length target
  have cells := window_overwrite _ reading behind (by omega) target
  -- the second copy starts at cell 0, right behind the first
  have origin : 0 = (rb.mReadPos.toNat + (rb.contents.length + (src.take c.toNat).length)) %
      (overwrite rb.mBuffer rb.mWritePos.toNat (src.take c.toNat)).length := by
    rw [size, ← Nat.add_assoc, ← Nat.mod_add_mod, ← behind, first, toEnd, storage, Nat.mod_self]
  have cells' := window_overwrite ((src.drop c.toNat).take (n - c).toNat)
    (by rw [size]; exact reading) origin (by omega) (by omega)
  rw [cells, ← contents_window wf, List.append_assoc, joined, Nat.add_assoc,
    ← List.length_append, joined] at cells'
  have copied : memcpy rb.mBuffer rb.mWritePos.toNat src 0 c.toNat =
      some (overwrite rb.mBuffer rb.mWritePos.toNat (src.take c.toNat)) :=
    memcpy_inside (by omega) (by omega)
  exact ⟨_, _, copied, memcpy_inside (by omega) (by omega),
    extended wf (n - c) (by omega) ((overwrite_length (by omega)).trans size)
      (by rw [rest, accepted, Nat.mod_eq_sub_mod (by omega), Nat.mod_eq_of_lt] <;> omega) cells'⟩

theorem removed {n : Nat} {mReadPos : UInt64} (part : n ≤ rb.contents.length)
    (position : mReadPos.toNat = (rb.mReadPos.toNat + n) % rb.mCapacity.toNat) :
    ({ rb with mReadPos } : RingBuffer).WellFormed ∧
      ({ rb with mReadPos } : RingBuffer).contents = rb.contents.drop n := by
  have reading := wf.reading; have writing := wf.writing
  have full := length_add_room wf
  have moved : ({ rb with mReadPos } : RingBuffer).WellFormed := by
    refine ⟨wf.size, wf.storable, ?_, writing⟩
    rw [position]
    exact Nat.mod_lt _ (by omega)
  refine ⟨moved, ?_⟩
  have unread := availableRead_toNat moved
  have before := availableRead_toNat wf
  rw [← contents_length wf] at before
  have length : ({ rb with mReadPos } : RingBuffer).getAvailableRead.toNat =
      rb.contents.length - n := by
    rw [unread]
    rw [cell_position reading (by omega)] at position
    split at position <;> split at before <;> split <;> simp only at * <;> omega
  have cells : rb.contents.drop n = window rb.mBuffer
      ((rb.mReadPos.toNat + n) % rb.mCapacity.toNat) (rb.contents.length - n) := by
    rw [← wf.size, ← window_drop (by rw [wf.size]; omega) part, ← contents_window wf]
  rw [contents, length, cells, position]

theorem advance_removes {β : Type} (answer : RingBuffer → β) {n : UInt64}
    (part : n.toNat ≤ rb.contents.length) :
    ∃ rb', (if n > 0 then
        (modulo (rb.mReadPos + n) rb.mCapacity).bind fun mReadPos =>
          some (answer { rb with mReadPos })
      else some (answer rb)) = some (answer rb') ∧
      rb'.WellFormed ∧ rb'.mCapacity = rb.mCapacity ∧
      rb'.contents = rb.contents.drop n.toNat := by
  have full := length_add_room wf
  split
  · obtain ⟨mReadPos, advanced, position⟩ := advance_defined wf wf.reading (n := n) (by omega)
    obtain ⟨wf', contents'⟩ := removed wf part position
    exact ⟨_, by rw [advanced, Option.bind_some], wf', rfl, contents'⟩
  · rename_i none
    rw [gt_iff_lt, UInt64.lt_iff_toNat_lt, UInt64.toNat_zero] at none
    have zero : n.toNat = 0 := by omega
    exact ⟨rb, rfl, wf, rfl, by rw [zero, List.drop_zero]⟩

end Positions

section Operations
variable {rb : RingBuffer} (wf : rb.WellFormed)
include wf

/- Both branches of Write place the accepted prefix behind the unread bytes. -/
theorem write_appends {src : List UInt8} {size : UInt64} (reaches : size.toNat ≤ src.length) :
    ∃ n rb', rb.write (some src) size = some (n, rb') ∧ n.toNat = min size.toNat rb.room ∧
      rb'.WellFormed ∧ rb'.mCapacity = rb.mCapacity ∧ rb'.mReadPos = rb.mReadPos ∧
      rb'.contents = rb.contents ++ src.take n.toNat := by
  have writing := wf.writing
  have amount : (stdMin size rb.getAvailableWrite).toNat = min size.toNat rb.room := by
    rw [stdMin_toNat, availableWrite_toNat wf]
  have unchanged : ∀ n : UInt64, n.toNat = 0 → rb.contents = rb.contents ++ src.take n.toNat := by
    intro n zero
    simp [zero]
  simp only [write]
  split
  · rename_i none
    subst none
    exact ⟨0, rb, rfl, by simp, wf, rfl, rfl, unchanged 0 rfl⟩
  · generalize stdMin size rb.getAvailableWrite = n at amount ⊢
    split
    · rename_i none
      subst none
      exact ⟨0, rb, rfl, amount, wf, rfl, rfl, unchanged 0 rfl⟩
    · have contiguous := contiguousWrite_toNat wf
      split
      · rename_i straight
        rw [UInt64.le_iff_toNat_le] at straight
        have inside : rb.mWritePos.toNat + n.toNat ≤ rb.mCapacity.toNat := by
          split at contiguous
          · omega
          · have := room_ahead_of_end wf ‹_›
            omega
        obtain ⟨mBuffer, mWritePos, copied, advanced, wf', contents'⟩ :=
          placed_straight wf src (n := n) (by omega) (by omega) inside
        refine ⟨n, _, ?_, amount, wf', rfl, rfl, contents'⟩
        rw [copied, advanced]
        rfl
      · rename_i wraps
        rw [UInt64.le_iff_toNat_le] at wraps
        generalize rb.getContiguousWriteSize = c at contiguous wraps ⊢
        have toEnd : rb.mWritePos.toNat + c.toNat = rb.mCapacity.toNat := by
          split at contiguous <;> omega
        obtain ⟨front, mBuffer, first, second, wf', contents'⟩ :=
          placed_around wf src (n := n) (by omega) (by omega) toEnd (by omega)
        refine ⟨n, _, ?_, amount, wf', rfl, rfl, contents'⟩
        rw [first, Option.bind_eq_bind, Option.bind_some, second]
        rfl

theorem peek_copies {dest : List UInt8} {size : UInt64} (reaches : size.toNat ≤ dest.length) :
    ∃ n, rb.peek (some dest) size =
        some (n, some (overwrite dest 0 (rb.contents.take size.toNat))) ∧
      n.toNat = min size.toNat rb.contents.length := by
  have full := length_add_room wf
  have reading := wf.reading; have writing := wf.writing
  have amount : (stdMin size rb.getAvailableRead).toNat = min size.toNat rb.contents.length := by
    rw [stdMin_toNat, contents_length wf]
  have taken : rb.contents.take size.toNat =
      window rb.mBuffer rb.mReadPos.toNat (stdMin size rb.getAvailableRead).toNat := by
    rw [amount, contents_window wf, window_take, ← contents_window wf]
  simp only [peek]
  split
  · rename_i none
    subst none
    exact ⟨0, by simp [overwrite], by simp⟩
  · rw [taken]
    generalize stdMin size rb.getAvailableRead = n at amount ⊢
    split
    · rename_i none
      subst none
      exact ⟨0, by simp [overwrite], amount⟩
    · have contiguous := contiguousRead_toNat wf
      have unread := availableRead_toNat wf
      rw [← contents_length wf] at contiguous unread
      refine ⟨n, ?_, amount⟩
      split
      · rename_i straight
        rw [UInt64.le_iff_toNat_le] at straight
        have inside : rb.mReadPos.toNat + n.toNat ≤ rb.mBuffer.length := by
          rw [wf.size]
          split at contiguous <;> split at unread <;> omega
        rw [memcpy_window (by omega) inside]
        rfl
      · rename_i wraps
        rw [UInt64.le_iff_toNat_le] at wraps
        generalize rb.getContiguousReadSize = c at contiguous wraps ⊢
        have toEnd : rb.mReadPos.toNat + c.toNat = rb.mBuffer.length := by
          rw [wf.size]
          split at contiguous <;> omega
        have rest : (n - c).toNat = n.toNat - c.toNat :=
          UInt64.toNat_sub_of_le _ _ (UInt64.le_iff_toNat_le.mpr (by omega))
        have copied := memcpy_window_wrapped dest (n := n.toNat) (by omega) toEnd
          (by omega) (by rw [wf.size]; omega)
        simp only [Option.bind_eq_bind]
        rw [rest, ← Option.bind_assoc, copied]
        rfl

theorem read_removes {dest : List UInt8} {size : UInt64} (reaches : size.toNat ≤ dest.length) :
    ∃ n rb', rb.read (some dest) size =
        some (n, some (overwrite dest 0 (rb.contents.take size.toNat)), rb') ∧
      n.toNat = min size.toNat rb.contents.length ∧ rb'.WellFormed ∧
      rb'.mCapacity = rb.mCapacity ∧ rb'.contents = rb.contents.drop n.toNat := by
  obtain ⟨n, peeked, amount⟩ := peek_copies wf reaches
  obtain ⟨rb', advanced, wf', capacity, contents'⟩ := advance_removes wf
    (n, some (overwrite dest 0 (rb.contents.take size.toNat)), ·) (n := n) (by omega)
  refine ⟨n, rb', ?_, amount, wf', capacity, contents'⟩
  simp only [read, peeked, Option.bind_eq_bind, Option.bind_some]
  exact advanced

theorem skip_removes (size : UInt64) :
    ∃ n rb', rb.skip size = some (n, rb') ∧ n.toNat = min size.toNat rb.contents.length ∧
      rb'.WellFormed ∧ rb'.mCapacity = rb.mCapacity ∧
      rb'.contents = rb.contents.drop n.toNat := by
  have amount : (stdMin size rb.getAvailableRead).toNat = min size.toNat rb.contents.length := by
    rw [stdMin_toNat, contents_length wf]
  obtain ⟨rb', advanced, wf', capacity, contents'⟩ := advance_removes wf
    (stdMin size rb.getAvailableRead, ·) (n := stdMin size rb.getAvailableRead) (by omega)
  exact ⟨_, rb', advanced, amount, wf', capacity, contents'⟩

theorem clear_empties : rb.clear.WellFormed ∧ rb.clear.contents = [] := by
  have := wf.reading
  refine ⟨⟨wf.size, wf.storable, ?_, ?_⟩, ?_⟩
  · simp only [clear, UInt64.toNat_zero]
    omega
  · simp only [clear, UInt64.toNat_zero]
    omega
  · simp [contents, clear, getAvailableRead]

end Operations

/-- A pointer argument and its size: null, or storage of at least size bytes. -/
structure Argument where
  pointer : Option (List UInt8)
  size : UInt64
  reaches : ∀ bytes ∈ pointer, size.toNat ≤ bytes.length

namespace Argument

def offered (a : Argument) : List UInt8 :=
  match a.pointer with
  | none => []
  | some bytes => bytes.take a.size.toNat

def wanted (a : Argument) : Nat := if a.pointer.isSome then a.size.toNat else 0

theorem offered_length (a : Argument) : a.offered.length = a.wanted := by
  obtain ⟨pointer, size, reaches⟩ := a
  cases pointer with
  | none => rfl
  | some bytes =>
    have := reaches bytes rfl
    simp only [offered, wanted, List.length_take, Option.isSome_some, ↓reduceIte]
    omega

def filled (a : Argument) (data : List UInt8) : Option (List UInt8) :=
  a.pointer.map (overwrite · 0 data)

end Argument

section Calls
variable {rb : RingBuffer} (wf : rb.WellFormed)
include wf

theorem write_defined (data : Argument) :
    ∃ n rb', rb.write data.pointer data.size = some (n, rb') ∧
      n.toNat = min data.wanted rb.room ∧ rb'.WellFormed ∧ rb'.mCapacity = rb.mCapacity ∧
      rb'.mReadPos = rb.mReadPos ∧ rb'.contents = rb.contents ++ data.offered.take n.toNat := by
  obtain ⟨pointer, size, reaches⟩ := data
  cases pointer with
  | none => exact ⟨0, rb, rfl, by simp [Argument.wanted], wf, rfl, rfl, by simp⟩
  | some src =>
    obtain ⟨n, rb', written, amount, rest⟩ := write_appends wf (reaches src rfl)
    refine ⟨n, rb', written, by simpa [Argument.wanted] using amount, rest.1, rest.2.1,
      rest.2.2.1, ?_⟩
    have short : min n.toNat size.toNat = n.toNat := by omega
    rw [rest.2.2.2, Argument.offered, List.take_take, short]

theorem peek_defined (buffer : Argument) :
    ∃ n, rb.peek buffer.pointer buffer.size =
        some (n, buffer.filled (rb.contents.take buffer.wanted)) ∧
      n.toNat = min buffer.wanted rb.contents.length := by
  obtain ⟨pointer, size, reaches⟩ := buffer
  cases pointer with
  | none => exact ⟨0, rfl, by simp [Argument.wanted]⟩
  | some dest => exact peek_copies wf (reaches dest rfl)

theorem read_defined (buffer : Argument) :
    ∃ n rb', rb.read buffer.pointer buffer.size =
        some (n, buffer.filled (rb.contents.take buffer.wanted), rb') ∧
      n.toNat = min buffer.wanted rb.contents.length ∧ rb'.WellFormed ∧
      rb'.mCapacity = rb.mCapacity ∧ rb'.contents = rb.contents.drop n.toNat := by
  obtain ⟨pointer, size, reaches⟩ := buffer
  cases pointer with
  | none => exact ⟨0, rb, rfl, by simp [Argument.wanted], wf, rfl, by simp⟩
  | some dest => exact read_removes wf (reaches dest rfl)

end Calls

inductive Operation where
  | write (data : Argument)
  | read (buffer : Argument)
  | peek (buffer : Argument)
  | skip (size : UInt64)
  | clear

structure Reply where
  count : Nat
  memory : Option (List UInt8)

def call (rb : RingBuffer) : Operation → Option (Reply × RingBuffer)
  | .write data => (rb.write data.pointer data.size).map
      fun (n, rb') => (⟨n.toNat, data.pointer⟩, rb')
  | .read buffer => (rb.read buffer.pointer buffer.size).map
      fun (n, memory, rb') => (⟨n.toNat, memory⟩, rb')
  | .peek buffer => (rb.peek buffer.pointer buffer.size).map
      fun (n, memory) => (⟨n.toNat, memory⟩, rb)
  | .skip size => (rb.skip size).map fun (n, rb') => (⟨n.toNat, none⟩, rb')
  | .clear => some (⟨0, none⟩, rb.clear)

def queueCall (f : Fifo UInt8) : Operation → Reply × Fifo UInt8
  | .write data => (⟨min data.wanted f.room, data.pointer⟩, f.append data.offered)
  | .read buffer => (⟨min buffer.wanted f.queue.length, buffer.filled (f.queue.take buffer.wanted)⟩,
      f.remove buffer.wanted)
  | .peek buffer =>
    (⟨min buffer.wanted f.queue.length, buffer.filled (f.queue.take buffer.wanted)⟩, f)
  | .skip size => (⟨min size.toNat f.queue.length, none⟩, f.remove size.toNat)
  | .clear => (⟨0, none⟩, f.clear)

def calls (rb : RingBuffer) : List Operation → Option (List Reply × RingBuffer)
  | [] => some ([], rb)
  | op :: ops => do
    let (reply, rb) ← rb.call op
    let (replies, rb) ← rb.calls ops
    return (reply :: replies, rb)

def queueCalls (f : Fifo UInt8) : List Operation → List Reply × Fifo UInt8
  | [] => ([], f)
  | op :: ops =>
    let (reply, f) := queueCall f op
    let (replies, f) := queueCalls f ops
    (reply :: replies, f)

structure Represents (rb : RingBuffer) (f : Fifo UInt8) : Prop where
  wellFormed : rb.WellFormed
  capacity : rb.mCapacity.toNat = f.capacity + 1
  contents : rb.contents = f.queue

theorem Represents.room {rb : RingBuffer} {f : Fifo UInt8} (r : Represents rb f) :
    rb.room = f.room := by
  have full := RingBuffer.length_add_room r.wellFormed
  have := r.capacity
  rw [r.contents] at full
  simp only [Fifo.room]
  omega

theorem drop_min_length (q : List UInt8) (n : Nat) : q.drop (min n q.length) = q.drop n := by
  by_cases short : n ≤ q.length
  · rw [Nat.min_eq_left short]
  · rw [Nat.min_eq_right (by omega), List.drop_length, List.drop_of_length_le (by omega)]

theorem call_refines {rb : RingBuffer} {f : Fifo UInt8} (r : Represents rb f) (op : Operation) :
    ∃ rb', rb.call op = some ((queueCall f op).1, rb') ∧ Represents rb' (queueCall f op).2 := by
  have wf := r.wellFormed
  have room := r.room
  have contents := r.contents
  cases op with
  | write data =>
    obtain ⟨n, rb', written, amount, wf', capacity, _, contents'⟩ := write_defined wf data
    refine ⟨rb', by simp [call, written, queueCall, amount, room], wf', ?_, ?_⟩
    · rw [capacity, r.capacity]
      rfl
    · have take : data.offered.take n.toNat = data.offered.take f.room := by
        rw [amount, room, ← data.offered_length, Nat.min_comm, ← List.take_eq_take_min]
      rw [contents', contents, take]
      rfl
  | read buffer =>
    obtain ⟨n, rb', got, amount, wf', capacity, contents'⟩ := read_defined wf buffer
    refine ⟨rb', by simp [call, got, queueCall, amount, contents], wf', ?_, ?_⟩
    · rw [capacity, r.capacity]
      rfl
    · rw [contents', amount, contents, drop_min_length]
      rfl
  | peek buffer =>
    obtain ⟨n, got, amount⟩ := peek_defined wf buffer
    exact ⟨rb, by simp [call, got, queueCall, amount, contents], r⟩
  | skip size =>
    obtain ⟨n, rb', skipped, amount, wf', capacity, contents'⟩ := skip_removes wf size
    refine ⟨rb', by simp [call, skipped, queueCall, amount, contents], wf', ?_, ?_⟩
    · rw [capacity, r.capacity]
      rfl
    · rw [contents', amount, contents, drop_min_length]
      rfl
  | clear =>
    obtain ⟨wf', contents'⟩ := clear_empties wf
    exact ⟨rb.clear, rfl, wf', r.capacity, contents'⟩

theorem calls_refine {rb : RingBuffer} {f : Fifo UInt8} (r : Represents rb f)
    (ops : List Operation) :
    ∃ rb', rb.calls ops = some ((queueCalls f ops).1, rb') ∧
      Represents rb' (queueCalls f ops).2 := by
  induction ops generalizing rb f with
  | nil => exact ⟨rb, rfl, r⟩
  | cons op ops ih =>
    obtain ⟨rb₁, first, r₁⟩ := call_refines r op
    obtain ⟨rb₂, rest, r₂⟩ := ih r₁
    exact ⟨rb₂, by simp [calls, first, rest, queueCalls], r₂⟩

theorem write_keeps_unread {rb rb' : RingBuffer} (wf : rb.WellFormed) (data : Argument) {n : UInt64}
    (written : rb.write data.pointer data.size = some (n, rb')) {i : Nat}
    (unread : i < rb.contents.length) :
    rb'.mBuffer[(rb.mReadPos.toNat + i) % rb.mCapacity.toNat]? =
      rb.mBuffer[(rb.mReadPos.toNat + i) % rb.mCapacity.toNat]? := by
  obtain ⟨n', rb₁, written', _, wf', capacity, readPos, contents'⟩ := write_defined wf data
  obtain ⟨rfl, rfl⟩ := Prod.mk.inj (Option.some.inj (written'.symm.trans written))
  have full := length_add_room wf; have full' := length_add_room wf'
  have longer : rb.contents.length ≤ rb₁.contents.length := by
    rw [contents', List.length_append]
    omega
  have cell : rb₁.contents[i]? = rb.contents[i]? := by
    rw [contents', List.getElem?_append_left unread]
  rw [contents_window wf', contents_window wf, window_getElem? (by omega) (by rw [wf'.size]; omega),
    window_getElem? unread (by rw [wf.size]; omega), wf'.size, wf.size, capacity, readPos] at cell
  exact cell

/-- What holds in every state a run reaches: the representation invariant,
    the size queries, and unread bytes left alone by a further Write. -/
structure QueueState (requested : UInt64) (rb : RingBuffer) (q : List UInt8) : Prop where
  storage : rb.mBuffer.length = rb.mCapacity.toNat
  capacity : rb.mCapacity.toNat = requested.toNat + 1
  reading : rb.mReadPos < rb.mCapacity
  writing : rb.mWritePos < rb.mCapacity
  contents : rb.contents = q
  availableRead : rb.getAvailableRead.toNat = q.length
  total : rb.getAvailableRead.toNat + rb.getAvailableWrite.toNat = requested.toNat
  unread : ∀ (data : Argument) (n : UInt64) (rb' : RingBuffer),
    rb.write data.pointer data.size = some (n, rb') → ∀ i < q.length,
      rb'.mBuffer[(rb.mReadPos.toNat + i) % rb.mCapacity.toNat]? =
        rb.mBuffer[(rb.mReadPos.toNat + i) % rb.mCapacity.toNat]?

theorem Represents.queueState {capacity : UInt64} {rb : RingBuffer} {f : Fifo UInt8}
    (r : Represents rb f) (size : f.capacity = capacity.toNat) :
    QueueState capacity rb f.queue := by
  have wf := r.wellFormed
  have length := contents_length wf
  have full := RingBuffer.length_add_room wf
  have slots := r.capacity
  refine ⟨wf.size, by omega, UInt64.lt_iff_toNat_lt.mpr wf.reading,
    UInt64.lt_iff_toNat_lt.mpr wf.writing, r.contents, ?_, ?_, ?_⟩
  · rw [← length, r.contents]
  · rw [← length, availableWrite_toNat wf]
    omega
  · intro data n rb' written i unread
    exact write_keeps_unread wf data written (by rw [r.contents]; exact unread)

theorem queueCalls_capacity (f : Fifo UInt8) (ops : List Operation) :
    (queueCalls f ops).2.capacity = f.capacity := by
  induction ops generalizing f with
  | nil => rfl
  | cons op ops ih =>
    rw [show (queueCalls f (op :: ops)).2 = (queueCalls (queueCall f op).2 ops).2 from rfl, ih]
    cases op <;> rfl

/-- Every run of calls is defined, so no memcpy leaves its range and no remainder
    is by zero, and it replies as the bounded queue does. -/
theorem ring_buffer_is_bounded_queue (capacity : UInt64)
    (storable : capacity.toNat + 1 ≤ 2 ^ 63 - 1) (ops : List Operation) :
    ∃ rb, (construct capacity).calls ops =
        some ((queueCalls (Fifo.empty capacity.toNat) ops).1, rb) ∧
      QueueState capacity rb (queueCalls (Fifo.empty capacity.toNat) ops).2.queue := by
  have start : Represents (construct capacity) (Fifo.empty capacity.toNat) := by
    refine ⟨construct_wellFormed storable, ?_, construct_contents capacity⟩
    simp only [construct, UInt64.toNat_add, UInt64.toNat_one, Fifo.empty]
    omega
  obtain ⟨rb, run, r⟩ := calls_refine start ops
  exact ⟨rb, run, r.queueState (queueCalls_capacity _ ops)⟩

/- Three bytes in, two out, three more across the end of the storage. -/
theorem ring_buffer_wraps_at_four :
    ∃ rb, (construct 4).calls
        [.write ⟨some [1, 2, 3], 3, by simp⟩, .skip 2, .write ⟨some [4, 5, 6], 3, by simp⟩] =
        some ([⟨3, some [1, 2, 3]⟩, ⟨2, none⟩, ⟨3, some [4, 5, 6]⟩], rb) ∧
      QueueState 4 rb [3, 4, 5, 6] :=
  ring_buffer_is_bounded_queue 4 (by decide) _

end KanchoNet.RingBuffer
