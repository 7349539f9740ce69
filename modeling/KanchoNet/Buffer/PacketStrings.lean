import KanchoNet.Buffer.PacketStorage
import KanchoNet.Buffer.RingBufferFifo

/-!
Packet buffers are byte strings. A program's buffers are numbered in the order they
are made; a call changes the strings of the buffers it names and of no others,
whatever memory its vectors find.
-/
namespace KanchoNet
open GrowableArrays CyclicWindow
open RingBuffer (Argument)

namespace PacketStorage

def Inside (p : PacketStorage) : Prop := p.mSize.toNat ≤ p.mData.elements.length

def contents (p : PacketStorage) : List UInt8 := p.mData.elements.take p.mSize.toNat

theorem contents_length {p : PacketStorage} (inside : p.Inside) :
    p.contents.length = p.mSize.toNat := by
  rw [contents, List.length_take, Nat.min_eq_left inside]

@[simp] theorem clear_contents (p : PacketStorage) : p.clear.contents = [] := List.take_zero

theorem clear_inside (p : PacketStorage) : p.clear.Inside := Nat.zero_le _

theorem copied_contents (pos : Nat) {mData : GrowableArray UInt8} {data : List UInt8}
    {newSize : UInt64} (ends : pos + data.length = newSize.toNat)
    (size : mData.elements.length = newSize.toNat) {copied : GrowableArray UInt8}
    (written : copied.elements = overwrite mData.elements pos data) :
    (⟨copied, newSize⟩ : PacketStorage).Inside ∧
      (⟨copied, newSize⟩ : PacketStorage).contents = mData.elements.take pos ++ data := by
  have length : (overwrite mData.elements pos data).length = mData.elements.length :=
    overwrite_length (by omega)
  constructor
  · rw [Inside, written]
    simp only [length]
    omega
  · have whole : copied.elements.length ≤ newSize.toNat := by
      rw [written, length]
      omega
    simp only [contents, List.take_of_length_le whole]
    rw [written, overwrite, List.drop_of_length_le (by omega), List.append_nil]

theorem reserve_contents (memory : Option Nat) (capacity : UInt64) {p : PacketStorage}
    (inside : p.Inside) : ∃ done q, p.reserve memory capacity = (done, q) ∧ q.Inside ∧
      q.contents = p.contents := by
  unfold reserve
  split
  · exact ⟨_, _, rfl, inside, rfl⟩
  · rename_i mData reserved
    have kept := (GrowableArray.reserve_some reserved).1
    refine ⟨_, _, rfl, ?_, ?_⟩
    · rw [Inside, kept]
      exact inside
    · rw [contents, kept]
      rfl

theorem resize_contents (memory : Option Nat) (newSize : UInt64) {p : PacketStorage}
    (inside : p.Inside) : ∃ done q, p.resize memory newSize = (done, q) ∧ q.Inside ∧
      (done = true → q.contents.length = newSize.toNat ∧
        ∀ k ≤ min newSize.toNat p.contents.length, q.contents.take k = p.contents.take k) ∧
      (done = false → q = p) := by
  have length := contents_length inside
  unfold resize
  split
  · exact ⟨_, _, rfl, inside, by simp, fun _ => rfl⟩
  · rename_i mData longer
    have elements := (GrowableArray.resize_some longer).1
    have inside' : (⟨mData, newSize⟩ : PacketStorage).Inside := by
      rw [Inside, elements, resized_length]
    refine ⟨_, _, rfl, inside', ?_, by simp⟩
    intro done
    refine ⟨contents_length inside', ?_⟩
    intro k part
    unfold Inside at inside
    rw [contents, contents, List.take_take, List.take_take, Nat.min_eq_left (by simp only; omega),
      Nat.min_eq_left (by omega), elements, resized_take 0 (by omega) (by omega)]

theorem setData_contents (memory : Option Nat) (data : Argument) (p : PacketStorage) :
    ∃ done q, p.setData memory data.pointer data.size = some (done, q) ∧ q.Inside ∧
      (done = true → q.contents = data.offered) ∧ (done = false → q = p.clear) := by
  obtain ⟨pointer, size, reaches⟩ := data
  cases pointer with
  | none => exact ⟨_, _, rfl, p.clear_inside, fun _ => p.clear_contents, by simp⟩
  | some src =>
    have reaches := reaches src rfl
    simp only [setData, Argument.offered]
    split
    · rename_i empty
      subst empty
      exact ⟨_, _, rfl, p.clear_inside, fun _ => p.clear_contents, by simp⟩
    · split
      · exact ⟨_, _, rfl, p.clear_inside, by simp, fun _ => rfl⟩
      · rename_i mData longer
        have length : mData.elements.length = size.toNat := by
          rw [(GrowableArray.resize_some longer).1, resized_length]
        obtain ⟨copied, written, elements, _⟩ :=
          GrowableArray.memcpy_inside 0 size.toNat src mData (by omega) reaches
        have placed := copied_contents 0 (by rw [List.length_take]; omega) length elements
        refine ⟨true, _, by rw [written]; rfl, placed.1, ?_, by simp⟩
        intro _
        rw [placed.2, List.take_zero, List.nil_append]

/- Append adds the source behind the old bytes, whatever the resize does to the rest of
   the vector. -/
theorem append_contents (memory : Memory) (data : Argument) {p : PacketStorage}
    (inside : p.Inside) (fits : p.mSize.toNat + data.size.toNat < 2 ^ 64) :
    ∃ done q, p.append memory data.pointer data.size = some (done, q) ∧ q.Inside ∧
      (done = true → q.contents = p.contents ++ data.offered) ∧
      (done = false → q.contents = p.contents) := by
  obtain ⟨pointer, size, reaches⟩ := data
  have same : p.contents = p.contents ++ [] := (List.append_nil _).symm
  cases pointer with
  | none => exact ⟨_, _, rfl, inside, fun _ => same, by simp⟩
  | some src =>
    have reaches := reaches src rfl
    have newSize : (p.mSize + size).toNat = p.mSize.toNat + size.toNat := by
      rw [UInt64.toNat_add, Nat.mod_eq_of_lt fits]
    simp only [append, Argument.offered]
    split
    · rename_i empty
      subst empty
      exact ⟨_, _, rfl, inside, fun _ => same, by simp⟩
    · split
      · exact ⟨_, _, rfl, inside, by simp, fun _ => rfl⟩
      · rename_i reserved held
        have kept : reserved.elements = p.mData.elements := by
          split at held
          · exact (GrowableArray.reserve_some held).1
          · cases held
            rfl
        split
        · refine ⟨_, _, rfl, ?_, by simp, ?_⟩
          · rw [Inside, kept]
            exact inside
          · intro _
            rw [contents, kept]
            rfl
        · rename_i mData longer
          have elements := (GrowableArray.resize_some longer).1
          have length : mData.elements.length = (p.mSize + size).toNat := by
            rw [elements, resized_length]
          obtain ⟨copied, written, placed, _⟩ :=
            GrowableArray.memcpy_inside p.mSize.toNat size.toNat src mData (by omega) reaches
          have old : mData.elements.take p.mSize.toNat = p.contents := by
            rw [elements, kept, resized_take 0 (by omega) inside]
            rfl
          have joined := copied_contents _ (by rw [List.length_take]; omega) length placed
          refine ⟨true, _, by rw [written]; rfl, joined.1, ?_, by simp⟩
          intro _
          rw [joined.2, old]

theorem appendBuffer_contents (memory : Memory) {p other : PacketStorage} (inside : p.Inside)
    (inside' : other.Inside) (fits : p.mSize.toNat + other.mSize.toNat < 2 ^ 64) :
    ∃ done q, p.appendBuffer memory other = some (done, q) ∧ q.Inside ∧
      (done = true → q.contents = p.contents ++ other.contents) ∧
      (done = false → q.contents = p.contents) := by
  unfold appendBuffer
  split
  · rename_i empty
    have nothing : other.contents = [] := by
      rw [contents, empty]
      exact List.take_zero
    exact ⟨_, _, rfl, inside, fun _ => by rw [nothing, List.append_nil], by simp⟩
  · have reaches : ∀ bytes ∈ some other.mData.elements, other.mSize.toNat ≤ bytes.length := by
      intro bytes same
      cases same
      exact inside'
    exact append_contents memory ⟨some other.mData.elements, other.mSize, reaches⟩ inside fits

theorem constructBytes_contents (memory : Option Nat) (data : Argument) :
    ∃ made, constructBytes memory data.pointer data.size = some made ∧
      ∀ q ∈ made, q.Inside ∧ q.contents.length = data.size.toNat ∧
        (data.pointer.isSome → q.contents = data.offered) := by
  obtain ⟨pointer, size, reaches⟩ := data
  unfold constructBytes
  split
  · exact ⟨none, rfl, by simp⟩
  · rename_i mData longer
    have length : mData.elements.length = size.toNat := by
      rw [(GrowableArray.resize_some longer).1, resized_length]
    have inside : (⟨mData, size⟩ : PacketStorage).Inside := by
      rw [Inside, length]
    cases pointer with
    | none =>
      refine ⟨_, rfl, ?_⟩
      rintro q ⟨⟩
      exact ⟨inside, contents_length inside, by simp⟩
    | some src =>
      have reaches := reaches src rfl
      simp only [Argument.offered]
      split
      · obtain ⟨copied, written, elements, _⟩ :=
          GrowableArray.memcpy_inside 0 size.toNat src mData (by omega) reaches
        have placed := copied_contents 0 (by rw [List.length_take]; omega) length elements
        refine ⟨_, by rw [written]; rfl, ?_⟩
        rintro q ⟨⟩
        refine ⟨placed.1, contents_length placed.1, ?_⟩
        intro _
        rw [placed.2, List.take_zero, List.nil_append]
      · rename_i empty
        rw [gt_iff_lt, UInt64.lt_iff_toNat_lt, UInt64.toNat_zero] at empty
        have zero : size.toNat = 0 := by omega
        refine ⟨_, rfl, ?_⟩
        rintro q ⟨⟩
        refine ⟨inside, contents_length inside, ?_⟩
        intro _
        rw [contents, zero, List.take_zero, List.take_zero]

theorem construct_contents {memory : Option Nat} {initialCapacity : UInt64} {q : PacketStorage}
    (made : construct memory initialCapacity = some q) : q.Inside ∧ q.contents = [] := by
  obtain ⟨mData, _, rfl⟩ := Option.map_eq_some_iff.mp made
  exact ⟨Nat.zero_le _, List.take_zero⟩

theorem copy_contents {memory : Option Nat} {other q : PacketStorage} (inside : other.Inside)
    (made : copy memory other = some q) : q.Inside ∧ q.contents = other.contents := by
  obtain ⟨mData, assigned, rfl⟩ := Option.map_eq_some_iff.mp made
  have elements := (GrowableArray.assign_some assigned).1
  constructor
  · rw [Inside, elements]
    exact inside
  · rw [contents, elements]
    rfl

theorem assign_contents (memory : Option Nat) {p other : PacketStorage} (inside : p.Inside)
    (inside' : other.Inside) : ∃ done q, p.assign memory other = (done, q) ∧ q.Inside ∧
      (done = true → q.contents = other.contents) ∧ (done = false → q = p) := by
  unfold assign
  split
  · exact ⟨_, _, rfl, inside, by simp, fun _ => rfl⟩
  · rename_i mData assigned
    have elements := (GrowableArray.assign_some assigned).1
    refine ⟨_, _, rfl, ?_, ?_, by simp⟩
    · rw [Inside, elements]
      exact inside'
    · intro _
      rw [contents, elements]
      rfl

theorem append_granted {memory : Memory} {data : Option (List UInt8)} {size : UInt64}
    {p q : PacketStorage} {done : Bool} (reserving : memory.reserving.isSome)
    (resizing : memory.resizing.isSome) (called : p.append memory data size = some (done, q)) :
    done = true := by
  unfold append at called
  split at called
  · cases called
    rfl
  · split at called
    · cases called
      rfl
    · dsimp only at called
      split at called
      · rename_i refused
        split at refused
        · exact absurd refused (GrowableArray.reserve_ne_none reserving _ _)
        · cases refused
      · split at called
        · rename_i refused
          exact absurd refused (GrowableArray.resize_ne_none 0 resizing _ _)
        · obtain ⟨_, _, same⟩ := Option.map_eq_some_iff.mp called
          cases same
          rfl

theorem appendBuffer_granted {memory : Memory} {p other q : PacketStorage} {done : Bool}
    (reserving : memory.reserving.isSome) (resizing : memory.resizing.isSome)
    (called : p.appendBuffer memory other = some (done, q)) : done = true := by
  unfold appendBuffer at called
  split at called
  · cases called
    rfl
  · exact append_granted reserving resizing called

theorem setData_granted {memory : Option Nat} {data : Option (List UInt8)} {size : UInt64}
    {p q : PacketStorage} {done : Bool} (granted : memory.isSome)
    (called : p.setData memory data size = some (done, q)) : done = true := by
  unfold setData at called
  dsimp only at called
  split at called
  · cases called
    rfl
  · split at called
    · cases called
      rfl
    · split at called
      · rename_i refused
        exact absurd refused (GrowableArray.resize_ne_none 0 granted _ _)
      · obtain ⟨_, _, same⟩ := Option.map_eq_some_iff.mp called
        cases same
        rfl

theorem reserve_granted {memory : Option Nat} (granted : memory.isSome) (capacity : UInt64)
    (p : PacketStorage) : (p.reserve memory capacity).1 = true := by
  unfold reserve
  split
  · rename_i refused
    exact absurd refused (GrowableArray.reserve_ne_none granted _ _)
  · rfl

theorem resize_granted {memory : Option Nat} (granted : memory.isSome) (newSize : UInt64)
    (p : PacketStorage) : (p.resize memory newSize).1 = true := by
  unfold resize
  split
  · rename_i refused
    exact absurd refused (GrowableArray.resize_ne_none 0 granted _ _)
  · rfl

theorem assign_granted {memory : Option Nat} (granted : memory.isSome)
    (p other : PacketStorage) : (p.assign memory other).1 = true := by
  unfold assign
  split
  · rename_i refused
    exact absurd refused (GrowableArray.assign_ne_none granted _ _)
  · rfl

theorem constructBytes_granted {memory : Option Nat} {data : Option (List UInt8)} {size : UInt64}
    {made : Option PacketStorage} (granted : memory.isSome)
    (constructed : constructBytes memory data size = some made) : made ≠ none := by
  rintro rfl
  unfold constructBytes at constructed
  split at constructed
  · rename_i refused
    exact absurd refused (GrowableArray.resize_ne_none 0 granted _ _)
  · split at constructed
    · cases constructed
    · split at constructed
      · obtain ⟨_, _, same⟩ := Option.map_eq_some_iff.mp constructed
        cases same
      · cases constructed

theorem movedFrom_contents : movedFrom.Inside ∧ movedFrom.contents = [] :=
  ⟨Nat.zero_le _, List.take_zero⟩

end PacketStorage

/-- The calls of a program on its buffers. Raw bytes are storage of their own. -/
inductive BufferCall where
  | construct (initialCapacity : UInt64)
  | constructBytes (data : Argument)
  | copyConstruct (other : Nat)
  | moveConstruct (other : Nat)
  | copyAssign (buffer other : Nat)
  | moveAssign (buffer other : Nat)
  | append (buffer : Nat) (data : Argument)
  | appendBuffer (buffer other : Nat)
  | setData (buffer : Nat) (data : Argument)
  | clear (buffer : Nat)
  | reserve (buffer : Nat) (capacity : UInt64)
  | resize (buffer : Nat) (newSize : UInt64)

abbrev Buffers := List PacketStorage

namespace Buffers

def on (buffers : Buffers) (buffer : Nat)
    (f : PacketStorage → Option (Bool × PacketStorage)) : Option (Bool × Buffers) := do
  let p ← buffers[buffer]?
  let (done, q) ← f p
  return (done, buffers.set buffer q)

def make (buffers : Buffers) (made : Option PacketStorage) : Bool × Buffers :=
  match made with
  | none => (false, buffers)
  | some q => (true, buffers ++ [q])

/-- The buffers after a call, with false when it throws; none is a memcpy outside the
    vector, or a buffer that does not exist. -/
def perform (memory : Memory) (buffers : Buffers) : BufferCall → Option (Bool × Buffers)
  | .construct initialCapacity =>
    some (buffers.make (PacketStorage.construct memory.reserving initialCapacity))
  | .constructBytes data =>
    (PacketStorage.constructBytes memory.resizing data.pointer data.size).map buffers.make
  | .copyConstruct other => do
    let q ← buffers[other]?
    return buffers.make (PacketStorage.copy memory.resizing q)
  | .moveConstruct other => do
    let q ← buffers[other]?
    return (true, buffers.set other q.moveConstruct.2 ++ [q.moveConstruct.1])
  | .copyAssign buffer other => do
    let q ← buffers[other]?
    buffers.on buffer fun p =>
      some (if buffer = other then (true, p) else p.assign memory.resizing q)
  | .moveAssign buffer other => do
    let p ← buffers[buffer]?
    let q ← buffers[other]?
    return (true, if buffer = other then buffers
      else (buffers.set other (p.moveAssign q).2).set buffer (p.moveAssign q).1)
  | .append buffer data => buffers.on buffer fun p => p.append memory data.pointer data.size
  | .appendBuffer buffer other => do
    let q ← buffers[other]?
    buffers.on buffer fun p => p.appendBuffer memory q
  | .setData buffer data =>
    buffers.on buffer fun p => p.setData memory.resizing data.pointer data.size
  | .clear buffer => buffers.on buffer fun p => some (true, p.clear)
  | .reserve buffer capacity =>
    buffers.on buffer fun p => some (p.reserve memory.reserving capacity)
  | .resize buffer newSize =>
    buffers.on buffer fun p => some (p.resize memory.resizing newSize)

/-- The buffers named exist; Append has its source outside the buffer, and the sizes
    together are below 2^62. -/
def Allowed (buffers : Buffers) : BufferCall → Prop
  | .construct _ | .constructBytes _ => True
  | .copyConstruct other | .moveConstruct other => other < buffers.length
  | .copyAssign buffer other | .moveAssign buffer other =>
    buffer < buffers.length ∧ other < buffers.length
  | .append buffer data =>
    ∃ p, buffers[buffer]? = some p ∧ p.mSize.toNat + data.size.toNat < 2 ^ 62
  | .appendBuffer buffer other => buffer ≠ other ∧
    ∃ p q, buffers[buffer]? = some p ∧ buffers[other]? = some q ∧
      p.mSize.toNat + q.mSize.toNat < 2 ^ 62
  | .setData buffer _ | .clear buffer | .reserve buffer _ | .resize buffer _ =>
    buffer < buffers.length

def Granted (memory : Memory) : BufferCall → Prop
  | .construct _ | .reserve _ _ => memory.reserving.isSome
  | .append _ _ | .appendBuffer _ _ => memory.reserving.isSome ∧ memory.resizing.isSome
  | .constructBytes _ | .copyConstruct _ | .copyAssign _ _ | .setData _ _ | .resize _ _ =>
    memory.resizing.isSome
  | .moveConstruct _ | .moveAssign _ _ | .clear _ => True

def strings (buffers : Buffers) : List (List UInt8) := buffers.map PacketStorage.contents

inductive Reachable : Buffers → Prop where
  | none : Reachable []
  | performed {buffers buffers' : Buffers} {memory : Memory} {call : BufferCall} {done : Bool}
      (before : Reachable buffers) (allowed : buffers.Allowed call)
      (next : buffers.perform memory call = some (done, buffers')) : Reachable buffers'

end Buffers

/-- What a call that does not throw means for the strings. Every string not named
    stays as it is. -/
def StringEffect (before after : List (List UInt8)) : BufferCall → Prop
  | .construct _ => after = before ++ [[]]
  | .constructBytes data => ∃ bytes, after = before ++ [bytes] ∧
      bytes.length = data.size.toNat ∧ (data.pointer.isSome → bytes = data.offered)
  | .copyConstruct other => ∃ bytes, before[other]? = some bytes ∧ after = before ++ [bytes]
  | .moveConstruct other => ∃ bytes, before[other]? = some bytes ∧
      after = before.set other [] ++ [bytes]
  | .copyAssign buffer other => ∃ bytes, before[other]? = some bytes ∧
      after = before.set buffer bytes
  | .moveAssign buffer other => ∃ bytes, before[other]? = some bytes ∧
      after = if buffer = other then before else (before.set other []).set buffer bytes
  | .append buffer data => ∃ old, before[buffer]? = some old ∧
      after = before.set buffer (old ++ data.offered)
  | .appendBuffer buffer other => ∃ old bytes, before[buffer]? = some old ∧
      before[other]? = some bytes ∧ after = before.set buffer (old ++ bytes)
  | .setData buffer data => after = before.set buffer data.offered
  | .clear buffer => after = before.set buffer []
  | .reserve _ _ => after = before
  | .resize buffer newSize => ∃ old bytes, before[buffer]? = some old ∧
      after = before.set buffer bytes ∧ bytes.length = newSize.toNat ∧
      bytes.take (min newSize.toNat old.length) = old.take (min newSize.toNat old.length)

/-- A call that throws changes no string, but for the one SetData has cleared. -/
def ThrowEffect (before after : List (List UInt8)) : BufferCall → Prop
  | .setData buffer _ => after = before.set buffer []
  | _ => after = before

namespace Buffers

theorem strings_set (buffers : Buffers) (buffer : Nat) (q : PacketStorage) :
    strings (buffers.set buffer q) = (strings buffers).set buffer q.contents := List.map_set

theorem strings_append (buffers : Buffers) (q : PacketStorage) :
    strings (buffers ++ [q]) = strings buffers ++ [q.contents] := List.map_append

theorem strings_getElem? {buffers : Buffers} {buffer : Nat} {p : PacketStorage}
    (found : buffers[buffer]? = some p) : (strings buffers)[buffer]? = some p.contents := by
  simp [strings, found]

theorem strings_set_same {buffers : Buffers} {buffer : Nat} {p q : PacketStorage}
    (found : buffers[buffer]? = some p) (same : q.contents = p.contents) :
    strings (buffers.set buffer q) = strings buffers := by
  obtain ⟨inside, here⟩ := List.getElem?_eq_some_iff.mp (strings_getElem? found)
  rw [strings_set, same, ← here]
  exact List.set_getElem_self inside

def AllInside (buffers : Buffers) : Prop := ∀ p ∈ buffers, p.Inside

theorem allInside_set {buffers : Buffers} {buffer : Nat} {q : PacketStorage}
    (inside : buffers.AllInside) (changed : q.Inside) : AllInside (buffers.set buffer q) := by
  intro p member
  rcases List.mem_or_eq_of_mem_set member with old | rfl
  · exact inside p old
  · exact changed

theorem allInside_append {buffers : Buffers} {q : PacketStorage} (inside : buffers.AllInside)
    (made : q.Inside) : AllInside (buffers ++ [q]) := by
  intro p member
  rcases List.mem_append.mp member with old | new
  · exact inside p old
  · rw [List.mem_singleton] at new
    exact new ▸ made

theorem on_called {buffers : Buffers} {buffer : Nat} {p q : PacketStorage} {done : Bool}
    {f : PacketStorage → Option (Bool × PacketStorage)} (found : buffers[buffer]? = some p)
    (called : f p = some (done, q)) :
    buffers.on buffer f = some (done, buffers.set buffer q) := by
  simp [on, found, called]

/-- What every allowed call does: it is defined, and it is the call on the strings. -/
structure Performs (memory : Memory) (buffers : Buffers) (call : BufferCall) (done : Bool)
    (buffers' : Buffers) : Prop where
  defined : buffers.perform memory call = some (done, buffers')
  inside : buffers'.AllInside
  effect : done = true → StringEffect buffers.strings buffers'.strings call
  thrown : done = false → ThrowEffect buffers.strings buffers'.strings call

section Calls
variable {buffers : Buffers} (inside : buffers.AllInside) (memory : Memory)
include inside

theorem construct_performs (initialCapacity : UInt64) :
    ∃ done buffers', Performs memory buffers (.construct initialCapacity) done buffers' := by
  cases made : PacketStorage.construct memory.reserving initialCapacity with
  | none =>
    refine ⟨false, buffers, by simp [perform, made, make], inside, by simp, ?_⟩
    intro _
    exact rfl
  | some q =>
    obtain ⟨fits, empty⟩ := PacketStorage.construct_contents made
    refine ⟨true, buffers ++ [q], by simp [perform, made, make], allInside_append inside fits,
      ?_, by simp⟩
    intro _
    rw [StringEffect, strings_append, empty]

theorem constructBytes_performs (data : Argument) :
    ∃ done buffers', Performs memory buffers (.constructBytes data) done buffers' := by
  obtain ⟨made, constructed, spec⟩ := PacketStorage.constructBytes_contents memory.resizing data
  cases made with
  | none =>
    refine ⟨false, buffers, by simp [perform, constructed, make], inside, by simp, ?_⟩
    intro _
    exact rfl
  | some q =>
    obtain ⟨fits, length, bytes⟩ := spec q rfl
    refine ⟨true, buffers ++ [q], by simp [perform, constructed, make],
      allInside_append inside fits, ?_, by simp⟩
    intro _
    exact ⟨q.contents, strings_append buffers q, length, bytes⟩

theorem copyConstruct_performs {other : Nat} (allowed : other < buffers.length) :
    ∃ done buffers', Performs memory buffers (.copyConstruct other) done buffers' := by
  have found := List.getElem?_eq_getElem allowed
  cases made : PacketStorage.copy memory.resizing buffers[other] with
  | none =>
    refine ⟨false, buffers, by simp [perform, allowed, made, make], inside, by simp, ?_⟩
    intro _
    exact rfl
  | some q =>
    obtain ⟨fits, same⟩ := PacketStorage.copy_contents (inside _ (List.getElem_mem allowed)) made
    refine ⟨true, buffers ++ [q], by simp [perform, allowed, made, make],
      allInside_append inside fits, ?_, by simp⟩
    intro _
    exact ⟨_, strings_getElem? found, by rw [strings_append, same]⟩

theorem moveConstruct_performs {other : Nat} (allowed : other < buffers.length) :
    ∃ done buffers', Performs memory buffers (.moveConstruct other) done buffers' := by
  have found := List.getElem?_eq_getElem allowed
  obtain ⟨fits, empty⟩ := PacketStorage.movedFrom_contents
  refine ⟨true, buffers.set other PacketStorage.movedFrom ++ [buffers[other]],
    by simp [perform, allowed, PacketStorage.moveConstruct],
    allInside_append (allInside_set inside fits) (inside _ (List.getElem_mem allowed)), ?_, by simp⟩
  intro _
  exact ⟨_, strings_getElem? found, by rw [strings_append, strings_set, empty]⟩

theorem copyAssign_performs {buffer other : Nat} (target : buffer < buffers.length)
    (source : other < buffers.length) :
    ∃ done buffers', Performs memory buffers (.copyAssign buffer other) done buffers' := by
  have found := List.getElem?_eq_getElem target
  have found' := List.getElem?_eq_getElem source
  by_cases same : buffer = other
  · subst same
    refine ⟨true, buffers.set buffer buffers[buffer], by simp [perform, on, target],
      allInside_set inside (inside _ (List.getElem_mem target)), ?_, by simp⟩
    intro _
    exact ⟨_, strings_getElem? found, by rw [strings_set]⟩
  · obtain ⟨done, q, assigned, fits, copied, kept⟩ := PacketStorage.assign_contents memory.resizing
      (inside _ (List.getElem_mem target)) (inside _ (List.getElem_mem source))
    refine ⟨done, buffers.set buffer q, by simp [perform, on, target, source, same, assigned],
      allInside_set inside fits, ?_, ?_⟩
    · intro success
      exact ⟨_, strings_getElem? found', by rw [strings_set, copied success]⟩
    · intro failure
      exact strings_set_same found (by rw [kept failure])

theorem moveAssign_performs {buffer other : Nat} (target : buffer < buffers.length)
    (source : other < buffers.length) :
    ∃ done buffers', Performs memory buffers (.moveAssign buffer other) done buffers' := by
  have found := List.getElem?_eq_getElem source
  obtain ⟨fits, empty⟩ := PacketStorage.movedFrom_contents
  by_cases same : buffer = other
  · refine ⟨true, buffers, by simp [perform, source, same], inside, ?_, by simp⟩
    intro _
    exact ⟨_, strings_getElem? found, (if_pos same).symm⟩
  · refine ⟨true, (buffers.set other PacketStorage.movedFrom).set buffer buffers[other],
      by simp [perform, target, source, same, PacketStorage.moveAssign],
      allInside_set (allInside_set inside fits) (inside _ (List.getElem_mem source)), ?_, by simp⟩
    intro _
    refine ⟨_, strings_getElem? found, ?_⟩
    rw [if_neg same, strings_set, strings_set, empty]

theorem append_performs {buffer : Nat} {data : Argument} {p : PacketStorage}
    (found : buffers[buffer]? = some p)
    (small : p.mSize.toNat + data.size.toNat < 2 ^ 62) :
    ∃ done buffers', Performs memory buffers (.append buffer data) done buffers' := by
  obtain ⟨done, q, called, fits, appended, kept⟩ :=
    PacketStorage.append_contents memory data (inside p (List.mem_of_getElem? found)) (by omega)
  refine ⟨done, buffers.set buffer q, on_called found called, allInside_set inside fits, ?_, ?_⟩
  · intro success
    exact ⟨_, strings_getElem? found, by rw [strings_set, appended success]⟩
  · intro failure
    exact strings_set_same found (kept failure)

theorem appendBuffer_performs {buffer other : Nat} {p q : PacketStorage}
    (found : buffers[buffer]? = some p) (found' : buffers[other]? = some q)
    (small : p.mSize.toNat + q.mSize.toNat < 2 ^ 62) :
    ∃ done buffers', Performs memory buffers (.appendBuffer buffer other) done buffers' := by
  obtain ⟨done, r, called, fits, appended, kept⟩ :=
    PacketStorage.appendBuffer_contents memory (inside p (List.mem_of_getElem? found))
      (inside q (List.mem_of_getElem? found')) (by omega)
  have defined := on_called (f := fun p => p.appendBuffer memory q) found called
  refine ⟨done, buffers.set buffer r, by simpa [perform, found'] using defined,
    allInside_set inside fits, ?_, ?_⟩
  · intro success
    exact ⟨_, _, strings_getElem? found, strings_getElem? found',
      by rw [strings_set, appended success]⟩
  · intro failure
    exact strings_set_same found (kept failure)

theorem setData_performs {buffer : Nat} (data : Argument) (target : buffer < buffers.length) :
    ∃ done buffers', Performs memory buffers (.setData buffer data) done buffers' := by
  have found := List.getElem?_eq_getElem target
  obtain ⟨done, q, called, fits, replaced, cleared⟩ :=
    PacketStorage.setData_contents memory.resizing data buffers[buffer]
  refine ⟨done, buffers.set buffer q, on_called found called, allInside_set inside fits, ?_, ?_⟩
  · intro success
    rw [StringEffect, strings_set, replaced success]
  · intro failure
    rw [ThrowEffect, strings_set, cleared failure, PacketStorage.clear_contents]

theorem clear_performs {buffer : Nat} (target : buffer < buffers.length) :
    ∃ done buffers', Performs memory buffers (.clear buffer) done buffers' := by
  have found := List.getElem?_eq_getElem target
  refine ⟨true, buffers.set buffer buffers[buffer].clear, on_called found rfl,
    allInside_set inside (PacketStorage.clear_inside _), ?_, by simp⟩
  intro _
  rw [StringEffect, strings_set, PacketStorage.clear_contents]

theorem reserve_performs {buffer : Nat} (capacity : UInt64) (target : buffer < buffers.length) :
    ∃ done buffers', Performs memory buffers (.reserve buffer capacity) done buffers' := by
  have found := List.getElem?_eq_getElem target
  obtain ⟨done, q, called, fits, kept⟩ :=
    PacketStorage.reserve_contents memory.reserving capacity (inside _ (List.getElem_mem target))
  have same := strings_set_same found kept
  exact ⟨done, buffers.set buffer q, on_called found (congrArg some called),
    allInside_set inside fits, fun _ => same, fun _ => same⟩

theorem resize_performs {buffer : Nat} (newSize : UInt64) (target : buffer < buffers.length) :
    ∃ done buffers', Performs memory buffers (.resize buffer newSize) done buffers' := by
  have found := List.getElem?_eq_getElem target
  obtain ⟨done, q, called, fits, resized, kept⟩ :=
    PacketStorage.resize_contents memory.resizing newSize (inside _ (List.getElem_mem target))
  refine ⟨done, buffers.set buffer q, on_called found (congrArg some called),
    allInside_set inside fits, ?_, ?_⟩
  · intro success
    obtain ⟨length, front⟩ := resized success
    exact ⟨_, _, strings_getElem? found, strings_set _ _ _, length, front _ (Nat.le_refl _)⟩
  · intro failure
    exact strings_set_same found (by rw [kept failure])

theorem performs {call : BufferCall} (allowed : buffers.Allowed call) :
    ∃ done buffers', Performs memory buffers call done buffers' := by
  cases call with
  | construct initialCapacity => exact construct_performs inside memory initialCapacity
  | constructBytes data => exact constructBytes_performs inside memory data
  | copyConstruct other => exact copyConstruct_performs inside memory allowed
  | moveConstruct other => exact moveConstruct_performs inside memory allowed
  | copyAssign buffer other => exact copyAssign_performs inside memory allowed.1 allowed.2
  | moveAssign buffer other => exact moveAssign_performs inside memory allowed.1 allowed.2
  | append buffer data =>
    obtain ⟨p, found, small⟩ := allowed
    exact append_performs inside memory found small
  | appendBuffer buffer other =>
    obtain ⟨_, p, q, found, found', small⟩ := allowed
    exact appendBuffer_performs inside memory found found' small
  | setData buffer data => exact setData_performs inside memory data allowed
  | clear buffer => exact clear_performs inside memory allowed
  | reserve buffer capacity => exact reserve_performs inside memory capacity allowed
  | resize buffer newSize => exact resize_performs inside memory newSize allowed

end Calls

theorem make_done {buffers buffers' : Buffers} {made : Option PacketStorage} {done : Bool}
    (some : made ≠ none) (called : buffers.make made = (done, buffers')) : done = true := by
  cases made with
  | none => exact absurd rfl some
  | some q =>
    cases called
    rfl

theorem on_done {buffers buffers' : Buffers} {buffer : Nat} {done : Bool}
    {f : PacketStorage → Option (Bool × PacketStorage)}
    (granted : ∀ p done q, f p = some (done, q) → done = true)
    (called : buffers.on buffer f = some (done, buffers')) : done = true := by
  obtain ⟨p, _, rest⟩ := Option.bind_eq_some_iff.mp called
  obtain ⟨⟨done', q⟩, ran, same⟩ := Option.bind_eq_some_iff.mp rest
  cases same
  exact granted p done q ran

theorem granted_done {buffers buffers' : Buffers} {memory : Memory} {call : BufferCall}
    {done : Bool} (granted : Granted memory call)
    (called : buffers.perform memory call = some (done, buffers')) : done = true := by
  cases call with
  | construct initialCapacity =>
    refine make_done ?_ (Option.some.inj called)
    rw [PacketStorage.construct, Ne, Option.map_eq_none_iff]
    exact GrowableArray.reserve_ne_none granted _ _
  | constructBytes data =>
    obtain ⟨made, constructed, same⟩ := Option.map_eq_some_iff.mp called
    exact make_done (PacketStorage.constructBytes_granted granted constructed) same
  | copyConstruct other =>
    obtain ⟨q, _, same⟩ := Option.bind_eq_some_iff.mp called
    refine make_done ?_ (Option.some.inj same)
    rw [PacketStorage.copy, Ne, Option.map_eq_none_iff]
    exact GrowableArray.assign_ne_none granted _ _
  | moveConstruct other =>
    obtain ⟨q, _, same⟩ := Option.bind_eq_some_iff.mp called
    cases same
    rfl
  | copyAssign buffer other =>
    obtain ⟨q, _, assigned⟩ := Option.bind_eq_some_iff.mp called
    refine on_done ?_ assigned
    intro p done r ran
    split at ran
    · cases ran
      rfl
    · exact (congrArg Prod.fst (Option.some.inj ran)).symm.trans
        (PacketStorage.assign_granted granted p q)
  | moveAssign buffer other =>
    obtain ⟨p, _, rest⟩ := Option.bind_eq_some_iff.mp called
    obtain ⟨q, _, same⟩ := Option.bind_eq_some_iff.mp rest
    cases same
    rfl
  | append buffer data =>
    exact on_done (fun p done q => PacketStorage.append_granted granted.1 granted.2) called
  | appendBuffer buffer other =>
    obtain ⟨q, _, appended⟩ := Option.bind_eq_some_iff.mp called
    exact on_done (fun p done q => PacketStorage.appendBuffer_granted granted.1 granted.2) appended
  | setData buffer data =>
    exact on_done (fun p done q => PacketStorage.setData_granted granted) called
  | clear buffer =>
    refine on_done ?_ called
    rintro p done q ⟨⟩
    rfl
  | reserve buffer capacity =>
    refine on_done ?_ called
    intro p done q ran
    exact (congrArg Prod.fst (Option.some.inj ran)).symm.trans
      (PacketStorage.reserve_granted granted capacity p)
  | resize buffer newSize =>
    refine on_done ?_ called
    intro p done q ran
    exact (congrArg Prod.fst (Option.some.inj ran)).symm.trans
      (PacketStorage.resize_granted granted newSize p)

theorem Reachable.allInside {buffers : Buffers} (reachable : Reachable buffers) :
    buffers.AllInside := by
  induction reachable with
  | none =>
    intro p member
    cases member
  | performed before allowed next inside =>
    rename_i buffers buffers' memory call done
    obtain ⟨done', buffers₁, result⟩ := performs inside memory allowed
    have same := result.defined.symm.trans next
    rw [Option.some.injEq, Prod.mk.injEq] at same
    exact same.2 ▸ result.inside

end Buffers

/-- Whatever a program has done with its packet buffers, every size is within its
    vector, and every next call stays inside the vector's memory and does to the
    strings what it is for, or throws, which it does not when it gets its memory. -/
theorem packet_buffers_refine_strings {buffers : Buffers} (reachable : Buffers.Reachable buffers) :
    (∀ p ∈ buffers, p.mSize.toNat ≤ p.mData.elements.length) ∧
    ∀ (memory : Memory) (call : BufferCall), buffers.Allowed call →
      ∃ done buffers', buffers.perform memory call = some (done, buffers') ∧
        (Buffers.Granted memory call → done = true) ∧
        (done = true → StringEffect buffers.strings buffers'.strings call) ∧
        (done = false → ThrowEffect buffers.strings buffers'.strings call) := by
  have inside := reachable.allInside
  refine ⟨inside, ?_⟩
  intro memory call allowed
  obtain ⟨done, buffers', result⟩ := Buffers.performs inside memory allowed
  exact ⟨done, buffers', result.defined, fun granted => Buffers.granted_done granted result.defined,
    result.effect, result.thrown⟩

/- Five bytes, copied and cleared; Append then shrinks the vector it writes to, and
   another one adds to the copy. -/
theorem packet_buffers_refine_strings_after_clear :
    ∃ buffers : Buffers, buffers.strings = [[7], [1, 2, 3, 4, 5]] ∧
      (∀ p ∈ buffers, p.mSize.toNat ≤ p.mData.elements.length) ∧
      ∃ buffers', buffers.perform ⟨some 0, some 0⟩ (.append 1 ⟨some [6], 1, by simp⟩) =
          some (true, buffers') ∧
        buffers'.strings = [[7], [1, 2, 3, 4, 5, 6]] := by
  have made := @Buffers.Reachable.performed _ _ ⟨some 0, some 0⟩
    (.constructBytes ⟨some [1, 2, 3, 4, 5], 5, by simp⟩) _ .none trivial rfl
  have copied := @Buffers.Reachable.performed _ _ ⟨some 0, some 0⟩ (.copyConstruct 0) _ made
    (Nat.succ_pos 0) rfl
  have cleared := @Buffers.Reachable.performed _ _ ⟨some 0, some 0⟩ (.clear 0) _ copied
    (Nat.succ_pos 1) rfl
  have appended := @Buffers.Reachable.performed _ _ ⟨some 0, some 0⟩
    (.append 0 ⟨some [7], 1, by simp⟩) _ cleared ⟨_, rfl, by decide⟩ rfl
  obtain ⟨inside, calls⟩ := packet_buffers_refine_strings appended
  obtain ⟨done, buffers', called, granted, effect, _⟩ := calls ⟨some 0, some 0⟩
    (.append 1 ⟨some [6], 1, by simp⟩) ⟨_, rfl, by decide⟩
  obtain rfl := granted ⟨rfl, rfl⟩
  obtain ⟨old, there, after⟩ := effect rfl
  cases there
  exact ⟨_, rfl, inside, buffers', called, after⟩

end KanchoNet
