import KanchoNet.Buffer.PacketStrings

/-!
Calls of a packet buffer that run out of memory. All of them leave size and bytes as
they were, but for SetData, which clears the buffer before it asks for memory.
-/
namespace KanchoNet
open GrowableArrays
open RingBuffer (Argument)

inductive GrowingCall where
  | append (data : Argument)
  | setData (data : Argument)
  | resize (newSize : UInt64)
  | reserve (capacity : UInt64)

namespace GrowingCall

def perform (memory : Memory) (p : PacketStorage) : GrowingCall → Option (Bool × PacketStorage)
  | append data => p.append memory data.pointer data.size
  | setData data => p.setData memory.resizing data.pointer data.size
  | resize newSize => some (p.resize memory.resizing newSize)
  | reserve capacity => some (p.reserve memory.reserving capacity)

/-- A SetData of a buffer with content, to more bytes than there is memory for. -/
def LosesContent (memory : Memory) (p : PacketStorage) : GrowingCall → Prop
  | setData data => 0 < data.wanted ∧ p.mData.capacity < data.size.toNat ∧
      memory.resizing = none ∧ p.mSize ≠ 0
  | _ => False

end GrowingCall

namespace PacketStorage

theorem append_thrown {memory : Memory} {data : Option (List UInt8)} {size : UInt64}
    {p q : PacketStorage} (thrown : p.append memory data size = some (false, q)) :
    q.observe = p.observe := by
  cases data with
  | none => simp [append] at thrown
  | some src =>
    simp only [append] at thrown
    split at thrown
    · simp at thrown
    · split at thrown
      · cases thrown
        rfl
      · rename_i reserved held
        have kept : reserved.elements = p.mData.elements := by
          split at held
          · exact (GrowableArray.reserve_some held).1
          · cases held
            rfl
        split at thrown
        · cases thrown
          simp only [observe, kept]
        · simp at thrown

theorem resize_thrown {memory : Option Nat} {newSize : UInt64} {p q : PacketStorage}
    (thrown : p.resize memory newSize = (false, q)) : q = p := by
  unfold resize at thrown
  split at thrown
  · cases thrown
    rfl
  · simp at thrown

theorem reserve_thrown {memory : Option Nat} {capacity : UInt64} {p q : PacketStorage}
    (thrown : p.reserve memory capacity = (false, q)) : q = p := by
  unfold reserve at thrown
  split at thrown
  · cases thrown
    rfl
  · simp at thrown

theorem setData_thrown_iff (memory : Option Nat) (data : Argument) (p q : PacketStorage) :
    p.setData memory data.pointer data.size = some (false, q) ↔
      q = p.clear ∧ 0 < data.wanted ∧ p.mData.capacity < data.size.toNat ∧ memory = none := by
  obtain ⟨pointer, size, reaches⟩ := data
  cases pointer with
  | none => simp [setData, Argument.wanted]
  | some src =>
    have positive : ¬size = 0 ↔ 0 < size.toNat := by
      rw [← UInt64.toNat_inj, UInt64.toNat_zero]
      omega
    simp only [setData, Argument.wanted, Option.isSome_some, ↓reduceIte, ← positive]
    split
    · rename_i empty
      simp [empty]
    · rename_i filled
      split
      · rename_i full
        have short := (GrowableArray.resize_eq_none_iff 0).mp full
        simp only [Option.some.injEq, Prod.mk.injEq, true_and, filled, not_false_eq_true]
        constructor
        · intro same
          exact ⟨same.symm, short⟩
        · intro same
          exact same.1.symm
      · rename_i mData longer
        have enough : ¬(p.mData.capacity < size.toNat ∧ memory = none) := by
          intro short
          have full := (GrowableArray.resize_eq_none_iff (0 : UInt8)).mpr short
          rw [show p.clear.mData = p.mData from rfl, full] at longer
          cases longer
        simp only [enough, and_false, iff_false]
        intro thrown
        obtain ⟨_, _, same⟩ := Option.map_eq_some_iff.mp thrown
        simp at same

end PacketStorage

/-- A call whose allocation fails leaves size and bytes as they were, exactly when it
    is not a SetData that loses its buffer's content. -/
theorem failed_growth_is_atomic_iff (memory : Memory) (p : PacketStorage) (call : GrowingCall) :
    (∀ q, call.perform memory p = some (false, q) → q.observe = p.observe) ↔
      ¬call.LosesContent memory p := by
  cases call with
  | append data =>
    apply iff_of_true
    · intro q thrown
      exact PacketStorage.append_thrown thrown
    · exact id
  | resize newSize =>
    apply iff_of_true
    · intro q thrown
      rw [PacketStorage.resize_thrown (Option.some.inj thrown)]
    · exact id
  | reserve capacity =>
    apply iff_of_true
    · intro q thrown
      rw [PacketStorage.reserve_thrown (Option.some.inj thrown)]
    · exact id
  | setData data =>
    simp only [GrowingCall.perform, PacketStorage.setData_thrown_iff, GrowingCall.LosesContent]
    constructor
    · rintro kept ⟨wanted, large, full, filled⟩
      have lost := kept p.clear ⟨rfl, wanted, large, full⟩
      exact filled (congrArg Prod.fst lost).symm
    · rintro empty q ⟨rfl, wanted, large, full⟩
      have none : p.mSize = 0 := by
        by_contra filled
        exact empty ⟨wanted, large, full, filled⟩
      simp [PacketStorage.observe, PacketStorage.clear, none]

/- A buffer of three bytes is set to four, and there is no memory for them. -/
theorem failed_setData_loses_content :
    ∃ p, PacketStorage.constructBytes (some 0) (some [1, 2, 3]) 3 = some (some p) ∧
      p.observe = (3, [1, 2, 3]) ∧
      ∃ q, (GrowingCall.setData ⟨some [4, 5, 6, 7], 4, by simp⟩).perform ⟨none, none⟩ p =
          some (false, q) ∧ q.observe = (0, []) :=
  ⟨_, rfl, rfl, _, rfl, rfl⟩

end KanchoNet
