import KanchoNet.Lib.GrowableArray

/-!
The operations of PacketBuffer on its vector. A call answers false when the vector
throws, and leaves the buffer as given; a result of none is undefined behaviour.
-/
namespace KanchoNet
open GrowableArrays

structure PacketStorage where
  mData : GrowableArray UInt8
  mSize : UInt64

structure Memory where
  reserving : Option Nat
  resizing : Option Nat

namespace PacketStorage

def construct (memory : Option Nat) (initialCapacity : UInt64) : Option PacketStorage :=
  (GrowableArray.empty.reserve memory initialCapacity.toNat).map fun mData => ⟨mData, 0⟩

def clear (p : PacketStorage) : PacketStorage := { p with mSize := 0 }

def reserve (memory : Option Nat) (capacity : UInt64) (p : PacketStorage) : Bool × PacketStorage :=
  match p.mData.reserve memory capacity.toNat with
  | none => (false, p)
  | some mData => (true, { p with mData })

def resize (memory : Option Nat) (newSize : UInt64) (p : PacketStorage) : Bool × PacketStorage :=
  match p.mData.resize 0 memory newSize.toNat with
  | none => (false, p)
  | some mData => (true, ⟨mData, newSize⟩)

def append (memory : Memory) (data : Option (List UInt8)) (size : UInt64)
    (p : PacketStorage) : Option (Bool × PacketStorage) :=
  match data with
  | none => some (true, p)
  | some src =>
    if size = 0 then some (true, p)
    else
      let newSize := p.mSize + size
      match if p.mData.capacity < newSize.toNat
        then p.mData.reserve memory.reserving (newSize * 2).toNat else some p.mData with
      | none => some (false, p)
      | some mData =>
        match mData.resize 0 memory.resizing newSize.toNat with
        | none => some (false, { p with mData })
        | some mData =>
          (mData.memcpy p.mSize.toNat src size.toNat).map fun mData => (true, ⟨mData, newSize⟩)

def appendBuffer (memory : Memory) (p other : PacketStorage) :
    Option (Bool × PacketStorage) :=
  if other.mSize = 0 then some (true, p)
  else p.append memory (some other.mData.elements) other.mSize

def setData (memory : Option Nat) (data : Option (List UInt8)) (size : UInt64)
    (p : PacketStorage) : Option (Bool × PacketStorage) :=
  let p := p.clear
  match data with
  | none => some (true, p)
  | some src =>
    if size = 0 then some (true, p)
    else
      match p.mData.resize 0 memory size.toNat with
      | none => some (false, p)
      | some mData => (mData.memcpy 0 src size.toNat).map fun mData => (true, ⟨mData, size⟩)

/-- The constructor PacketBuffer(data, size). The inner none is a throw. -/
def constructBytes (memory : Option Nat) (data : Option (List UInt8)) (size : UInt64) :
    Option (Option PacketStorage) :=
  match GrowableArray.empty.resize 0 memory size.toNat with
  | none => some none
  | some mData =>
    match data with
    | none => some (some ⟨mData, size⟩)
    | some src =>
      if size > 0 then (mData.memcpy 0 src size.toNat).map fun mData => some ⟨mData, size⟩
      else some (some ⟨mData, size⟩)

def copy (memory : Option Nat) (other : PacketStorage) : Option PacketStorage :=
  (GrowableArray.empty.assign memory other.mData).map fun mData => ⟨mData, other.mSize⟩

def assign (memory : Option Nat) (p other : PacketStorage) : Bool × PacketStorage :=
  match p.mData.assign memory other.mData with
  | none => (false, p)
  | some mData => (true, ⟨mData, other.mSize⟩)

/-- What a move leaves of its source; std::move leaves the vector without memory. -/
def movedFrom : PacketStorage := ⟨GrowableArray.empty, 0⟩

def moveConstruct (other : PacketStorage) : PacketStorage × PacketStorage :=
  (⟨other.mData, other.mSize⟩, movedFrom)

def moveAssign (p other : PacketStorage) : PacketStorage × PacketStorage :=
  ({ p with mData := other.mData, mSize := other.mSize }, movedFrom)

end PacketStorage

/-- A call on a buffer. After copied, the buffer meant is a copy of the one before. -/
inductive PacketOp where
  | append (data : Option (List UInt8)) (size : UInt64)
  | appendBuffer (other : PacketStorage)
  | setData (data : Option (List UInt8)) (size : UInt64)
  | resize (newSize : UInt64)
  | clear
  | reserve (capacity : UInt64)
  | copied
  | assign (other : PacketStorage)

namespace PacketStorage

def apply (memory : Option Nat) (p : PacketStorage) : PacketOp → Option (Bool × PacketStorage)
  | .append data size => p.append ⟨memory, memory⟩ data size
  | .appendBuffer other => p.appendBuffer ⟨memory, memory⟩ other
  | .setData data size => p.setData memory data size
  | .resize newSize => some (p.resize memory newSize)
  | .clear => some (true, p.clear)
  | .reserve capacity => some (p.reserve memory capacity)
  | .copied =>
    match p.copy memory with
    | none => some (false, p)
    | some q => some (true, q)
  | .assign other => some (p.assign memory other)

def observe (p : PacketStorage) : UInt64 × List UInt8 :=
  (p.mSize, p.mData.elements.take p.mSize.toNat)

def observations (p : PacketStorage) : List (PacketOp × Nat) → List (UInt64 × List UInt8)
  | [] => []
  | (op, spare) :: ops =>
    match p.apply (some spare) op with
    | none => []
    | some (_, q) => q.observe :: observations q ops

end PacketStorage

structure Image where
  elements : List UInt8
  size : UInt64
  deriving DecidableEq

namespace Image

def appended (data : Option (List UInt8)) (size : UInt64) (i : Image) : Option Image :=
  match data with
  | none => some i
  | some src =>
    if size = 0 then some i
    else (CheckedMemory.memcpy (resized 0 (i.size + size).toNat i.elements) i.size.toNat src 0
      size.toNat).map fun elements => ⟨elements, i.size + size⟩

/-- What the calls do to elements and size when memory never runs out. -/
def after (i : Image) : PacketOp → Option Image
  | .append data size => i.appended data size
  | .appendBuffer other => i.appended (some other.mData.elements) other.mSize
  | .setData data size =>
    match data with
    | none => some { i with size := 0 }
    | some src =>
      if size = 0 then some { i with size := 0 }
      else (CheckedMemory.memcpy (resized 0 size.toNat i.elements) 0 src 0 size.toNat).map
        fun elements => ⟨elements, size⟩
  | .resize newSize => some ⟨resized 0 newSize.toNat i.elements, newSize⟩
  | .clear => some { i with size := 0 }
  | .reserve _ => some i
  | .copied => some i
  | .assign other => some ⟨other.mData.elements, other.mSize⟩

def observe (i : Image) : UInt64 × List UInt8 := (i.size, i.elements.take i.size.toNat)

def observations (i : Image) : List (PacketOp × Nat) → List (UInt64 × List UInt8)
  | [] => []
  | (op, _) :: ops =>
    match i.after op with
    | none => []
    | some j => j.observe :: observations j ops

end Image

namespace PacketStorage

def image (p : PacketStorage) : Image := ⟨p.mData.elements, p.mSize⟩

theorem append_image (spare : Nat) (data : Option (List UInt8)) (size : UInt64)
    (p : PacketStorage) :
    (p.append ⟨some spare, some spare⟩ data size).map (image ∘ Prod.snd) =
      p.image.appended data size := by
  cases data with
  | none => rfl
  | some src =>
    unfold append Image.appended
    dsimp only
    split
    · rfl
    · obtain ⟨reserved, held, kept⟩ : ∃ b, (if p.mData.capacity < (p.mSize + size).toNat
          then p.mData.reserve (some spare) ((p.mSize + size) * 2).toNat
          else some p.mData) = some b ∧ b.elements = p.mData.elements := by
        split
        · exact GrowableArray.reserve_elements spare _ p.mData
        · exact ⟨p.mData, rfl, rfl⟩
      obtain ⟨grown, longer, elements⟩ :=
        GrowableArray.resize_elements 0 spare (p.mSize + size).toNat reserved
      have copied := GrowableArray.memcpy_elements p.mSize.toNat src size.toNat grown
      rw [elements, kept] at copied
      simp only [held, longer, image]
      rw [← copied, Option.map_map, Option.map_map]
      rfl

theorem setData_image (spare : Nat) (data : Option (List UInt8)) (size : UInt64)
    (p : PacketStorage) :
    (p.setData (some spare) data size).map (image ∘ Prod.snd) =
      p.image.after (.setData data size) := by
  cases data with
  | none => rfl
  | some src =>
    unfold setData Image.after
    dsimp only
    split
    · rfl
    · obtain ⟨grown, longer, elements⟩ :=
        GrowableArray.resize_elements 0 spare size.toNat p.clear.mData
      have copied := GrowableArray.memcpy_elements 0 src size.toNat grown
      rw [elements] at copied
      simp only [longer]
      rw [Option.map_map, show p.image.elements = p.clear.mData.elements from rfl, ← copied,
        Option.map_map]
      rfl

theorem apply_image (spare : Nat) (p : PacketStorage) (op : PacketOp) :
    (p.apply (some spare) op).map (image ∘ Prod.snd) = p.image.after op := by
  cases op with
  | append data size => exact append_image spare data size p
  | appendBuffer other =>
    simp only [apply, appendBuffer, Image.after]
    split
    · rename_i empty
      simp [Image.appended, empty]
    · exact append_image spare _ _ p
  | setData data size => exact setData_image spare data size p
  | resize newSize =>
    obtain ⟨grown, longer, elements⟩ :=
      GrowableArray.resize_elements 0 spare newSize.toNat p.mData
    simp [apply, resize, longer, image, Image.after, elements]
  | clear => rfl
  | reserve capacity =>
    obtain ⟨held, more, elements⟩ :=
      GrowableArray.reserve_elements spare capacity.toNat p.mData
    simp [apply, reserve, more, image, Image.after, elements]
  | copied =>
    obtain ⟨made, copied, elements⟩ :=
      GrowableArray.assign_elements spare GrowableArray.empty p.mData
    simp [apply, copy, copied, image, Image.after, elements]
  | assign other =>
    obtain ⟨held, assigned, elements⟩ :=
      GrowableArray.assign_elements spare p.mData other.mData
    simp [apply, assign, assigned, image, Image.after, elements]

theorem observations_image (p : PacketStorage) (ops : List (PacketOp × Nat)) :
    p.observations ops = p.image.observations ops := by
  induction ops generalizing p with
  | nil => rfl
  | cons call ops ih =>
    obtain ⟨op, spare⟩ := call
    have same := apply_image spare p op
    unfold observations Image.observations
    cases called : p.apply (some spare) op with
    | none =>
      rw [called] at same
      rw [← same]
      rfl
    | some result =>
      rw [called] at same
      rw [← same]
      exact congrArg _ (ih result.2)

end PacketStorage
end KanchoNet
