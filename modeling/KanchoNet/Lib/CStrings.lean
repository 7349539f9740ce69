import Mathlib.Data.UInt
import Mathlib.Data.List.Basic

/-!
Values as a C++ program finds them in memory: strings that end at a zero byte, arrays
of characters, and unsigned numbers of two bytes with the low byte first.
-/
namespace CStrings

/-- The string that starts at the front of the memory, if it ends in it. -/
def readString : List UInt8 → Option (List UInt8)
  | [] => none
  | byte :: memory => if byte = 0 then some [] else (readString memory).map (byte :: ·)

theorem readString_terminated {text : List UInt8} (plain : 0 ∉ text) (rest : List UInt8) :
    readString (text ++ 0 :: rest) = some text := by
  induction text with
  | nil => rfl
  | cons byte text ih =>
    obtain ⟨first, later⟩ := not_or.mp (mt List.mem_cons.mpr plain)
    rw [List.cons_append, readString, if_neg (Ne.symm first), ih later]
    rfl

theorem readString_eq {memory text : List UInt8} (read : readString memory = some text) :
    0 ∉ text ∧ ∃ rest, memory = text ++ 0 :: rest := by
  induction memory generalizing text with
  | nil => cases read
  | cons byte memory ih =>
    rw [readString] at read
    split at read
    · rename_i zero
      cases read
      exact ⟨List.not_mem_nil, memory, by rw [zero]; rfl⟩
    · rename_i other
      obtain ⟨tail, below, rfl⟩ := Option.map_eq_some_iff.mp read
      obtain ⟨plain, rest, rfl⟩ := ih below
      refine ⟨?_, rest, rfl⟩
      intro member
      rcases List.mem_cons.mp member with same | later
      · exact other same.symm
      · exact plain later

theorem readString_isSome_iff {memory : List UInt8} :
    (readString memory).isSome = true ↔ 0 ∈ memory := by
  induction memory with
  | nil => simp [readString]
  | cons byte memory ih =>
    rw [readString, List.mem_cons, ← ih]
    split
    · rename_i zero
      simp [zero]
    · rename_i other
      simp [Ne.symm other]

theorem readString_append {memory text : List UInt8} (read : readString memory = some text)
    (more : List UInt8) : readString (memory ++ more) = some text := by
  obtain ⟨plain, rest, rfl⟩ := readString_eq read
  rw [List.append_assoc, List.cons_append]
  exact readString_terminated plain _

structure CharArray (n : Nat) where
  bytes : List UInt8
  full : bytes.length = n

def CharArray.zeroed (n : Nat) : CharArray n := ⟨List.replicate n 0, List.length_replicate⟩

def CharArray.text {n : Nat} (a : CharArray n) : Option (List UInt8) := readString a.bytes

theorem CharArray.text_short {n : Nat} {a : CharArray n} {text : List UInt8}
    (read : a.text = some text) : text.length < n := by
  obtain ⟨_, rest, same⟩ := readString_eq read
  have full := a.full
  rw [same, List.length_append, List.length_cons] at full
  omega

/-- strcpy_s; without room for the zero byte it calls the invalid parameter handler. -/
def strcpy_s {n : Nat} (target : CharArray n) (source : List UInt8) : Option (CharArray n) :=
  if fits : source.length < n then
    some ⟨source ++ 0 :: target.bytes.drop (source.length + 1), by
      rw [List.length_append, List.length_cons, List.length_drop, target.full]
      omega⟩
  else none

theorem strcpy_s_isSome_iff {n : Nat} (target : CharArray n) {source : List UInt8} :
    (strcpy_s target source).isSome = true ↔ source.length < n := by
  unfold strcpy_s
  split <;> simp_all

theorem text_strcpy_s {n : Nat} {target copied : CharArray n} {source : List UInt8}
    (plain : 0 ∉ source) (copy : strcpy_s target source = some copied) :
    copied.text = some source := by
  unfold strcpy_s at copy
  split at copy
  · cases copy
    exact readString_terminated plain _
  · cases copy

def uint16Bytes (value : UInt16) : List UInt8 :=
  [UInt8.ofNat value.toNat, UInt8.ofNat (value.toNat / 256)]

def readUInt16 : List UInt8 → Option UInt16
  | low :: high :: _ => some (UInt16.ofNat (low.toNat + 256 * high.toNat))
  | _ => none

theorem readUInt16_bytes (value : UInt16) (rest : List UInt8) :
    readUInt16 (uint16Bytes value ++ rest) = some value := by
  have bound := value.toNat_lt
  refine congrArg some (UInt16.toNat_inj.mp ?_)
  rw [UInt16.toNat_ofNat', UInt8.toNat_ofNat', UInt8.toNat_ofNat']
  omega

end CStrings
