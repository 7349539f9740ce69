import KanchoNet.Lib.CyclicWindow
import Mathlib.Data.UInt

/-!
Memory operations of C++ whose misuse is undefined behaviour. Each returns none
exactly where the language gives no meaning: a copy that leaves its source or
its destination, a remainder by zero.
-/
namespace CheckedMemory
open CyclicWindow
variable {α : Type}

/-- std::memcpy of n cells from src + srcPos to dst + dstPos. -/
def memcpy (dst : List α) (dstPos : Nat) (src : List α) (srcPos n : Nat) : Option (List α) :=
  if dstPos + n ≤ dst.length ∧ srcPos + n ≤ src.length then
    some (overwrite dst dstPos ((src.drop srcPos).take n))
  else none

def modulo (a b : UInt64) : Option UInt64 := if b = 0 then none else some (a % b)

def stdMin (a b : UInt64) : UInt64 := if b < a then b else a

theorem memcpy_inside {dst src : List α} {dstPos srcPos n : Nat}
    (target : dstPos + n ≤ dst.length) (source : srcPos + n ≤ src.length) :
    memcpy dst dstPos src srcPos n = some (overwrite dst dstPos ((src.drop srcPos).take n)) :=
  if_pos ⟨target, source⟩

theorem memcpy_length {dst src dst' : List α} {dstPos srcPos n : Nat}
    (copied : memcpy dst dstPos src srcPos n = some dst') : dst'.length = dst.length := by
  simp only [memcpy, Option.ite_none_right_eq_some, Option.some.injEq] at copied
  obtain ⟨⟨target, source⟩, rfl⟩ := copied
  rw [overwrite_length]
  simp only [List.length_take, List.length_drop]
  omega

/- Copying from src + k is copying from a pointer advanced by k. -/
theorem memcpy_drop (dst : List α) (dstPos : Nat) {src : List α} {k : Nat} (n : Nat)
    (inside : k ≤ src.length) :
    memcpy dst dstPos (src.drop k) 0 n = memcpy dst dstPos src k n := by
  have reach : 0 + n ≤ src.length - k ↔ k + n ≤ src.length := by omega
  simp only [memcpy, List.length_drop, List.drop_zero, reach]

theorem memcpy_window {dst cells : List α} {start n : Nat} (target : n ≤ dst.length)
    (source : start + n ≤ cells.length) :
    memcpy dst 0 cells start n = some (overwrite dst 0 (window cells start n)) := by
  rw [memcpy_inside (by omega) source, window_straight source]

/- A window that runs past the last cell is copied out in two parts. -/
theorem memcpy_window_wrapped (dst : List α) {cells : List α} {start c n : Nat}
    (target : n ≤ dst.length)
    (toEnd : start + c = cells.length) (wraps : c ≤ n) (fits : n ≤ cells.length) :
    ((memcpy dst 0 cells start c).bind fun dst => memcpy dst c cells 0 (n - c)) =
      some (overwrite dst 0 (window cells start n)) := by
  have first : ((cells.drop start).take c) = cells.drop start := by
    apply List.take_of_length_le
    rw [List.length_drop]
    omega
  have size : (cells.drop start).length = c := by
    rw [List.length_drop]
    omega
  have rest : start + n - cells.length = n - c := by omega
  rw [memcpy_inside (by omega) (by omega), first, Option.bind_some,
    memcpy_inside (by rw [overwrite_length] <;> omega) (by omega), List.drop_zero]
  have joined := overwrite_overwrite dst 0 (cells.drop start) (cells.take (n - c))
    (by rw [List.length_take]; omega)
  rw [Nat.zero_add, size] at joined
  rw [joined, window_wrapped (by omega) (by omega) fits, rest]

theorem modulo_of_lt {a b : UInt64} (positive : 0 < b.toNat) : modulo a b = some (a % b) := by
  apply if_neg
  rintro rfl
  exact absurd positive (by decide)

theorem stdMin_toNat (a b : UInt64) : (stdMin a b).toNat = min a.toNat b.toNat := by
  unfold stdMin
  split
  · have := UInt64.lt_iff_toNat_lt.mp ‹_›
    omega
  · have := mt UInt64.lt_iff_toNat_lt.mpr ‹_›
    omega

end CheckedMemory
