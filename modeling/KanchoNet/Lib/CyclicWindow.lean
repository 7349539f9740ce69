import Mathlib.Data.List.Rotate

/-!
Cyclic windows of a list of cells. A window reads n cells from a start position
and continues at cell 0 behind the last one. Overwriting the cells right behind
a window extends it by the new data and changes no cell it already holds.
-/
namespace CyclicWindow
variable {α : Type}

def window (cells : List α) (start n : Nat) : List α := (cells.rotate start).take n

def overwrite (cells : List α) (pos : Nat) (data : List α) : List α :=
  cells.take pos ++ data ++ cells.drop (pos + data.length)

theorem window_length {cells : List α} {n : Nat} (start : Nat) (fits : n ≤ cells.length) :
    (window cells start n).length = n := by
  simp [window, fits]

@[simp] theorem window_zero (cells : List α) (start : Nat) : window cells start 0 = [] := by
  simp [window]

theorem window_getElem? {cells : List α} {start n i : Nat} (inside : i < n)
    (fits : n ≤ cells.length) :
    (window cells start n)[i]? = cells[(start + i) % cells.length]? := by
  rw [window, List.getElem?_take_of_lt inside, List.getElem?_rotate (by omega), Nat.add_comm]

theorem window_take (cells : List α) (start n k : Nat) :
    (window cells start n).take k = window cells start (min k n) := by
  simp [window, List.take_take]

theorem window_drop {cells : List α} {start n k : Nat} (fits : n ≤ cells.length)
    (part : k ≤ n) :
    (window cells start n).drop k = window cells ((start + k) % cells.length) (n - k) := by
  apply List.ext_getElem?
  intro i
  rw [List.getElem?_drop]
  by_cases inside : i < n - k
  · rw [window_getElem? (by omega) fits, window_getElem? inside (by omega),
      Nat.mod_add_mod, Nat.add_assoc]
  · rw [List.getElem?_eq_none (by rw [window_length _ fits]; omega),
      List.getElem?_eq_none (by rw [window_length _ (by omega)]; omega)]

theorem window_straight {cells : List α} {start n : Nat} (fits : start + n ≤ cells.length) :
    window cells start n = (cells.drop start).take n := by
  rw [window, List.rotate_eq_drop_append_take (by omega), List.take_append_of_le_length]
  rw [List.length_drop]
  omega

theorem window_wrapped {cells : List α} {start n : Nat} (inside : start ≤ cells.length)
    (wraps : cells.length ≤ start + n) (fits : n ≤ cells.length) :
    window cells start n = cells.drop start ++ cells.take (start + n - cells.length) := by
  rw [window, List.rotate_eq_drop_append_take inside, List.take_append,
    List.take_of_length_le (by rw [List.length_drop]; omega), List.take_take, List.length_drop]
  congr 2
  omega

theorem overwrite_length {cells : List α} {pos : Nat} {data : List α}
    (fits : pos + data.length ≤ cells.length) :
    (overwrite cells pos data).length = cells.length := by
  simp only [overwrite, List.length_append, List.length_take, List.length_drop]
  omega

theorem overwrite_getElem?_inside {cells : List α} {pos i : Nat} {data : List α}
    (fits : pos ≤ cells.length) (inside : i < data.length) :
    (overwrite cells pos data)[pos + i]? = data[i]? := by
  rw [overwrite,
    List.getElem?_append_left (by simp only [List.length_append, List.length_take]; omega),
    List.getElem?_append_right (by rw [List.length_take]; omega), List.length_take]
  congr 1
  omega

theorem overwrite_getElem?_outside {cells : List α} {pos i : Nat} {data : List α}
    (fits : pos + data.length ≤ cells.length) (outside : i < pos ∨ pos + data.length ≤ i) :
    (overwrite cells pos data)[i]? = cells[i]? := by
  rcases outside with before | behind
  · rw [overwrite, List.append_assoc, List.getElem?_append_left (by rw [List.length_take]; omega),
      List.getElem?_take_of_lt before]
  · have front : (cells.take pos ++ data).length = pos + data.length := by
      simp only [List.length_append, List.length_take]
      omega
    rw [overwrite, List.getElem?_append_right (by omega), front, List.getElem?_drop]
    congr 1
    omega

theorem cell_position {start i size : Nat} (inside : start < size) (near : i < size) :
    (start + i) % size = if start + i < size then start + i else start + i - size := by
  split
  · exact Nat.mod_eq_of_lt ‹_›
  · rw [Nat.mod_eq_sub_mod (by omega), Nat.mod_eq_of_lt (by omega)]

theorem window_overwrite {cells : List α} {start n pos : Nat} (data : List α)
    (inside : start < cells.length) (position : pos = (start + n) % cells.length)
    (fits : n + data.length ≤ cells.length) (straight : pos + data.length ≤ cells.length) :
    window (overwrite cells pos data) start (n + data.length) =
      window cells start n ++ data := by
  have size := overwrite_length straight
  apply List.ext_getElem?
  intro i
  by_cases old : i < n
  · -- a cell of the old window lies outside the overwritten range
    have behind := cell_position (i := n) inside
    have here := cell_position (i := i) inside (by omega)
    rw [window_getElem? (by omega) (by omega), size,
      List.getElem?_append_left (by rw [window_length _ (by omega)]; exact old),
      window_getElem? old (by omega), overwrite_getElem?_outside straight]
    by_cases full : n = cells.length
    · have none : data.length = 0 := by omega
      omega
    · have behind := behind (by omega)
      split at behind <;> split at here <;> omega
  · by_cases new : i < n + data.length
    · have behind := cell_position (i := n) inside (by omega)
      have here := cell_position (i := i) inside (by omega)
      have cell : (start + i) % cells.length = pos + (i - n) := by
        split at behind <;> split at here <;> omega
      rw [window_getElem? new (by omega), size, cell,
        overwrite_getElem?_inside (by omega) (by omega),
        List.getElem?_append_right (by rw [window_length _ (by omega)]; omega),
        window_length _ (by omega)]
    · rw [List.getElem?_eq_none (by rw [window_length _ (by omega)]; omega),
        List.getElem?_eq_none (by
          rw [List.length_append, window_length _ (by omega)]; omega)]

theorem overwrite_overwrite (cells : List α) (pos : Nat) (first second : List α)
    (fits : pos + first.length + second.length ≤ cells.length) :
    overwrite (overwrite cells pos first) (pos + first.length) second =
      overwrite cells pos (first ++ second) := by
  have front : (cells.take pos ++ first).length = pos + first.length := by
    simp only [List.length_append, List.length_take]
    omega
  have behind : (cells.take pos ++ first ++ cells.drop (pos + first.length)).drop
      (pos + first.length + second.length) =
      cells.drop (pos + (first ++ second).length) := by
    rw [List.drop_append, List.drop_of_length_le (by omega), front, List.drop_drop,
      List.length_append, List.nil_append]
    congr 1
    omega
  have before : (cells.take pos ++ first ++ cells.drop (pos + first.length)).take
      (pos + first.length) = cells.take pos ++ first := by
    rw [List.take_append_of_le_length (by omega), List.take_of_length_le (by omega)]
  simp only [overwrite]
  rw [before, behind]
  simp only [List.append_assoc]

end CyclicWindow
