import Mathlib.Data.List.AList

/-!
Tables from keys to values of one type. What is found after an entry was put in or taken
out.
-/
namespace Tables
variable {κ β : Type} [DecidableEq κ] {table : AList fun _ : κ => β} {key other : κ}
  {value found : β}

theorem mem_of_lookup (there : table.lookup key = some value) : key ∈ table := by
  rw [← AList.lookup_isSome, there]
  rfl

theorem lookup_of_erase (there : (table.erase other).lookup key = some value) :
    table.lookup key = some value := by
  by_cases same : key = other
  · rw [same, AList.lookup_erase] at there
    cases there
  · rwa [AList.lookup_erase_ne same] at there

theorem ne_of_lookup_erase (there : (table.erase other).lookup key = some value) :
    key ≠ other := by
  rintro rfl
  rw [AList.lookup_erase] at there
  cases there

theorem lookup_insert_cases (there : (table.insert other value).lookup key = some found) :
    (key = other ∧ found = value) ∨ (key ≠ other ∧ table.lookup key = some found) := by
  by_cases same : key = other
  · rw [same, AList.lookup_insert] at there
    exact Or.inl ⟨same, (Option.some.inj there).symm⟩
  · rw [AList.lookup_insert_ne same] at there
    exact Or.inr ⟨same, there⟩

end Tables
