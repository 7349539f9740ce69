import Mathlib.Data.UInt

/-!
Narrowing conversions between machine integers, and exactly when they keep the value.
-/
namespace Conversions

/-- static_cast<int> of a size_t: its low 32 bits, read as a signed number. -/
def sizeToInt (n : UInt64) : Int32 := n.toUInt32.toInt32

theorem toInt32_exact_iff (n : UInt32) : n.toInt32.toInt = n.toNat ↔ n.toNat < 2 ^ 31 := by
  have signed : n.toInt32.toInt = n.toBitVec.toInt := rfl
  have unsigned : n.toBitVec.toNat = n.toNat := rfl
  rw [signed, BitVec.toInt_eq_toNat_cond, unsigned]
  split
  · omega
  · omega

theorem sizeToInt_exact_iff (n : UInt64) : (sizeToInt n).toInt = n.toNat ↔ n.toNat < 2 ^ 31 := by
  have low : n.toUInt32.toNat = n.toNat % 2 ^ 32 := UInt64.toNat_toUInt32 n
  have signed : (sizeToInt n).toInt = n.toUInt32.toBitVec.toInt := rfl
  have unsigned : n.toUInt32.toBitVec.toNat = n.toUInt32.toNat := rfl
  rw [signed, BitVec.toInt_eq_toNat_cond, unsigned, low]
  split
  · omega
  · omega

theorem product_exact_iff (a b : UInt64) :
    (a * b).toNat = a.toNat * b.toNat ↔ a.toNat * b.toNat < 2 ^ 64 := by
  rw [UInt64.toNat_mul]
  exact Nat.mod_eq_iff_lt (by decide)

/- A product that is cut to 32 bits may have wrapped before. -/
theorem product_toUInt32_exact_iff (a b : UInt64) :
    (a * b).toUInt32.toNat = a.toNat * b.toNat ↔ a.toNat * b.toNat < 2 ^ 32 := by
  rw [UInt64.toNat_toUInt32, UInt64.toNat_mul]
  omega

end Conversions
