import Mathlib.Algebra.Group.Int.Defs
import Mathlib.Algebra.Group.Nat.Defs
import Mathlib.Logic.Basic

namespace BbbLkm.Memory

/-! # Mixed-width integer arithmetic

C converts both operands of an addition or a comparison to the wider type and
truncates on assignment to a narrower one.  These are the conversions between
a signed 64-bit and an unsigned or signed 32-bit value, each with the law that
moves it to unbounded integers.
-/

/-- An unsigned 32-bit operand of 64-bit signed arithmetic. -/
def widen (value : UInt32) : Int64 := Int64.ofInt value.toNat

/-- Assignment of a signed 64-bit value to an unsigned 32-bit variable. -/
def truncate (value : Int64) : UInt32 := UInt32.ofNat (value.toInt % 2 ^ 32).toNat

@[simp] theorem toInt_widen (value : UInt32) : (widen value).toInt = value.toNat := by
  have bound := value.toNat_lt
  rw [widen, Int64.toInt_ofInt_of_le (by omega) (by omega)]

theorem toNat_truncate (value : Int64) :
    ((truncate value).toNat : Int) = value.toInt % 2 ^ 32 := by
  have lower := Int.emod_nonneg value.toInt (show (2 ^ 32 : Int) ≠ 0 by decide)
  have upper := Int.emod_lt_of_pos value.toInt (show (0 : Int) < 2 ^ 32 by decide)
  rw [truncate, UInt32.toNat_ofNat_of_lt' (by simp only [UInt32.size]; omega)]
  omega

theorem toNat_truncate_of_fits (value : Int64)
    (lower : 0 ≤ value.toInt) (upper : value.toInt < 2 ^ 32) :
    ((truncate value).toNat : Int) = value.toInt := by
  rw [toNat_truncate]
  omega

theorem toInt_add_of_fits {left right : Int64}
    (lower : -2 ^ 63 ≤ left.toInt + right.toInt) (upper : left.toInt + right.toInt < 2 ^ 63) :
    (left + right).toInt = left.toInt + right.toInt := by
  rw [Int64.toInt_add, Int.bmod_def]
  omega

theorem toInt_sub_of_fits {left right : Int64}
    (lower : -2 ^ 63 ≤ left.toInt - right.toInt) (upper : left.toInt - right.toInt < 2 ^ 63) :
    (left - right).toInt = left.toInt - right.toInt := by
  rw [Int64.toInt_sub, Int.bmod_def]
  omega

theorem toInt_toInt32_of_fits {value : UInt32} (fits : value.toNat < 2 ^ 31) :
    value.toInt32.toInt = value.toNat := by
  have signed : value.toInt32.toInt = (value.toNat : Int).bmod (2 ^ 32) := by
    rw [← Int32.toInt_toBitVec, UInt32.toBitVec_toInt32, BitVec.toInt_eq_toNat_bmod,
      UInt32.toNat_toBitVec]
  rw [signed, Int.bmod_def]
  omega

/-- A signed value that becomes a `size_t` unchanged. -/
theorem toNat_toUInt32_of_nonneg {value : Int32} (nonnegative : 0 ≤ value.toInt) :
    (value.toUInt32.toNat : Int) = value.toInt := by
  have signed : 0 ≤ value := Int32.le_iff_toInt_le.mpr (by rw [Int32.toInt_zero]; exact nonnegative)
  rw [Int32.toNat_toUInt32_of_le signed, Int32.toNatClampNeg, Int.toNat_of_nonneg nonnegative]

theorem toInt_le_toNat (value : Int32) : value.toInt ≤ value.toUInt32.toNat := by
  by_cases nonnegative : 0 ≤ value.toInt
  · exact Int.le_of_eq (toNat_toUInt32_of_nonneg nonnegative).symm
  · omega

end BbbLkm.Memory
