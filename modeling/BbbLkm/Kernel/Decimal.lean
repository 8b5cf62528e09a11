import BbbLkm.Kernel.Kstrtox

namespace BbbLkm.Kernel

def digits (value : Nat) : List UInt8 := (Nat.toDigits 10 value).map fun digit => UInt8.ofNat digit.toNat

/-- The text of `%d`. -/
def decimal (value : Int) : List UInt8 :=
  if value < 0 then 45 :: digits value.natAbs else digits value.natAbs

/-- -12 -/
example : decimal (-12) = [45, 49, 50] := by decide

theorem toNat_digit {digit : Char} (decimal : digit.isDigit = true) :
    (UInt8.ofNat digit.toNat).toNat = digit.toNat ∧ 48 ≤ digit.toNat ∧ digit.toNat ≤ 57 := by
  have bounds := Char.isDigit_iff_toNat.mp decimal
  have most : digit.toNat ≤ 57 := bounds.2
  constructor
  · rw [UInt8.toNat_ofNat']
    omega
  · exact bounds

theorem isDigit_toDigits {value : Nat} (char : Char) (among : char ∈ Nat.toDigits 10 value) :
    char.isDigit = true :=
  Nat.isDigit_of_mem_toDigits (by decide) (by decide) among

theorem mem_digits {value : Nat} {byte : UInt8} (member : byte ∈ digits value) :
    48 ≤ byte.toNat ∧ byte.toNat ≤ 57 := by
  obtain ⟨digit, among, rfl⟩ := List.mem_map.mp member
  obtain ⟨same, bounds⟩ := toNat_digit (isDigit_toDigits digit among)
  rw [same]
  exact bounds

theorem digitValue_digit {char : Char} (decimal : char.isDigit = true) :
    digitValue (UInt8.ofNat char.toNat) = some (char.toNat - 48) ∧ char.toNat - 48 < 10 := by
  obtain ⟨same, least, most⟩ := toNat_digit decimal
  have digit : 48 ≤ UInt8.ofNat char.toNat ∧ UInt8.ofNat char.toNat ≤ 57 := by
    rw [UInt8.le_iff_toNat_le, UInt8.le_iff_toNat_le, same]
    exact ⟨least, most⟩
  constructor
  · rw [digitValue, if_pos digit, same]
  · omega

/-- Digits are read to their end, whatever comes then. -/
theorem parseIntegerIn_append {chars : List Char} {rest : List UInt8}
    (decimal : ∀ char ∈ chars, char.isDigit = true) (value : Nat) :
    parseIntegerIn 10 value ((chars.map fun digit => UInt8.ofNat digit.toNat) ++ rest) =
      parseIntegerIn 10 (Nat.ofDigitChars 10 chars value) rest := by
  induction chars generalizing value with
  | nil => rfl
  | cons char chars ih =>
      obtain ⟨digit, small⟩ := digitValue_digit (decimal char List.mem_cons_self)
      have later := fun other member => decimal other (List.mem_cons_of_mem _ member)
      have zero : '0'.toNat = 48 := rfl
      rw [List.map_cons, List.cons_append, parseIntegerIn, digit]
      simp only [if_pos small]
      rw [ih later, Nat.ofDigitChars_cons, zero, Nat.mul_comm]

theorem kstrtoullIn_digits {value : Nat} (small : value < 2 ^ 64) :
    kstrtoullIn 10 (digits value ++ [10]) = .ok value := by
  have parsed : parseIntegerIn 10 0 (digits value ++ [10]) = (value, [10]) := by
    rw [digits, parseIntegerIn_append isDigit_toDigits, Nat.ofDigitChars_ten_toDigits]
    rfl
  have some : [(10 : UInt8)].length ≠ (digits value ++ [10]).length := by
    rw [List.length_append, digits, List.length_map]
    have positive := @Nat.length_toDigits_pos 10 value
    omega
  simp only [kstrtoullIn, parseIntegerFixupRadix_ten, parsed, if_neg (Nat.not_le.mpr small), if_neg some,
    or_true, if_true]

/-- The text of `%d` and a newline. -/
def decimalLine (value : Int) : CString where
  bytes := decimal value ++ [10]
  noNul := by
    intro member
    have digits_only : 0 ∉ digits value.natAbs := fun among => absurd (mem_digits among).1 (by decide)
    rcases List.mem_append.mp member with among | newline
    · rw [decimal] at among
      split at among
      · rcases List.mem_cons.mp among with sign | among
        · cases sign
        · exact digits_only among
      · exact digits_only among
    · cases List.mem_singleton.mp newline

theorem kstrtollIn_digits {string : CString} {value : Nat} (text : string.bytes = digits value ++ [10]) :
    kstrtollIn 10 string = kstrtollPositiveIn 10 (digits value ++ [10]) := by
  rw [kstrtollIn, text]
  cases found : digits value with
  | nil => rfl
  | cons first rest =>
      have digit := @mem_digits value first (by rw [found]; exact List.mem_cons_self)
      have minus : first ≠ 45 := by
        rintro rfl
        exact absurd digit.1 (by decide)
      have plus : first ≠ 43 := by
        rintro rfl
        exact absurd digit.1 (by decide)
      simp only [List.cons_append, if_neg minus, if_neg plus]

/-- What is printed for a `long` is read as that `long`. -/
theorem kstrtol_decimalLine {value : Int} (least : -2 ^ 31 ≤ value) (most : value < 2 ^ 31) :
    kstrtol (decimalLine value) = .ok value := by
  have read : kstrtollIn 10 (decimalLine value) = .ok value := by
    have line : (decimalLine value).bytes = decimal value ++ [10] := rfl
    have parsed := @kstrtoullIn_digits value.natAbs (by omega)
    by_cases negative : value < 0
    · have text : (decimalLine value).bytes = 45 :: (digits value.natAbs ++ [10]) := by
        rw [line, decimal, if_pos negative, List.cons_append]
      have small : ¬ 2 ^ 63 < value.natAbs := by omega
      have opposite : -(value.natAbs : Int) = value := by omega
      simp only [kstrtollIn, text, if_true, kstrtollNegativeIn, parsed, if_neg small, opposite]
    · have text : (decimalLine value).bytes = digits value.natAbs ++ [10] := by
        rw [line, decimal, if_neg negative]
      have small : ¬ 2 ^ 63 ≤ value.natAbs := by omega
      have same : (value.natAbs : Int) = value := by omega
      rw [kstrtollIn_digits text]
      simp only [kstrtollPositiveIn, parsed, if_neg small, same]
  simp only [kstrtol, kstrtolIn, read, if_pos (And.intro least most)]

theorem length_decimal_le {value : Int} (least : -2 ^ 31 ≤ value) (most : value < 2 ^ 31) :
    (decimal value).length ≤ 11 := by
  have few : (digits value.natAbs).length ≤ 10 := by
    rw [digits, List.length_map, Nat.length_toDigits_le_iff (by decide) (by decide)]
    omega
  rw [decimal]
  split
  · rw [List.length_cons]
    omega
  · omega

end BbbLkm.Kernel
