import BbbLkm.Kernel.DeviceTree
import BbbLkm.Kernel.Errno
import Mathlib.Algebra.Group.Int.Defs
import Mathlib.Algebra.Group.Nat.Defs
import Mathlib.Data.List.Basic

namespace BbbLkm.Kernel

def digitValue (byte : UInt8) : Option Nat :=
  if 48 ≤ byte ∧ byte ≤ 57 then some (byte.toNat - 48)
  else if 97 ≤ byte ||| 32 ∧ byte ||| 32 ≤ 102 then some ((byte ||| 32).toNat - 87)
  else none

def isHexPrefix (first second : UInt8) : Bool := first = 48 && second ||| 32 = 120

/-- `_parse_integer_fixup_radix`: the base, and the string behind its prefix. -/
def parseIntegerFixupRadix (base : Nat) (bytes : List UInt8) : Nat × List UInt8 :=
  let radix :=
    if base ≠ 0 then base else
    match bytes with
    | first :: second :: third :: _ =>
        if first ≠ 48 then 10 else
        if isHexPrefix first second && (digitValue third).isSome then 16 else 8
    | first :: _ => if first = 48 then 8 else 10
    | [] => 10
  match bytes with
  | first :: second :: rest =>
      if radix = 16 ∧ isHexPrefix first second then (radix, rest) else (radix, bytes)
  | _ => (radix, bytes)

/-- The number that the leading digits denote, and what follows them. -/
def parseIntegerIn (base : Nat) (value : Nat) : List UInt8 → Nat × List UInt8
  | [] => (value, [])
  | byte :: rest =>
      match digitValue byte with
      | none => (value, byte :: rest)
      | some digit =>
          if digit < base then parseIntegerIn base (value * base + digit) rest
          else (value, byte :: rest)

/-- `_kstrtoull`, which allows one newline at the end. -/
def kstrtoullIn (base : Nat) (bytes : List UInt8) : Except Errno Nat :=
  let radix := parseIntegerFixupRadix base bytes
  let parsed := parseIntegerIn radix.1 0 radix.2
  if 2 ^ 64 ≤ parsed.1 then .error .range else
  if parsed.2.length = radix.2.length then .error .invalid else
  if parsed.2 = [] ∨ parsed.2 = [10] then .ok parsed.1 else .error .invalid

def kstrtollPositiveIn (base : Nat) (bytes : List UInt8) : Except Errno Int :=
  match kstrtoullIn base bytes with
  | .error rc => .error rc
  | .ok value => if 2 ^ 63 ≤ value then .error .range else .ok value

def kstrtollNegativeIn (base : Nat) (bytes : List UInt8) : Except Errno Int :=
  match kstrtoullIn base bytes with
  | .error rc => .error rc
  | .ok value => if 2 ^ 63 < value then .error .range else .ok (-value)

def kstrtollIn (base : Nat) (string : CString) : Except Errno Int :=
  match string.bytes with
  | [] => kstrtollPositiveIn base []
  | sign :: rest =>
      if sign = 45 then kstrtollNegativeIn base rest
      else if sign = 43 then kstrtollPositiveIn base rest
      else kstrtollPositiveIn base (sign :: rest)

/-- A `long` has 32 bits, and the base is at most 16. -/
def kstrtolIn (base : Nat) (string : CString) : Except Errno Int :=
  match kstrtollIn base string with
  | .error rc => .error rc
  | .ok value => if -2 ^ 31 ≤ value ∧ value < 2 ^ 31 then .ok value else .error .range

def kstrtol (string : CString) : Except Errno Int := kstrtolIn 10 string

theorem parseIntegerFixupRadix_ten (bytes : List UInt8) : parseIntegerFixupRadix 10 bytes = (10, bytes) := by
  have given : (10 : Nat) ≠ 0 := by decide
  simp only [parseIntegerFixupRadix, if_pos given]
  split
  · simp
  · rfl

theorem kstrtol_range {string : CString} {value : Int} (parsed : kstrtol string = .ok value) :
    -2 ^ 31 ≤ value ∧ value < 2 ^ 31 := by
  rw [kstrtol, kstrtolIn] at parsed
  split at parsed
  · cases parsed
  · split at parsed
    · rename_i within
      cases parsed
      exact within
    · cases parsed

/-- `-12` and a newline, `-0x1F` and `017`. -/
example : kstrtol ⟨[45, 49, 50, 10], by decide⟩ = .ok (-12) ∧
    kstrtolIn 0 ⟨[45, 48, 120, 49, 70], by decide⟩ = .ok (-31) ∧
    kstrtolIn 0 ⟨[48, 49, 55], by decide⟩ = .ok 15 := by decide

end BbbLkm.Kernel
