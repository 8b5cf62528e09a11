import BbbLkm.Memory.Flat
import BbbLkm.Kernel.Errno

namespace BbbLkm.Kernel

open BbbLkm.Memory

def INT_MAX : Nat := 2 ^ 31 - 1

/-- How many of `count` bytes are copied before the fault, if there is one.  Where
it comes is the environment's choice. -/
def reached (count : Nat) (fault : Option Nat) : Nat :=
  match fault with
  | none => count
  | some done => min done count

/-- How many bytes go across.  `check_copy_size` refuses a copy of more than
`INT_MAX` bytes whole. -/
def copied (count : UInt32) (fault : Option Nat) : Nat :=
  if INT_MAX < count.toNat then 0 else reached count.toNat fault

@[simp] theorem reached_none (count : Nat) : reached count none = count := rfl

theorem reached_le (count : Nat) (fault : Option Nat) : reached count fault ≤ count := by
  cases fault with
  | none => exact Nat.le_refl _
  | some done => exact Nat.min_le_right _ _

theorem copied_of_admitted {count : UInt32} (admitted : count.toNat ≤ INT_MAX) (fault : Option Nat) :
    copied count fault = reached count.toNat fault := by
  rw [copied, if_neg (Nat.not_lt.mpr admitted)]

theorem copied_le (count : UInt32) (fault : Option Nat) : copied count fault ≤ count.toNat := by
  unfold copied
  split
  · exact Nat.zero_le _
  · exact reached_le _ _

/-- The bytes left uncopied, the bytes the user received and the kernel
addresses they came from. -/
structure CopyToUser where
  left : UInt32
  delivered : List UInt8
  touched : List UInt32

def copyToUser (memory : Mem) (source count : UInt32) (fault : Option Nat) : CopyToUser where
  left := UInt32.ofNat (count.toNat - copied count fault)
  delivered := load memory source (copied count fault)
  touched := span source (copied count fault)

/-- The bytes left uncopied, the memory afterwards and the kernel addresses
that were stored to. -/
structure CopyFromUser where
  left : UInt32
  memory : Mem
  touched : List UInt32

/-- A copy that faults has stored the bytes before the fault and zero-filled
the rest of the destination. -/
def copyFromUser (memory : Mem) (target : UInt32) (user : Nat → UInt8) (count : UInt32)
    (fault : Option Nat) : CopyFromUser :=
  if INT_MAX < count.toNat then { left := count, memory, touched := [] }
  else
    { left := UInt32.ofNat (count.toNat - copied count fault)
      memory := store memory target count.toNat
        fun index => if index < copied count fault then user index else 0
      touched := span target count.toNat }

/-- Memory changes at most at the addresses the copy touched. -/
theorem copyFromUser_frame {memory : Mem} {target count : UInt32} {user : Nat → UInt8}
    {fault : Option Nat} {address : UInt32}
    (untouched : address ∉ (copyFromUser memory target user count fault).touched) :
    (copyFromUser memory target user count fault).memory address = memory address := by
  by_cases refused : INT_MAX < count.toNat
  · simp only [copyFromUser, if_pos refused]
  · simp only [copyFromUser, if_neg refused] at untouched ⊢
    exact store_frame untouched

end BbbLkm.Kernel
