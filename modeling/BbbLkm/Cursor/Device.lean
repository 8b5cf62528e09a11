import Mathlib.Logic.Basic

namespace BbbLkm.Cursor

/-! # Bounded devices behind cursors

What a seekable device of fixed size is for, apart from any driver: a cursor
moves within `[0, size]`, a transfer is cut at the end of the device, and the
contents are what the writes so far have left.  Writes are logged newest first.
-/

def transfer (size position count : Nat) : Nat := min count (size - position)

theorem transfer_le_count (size position count : Nat) : transfer size position count ≤ count :=
  Nat.min_le_left _ _

theorem transfer_room {size position : Nat} (inside : position ≤ size) (count : Nat) :
    position + transfer size position count ≤ size := by
  unfold transfer
  omega

theorem transfer_eq_zero_iff {size position : Nat} (inside : position ≤ size) (count : Nat) :
    transfer size position count = 0 ↔ count = 0 ∨ position = size := by
  unfold transfer
  omega

/-- A transfer in two parts: the second one starts where the first one was cut. -/
theorem transfer_add (size position first second : Nat) :
    transfer size position (first + second) =
      transfer size position first +
        transfer size (position + transfer size position first) second := by
  unfold transfer
  omega

/-- Where a seek counts from. -/
inductive Origin where
  | start
  | current
  | finish
deriving DecidableEq

def Origin.base (size : Nat) (position : Int) : Origin → Int
  | start => 0
  | current => position
  | finish => size

def clamp (size : Nat) (target : Int) : Int := max 0 (min target size)

/-- Where a seek puts the cursor: at the place it names, or at the nearest one
that the device has. -/
def seek (size : Nat) (position : Int) (origin : Origin) (offset : Int) : Int :=
  clamp size (origin.base size position + offset)

theorem Origin.base_range {size : Nat} {position : Int} (lower : 0 ≤ position)
    (upper : position ≤ size) (origin : Origin) :
    0 ≤ origin.base size position ∧ origin.base size position ≤ size := by
  cases origin with
  | start => exact ⟨Int.le_refl 0, Int.natCast_nonneg size⟩
  | current => exact ⟨lower, upper⟩
  | finish => exact ⟨Int.natCast_nonneg size, Int.le_refl _⟩

theorem clamp_range (size : Nat) (target : Int) : 0 ≤ clamp size target ∧ clamp size target ≤ size := by
  unfold clamp
  omega

variable {Device Byte : Type*} [DecidableEq Device]

/-- A completed write: `bytes` stored at `start` of a device. -/
structure Write (Device Byte : Type*) where
  device : Device
  start : Nat
  bytes : List Byte

def Write.byteAt? (write : Write Device Byte) (device : Device) (index : Nat) : Option Byte :=
  if write.device = device ∧ write.start ≤ index then write.bytes[index - write.start]? else none

def Write.apply (write : Write Device Byte) (contents : Device → Nat → Byte) :
    Device → Nat → Byte :=
  fun device index => (write.byteAt? device index).getD (contents device index)

def lastWritten (log : List (Write Device Byte)) (device : Device) (index : Nat) : Option Byte :=
  log.findSome? fun write => write.byteAt? device index

def replay (initial : Device → Nat → Byte) : List (Write Device Byte) → Device → Nat → Byte
  | [] => initial
  | write :: older => write.apply (replay initial older)

/-- Last writer wins: each byte is the one most recently written to it, or the
initial one if no write has reached it. -/
theorem replay_eq_lastWritten (initial : Device → Nat → Byte) (log : List (Write Device Byte))
    (device : Device) (index : Nat) :
    replay initial log device index = (lastWritten log device index).getD (initial device index) := by
  induction log with
  | nil => rfl
  | cons write older ih =>
      simp only [replay, Write.apply, lastWritten, List.findSome?_cons]
      cases reached : write.byteAt? device index with
      | none => simpa [lastWritten] using ih
      | some byte => rfl

theorem Write.byteAt?_other {write : Write Device Byte} {device : Device}
    (other : write.device ≠ device) (index : Nat) : write.byteAt? device index = none := by
  simp [Write.byteAt?, other]

end BbbLkm.Cursor
