import Mathlib.Algebra.GroupWithZero.Nat
import BbbLkm.Kernel.UserCopy
import BbbLkm.Memory.Words

namespace BbbLkm.PseudoN

open BbbLkm.Memory BbbLkm.Kernel

/-! # The `pseudo_n` driver: device table and file operations

`loff_t` is `Int64`; `size_t`, `unsigned`, `dev_t` and pointers are `UInt32`;
`int` and `ssize_t` are `Int32`, as on the ARM target.
-/

def RDONLY : Int32 := 0x01
def WRONLY : Int32 := 0x10
def RDWR : Int32 := 0x11

def FMODE_READ : UInt32 := 0x1
def FMODE_WRITE : UInt32 := 0x2

def SEEK_SET : Int32 := 0
def SEEK_CUR : Int32 := 1
def SEEK_END : Int32 := 2

/-- `struct pseudo_dev_private_data`.  `buffer` is the address of a static
array of `size` bytes, so it does not wrap and its size is an `int`. -/
structure PseudoDevPrivateData where
  buffer : UInt32
  size : UInt32
  serialNumber : String
  perm : Int32
  sizeFits : size.toNat ≤ INT_MAX
  placed : buffer.toNat + size.toNat ≤ 2 ^ 32

def PseudoDevPrivateData.region (data : PseudoDevPrivateData) : Region where
  base := data.buffer
  size := data.size.toNat
  fits := data.placed

/-- The device table of `pseudo_drv_data`, whose buffers are separate arrays. -/
structure PseudoDrvData where
  noOfDevices : Nat
  pseudoDevData : Fin noOfDevices → PseudoDevPrivateData
  apart : ∀ left right, left ≠ right →
    (pseudoDevData left).region.Disjoint (pseudoDevData right).region

abbrev NO_OF_DEVICES : Nat := 4

instance noOfDevices_neZero : NeZero NO_OF_DEVICES := ⟨by decide⟩

def MEM_SIZE_DEV1 : UInt32 := 1024
def MEM_SIZE_DEV2 : UInt32 := 512
def MEM_SIZE_DEV3 : UInt32 := 1024
def MEM_SIZE_DEV4 : UInt32 := 512

/-- The four rows of `pseudo_drv_data.pseudo_dev_data`, without the buffer
addresses, which the linker chooses: size, serial number and permission. -/
def pseudoDevRow : Fin NO_OF_DEVICES → UInt32 × String × Int32
  | 0 => (MEM_SIZE_DEV1, "PSEUDODEV1", RDONLY)
  | 1 => (MEM_SIZE_DEV2, "PSEUDODEV2", WRONLY)
  | 2 => (MEM_SIZE_DEV3, "PSEUDODEV3", RDWR)
  | 3 => (MEM_SIZE_DEV4, "PSEUDODEV4", RDWR)

/-- Where the linker put `pseudo_device_buf1` to `pseudo_device_buf4`. -/
structure Placement where
  pseudoDeviceBuf : Fin NO_OF_DEVICES → UInt32
  placed : ∀ row, (pseudoDeviceBuf row).toNat + (pseudoDevRow row).1.toNat ≤ 2 ^ 32
  apart : ∀ left right, left ≠ right →
    (Region.mk (pseudoDeviceBuf left) (pseudoDevRow left).1.toNat (placed left)).Disjoint
      (Region.mk (pseudoDeviceBuf right) (pseudoDevRow right).1.toNat (placed right))

theorem pseudoDevRow_sizeFits : ∀ row, (pseudoDevRow row).1.toNat ≤ INT_MAX := by decide

def pseudoDevice (placement : Placement) (row : Fin NO_OF_DEVICES) : PseudoDevPrivateData where
  buffer := placement.pseudoDeviceBuf row
  size := (pseudoDevRow row).1
  serialNumber := (pseudoDevRow row).2.1
  perm := (pseudoDevRow row).2.2
  sizeFits := pseudoDevRow_sizeFits row
  placed := placement.placed row

def pseudoDrvData (placement : Placement) : PseudoDrvData where
  noOfDevices := NO_OF_DEVICES
  pseudoDevData := pseudoDevice placement
  apart := placement.apart

def adjacentBuffers : Placement where
  pseudoDeviceBuf
    | 0 => 0xBF002000
    | 1 => 0xBF002400
    | 2 => 0xBF002600
    | 3 => 0xBF002A00
  placed := by decide
  apart := by decide

/-- `max_size` of the file operations, as an operand of `loff_t` arithmetic. -/
def PseudoDevPrivateData.maxSize (data : PseudoDevPrivateData) : Int64 :=
  data.size.toInt32.toInt64

/-- `pseudo_lseek`: the value returned and the file position afterwards. -/
def pseudoLseek (data : PseudoDevPrivateData) (fPos offset : Int64) (orig : Int32) : Int64 × Int64 :=
  let target : Option Int64 :=
    if orig = SEEK_SET then some offset
    else if orig = SEEK_CUR then some (fPos + offset)
    else if orig = SEEK_END then some (data.maxSize + offset)
    else none
  match target with
  | none => (Int64.ofInt (-EINVAL), fPos)
  | some newPos =>
      let newPos := if newPos > data.maxSize then data.maxSize else newPos
      let newPos := if newPos < 0 then 0 else newPos
      (newPos, newPos)

def adjustSize (data : PseudoDevPrivateData) (size : UInt32) (offset : Int64) : UInt32 :=
  if offset + widen size > data.maxSize then truncate (data.maxSize - offset) else size

/-- What `pseudo_read` returns, stores to `*offset`, delivers to the user and
reads from. -/
structure ReadResult where
  ret : Int32
  offset : Int64
  delivered : List UInt8
  touched : List UInt32

def pseudoRead (data : PseudoDevPrivateData) (memory : Mem) (size : UInt32) (offset : Int64)
    (fault : Option Nat) : ReadResult :=
  let size := adjustSize data size offset
  let copy := copyToUser memory (data.buffer + truncate offset) size fault
  if copy.left ≠ 0 then
    { ret := Int32.ofInt (-EFAULT), offset, delivered := copy.delivered, touched := copy.touched }
  else
    { ret := size.toInt32, offset := offset + widen size,
      delivered := copy.delivered, touched := copy.touched }

/-- What `pseudo_write` returns, stores to `*offset`, leaves in memory and
stores to. -/
structure WriteResult where
  ret : Int32
  offset : Int64
  memory : Mem
  touched : List UInt32

def pseudoWrite (data : PseudoDevPrivateData) (memory : Mem) (user : Nat → UInt8) (size : UInt32)
    (offset : Int64) (fault : Option Nat) : WriteResult :=
  let size := adjustSize data size offset
  if size = 0 then { ret := Int32.ofInt (-ENOMEM), offset, memory, touched := [] }
  else
    let copy := copyFromUser memory (data.buffer + truncate offset) user size fault
    if copy.left ≠ 0 then
      { ret := Int32.ofInt (-EFAULT), offset, memory := copy.memory, touched := copy.touched }
    else
      { ret := size.toInt32, offset := offset + widen size,
        memory := copy.memory, touched := copy.touched }

/-- `check_permission`; masking with an `fmode_t` is unsigned. -/
def checkPermission (perm accMode : Int32) : Int :=
  let reads := accMode.toUInt32 &&& FMODE_READ ≠ 0
  let writes := accMode.toUInt32 &&& FMODE_WRITE ≠ 0
  if perm = RDWR then 0
  else if perm = RDONLY ∧ reads ∧ ¬ writes then 0
  else if perm = WRONLY ∧ ¬ reads ∧ writes then 0
  else -EPERM

def pseudoOpen (data : PseudoDevPrivateData) (fMode : UInt32) : Int :=
  checkPermission data.perm fMode.toInt32

end BbbLkm.PseudoN
