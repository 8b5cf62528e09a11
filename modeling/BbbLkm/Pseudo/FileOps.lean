import BbbLkm.PseudoN.Transfer

namespace BbbLkm.Pseudo

open BbbLkm.Memory BbbLkm.Kernel
open BbbLkm.PseudoN (SEEK_SET SEEK_CUR SEEK_END RDWR ReadResult WriteResult PseudoDevPrivateData)

def MEM_SIZE : Int32 := 512

/-- Where the linker put `pseudo_device_buf`. -/
structure Placement where
  pseudoDeviceBuf : UInt32
  placed : pseudoDeviceBuf.toNat + 512 ≤ 2 ^ 32

/-- `pseudo_lseek`: the value returned and the file position afterwards. -/
def pseudoLseek (fPos offset : Int64) (orig : Int32) : Int64 × Int64 :=
  if orig = SEEK_SET then (offset, fPos)
  else if orig = SEEK_CUR then (fPos + offset, fPos)
  else if orig = SEEK_END then (MEM_SIZE.toInt64 - offset, fPos)
  -- the clamps and the store to `file->f_pos` stand after this `return`, in the `switch`
  else (Int64.ofInt (-EINVAL), fPos)

def adjustSize (size : UInt32) (offset : Int64) : UInt32 :=
  if offset + widen size > MEM_SIZE.toInt64 then truncate (MEM_SIZE.toInt64 - offset) else size

def pseudoRead (placement : Placement) (memory : Mem) (size : UInt32) (offset : Int64)
    (fault : Option Nat) : ReadResult :=
  let size := adjustSize size offset
  let copy := copyToUser memory (placement.pseudoDeviceBuf + truncate offset) size fault
  if copy.left ≠ 0 then
    { ret := Int32.ofInt (-EFAULT), offset, delivered := copy.delivered, touched := copy.touched }
  else
    { ret := size.toInt32, offset := offset + widen size,
      delivered := copy.delivered, touched := copy.touched }

def pseudoWrite (placement : Placement) (memory : Mem) (user : Nat → UInt8) (size : UInt32)
    (offset : Int64) (fault : Option Nat) : WriteResult :=
  let size := adjustSize size offset
  if size = 0 then { ret := Int32.ofInt (-ENOMEM), offset, memory, touched := [] }
  else
    let copy := copyFromUser memory (placement.pseudoDeviceBuf + truncate offset) user size fault
    if copy.left ≠ 0 then
      { ret := Int32.ofInt (-EFAULT), offset, memory := copy.memory, touched := copy.touched }
    else
      { ret := size.toInt32, offset := offset + widen size,
        memory := copy.memory, touched := copy.touched }

def pseudoOpen : Int := 0

def pseudoRelease : Int := 0

/-- The device as a row that the table of `pseudo_n` could have. -/
def Placement.device (placement : Placement) : PseudoDevPrivateData where
  buffer := placement.pseudoDeviceBuf
  size := 512
  serialNumber := ""
  perm := RDWR
  sizeFits := by decide
  placed := placement.placed

variable {placement : Placement}

theorem device_size : placement.device.size.toNat = 512 := rfl

theorem maxSize_device : placement.device.maxSize = MEM_SIZE.toInt64 := rfl

theorem pseudoRead_eq (placement : Placement) (memory : Mem) (size : UInt32) (offset : Int64)
    (fault : Option Nat) :
    pseudoRead placement memory size offset fault =
      PseudoN.pseudoRead placement.device memory size offset fault := by
  rw [pseudoRead, PseudoN.pseudoRead, adjustSize, PseudoN.adjustSize, maxSize_device]
  rfl

theorem pseudoWrite_eq (placement : Placement) (memory : Mem) (user : Nat → UInt8) (size : UInt32)
    (offset : Int64) (fault : Option Nat) :
    pseudoWrite placement memory user size offset fault =
      PseudoN.pseudoWrite placement.device memory user size offset fault := by
  rw [pseudoWrite, PseudoN.pseudoWrite, adjustSize, PseudoN.adjustSize, maxSize_device]
  rfl

theorem pseudoLseek_keeps (fPos offset : Int64) (orig : Int32) :
    (pseudoLseek fPos offset orig).2 = fPos := by
  unfold pseudoLseek
  split
  · rfl
  · split
    · rfl
    · split <;> rfl

end BbbLkm.Pseudo
