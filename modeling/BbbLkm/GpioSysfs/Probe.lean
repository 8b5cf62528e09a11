import BbbLkm.Machine.Managed
import BbbLkm.Kernel.DeviceTree
import BbbLkm.Kernel.DriverCore

namespace BbbLkm.GpioSysfs

open BbbLkm.Machine BbbLkm.Kernel

/-! # The driver `gpio-sysfs`

`probe` creates one class device for each available child of the platform
device's node and keeps them in an array; `remove` unregisters what the array
holds.  The array and its length are global to the driver.
-/

structure ChildNode where
  available : Bool
  label : Option CString

/-- The bytes of a `struct gpio_device_private_data` from its address on: 20 of
`label` and 4 of `desc`, and beyond it what a longer label has overwritten. -/
structure GpioDevicePrivateData where
  address : Nat
  bytes : List UInt8
deriving DecidableEq

def sizeofLabel : Nat := 20

def sizeofData : Nat := 24

inductive DevicePointer where
  | null
  | device (id : Nat)
  | error (rc : Errno)
  /-- What is read where there is no slot, if the read does not fault. -/
  | wild
deriving DecidableEq

/-- `gpio_drv_data.dev`, with the slots of the block that it points to: they
can be reached in no other way. -/
inductive DeviceArray where
  | null
  | array (block : Nat) (slots : List DevicePointer)
deriving DecidableEq

structure ClassDevice where
  id : Nat
  parent : Nat
  data : GpioDevicePrivateData
  /-- The label, which `device_create_with_groups` takes as its format.  There
  is none when no NUL is found among the known bytes. -/
  format : Option (List UInt8)
deriving DecidableEq

structure GpioDriverPrivateData where
  totalDevices : Nat
  dev : DeviceArray

structure World extends GpioDriverPrivateData where
  /-- The class devices that are registered, newest first. -/
  devices : List ClassDevice
  nextDevice : Nat
  /-- What `device_unregister` has been called with, oldest first. -/
  unregistered : List DevicePointer
  devm : Managed Nat
  /-- The references to child nodes that have been taken and not dropped. -/
  references : List (Nat × Nat)

structure ChildCalls where
  allocated : Bool
  gpiod : Except Errno UInt32
  directionOutput : Except Errno Unit
  deviceCreate : Except Errno Unit

/-- The outcomes for the `i`-th available child are those at `i`. -/
structure ProbeCalls where
  arrayAllocated : Bool
  child : Nat → ChildCalls

def ascii (text : String) : List UInt8 := text.toList.map fun character => character.val.toUInt8

/-- Bytes that are stored to the data from an offset on. -/
structure DataStore where
  offset : Nat
  stored : List UInt8

def DataStore.writes (store : DataStore) : List Nat :=
  (List.range store.stored.length).map fun index => store.offset + index

def overwrite (bytes : List UInt8) (store : DataStore) : List UInt8 :=
  bytes.take store.offset ++ store.stored ++ bytes.drop (store.offset + store.stored.length)

/-- What is stored to `dev_data->label` for the `i`-th available child: a bounded
`snprintf` where the label is missing and an unbounded `strcpy` where it is not. -/
def labelStore (label : Option CString) (i : Nat) : DataStore where
  offset := 0
  stored := match label with
    | none => (ascii "unknown gpio" ++ ascii (toString i)).take (sizeofLabel - 1) ++ [0]
    | some name => name.bytes ++ [0]

def pointerBytes (pointer : UInt32) : List UInt8 :=
  [pointer.toUInt8, (pointer >>> 8).toUInt8, (pointer >>> 16).toUInt8, (pointer >>> 24).toUInt8]

def descStore (desc : UInt32) : DataStore where
  offset := sizeofLabel
  stored := pointerBytes desc

def childStores (label : Option CString) (i : Nat) (desc : UInt32) : List DataStore :=
  [labelStore label i, descStore desc]

def childBytes (label : Option CString) (i : Nat) (desc : UInt32) : List UInt8 :=
  (childStores label i desc).foldl overwrite (List.replicate sizeofData 0)

def readString (bytes : List UInt8) : Option (List UInt8) :=
  if 0 ∈ bytes then some (bytes.takeWhile fun byte => byte ≠ 0) else none

def setSlot (dev : DeviceArray) (i : Nat) (pointer : DevicePointer) : Option DeviceArray :=
  match dev with
  | .null => none
  | .array block slots =>
      if i < slots.length then some (.array block (slots.set i pointer)) else none

/-- The statement that stores the result of `device_create_with_groups`, and the
test of it. -/
def createDevice (pdev : Nat) (i : Nat) (data : GpioDevicePrivateData) (outcome : Except Errno Unit)
    (world : World) : Except Refusal Unit × World :=
  match outcome with
  | .error rc =>
      match setSlot world.dev i (.error rc) with
      | none => (.error .oops, world)
      | some dev => (.error (.errno rc), { world with dev })
  | .ok _ =>
      let device := {
        id := world.nextDevice, parent := pdev, data, format := readString data.bytes }
      let world := { world with
        devices := device :: world.devices, nextDevice := world.nextDevice + 1 }
      match setSlot world.dev i (.device device.id) with
      | none => (.error .oops, world)
      | some dev => (.ok (), { world with dev })

def probeChild (pdev : Nat) (child : ChildNode) (calls : ChildCalls) (i : Nat) (world : World) :
    Except Refusal Unit × World :=
  if !calls.allocated then (.error (.errno .noMemory), world) else
  let address := world.devm.next
  let world := { world with devm := world.devm.allocate pdev }
  match calls.gpiod with
  | .error rc => (.error (.errno rc), world)
  | .ok desc =>
      match calls.directionOutput with
      | .error rc => (.error (.errno rc), world)
      | .ok _ =>
          createDevice pdev i { address, bytes := childBytes child.label i desc }
            calls.deviceCreate world

/-- `for_each_available_child_of_node` from the child at `position` on, which
holds a reference to the child that its body runs for. -/
def probeChildren (pdev : Nat) (calls : Nat → ChildCalls) :
    List ChildNode → (position i : Nat) → World → Except Refusal Unit × World
  | [], _, _, world => (.ok (), world)
  | child :: rest, position, i, world =>
      if !child.available then probeChildren pdev calls rest (position + 1) i world else
      let world := { world with references := (pdev, position) :: world.references }
      match probeChild pdev child (calls i) i world with
      | (.error refusal, world) => (.error refusal, world)
      | (.ok _, world) =>
          probeChildren pdev calls rest (position + 1) (i + 1)
            { world with references := world.references.erase (pdev, position) }

/-- The array of `gpio_drv_data`.  The result of its allocation is not tested. -/
def allocateArray (pdev : Nat) (allocated : Bool) (world : World) : World :=
  if allocated then
    { world with
      dev := .array world.devm.next (List.replicate world.totalDevices .null)
      devm := world.devm.allocate pdev }
  else { world with dev := .null }

def gpioSysfsProbe (pdev : Nat) (children : List ChildNode) (calls : ProbeCalls) (world : World) :
    Except Refusal Unit × World :=
  let world := { world with totalDevices := children.length }
  if world.totalDevices = 0 then (.error (.errno .invalid), world) else
  probeChildren pdev calls.child children 0 0 (allocateArray pdev calls.arrayAllocated world)

def readSlot (world : World) (i : Nat) : DevicePointer :=
  match world.dev with
  | .null => .wild
  | .array block slots =>
      if world.devm.live.any fun entry => entry.2 = block then slots.getD i .wild else .wild

-- what the kernel makes of a pointer to no registered device is left open
def deviceUnregister (world : World) (pointer : DevicePointer) : World :=
  { world with
    devices := world.devices.filter fun device => .device device.id ≠ pointer
    unregistered := world.unregistered ++ [pointer] }

def removalSlots (world : World) : List DevicePointer :=
  (List.range world.totalDevices).map (readSlot world)

def gpioSysfsRemove (world : World) : World := (removalSlots world).foldl deviceUnregister world

def gpioPlatformDriver : Driver World (List ChildNode) ProbeCalls Unit where
  probe := gpioSysfsProbe
  remove _ _ world := gpioSysfsRemove world
  reclaim pdev world := { world with devm := world.devm.reclaim pdev }

def loaded : World where
  totalDevices := 0
  dev := .null
  devices := []
  nextDevice := 0
  unregistered := []
  devm := .empty
  references := []

end BbbLkm.GpioSysfs
