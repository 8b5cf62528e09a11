import BbbLkm.Machine.Managed
import BbbLkm.Kernel.CharDevices
import BbbLkm.Kernel.DeviceTree
import BbbLkm.Kernel.DriverCore
import BbbLkm.Kernel.Slab

namespace BbbLkm.PseudoDt

open BbbLkm.Machine BbbLkm.Kernel

/-! # The platform driver `pseudo_driver_dt`

`probe` takes its platform data from the device tree, or from the device setup
where the node does not match, and numbers the device by the counter
`total_devices`.  Numbers and counter are integers: each bound device holds
memory, so that none of their 32 bits overflows.
-/

structure DeviceConfig where
  configItem1 : Int
  configItem2 : Int

inductive PesudoDevNames where
  | pseudoDevA1x
  | pseudoDevB1x
  | pseudoDevC1x
  | pseudoDevD1x

namespace PesudoDevNames

/-- The value that `(int) match->data` gives back. -/
def toInt : PesudoDevNames → Int
  | pseudoDevA1x => 0
  | pseudoDevB1x => 1
  | pseudoDevC1x => 2
  | pseudoDevD1x => 3

end PesudoDevNames

def pseudoDevConfig : List DeviceConfig := [⟨60, 10⟩, ⟨50, 20⟩, ⟨40, 30⟩, ⟨30, 40⟩]

/-- `pseudo_dev_config[driver_data]`, where the array has that entry. -/
def pseudoDevConfig? (driverData : Int) : Option DeviceConfig :=
  if driverData < 0 then none else pseudoDevConfig[driverData.toNat]?

def pseudoDeviceDtMatch : List (String × PesudoDevNames) := [
  ("pseudo-dev-A1x", .pseudoDevA1x),
  ("pseudo-dev-B1x", .pseudoDevB1x),
  ("pseudo-dev-C1x", .pseudoDevC1x),
  ("pseudo-dev-D1x", .pseudoDevD1x)]

structure PseudoPlatformData where
  size : Int32
  perm : Int32
  serialNumber : CString
deriving DecidableEq

structure DeviceNode where
  compatible : List String
  /-- `org,device-serial-number`. -/
  serialNumber : Option CString
  /-- `org,size`. -/
  size : Option UInt32
  /-- `org,perm`. -/
  perm : Option UInt32

structure PlatformDevice where
  ofNode : Option DeviceNode
  platformData : Option PseudoPlatformData
  /-- The `driver_data` of `id_entry`, null unless an id table was matched. -/
  idEntry : Option Int

def ofMatchDevice (device : PlatformDevice) : Option PesudoDevNames :=
  device.ofNode.bind fun node => ofMatch pseudoDeviceDtMatch node.compatible

/-- The private data of a device, in the block `address`.  Its `pseudo_cdev` is
the cdev of that block. -/
structure PseudoDevPrivateData where
  address : Nat
  pdata : PseudoPlatformData
  buffer : Pointer
  devNum : Int
deriving DecidableEq

structure PseudoDrvPrivateData where
  totalDevices : Int
  deviceNumberBase : Int

/-- The driver's global data and what it has registered.  A node is named by
the number after `pseudo`. -/
structure World extends PseudoDrvPrivateData where
  cdevs : List Cdev
  /-- Every cdev that `cdev_add` has added, also those that are deleted since. -/
  added : List Cdev
  nodes : List (Node Int)
  devm : Managed Nat

structure ProbeCalls where
  platdataAllocated : Bool
  dataAllocated : Bool
  bufferAllocated : Bool
  cdevAdd : Except Errno Unit
  deviceCreate : Except Errno Unit

def ProbeCalls.succeeding : ProbeCalls where
  platdataAllocated := true
  dataAllocated := true
  bufferAllocated := true
  cdevAdd := .ok ()
  deviceCreate := .ok ()

/-- `pseudo_device_get_platdata_from_dt`: an error pointer, null or the data. -/
def pseudoDeviceGetPlatdataFromDt (pdev : Nat) (device : PlatformDevice) (allocated : Bool)
    (devm : Managed Nat) : Except Errno (Option PseudoPlatformData) × Managed Nat :=
  match device.ofNode with
  | none => (.ok none, devm)
  | some node =>
      if !allocated then (.error .noMemory, devm) else
      let devm := devm.allocate pdev
      match node.serialNumber, node.size, node.perm with
      | none, _, _ => (.error .invalid, devm)
      | some _, none, _ => (.error .invalid, devm)
      | some _, some _, none => (.error .invalid, devm)
      | some serialNumber, some size, some perm =>
          (.ok (some { size := size.toInt32, perm := perm.toInt32, serialNumber }), devm)

def probePlatformData (pdev : Nat) (device : PlatformDevice) (calls : ProbeCalls)
    (devm : Managed Nat) : Except Refusal (Option PseudoPlatformData × Int) × Managed Nat :=
  match ofMatchDevice device with
  | some name =>
      match pseudoDeviceGetPlatdataFromDt pdev device calls.platdataAllocated devm with
      | (.error rc, devm) => (.error (.errno rc), devm)
      | (.ok pdata, devm) => (.ok (pdata, name.toInt), devm)
  | none =>
      match device.idEntry with
      -- `pdev->id_entry->driver_data` is read before `pdata` is tested
      | none => (.error .oops, devm)
      | some driverData => (.ok (device.platformData, driverData), devm)

/-- Steps 1 to 3 of the probe: the private data and the device buffer. -/
def probeAllocate (pdev : Nat) (calls : ProbeCalls) (pdata : Option PseudoPlatformData)
    (driverData : Int) (devm : Managed Nat) : Except Refusal PseudoDevPrivateData × Managed Nat :=
  match pdata with
  | none => (.error (.errno .invalid), devm)
  | some pdata =>
      if !calls.dataAllocated then (.error (.errno .noMemory), devm) else
      let address := devm.next
      let devm := devm.allocate pdev
      match pseudoDevConfig? driverData with
      | none => (.error .oops, devm)
      | some _ =>
          if !calls.bufferAllocated then (.error (.errno .noMemory), devm) else
          let obtained := devmKzalloc devm pdev pdata.size.toUInt32.toNat
          (.ok { address, pdata, buffer := obtained.1, devNum := 0 }, obtained.2)

def nextDevNum (world : World) : Int := world.deviceNumberBase + world.totalDevices

/-- Steps 4 to 6 of the probe. -/
def probeRegister (calls : ProbeCalls) (data : PseudoDevPrivateData) (world : World) :
    Except Refusal PseudoDevPrivateData × World :=
  let data := { data with devNum := nextDevNum world }
  let pseudoCdev := ⟨data.address, data.devNum⟩
  match cdevAdd world.cdevs pseudoCdev calls.cdevAdd with
  | .error rc => (.error (.errno rc), world)
  | .ok cdevs =>
      let world := { world with cdevs, added := pseudoCdev :: world.added }
      match deviceCreate world.nodes ⟨data.devNum, world.totalDevices⟩ calls.deviceCreate with
      | .error rc => (.error (.errno rc), { world with cdevs := cdevDel cdevs data.address })
      | .ok nodes => (.ok data, { world with nodes, totalDevices := world.totalDevices + 1 })

/-- The probe of both device tree drivers up to `total_devices++`. -/
def probeDevice (pdev : Nat) (device : PlatformDevice) (calls : ProbeCalls) (world : World) :
    Except Refusal PseudoDevPrivateData × World :=
  match probePlatformData pdev device calls world.devm with
  | (.error refusal, devm) => (.error refusal, { world with devm })
  | (.ok (pdata, driverData), devm) =>
      match probeAllocate pdev calls pdata driverData devm with
      | (.error refusal, devm) => (.error refusal, { world with devm })
      | (.ok data, devm) => probeRegister calls data { world with devm }

def pseudoPlatformDriverProbe (pdev : Nat) (device : PlatformDevice) (calls : ProbeCalls)
    (world : World) : Except Refusal PseudoDevPrivateData × World :=
  probeDevice pdev device calls world

def pseudoPlatformDriverRemove (_pdev : Nat) (deviceData : PseudoDevPrivateData) (world : World) :
    World :=
  { world with
    nodes := deviceDestroy world.nodes deviceData.devNum
    cdevs := cdevDel world.cdevs deviceData.address
    totalDevices := world.totalDevices - 1 }

def reclaim (pdev : Nat) (world : World) : World := { world with devm := world.devm.reclaim pdev }

def pseudoPlatformDriver : Driver World PlatformDevice ProbeCalls PseudoDevPrivateData where
  probe := pseudoPlatformDriverProbe
  remove := pseudoPlatformDriverRemove
  reclaim := reclaim

def loaded (base : Int) : World where
  totalDevices := 0
  deviceNumberBase := base
  cdevs := []
  added := []
  nodes := []
  devm := .empty

theorem pcdev1_serial_noNul : (0 : UInt8) ∉ [80, 83, 69, 85, 68, 79, 95, 49] := by decide

def pcdev1 : PlatformDevice where
  ofNode := some {
    compatible := ["pseudo-dev-A1x"]
    serialNumber := some ⟨[80, 83, 69, 85, 68, 79, 95, 49], pcdev1_serial_noNul⟩
    size := some 512
    perm := some 0x11 }
  platformData := none
  idEntry := none

end BbbLkm.PseudoDt
