import Mathlib.Algebra.Group.Int.Defs
import Mathlib.Algebra.Group.Nat.Defs
import BbbLkm.Machine.Account
import BbbLkm.Kernel.PlatformBus
import BbbLkm.PseudoDt.Probe

namespace BbbLkm.PseudoPlatform

open BbbLkm.Machine BbbLkm.Kernel
open BbbLkm.PseudoDt (DeviceConfig PesudoDevNames PseudoPlatformData pseudoDevConfig?)

def MAX_DEVICES : Nat := 10

def pseudoDeviceIds : List PlatformDeviceId :=
  designated .empty 0 [] [
    (some 0, ⟨"pseudo-dev-A1x", PesudoDevNames.pseudoDevA1x.toInt⟩),
    (some 1, ⟨"pseudo-dev-B1x", PesudoDevNames.pseudoDevB1x.toInt⟩),
    (some 2, ⟨"pseudo-dev-C1x", PesudoDevNames.pseudoDevC1x.toInt⟩),
    (some 2, ⟨"pseudo-dev-D1x", PesudoDevNames.pseudoDevD1x.toInt⟩),
    (none, .empty)]

/-- The second entry for index 2 replaces that of `pseudo-dev-C1x`. -/
theorem pseudoDeviceIds_eq : pseudoDeviceIds =
    [⟨"pseudo-dev-A1x", 0⟩, ⟨"pseudo-dev-B1x", 1⟩, ⟨"pseudo-dev-D1x", 3⟩, .empty] := rfl

structure PlatformDevice where
  name : String
  id : Int32
  platformData : Option PseudoPlatformData

/-- A device that the bus has matched with the driver and set `id_entry` of. -/
structure MatchedDevice extends PlatformDevice where
  idEntry : PlatformDeviceId
  matched : platformMatchId pseudoDeviceIds name = some idEntry

/-- The private data of a device, in the block `address`, with the entry of
`pseudo_dev_config` that the probe has printed. -/
structure PseudoDevPrivateData where
  address : Nat
  pdata : PseudoPlatformData
  buffer : Pointer
  devNum : UInt32
  printed : DeviceConfig

/-- What the module registers with the kernel.  A node is named by the id after
`pseudo`. -/
inductive Resource where
  | region (base : UInt32)
  | pseudoClass
  | driver
  | cdev (cdev : Cdev)
  | node (node : Node Int32)
deriving DecidableEq

namespace Resource

def cdev? : Resource → Option Cdev
  | .cdev added => some added
  | _ => none

def node? : Resource → Option (Node Int32)
  | .node created => some created
  | _ => none

/-- What `cdev_del` names. -/
def isCdev (block : Nat) : Resource → Bool
  | .cdev added => added.block = block
  | _ => false

/-- What `device_destroy` names. -/
def isNode (number : UInt32) : Resource → Bool
  | .node created => created.number = number.toNat
  | _ => false

end Resource

structure PseudoDrvPrivateData where
  totalDevices : Int
  deviceNumberBase : UInt32

structure World extends PseudoDrvPrivateData where
  account : Account Resource
  devm : Managed Nat

def World.cdevs (world : World) : List Cdev := world.account.held.filterMap Resource.cdev?

def World.nodes (world : World) : List (Node Int32) := world.account.held.filterMap Resource.node?

structure ProbeCalls where
  dataAllocated : Bool
  bufferAllocated : Bool
  cdevAdd : Except Errno Unit
  deviceCreate : Except Errno Unit

def ProbeCalls.succeeding : ProbeCalls where
  dataAllocated := true
  bufferAllocated := true
  cdevAdd := .ok ()
  deviceCreate := .ok ()

def PseudoDevPrivateData.pseudoCdev (data : PseudoDevPrivateData) : Cdev :=
  ⟨data.address, data.devNum.toNat⟩

/-- Steps 5 and 6 of the probe. -/
def probeRegister (calls : ProbeCalls) (id : Int32) (data : PseudoDevPrivateData) (world : World) :
    Except Refusal PseudoDevPrivateData × World :=
  match calls.cdevAdd with
  | .error rc => (.error (.errno rc), world)
  | .ok _ =>
      let account := world.account.acquire (.cdev data.pseudoCdev)
      match deviceCreate world.nodes ⟨data.devNum.toNat, id⟩ calls.deviceCreate with
      | .error rc =>
          (.error (.errno rc), { world with account := account.release (Resource.isCdev data.address) })
      | .ok _ =>
          (.ok data, { world with
            account := account.acquire (.node ⟨data.devNum.toNat, id⟩)
            totalDevices := world.totalDevices + 1 })

def pseudoPlatformDriverProbe (pdev : Nat) (device : MatchedDevice) (calls : ProbeCalls)
    (world : World) : Except Refusal PseudoDevPrivateData × World :=
  match device.platformData with
  | none => (.error (.errno .invalid), world)
  | some pdata =>
      if !calls.dataAllocated then (.error (.errno .noMemory), world) else
      let address := world.devm.next
      let devm := world.devm.allocate pdev
      match pseudoDevConfig? device.idEntry.driverData with
      | none => (.error .oops, { world with devm })
      | some printed =>
          if !calls.bufferAllocated then (.error (.errno .noMemory), { world with devm }) else
          let obtained := devmKzalloc devm pdev pdata.size.toUInt32.toNat
          let devNum := world.deviceNumberBase + device.id.toUInt32
          probeRegister calls device.id { address, pdata, buffer := obtained.1, devNum, printed }
            { world with devm := obtained.2 }

def pseudoPlatformDriverRemove (_pdev : Nat) (deviceData : PseudoDevPrivateData) (world : World) :
    World :=
  let account := world.account.release (Resource.isNode deviceData.devNum)
  { world with
    account := account.release (Resource.isCdev deviceData.address)
    totalDevices := world.totalDevices - 1 }

def reclaim (pdev : Nat) (world : World) : World := { world with devm := world.devm.reclaim pdev }

def pseudoPlatformDriver : Driver World MatchedDevice ProbeCalls PseudoDevPrivateData where
  probe := pseudoPlatformDriverProbe
  remove := pseudoPlatformDriverRemove
  reclaim := reclaim

/-- The device numbers that `alloc_chrdev_region` gives, which do not wrap. -/
structure ReservedRegion where
  base : UInt32
  fits : base.toNat + MAX_DEVICES ≤ 2 ^ 32

structure InitCalls where
  allocChrdevRegion : Except Errno ReservedRegion
  classCreate : Except Errno Unit
  platformDriverRegister : Except Errno Unit

def InitCalls.succeeding (region : ReservedRegion) : InitCalls where
  allocChrdevRegion := .ok region
  classCreate := .ok ()
  platformDriverRegister := .ok ()

def pseudoPlatformDriverInit (calls : InitCalls) (world : World) : Except Errno Unit × World :=
  match calls.allocChrdevRegion with
  | .error rc => (.error rc, world)
  | .ok region =>
      let world := { world with
        deviceNumberBase := region.base
        account := world.account.acquire (.region region.base) }
      match calls.classCreate with
      | .error rc =>
          (.error rc, { world with account := world.account.release (· = .region region.base) })
      | .ok _ =>
          let world := { world with account := world.account.acquire .pseudoClass }
          match calls.platformDriverRegister with
          -- the result is not looked at
          | .error _ => (.ok (), world)
          | .ok _ => (.ok (), { world with account := world.account.acquire .driver })

/-- `platform_driver_unregister` removes each bound device first. -/
def platformDriverUnregister (core : Core World PseudoDevPrivateData) :
    Core World PseudoDevPrivateData :=
  let detached := detach pseudoPlatformDriver core
  detached.settle { detached.world with account := detached.world.account.release (· = .driver) }

def pseudoPlatformDriverCleanup (core : Core World PseudoDevPrivateData) :
    Core World PseudoDevPrivateData :=
  let core := platformDriverUnregister core
  let account := core.world.account.release (· = .pseudoClass)
  core.settle { core.world with
    account := account.release (· = .region core.world.deviceNumberBase) }

/-- The data of a module is zero before it is loaded. -/
def World.loading (account : Account Resource) (devm : Managed Nat) : World where
  totalDevices := 0
  deviceNumberBase := 0
  account := account
  devm := devm

end BbbLkm.PseudoPlatform
