import BbbLkm.PseudoPlatform.Lifetime

namespace BbbLkm.PseudoPlatform

open BbbLkm.Machine BbbLkm.Kernel
open BbbLkm.PseudoDt (PesudoDevNames PseudoPlatformData pseudoDevConfig?)

/-! # The device setup module and the bus

Two modules come and go in any order: one registers platform devices, the other
is the driver.  A device is probed when it is registered while the driver is
loaded, or when the driver is loaded while it is registered.
-/

def deviceName : PesudoDevNames → String
  | .pseudoDevA1x => "pseudo-dev-A1x"
  | .pseudoDevB1x => "pseudo-dev-B1x"
  | .pseudoDevC1x => "pseudo-dev-C1x"
  | .pseudoDevD1x => "pseudo-dev-D1x"

structure SetupDevice where
  type : PesudoDevNames
  platformData : PseudoPlatformData

/-- Devices with distinct ids from 0 to 9: at most one for each id. -/
abbrev Setup := Fin 10 → Option SetupDevice

def platformDevice (id : Fin 10) (device : SetupDevice) : PlatformDevice where
  name := deviceName device.type
  id := Int32.ofNat id.val
  platformData := some device.platformData

def platformMatch (device : PlatformDevice) : Option MatchedDevice :=
  match found : platformMatchId pseudoDeviceIds device.name with
  | none => none
  | some idEntry => some { device with idEntry, matched := found }

structure BusState where
  /-- In the order of registration. -/
  registered : List (Fin 10)
  loaded : Bool
  core : Core World PseudoDevPrivateData

inductive BusRequest where
  | register (id : Fin 10)
  | unregister (id : Fin 10)
  | load (region : ReservedRegion)
  | unload

def BusState.start : BusState where
  registered := []
  loaded := false
  core := .start .unused

/-- The bus offers a registered device to the driver. -/
def attach (setup : Setup) (core : Core World PseudoDevPrivateData) (id : Fin 10) :
    Core World PseudoDevPrivateData :=
  match (setup id).bind fun device => platformMatch (platformDevice id device) with
  | none => core
  | some matched => (serve pseudoPlatformDriver core (.probe id.val matched .succeeding)).1

def register (setup : Setup) (state : BusState) (id : Fin 10) : BusState :=
  if (setup id).isSome ∧ id ∉ state.registered then
    { state with
      registered := state.registered ++ [id]
      core := if state.loaded then attach setup state.core id else state.core }
  else state

def unregister (state : BusState) (id : Fin 10) : BusState :=
  { state with
    registered := state.registered.erase id
    core := (serve pseudoPlatformDriver state.core (.remove id.val)).1 }

def load (setup : Setup) (state : BusState) (region : ReservedRegion) : BusState :=
  if state.loaded then state else
  let world := World.loading state.core.world.account state.core.world.devm
  let core := Core.start (pseudoPlatformDriverInit (.succeeding region) world).2
  { state with loaded := true, core := state.registered.foldl (attach setup) core }

def unload (state : BusState) : BusState :=
  if state.loaded then
    { state with loaded := false, core := pseudoPlatformDriverCleanup state.core }
  else state

/-- Every kernel call succeeds. -/
def busStep (setup : Setup) (state : BusState) : BusRequest → BusState × Unit
  | .register id => (register setup state id, ())
  | .unregister id => (unregister state id, ())
  | .load region => (load setup state region, ())
  | .unload => (unload state, ())

/-- The devices of `pseudo_device_setup`. -/
def platformPseudoDevs : Setup
  | 0 => some ⟨.pseudoDevA1x, 512, 0x11, ⟨[80, 83, 69, 85, 68, 79, 95, 49], PseudoDt.pcdev1_serial_noNul⟩⟩
  | 1 => some ⟨.pseudoDevB1x, 1024, 0x11, ⟨[80, 83, 69, 85, 68, 79, 95, 50], by decide⟩⟩
  | 2 => some ⟨.pseudoDevC1x, 128, 0x01, ⟨[80, 83, 69, 85, 68, 79, 95, 51], by decide⟩⟩
  | 3 => some ⟨.pseudoDevD1x, 32, 0x10, ⟨[80, 83, 69, 85, 68, 79, 95, 52], by decide⟩⟩
  | _ => none

/-- The device has the number of its id, as its cdev and its node have, and the
configuration of its type. -/
structure NumberedById (world : World) (id : Fin 10) (device : SetupDevice)
    (data : PseudoDevPrivateData) : Prop where
  number : data.devNum.toNat = world.deviceNumberBase.toNat + id.val
  cdev : ⟨data.address, data.devNum.toNat⟩ ∈ world.cdevs
  node : ⟨data.devNum.toNat, Int32.ofNat id.val⟩ ∈ world.nodes
  config : pseudoDevConfig? device.type.toInt = some data.printed

/-- A device is bound exactly while it is registered and the driver is loaded. -/
structure BoundAsRegistered (setup : Setup) (state : BusState) : Prop where
  bound : ∀ id device, setup id = some device →
    (id.val ∈ state.core.bound.map Prod.fst ↔ id ∈ state.registered ∧ state.loaded = true)
  numbered : ∀ id device data, setup id = some device → (id.val, data) ∈ state.core.bound →
    NumberedById state.core.world id device data

/-- No `pseudo-dev-C1x` is registered while the driver is loaded. -/
def KeepsC1xApart (setup : Setup) (state : BusState) : BusRequest → Prop
  | .register id => state.loaded = true → id ∉ state.registered →
      ∀ device, setup id = some device → device.type ≠ .pseudoDevC1x
  | .unregister _ => True
  | .load _ => state.loaded = false → ∀ id ∈ state.registered,
      ∀ device, setup id = some device → device.type ≠ .pseudoDevC1x
  | .unload => True

end BbbLkm.PseudoPlatform
