import BbbLkm.Kernel.DriverModule
import BbbLkm.PseudoDt.Bookkeeping
import BbbLkm.PseudoDt.Region

namespace BbbLkm.PseudoDt

open BbbLkm.Machine BbbLkm.Kernel

/-! # Loading and unloading the device tree drivers

The module comes and goes any number of times, and any kernel call of a load or
of a probe may fail.  Both drivers have the same init and cleanup functions, so
that what follows is about any driver that keeps the books of this one.
-/

/-- What the module registers beside its devices. -/
inductive Registration where
  | region (base count : Int)
  | pseudoClass
  | driver
deriving DecidableEq

structure InitCalls where
  allocChrdevRegion : Except Errno Int
  classCreate : Except Errno Unit
  platformDriverRegister : Except Errno Unit

abbrev PseudoModule := Module World PseudoDevPrivateData Registration

def pseudoPlatformDriverInit (calls : InitCalls) (module : PseudoModule) : Except Errno Unit × PseudoModule :=
  match calls.allocChrdevRegion with
  | .error rc => (.error rc, module)
  | .ok base =>
      let module := { module with
        core := module.core.settle { module.core.world with deviceNumberBase := base }
        account := module.account.acquire (.region base MAX_DEVICES) }
      match calls.classCreate with
      | .error rc =>
          (.error rc, { module with account := module.account.release (· = .region base MAX_DEVICES) })
      | .ok _ =>
          let module := { module with account := module.account.acquire .pseudoClass }
          match calls.platformDriverRegister with
          -- the result is not looked at
          | .error _ => (.ok (), module)
          | .ok _ => (.ok (), { module with account := module.account.acquire .driver })

section Driver

variable {Calls : Type*} (driver : Driver World PlatformDevice Calls PseudoDevPrivateData)

def pseudoPlatformDriverCleanup (module : PseudoModule) : PseudoModule :=
  let module := module.platformDriverUnregister driver .driver
  let account := module.account.release (· = .pseudoClass)
  { module with
    account := account.release (· = .region module.core.world.deviceNumberBase MAX_DEVICES) }

def pseudoModule : DriverModule World PlatformDevice Calls PseudoDevPrivateData InitCalls Registration where
  driver := driver
  registration := .driver
  fresh world := { world with totalDevices := 0, deviceNumberBase := 0 }
  init := pseudoPlatformDriverInit
  exit := pseudoPlatformDriverCleanup driver

end Driver

/-- A load keeps what a new numbering keeps. -/
theorem init_core {Inv : Core World PseudoDevPrivateData → Prop}
    (renumbered : ∀ core totalDevices deviceNumberBase, Inv core →
      Inv (core.settle { core.world with totalDevices, deviceNumberBase }))
    (calls : InitCalls) (module : PseudoModule) (holds : Inv module.core) :
    Inv (pseudoPlatformDriverInit calls
      (module.fresh fun world => { world with totalDevices := 0, deviceNumberBase := 0 })).2.core := by
  have fresh := renumbered module.core 0 0 holds
  rw [pseudoPlatformDriverInit]
  cases calls.allocChrdevRegion with
  | error rc => exact fresh
  | ok base =>
      have based := renumbered _ 0 base fresh
      cases calls.classCreate with
      | error rc => exact based
      | ok _ =>
          cases calls.platformDriverRegister with
          | error rc => exact based
          | ok _ => exact based

/-- What a loaded module holds itself, newest first. -/
def holdings (core : Core World PseudoDevPrivateData) : List Registration :=
  [.driver, .pseudoClass, .region core.world.deviceNumberBase MAX_DEVICES]

/-- `platform_driver_register` succeeds if the calls before it do. -/
def RegistersDriver (calls : InitCalls) : Prop :=
  (∃ base, calls.allocChrdevRegion = .ok base) → calls.classCreate = .ok () →
    calls.platformDriverRegister = .ok ()

section Loading

variable {module : PseudoModule}

/-- A module without devices may number them from any base. -/
theorem Balanced.rebase {core : Core World PseudoDevPrivateData} (balanced : Balanced core)
    (unbound : core.bound = []) (base : Int) :
    Balanced (core.settle { core.world with totalDevices := 0, deviceNumberBase := base }) := by
  constructor
  · exact balanced.cdevs
  · simp only [Core.settle, balanced.nodes, unbound, List.map_nil]
  · simp only [Core.settle, unbound, List.length_nil, Int.natCast_zero]
  · exact balanced.numbers
  · exact balanced.owned

theorem inited (keeps : Keeps holdings Balanced module) (unloaded : module.loaded = false)
    (calls : InitCalls) :
    Inited .driver (RegistersDriver calls) (Keeps holdings Balanced)
      (pseudoPlatformDriverInit calls
        (module.fresh fun world => { world with totalDevices := 0, deviceNumberBase := 0 })) := by
  have held := keeps.unloaded_held unloaded
  have unbound := keeps.unbound unloaded
  have nothing : ∀ core, (if module.loaded then holdings core else []) = [] := by simp [unloaded]
  cases reserved : calls.allocChrdevRegion with
  | error rc =>
      simp only [pseudoPlatformDriverInit, reserved]
      apply Inited.failed
      · exact fun some => by simp [reserved] at some
      · exact ⟨keeps.good.rebase unbound 0, held.trans (nothing _).symm, keeps.strays, fun _ => unbound⟩
  | ok base =>
  cases created : calls.classCreate with
  | error rc =>
      have acquired : (module.account.acquire (.region base MAX_DEVICES)).held = [.region base MAX_DEVICES] :=
        congrArg (_ :: ·) held
      have released := Account.release_newest_eq acquired (by simp)
      simp only [pseudoPlatformDriverInit, reserved, created]
      apply Inited.failed
      · exact fun _ succeeds => by simp [created] at succeeds
      · exact ⟨keeps.good.rebase unbound base, released.1.trans (nothing _).symm,
          released.2.trans keeps.strays, fun _ => unbound⟩
  | ok _ =>
  cases outcome : calls.platformDriverRegister with
  | error rc =>
      simp only [pseudoPlatformDriverInit, reserved, created, outcome]
      apply Inited.unregistered
      · intro registers
        cases outcome.symm.trans (registers ⟨base, reserved⟩ created)
      · simp [Module.fresh, held]
  | ok _ =>
      simp only [pseudoPlatformDriverInit, reserved, created, outcome]
      apply Inited.registered
      · exact fun _ _ => outcome
      · refine ⟨keeps.good.rebase unbound base, ?_, keeps.strays, nofun⟩
        simp [Module.fresh, held, holdings, Core.settle]

end Loading

section Unloading

variable {module : PseudoModule} {Calls : Type*}
  {driver : Driver World PlatformDevice Calls PseudoDevPrivateData}

theorem cleanup_releases (keeps : Keeps holdings Balanced module) (loaded : module.loaded = true)
    (same : holdings (detach driver module.core) = holdings module.core) :
    (pseudoPlatformDriverCleanup driver module).account.held = [] ∧
      (pseudoPlatformDriverCleanup driver module).account.strays = module.account.strays := by
  have held := keeps.loaded_held loaded
  rw [← same, holdings] at held
  have first := Account.release_newest_eq held (by simp)
  have second := Account.release_newest_eq first.1 (by simp)
  have third := Account.release_newest_eq second.1 (by simp)
  exact ⟨third.1, third.2.trans (second.2.trans first.2)⟩

end Unloading

/-- A driver that keeps the books exactly when it is served under a condition. -/
structure KeepsBooks {Calls : Type*} (driver : Driver World PlatformDevice Calls PseudoDevPrivateData)
    (Cond : Core World PseudoDevPrivateData → Request PlatformDevice Calls → Prop) : Prop where
  kept : Kept driver Cond Balanced
  probe : ∀ {pdev : Nat} {device : PlatformDevice} {calls : Calls} {world after : World}
    {result : Except Refusal PseudoDevPrivateData}, driver.probe pdev device calls world = (result, after) →
    after.deviceNumberBase = world.deviceNumberBase
  remove : ∀ pdev data world, (driver.remove pdev data world).deviceNumberBase = world.deviceNumberBase
  reclaim : ∀ pdev world, (driver.reclaim pdev world).deviceNumberBase = world.deviceNumberBase
  removes : ∀ core pdev, Cond core (.remove pdev)
  exact : ∀ {core : Core World PseudoDevPrivateData} {request : Request PlatformDevice Calls},
    Balanced core → ExactBooks (serve driver core request).1 → Cond core request

namespace KeepsBooks

variable {Calls : Type*} {driver : Driver World PlatformDevice Calls PseudoDevPrivateData}
  {Cond : Core World PseudoDevPrivateData → Request PlatformDevice Calls → Prop}

theorem base (keepsBooks : KeepsBooks driver Cond) (base : Int) :
    Kept driver (fun _ _ => True) fun core => core.world.deviceNumberBase = base where
  bind _ same _ probed := (keepsBooks.probe probed).trans same
  refuse _ same _ probed := (keepsBooks.reclaim _ _).trans ((keepsBooks.probe probed).trans same)
  oops _ same _ probed := (keepsBooks.probe probed).trans same
  unbind same _ _ := (keepsBooks.reclaim _ _).trans ((keepsBooks.remove _ _ _).trans same)

theorem steady (keepsBooks : KeepsBooks driver Cond) :
    Steady (pseudoModule driver) holdings RegistersDriver Cond Balanced ExactBooks where
  listed _ := List.mem_cons_self
  good balanced := balanced.exact
  inits calls keeps unloaded := inited keeps unloaded calls
  serves {core} request balanced meets := by
    apply And.intro
    · exact keepsBooks.kept.serve request balanced meets
    · have same := (keepsBooks.base core.world.deviceNumberBase).serve request rfl trivial
      simp only [holdings, pseudoModule, same]
  exact := keepsBooks.exact
  exits := rfl
  releases := cleanup_releases
  detaches {core} _ _ := by
    refine along_iff_forall.mpr fun before request after split => ?_
    have member : request ∈ removals core := by simp [split]
    obtain ⟨entry, _, rfl⟩ := List.mem_map.mp member
    exact keepsBooks.removes _ _

end KeepsBooks

theorem probeDevice_base {pdev : Nat} {device : PlatformDevice} {calls : ProbeCalls} {world after : World}
    {result : Except Refusal PseudoDevPrivateData}
    (probed : probeDevice pdev device calls world = (result, after)) :
    after.deviceNumberBase = world.deviceNumberBase := by
  rcases found : probePlatformData pdev device calls world.devm with ⟨refusal | ⟨pdata, driverData⟩, devm⟩
  · simp only [probeDevice, found] at probed
    cases probed
    rfl
  · rcases obtained : probeAllocate pdev calls pdata driverData devm with ⟨refusal | allocated, grown⟩
    · simp only [probeDevice, found, obtained] at probed
      cases probed
      rfl
    · simp only [probeDevice, found, obtained] at probed
      have outcome := probeRegister_outcome calls allocated { world with devm := grown }
      rw [probed] at outcome
      cases outcome with
      | refused rc cdevs added => rfl
      | registered cdevs added nodes => rfl

theorem pseudoPlatformDriver_keepsBooks : KeepsBooks pseudoPlatformDriver fun _ _ => True where
  kept := balanced_kept
  probe := probeDevice_base
  remove _ _ _ := rfl
  reclaim _ _ := rfl
  removes _ _ := trivial
  exact _ _ := trivial

/-- However loads, probes and removals come and fail, the driver module stays in
order exactly as long as each load registers the driver: between two loads
nothing of it is left, and while it is loaded it holds what its devices need. -/
theorem run_stays_in_order_iff (requests : List (ModuleRequest InitCalls PlatformDevice ProbeCalls)) :
    (∀ seen, seen <+: requests → Keeps holdings ExactBooks
      (stateAfter (pseudoModule pseudoPlatformDriver).step (.unused (loaded 0)) seen)) ↔
      Along (pseudoModule pseudoPlatformDriver).step
        (Orderly (pseudoModule pseudoPlatformDriver) RegistersDriver fun _ _ => True)
        (.unused (loaded 0)) requests :=
  pseudoPlatformDriver_keepsBooks.steady.keeps_iff (.unused (.start 0)) requests

end BbbLkm.PseudoDt
