import BbbLkm.Machine.Account
import BbbLkm.Kernel.DriverCore

namespace BbbLkm.Kernel

open BbbLkm.Machine

structure Module (World Data Registration : Type*) where
  loaded : Bool
  core : Core World Data
  account : Account Registration

structure DriverModule (World Device Calls Data InitCalls Registration : Type*) where
  driver : Driver World Device Calls Data
  /-- What the registered driver is on the account. -/
  registration : Registration
  /-- The data of a module is zero before it is loaded. -/
  fresh : World → World
  init : InitCalls → Module World Data Registration → Except Errno Unit × Module World Data Registration
  exit : Module World Data Registration → Module World Data Registration

inductive ModuleRequest (InitCalls Device Calls : Type*) where
  | insmod (calls : InitCalls)
  | rmmod
  /-- Of the bus, to which the driver is known while it is registered. -/
  | bus (request : Request Device Calls)

inductive ModuleAnswer where
  | inited (outcome : Except Errno Unit)
  | exited
  | served (answer : Answer)
  | refused

variable {World Device Calls Data InitCalls Registration : Type*}

namespace Module

def unused (world : World) : Module World Data Registration where
  loaded := false
  core := .start world
  account := .empty

def fresh (module : Module World Data Registration) (zeroed : World → World) :
    Module World Data Registration :=
  { module with core := module.core.settle (zeroed module.core.world) }

/-- `platform_driver_unregister` removes each bound device first. -/
def platformDriverUnregister [DecidableEq Registration] (module : Module World Data Registration)
    (driver : Driver World Device Calls Data) (registration : Registration) :
    Module World Data Registration :=
  { module with
    core := detach driver module.core
    account := module.account.release (· = registration) }

end Module

/-- The requests by which unregistering the driver removes its devices. -/
def removals (core : Core World Data) : List (Request Device Calls) :=
  core.bound.map fun entry => .remove entry.1

namespace DriverModule

def step [DecidableEq Registration]
    (lkm : DriverModule World Device Calls Data InitCalls Registration)
    (module : Module World Data Registration) :
    ModuleRequest InitCalls Device Calls → Module World Data Registration × ModuleAnswer
  | .insmod calls =>
      if module.loaded then (module, .refused)
      else
        match lkm.init calls (module.fresh lkm.fresh) with
        | (.error rc, module) => (module, .inited (.error rc))
        | (.ok _, module) => ({ module with loaded := true }, .inited (.ok ()))
  | .rmmod =>
      if module.loaded then ({ lkm.exit module with loaded := false }, .exited)
      else (module, .refused)
  | .bus request =>
      if lkm.registration ∈ module.account.held then
        let served := serve lkm.driver module.core request
        ({ module with core := served.1 }, .served served.2)
      else (module, .refused)

/-- What serving any request keeps, and a load too, is kept while the module
comes and goes. -/
theorem step_core [DecidableEq Registration]
    {lkm : DriverModule World Device Calls Data InitCalls Registration} {Inv : Core World Data → Prop}
    (kept : ∀ core request, Inv core → Inv (serve lkm.driver core request).1)
    (inits : ∀ calls (module : Module World Data Registration), Inv module.core →
      Inv (lkm.init calls (module.fresh lkm.fresh)).2.core)
    (exits : ∀ module, (lkm.exit module).core = detach lkm.driver module.core)
    (module : Module World Data Registration) (request : ModuleRequest InitCalls Device Calls)
    (holds : Inv module.core) : Inv (lkm.step module request).1.core := by
  cases request with
  | insmod calls =>
      have inited := inits calls module holds
      simp only [step]
      split
      · exact holds
      · rcases outcome : lkm.init calls (module.fresh lkm.fresh) with ⟨rc | _, after⟩
        · rwa [outcome] at inited
        · rwa [outcome] at inited
  | rmmod =>
      simp only [step]
      split
      · rw [exits]
        exact invariant_run kept holds
      · exact holds
  | bus request =>
      simp only [step]
      split
      · exact kept _ request holds
      · exact holds

end DriverModule

/-- The core is good, the module holds what it should and has never released
anything else, and it has no devices unless it is loaded. -/
structure Keeps (expected : Core World Data → List Registration) (Good : Core World Data → Prop)
    (module : Module World Data Registration) : Prop where
  good : Good module.core
  held : module.account.held = if module.loaded then expected module.core else []
  strays : module.account.strays = 0
  unbound : module.loaded = false → module.core.bound = []

/-- How a load can go, where `Registers` tells whether it registers the driver
unless it fails. -/
inductive Inited (registration : Registration) (Registers : Prop) (Kept : Module World Data Registration → Prop) :
    Except Errno Unit × Module World Data Registration → Prop where
  | failed (rc : Errno) (after : Module World Data Registration) : Registers → Kept after →
      Inited registration Registers Kept (.error rc, after)
  | unregistered (after : Module World Data Registration) : ¬ Registers →
      registration ∉ after.account.held → Inited registration Registers Kept (.ok (), after)
  | registered (after : Module World Data Registration) : Registers → Kept { after with loaded := true } →
      Inited registration Registers Kept (.ok (), after)

/-- A driver module that keeps its core good exactly when its loads register the
driver and its driver is served under a condition. -/
structure Steady (lkm : DriverModule World Device Calls Data InitCalls Registration)
    (expected : Core World Data → List Registration) (Registers : InitCalls → Prop)
    (Cond : Core World Data → Request Device Calls → Prop) (Inv Good : Core World Data → Prop) : Prop where
  listed : ∀ core, lkm.registration ∈ expected core
  good : ∀ {core}, Inv core → Good core
  inits : ∀ {module} calls, Keeps expected Inv module → module.loaded = false →
    Inited lkm.registration (Registers calls) (Keeps expected Inv) (lkm.init calls (module.fresh lkm.fresh))
  serves : ∀ {core} request, Inv core → Cond core request →
    Inv (serve lkm.driver core request).1 ∧ expected (serve lkm.driver core request).1 = expected core
  exact : ∀ {core request}, Inv core → Good (serve lkm.driver core request).1 → Cond core request
  exits : ∀ {module}, (lkm.exit module).core = detach lkm.driver module.core
  releases : ∀ {module}, Keeps expected Inv module → module.loaded = true →
    expected (detach lkm.driver module.core) = expected module.core →
    (lkm.exit module).account.held = [] ∧ (lkm.exit module).account.strays = module.account.strays
  detaches : ∀ {core}, Inv core → Good (detach lkm.driver core) →
    Along (serve lkm.driver) Cond core (removals core)

/-- The loads register the driver, and the driver is served under the condition. -/
def Orderly (lkm : DriverModule World Device Calls Data InitCalls Registration)
    (Registers : InitCalls → Prop) (Cond : Core World Data → Request Device Calls → Prop)
    (module : Module World Data Registration) : ModuleRequest InitCalls Device Calls → Prop
  | .insmod calls => module.loaded = false → Registers calls
  | .rmmod => module.loaded = true → Along (serve lkm.driver) Cond module.core (removals module.core)
  | .bus request => module.loaded = true → Cond module.core request

section Keeping

variable {lkm : DriverModule World Device Calls Data InitCalls Registration}
  {expected : Core World Data → List Registration} {Registers : InitCalls → Prop}
  {Cond : Core World Data → Request Device Calls → Prop} {Inv Good : Core World Data → Prop}
  {module : Module World Data Registration}

theorem Keeps.mono (keeps : Keeps expected Inv module)
    (good : Inv module.core → Good module.core) : Keeps expected Good module :=
  ⟨good keeps.good, keeps.held, keeps.strays, keeps.unbound⟩

theorem Keeps.unused {world : World} (good : Good (.start world)) : Keeps expected Good (.unused world) where
  good := good
  held := rfl
  strays := rfl
  unbound _ := rfl

theorem Keeps.unloaded_held (keeps : Keeps expected Good module) (unloaded : module.loaded = false) :
    module.account.held = [] := by
  rw [keeps.held, unloaded]
  rfl

theorem Keeps.loaded_held (keeps : Keeps expected Good module) (loaded : module.loaded = true) :
    module.account.held = expected module.core := by
  rw [keeps.held, loaded]
  rfl

namespace Steady

theorem registered_iff (steady : Steady lkm expected Registers Cond Inv Good)
    (keeps : Keeps expected Good module) :
    lkm.registration ∈ module.account.held ↔ module.loaded = true := by
  cases loaded : module.loaded with
  | true =>
      rw [keeps.loaded_held loaded]
      exact iff_of_true (steady.listed _) rfl
  | false =>
      rw [keeps.unloaded_held loaded]
      exact iff_of_false List.not_mem_nil nofun

theorem serves_run (steady : Steady lkm expected Registers Cond Inv Good) {core : Core World Data}
    {requests : List (Request Device Calls)} (holds : Inv core)
    (along : Along (serve lkm.driver) Cond core requests) :
    Inv (stateAfter (serve lkm.driver) core requests) ∧
      expected (stateAfter (serve lkm.driver) core requests) = expected core := by
  have preserved : ∀ other request, Inv other ∧ expected other = expected core → Cond other request →
      Inv (serve lkm.driver other request).1 ∧
        expected (serve lkm.driver other request).1 = expected core := by
    intro other request both condition
    obtain ⟨next, same⟩ := steady.serves request both.1 condition
    exact ⟨next, same.trans both.2⟩
  exact invariant_along preserved ⟨holds, rfl⟩ along

theorem exit_keeps (steady : Steady lkm expected Registers Cond Inv Good)
    (keeps : Keeps expected Inv module) (loaded : module.loaded = true)
    (along : Along (serve lkm.driver) Cond module.core (removals module.core)) :
    Keeps expected Inv { lkm.exit module with loaded := false } := by
  obtain ⟨holds, same⟩ := steady.serves_run keeps.good along
  obtain ⟨none, strays⟩ := steady.releases keeps loaded same
  constructor
  · rw [steady.exits]
    exact holds
  · exact none
  · exact strays.trans keeps.strays
  · intro _
    rw [steady.exits]
    exact bound_detach lkm.driver module.core

variable [DecidableEq Registration]

theorem keeps_step (steady : Steady lkm expected Registers Cond Inv Good)
    (request : ModuleRequest InitCalls Device Calls) (keeps : Keeps expected Inv module)
    (orderly : Orderly lkm Registers Cond module request) :
    Keeps expected Inv (lkm.step module request).1 := by
  cases request with
  | insmod calls =>
      cases loaded : module.loaded with
      | true => simpa only [DriverModule.step, loaded, if_true] using keeps
      | false =>
          have outcome := steady.inits calls keeps loaded
          simp only [DriverModule.step, loaded, Bool.false_eq_true, if_false]
          generalize lkm.init calls (module.fresh lkm.fresh) = result at outcome
          cases outcome with
          | failed rc after _ kept => exact kept
          | unregistered after fails _ => exact absurd (orderly loaded) fails
          | registered after _ kept => exact kept
  | rmmod =>
      cases loaded : module.loaded with
      | true =>
          simp only [DriverModule.step, loaded, if_true]
          exact steady.exit_keeps keeps loaded (orderly loaded)
      | false => simpa only [DriverModule.step, loaded, Bool.false_eq_true, if_false] using keeps
  | bus request =>
      simp only [DriverModule.step]
      split
      · rename_i held
        have loaded := (steady.registered_iff (keeps.mono steady.good)).mp held
        obtain ⟨holds, same⟩ := steady.serves request keeps.good (orderly loaded)
        constructor
        · exact holds
        · rw [same]
          exact keeps.held
        · exact keeps.strays
        · exact fun unloaded => absurd (loaded.symm.trans unloaded) nofun
      · exact keeps

theorem orderly_of_keeps (steady : Steady lkm expected Registers Cond Inv Good)
    (request : ModuleRequest InitCalls Device Calls) (keeps : Keeps expected Inv module)
    (next : Keeps expected Good (lkm.step module request).1) :
    Orderly lkm Registers Cond module request := by
  cases request with
  | insmod calls =>
      intro unloaded
      have outcome := steady.inits calls keeps unloaded
      simp only [DriverModule.step, unloaded, Bool.false_eq_true, if_false] at next
      generalize lkm.init calls (module.fresh lkm.fresh) = result at outcome next
      cases outcome with
      | failed rc after registers _ => exact registers
      | registered after registers _ => exact registers
      | unregistered after _ unheld => exact absurd ((steady.registered_iff next).mpr rfl) unheld
  | rmmod =>
      intro loaded
      simp only [DriverModule.step, loaded, if_true] at next
      have good := next.good
      simp only [steady.exits] at good
      exact steady.detaches keeps.good good
  | bus request =>
      intro loaded
      have held := (steady.registered_iff (keeps.mono steady.good)).mpr loaded
      simp only [DriverModule.step, if_pos held] at next
      exact steady.exact keeps.good next.good

/-- The module is in order throughout a run exactly when the run is orderly. -/
theorem keeps_iff (steady : Steady lkm expected Registers Cond Inv Good)
    (initial : Keeps expected Inv module) (requests : List (ModuleRequest InitCalls Device Calls)) :
    (∀ seen, seen <+: requests → Keeps expected Good (stateAfter lkm.step module seen)) ↔
      Along lkm.step (Orderly lkm Registers Cond) module requests :=
  always_iff_along (Keeps expected Inv)
    (fun _ request keeps orderly => steady.keeps_step request keeps orderly)
    (fun _ request keeps => ⟨fun orderly => (steady.keeps_step request keeps orderly).mono steady.good,
      fun next => steady.orderly_of_keeps request keeps next⟩)
    initial (initial.mono steady.good)

end Steady

end Keeping

end BbbLkm.Kernel
