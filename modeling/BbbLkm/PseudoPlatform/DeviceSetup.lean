import BbbLkm.Machine.Ladder
import BbbLkm.PseudoPlatform.Binding

namespace BbbLkm.PseudoPlatform

open BbbLkm.Machine BbbLkm.Kernel

structure DeviceSetup where
  setup : Setup
  devices : List (Fin 10)
  distinct : devices.Nodup
  described : ∀ id ∈ devices, (setup id).isSome

/-- The array `platform_pseudo_devs`. -/
def pseudoDeviceSetup : DeviceSetup where
  setup := platformPseudoDevs
  devices := [0, 1, 2, 3]
  distinct := by simp
  described := by simp [platformPseudoDevs]

structure Modules where
  setupLoaded : Bool
  bus : BusState
  /-- How many devices have been unregistered that were not registered. -/
  strays : Nat

def Modules.start : Modules where
  setupLoaded := false
  bus := .start
  strays := 0

def platformDeviceUnregister (modules : Modules) (id : Fin 10) : Modules :=
  { modules with
    bus := unregister modules.bus id
    strays := if modules.bus.registered.contains id then modules.strays else modules.strays + 1 }

def movePlatformDevice (setup : Setup) (modules : Modules) : Move (Fin 10) → Modules
  | .acquire id => { modules with bus := register setup modules.bus id }
  | .release id => platformDeviceUnregister modules id

/-- Registers the devices one after another.  When one fails, those before it
are unregistered. -/
def platformAddDevices (setup : Setup) (devices : List (Fin 10)) (outcome : Fin 10 → Except Errno Unit)
    (modules : Modules) : Except Errno Unit × Modules :=
  let climbed := climb [] (devices.map fun id => ⟨id, outcome id⟩)
  (climbed.1, climbed.2.foldl (movePlatformDevice setup) modules)

def pseudoPlatformInit (deviceSetup : DeviceSetup) (outcome : Fin 10 → Except Errno Unit)
    (modules : Modules) : Int × Modules :=
  -- the result is not looked at
  (0, (platformAddDevices deviceSetup.setup deviceSetup.devices outcome modules).2)

def pseudoPlatformExit (deviceSetup : DeviceSetup) (modules : Modules) : Modules :=
  deviceSetup.devices.foldl platformDeviceUnregister modules

inductive ModulesRequest where
  | insmodSetup (outcome : Fin 10 → Except Errno Unit)
  | rmmodSetup
  | insmodDriver (region : ReservedRegion)
  | rmmodDriver

def modulesStep (deviceSetup : DeviceSetup) (modules : Modules) : ModulesRequest → Modules × Unit
  | .insmodSetup outcome =>
      if modules.setupLoaded then (modules, ())
      else ({ (pseudoPlatformInit deviceSetup outcome modules).2 with setupLoaded := true }, ())
  | .rmmodSetup =>
      if modules.setupLoaded then ({ pseudoPlatformExit deviceSetup modules with setupLoaded := false }, ())
      else (modules, ())
  | .insmodDriver region => ({ modules with bus := load deviceSetup.setup modules.bus region }, ())
  | .rmmodDriver => ({ modules with bus := unload modules.bus }, ())

/-- The devices are registered while their module is loaded, and bound while the
driver is too, but for those of the type that the table lacks. -/
structure InStep (deviceSetup : DeviceSetup) (modules : Modules) : Prop where
  registered : modules.bus.registered = if modules.setupLoaded then deviceSetup.devices else []
  strays : modules.strays = 0
  bound : ∀ id device, deviceSetup.setup id = some device →
    (id.val ∈ modules.bus.core.bound.map Prod.fst ↔ modules.setupLoaded = true ∧ modules.bus.loaded = true ∧
      id ∈ deviceSetup.devices ∧ device.type ≠ .pseudoDevC1x)
  numbered : ∀ id device data, deviceSetup.setup id = some device → (id.val, data) ∈ modules.bus.core.bound →
    NumberedById modules.bus.core.world id device data

/-- No registration fails. -/
def RegistersAll (deviceSetup : DeviceSetup) (modules : Modules) : ModulesRequest → Prop
  | .insmodSetup outcome => modules.setupLoaded = false → ∀ id ∈ deviceSetup.devices, outcome id = .ok ()
  | _ => True

/-- What `InStep` says of the registrations, with a bus in which it holds of the
bindings. -/
structure Steps (deviceSetup : DeviceSetup) (modules : Modules) : Prop where
  registered : modules.bus.registered = if modules.setupLoaded then deviceSetup.devices else []
  strays : modules.strays = 0
  sound : Sound deviceSetup.setup modules.bus

variable {deviceSetup : DeviceSetup} {setup : Setup} {modules : Modules} {ids below rest : List (Fin 10)}

theorem Steps.inStep (steps : Steps deviceSetup modules) : InStep deviceSetup modules where
  registered := steps.registered
  strays := steps.strays
  bound id device found := by
    have registered := steps.registered
    cases loaded : modules.bus.loaded with
    | false => simp [(steps.sound.idle loaded).bound]
    | true =>
        obtain ⟨region, attached⟩ := steps.sound.attached loaded
        rw [registered] at attached
        apply Iff.intro
        · intro member
          obtain ⟨offered, owner, found', listed⟩ := attached.of_bound_id member
          rw [found] at found'
          obtain rfl := Option.some.inj found'
          split at offered
          · rename_i setupLoaded
            exact ⟨setupLoaded, rfl, offered, listed⟩
          · cases offered
        · rintro ⟨setupLoaded, _, offered, listed⟩
          rw [if_pos setupLoaded] at attached
          exact attached.bound id offered device found listed
  numbered id device data found member := by
    cases loaded : modules.bus.loaded with
    | false => simp [(steps.sound.idle loaded).bound] at member
    | true =>
        obtain ⟨region, attached⟩ := steps.sound.attached loaded
        exact attached.numberedById found member

/-- Unregistering the registered devices, in any order, leaves none. -/
theorem unregister_all (sound : Sound setup modules.bus) (perm : ids.Perm modules.bus.registered) :
    (ids.foldl platformDeviceUnregister modules).bus.registered = [] ∧
      (ids.foldl platformDeviceUnregister modules).strays = modules.strays ∧
      Sound setup (ids.foldl platformDeviceUnregister modules).bus := by
  induction ids generalizing modules with
  | nil => exact ⟨perm.nil_eq.symm, rfl, sound⟩
  | cons id rest ih =>
      have member : id ∈ modules.bus.registered := perm.subset List.mem_cons_self
      have erased : rest.Perm (platformDeviceUnregister modules id).bus.registered := by
        have shorter := perm.erase id
        rwa [List.erase_cons_head] at shorter
      have same : (platformDeviceUnregister modules id).strays = modules.strays :=
        if_pos (List.contains_iff_mem.mpr member)
      rw [List.foldl_cons, ← same]
      exact ih (sound.unregister id) erased

/-- The climb over the devices registers all or leaves none. -/
theorem climb_registers (described : ∀ id ∈ rest, (setup id).isSome) (outcome : Fin 10 → Except Errno Unit)
    (sound : Sound setup modules.bus) (registered : modules.bus.registered = below.reverse)
    (distinct : (below.reverse ++ rest).Nodup) :
    let climbed := (climb below (rest.map fun id => ⟨id, outcome id⟩)).2.foldl (movePlatformDevice setup) modules
    ((∀ id ∈ rest, outcome id = .ok ()) → climbed.bus.registered = below.reverse ++ rest) ∧
      ((¬ ∀ id ∈ rest, outcome id = .ok ()) → climbed.bus.registered = []) ∧
      climbed.strays = modules.strays ∧ Sound setup climbed.bus := by
  induction rest generalizing modules below with
  | nil =>
      have none : (climb below (([] : List (Fin 10)).map fun id => ⟨id, outcome id⟩)).2 = [] := rfl
      rw [none, List.foldl_nil, List.append_nil]
      exact ⟨fun _ => registered, fun some => absurd nofun some, rfl, sound⟩
  | cons id rest ih =>
      cases made : outcome id with
      | error rc =>
          have perm : below.Perm modules.bus.registered := registered ▸ (List.reverse_perm below).symm
          obtain ⟨none, strays, settled⟩ := unregister_all sound perm
          have failed : ¬ ∀ other ∈ id :: rest, outcome other = .ok () := by
            intro all
            cases made.symm.trans (all id List.mem_cons_self)
          simp only [List.map_cons, climb, made, List.foldl_map]
          exact ⟨fun all => absurd all failed, fun _ => none, strays, settled⟩
      | ok _ =>
          have fresh : id ∉ modules.bus.registered := by
            rw [registered]
            exact fun old => (List.nodup_append.mp distinct).2.2 id old id List.mem_cons_self rfl
          have admitted : (setup id).isSome ∧ id ∉ modules.bus.registered :=
            ⟨described id List.mem_cons_self, fresh⟩
          have added : (movePlatformDevice setup modules (.acquire id)).bus.registered = (id :: below).reverse := by
            rw [movePlatformDevice, register, if_pos admitted, List.reverse_cons, ← registered]
          have split : (id :: below).reverse ++ rest = below.reverse ++ id :: rest := by simp
          have all : (∀ other ∈ id :: rest, outcome other = .ok ()) ↔ ∀ other ∈ rest, outcome other = .ok () := by
            simp [made]
          have next := @ih (movePlatformDevice setup modules (.acquire id)) (id :: below)
            (fun other member => described other (List.mem_cons_of_mem _ member)) (sound.register id) added
            (split ▸ distinct)
          simp only [List.map_cons, climb, made, List.foldl_cons, all]
          rwa [split] at next

theorem init_registers (deviceSetup : DeviceSetup) (outcome : Fin 10 → Except Errno Unit)
    (sound : Sound deviceSetup.setup modules.bus) (none : modules.bus.registered = []) :
    let inited := (pseudoPlatformInit deviceSetup outcome modules).2
    ((∀ id ∈ deviceSetup.devices, outcome id = .ok ()) → inited.bus.registered = deviceSetup.devices) ∧
      ((¬ ∀ id ∈ deviceSetup.devices, outcome id = .ok ()) → inited.bus.registered = []) ∧
      inited.strays = modules.strays ∧ Sound deviceSetup.setup inited.bus :=
  @climb_registers deviceSetup.setup modules [] deviceSetup.devices deviceSetup.described outcome sound none
    deviceSetup.distinct

theorem exit_unregisters (steps : Steps deviceSetup modules) (loaded : modules.setupLoaded = true) :
    Steps deviceSetup { pseudoPlatformExit deviceSetup modules with setupLoaded := false } := by
  have registered := steps.registered
  rw [if_pos loaded] at registered
  obtain ⟨none, strays, sound⟩ := @unregister_all deviceSetup.setup modules deviceSetup.devices steps.sound
    (registered ▸ List.Perm.refl _)
  exact ⟨none, strays.trans steps.strays, sound⟩

theorem load_registered (setup : Setup) (state : BusState) (region : ReservedRegion) :
    (load setup state region).registered = state.registered := by
  unfold load
  split
  · rfl
  · rfl

theorem unload_registered (state : BusState) : (unload state).registered = state.registered := by
  unfold unload
  split
  · rfl
  · rfl

theorem steps_kept (steps : Steps deviceSetup modules) (request : ModulesRequest)
    (all : RegistersAll deviceSetup modules request) :
    Steps deviceSetup (modulesStep deviceSetup modules request).1 := by
  cases request with
  | insmodSetup outcome =>
      cases loaded : modules.setupLoaded with
      | true => simpa only [modulesStep, loaded, if_true] using steps
      | false =>
          have none := steps.registered
          simp only [loaded, Bool.false_eq_true, if_false] at none
          obtain ⟨registered, _, strays, sound⟩ := init_registers deviceSetup outcome steps.sound none
          simp only [modulesStep, loaded, Bool.false_eq_true, if_false]
          exact ⟨registered (all loaded), strays.trans steps.strays, sound⟩
  | rmmodSetup =>
      cases loaded : modules.setupLoaded with
      | true =>
          simp only [modulesStep, loaded, if_true]
          exact exit_unregisters steps loaded
      | false => simpa only [modulesStep, loaded, Bool.false_eq_true, if_false] using steps
  | insmodDriver region =>
      constructor
      · exact (load_registered _ _ _).trans steps.registered
      · exact steps.strays
      · exact steps.sound.load region
  | rmmodDriver =>
      constructor
      · exact (unload_registered _).trans steps.registered
      · exact steps.strays
      · exact steps.sound.unload

theorem registersAll_iff (steps : Steps deviceSetup modules) (request : ModulesRequest) :
    RegistersAll deviceSetup modules request ↔ InStep deviceSetup (modulesStep deviceSetup modules request).1 := by
  apply Iff.intro
  · exact fun all => (steps_kept steps request all).inStep
  · intro inStep
    cases request with
    | rmmodSetup => trivial
    | insmodDriver region => trivial
    | rmmodDriver => trivial
    | insmodSetup outcome =>
        intro unloaded
        have none := steps.registered
        simp only [unloaded, Bool.false_eq_true, if_false] at none
        obtain ⟨_, dropped, _⟩ := init_registers deviceSetup outcome steps.sound none
        have held := inStep.registered
        simp only [modulesStep, unloaded, Bool.false_eq_true, if_false, if_true] at held
        by_contra some
        rw [held.symm.trans (dropped some)] at some
        exact some nofun

/-- In every order of loads and unloads of the two modules, exactly the devices
that the driver knows are bound, while both modules are loaded, under the numbers
of their ids, and nothing is unregistered that was not registered, as long as no
registration fails. -/
theorem run_in_step_iff (deviceSetup : DeviceSetup) (requests : List ModulesRequest) :
    (∀ seen, seen <+: requests → InStep deviceSetup (stateAfter (modulesStep deviceSetup) .start seen)) ↔
      Along (modulesStep deviceSetup) (RegistersAll deviceSetup) .start requests := by
  have start : Steps deviceSetup .start := ⟨rfl, rfl, Sound.start deviceSetup.setup⟩
  exact always_iff_along (Steps deviceSetup) (fun _ request steps all => steps_kept steps request all)
    (fun _ request steps => registersAll_iff steps request) start start.inStep

/-- The driver comes after the devices, and does not know the third one. -/
example : (stateAfter (modulesStep pseudoDeviceSetup) .start
    [.insmodSetup fun _ => .ok (), .insmodDriver dynamicRegion]).bus.core.bound.map Prod.fst = [3, 1, 0] := rfl

end BbbLkm.PseudoPlatform
