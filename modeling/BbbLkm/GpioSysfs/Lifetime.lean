import BbbLkm.Kernel.DriverModule
import BbbLkm.GpioSysfs.Failure
import BbbLkm.GpioSysfs.Instances

namespace BbbLkm.GpioSysfs

open BbbLkm.Machine BbbLkm.Kernel

/-! # Loading and unloading `gpio-sysfs`

The attributes of a class device read its data, which is managed memory of the
platform device that it was created for, and the class goes with the module.  A
class device must outlive neither.
-/

inductive Registration where
  | gpioClass
  | driver
deriving DecidableEq

structure InitCalls where
  classCreate : Except Errno Unit
  platformDriverRegister : Except Errno Unit

abbrev GpioModule := Module World Unit Registration

def gpioSysfsInit (calls : InitCalls) (module : GpioModule) : Except Errno Unit × GpioModule :=
  match calls.classCreate with
  | .error rc => (.error rc, module)
  | .ok _ =>
      let module := { module with account := module.account.acquire .gpioClass }
      match calls.platformDriverRegister with
      -- the result is not looked at
      | .error _ => (.ok (), module)
      | .ok _ => (.ok (), { module with account := module.account.acquire .driver })

def gpioSysfsExit (module : GpioModule) : GpioModule :=
  let module := module.platformDriverUnregister gpioPlatformDriver .driver
  { module with account := module.account.release (· = .gpioClass) }

def gpioModule : DriverModule World (List ChildNode) ProbeCalls Unit InitCalls Registration where
  driver := gpioPlatformDriver
  registration := .driver
  fresh world := { world with totalDevices := 0, dev := .null }
  init := gpioSysfsInit
  exit := gpioSysfsExit

def holdings (_ : Core World Unit) : List Registration := [.driver, .gpioClass]

def RegistersDriver (calls : InitCalls) : Prop :=
  calls.classCreate = .ok () → calls.platformDriverRegister = .ok ()

/-- Every class device is the child of a bound device, and its data has not been
freed. -/
def Anchored (core : Core World Unit) : Prop :=
  ∀ device ∈ core.world.devices,
    device.parent ∈ core.bound.map Prod.fst ∧ core.world.devm.Live device.data.address

/-- The probe fails, if it does, before its first class device. -/
def AllOrNone (children : List ChildNode) (calls : ProbeCalls) : Prop :=
  available children ≠ [] → Succeeds (calls.child 0) →
    calls.arrayAllocated = true ∧ ∀ index < (available children).length, Succeeds (calls.child index)

/-- A probe creates all of its class devices or none, and a removal finds those
of its device in the array. -/
def Covered (core : Core World Unit) : ProbeRequest → Prop
  | .probe pdev children calls => pdev ∉ core.bound.map Prod.fst → AllOrNone children calls
  | .remove pdev => ∀ device ∈ core.world.devices, device.parent = pdev →
      slotOf device ∈ removalSlots core.world

variable {pdev i position : Nat} {child : ChildNode} {children : List ChildNode} {calls : ProbeCalls}
  {world after : World} {core : Core World Unit} {result : Except Refusal Unit}

section Probing

/-- The class devices that are new are children of the device, with data in its
memory. -/
def Adopts (pdev : Nat) (before after : World) : Prop :=
  ∀ device ∈ after.devices, device ∈ before.devices ∨
    device.parent = pdev ∧ (pdev, device.data.address) ∈ after.devm.live

theorem Adopts.refl (pdev : Nat) (world : World) : Adopts pdev world world := fun _ => Or.inl

theorem Adopts.trans {middle : World} (first : Adopts pdev world middle) (second : Adopts pdev middle after)
    (grows : middle.devm.Grows pdev after.devm) : Adopts pdev world after := by
  intro device member
  rcases second device member with old | new
  · rcases first device old with older | added
    · exact Or.inl older
    · exact Or.inr ⟨added.1, grows.keeps _ added.2⟩
  · exact Or.inr new

theorem probeChild_adopts (calls : ChildCalls) :
    Adopts pdev world (probeChild pdev child calls i world).2 := by
  have own : (pdev, world.devm.next) ∈ (world.devm.allocate pdev).live := List.mem_cons_self
  have steps := @probeChild_steps pdev i child world calls
  generalize probeChild pdev child calls i world = result at steps
  cases steps with
  | refused rc devm _ _ => exact fun _ => Or.inl
  | reached desc _ _ _ outcome =>
      cases outcome with
      | refused rc dev _ _ => exact fun _ => Or.inl
      | unrecorded rc _ _ => exact fun _ => Or.inl
      | lost _ _ =>
          intro device member
          rcases List.mem_cons.mp member with rfl | old
          · exact Or.inr ⟨rfl, own⟩
          · exact Or.inl old
      | created dev _ _ =>
          intro device member
          rcases List.mem_cons.mp member with rfl | old
          · exact Or.inr ⟨rfl, own⟩
          · exact Or.inl old

theorem LoopRun.adopts {calls : Nat → ChildCalls} {result : Except Refusal Unit × World}
    (run : LoopRun pdev calls children position i world result) : Adopts pdev world result.2 := by
  induction run with
  | done position i world => exact .refl pdev world
  | skipped _ _ ih => exact ih
  | @stopped child rest position i world refusal after usable ended =>
      have last := @probeChild_adopts pdev i child (world.getChild pdev position) (calls i)
      rw [ended] at last
      exact last
  | @taken child rest position i world middle result usable passed later ih =>
      have first := @probeChild_adopts pdev i child (world.getChild pdev position) (calls i)
      rw [passed] at first
      obtain ⟨created, progress⟩ := later.outcome.progress
      have here : Adopts pdev world (middle.putChild pdev position) := first
      exact here.trans ih progress.devm

theorem probe_adopts (probed : gpioSysfsProbe pdev children calls world = (result, after)) :
    Adopts pdev world after := by
  by_cases empty : children = []
  · simp only [gpioSysfsProbe, empty, List.length_nil, if_true, Prod.mk.injEq] at probed
    rw [← probed.2]
    exact fun _ => Or.inl
  · have run := probeChildren_run pdev calls.child children 0 0 (entered pdev children calls world)
    have adopts := run.adopts
    rw [← probe_eq_loop empty, probed] at adopts
    intro device member
    have kept := adopts device member
    rwa [entered_frame.1] at kept

theorem probe_grows (probed : gpioSysfsProbe pdev children calls world = (result, after)) :
    world.devm.Grows pdev after.devm := by
  obtain ⟨_, _, created, _, creates, _⟩ := probe_creates pdev children calls world
  rw [probed] at creates
  exact creates.grows

/-- What a probe has registered stays without a device to go with unless it has
registered all or nothing. -/
theorem probe_registered (probed : gpioSysfsProbe pdev children calls world = (result, after)) :
    ∃ created, after.devices = created.reverse ++ world.devices ∧
      (∀ device ∈ created, device.parent = pdev) ∧
      (AllOrNone children calls ↔ result = .ok () ∨ created = []) := by
  by_cases empty : children = []
  · simp only [gpioSysfsProbe, empty, List.length_nil, if_true, Prod.mk.injEq] at probed
    have parents : ∀ device ∈ ([] : List ClassDevice), device.parent = pdev := by
      intro _ member
      cases member
    refine ⟨[], by rw [← probed.2]; rfl, parents, iff_of_true (fun some => ?_) (Or.inr rfl)⟩
    exact absurd (by rw [empty]; rfl) some
  have outcome := @probe_outcome pdev children calls world empty
  have frame := @entered_frame pdev children calls world
  have most : (available children).length ≤ children.length := List.length_filter_le _ _
  rw [probed] at outcome
  cases outcome with
  | finished created after progress length succeeded stored =>
      refine ⟨created, frame.1 ▸ progress.devices, progress.parents, iff_of_true (fun some _ => ?_) (Or.inl rfl)⟩
      refine ⟨?_, fun index bound => Nat.zero_add index ▸ succeeded index (length ▸ bound)⟩
      by_contra missing
      rw [entered_null (Bool.eq_false_iff.mpr missing)] at stored
      have none := List.map_eq_nil_iff.mp (setSlots_null stored).1
      rw [none, List.length_nil] at length
      exact some (List.length_eq_zero_iff.mp length.symm)
  | stopped created refusal after dev progress length succeeded failed _ _ =>
      rw [Nat.zero_add] at failed
      refine ⟨created, frame.1 ▸ progress.devices, progress.parents, Iff.intro (fun all => ?_) ?_⟩
      · refine Or.inr (List.eq_nil_of_length_eq_zero ?_)
        by_contra some
        have nonempty := List.ne_nil_of_length_pos (Nat.zero_lt_of_lt length)
        have first : Succeeds (calls.child 0) := Nat.zero_add 0 ▸ succeeded 0 (Nat.pos_of_ne_zero some)
        exact failed ((all nonempty first).2 _ length)
      · rintro (ok | rfl)
        · cases ok
        · exact fun _ first => absurd first failed
  | lost created last after progress length succeeded stored missing =>
      refine ⟨created ++ [last], frame.1 ▸ progress.devices, progress.parents, iff_of_false (fun all => ?_) ?_⟩
      · have nonempty := List.ne_nil_of_length_pos (Nat.zero_lt_of_lt length)
        have first : Succeeds (calls.child 0) := Nat.zero_add 0 ▸ succeeded 0 (Nat.zero_le _)
        have allocated := (all nonempty first).1
        rw [(@entered_array pdev children calls world allocated).1] at missing
        refine missing ?_
        rw [HasSlot, List.length_replicate]
        omega
      · simp

end Probing

section Anchoring

theorem gpioSysfsRemove_eq (world : World) : gpioSysfsRemove world = { world with
    devices := world.devices.filter fun device => slotOf device ∉ removalSlots world
    unregistered := world.unregistered ++ removalSlots world } := by
  rw [gpioSysfsRemove, foldl_deviceUnregister]

/-- `Anchored` with the memory of the parent. -/
def Owned (core : Core World Unit) : Prop :=
  ∀ device ∈ core.world.devices,
    device.parent ∈ core.bound.map Prod.fst ∧ (device.parent, device.data.address) ∈ core.world.devm.live

theorem Owned.start : Owned (.start loaded) := by
  intro device member
  cases member

theorem Owned.anchored (owned : Owned core) : Anchored core := fun device member =>
  ⟨(owned device member).1, ⟨device.parent, (owned device member).2⟩⟩

theorem devices_of_refused {refusal : Refusal} (complete : AllOrNone children calls)
    (probed : gpioSysfsProbe pdev children calls world = (.error refusal, after)) :
    after.devices = world.devices := by
  obtain ⟨created, devices, _, registered⟩ := probe_registered probed
  rcases registered.mp complete with ok | rfl
  · cases ok
  · exact devices

theorem owned_kept : Kept gpioPlatformDriver Covered Owned where
  bind unbound owned _ probed := by
    intro device member
    rcases probe_adopts probed device member with old | new
    · exact ⟨List.mem_cons_of_mem _ (owned device old).1, (probe_grows probed).keeps _ (owned device old).2⟩
    · exact ⟨new.1 ▸ List.mem_cons_self, new.1 ▸ new.2⟩
  refuse unbound owned covered probed := by
    intro device member
    have old := devices_of_refused (covered unbound) probed ▸ member
    obtain ⟨bound, live⟩ := owned device old
    refine ⟨bound, Managed.mem_reclaim.mpr ⟨(probe_grows probed).keeps _ live, fun same => ?_⟩⟩
    exact unbound (same ▸ bound)
  oops unbound owned covered probed := by
    intro device member
    have old := devices_of_refused (covered unbound) probed ▸ member
    exact ⟨(owned device old).1, (probe_grows probed).keeps _ (owned device old).2⟩
  unbind {core pdev _} owned covered _ := by
    intro device member
    have removed : device ∈ (gpioSysfsRemove core.world).devices := member
    rw [gpioSysfsRemove_eq] at removed
    obtain ⟨old, kept⟩ := List.mem_filter.mp removed
    have apart : device.parent ≠ pdev := fun same => of_decide_eq_true kept (covered device old same)
    obtain ⟨bound, live⟩ := owned device old
    obtain ⟨entry, listed, same⟩ := List.mem_map.mp bound
    constructor
    · refine List.mem_map.mpr ⟨entry, List.mem_filter.mpr ⟨listed, ?_⟩, same⟩
      exact decide_eq_true (same ▸ apart)
    · have still : (device.parent, device.data.address) ∈ (gpioSysfsRemove core.world).devm.live := by
        rw [gpioSysfsRemove_eq]
        exact live
      exact Managed.mem_reclaim.mpr ⟨still, apart⟩

/-- A class device that no removal finds stays registered. -/
structure Missed (device : ClassDevice) (core : Core World Unit) : Prop where
  registered : device ∈ core.world.devices
  unlisted : slotOf device ∉ removalSlots core.world

theorem Missed.remove {device : ClassDevice} (missed : Missed device core) (pdev : Nat) :
    Missed device (serve gpioPlatformDriver core (.remove pdev)).1 := by
  cases found : core.bound.lookup pdev with
  | none => simpa only [serve, found] using missed
  | some data =>
      rw [serve_remove (mem_of_lookup found)]
      constructor
      · have member : device ∈ (gpioSysfsRemove core.world).devices := by
          rw [gpioSysfsRemove_eq]
          exact List.mem_filter.mpr ⟨missed.registered, decide_eq_true missed.unlisted⟩
        exact member
      · intro listed
        have before := @removalSlots_reclaim pdev (gpioSysfsRemove core.world) device.id listed
        rw [gpioSysfsRemove_eq] at before
        exact missed.unlisted before

theorem Missed.removes {device : ClassDevice} (missed : Missed device core) (pdevs : List Nat) :
    Missed device (stateAfter (serve gpioPlatformDriver) core (pdevs.map .remove)) := by
  induction pdevs generalizing core with
  | nil => exact missed
  | cons pdev rest ih => exact ih (missed.remove pdev)

theorem covered_of_anchored (request : ProbeRequest)
    (anchored : Anchored (serve gpioPlatformDriver core request).1) : Covered core request := by
  cases request with
  | probe pdev children calls =>
      intro unbound
      rcases probed : gpioPlatformDriver.probe pdev children calls core.world with ⟨refusal | _, world⟩
      · obtain ⟨created, devices, parents, registered⟩ := probe_registered probed
        refine registered.mpr (Or.inr (List.eq_nil_iff_forall_not_mem.mpr fun device member => ?_))
        have listed : device ∈ world.devices := by
          rw [devices]
          exact List.mem_append_left _ (List.mem_reverse.mpr member)
        cases refusal with
        | errno rc =>
            rw [serve_probe_errno unbound probed] at anchored
            exact unbound (parents device member ▸ (anchored device listed).1)
        | oops =>
            rw [serve_probe_oops unbound probed] at anchored
            exact unbound (parents device member ▸ (anchored device listed).1)
      · obtain ⟨_, _, _, registered⟩ := probe_registered probed
        exact registered.mpr (Or.inl rfl)
  | remove pdev =>
      intro device member own
      by_contra unlisted
      have missed := (Missed.mk member unlisted).remove pdev
      obtain ⟨bound, _⟩ := anchored device missed.registered
      rw [own, bound_remove] at bound
      obtain ⟨entry, listed, same⟩ := List.mem_map.mp bound
      exact of_decide_eq_true (List.mem_filter.mp listed).2 same

/-- Removals that leave no class device at all find those of their devices. -/
theorem removes_covered {pdevs : List Nat}
    (none : (stateAfter (serve gpioPlatformDriver) core (pdevs.map .remove)).world.devices = []) :
    Along (serve gpioPlatformDriver) Covered core (pdevs.map .remove) := by
  induction pdevs generalizing core with
  | nil => trivial
  | cons pdev rest ih =>
      refine ⟨fun device member _ => ?_, ih none⟩
      by_contra unlisted
      have missed := (Missed.mk member unlisted).removes (pdev :: rest)
      exact List.not_mem_nil (none ▸ missed.registered)

theorem removals_covered (anchored : Anchored (detach gpioPlatformDriver core)) :
    Along (serve gpioPlatformDriver) Covered core (removals core) := by
  have all : (removals core : List ProbeRequest) = (core.bound.map Prod.fst).map .remove := by
    rw [removals, List.map_map]
    rfl
  have none : (detach gpioPlatformDriver core).world.devices = [] := by
    refine List.eq_nil_iff_forall_not_mem.mpr fun device member => ?_
    obtain ⟨bound, _⟩ := anchored device member
    rw [bound_detach] at bound
    cases bound
  rw [all]
  apply removes_covered
  rw [← all]
  exact none

end Anchoring

section Module

variable {module : GpioModule}

theorem inited (keeps : Keeps holdings Owned module) (unloaded : module.loaded = false) (calls : InitCalls) :
    Inited .driver (RegistersDriver calls) (Keeps holdings Owned)
      (gpioSysfsInit calls (module.fresh gpioModule.fresh)) := by
  have held := keeps.unloaded_held unloaded
  cases created : calls.classCreate with
  | error rc =>
      simp only [gpioSysfsInit, created]
      apply Inited.failed
      · exact fun succeeds => by simp [created] at succeeds
      · exact ⟨keeps.good, keeps.held, keeps.strays, keeps.unbound⟩
  | ok _ =>
  cases outcome : calls.platformDriverRegister with
  | error rc =>
      simp only [gpioSysfsInit, created, outcome]
      apply Inited.unregistered
      · intro registers
        cases outcome.symm.trans (registers created)
      · simp [Module.fresh, held]
  | ok _ =>
      simp only [gpioSysfsInit, created, outcome]
      apply Inited.registered
      · exact fun _ => outcome
      · refine ⟨keeps.good, ?_, keeps.strays, nofun⟩
        simp [Module.fresh, held, holdings]

theorem exit_releases (keeps : Keeps holdings Owned module) (loaded : module.loaded = true) :
    (gpioSysfsExit module).account.held = [] ∧
      (gpioSysfsExit module).account.strays = module.account.strays := by
  have held := keeps.loaded_held loaded
  have first := Account.release_newest_eq held (by simp)
  have second := Account.release_newest_eq first.1 (by simp)
  exact ⟨second.1, second.2.trans first.2⟩

theorem gpioModule_steady : Steady gpioModule holdings RegistersDriver Covered Owned Anchored where
  listed _ := List.mem_cons_self
  good owned := owned.anchored
  inits calls keeps unloaded := inited keeps unloaded calls
  serves request owned covered := ⟨owned_kept.serve request owned covered, rfl⟩
  exact _ anchored := covered_of_anchored _ anchored
  exits := rfl
  releases keeps loaded _ := exit_releases keeps loaded
  detaches _ anchored := removals_covered anchored

/-- Over all loads, probes and removals, no class device is left without its
parent, its data or its class, and the module releases what it holds, exactly as
long as the loads register the driver, each probe creates all of its class
devices or none and each removal finds those of its device in the array. -/
theorem run_strands_no_device_iff (requests : List (ModuleRequest InitCalls (List ChildNode) ProbeCalls)) :
    (∀ seen, seen <+: requests →
      Keeps holdings Anchored (stateAfter gpioModule.step (.unused loaded) seen)) ↔
      Along gpioModule.step (Orderly gpioModule RegistersDriver Covered) (.unused loaded) requests :=
  gpioModule_steady.keeps_iff (.unused .start) requests

end Module

end BbbLkm.GpioSysfs
