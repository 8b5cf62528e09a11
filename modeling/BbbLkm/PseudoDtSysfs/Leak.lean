import BbbLkm.PseudoDt.Memory
import BbbLkm.PseudoDtSysfs.Lifetime
import BbbLkm.PseudoDtSysfs.Ownership

namespace BbbLkm.PseudoDtSysfs

open BbbLkm.Machine BbbLkm.Kernel BbbLkm.PseudoDt

variable {pdev : Nat} {device : PlatformDevice} {calls : SysfsProbeCalls} {world after : World}
  {data : PseudoDevPrivateData} {result : Except Refusal PseudoDevPrivateData}

theorem probe_keeps (probed : pseudoPlatformDriverProbe pdev device calls world = (result, after)) :
    ProbeKeeps pdev world result after := by
  rcases probe_cases pdev device calls world with same | ⟨rc, data, registered, shared, failed⟩
  · exact probeDevice_keeps (same.symm.trans probed)
  · have keeps := probeDevice_keeps shared
    rw [failed] at probed
    cases probed
    constructor
    · exact keeps.grows
    · exact keeps.cdevs
    · exact nofun
    · exact nofun
    · exact nofun

theorem pseudoPlatformDriver_manages : Manages pseudoPlatformDriver World.devm where
  probe probed := (probe_keeps probed).grows
  remove _ _ _ := rfl
  reclaim _ _ := rfl

section Leak

/-- The addresses of the bound devices have been allocated. -/
def AddressesOld (core : Core World PseudoDevPrivateData) : Prop :=
  ∀ entry ∈ core.bound, entry.2.address < core.world.devm.next

/-- The cdev is registered, in memory that has been freed, and no bound device
leads to it. -/
structure Leaked (cdev : Cdev) (core : Core World PseudoDevPrivateData) : Prop where
  registered : cdev ∈ core.world.cdevs
  old : cdev.block < core.world.devm.next
  freed : ¬ core.world.devm.Live cdev.block
  unreachable : ∀ entry ∈ core.bound, entry.2.address ≠ cdev.block

variable {core : Core World PseudoDevPrivateData} {cdev : Cdev}

theorem addressesOld_kept : Kept pseudoPlatformDriver (fun _ _ => True) AddressesOld where
  bind _ old _ probed := by
    have keeps := probe_keeps probed
    intro entry member
    rcases List.mem_cons.mp member with rfl | before
    · exact Managed.allocated _ _ (keeps.owned _ rfl)
    · exact Nat.lt_of_lt_of_le (old entry before) keeps.grows.next
  refuse _ old _ probed := fun entry member =>
    Nat.lt_of_lt_of_le (old entry member) (probe_keeps probed).grows.next
  oops _ old _ probed := fun entry member =>
    Nat.lt_of_lt_of_le (old entry member) (probe_keeps probed).grows.next
  unbind old _ _ := fun entry member => old entry (List.mem_filter.mp member).1

theorem addressesOld_serve (core : Core World PseudoDevPrivateData)
    (request : Request PlatformDevice SysfsProbeCalls) (old : AddressesOld core) :
    AddressesOld (serve pseudoPlatformDriver core request).1 :=
  addressesOld_kept.serve request old trivial

theorem Leaked.renumber (leaked : Leaked cdev core) (totalDevices deviceNumberBase : Int) :
    Leaked cdev (core.settle { core.world with totalDevices, deviceNumberBase }) :=
  ⟨leaked.registered, leaked.old, leaked.freed, leaked.unreachable⟩

/-- Nothing that the driver does unregisters the cdev. -/
theorem leaked_serve (leaked : Leaked cdev core) (request : Request PlatformDevice SysfsProbeCalls) :
    Leaked cdev (serve pseudoPlatformDriver core request).1 := by
  have dead := pseudoPlatformDriver_manages.serve_dead request leaked.old leaked.freed
  cases request with
  | probe pdev device calls =>
      by_cases unbound : pdev ∉ core.bound.map Prod.fst
      · rcases probed : pseudoPlatformDriverProbe pdev device calls core.world with ⟨refusal | data, world⟩
        · have stays := (probe_keeps probed).cdevs cdev leaked.registered leaked.old
          cases refusal with
          | errno rc =>
              rw [serve_probe_errno unbound probed] at dead ⊢
              exact ⟨stays, dead.1, dead.2, leaked.unreachable⟩
          | oops =>
              rw [serve_probe_oops unbound probed] at dead ⊢
              exact ⟨stays, dead.1, dead.2, leaked.unreachable⟩
        · have keeps := probe_keeps probed
          have stays := keeps.cdevs cdev leaked.registered leaked.old
          rw [serve_probe_ok unbound probed] at dead ⊢
          refine ⟨stays, dead.1, dead.2, fun entry member => ?_⟩
          rcases List.mem_cons.mp member with rfl | before
          · exact fun same => dead.2 ⟨_, same ▸ keeps.owned _ rfl⟩
          · exact leaked.unreachable entry before
      · simpa only [serve, dif_neg unbound] using leaked
  | remove pdev =>
      cases found : core.bound.lookup pdev with
      | none => simpa only [serve, found] using leaked
      | some data =>
          have member := mem_of_lookup found
          rw [serve_remove member] at dead ⊢
          refine ⟨?_, dead.1, dead.2, fun entry kept => leaked.unreachable entry (List.mem_filter.mp kept).1⟩
          have apart : cdev.block ≠ data.address := fun same => leaked.unreachable _ member same.symm
          exact List.mem_filter.mpr ⟨leaked.registered, decide_eq_true apart⟩

theorem leaked_of_sysfs_error {rc : Errno} (old : AddressesOld core)
    (unbound : pdev ∉ core.bound.map Prod.fst) (failed : calls.sysfsCreateGroup = .error rc)
    (registered : probeDevice pdev device calls.toProbeCalls core.world = (.ok data, world)) :
    Leaked ⟨data.address, data.devNum⟩ (serve pseudoPlatformDriver core (.probe pdev device calls)).1 := by
  have keeps := probeDevice_keeps registered
  have fresh := keeps.fresh data rfl
  have owned := keeps.owned data rfl
  rw [serve_probe_errno unbound (probe_of_sysfs_error failed registered)]
  constructor
  · exact keeps.added data rfl
  · exact world.devm.allocated _ owned
  · intro live
    have gone := (Managed.live_reclaim_iff.mp live).2
    exact gone (Managed.mem_blocks.mpr owned)
  · intro entry member
    have before := old entry member
    simp only
    omega

/-- After any run, a probe that fails only in `sysfs_create_group` leaves a cdev
in freed memory that no later request takes back, and no unload either. -/
theorem run_never_takes_back_cdev {rc : Errno}
    (before : List (ModuleRequest InitCalls PlatformDevice SysfsProbeCalls)) (module : PseudoModule)
    (reached : stateAfter sysfsModule.step (.unused (PseudoDt.loaded 0)) before = module)
    (unbound : pdev ∉ module.core.bound.map Prod.fst) (failed : calls.sysfsCreateGroup = .error rc)
    (registered : probeDevice pdev device calls.toProbeCalls module.core.world = (.ok data, world))
    (loaded : .driver ∈ module.account.held)
    (after : List (ModuleRequest InitCalls PlatformDevice SysfsProbeCalls)) :
    Leaked ⟨data.address, data.devNum⟩
      (stateAfter sysfsModule.step module (.bus (.probe pdev device calls) :: after)).core := by
  have old : AddressesOld module.core := by
    have start : AddressesOld (Module.unused (PseudoDt.loaded 0) : PseudoModule).core := nofun
    have inits := @init_core AddressesOld fun _ _ _ old => old
    rw [← reached]
    exact invariant_run (DriverModule.step_core addressesOld_serve inits fun _ => rfl) start
  have inits := @init_core (Leaked ⟨data.address, data.devNum⟩) fun _ total base leaked =>
    leaked.renumber total base
  have kept := @DriverModule.step_core _ _ _ _ _ _ _ sysfsModule (Leaked ⟨data.address, data.devNum⟩)
    (fun _ request leaked => leaked_serve leaked request) inits fun _ => rfl
  have probed : (sysfsModule.step module (.bus (.probe pdev device calls))).1.core =
      (serve pseudoPlatformDriver module.core (.probe pdev device calls)).1 := by
    have served : .driver ∈ module.account.held := loaded
    rw [DriverModule.step, sysfsModule, pseudoModule, if_pos served]
  rw [stateAfter_cons]
  exact invariant_run kept (probed.symm ▸ leaked_of_sysfs_error old unbound failed registered)

def loadsAt100 : List (ModuleRequest InitCalls PlatformDevice SysfsProbeCalls) :=
  [.insmod ⟨.ok 100, .ok (), .ok ()⟩]

theorem pcdev1_cdev_survives_unload :
    Leaked ⟨1, 100⟩
      (stateAfter sysfsModule.step (stateAfter sysfsModule.step (.unused (PseudoDt.loaded 0)) loadsAt100)
        [.bus (.probe 1 pcdev1 { SysfsProbeCalls.succeeding with sysfsCreateGroup := .error .noMemory }),
          .rmmod]).core :=
  @run_never_takes_back_cdev 1 pcdev1 { SysfsProbeCalls.succeeding with sysfsCreateGroup := .error .noMemory }
    _ pcdev1Data .noMemory loadsAt100 _ rfl List.not_mem_nil rfl rfl List.mem_cons_self [.rmmod]

end Leak

end BbbLkm.PseudoDtSysfs
