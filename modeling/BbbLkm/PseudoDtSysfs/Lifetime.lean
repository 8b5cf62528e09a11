import BbbLkm.PseudoDt.Lifetime
import BbbLkm.PseudoDtSysfs.Undo

namespace BbbLkm.PseudoDtSysfs

open BbbLkm.Machine BbbLkm.Kernel BbbLkm.PseudoDt

def pseudoPlatformDriverInit (calls : InitCalls) (module : PseudoModule) : Except Errno Unit × PseudoModule :=
  PseudoDt.pseudoPlatformDriverInit calls module

def pseudoPlatformDriverCleanup (module : PseudoModule) : PseudoModule :=
  PseudoDt.pseudoPlatformDriverCleanup pseudoPlatformDriver module

def sysfsModule :
    DriverModule World PlatformDevice SysfsProbeCalls PseudoDevPrivateData InitCalls Registration :=
  { pseudoModule pseudoPlatformDriver with
    init := pseudoPlatformDriverInit
    exit := pseudoPlatformDriverCleanup }

theorem probe_base {pdev : Nat} {device : PlatformDevice} {calls : SysfsProbeCalls} {world after : World}
    {result : Except Refusal PseudoDevPrivateData}
    (probed : pseudoPlatformDriverProbe pdev device calls world = (result, after)) :
    after.deviceNumberBase = world.deviceNumberBase := by
  rcases probe_cases pdev device calls world with same | ⟨rc, data, registered, shared, failed⟩
  · exact probeDevice_base (same.symm.trans probed)
  · rw [failed] at probed
    cases probed
    have base := probeDevice_base shared
    exact base

/-- A failing `sysfs_create_group` counts a device that is not bound. -/
theorem sysfsHolds_of_exact {core : Core World PseudoDevPrivateData}
    {request : Request PlatformDevice SysfsProbeCalls} (balanced : Balanced core)
    (exact : ExactBooks (serve pseudoPlatformDriver core request).1) : SysfsHolds core request := by
  cases request with
  | remove pdev => trivial
  | probe pdev device calls =>
      intro unbound completes
      cases created : calls.sysfsCreateGroup with
      | ok _ => rfl
      | error rc =>
          obtain ⟨answer, counted⟩ := serve_of_sysfs_error balanced unbound completes created
          obtain ⟨_, world, _, settled⟩ := serve_refused answer
          have bound : (serve pseudoPlatformDriver core (.probe pdev device calls)).1.bound = core.bound := by
            rcases settled with same | same
            · rw [same]
              rfl
            · rw [same]
              rfl
          have total := exact.total
          have before := balanced.total
          rw [bound] at total
          omega

theorem pseudoPlatformDriver_keepsBooks : KeepsBooks pseudoPlatformDriver SysfsHolds where
  kept := balanced_kept
  probe := probe_base
  remove _ _ _ := rfl
  reclaim _ _ := rfl
  removes _ _ := trivial
  exact := sysfsHolds_of_exact

/-- The module stays in order exactly as long as each load registers the driver
and `sysfs_create_group` never fails in a probe whose other steps all succeed. -/
theorem run_stays_in_order_with_sysfs_iff
    (requests : List (ModuleRequest InitCalls PlatformDevice SysfsProbeCalls)) :
    (∀ seen, seen <+: requests → Keeps holdings ExactBooks
      (stateAfter sysfsModule.step (.unused (loaded 0)) seen)) ↔
      Along sysfsModule.step (Orderly sysfsModule RegistersDriver SysfsHolds) (.unused (loaded 0)) requests :=
  pseudoPlatformDriver_keepsBooks.steady.keeps_iff (.unused (.start 0)) requests

end BbbLkm.PseudoDtSysfs
