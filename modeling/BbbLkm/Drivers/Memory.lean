import BbbLkm.GpioSysfs.Lifetime
import BbbLkm.PseudoDtSysfs.Leak
import BbbLkm.PseudoPlatform.Bookkeeping

namespace BbbLkm.Drivers

open BbbLkm.Machine BbbLkm.Kernel

theorem platformRegister_devm (calls : PseudoPlatform.ProbeCalls) (id : Int32)
    (data : PseudoPlatform.PseudoDevPrivateData) (world : PseudoPlatform.World) :
    (PseudoPlatform.probeRegister calls id data world).2.devm = world.devm := by
  cases added : calls.cdevAdd with
  | error rc => simp only [PseudoPlatform.probeRegister, added]
  | ok _ =>
      simp only [PseudoPlatform.probeRegister, added]
      split
      · rfl
      · rfl

theorem platformProbe_grows {pdev : Nat} {device : PseudoPlatform.MatchedDevice}
    {calls : PseudoPlatform.ProbeCalls} {world after : PseudoPlatform.World}
    {result : Except Refusal PseudoPlatform.PseudoDevPrivateData}
    (probed : PseudoPlatform.pseudoPlatformDriverProbe pdev device calls world = (result, after)) :
    world.devm.Grows pdev after.devm := by
  have none := Managed.Grows.refl pdev world.devm
  have left : after = (PseudoPlatform.pseudoPlatformDriverProbe pdev device calls world).2 :=
    (congrArg Prod.snd probed).symm
  rw [left, PseudoPlatform.pseudoPlatformDriverProbe]
  split
  · exact none
  · split
    · exact none
    · split
      · exact none.allocate
      · split
        · exact none.allocate
        · rw [platformRegister_devm]
          exact devmKzalloc_grows _ none.allocate

theorem pseudoPlatform_manages : Manages PseudoPlatform.pseudoPlatformDriver PseudoPlatform.World.devm where
  probe := platformProbe_grows
  remove _ _ _ := rfl
  reclaim _ _ := rfl

theorem gpioSysfs_manages : Manages GpioSysfs.gpioPlatformDriver GpioSysfs.World.devm where
  probe := GpioSysfs.probe_grows
  remove _ _ world := by
    have removed : (GpioSysfs.gpioSysfsRemove world).devm = world.devm := by
      rw [GpioSysfs.gpioSysfsRemove_eq]
    exact removed
  reclaim _ _ := rfl

/-- The managed memory of all four platform drivers is freed, whatever fails.
The buffers that a store to `max_size` reallocates are not managed. -/
theorem run_frees_memory :
    (∀ requests, Manages.FreesMemory PseudoPlatform.pseudoPlatformDriver PseudoPlatform.World.devm
      (.loading .empty .empty) requests) ∧
    (∀ base requests, Manages.FreesMemory PseudoDt.pseudoPlatformDriver PseudoDt.World.devm
      (PseudoDt.loaded base) requests) ∧
    (∀ base requests, Manages.FreesMemory PseudoDtSysfs.pseudoPlatformDriver PseudoDt.World.devm
      (PseudoDt.loaded base) requests) ∧
    ∀ requests, Manages.FreesMemory GpioSysfs.gpioPlatformDriver GpioSysfs.World.devm GpioSysfs.loaded
      requests := by
  apply And.intro
  · exact fun requests => pseudoPlatform_manages.freesMemory rfl requests
  apply And.intro
  · exact fun base requests => PseudoDt.pseudoPlatformDriver_manages.freesMemory rfl requests
  apply And.intro
  · exact fun base requests => PseudoDtSysfs.pseudoPlatformDriver_manages.freesMemory rfl requests
  · exact fun requests => gpioSysfs_manages.freesMemory rfl requests

end BbbLkm.Drivers
