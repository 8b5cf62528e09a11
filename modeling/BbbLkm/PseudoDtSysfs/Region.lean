import BbbLkm.PseudoDt.Region
import BbbLkm.PseudoDtSysfs.Probe

namespace BbbLkm.PseudoDtSysfs

open BbbLkm.Machine BbbLkm.Kernel BbbLkm.PseudoDt

theorem numbersByTotal : NumbersByTotal pseudoPlatformDriver SysfsProbeCalls.toProbeCalls where
  probes pdev device calls world := by
    have shared := @probeDevice_adds pdev device calls.toProbeCalls world
    have probe : pseudoPlatformDriver.probe pdev device calls world =
      pseudoPlatformDriverProbe pdev device calls world := rfl
    rw [probe]
    rcases probe_cases pdev device calls world with same | ⟨rc, data, after, registered, failed⟩
    · exact same ▸ shared
    · -- the failed `sysfs_create_group` leaves the counter one too high
      rw [registered] at shared
      rw [failed]
      cases shared with
      | added block _ adds added cdevs base _ bound =>
          have counted : after.totalDevices = world.totalDevices + 1 := bound data rfl
          refine .added block _ adds added cdevs base (fun _ _ => ?_) fun _ succeeded => by cases succeeded
          simp only [counted]
          omega
  removed _ _ _ := ⟨rfl, rfl⟩
  unlisted := PseudoDt.numbersByTotal.unlisted
  reclaimed := rfl

/-- Both drivers keep to the reserved numbers in exactly the runs in which no
probe gets past `cdev_add` while `total_devices` is `MAX_DEVICES` or more. -/
theorem run_numbers_reserved_iff (base : Int) :
    (∀ requests : List (Request PlatformDevice ProbeCalls),
      Along (serve PseudoDt.pseudoPlatformDriver) (RegistersReserved PseudoDt.pseudoPlatformDriver base)
          (.start (loaded base)) requests ↔
        Along (serve PseudoDt.pseudoPlatformDriver) (WithinCapacity id) (.start (loaded base))
          requests) ∧
    (∀ requests : List (Request PlatformDevice SysfsProbeCalls),
      Along (serve pseudoPlatformDriver) (RegistersReserved pseudoPlatformDriver base)
          (.start (loaded base)) requests ↔
        Along (serve pseudoPlatformDriver) (WithinCapacity SysfsProbeCalls.toProbeCalls)
          (.start (loaded base)) requests) :=
  ⟨run_registers_iff PseudoDt.numbersByTotal base, run_registers_iff numbersByTotal base⟩

/-- One probe more than there are reserved numbers. -/
def elevenProbes : List (Request PlatformDevice ProbeCalls) :=
  (List.range 11).map fun pdev => .probe pdev pcdev1 .succeeding

theorem eleventh_number_unreserved :
    (¬ ∀ (base : Int) (requests : List (Request PlatformDevice ProbeCalls)),
      Along (serve PseudoDt.pseudoPlatformDriver) (RegistersReserved PseudoDt.pseudoPlatformDriver base)
        (.start (loaded base)) requests) ∧
    (¬ ∀ (base : Int) (requests : List (Request PlatformDevice SysfsProbeCalls)),
      Along (serve pseudoPlatformDriver) (RegistersReserved pseudoPlatformDriver base)
        (.start (loaded base)) requests) := by
  apply And.intro
  · intro claimed
    have last := along_iff_forall.mp (claimed 100 elevenProbes) (elevenProbes.take 10)
      (.probe 10 pcdev1 .succeeding) [] rfl (by decide)
    obtain ⟨⟨new, added, inside⟩, _⟩ := last
    have one : new = [⟨31, 110⟩] := List.append_cancel_right (added.symm.trans rfl)
    exact absurd (inside ⟨31, 110⟩ (one ▸ List.mem_cons_self)) (by decide)
  · intro claimed
    have last := along_iff_forall.mp
      (claimed 100 ((List.range 11).map fun pdev => .probe pdev pcdev1 .succeeding))
      ((List.range 10).map fun pdev => .probe pdev pcdev1 .succeeding)
      (.probe 10 pcdev1 .succeeding) [] rfl (by decide)
    obtain ⟨⟨new, added, inside⟩, _⟩ := last
    have one : new = [⟨31, 110⟩] := List.append_cancel_right (added.symm.trans rfl)
    exact absurd (inside ⟨31, 110⟩ (one ▸ List.mem_cons_self)) (by decide)

end BbbLkm.PseudoDtSysfs
