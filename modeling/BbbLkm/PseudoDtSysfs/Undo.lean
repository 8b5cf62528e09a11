import BbbLkm.PseudoDtSysfs.Probe

namespace BbbLkm.PseudoDtSysfs

open BbbLkm.Machine BbbLkm.Kernel BbbLkm.PseudoDt

/-- `sysfs_create_group` does not fail in a probe whose other steps all succeed. -/
def SysfsHolds (core : Core World PseudoDevPrivateData) :
    Request PlatformDevice SysfsProbeCalls → Prop
  | .probe pdev device calls => pdev ∉ core.bound.map Prod.fst →
      Completes device calls.toProbeCalls core.world → calls.sysfsCreateGroup = .ok ()
  | .remove _ => True

/-- The count is that of the bound devices, and no registered cdev is part of
memory that has been freed. -/
structure Consistent (core : Core World PseudoDevPrivateData) : Prop where
  total : core.world.totalDevices = core.bound.length
  cdevs : ∀ cdev ∈ core.world.cdevs, core.world.devm.Live cdev.block

/-- Serving the request leaves the books consistent, and leaves them alone if
it is a probe that fails. -/
def UndoesFailure (core : Core World PseudoDevPrivateData)
    (request : Request PlatformDevice SysfsProbeCalls) : Prop :=
  (∀ refusal, (serve pseudoPlatformDriver core request).2 = .refused refusal →
    SameBooks core (serve pseudoPlatformDriver core request).1) ∧
  Consistent (serve pseudoPlatformDriver core request).1

variable {core : Core World PseudoDevPrivateData} {pdev : Nat} {device : PlatformDevice}
  {calls : SysfsProbeCalls} {requests : List (Request PlatformDevice SysfsProbeCalls)}

theorem consistent_of_balanced (balanced : Balanced core) : Consistent core where
  total := balanced.total
  cdevs := by
    intro cdev member
    rw [balanced.cdevs] at member
    obtain ⟨entry, bound, rfl⟩ := List.mem_map.mp member
    exact ⟨entry.1, balanced.owned entry bound⟩

theorem probe_eq_of_sysfsHolds (balanced : Balanced core) (unbound : pdev ∉ core.bound.map Prod.fst)
    (holds : SysfsHolds core (.probe pdev device calls)) :
    pseudoPlatformDriverProbe pdev device calls core.world =
      probeDevice pdev device calls.toProbeCalls core.world := by
  have outcome := balanced.outcome (rfl : probeDevice pdev device calls.toProbeCalls core.world = _)
  generalize probed : probeDevice pdev device calls.toProbeCalls core.world = result at outcome
  cases outcome with
  | refused refusal devm _ _ _ => exact probe_of_refused probed
  | registered data devm completes _ _ _ _ =>
      exact (probe_of_sysfs_ok (holds unbound completes)).trans probed

theorem balanced_kept : Kept pseudoPlatformDriver SysfsHolds Balanced where
  bind unbound balanced holds probed :=
    balanced.bind unbound
      (balanced.outcome ((probe_eq_of_sysfsHolds balanced unbound holds).symm.trans probed))
  refuse unbound balanced holds probed :=
    (balanced.refuse (balanced.outcome
      ((probe_eq_of_sysfsHolds balanced unbound holds).symm.trans probed))).reclaimed unbound
  oops unbound balanced holds probed :=
    balanced.refuse
      (balanced.outcome ((probe_eq_of_sysfsHolds balanced unbound holds).symm.trans probed))
  unbind balanced _ member := balanced.unbind member

theorem sameBooks_of_refused {refusal : Refusal} (balanced : Balanced core)
    (holds : SysfsHolds core (.probe pdev device calls))
    (answer : (serve pseudoPlatformDriver core (.probe pdev device calls)).2 = .refused refusal) :
    SameBooks core (serve pseudoPlatformDriver core (.probe pdev device calls)).1 := by
  obtain ⟨unbound, world, probed, settled⟩ := serve_refused answer
  have shared := (probe_eq_of_sysfsHolds balanced unbound holds).symm.trans probed
  exact (balanced.outcome shared).sameBooks settled

theorem serve_of_sysfs_error {rc : Errno} (balanced : Balanced core)
    (unbound : pdev ∉ core.bound.map Prod.fst)
    (completes : Completes device calls.toProbeCalls core.world)
    (failed : calls.sysfsCreateGroup = .error rc) :
    (serve pseudoPlatformDriver core (.probe pdev device calls)).2 = .refused (.errno rc) ∧
      (serve pseudoPlatformDriver core (.probe pdev device calls)).1.world.totalDevices =
        core.world.totalDevices + 1 := by
  have outcome := balanced.outcome (rfl : probeDevice pdev device calls.toProbeCalls core.world = _)
  generalize registered : probeDevice pdev device calls.toProbeCalls core.world = result at outcome
  cases outcome with
  | refused _ _ _ incomplete _ => exact absurd completes incomplete
  | registered data devm _ _ _ _ _ =>
      rw [serve_probe_errno unbound (probe_of_sysfs_error failed registered)]
      exact ⟨rfl, rfl⟩

theorem sysfsHolds_iff (balanced : Balanced core)
    (request : Request PlatformDevice SysfsProbeCalls) :
    SysfsHolds core request ↔ UndoesFailure core request := by
  apply Iff.intro
  · intro holds
    refine ⟨fun refusal answer => ?_,
      consistent_of_balanced (balanced_kept.serve request balanced holds)⟩
    cases request with
    | probe pdev device calls => exact sameBooks_of_refused balanced holds answer
    | remove pdev =>
        rw [serve] at answer
        split at answer <;> cases answer
  · intro undoes
    cases request with
    | remove pdev => trivial
    | probe pdev device calls =>
        intro unbound completes
        cases created : calls.sysfsCreateGroup with
        | ok _ => rfl
        | error rc =>
            obtain ⟨answer, counted⟩ := serve_of_sysfs_error balanced unbound completes created
            have same := (undoes.1 _ answer).total
            omega

/-- A run undoes every failed probe exactly when `sysfs_create_group` never
fails in a probe whose other steps all succeed. -/
theorem run_undoes_failures_iff (base : Int)
    (requests : List (Request PlatformDevice SysfsProbeCalls)) :
    Along (serve pseudoPlatformDriver) UndoesFailure (.start (loaded base)) requests ↔
      Along (serve pseudoPlatformDriver) SysfsHolds (.start (loaded base)) requests :=
  (along_congr Balanced (fun _ request balanced holds => balanced_kept.serve request balanced holds)
    (fun _ request balanced => sysfsHolds_iff balanced request) (.start base)).symm

def sysfsFails : List (Request PlatformDevice SysfsProbeCalls) :=
  [.probe 1 pcdev1 { SysfsProbeCalls.succeeding with sysfsCreateGroup := .error .noMemory }]

theorem run_leaves_failure :
    ¬ ∀ (base : Int) (requests : List (Request PlatformDevice SysfsProbeCalls)),
      Along (serve pseudoPlatformDriver) UndoesFailure (.start (loaded base)) requests := by
  intro claimed
  have undoes := (claimed 100 sysfsFails).1
  have same := (undoes.1 (.errno .noMemory) rfl).total
  exact absurd same (by decide)

end BbbLkm.PseudoDtSysfs
