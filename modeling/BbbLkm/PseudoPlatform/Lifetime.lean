import BbbLkm.PseudoPlatform.Bookkeeping

namespace BbbLkm.PseudoPlatform

open BbbLkm.Machine BbbLkm.Kernel

def World.unused : World := .loading .empty .empty

/-- The bus binds devices while the driver is registered. -/
def bindings (world : World) (requests : List (Request MatchedDevice ProbeCalls)) :
    Core World PseudoDevPrivateData :=
  if .driver ∈ world.account.held then
    stateAfter (serve pseudoPlatformDriver) (.start world) requests
  else .start world

/-- The account of a complete run: a load, binds and unbinds and, if the load
returned 0, an unload. -/
def lifetime (calls : InitCalls) (requests : List (Request MatchedDevice ProbeCalls)) :
    Account Resource :=
  match pseudoPlatformDriverInit calls .unused with
  | (.error _, world) => world.account
  | (.ok _, world) => (pseudoPlatformDriverCleanup (bindings world requests)).world.account

/-- The load returns 0 only with all of its resources registered and an error
only with none, and the run releases all it acquired once and nothing else. -/
structure HonoursLifetime (calls : InitCalls)
    (requests : List (Request MatchedDevice ProbeCalls)) : Prop where
  loaded : (pseudoPlatformDriverInit calls .unused).1 = .ok () →
    ∃ region, calls.allocChrdevRegion = .ok region ∧
      ∀ resource ∈ moduleResources region.base,
        resource ∈ (pseudoPlatformDriverInit calls .unused).2.account.held
  failed : ∀ rc, (pseudoPlatformDriverInit calls .unused).1 = .error rc →
    (pseudoPlatformDriverInit calls .unused).2.account.held = []
  settled : (lifetime calls requests).Settled

/-- `platform_driver_register` succeeds if the calls before it do. -/
def RegistersDriver (calls : InitCalls) : Prop :=
  (∃ region, calls.allocChrdevRegion = .ok region) → calls.classCreate = .ok () →
    calls.platformDriverRegister = .ok ()

variable {base : UInt32} {core : Core World PseudoDevPrivateData} {calls : InitCalls}
  {requests : List (Request MatchedDevice ProbeCalls)}

theorem running_start {account : Account Resource} {devm : Managed Nat} (region : ReservedRegion)
    (held : account.held = []) (strays : account.strays = 0) :
    Running region.base
      (.start (pseudoPlatformDriverInit (.succeeding region) (.loading account devm)).2) where
  region := rfl
  held := congrArg (moduleResources region.base ++ ·) held
  strays := strays
  total := rfl
  numbers := List.nodup_nil
  owned := nofun

theorem running_unused (region : ReservedRegion) :
    Running region.base
      (.start (pseudoPlatformDriverInit (.succeeding region) .unused).2) :=
  running_start region rfl rfl

theorem running_detach (running : Running base core) :
    Running base (detach pseudoPlatformDriver core) :=
  (running_kept base).always running _

/-- An unload takes down everything that a running module stands for. -/
theorem cleanup_releases (running : Running base core) :
    (pseudoPlatformDriverCleanup core).world.account.held = [] ∧
      (pseudoPlatformDriverCleanup core).world.account.strays = 0 := by
  have detached := running_detach running
  have held := detached.held
  rw [bound_detach, List.flatMap_nil, List.nil_append] at held
  have driver := Account.release_newest_eq held (by simp)
  have pseudoClass := Account.release_newest_eq driver.1 (by simp)
  have region := Account.release_newest_eq pseudoClass.1 (by simp)
  simp only [pseudoPlatformDriverCleanup, platformDriverUnregister, Core.settle, detached.region]
  exact ⟨region.1, region.2.trans (pseudoClass.2.trans (driver.2.trans detached.strays))⟩

/-- How a load can go. -/
inductive Loaded (calls : InitCalls) : Except Errno Unit × World → Prop where
  | refused (rc : Errno) (world : World) : RegistersDriver calls → world.account.held = [] →
      world.account.strays = 0 → Loaded calls (.error rc, world)
  | unregistered (world : World) : ¬ RegistersDriver calls → .driver ∉ world.account.held →
      Loaded calls (.ok (), world)
  | registered (region : ReservedRegion) (world : World) : RegistersDriver calls →
      calls.allocChrdevRegion = .ok region → Running region.base (.start world) →
      Loaded calls (.ok (), world)

theorem init_loaded (calls : InitCalls) : Loaded calls (pseudoPlatformDriverInit calls .unused) := by
  cases reserved : calls.allocChrdevRegion with
  | error rc =>
      simp only [pseudoPlatformDriverInit, reserved]
      exact .refused rc _ (fun some => by simp [reserved] at some) rfl rfl
  | ok region =>
  cases created : calls.classCreate with
  | error rc =>
      simp only [pseudoPlatformDriverInit, reserved, created]
      have held : (Account.empty.acquire (Resource.region region.base)).held =
        [.region region.base] := rfl
      have released := Account.release_newest_eq held (by simp)
      exact .refused rc _ (fun _ succeeds => by simp [created] at succeeds) released.1 released.2
  | ok _ =>
  cases outcome : calls.platformDriverRegister with
  | error rc =>
      simp only [pseudoPlatformDriverInit, reserved, created, outcome]
      have unheld : Resource.driver ∉ [.pseudoClass, .region region.base] := by simp
      refine .unregistered _ (fun registers => ?_) unheld
      have succeeds := registers ⟨region, reserved⟩ created
      cases outcome.symm.trans succeeds
  | ok _ =>
      simp only [pseudoPlatformDriverInit, reserved, created, outcome]
      exact .registered region _ (fun _ _ => outcome) reserved (running_unused region)

/-- A run honours its lifetime exactly when `platform_driver_register` succeeds
after the calls before it have. -/
theorem run_settles_iff (calls : InitCalls) (requests : List (Request MatchedDevice ProbeCalls)) :
    HonoursLifetime calls requests ↔ RegistersDriver calls := by
  have outcome := init_loaded calls
  generalize loads : pseudoPlatformDriverInit calls .unused = result at outcome
  cases outcome with
  | refused rc world registers held strays =>
      refine iff_of_true ⟨?_, ?_, ?_⟩ registers
      · rw [loads]
        exact nofun
      · rw [loads]
        exact fun _ _ => held
      · rw [lifetime, loads]
        exact Account.settled_iff.mpr ⟨strays, held⟩
  | unregistered world fails unheld =>
      refine iff_of_false (fun honours => ?_) fails
      have loaded := honours.loaded
      rw [loads] at loaded
      obtain ⟨region, _, held⟩ := loaded rfl
      exact unheld (held .driver List.mem_cons_self)
  | registered region world registers reserved running =>
      have registered : .driver ∈ world.account.held :=
        running.mem_held.mpr (Or.inr List.mem_cons_self)
      refine iff_of_true ⟨?_, ?_, ?_⟩ registers
      · rw [loads]
        exact fun _ => ⟨region, reserved, fun _ member => running.mem_held.mpr (Or.inr member)⟩
      · rw [loads]
        exact nofun
      · have released := cleanup_releases ((running_kept region.base).always running requests)
        rw [lifetime, loads]
        simp only [bindings, if_pos registered]
        exact Account.settled_iff.mpr ⟨released.2, released.1⟩

/-- Major number 511, as a dynamic one may be. -/
def dynamicRegion : ReservedRegion where
  base := UInt32.ofNat (511 * 2 ^ 20)
  fits := by decide

theorem unregistered_driver_loads :
    ¬ ∀ (calls : InitCalls) (requests : List (Request MatchedDevice ProbeCalls)),
      HonoursLifetime calls requests := by
  intro claimed
  have honours := claimed { InitCalls.succeeding dynamicRegion with
    platformDriverRegister := .error .noMemory } []
  obtain ⟨region, _, held⟩ := honours.loaded rfl
  exact absurd (held .driver List.mem_cons_self) (by decide)

end BbbLkm.PseudoPlatform
