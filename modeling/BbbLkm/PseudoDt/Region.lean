import BbbLkm.PseudoDt.Outcome

namespace BbbLkm.PseudoDt

open BbbLkm.Machine BbbLkm.Kernel

def MAX_DEVICES : Int := 10

def InRegion (base number : Int) : Prop := base ≤ number ∧ number < base + MAX_DEVICES

instance (base number : Int) : Decidable (InRegion base number) :=
  inferInstanceAs (Decidable (_ ∧ _))

/-- Every step of the probe up to `cdev_add` succeeds. -/
structure AddsCdev (device : PlatformDevice) (calls : ProbeCalls) : Prop where
  described : Described device calls.platdataAllocated
  dataAllocated : calls.dataAllocated = true
  bufferAllocated : calls.bufferAllocated = true
  cdevAdd : calls.cdevAdd = .ok ()

variable {pdev : Nat} {device : PlatformDevice} {calls : ProbeCalls} {world : World}

/-- Every registered cdev has been added. -/
def Listed (world : World) : Prop := ∀ cdev ∈ world.cdevs, cdev ∈ world.added

/-- A probe adds one cdev, under the next number, and counts the device if it
succeeds, or it fails without having registered anything. -/
inductive AddOutcome (device : PlatformDevice) (calls : ProbeCalls) (world : World) :
    Except Refusal PseudoDevPrivateData × World → Prop where
  | idle (refusal : Refusal) (devm : Managed Nat) : ¬ AddsCdev device calls →
      AddOutcome device calls world (.error refusal, { world with devm })
  | added (block : Nat) (result : Except Refusal PseudoDevPrivateData × World) : AddsCdev device calls →
      result.2.added = ⟨block, nextDevNum world⟩ :: world.added →
      (∀ cdev ∈ result.2.cdevs, cdev ∈ world.cdevs ∨ cdev ∈ result.2.added) →
      result.2.deviceNumberBase = world.deviceNumberBase →
      (∀ refusal, result.1 = .error refusal → world.totalDevices ≤ result.2.totalDevices) →
      (∀ data, result.1 = .ok data → result.2.totalDevices = world.totalDevices + 1) →
      AddOutcome device calls world result

theorem probeRegister_adds {data : PseudoDevPrivateData} {devm : Managed Nat} (adds : AddsCdev device calls) :
    AddOutcome device calls world (probeRegister calls data { world with devm }) := by
  simp only [probeRegister, adds.cdevAdd, cdevAdd]
  split
  · refine .added data.address _ adds rfl (fun cdev member => ?_) rfl (fun _ _ => Int.le_refl _) ?_
    · rcases List.mem_cons.mp (List.mem_filter.mp member).1 with rfl | old
      · exact Or.inr List.mem_cons_self
      · exact Or.inl old
    · rintro _ ⟨⟩
  · refine .added data.address _ adds rfl (fun cdev member => ?_) rfl ?_ (fun _ _ => rfl)
    · rcases List.mem_cons.mp member with rfl | old
      · exact Or.inr List.mem_cons_self
      · exact Or.inl old
    · rintro _ ⟨⟩

theorem probeDevice_adds : AddOutcome device calls world (probeDevice pdev device calls world) := by
  have first : PlatformDataOutcome pdev device calls world.devm _ := probePlatformData_outcome
  rw [probeDevice]
  generalize probePlatformData pdev device calls world.devm = found at first
  cases first with
  | refused refusal devm undescribed _ =>
      exact .idle refusal devm fun adds => undescribed adds.described
  | found pdata driverData devm described _ =>
  have second : AllocateOutcome pdev calls pdata driverData devm _ := probeAllocate_outcome
  simp only
  generalize probeAllocate pdev calls pdata driverData devm = obtained at second
  cases second with
  | refused refusal after unallocated _ =>
      refine .idle refusal after fun adds => unallocated ?_
      exact ⟨described.mp adds.described, adds.dataAllocated, adds.bufferAllocated⟩
  | allocated data after allocates _ _ _ =>
      cases outcome : calls.cdevAdd with
      | error rc =>
          simp only [probeRegister, cdevAdd, outcome]
          exact .idle _ _ fun adds => by simp [adds.cdevAdd] at outcome
      | ok _ => exact probeRegister_adds ⟨described.mpr allocates.1, allocates.2.1, allocates.2.2, outcome⟩

section Driver

variable {Calls : Type} {driver : Driver World PlatformDevice Calls PseudoDevPrivateData}
  {probeCalls : Calls → ProbeCalls} {core : Core World PseudoDevPrivateData} {base : Int}

/-- A driver that numbers its devices as `probeDevice` does. -/
structure NumbersByTotal (driver : Driver World PlatformDevice Calls PseudoDevPrivateData)
    (probeCalls : Calls → ProbeCalls) : Prop where
  probes : ∀ pdev device calls world,
    AddOutcome device (probeCalls calls) world (driver.probe pdev device calls world)
  removed : ∀ pdev data world,
    (driver.remove pdev data world).deviceNumberBase = world.deviceNumberBase ∧
      (driver.remove pdev data world).totalDevices = world.totalDevices - 1
  unlisted : ∀ pdev data world, Listed world → Listed (driver.remove pdev data world)
  reclaimed : driver.reclaim = reclaim

/-- Every number under which the probe adds a cdev is a reserved one, no other
cdev comes to be registered, and a probe that would need a number which is not
reserved fails and registers nothing. -/
def RegistersReserved (driver : Driver World PlatformDevice Calls PseudoDevPrivateData)
    (base : Int) (core : Core World PseudoDevPrivateData) : Request PlatformDevice Calls → Prop
  | .probe pdev device calls => pdev ∉ core.bound.map Prod.fst →
      let served := serve driver core (.probe pdev device calls)
      (∃ new, served.1.world.added = new ++ core.world.added ∧ ∀ cdev ∈ new, InRegion base cdev.number) ∧
      Listed served.1.world ∧
      (¬ InRegion base (nextDevNum core.world) →
        (∃ refusal, served.2 = .refused refusal) ∧ served.1.world.added = core.world.added ∧
          served.1.world.cdevs = core.world.cdevs ∧ served.1.world.nodes = core.world.nodes)
  | .remove _ => True

/-- A probe that gets past `cdev_add` is made while `total_devices` is below
`MAX_DEVICES`. -/
def WithinCapacity (probeCalls : Calls → ProbeCalls) (core : Core World PseudoDevPrivateData) :
    Request PlatformDevice Calls → Prop
  | .probe pdev device calls => pdev ∉ core.bound.map Prod.fst →
      AddsCdev device (probeCalls calls) → core.world.totalDevices < MAX_DEVICES
  | .remove _ => True

structure Counted (base : Int) (core : Core World PseudoDevPrivateData) : Prop where
  base : core.world.deviceNumberBase = base
  total : core.bound.length ≤ core.world.totalDevices
  listed : Listed core.world

theorem Counted.start (base : Int) : Counted base (.start (loaded base)) where
  base := rfl
  total := Int.le_refl 0
  listed _ member := by cases member

theorem AddOutcome.listed {calls : ProbeCalls} {result : Except Refusal PseudoDevPrivateData × World}
    (outcome : AddOutcome device calls world result) (listed : Listed world) : Listed result.2 := by
  cases outcome with
  | idle _ _ _ => exact listed
  | added block _ _ added cdevs _ _ _ =>
      intro cdev member
      rcases cdevs cdev member with old | new
      · rw [added]
        exact List.mem_cons_of_mem _ (listed cdev old)
      · exact new

/-- However the probe ends, the counter stays above the number of bound devices. -/
theorem AddOutcome.counts {calls : ProbeCalls} {result : Except Refusal PseudoDevPrivateData × World}
    (outcome : AddOutcome device calls world result) :
    result.2.deviceNumberBase = world.deviceNumberBase ∧
      (∀ refusal, result.1 = .error refusal → world.totalDevices ≤ result.2.totalDevices) ∧
      ∀ data, result.1 = .ok data → result.2.totalDevices = world.totalDevices + 1 := by
  cases outcome with
  | idle refusal devm _ => exact ⟨rfl, fun _ _ => Int.le_refl _, fun _ succeeded => by cases succeeded⟩
  | added _ _ _ _ _ base refused bound => exact ⟨base, refused, bound⟩

theorem counted_kept (numbers : NumbersByTotal driver probeCalls) :
    Kept driver (fun _ _ => True) (Counted base) where
  bind {core pdev device calls data world} unbound counted _ probed := by
    have outcome := numbers.probes pdev device calls core.world
    rw [probed] at outcome
    have total := counted.total
    have one : world.totalDevices = core.world.totalDevices + 1 := outcome.counts.2.2 data rfl
    refine ⟨outcome.counts.1.trans counted.base, ?_, outcome.listed counted.listed⟩
    simp only [Core.bind, List.length_cons]
    omega
  refuse {core pdev device calls rc world} _ counted _ probed := by
    have outcome := numbers.probes pdev device calls core.world
    rw [probed] at outcome
    have total := Int.le_trans counted.total (outcome.counts.2.1 _ rfl)
    rw [numbers.reclaimed]
    exact ⟨outcome.counts.1.trans counted.base, total, outcome.listed counted.listed⟩
  oops {core pdev device calls world} _ counted _ probed := by
    have outcome := numbers.probes pdev device calls core.world
    rw [probed] at outcome
    have total := Int.le_trans counted.total (outcome.counts.2.1 _ rfl)
    exact ⟨outcome.counts.1.trans counted.base, total, outcome.listed counted.listed⟩
  unbind {core pdev data} counted _ member := by
    have after := numbers.removed pdev data core.world
    have one := Core.length_unbind core.world member
    have total := counted.total
    rw [numbers.reclaimed]
    refine ⟨after.1.trans counted.base, ?_, numbers.unlisted pdev data core.world counted.listed⟩
    simp only [Core.unbind, reclaim] at one ⊢
    omega

theorem inRegion_next_iff (counted : Counted base core) :
    InRegion base (nextDevNum core.world) ↔ core.world.totalDevices < MAX_DEVICES := by
  have total := counted.total
  rw [InRegion, nextDevNum, counted.base]
  omega

theorem serve_idle (numbers : NumbersByTotal driver probeCalls) {calls : Calls}
    (unbound : pdev ∉ core.bound.map Prod.fst) (lacks : ¬ AddsCdev device (probeCalls calls)) :
    (∃ refusal, (serve driver core (.probe pdev device calls)).2 = .refused refusal) ∧
      (serve driver core (.probe pdev device calls)).1.world.added = core.world.added ∧
      (serve driver core (.probe pdev device calls)).1.world.cdevs = core.world.cdevs ∧
      (serve driver core (.probe pdev device calls)).1.world.nodes = core.world.nodes := by
  have outcome := numbers.probes pdev device calls core.world
  generalize probed : driver.probe pdev device calls core.world = result at outcome
  cases outcome with
  | idle refusal devm _ =>
      cases refusal with
      | errno rc =>
          rw [serve_probe_errno unbound probed, numbers.reclaimed]
          exact ⟨⟨_, rfl⟩, rfl, rfl, rfl⟩
      | oops =>
          rw [serve_probe_oops unbound probed]
          exact ⟨⟨_, rfl⟩, rfl, rfl, rfl⟩
  | added _ _ adds _ _ _ _ _ => exact absurd adds lacks

theorem serve_adds (numbers : NumbersByTotal driver probeCalls) {calls : Calls}
    (unbound : pdev ∉ core.bound.map Prod.fst) (adds : AddsCdev device (probeCalls calls)) :
    ∃ block, (serve driver core (.probe pdev device calls)).1.world.added =
      ⟨block, nextDevNum core.world⟩ :: core.world.added := by
  have served := (@serve_probe_world _ _ _ _ driver core pdev device calls unbound).1
  have outcome := numbers.probes pdev device calls core.world
  generalize driver.probe pdev device calls core.world = result at outcome served
  cases outcome with
  | idle _ _ lacks => exact absurd adds lacks
  | added block _ _ added _ _ _ _ =>
      rw [numbers.reclaimed] at served
      rcases served with same | same
      · exact ⟨block, by rw [same, added]⟩
      · exact ⟨block, by rw [same, reclaim, added]⟩

theorem withinCapacity_iff (numbers : NumbersByTotal driver probeCalls) (counted : Counted base core)
    (request : Request PlatformDevice Calls) :
    WithinCapacity probeCalls core request ↔ RegistersReserved driver base core request := by
  cases request with
  | remove pdev => exact Iff.rfl
  | probe pdev device calls =>
      have region := inRegion_next_iff counted
      have after := (counted_kept numbers).serve (.probe pdev device calls) counted trivial
      apply Iff.intro
      · intro within unbound
        by_cases adds : AddsCdev device (probeCalls calls)
        · obtain ⟨block, added⟩ := serve_adds numbers unbound adds
          have reserved := region.mpr (within unbound adds)
          refine ⟨⟨[_], added, fun cdev member => ?_⟩, after.listed, fun outside => absurd reserved outside⟩
          rw [List.mem_singleton.mp member]
          exact reserved
        · have idle := serve_idle numbers unbound adds
          exact ⟨⟨[], idle.2.1, fun _ member => by cases member⟩, after.listed, fun _ => idle⟩
      · intro reserved unbound adds
        obtain ⟨block, added⟩ := serve_adds numbers unbound adds
        obtain ⟨⟨new, grown, inside⟩, _⟩ := reserved unbound
        have one : new = [⟨block, nextDevNum core.world⟩] := List.append_cancel_right (grown.symm.trans added)
        exact region.mp (inside ⟨block, _⟩ (one ▸ List.mem_cons_self))

theorem run_registers_iff (numbers : NumbersByTotal driver probeCalls) (base : Int)
    (requests : List (Request PlatformDevice Calls)) :
    Along (serve driver) (RegistersReserved driver base) (.start (loaded base)) requests ↔
      Along (serve driver) (WithinCapacity probeCalls) (.start (loaded base)) requests :=
  (along_congr (Counted base)
    (fun _ request counted _ => (counted_kept numbers).serve request counted trivial)
    (fun _ request counted => withinCapacity_iff numbers counted request) (.start base)).symm

end Driver

theorem numbersByTotal : NumbersByTotal pseudoPlatformDriver id where
  probes _ _ _ _ := probeDevice_adds
  removed _ _ _ := ⟨rfl, rfl⟩
  unlisted _ _ _ listed := fun cdev member => listed cdev (List.mem_filter.mp member).1
  reclaimed := rfl

end BbbLkm.PseudoDt
