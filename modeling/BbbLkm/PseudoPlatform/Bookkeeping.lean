import BbbLkm.PseudoPlatform.Probe

namespace BbbLkm.PseudoPlatform

open BbbLkm.Machine BbbLkm.Kernel
open BbbLkm.PseudoDt (DeviceConfig PesudoDevNames PseudoPlatformData pseudoDevConfig?)

variable {pdev : Nat} {device : MatchedDevice} {calls : ProbeCalls} {world : World}

def World.devNum (world : World) (id : Int32) : UInt32 := world.deviceNumberBase + id.toUInt32

/-- Every step of the probe succeeds. -/
structure Completes (device : MatchedDevice) (calls : ProbeCalls) (world : World) : Prop where
  platformData : device.platformData.isSome
  dataAllocated : calls.dataAllocated = true
  bufferAllocated : calls.bufferAllocated = true
  cdevAdd : calls.cdevAdd = .ok ()
  deviceCreate : calls.deviceCreate = .ok ()
  free : ∀ node ∈ world.nodes, ¬ Clashes ⟨(world.devNum device.id).toNat, device.id⟩ node

/-- The table has a `pseudo_dev_config` entry for every device that it matches. -/
theorem config_of_matched (device : MatchedDevice) :
    ∃ config, pseudoDevConfig? device.idEntry.driverData = some config := by
  obtain ⟨member, _⟩ := platformMatchId_mem device.matched
  rw [pseudoDeviceIds_eq] at member
  rw [← Option.isSome_iff_exists]
  simp only [List.mem_cons, List.not_mem_nil, or_false] at member
  rcases member with same | same | same | same <;> rw [same] <;> rfl

/-- A probe holds what it held before, or one cdev and one node more, under the
number that the id gives. -/
inductive ProbeOutcome (pdev : Nat) (device : MatchedDevice) (calls : ProbeCalls) (world : World) :
    Except Refusal PseudoDevPrivateData × World → Prop where
  | refused (rc : Errno) (account : Account Resource) (devm : Managed Nat) :
      ¬ Completes device calls world → account.held = world.account.held →
      account.strays = world.account.strays → world.devm.Grows pdev devm →
      ProbeOutcome pdev device calls world (.error (.errno rc), { world with account, devm })
  | registered (data : PseudoDevPrivateData) (devm : Managed Nat) :
      Completes device calls world → world.devm.Grows pdev devm →
      (pdev, data.address) ∈ devm.live → data.devNum = world.devNum device.id →
      pseudoDevConfig? device.idEntry.driverData = some data.printed →
      ProbeOutcome pdev device calls world (.ok data, { world with
        account := (world.account.acquire (.cdev data.pseudoCdev)).acquire
          (.node ⟨data.devNum.toNat, device.id⟩)
        devm
        totalDevices := world.totalDevices + 1 })

def CdevsAllocated (world : World) : Prop :=
  ∀ cdev, .cdev cdev ∈ world.account.held → cdev.block < world.devm.next

/-- Giving back the cdev that was just added leaves what was held before it. -/
theorem release_added {account : Account Resource} (cdev : Cdev)
    (apart : ∀ other, .cdev other ∈ account.held → other.block ≠ cdev.block) :
    ((account.acquire (.cdev cdev)).release (Resource.isCdev cdev.block)).held = account.held ∧
      ((account.acquire (.cdev cdev)).release (Resource.isCdev cdev.block)).strays = account.strays := by
  refine Account.release_newest rfl (decide_eq_true rfl) fun resource held => ?_
  cases resource with
  | cdev other => simpa [Resource.isCdev] using apart other held
  | _ => rfl

theorem probe_outcome (allocated : CdevsAllocated world) :
    ProbeOutcome pdev device calls world (pseudoPlatformDriverProbe pdev device calls world) := by
  have one : world.devm.Grows pdev (world.devm.allocate pdev) :=
    (Managed.Grows.refl pdev world.devm).allocate
  obtain ⟨printed, config⟩ := config_of_matched device
  cases described : device.platformData with
  | none =>
      simp only [pseudoPlatformDriverProbe, described]
      exact .refused _ _ _ (fun completes => by simpa [described] using completes.platformData) rfl rfl
        (.refl pdev world.devm)
  | some pdata =>
  cases first : calls.dataAllocated with
  | false =>
      simp only [pseudoPlatformDriverProbe, described, first, Bool.not_false, if_true]
      exact .refused _ _ _ (fun completes => by simp [completes.dataAllocated] at first) rfl rfl
        (.refl pdev world.devm)
  | true =>
  cases second : calls.bufferAllocated with
  | false =>
      simp only [pseudoPlatformDriverProbe, described, first, config, second, Bool.not_true,
        Bool.false_eq_true, if_false, Bool.not_false, if_true]
      exact .refused _ _ _ (fun completes => by simp [completes.bufferAllocated] at second) rfl rfl one
  | true =>
  have both := devmKzalloc_grows pdata.size.toUInt32.toNat one
  simp only [pseudoPlatformDriverProbe, described, first, config, second, Bool.not_true,
    Bool.false_eq_true, if_false, probeRegister]
  cases added : calls.cdevAdd with
  | error rc =>
      exact .refused _ _ _ (fun completes => by simp [completes.cdevAdd] at added) rfl rfl both
  | ok _ =>
  simp only
  split
  · rename_i rc refused
    have fresh : ∀ other, .cdev other ∈ world.account.held → other.block ≠ world.devm.next :=
      fun other held => Nat.ne_of_lt (allocated other held)
    have settled := release_added ⟨world.devm.next, (world.devNum device.id).toNat⟩ fresh
    refine .refused rc _ _ (fun completes => ?_) settled.1 settled.2 both
    have created := deviceCreate_ok_iff.mpr ⟨completes.deviceCreate, completes.free, rfl⟩
    cases refused.symm.trans created
  · rename_i nodes created
    obtain ⟨outcome, free, _⟩ := deviceCreate_ok_iff.mp created
    refine .registered _ _ ?_ both (devmKzalloc_keeps (by simp)) rfl config
    exact {
      platformData := by rw [described]; rfl
      dataAllocated := first
      bufferAllocated := second
      cdevAdd := added
      deviceCreate := outcome
      free := free }

abbrev Bound := Nat × PseudoDevPrivateData

def numberOf (entry : Bound) : UInt32 := entry.2.devNum

def nodeOf (base : UInt32) (entry : Bound) : Node Int32 :=
  ⟨(numberOf entry).toNat, (numberOf entry - base).toInt32⟩

def deviceResources (base : UInt32) (entry : Bound) : List Resource :=
  [.node (nodeOf base entry), .cdev entry.2.pseudoCdev]

def moduleResources (base : UInt32) : List Resource := [.driver, .pseudoClass, .region base]

/-- The module is loaded and registered.  What is held, newest first, is what
the bound devices and the module stand for. -/
structure Running (base : UInt32) (core : Core World PseudoDevPrivateData) : Prop where
  region : core.world.deviceNumberBase = base
  held : core.world.account.held =
    core.bound.flatMap (deviceResources base) ++ moduleResources base
  strays : core.world.account.strays = 0
  total : core.world.totalDevices = core.bound.length
  numbers : (core.bound.map numberOf).Nodup
  owned : ∀ entry ∈ core.bound, (entry.1, entry.2.address) ∈ core.world.devm.live

namespace Running

variable {base : UInt32} {core : Core World PseudoDevPrivateData} {data : PseudoDevPrivateData}
  {result : Except Refusal PseudoDevPrivateData × World}

theorem mem_held (running : Running base core) {resource : Resource} :
    resource ∈ core.world.account.held ↔
      (∃ entry ∈ core.bound, resource ∈ deviceResources base entry) ∨
        resource ∈ moduleResources base := by
  rw [running.held, List.mem_append, List.mem_flatMap]

theorem cdevsAllocated (running : Running base core) : CdevsAllocated core.world := by
  intro cdev held
  rcases running.mem_held.mp held with ⟨entry, bound, member⟩ | member
  · have same : cdev = entry.2.pseudoCdev := by simpa [deviceResources] using member
    subst same
    exact core.world.devm.allocated _ (running.owned entry bound)
  · simp [moduleResources] at member

/-- What a device has one of and the module has none of is held once for each
bound device. -/
theorem held_filterMap (running : Running base core) {Key : Type*} {select : Resource → Option Key}
    {key : Bound → Key} (device : ∀ entry, (deviceResources base entry).filterMap select = [key entry])
    (module : (moduleResources base).filterMap select = []) :
    core.world.account.held.filterMap select = core.bound.map key := by
  rw [running.held, List.filterMap_append, List.filterMap_flatMap, module, List.append_nil,
    List.map_eq_flatMap]
  simp only [device]

theorem cdevs_eq (running : Running base core) :
    core.world.cdevs = core.bound.map fun entry => entry.2.pseudoCdev :=
  running.held_filterMap (fun _ => rfl) rfl

theorem nodes_eq (running : Running base core) : core.world.nodes = core.bound.map (nodeOf base) :=
  running.held_filterMap (fun _ => rfl) rfl

theorem mem_nodes (running : Running base core) {node : Node Int32} :
    node ∈ core.world.nodes ↔ ∃ entry ∈ core.bound, nodeOf base entry = node := by
  rw [running.nodes_eq, List.mem_map]

theorem outcome (running : Running base core)
    (probed : pseudoPlatformDriverProbe pdev device calls core.world = result) :
    ProbeOutcome pdev device calls core.world result :=
  probed ▸ probe_outcome running.cdevsAllocated

theorem refuse (running : Running base core) {refusal : Refusal} {world : World}
    (outcome : ProbeOutcome pdev device calls core.world (.error refusal, world)) :
    Running base (core.settle world) := by
  cases outcome with
  | refused rc account devm _ held strays grows =>
      exact {
        region := running.region
        held := held.trans running.held
        strays := strays.trans running.strays
        total := running.total
        numbers := running.numbers
        owned := fun entry member => grows.keeps _ (running.owned entry member) }

theorem reclaimed (running : Running base core) (unbound : pdev ∉ core.bound.map Prod.fst) :
    Running base (core.settle (reclaim pdev core.world)) where
  region := running.region
  held := running.held
  strays := running.strays
  total := running.total
  numbers := running.numbers
  owned entry member := by
    refine Managed.mem_reclaim.mpr ⟨running.owned entry member, fun same => unbound ?_⟩
    exact List.mem_map.mpr ⟨entry, member, same⟩

theorem bind (running : Running base core) (unbound : pdev ∉ core.bound.map Prod.fst)
    {world : World} (outcome : ProbeOutcome pdev device calls core.world (.ok data, world)) :
    Running base (core.bind pdev data world unbound) := by
  cases outcome with
  | registered _ devm completes grows owned number _ =>
      have named : nodeOf base (pdev, data) = ⟨data.devNum.toNat, device.id⟩ := by
        simp only [nodeOf, numberOf, number, World.devNum, running.region, Node.mk.injEq, true_and]
        rw [UInt32.add_comm, UInt32.add_sub_cancel]
        exact Int32.toInt32_toUInt32 device.id
      have new : data.devNum ∉ core.bound.map numberOf := by
        intro member
        obtain ⟨entry, bound, same⟩ := List.mem_map.mp member
        refine completes.free _ (running.mem_nodes.mpr ⟨entry, bound, rfl⟩) (Or.inl ?_)
        simp only [nodeOf, same, number]
      exact {
        region := running.region
        held := by
          simp only [Core.bind, Account.held_acquire, running.held, List.flatMap_cons,
            deviceResources, named, List.cons_append, List.nil_append]
        strays := running.strays
        total := by
          simp only [Core.bind, List.length_cons, running.total]
          omega
        numbers := List.nodup_cons.mpr ⟨new, running.numbers⟩
        owned := by
          intro entry member
          rcases List.mem_cons.mp member with rfl | older
          · exact owned
          · exact grows.keeps _ (running.owned entry older) }

theorem number_eq_iff (running : Running base core) (member : (pdev, data) ∈ core.bound)
    {entry : Bound} (bound : entry ∈ core.bound) :
    numberOf entry = data.devNum ↔ entry.1 = pdev :=
  Core.key_eq_iff running.numbers member bound

theorem address_eq_iff (running : Running base core) (member : (pdev, data) ∈ core.bound)
    {entry : Bound} (bound : entry ∈ core.bound) :
    entry.2.address = data.address ↔ entry.1 = pdev :=
  Core.address_eq_iff running.owned member bound

/-- The two releases of a removal take the resources of its device, and nothing
of another. -/
theorem filter_device (running : Running base core) (member : (pdev, data) ∈ core.bound)
    {entry : Bound} (bound : entry ∈ core.bound) :
    (deviceResources base entry).filter (fun resource =>
        !Resource.isCdev data.address resource && !Resource.isNode data.devNum resource) =
      if entry.1 = pdev then [] else deviceResources base entry := by
  have number := running.number_eq_iff member bound
  have address := running.address_eq_iff member bound
  by_cases same : entry.1 = pdev
  · rw [if_pos same]
    simp [deviceResources, Resource.isNode, Resource.isCdev, nodeOf, PseudoDevPrivateData.pseudoCdev,
      number.mpr same, address.mpr same]
  · have apart : ((numberOf entry).toNat : Int) ≠ data.devNum.toNat := fun equal =>
      same (number.mp (UInt32.toNat_inj.mp (Int.ofNat_inj.mp equal)))
    have elsewhere : entry.2.address ≠ data.address := fun equal => same (address.mp equal)
    rw [if_neg same]
    simp [deviceResources, Resource.isNode, Resource.isCdev, nodeOf, PseudoDevPrivateData.pseudoCdev,
      apart, elsewhere]

theorem held_unbind {entries : List Bound} {keeps : Resource → Bool} (pdev : Nat)
    (each : ∀ entry ∈ entries, (deviceResources base entry).filter keeps =
      if entry.1 = pdev then [] else deviceResources base entry) :
    (entries.flatMap (deviceResources base)).filter keeps =
      (entries.filter fun entry => entry.1 ≠ pdev).flatMap (deviceResources base) := by
  induction entries with
  | nil => rfl
  | cons entry rest ih =>
      have later := ih fun other present => each other (List.mem_cons_of_mem entry present)
      rw [List.flatMap_cons, List.filter_append, later, each entry List.mem_cons_self]
      by_cases same : entry.1 = pdev
      · rw [if_pos same, List.filter_cons_of_neg (by simp [same]), List.nil_append]
      · rw [if_neg same, List.filter_cons_of_pos (by simp [same]), List.flatMap_cons]

theorem strays_unbind (running : Running base core) (member : (pdev, data) ∈ core.bound) :
    (pseudoPlatformDriverRemove pdev data core.world).account.strays = 0 := by
  have node : .node (nodeOf base (pdev, data)) ∈ core.world.account.held :=
    running.mem_held.mpr (Or.inl ⟨_, member, by simp [deviceResources]⟩)
  have cdev : .cdev data.pseudoCdev ∈ core.world.account.held :=
    running.mem_held.mpr (Or.inl ⟨_, member, by simp [deviceResources]⟩)
  have destroyed : (core.world.account.release (Resource.isNode data.devNum)).strays =
      core.world.account.strays :=
    Account.strays_release node (decide_eq_true rfl)
  have stays : .cdev data.pseudoCdev ∈
      (core.world.account.release (Resource.isNode data.devNum)).held :=
    List.mem_filter.mpr ⟨cdev, rfl⟩
  have named : Resource.isCdev data.address (.cdev data.pseudoCdev) = true := decide_eq_true rfl
  exact (Account.strays_release stays named).trans (destroyed.trans running.strays)

theorem unbind (running : Running base core) (member : (pdev, data) ∈ core.bound) :
    Running base (core.unbind pdev
      (reclaim pdev (pseudoPlatformDriverRemove pdev data core.world))) where
  region := running.region
  held := by
    have kept := held_unbind pdev fun entry bound => running.filter_device member bound
    have module : (moduleResources base).filter (fun resource =>
        !Resource.isCdev data.address resource && !Resource.isNode data.devNum resource) =
      moduleResources base := rfl
    simp only [Core.unbind, reclaim, pseudoPlatformDriverRemove, Account.held_release,
      List.filter_filter, running.held, List.filter_append, kept, module]
  strays := running.strays_unbind member
  total := by
    have one := Core.length_unbind core.world member
    simp only [Core.unbind, reclaim, pseudoPlatformDriverRemove, running.total] at one ⊢
    omega
  numbers := running.numbers.sublist (List.filter_sublist.map _)
  owned entry bound := by
    obtain ⟨older, different⟩ := List.mem_filter.mp bound
    exact Managed.mem_reclaim.mpr ⟨running.owned entry older, by simpa using different⟩

end Running

theorem running_kept (base : UInt32) :
    Kept pseudoPlatformDriver (fun _ _ => True) (Running base) where
  bind unbound running _ probed := running.bind unbound (running.outcome probed)
  refuse unbound running _ probed := (running.refuse (running.outcome probed)).reclaimed unbound
  oops _ running _ probed := running.refuse (running.outcome probed)
  unbind running _ member := running.unbind member

end BbbLkm.PseudoPlatform
