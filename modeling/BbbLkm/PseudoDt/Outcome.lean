import BbbLkm.PseudoDt.Probe

namespace BbbLkm.PseudoDt

open BbbLkm.Machine BbbLkm.Kernel

variable {pdev : Nat} {device : PlatformDevice} {calls : ProbeCalls} {world : World}
  {devm : Managed Nat}

/-- The probe gets platform data and an entry of `pseudo_dev_config`. -/
def Described (device : PlatformDevice) (platdataAllocated : Bool) : Prop :=
  match ofMatchDevice device with
  | some _ => platdataAllocated = true ∧ ∃ node, device.ofNode = some node ∧
      node.serialNumber.isSome ∧ node.size.isSome ∧ node.perm.isSome
  | none => device.platformData.isSome ∧ ∃ driverData, device.idEntry = some driverData ∧
      (pseudoDevConfig? driverData).isSome

/-- Every step of the probe up to `total_devices++` succeeds. -/
structure Completes (device : PlatformDevice) (calls : ProbeCalls) (world : World) : Prop where
  described : Described device calls.platdataAllocated
  dataAllocated : calls.dataAllocated = true
  bufferAllocated : calls.bufferAllocated = true
  cdevAdd : calls.cdevAdd = .ok ()
  deviceCreate : calls.deviceCreate = .ok ()
  free : ∀ node ∈ world.nodes, ¬ Clashes ⟨nextDevNum world, world.totalDevices⟩ node

theorem config_isSome (name : PesudoDevNames) : (pseudoDevConfig? name.toInt).isSome := by
  cases name <;> rfl

inductive PlatformDataOutcome (pdev : Nat) (device : PlatformDevice) (calls : ProbeCalls)
    (devm : Managed Nat) : Except Refusal (Option PseudoPlatformData × Int) × Managed Nat → Prop where
  | refused (refusal : Refusal) (after : Managed Nat) :
      ¬ Described device calls.platdataAllocated → devm.Grows pdev after →
      PlatformDataOutcome pdev device calls devm (.error refusal, after)
  | found (pdata : Option PseudoPlatformData) (driverData : Int) (after : Managed Nat) :
      (Described device calls.platdataAllocated ↔
        pdata.isSome ∧ (pseudoDevConfig? driverData).isSome) → devm.Grows pdev after →
      PlatformDataOutcome pdev device calls devm (.ok (pdata, driverData), after)

theorem getPlatdataFromDt_outcome {node : DeviceNode} {name : PesudoDevNames}
    (described : device.ofNode = some node) (matched : ofMatchDevice device = some name) :
    PlatformDataOutcome pdev device calls devm
      (match pseudoDeviceGetPlatdataFromDt pdev device calls.platdataAllocated devm with
      | (.error rc, devm) => (.error (.errno rc), devm)
      | (.ok pdata, devm) => (.ok (pdata, name.toInt), devm)) := by
  have grown : devm.Grows pdev (devm.allocate pdev) := (Managed.Grows.refl pdev devm).allocate
  cases allocated : calls.platdataAllocated with
  | false =>
      simp only [pseudoDeviceGetPlatdataFromDt, described, Bool.not_false, if_true]
      exact .refused _ _ (by simp [Described, matched, allocated]) (.refl pdev devm)
  | true =>
      simp only [pseudoDeviceGetPlatdataFromDt, described, Bool.not_true, Bool.false_eq_true, if_false]
      cases serial : node.serialNumber with
      | none => exact .refused _ _ (by simp [Described, matched, described, serial]) grown
      | some serialNumber =>
          cases sized : node.size with
          | none => exact .refused _ _ (by simp [Described, matched, described, sized]) grown
          | some size =>
              cases permitted : node.perm with
              | none => exact .refused _ _ (by simp [Described, matched, described, permitted]) grown
              | some perm =>
                  refine .found _ _ _ ?_ grown
                  simp [Described, matched, described, serial, sized, permitted, allocated,
                    config_isSome]

theorem probePlatformData_outcome :
    PlatformDataOutcome pdev device calls devm (probePlatformData pdev device calls devm) := by
  cases matched : ofMatchDevice device with
  | some name =>
      obtain ⟨node, described, _⟩ := Option.bind_eq_some_iff.mp matched
      simp only [probePlatformData, matched]
      exact getPlatdataFromDt_outcome described matched
  | none =>
      cases listed : device.idEntry with
      | none =>
          simp only [probePlatformData, matched, listed]
          exact .refused _ _ (by simp [Described, matched, listed]) (.refl pdev devm)
      | some driverData =>
          simp only [probePlatformData, matched, listed]
          exact .found _ _ _ (by simp [Described, matched, listed]) (.refl pdev devm)

def Allocates (calls : ProbeCalls) (pdata : Option PseudoPlatformData) (driverData : Int) : Prop :=
  (pdata.isSome ∧ (pseudoDevConfig? driverData).isSome) ∧
    calls.dataAllocated = true ∧ calls.bufferAllocated = true

inductive AllocateOutcome (pdev : Nat) (calls : ProbeCalls) (pdata : Option PseudoPlatformData)
    (driverData : Int) (devm : Managed Nat) : Except Refusal PseudoDevPrivateData × Managed Nat → Prop where
  | refused (refusal : Refusal) (after : Managed Nat) :
      ¬ Allocates calls pdata driverData → devm.Grows pdev after →
      AllocateOutcome pdev calls pdata driverData devm (.error refusal, after)
  | allocated (data : PseudoDevPrivateData) (after : Managed Nat) :
      Allocates calls pdata driverData → devm.Grows pdev after →
      (pdev, data.address) ∈ after.live → devm.next ≤ data.address →
      AllocateOutcome pdev calls pdata driverData devm (.ok data, after)

theorem probeAllocate_outcome {pdata : Option PseudoPlatformData} {driverData : Int} :
    AllocateOutcome pdev calls pdata driverData devm
      (probeAllocate pdev calls pdata driverData devm) := by
  have one : devm.Grows pdev (devm.allocate pdev) := (Managed.Grows.refl pdev devm).allocate
  cases pdata with
  | none => exact .refused _ _ (by simp [Allocates]) (.refl pdev devm)
  | some pdata =>
  cases first : calls.dataAllocated with
  | false =>
      simp only [probeAllocate, first, Bool.not_false, if_true]
      exact .refused _ _ (by simp [Allocates, first]) (.refl pdev devm)
  | true =>
  cases config : pseudoDevConfig? driverData with
  | none =>
      simp only [probeAllocate, first, config, Bool.not_true, Bool.false_eq_true, if_false]
      exact .refused _ _ (by simp [Allocates, config]) one
  | some entry =>
  cases second : calls.bufferAllocated with
  | false =>
      simp only [probeAllocate, first, second, config, Bool.not_true, Bool.false_eq_true, if_false,
        Bool.not_false, if_true]
      exact .refused _ _ (by simp [Allocates, second]) one
  | true =>
      have own : (pdev, devm.next) ∈ (devm.allocate pdev).live := List.mem_cons_self
      simp only [probeAllocate, first, second, config, Bool.not_true, Bool.false_eq_true, if_false]
      exact .allocated _ _ (by simp [Allocates, first, second, config]) (devmKzalloc_grows _ one)
        (devmKzalloc_keeps own) (Nat.le_refl _)

theorem probeAllocate_ok {pdata : Option PseudoPlatformData} {driverData : Int}
    {data : PseudoDevPrivateData} {after : Managed Nat}
    (allocated : probeAllocate pdev calls pdata driverData devm = (.ok data, after)) :
    pdata = some data.pdata ∧
      (data.buffer, after) = devmKzalloc (devm.allocate pdev) pdev data.pdata.size.toUInt32.toNat := by
  cases pdata with
  | none => cases allocated
  | some pdata =>
      simp only [probeAllocate] at allocated
      split at allocated
      · cases allocated
      · split at allocated
        · cases allocated
        · split at allocated
          · cases allocated
          · cases allocated
            exact ⟨rfl, rfl⟩

/-- The last steps change no memory, and count the device only if they succeed. -/
inductive RegisterOutcome (data : PseudoDevPrivateData) (world : World) :
    Except Refusal PseudoDevPrivateData × World → Prop where
  | refused (rc : Errno) (cdevs added : List Cdev) :
      RegisterOutcome data world (.error (.errno rc), { world with cdevs, added })
  | registered (cdevs added : List Cdev) (nodes : List (Node Int)) :
      RegisterOutcome data world (.ok { data with devNum := nextDevNum world },
        { world with cdevs, added, nodes, totalDevices := world.totalDevices + 1 })

theorem probeRegister_outcome (calls : ProbeCalls) (data : PseudoDevPrivateData) (world : World) :
    RegisterOutcome data world (probeRegister calls data world) := by
  simp only [probeRegister]
  cases cdevAdd world.cdevs ⟨data.address, nextDevNum world⟩ calls.cdevAdd with
  | error rc => exact .refused rc world.cdevs world.added
  | ok cdevs =>
      simp only
      cases deviceCreate world.nodes ⟨nextDevNum world, world.totalDevices⟩ calls.deviceCreate with
      | error rc => exact .refused rc (cdevDel cdevs data.address) _
      | ok nodes => exact .registered cdevs _ nodes

/-- A probe that succeeds keeps the platform data that it found, and the buffer
is what it allocates last. -/
theorem probeDevice_ok {data : PseudoDevPrivateData} {after : World}
    (probed : probeDevice pdev device calls world = (.ok data, after)) :
    ∃ driverData devm,
      probePlatformData pdev device calls world.devm = (.ok (some data.pdata, driverData), devm) ∧
      (data.buffer, after.devm) =
        devmKzalloc (devm.allocate pdev) pdev data.pdata.size.toUInt32.toNat := by
  rcases found : probePlatformData pdev device calls world.devm with ⟨refusal | ⟨pdata, driverData⟩, devm⟩
  · simp only [probeDevice, found] at probed
    cases probed
  · rcases obtained : probeAllocate pdev calls pdata driverData devm with ⟨refusal | allocated, grown⟩
    · simp only [probeDevice, found, obtained] at probed
      cases probed
    · simp only [probeDevice, found, obtained] at probed
      have outcome := probeRegister_outcome calls allocated { world with devm := grown }
      rw [probed] at outcome
      cases outcome with
      | registered cdevs added nodes =>
          obtain ⟨rfl, buffer⟩ := probeAllocate_ok obtained
          exact ⟨driverData, devm, rfl, buffer⟩

/-- A probe leaves all that is registered and counted as it was, or registers
one cdev and one node under the next number and counts one device more. -/
inductive ProbeOutcome (pdev : Nat) (device : PlatformDevice) (calls : ProbeCalls) (world : World) :
    Except Refusal PseudoDevPrivateData × World → Prop where
  | refused (refusal : Refusal) (devm : Managed Nat) (added : List Cdev) :
      ¬ Completes device calls world → world.devm.Grows pdev devm →
      ProbeOutcome pdev device calls world (.error refusal, { world with devm, added })
  | registered (data : PseudoDevPrivateData) (devm : Managed Nat) :
      Completes device calls world → world.devm.Grows pdev devm →
      (pdev, data.address) ∈ devm.live → world.devm.next ≤ data.address →
      data.devNum = nextDevNum world →
      ProbeOutcome pdev device calls world (.ok data, { world with
        devm
        cdevs := ⟨data.address, data.devNum⟩ :: world.cdevs
        added := ⟨data.address, data.devNum⟩ :: world.added
        nodes := ⟨data.devNum, world.totalDevices⟩ :: world.nodes
        totalDevices := world.totalDevices + 1 })

def CdevsAllocated (world : World) : Prop := ∀ cdev ∈ world.cdevs, cdev.block < world.devm.next

theorem probeDevice_outcome (allocated : CdevsAllocated world) :
    ProbeOutcome pdev device calls world (probeDevice pdev device calls world) := by
  have first : PlatformDataOutcome pdev device calls world.devm _ := probePlatformData_outcome
  rw [probeDevice]
  generalize probePlatformData pdev device calls world.devm = found at first
  cases first with
  | refused refusal devm undescribed grown =>
      exact .refused refusal devm _ (fun completes => undescribed completes.described) grown
  | found pdata driverData devm described grown =>
  have second : AllocateOutcome pdev calls pdata driverData devm _ := probeAllocate_outcome
  simp only
  generalize probeAllocate pdev calls pdata driverData devm = obtained at second
  cases second with
  | refused refusal after unallocated grown' =>
      refine .refused refusal after _ (fun completes => unallocated ?_) (grown.trans grown')
      exact ⟨described.mp completes.described, completes.dataAllocated, completes.bufferAllocated⟩
  | allocated data after allocates grown' owned fresh =>
  have grows := grown.trans grown'
  simp only [probeRegister, nextDevNum]
  cases added : calls.cdevAdd with
  | error rc =>
      simp only [cdevAdd]
      exact .refused _ _ _ (fun completes => by simp [completes.cdevAdd] at added) grows
  | ok _ =>
      simp only [cdevAdd]
      have apart : ∀ cdev ∈ world.cdevs, cdev.block ≠ data.address := by
        intro cdev member
        have older := allocated cdev member
        have later := Nat.le_trans grown.next fresh
        omega
      split
      · rename_i rc refused
        rw [cdevDel_cons apart]
        refine .refused _ _ _ (fun completes => ?_) grows
        have created := deviceCreate_ok_iff.mpr ⟨completes.deviceCreate, completes.free, rfl⟩
        simp only [nextDevNum, refused, reduceCtorEq] at created
      · rename_i nodes created
        obtain ⟨outcome, free, rfl⟩ := deviceCreate_ok_iff.mp created
        refine .registered { data with devNum := _ } after ?_ grows owned
          (Nat.le_trans grown.next fresh) rfl
        exact {
          described := described.mpr allocates.1
          dataAllocated := allocates.2.1
          bufferAllocated := allocates.2.2
          cdevAdd := added
          deviceCreate := outcome
          free := free }

end BbbLkm.PseudoDt
