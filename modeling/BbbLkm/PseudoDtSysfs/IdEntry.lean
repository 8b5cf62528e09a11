import BbbLkm.Kernel.PlatformBus
import BbbLkm.PseudoDtSysfs.Probe

namespace BbbLkm.PseudoDtSysfs

open BbbLkm.Machine BbbLkm.Kernel BbbLkm.PseudoDt

/-- The `.driver` of `pseudo_platform_driver`, the same in both drivers. -/
def pseudoCharDevice : MatchRules PesudoDevNames where
  name := "pseudo-char-device"
  ofMatchTable := pseudoDeviceDtMatch
  idTable := none

structure RegisteredDevice where
  name : String
  driverOverride : Option String
  ofNode : Option DeviceNode
  platformData : Option PseudoPlatformData

def RegisteredDevice.onBus (device : RegisteredDevice) : BusDevice where
  name := device.name
  driverOverride := device.driverOverride
  compatible := (device.ofNode.map DeviceNode.compatible).getD []

/-- The device as its probe finds it after a match. -/
def RegisteredDevice.handed (device : RegisteredDevice) (idEntry : Option PlatformDeviceId) :
    PlatformDevice where
  ofNode := device.ofNode
  platformData := device.platformData
  idEntry := idEntry.map PlatformDeviceId.driverData

variable {pdev : Nat} {device : PlatformDevice} {calls : ProbeCalls} {world : World}

/-- `driver_data`, if the probe gets that far. -/
def driverData? (pdev : Nat) (device : PlatformDevice) (calls : ProbeCalls) (world : World) :
    Option Int :=
  match (probePlatformData pdev device calls world.devm).1 with
  | .error _ => none
  | .ok (_, driverData) => some driverData

/-- The probe returns, and the entry of `pseudo_dev_config` that it reads is
one of the four. -/
structure ReadsSafely (pdev : Nat) (device : PlatformDevice) (calls : ProbeCalls) (world : World)
    (result : Except Refusal PseudoDevPrivateData) : Prop where
  returns : result ≠ .error .oops
  index : ∀ driverData, driverData? pdev device calls world = some driverData →
    0 ≤ driverData ∧ driverData ≤ 3

theorem toInt_range (name : PesudoDevNames) : 0 ≤ name.toInt ∧ name.toInt ≤ 3 := by
  cases name <;> decide

/-- A device whose node matches gets its index from the match table. -/
theorem probePlatformData_matched {name : PesudoDevNames} (matched : ofMatchDevice device = some name)
    (pdev : Nat) (calls : ProbeCalls) (devm : Managed Nat) :
    (∃ rc after, probePlatformData pdev device calls devm = (.error (.errno rc), after)) ∨
      ∃ pdata after, probePlatformData pdev device calls devm = (.ok (pdata, name.toInt), after) := by
  simp only [probePlatformData, matched]
  split
  · exact Or.inl ⟨_, _, rfl⟩
  · exact Or.inr ⟨_, _, rfl⟩

theorem probeAllocate_returns {pdata : Option PseudoPlatformData} {devm : Managed Nat}
    (name : PesudoDevNames) : (probeAllocate pdev calls pdata name.toInt devm).1 ≠ .error .oops := by
  obtain ⟨config, listed⟩ := Option.isSome_iff_exists.mp (config_isSome name)
  cases pdata with
  | none => simp [probeAllocate]
  | some pdata =>
      simp only [probeAllocate, listed]
      split
      · simp
      · split
        · simp
        · simp

theorem probeRegister_returns {data : PseudoDevPrivateData} :
    (probeRegister calls data world).1 ≠ .error .oops := by
  have outcome := probeRegister_outcome calls data world
  generalize probeRegister calls data world = result at outcome ⊢
  cases outcome with
  | refused rc cdevs added => simp
  | registered cdevs added nodes => simp

/-- Without an `id_entry`, the probe reads through a null pointer unless the
node matches. -/
theorem probeDevice_reads_safely_iff (unlisted : device.idEntry = none) :
    ReadsSafely pdev device calls world (probeDevice pdev device calls world).1 ↔
      (ofMatchDevice device).isSome := by
  cases matched : ofMatchDevice device with
  | none =>
      refine iff_of_false (fun safely => safely.returns ?_) (by simp)
      simp only [probeDevice, probePlatformData, matched, unlisted]
  | some name =>
      refine iff_of_true ?_ rfl
      rcases probePlatformData_matched matched pdev calls world.devm with ⟨rc, after, found⟩ | ⟨pdata, after, found⟩
      · constructor
        · simp [probeDevice, found]
        · simp [driverData?, found]
      · constructor
        · have allocated := @probeAllocate_returns pdev calls pdata after name
          simp only [probeDevice, found]
          rcases obtained : probeAllocate pdev calls pdata name.toInt after with ⟨refusal | data, devm⟩
          · rw [obtained] at allocated
            simpa using allocated
          · exact probeRegister_returns
        · intro driverData read
          simp only [driverData?, found, Option.some.injEq] at read
          subst read
          exact toInt_range name

theorem probe_oops_iff {calls : SysfsProbeCalls} :
    (pseudoPlatformDriverProbe pdev device calls world).1 = .error .oops ↔
      (probeDevice pdev device calls.toProbeCalls world).1 = .error .oops := by
  rcases probe_cases pdev device calls world with same | ⟨rc, data, after, registered, refused⟩
  · rw [same]
  · rw [registered, refused]
    simp

/-- Of the devices that the bus hands to the two drivers, exactly those whose
node matches are probed without reading through a null `id_entry`. -/
theorem probes_read_safely_iff {device : RegisteredDevice} {idEntry : Option PlatformDeviceId}
    (matched : platformMatch pseudoCharDevice device.onBus = some idEntry) (pdev : Nat)
    (calls : SysfsProbeCalls) (world : World) :
    (ReadsSafely pdev (device.handed idEntry) calls.toProbeCalls world
        (PseudoDt.pseudoPlatformDriverProbe pdev (device.handed idEntry) calls.toProbeCalls world).1 ↔
      (ofMatchDevice (device.handed idEntry)).isSome) ∧
    (ReadsSafely pdev (device.handed idEntry) calls.toProbeCalls world
        (pseudoPlatformDriverProbe pdev (device.handed idEntry) calls world).1 ↔
      (ofMatchDevice (device.handed idEntry)).isSome) := by
  have unlisted : (device.handed idEntry).idEntry = none := by
    rw [platformMatch_idEntry rfl matched]
    rfl
  have first := @probeDevice_reads_safely_iff pdev (device.handed idEntry) calls.toProbeCalls world unlisted
  refine ⟨first, Iff.trans ?_ first⟩
  have same := @probe_oops_iff pdev (device.handed idEntry) world calls
  exact ⟨fun safely => ⟨fun oops => safely.returns (same.mpr oops), safely.index⟩,
    fun safely => ⟨fun oops => safely.returns (same.mp oops), safely.index⟩⟩

/-- The first device of the device tree, under the name that the bus gives it. -/
def pcdev1OnBus : RegisteredDevice where
  name := "pcdev-1"
  driverOverride := none
  ofNode := pcdev1.ofNode
  platformData := none

theorem pcdev1_reads_safely :
    ReadsSafely 0 (pcdev1OnBus.handed none) .succeeding (loaded 240)
      (pseudoPlatformDriverProbe 0 (pcdev1OnBus.handed none) .succeeding (loaded 240)).1 :=
  (probes_read_safely_iff (show platformMatch pseudoCharDevice pcdev1OnBus.onBus = some none by decide) 0
    .succeeding (loaded 240)).2.mpr (by decide)

/-- A device without a node, named like the driver. -/
def namesake : RegisteredDevice where
  name := "pseudo-char-device"
  driverOverride := none
  ofNode := none
  platformData := some ⟨512, 0x11, ⟨[80, 83, 69, 85, 68, 79, 95, 49], pcdev1_serial_noNul⟩⟩

theorem namesake_reads_null :
    ¬ ∀ (device : RegisteredDevice) (idEntry : Option PlatformDeviceId),
      platformMatch pseudoCharDevice device.onBus = some idEntry →
        ∀ (pdev : Nat) (calls : SysfsProbeCalls) (world : World),
          ReadsSafely pdev (device.handed idEntry) calls.toProbeCalls world
              (PseudoDt.pseudoPlatformDriverProbe pdev (device.handed idEntry) calls.toProbeCalls world).1 ∧
            ReadsSafely pdev (device.handed idEntry) calls.toProbeCalls world
              (pseudoPlatformDriverProbe pdev (device.handed idEntry) calls world).1 := by
  intro claimed
  have safely := claimed namesake none (by decide) 0 .succeeding (loaded 240)
  exact safely.1.returns rfl

end BbbLkm.PseudoDtSysfs
