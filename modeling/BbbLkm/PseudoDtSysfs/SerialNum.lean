import BbbLkm.Kernel.Sysfs
import BbbLkm.Kernel.Vsprintf
import BbbLkm.PseudoDtSysfs.Ownership

namespace BbbLkm.PseudoDtSysfs

open BbbLkm.Machine BbbLkm.Memory BbbLkm.Kernel BbbLkm.PseudoDt

/-- `%s` and a newline. -/
def serialNumFormat : List UInt8 := [37, 115, 10]

def showSerialNum (devData : PseudoDevPrivateData) (buf : UInt32) (memory : Mem) : Printed :=
  sprintf memory buf (vsnprintf (fun _ => devData.pdata.serialNumber.bytes) serialNumFormat)

/-- The private data of a device after stores to its `max_size`. -/
def privateDataAfter (data : PseudoDevPrivateData) (state : BufferState) (stores : List StoreCall) :
    PseudoDevPrivateData :=
  { data with pdata := { data.pdata with size := (stateAfter storeMaxSize state stores).size } }

/-- The file shows the serial number of the node. -/
def ShowsSerialNum (node : DeviceNode) (page : Page) (printed : Printed) : Prop :=
  ∃ serialNumber, node.serialNumber = some serialNumber ∧
    Shows page (serialNumber.bytes ++ [10]) printed

def SerialNumFits (node : DeviceNode) : Prop :=
  ∀ serialNumber, node.serialNumber = some serialNumber → serialNumber.length + 2 ≤ PAGE_SIZE

section Probe

variable {pdev : Nat} {device : PlatformDevice} {node : DeviceNode} {world after : World}
  {data : PseudoDevPrivateData}

theorem platdata_serialNumber {allocated : Bool} {devm grown : Managed Nat} {pdata : PseudoPlatformData}
    (described : device.ofNode = some node)
    (found : pseudoDeviceGetPlatdataFromDt pdev device allocated devm = (.ok (some pdata), grown)) :
    node.serialNumber = some pdata.serialNumber := by
  simp only [pseudoDeviceGetPlatdataFromDt, described] at found
  split at found
  · cases found
  · split at found
    · cases found
    · cases found
    · cases found
    · rename_i serialNumber size perm serial _ _
      cases found
      exact serial

theorem probePlatformData_serialNumber {calls : ProbeCalls} {devm grown : Managed Nat}
    {pdata : PseudoPlatformData} {driverData : Int} (described : device.ofNode = some node)
    (matched : (ofMatchDevice device).isSome)
    (found : probePlatformData pdev device calls devm = (.ok (some pdata, driverData), grown)) :
    node.serialNumber = some pdata.serialNumber := by
  obtain ⟨name, matched⟩ := Option.isSome_iff_exists.mp matched
  simp only [probePlatformData, matched] at found
  split at found
  · cases found
  · rename_i obtained
    cases found
    exact platdata_serialNumber described obtained

/-- A node that is accepted has a serial number, and the device keeps it. -/
theorem probeDevice_serialNumber {calls : ProbeCalls} (described : device.ofNode = some node)
    (matched : (ofMatchDevice device).isSome)
    (probed : probeDevice pdev device calls world = (.ok data, after)) :
    node.serialNumber = some data.pdata.serialNumber := by
  obtain ⟨_, _, found, _⟩ := probeDevice_ok probed
  exact probePlatformData_serialNumber described matched found

end Probe

theorem showSerialNum_shows_iff (devData : PseudoDevPrivateData) (page : Page) (memory : Mem) :
    Shows page (devData.pdata.serialNumber.bytes ++ [10])
        (showSerialNum devData (page.address 0) memory) ↔
      devData.pdata.serialNumber.length + 2 ≤ PAGE_SIZE := by
  have text : vsnprintf (fun _ => devData.pdata.serialNumber.bytes) serialNumFormat =
      devData.pdata.serialNumber.bytes ++ [10] := rfl
  rw [showSerialNum, text, shows_sprintf_iff, List.length_append]
  exact Iff.rfl

/-- After every run of stores, the serial number of an accepted node is shown if
and only if a page holds it with the newline and the NUL. -/
theorem run_shows_serial_num_iff {pdev : Nat} {device : PlatformDevice} {node : DeviceNode}
    {calls : SysfsProbeCalls} {world after : World} {data : PseudoDevPrivateData}
    (described : device.ofNode = some node) (matched : (ofMatchDevice device).isSome)
    (probed : pseudoPlatformDriverProbe pdev device calls world = (.ok data, after))
    (stores : List StoreCall) (page : Page) (memory : Mem) :
    ShowsSerialNum node page
        (showSerialNum (privateDataAfter data (.start pdev data after) stores) (page.address 0) memory) ↔
      SerialNumFits node := by
  have serial : node.serialNumber = some data.pdata.serialNumber :=
    probeDevice_serialNumber described matched (probeDevice_of_probe probed)
  simp only [ShowsSerialNum, SerialNumFits, serial, Option.some.injEq, exists_eq_left', forall_eq']
  exact showSerialNum_shows_iff _ page memory

/-- The node of `pcdev1` with another serial number. -/
def numberedNode (serialNumber : CString) : DeviceNode where
  compatible := ["pseudo-dev-A1x"]
  serialNumber := some serialNumber
  size := some 512
  perm := some 0x11

theorem pcdev1_serial_num_shown :
    ShowsSerialNum (numberedNode pcdev1Data.pdata.serialNumber) firstPage
      (showSerialNum (privateDataAfter pcdev1Data (.start 1 pcdev1Data pcdev1World) [storeTwoThousand .failed])
        (firstPage.address 0) fun _ => 0) := by
  refine (run_shows_serial_num_iff (show pcdev1.ofNode = some (numberedNode pcdev1Data.pdata.serialNumber)
    from rfl) (by decide) pcdev1_probed _ firstPage _).mpr fun serialNumber serial => ?_
  obtain rfl := Option.some.inj serial
  decide

/-- 4095 times the letter A. -/
def longSerialNumber : CString where
  bytes := List.replicate 4095 65
  noNul nul := absurd (List.eq_of_mem_replicate nul) (by decide)

def longNumbered : PlatformDevice := { pcdev1 with ofNode := some (numberedNode longSerialNumber) }

def longNumberedData : PseudoDevPrivateData :=
  { pcdev1Data with pdata := { pcdev1Data.pdata with serialNumber := longSerialNumber } }

/-- The NUL behind 4095 letters and the newline is written past the page. -/
theorem long_serial_num_overruns :
    ¬ ∀ (pdev : Nat) (device : PlatformDevice) (node : DeviceNode) (calls : SysfsProbeCalls)
        (world after : World) (data : PseudoDevPrivateData), device.ofNode = some node →
      (ofMatchDevice device).isSome →
      pseudoPlatformDriverProbe pdev device calls world = (.ok data, after) →
        ∀ (stores : List StoreCall) (page : Page) (memory : Mem), ShowsSerialNum node page
          (showSerialNum (privateDataAfter data (.start pdev data after) stores) (page.address 0) memory) := by
  intro claimed
  obtain ⟨serialNumber, serial, shows⟩ := claimed 1 longNumbered (numberedNode longSerialNumber) .succeeding
    (loaded 100) _ longNumberedData rfl (by decide) rfl [] firstPage fun _ => 0
  obtain rfl := Option.some.inj serial
  have fits : longSerialNumber.length + 2 ≤ PAGE_SIZE :=
    (showSerialNum_shows_iff (privateDataAfter longNumberedData _ []) firstPage _).mp shows
  rw [CString.length, longSerialNumber, List.length_replicate] at fits
  exact absurd fits (by decide)

end BbbLkm.PseudoDtSysfs
