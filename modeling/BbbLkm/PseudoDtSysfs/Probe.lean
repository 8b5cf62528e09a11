import BbbLkm.PseudoDt.Bookkeeping

namespace BbbLkm.PseudoDtSysfs

open BbbLkm.Machine BbbLkm.Kernel BbbLkm.PseudoDt

structure SysfsProbeCalls extends ProbeCalls where
  sysfsCreateGroup : Except Errno Unit

def SysfsProbeCalls.succeeding : SysfsProbeCalls where
  toProbeCalls := .succeeding
  sysfsCreateGroup := .ok ()

def pseudoSysfsCreateFiles (calls : SysfsProbeCalls) : Except Errno Unit := calls.sysfsCreateGroup

def pseudoPlatformDriverProbe (pdev : Nat) (device : PlatformDevice) (calls : SysfsProbeCalls)
    (world : World) : Except Refusal PseudoDevPrivateData × World :=
  match probeDevice pdev device calls.toProbeCalls world with
  | (.error refusal, world) => (.error refusal, world)
  | (.ok data, world) =>
      match pseudoSysfsCreateFiles calls with
      -- the node goes, the cdev and the count stay
      | .error rc =>
          (.error (.errno rc), { world with nodes := deviceDestroy world.nodes data.devNum })
      | .ok _ => (.ok data, world)

def pseudoPlatformDriverRemove (pdev : Nat) (deviceData : PseudoDevPrivateData) (world : World) :
    World :=
  PseudoDt.pseudoPlatformDriverRemove pdev deviceData world

def pseudoPlatformDriver : Driver World PlatformDevice SysfsProbeCalls PseudoDevPrivateData where
  probe := pseudoPlatformDriverProbe
  remove := pseudoPlatformDriverRemove
  reclaim := reclaim

variable {pdev : Nat} {device : PlatformDevice} {calls : SysfsProbeCalls} {world after : World}
  {data : PseudoDevPrivateData}

theorem probe_of_refused {refusal : Refusal}
    (refused : probeDevice pdev device calls.toProbeCalls world = (.error refusal, after)) :
    pseudoPlatformDriverProbe pdev device calls world = (.error refusal, after) := by
  rw [pseudoPlatformDriverProbe, refused]

theorem probe_of_sysfs_ok (created : calls.sysfsCreateGroup = .ok ()) :
    pseudoPlatformDriverProbe pdev device calls world =
      probeDevice pdev device calls.toProbeCalls world := by
  rcases probed : probeDevice pdev device calls.toProbeCalls world with ⟨_ | _, _⟩
  · exact probe_of_refused probed
  · simp only [pseudoPlatformDriverProbe, pseudoSysfsCreateFiles, probed, created]

theorem probe_of_sysfs_error {rc : Errno} (failed : calls.sysfsCreateGroup = .error rc)
    (registered : probeDevice pdev device calls.toProbeCalls world = (.ok data, after)) :
    pseudoPlatformDriverProbe pdev device calls world =
      (.error (.errno rc), { after with nodes := deviceDestroy after.nodes data.devNum }) := by
  simp only [pseudoPlatformDriverProbe, pseudoSysfsCreateFiles, registered, failed]

theorem probe_cases (pdev : Nat) (device : PlatformDevice) (calls : SysfsProbeCalls)
    (world : World) :
    pseudoPlatformDriverProbe pdev device calls world =
        probeDevice pdev device calls.toProbeCalls world ∨
      ∃ rc data after, probeDevice pdev device calls.toProbeCalls world = (.ok data, after) ∧
        pseudoPlatformDriverProbe pdev device calls world =
          (.error (.errno rc), { after with nodes := deviceDestroy after.nodes data.devNum }) := by
  cases created : calls.sysfsCreateGroup with
  | ok _ => exact Or.inl (probe_of_sysfs_ok created)
  | error rc =>
      rcases probed : probeDevice pdev device calls.toProbeCalls world with ⟨refusal | data, after⟩
      · exact Or.inl (probe_of_refused probed)
      · exact Or.inr ⟨rc, data, after, rfl, probe_of_sysfs_error created probed⟩

theorem probeDevice_of_probe {pdev : Nat} {device : PlatformDevice} {calls : SysfsProbeCalls}
    {world after : World} {data : PseudoDevPrivateData}
    (probed : pseudoPlatformDriverProbe pdev device calls world = (.ok data, after)) :
    probeDevice pdev device calls.toProbeCalls world = (.ok data, after) := by
  rcases probe_cases pdev device calls world with same | ⟨_, _, _, _, failed⟩
  · exact same.symm.trans probed
  · cases failed.symm.trans probed

end BbbLkm.PseudoDtSysfs
