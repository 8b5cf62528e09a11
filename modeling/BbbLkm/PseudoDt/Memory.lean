import BbbLkm.Kernel.ManagedDriver
import BbbLkm.PseudoDt.Outcome

namespace BbbLkm.PseudoDt

open BbbLkm.Machine BbbLkm.Kernel

variable {pdev : Nat} {device : PlatformDevice} {calls : ProbeCalls} {world after : World}
  {data : PseudoDevPrivateData} {result : Except Refusal PseudoDevPrivateData}

structure ProbeKeeps (pdev : Nat) (world : World) (result : Except Refusal PseudoDevPrivateData)
    (after : World) : Prop where
  grows : world.devm.Grows pdev after.devm
  cdevs : ∀ cdev ∈ world.cdevs, cdev.block < world.devm.next → cdev ∈ after.cdevs
  fresh : ∀ data, result = .ok data → world.devm.next ≤ data.address
  owned : ∀ data, result = .ok data → (pdev, data.address) ∈ after.devm.live
  added : ∀ data, result = .ok data → ⟨data.address, data.devNum⟩ ∈ after.cdevs

theorem ProbeKeeps.refused {devm : Managed Nat} (refusal : Refusal) (grows : world.devm.Grows pdev devm) :
    ProbeKeeps pdev world (.error refusal) { world with devm } where
  grows := grows
  cdevs _ member _ := member
  fresh := nofun
  owned := nofun
  added := nofun

theorem probeRegister_keeps {devm : Managed Nat} (calls : ProbeCalls)
    (grows : world.devm.Grows pdev devm) (fresh : world.devm.next ≤ data.address)
    (owned : (pdev, data.address) ∈ devm.live) :
    ProbeKeeps pdev world (probeRegister calls data { world with devm }).1
      (probeRegister calls data { world with devm }).2 := by
  simp only [probeRegister]
  cases calls.cdevAdd with
  | error rc => exact .refused _ grows
  | ok _ =>
      simp only [cdevAdd]
      split
      · constructor
        · exact grows
        · intro cdev member old
          have apart : cdev.block ≠ data.address := by omega
          exact List.mem_filter.mpr ⟨List.mem_cons_of_mem _ member, decide_eq_true apart⟩
        · rintro _ ⟨⟩
        · rintro _ ⟨⟩
        · rintro _ ⟨⟩
      · constructor
        · exact grows
        · exact fun cdev member _ => List.mem_cons_of_mem _ member
        · rintro _ ⟨⟩
          exact fresh
        · rintro _ ⟨⟩
          exact owned
        · rintro _ ⟨⟩
          exact List.mem_cons_self

theorem probeDevice_keeps (probed : probeDevice pdev device calls world = (result, after)) :
    ProbeKeeps pdev world result after := by
  have first : PlatformDataOutcome pdev device calls world.devm _ := probePlatformData_outcome
  rw [probeDevice] at probed
  generalize probePlatformData pdev device calls world.devm = found at first probed
  cases first with
  | refused refusal devm _ grown =>
      cases probed
      exact .refused refusal grown
  | found pdata driverData devm _ grown =>
      have second : AllocateOutcome pdev calls pdata driverData devm _ := probeAllocate_outcome
      simp only at probed
      generalize probeAllocate pdev calls pdata driverData devm = obtained at second probed
      cases second with
      | refused refusal later _ grown' =>
          cases probed
          exact .refused refusal (grown.trans grown')
      | allocated data later _ grown' owned fresh =>
          have keeps := probeRegister_keeps calls (grown.trans grown') (Nat.le_trans grown.next fresh) owned
          simp only at probed
          rw [probed] at keeps
          exact keeps

theorem pseudoPlatformDriver_manages : Manages pseudoPlatformDriver World.devm where
  probe probed := (probeDevice_keeps probed).grows
  remove _ _ _ := rfl
  reclaim _ _ := rfl

end BbbLkm.PseudoDt
