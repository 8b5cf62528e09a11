import BbbLkm.PseudoN.Vfs

namespace BbbLkm.PseudoN

open BbbLkm.Memory BbbLkm.Kernel BbbLkm.Cursor BbbLkm.Machine

variable {drv : PseudoDrvData}

/-- The device a call moved bytes of, and the addresses it touched. -/
def Event.touches : Event drv → Option (Fin drv.noOfDevices × List UInt32)
  | .read file _ _ _ touched => some (file.privateData, touched)
  | .wrote file _ _ _ touched => some (file.privateData, touched)
  | _ => none

/-- Every touched address is that of an index of the device the file was opened on. -/
def Event.InBounds (event : Event drv) : Prop :=
  ∀ dev touched, event.touches = some (dev, touched) → ∀ address ∈ touched,
    ∃ index < (drv.pseudoDevData dev).size.toNat,
      (drv.pseudoDevData dev).region.address index = address

theorem step_inBounds (state : State drv) (call : Call drv) (inRange : state.InRange) :
    (step state call).2.InBounds := by
  intro dev touched recorded address member
  cases call with
  | pseudoOpen fd minor fMode =>
      simp only [step] at recorded
      split at recorded
      · cases recorded
      · split at recorded <;> cases recorded
  | pseudoLseek fd offset orig =>
      cases found : state.files fd <;> simp only [step, found] at recorded <;> cases recorded
  | pseudoRead fd count fault =>
      cases found : state.files fd with
      | none => simp only [step, found] at recorded; cases recorded
      | some file =>
          simp only [step, found] at recorded
          cases recorded
          obtain ⟨position, bound, here⟩ := inRange fd file found
          exact Region.contains_iff.mp
            (pseudoRead_touched here bound state.memory count fault address member)
  | pseudoWrite fd user count fault =>
      cases found : state.files fd with
      | none => simp only [step, found] at recorded; cases recorded
      | some file =>
          simp only [step, found] at recorded
          cases recorded
          obtain ⟨position, bound, here⟩ := inRange fd file found
          exact Region.contains_iff.mp
            (pseudoWrite_touched here bound state.memory user count fault address member)
  | pseudoRelease fd => cases recorded

theorem step_outside {state : State drv} (call : Call drv) (inRange : state.InRange) {address : UInt32}
    (outside : ∀ dev, ¬ (drv.pseudoDevData dev).region.Contains address) :
    (step state call).1.memory address = state.memory address := by
  rcases step_memory state call with same | ⟨fd, user, count, fault, file, _, found, written⟩
  · rw [same]
  · obtain ⟨position, bound, here⟩ := inRange fd file found
    rw [written]
    exact pseudoWrite_outside here bound state.memory user count fault (outside file.privateData)

/-- Over every run, every position stays within its device, every byte moved
is a byte of the device the file was opened on, and memory outside the device
buffers keeps its contents. -/
theorem run_in_bounds (drv : PseudoDrvData) (memory : Mem) (calls : List (Call drv)) :
    (∀ fd file, (stateAfter step (boot drv memory) calls).files fd = some file →
      0 ≤ file.fPos.toInt ∧ file.fPos.toInt ≤ file.data.size.toNat) ∧
    (∀ event ∈ answers step (boot drv memory) calls, event.InBounds) ∧
    (∀ address, (∀ dev, ¬ (drv.pseudoDevData dev).region.Contains address) →
      (stateAfter step (boot drv memory) calls).memory address = memory address) := by
  refine ⟨?_, answers_run step_inRange step_inBounds (boot_inRange memory), ?_⟩
  · intro fd file opened
    obtain ⟨position, bound, here⟩ := run_inRange memory calls fd file opened
    omega
  · intro address outside
    have kept : ∀ (state : State drv) (call : Call drv), state.InRange ∧ state.memory address = memory address →
        (step state call).1.InRange ∧ (step state call).1.memory address = memory address := by
      intro state call held
      exact ⟨step_inRange state call held.1, (step_outside call held.1 outside).trans held.2⟩
    have final : (stateAfter step (boot drv memory) calls).InRange ∧
        (stateAfter step (boot drv memory) calls).memory address = memory address :=
      invariant_run kept ⟨boot_inRange memory, rfl⟩
    exact final.2

end BbbLkm.PseudoN
