import Mathlib.Logic.Function.Basic
import BbbLkm.Machine.Run
import BbbLkm.Pseudo.FileOps

namespace BbbLkm.Pseudo

open BbbLkm.Memory BbbLkm.Kernel BbbLkm.Machine
open BbbLkm.PseudoN (pseudoRead_position pseudoWrite_position pseudoRead_touched pseudoWrite_touched
  pseudoWrite_outside)

/-- The positions of the open files. -/
structure State where
  memory : Mem
  files : Nat → Option Int64

inductive Call where
  | pseudoOpen (fd : Nat)
  | pseudoLseek (fd : Nat) (offset : Int64) (orig : Int32)
  | pseudoRead (fd : Nat) (count : UInt32) (fault : Option Nat)
  | pseudoWrite (fd : Nat) (user : Nat → UInt8) (count : UInt32) (fault : Option Nat)
  | pseudoRelease (fd : Nat)

inductive Event where
  | opened (ret : Int)
  | sought (ret : Int64)
  | read (ret : Int32) (delivered : List UInt8) (touched : List UInt32)
  | wrote (ret : Int32) (touched : List UInt32)
  | released (ret : Int)
  /-- The descriptor is not one the call can be made on; the driver is not called. -/
  | refused

def State.setFile (state : State) (fd : Nat) (fPos : Int64) : State :=
  { state with files := Function.update state.files fd (some fPos) }

@[simp] theorem setFile_memory (state : State) (fd : Nat) (fPos : Int64) :
    (state.setFile fd fPos).memory = state.memory := rfl

@[simp] theorem setFile_self (state : State) (fd : Nat) (fPos : Int64) :
    (state.setFile fd fPos).files fd = some fPos := by
  simp [State.setFile]

theorem setFile_other (state : State) {fd other : Nat} (fPos : Int64) (different : other ≠ fd) :
    (state.setFile fd fPos).files other = state.files other := by
  simp [State.setFile, different]

def step (placement : Placement) (state : State) : Call → State × Event
  | .pseudoOpen fd =>
      if (state.files fd).isSome then (state, .refused)
      else (state.setFile fd 0, .opened pseudoOpen)
  | .pseudoLseek fd offset orig =>
      match state.files fd with
      | none => (state, .refused)
      | some fPos =>
          let result := pseudoLseek fPos offset orig
          (state.setFile fd result.2, .sought result.1)
  | .pseudoRead fd count fault =>
      match state.files fd with
      | none => (state, .refused)
      | some fPos =>
          let result := pseudoRead placement state.memory count fPos fault
          (state.setFile fd result.offset, .read result.ret result.delivered result.touched)
  | .pseudoWrite fd user count fault =>
      match state.files fd with
      | none => (state, .refused)
      | some fPos =>
          let result := pseudoWrite placement state.memory user count fPos fault
          ({ state with memory := result.memory }.setFile fd result.offset,
            .wrote result.ret result.touched)
  | .pseudoRelease fd =>
      ({ state with files := Function.update state.files fd none }, .released pseudoRelease)

def boot (memory : Mem) : State where
  memory := memory
  files := fun _ => none

variable {placement : Placement} {state : State}

def Within (placement : Placement) (fPos : Int64) : Prop :=
  ∃ position ≤ placement.device.size.toNat, fPos.toInt = (position : Int)

def State.InRange (placement : Placement) (state : State) : Prop :=
  ∀ fd fPos, state.files fd = some fPos → Within placement fPos

theorem boot_inRange (memory : Mem) : (boot memory).InRange placement := by
  intro fd fPos opened
  cases opened

theorem State.InRange.setFile (inRange : state.InRange placement) (fd : Nat) {fPos : Int64}
    (inside : Within placement fPos) : (state.setFile fd fPos).InRange placement := by
  intro other found held
  by_cases here : other = fd
  · subst here
    rw [setFile_self] at held
    cases held
    exact inside
  · rw [setFile_other _ _ here] at held
    exact inRange other found held

theorem State.InRange.withMemory (inRange : state.InRange placement) (memory : Mem) :
    { state with memory }.InRange placement := inRange

theorem step_inRange (state : State) (call : Call) (inRange : state.InRange placement) :
    (step placement state call).1.InRange placement := by
  cases call with
  | pseudoOpen fd =>
      simp only [step]
      split
      · exact inRange
      · exact inRange.setFile fd ⟨0, Nat.zero_le _, Int64.toInt_zero⟩
  | pseudoLseek fd offset orig =>
      cases found : state.files fd with
      | none => simpa only [step, found] using inRange
      | some fPos =>
          simp only [step, found, pseudoLseek_keeps]
          exact inRange.setFile fd (inRange fd fPos found)
  | pseudoRead fd count fault =>
      cases found : state.files fd with
      | none => simpa only [step, found] using inRange
      | some fPos =>
          obtain ⟨position, bound, here⟩ := inRange fd fPos found
          simp only [step, found, pseudoRead_eq]
          exact inRange.setFile fd (pseudoRead_position here bound state.memory count fault)
  | pseudoWrite fd user count fault =>
      cases found : state.files fd with
      | none => simpa only [step, found] using inRange
      | some fPos =>
          obtain ⟨position, bound, here⟩ := inRange fd fPos found
          simp only [step, found, pseudoWrite_eq]
          exact (inRange.withMemory _).setFile fd
            (pseudoWrite_position here bound state.memory user count fault)
  | pseudoRelease fd =>
      intro other found held
      by_cases here : other = fd
      · simp [step, here] at held
      · exact inRange other found (by simpa [step, here] using held)

/-- The kernel addresses that the call moved bytes from or to. -/
def Event.touched : Event → List UInt32
  | .read _ _ touched => touched
  | .wrote _ touched => touched
  | _ => []

/-- Every touched address is that of one of the 512 bytes of `pseudo_device_buf`. -/
def Event.InBounds (placement : Placement) (event : Event) : Prop :=
  ∀ address ∈ event.touched, ∃ index < 512, placement.device.region.address index = address

theorem contains_iff_index {address : UInt32} :
    placement.device.region.Contains address ↔
      ∃ index < 512, placement.device.region.address index = address :=
  Region.contains_iff

theorem step_inBounds (state : State) (call : Call) (inRange : state.InRange placement) :
    (step placement state call).2.InBounds placement := by
  intro address member
  apply contains_iff_index.mp
  cases call with
  | pseudoOpen fd =>
      simp only [step] at member
      split at member <;> cases member
  | pseudoLseek fd offset orig =>
      cases found : state.files fd <;> simp only [step, found] at member <;> cases member
  | pseudoRead fd count fault =>
      cases found : state.files fd with
      | none => simp only [step, found] at member; cases member
      | some fPos =>
          obtain ⟨position, bound, here⟩ := inRange fd fPos found
          simp only [step, found, pseudoRead_eq] at member
          exact pseudoRead_touched here bound state.memory count fault address member
  | pseudoWrite fd user count fault =>
      cases found : state.files fd with
      | none => simp only [step, found] at member; cases member
      | some fPos =>
          obtain ⟨position, bound, here⟩ := inRange fd fPos found
          simp only [step, found, pseudoWrite_eq] at member
          exact pseudoWrite_touched here bound state.memory user count fault address member
  | pseudoRelease fd => cases member

theorem step_outside (call : Call) (inRange : state.InRange placement) {address : UInt32}
    (outside : ¬ placement.device.region.Contains address) :
    (step placement state call).1.memory address = state.memory address := by
  cases call with
  | pseudoOpen fd => simp only [step]; split <;> rfl
  | pseudoLseek fd offset orig =>
      cases found : state.files fd <;> simp only [step, found, setFile_memory]
  | pseudoRead fd count fault =>
      cases found : state.files fd <;> simp only [step, found, setFile_memory]
  | pseudoWrite fd user count fault =>
      cases found : state.files fd with
      | none => simp only [step, found]
      | some fPos =>
          obtain ⟨position, bound, here⟩ := inRange fd fPos found
          simp only [step, found, setFile_memory, pseudoWrite_eq]
          exact pseudoWrite_outside here bound state.memory user count fault outside
  | pseudoRelease fd => rfl

/-- Over every run, whatever is sought and wherever copies fault, every
position stays in `[0, 512]`, every byte moved is one of `pseudo_device_buf`,
and memory outside of it keeps its contents. -/
theorem run_within_buffer (placement : Placement) (memory : Mem) (calls : List Call) :
    (∀ fd fPos, (stateAfter (step placement) (boot memory) calls).files fd = some fPos →
      0 ≤ fPos.toInt ∧ fPos.toInt ≤ 512) ∧
    (∀ event ∈ answers (step placement) (boot memory) calls, event.InBounds placement) ∧
    (∀ address, ¬ placement.device.region.Contains address →
      (stateAfter (step placement) (boot memory) calls).memory address = memory address) := by
  have inRange : (stateAfter (step placement) (boot memory) calls).InRange placement :=
    invariant_run step_inRange (boot_inRange memory)
  refine ⟨?_, answers_run step_inRange step_inBounds (boot_inRange memory), ?_⟩
  · intro fd fPos opened
    obtain ⟨position, bound, here⟩ := inRange fd fPos opened
    rw [device_size] at bound
    omega
  · intro address outside
    have kept : ∀ (state : State) (call : Call),
        state.InRange placement ∧ state.memory address = memory address →
        (step placement state call).1.InRange placement ∧
          (step placement state call).1.memory address = memory address := by
      intro state call held
      exact ⟨step_inRange state call held.1, (step_outside call held.1 outside).trans held.2⟩
    have final : (stateAfter (step placement) (boot memory) calls).InRange placement ∧
        (stateAfter (step placement) (boot memory) calls).memory address = memory address :=
      invariant_run kept ⟨boot_inRange memory, rfl⟩
    exact final.2

end BbbLkm.Pseudo
