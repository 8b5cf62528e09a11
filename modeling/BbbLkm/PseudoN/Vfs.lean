import Mathlib.Logic.Function.Basic
import BbbLkm.Machine.Run
import BbbLkm.PseudoN.Transfer

namespace BbbLkm.PseudoN

open BbbLkm.Memory BbbLkm.Kernel BbbLkm.Cursor BbbLkm.Machine

/-! # Open files over the device table

One call into the driver is one step.  The VFS hands `file->f_pos` to a
transfer as `*offset` and stores it back; user data and the point at which a
user copy faults come with the call.
-/

/-- `struct file`, with `private_data` as an index into the device table. -/
structure File (drv : PseudoDrvData) where
  privateData : Fin drv.noOfDevices
  fPos : Int64
  fMode : UInt32

structure State (drv : PseudoDrvData) where
  memory : Mem
  files : Nat → Option (File drv)

inductive Call (drv : PseudoDrvData) where
  | pseudoOpen (fd : Nat) (minor : Fin drv.noOfDevices) (fMode : UInt32)
  | pseudoLseek (fd : Nat) (offset : Int64) (orig : Int32)
  | pseudoRead (fd : Nat) (count : UInt32) (fault : Option Nat)
  | pseudoWrite (fd : Nat) (user : Nat → UInt8) (count : UInt32) (fault : Option Nat)
  | pseudoRelease (fd : Nat)

inductive Event (drv : PseudoDrvData) where
  | opened (minor : Fin drv.noOfDevices) (ret : Int)
  | sought (file : File drv) (ret : Int64)
  | read (file : File drv) (count : UInt32) (ret : Int32) (delivered : List UInt8) (touched : List UInt32)
  | wrote (file : File drv) (user : Nat → UInt8) (count : UInt32) (ret : Int32) (touched : List UInt32)
  | released
  /-- The descriptor is not one the call can be made on; the driver is not called. -/
  | refused

variable {drv : PseudoDrvData}

def File.data (file : File drv) : PseudoDevPrivateData := drv.pseudoDevData file.privateData

def State.contents (state : State drv) (dev : Fin drv.noOfDevices) (index : Nat) : UInt8 :=
  state.memory ((drv.pseudoDevData dev).region.address index)

def State.setFile (state : State drv) (fd : Nat) (file : File drv) : State drv :=
  { state with files := Function.update state.files fd (some file) }

@[simp] theorem setFile_memory (state : State drv) (fd : Nat) (file : File drv) :
    (state.setFile fd file).memory = state.memory := rfl

@[simp] theorem setFile_self (state : State drv) (fd : Nat) (file : File drv) :
    (state.setFile fd file).files fd = some file := by
  simp [State.setFile]

theorem setFile_other (state : State drv) {fd other : Nat} (file : File drv) (different : other ≠ fd) :
    (state.setFile fd file).files other = state.files other := by
  simp [State.setFile, different]

theorem setFile_same {state : State drv} {fd : Nat} {file : File drv}
    (found : state.files fd = some file) : (state.setFile fd file).files = state.files := by
  rw [State.setFile, ← found]
  exact Function.update_eq_self fd state.files

/-- The byte of a device after a store within a device. -/
theorem contents_store (memory : Mem) {dev : Fin drv.noOfDevices} {position moved : Nat}
    (room : position + moved ≤ (drv.pseudoDevData dev).size.toNat) (bytes : Nat → UInt8)
    (other : Fin drv.noOfDevices) {index : Nat}
    (bound : index < (drv.pseudoDevData other).size.toNat) :
    store memory ((drv.pseudoDevData dev).region.address position) moved bytes
        ((drv.pseudoDevData other).region.address index) =
      if other = dev ∧ position ≤ index ∧ index < position + moved then bytes (index - position)
      else memory ((drv.pseudoDevData other).region.address index) := by
  by_cases same : other = dev
  · subst same
    rw [Region.store_address room bound]
    simp only [true_and]
  · have separate : ¬ (drv.pseudoDevData dev).region.Contains
        ((drv.pseudoDevData other).region.address index) :=
      (drv.apart other dev same).not_contains (Region.contains_address bound)
    rw [Region.store_outside room separate, if_neg fun within => same within.1]

def step (state : State drv) : Call drv → State drv × Event drv
  | .pseudoOpen fd minor fMode =>
      if (state.files fd).isSome then (state, .refused)
      else
        let rc := pseudoOpen (drv.pseudoDevData minor) fMode
        if rc = 0 then (state.setFile fd { privateData := minor, fPos := 0, fMode }, .opened minor rc)
        else (state, .opened minor rc)
  | .pseudoLseek fd offset orig =>
      match state.files fd with
      | none => (state, .refused)
      | some file =>
          let result := pseudoLseek file.data file.fPos offset orig
          (state.setFile fd { file with fPos := result.2 }, .sought file result.1)
  | .pseudoRead fd count fault =>
      match state.files fd with
      | none => (state, .refused)
      | some file =>
          let result := pseudoRead file.data state.memory count file.fPos fault
          (state.setFile fd { file with fPos := result.offset },
            .read file count result.ret result.delivered result.touched)
  | .pseudoWrite fd user count fault =>
      match state.files fd with
      | none => (state, .refused)
      | some file =>
          let result := pseudoWrite file.data state.memory user count file.fPos fault
          ({ state with memory := result.memory }.setFile fd { file with fPos := result.offset },
            .wrote file user count result.ret result.touched)
  | .pseudoRelease fd =>
      ({ state with files := Function.update state.files fd none }, .released)

def boot (drv : PseudoDrvData) (memory : Mem) : State drv where
  memory := memory
  files := fun _ => none

def File.InRange (file : File drv) : Prop :=
  ∃ position ≤ file.data.size.toNat, file.fPos.toInt = (position : Int)

def State.InRange (state : State drv) : Prop :=
  ∀ fd file, state.files fd = some file → file.InRange

theorem boot_inRange (memory : Mem) : (boot drv memory).InRange := by
  intro fd file opened
  cases opened

theorem fresh_inRange (minor : Fin drv.noOfDevices) (fMode : UInt32) :
    File.InRange { privateData := minor, fPos := 0, fMode : File drv } :=
  ⟨0, Nat.zero_le _, Int64.toInt_zero⟩

theorem read_inRange {file : File drv} (inside : file.InRange) (memory : Mem) (count : UInt32)
    (fault : Option Nat) :
    File.InRange { file with fPos := (pseudoRead file.data memory count file.fPos fault).offset } := by
  obtain ⟨position, bound, here⟩ := inside
  exact pseudoRead_position here bound memory count fault

theorem write_inRange {file : File drv} (inside : file.InRange) (memory : Mem) (user : Nat → UInt8)
    (count : UInt32) (fault : Option Nat) :
    File.InRange
      { file with fPos := (pseudoWrite file.data memory user count file.fPos fault).offset } := by
  obtain ⟨position, bound, here⟩ := inside
  exact pseudoWrite_position here bound memory user count fault

theorem lseek_inRange {file : File drv} (inside : file.InRange) (offset : Int64) (orig : Int32) :
    File.InRange { file with fPos := (pseudoLseek file.data file.fPos offset orig).2 } := by
  obtain ⟨position, bound, here⟩ := inside
  exact pseudoLseek_inside here bound

/-- Where a file that is open after a call comes from. -/
inductive FileOrigin (state : State drv) (fd : Nat) (file : File drv) : Prop where
  | kept : state.files fd = some file → FileOrigin state fd file
  | moved (before : File drv) : state.files fd = some before →
      file = { before with fPos := file.fPos } → (before.InRange → file.InRange) →
      FileOrigin state fd file
  | opened : pseudoOpen file.data file.fMode = 0 → file.InRange → FileOrigin state fd file

theorem FileOrigin.setFile {state changed : State drv} {fd other : Nat} {file found : File drv}
    (origin : FileOrigin state fd file) (same : changed.files = state.files)
    (held : (changed.setFile fd file).files other = some found) : FileOrigin state other found := by
  by_cases here : other = fd
  · subst here
    rw [setFile_self] at held
    cases held
    exact origin
  · rw [setFile_other _ _ here, same] at held
    exact .kept held

theorem step_files (state : State drv) (call : Call drv) {fd : Nat} {file : File drv}
    (held : (step state call).1.files fd = some file) : FileOrigin state fd file := by
  cases call with
  | pseudoOpen target minor fMode =>
      simp only [step] at held
      split at held
      · exact .kept held
      · split at held
        · rename_i granted
          have fresh : FileOrigin state target { privateData := minor, fPos := 0, fMode } :=
            .opened granted (fresh_inRange minor fMode)
          exact fresh.setFile rfl held
        · exact .kept held
  | pseudoLseek target offset orig =>
      cases found : state.files target with
      | none => exact .kept (by simpa only [step, found] using held)
      | some before =>
          simp only [step, found] at held
          have inside := fun inRange => @lseek_inRange drv before inRange offset orig
          exact (FileOrigin.moved before found rfl inside).setFile rfl held
  | pseudoRead target count fault =>
      cases found : state.files target with
      | none => exact .kept (by simpa only [step, found] using held)
      | some before =>
          simp only [step, found] at held
          have inside := fun inRange => @read_inRange drv before inRange state.memory count fault
          exact (FileOrigin.moved before found rfl inside).setFile rfl held
  | pseudoWrite target user count fault =>
      cases found : state.files target with
      | none => exact .kept (by simpa only [step, found] using held)
      | some before =>
          simp only [step, found] at held
          have inside := fun inRange => @write_inRange drv before inRange state.memory user count fault
          exact (FileOrigin.moved before found rfl inside).setFile rfl held
  | pseudoRelease target =>
      by_cases here : fd = target
      · simp [step, here] at held
      · exact .kept (by simpa [step, here] using held)

/-- Only a write through an open file changes memory. -/
theorem step_memory (state : State drv) (call : Call drv) :
    (step state call).1.memory = state.memory ∨
      ∃ fd user count fault file, call = .pseudoWrite fd user count fault ∧
        state.files fd = some file ∧ (step state call).1.memory =
          (pseudoWrite file.data state.memory user count file.fPos fault).memory := by
  cases call with
  | pseudoOpen fd minor fMode =>
      simp only [step]
      split
      · exact Or.inl rfl
      · split
        · exact Or.inl rfl
        · exact Or.inl rfl
  | pseudoLseek fd offset orig =>
      cases found : state.files fd with
      | none => exact Or.inl (by simp only [step, found])
      | some file => exact Or.inl (by simp only [step, found, setFile_memory])
  | pseudoRead fd count fault =>
      cases found : state.files fd with
      | none => exact Or.inl (by simp only [step, found])
      | some file => exact Or.inl (by simp only [step, found, setFile_memory])
  | pseudoWrite fd user count fault =>
      cases found : state.files fd with
      | none => exact Or.inl (by simp only [step, found])
      | some file =>
          exact Or.inr ⟨fd, user, count, fault, file, rfl, found,
            by simp only [step, found, setFile_memory]⟩
  | pseudoRelease fd => exact Or.inl rfl

theorem step_inRange (state : State drv) (call : Call drv) (inRange : state.InRange) :
    (step state call).1.InRange := by
  intro fd file held
  cases step_files state call held with
  | kept before => exact inRange fd file before
  | moved before found _ inside => exact inside (inRange fd before found)
  | opened _ inside => exact inside

theorem run_inRange (memory : Mem) (calls : List (Call drv)) :
    (stateAfter step (boot drv memory) calls).InRange :=
  invariant_run step_inRange (boot_inRange memory)

end BbbLkm.PseudoN
