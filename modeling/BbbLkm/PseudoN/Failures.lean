import BbbLkm.PseudoN.Vfs

namespace BbbLkm.PseudoN

open BbbLkm.Memory BbbLkm.Kernel BbbLkm.Cursor BbbLkm.Machine

variable {drv : PseudoDrvData} {state : State drv} {fd : Nat} {file : File drv}

/-- The value that the driver returned. -/
def Event.ret : Event drv → Option Int
  | .opened _ ret => some ret
  | .sought _ ret => some ret.toInt
  | .read _ _ ret _ _ => some ret.toInt
  | .wrote _ _ _ ret _ => some ret.toInt
  | .released => none
  | .refused => none

def Event.Fails (event : Event drv) : Prop := ∃ ret, event.ret = some ret ∧ ret < 0

structure LeavesAlone (state : State drv) (call : Call drv) : Prop where
  files : (step state call).1.files = state.files
  contents : ∀ dev, ∀ index < (drv.pseudoDevData dev).size.toNat,
    (step state call).1.contents dev index = state.contents dev index

/-- The contents after a failed call.  A write that faults after `done` bytes
has stored these, and zeros in place of the others that it would have stored. -/
def contentsAfterFailure (state : State drv) (call : Call drv) (dev : Fin drv.noOfDevices)
    (index : Nat) : UInt8 :=
  match call with
  | .pseudoWrite fd user count (some done) =>
      match state.files fd with
      | none => state.contents dev index
      | some file =>
          let position := file.fPos.toInt.toNat
          if dev = file.privateData ∧ position ≤ index ∧
              index < position + transfer file.data.size.toNat position count.toNat then
            if index - position < done then user (index - position) else 0
          else state.contents dev index
  | _ => state.contents dev index

structure FailsAsTold (state : State drv) (call : Call drv) : Prop where
  files : (step state call).1.files = state.files
  contents : ∀ dev, ∀ index < (drv.pseudoDevData dev).size.toNat,
    (step state call).1.contents dev index = contentsAfterFailure state call dev index

theorem open_failure {minor : Fin drv.noOfDevices} {fMode : UInt32}
    (failed : (step state (.pseudoOpen fd minor fMode)).2.Fails) :
    (step state (.pseudoOpen fd minor fMode)).1 = state := by
  obtain ⟨ret, returned, negative⟩ := failed
  simp only [step] at returned ⊢
  split
  · rfl
  · rename_i free
    rw [if_neg free] at returned
    split
    · rename_i granted
      rw [if_pos granted] at returned
      cases returned
      omega
    · rfl

theorem lseek_failure (found : state.files fd = some file) {offset : Int64}
    {orig : Int32} (failed : (step state (.pseudoLseek fd offset orig)).2.Fails) :
    (step state (.pseudoLseek fd offset orig)).1.files = state.files := by
  cases named : origin? orig with
  | none =>
      simp only [step, found, pseudoLseek_unnamed named]
      exact setFile_same found
  | some origin =>
      obtain ⟨next, result, clamped⟩ := pseudoLseek_wraps file.data file.fPos offset named
      have range := clamp_range file.data.size.toNat
        ((origin.base file.data.size.toNat file.fPos.toInt + offset.toInt).bmod (2 ^ 64))
      obtain ⟨ret, returned, negative⟩ := failed
      simp only [step, found, result, Event.ret, Option.some.injEq] at returned
      omega

theorem read_failure (inside : file.InRange) (found : state.files fd = some file) {count : UInt32}
    {fault : Option Nat} (failed : (step state (.pseudoRead fd count fault)).2.Fails) :
    (step state (.pseudoRead fd count fault)).1.files = state.files := by
  obtain ⟨position, bound, here⟩ := inside
  obtain ⟨ret, returned, negative⟩ := failed
  have moved := toInt_moved bound count
  simp only [step, found, pseudoRead_inside here bound state.memory count fault] at returned ⊢
  split
  · rename_i whole
    simp only [if_pos whole, Event.ret, Option.some.injEq] at returned
    omega
  · exact setFile_same found

theorem write_failure (inside : file.InRange) (found : state.files fd = some file)
    {user : Nat → UInt8} {count : UInt32} {fault : Option Nat}
    (failed : (step state (.pseudoWrite fd user count fault)).2.Fails) :
    FailsAsTold state (.pseudoWrite fd user count fault) := by
  obtain ⟨position, bound, here⟩ := inside
  have start : file.fPos.toInt.toNat = position := by omega
  have room := transfer_room bound count.toNat
  have moved := toInt_moved bound count
  have result := pseudoWrite_inside here bound state.memory user count fault
  obtain ⟨ret, returned, negative⟩ := failed
  simp only [step, found, result] at returned
  by_cases full : transfer file.data.size.toNat position count.toNat = 0
  · simp only [if_pos full] at result
    refine ⟨by simp only [step, found, result]; exact setFile_same found, fun dev index within => ?_⟩
    simp only [step, found, result]
    cases fault with
    | none => rfl
    | some done =>
        simp only [contentsAfterFailure, found, start, full]
        rw [if_neg (by omega)]
        rfl
  · simp only [if_neg full] at result returned
    by_cases whole : reached (transfer file.data.size.toNat position count.toNat) fault =
        transfer file.data.size.toNat position count.toNat
    · simp only [if_pos whole, Event.ret, Option.some.injEq] at returned
      omega
    · simp only [if_neg whole] at result
      refine ⟨by simp only [step, found, result]; exact setFile_same found, fun dev index within => ?_⟩
      simp only [step, found, result]
      cases fault with
      | none => exact absurd rfl whole
      | some done =>
          simp only [reached] at whole
          simp only [contentsAfterFailure, found, start, reached, State.contents, setFile_memory]
          apply (contents_store state.memory room _ dev within).trans
          by_cases covered : dev = file.privateData ∧ position ≤ index ∧
              index < position + transfer file.data.size.toNat position count.toNat
          · rw [if_pos covered, if_pos covered]
            congr 1
            simp only [eq_iff_iff]
            omega
          · rw [if_neg covered, if_neg covered]

theorem FailsAsTold.of_no_write {call : Call drv} (files : (step state call).1.files = state.files)
    (memory : (step state call).1.memory = state.memory)
    (told : ∀ dev index, contentsAfterFailure state call dev index = state.contents dev index) :
    FailsAsTold state call where
  files := files
  contents dev index _ := by rw [told, State.contents, memory, State.contents]

theorem step_failure (inRange : state.InRange) {call : Call drv} (failed : (step state call).2.Fails) :
    FailsAsTold state call := by
  cases call with
  | pseudoOpen fd minor fMode =>
      have same := open_failure failed
      exact .of_no_write (by rw [same]) (by rw [same]) fun _ _ => rfl
  | pseudoLseek fd offset orig =>
      cases found : state.files fd with
      | none => simp [step, found, Event.Fails, Event.ret] at failed
      | some file =>
          exact .of_no_write (lseek_failure found failed) (by simp only [step, found, setFile_memory])
            fun _ _ => rfl
  | pseudoRead fd count fault =>
      cases found : state.files fd with
      | none => simp [step, found, Event.Fails, Event.ret] at failed
      | some file =>
          exact .of_no_write (read_failure (inRange fd file found) found failed)
            (by simp only [step, found, setFile_memory]) fun _ _ => rfl
  | pseudoWrite fd user count fault =>
      cases found : state.files fd with
      | none => simp [step, found, Event.Fails, Event.ret] at failed
      | some file => exact write_failure (inRange fd file found) found failed
  | pseudoRelease fd => simp [step, Event.Fails, Event.ret] at failed

/-- In every state that a run reaches, a call that returns a negative error
moves no file, and changes no byte but those that a faulting write destroys. -/
theorem run_failures_as_told (drv : PseudoDrvData) (memory : Mem) (calls : List (Call drv))
    (call : Call drv) (failed : (step (stateAfter step (boot drv memory) calls) call).2.Fails) :
    FailsAsTold (stateAfter step (boot drv memory) calls) call :=
  step_failure (run_inRange memory calls) failed

def openPseudo2 : List (Call (pseudoDrvData adjacentBuffers)) :=
  [.pseudoOpen 0 (2 : Fin NO_OF_DEVICES) 3]

/-- A write of four bytes whose copy faults after two of them. -/
def faultingWrite : Call (pseudoDrvData adjacentBuffers) :=
  .pseudoWrite 0 (fun _ => 65) 4 (some 2)

theorem faulting_write_fails_as_told :
    FailsAsTold (stateAfter step (boot (pseudoDrvData adjacentBuffers) fun _ => 7) openPseudo2)
      faultingWrite :=
  run_failures_as_told _ _ _ _ ⟨-EFAULT, rfl, by decide⟩

theorem faulting_write_destroys :
    ¬ ∀ (placement : Placement) (memory : Mem) (calls : List (Call (pseudoDrvData placement)))
      (call : Call (pseudoDrvData placement)),
      (step (stateAfter step (boot (pseudoDrvData placement) memory) calls) call).2.Fails →
        LeavesAlone (stateAfter step (boot (pseudoDrvData placement) memory) calls) call := by
  intro claimed
  have alone := claimed adjacentBuffers (fun _ => 7) openPseudo2 faultingWrite
    ⟨-EFAULT, rfl, by decide⟩
  have same := alone.contents (2 : Fin NO_OF_DEVICES) 3 (by decide)
  exact absurd same (by decide)

end BbbLkm.PseudoN
