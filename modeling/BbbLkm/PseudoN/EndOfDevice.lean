import BbbLkm.PseudoN.Failures

namespace BbbLkm.PseudoN

open BbbLkm.Memory BbbLkm.Kernel BbbLkm.Cursor BbbLkm.Machine

variable {drv : PseudoDrvData} {state : State drv} {fd : Nat} {file : File drv} {position : Nat}

def File.at (file : File drv) (position : Nat) : File drv :=
  { file with fPos := Int64.ofNat position }

@[simp] theorem at_data (file : File drv) (position : Nat) : (file.at position).data = file.data := rfl

theorem at_fPos (inside : position ≤ file.data.size.toNat) :
    (file.at position).fPos.toInt = position := by
  have fits := file.data.sizeFits
  unfold INT_MAX at fits
  exact Int64.toInt_ofNat_of_lt (by omega)

theorem at_here (here : file.fPos.toInt = position) (inside : position ≤ file.data.size.toNat) :
    file.at position = file := by
  have same : Int64.ofNat position = file.fPos :=
    Int64.toInt_inj.mp ((at_fPos inside).trans here.symm)
  rw [File.at, same]

theorem fPos_advance (here : file.fPos.toInt = position) (inside : position ≤ file.data.size.toNat)
    (count : UInt32) :
    file.fPos + widen (UInt32.ofNat (transfer file.data.size.toNat position count.toNat)) =
      Int64.ofNat (position + transfer file.data.size.toNat position count.toNat) := by
  have room := transfer_room inside count.toNat
  exact Int64.toInt_inj.mp ((toInt_advance here inside count).trans (at_fPos room).symm)

theorem step_write_full (found : state.files fd = some file) (here : file.fPos.toInt = position)
    (inside : position ≤ file.data.size.toNat) (user : Nat → UInt8) {count : UInt32}
    (full : transfer file.data.size.toNat position count.toNat = 0) :
    step state (.pseudoWrite fd user count none) =
      (state, .wrote file user count (Int32.ofInt (-ENOMEM)) []) := by
  have result := pseudoWrite_inside here inside state.memory user count none
  simp only [if_pos full] at result
  have same : state.setFile fd file = state := by
    rw [State.setFile, ← found, Function.update_eq_self]
  simp only [step, found, result]
  rw [same]

theorem step_write_stored (found : state.files fd = some file) (here : file.fPos.toInt = position)
    (inside : position ≤ file.data.size.toNat) (user : Nat → UInt8) {count : UInt32}
    (room : transfer file.data.size.toNat position count.toNat ≠ 0) :
    step state (.pseudoWrite fd user count none) =
      let moved := transfer file.data.size.toNat position count.toNat
      ({ state with memory := store state.memory (file.data.region.address position) moved user }.setFile
          fd (file.at (position + moved)),
        .wrote file user count (UInt32.ofNat moved).toInt32
          (span (file.data.region.address position) moved)) := by
  have whole := @store_congr state.memory (file.data.region.address position)
    (transfer file.data.size.toNat position count.toNat)
    (fun index =>
      if index < reached (transfer file.data.size.toNat position count.toNat) none then user index else 0)
    user fun index within => if_pos within
  have result := pseudoWrite_inside here inside state.memory user count none
  simp only [if_neg room, whole] at result
  rw [if_pos (reached_none _)] at result
  simp only [step, found, result, fPos_advance here inside count, File.at]

/-- A write reports a full device when it has bytes to store and the device has
no room, and otherwise stores what fits and nothing else. -/
structure ReportsFullExactly (state : State drv) (fd : Nat) (file : File drv) (position : Nat)
    (user : Nat → UInt8) (count : UInt32) : Prop where
  full : (∃ touched, (step state (.pseudoWrite fd user count none)).2 =
      .wrote file user count (Int32.ofInt (-ENOMEM)) touched) ↔
    position = file.data.size.toNat ∧ 0 < count.toNat
  returned : ¬ (position = file.data.size.toNat ∧ 0 < count.toNat) →
    ∃ ret touched, (step state (.pseudoWrite fd user count none)).2 = .wrote file user count ret touched ∧
      ret.toInt = (min count.toNat (file.data.size.toNat - position) : Nat)
  stored : ¬ (position = file.data.size.toNat ∧ 0 < count.toNat) →
    ∀ index < min count.toNat (file.data.size.toNat - position),
      (step state (.pseudoWrite fd user count none)).1.contents file.privateData (position + index) =
        user index
  frame : ∀ address,
    address ∉ span (file.data.region.address position)
      (min count.toNat (file.data.size.toNat - position)) →
    (step state (.pseudoWrite fd user count none)).1.memory address = state.memory address
  moved : (step state (.pseudoWrite fd user count none)).1.files =
    Function.update state.files fd
      (some (file.at (position + min count.toNat (file.data.size.toNat - position))))

theorem reports_at_end (found : state.files fd = some file) (here : file.fPos.toInt = position)
    (inside : position ≤ file.data.size.toNat) (user : Nat → UInt8) {count : UInt32}
    (positive : 0 < count.toNat) (full : transfer file.data.size.toNat position count.toNat = 0) :
    ReportsFullExactly state fd file position user count := by
  have empty := transfer_eq_zero_iff inside count.toNat
  have finish : position = file.data.size.toNat := by omega
  have stepped := step_write_full found here inside user full
  refine
    { full := ⟨fun _ => ⟨finish, positive⟩, fun _ => ⟨[], by rw [stepped]⟩⟩
      returned := fun room => absurd ⟨finish, positive⟩ room
      stored := fun room => absurd ⟨finish, positive⟩ room
      frame := fun address _ => by rw [stepped]
      moved := ?_ }
  rw [stepped, ← transfer, full, Nat.add_zero, at_here here inside, ← found, Function.update_eq_self]

theorem reports_stored (found : state.files fd = some file) (here : file.fPos.toInt = position)
    (inside : position ≤ file.data.size.toNat) (user : Nat → UInt8) {count : UInt32}
    (some : transfer file.data.size.toNat position count.toNat ≠ 0) :
    ReportsFullExactly state fd file position user count := by
  have empty := transfer_eq_zero_iff inside count.toNat
  have notFull : ¬ (position = file.data.size.toNat ∧ 0 < count.toNat) := by omega
  have stepped := step_write_stored found here inside user some
  have room := transfer_room inside count.toNat
  refine
    { full := iff_of_false ?_ notFull
      returned := fun _ => ⟨_, _, by rw [stepped], toInt_moved inside count⟩
      stored := fun _ index within => ?_
      frame := fun address outside => by
        rw [stepped]
        exact store_frame outside
      moved := by rw [stepped]; rfl }
  · intro refused
    obtain ⟨touched, refused⟩ := refused
    have returned := toInt_moved inside count
    rw [stepped] at refused
    injection refused with _ _ _ failed _
    rw [failed] at returned
    have negative : (Int32.ofInt (-ENOMEM)).toInt < 0 := by decide
    omega
  · have below : index < transfer file.data.size.toNat position count.toNat := within
    rw [stepped]
    simp only [State.contents, setFile_memory]
    refine (contents_store state.memory room user file.privateData
      (Nat.lt_of_lt_of_le (Nat.add_lt_add_left below position) room)).trans ?_
    rw [if_pos ⟨rfl, by omega, by omega⟩, Nat.add_sub_cancel_left]

theorem reports_full_of_count (found : state.files fd = some file)
    (here : file.fPos.toInt = position) (inside : position ≤ file.data.size.toNat)
    (user : Nat → UInt8) {count : UInt32} (positive : 0 < count.toNat) :
    ReportsFullExactly state fd file position user count := by
  by_cases full : transfer file.data.size.toNat position count.toNat = 0
  · exact reports_at_end found here inside user positive full
  · exact reports_stored found here inside user full

/-- In every state that a run reaches, a write reports what the device has room
for if and only if it has any bytes to write. -/
theorem run_reports_full_iff (drv : PseudoDrvData) (memory : Mem) (calls : List (Call drv))
    {fd : Nat} {file : File drv} (user : Nat → UInt8) (count : UInt32)
    (found : (stateAfter step (boot drv memory) calls).files fd = some file) :
    ReportsFullExactly (stateAfter step (boot drv memory) calls) fd file file.fPos.toInt.toNat user
        count ↔
      count ≠ 0 := by
  obtain ⟨position, inside, here⟩ := run_inRange memory calls fd file found
  have start : file.fPos.toInt.toNat = position := by omega
  rw [start]
  apply Iff.intro
  · intro reports zero
    subst zero
    have stepped := step_write_full found here inside user
      ((transfer_eq_zero_iff inside _).mpr (Or.inl UInt32.toNat_zero))
    have claimed := reports.full.mp ⟨[], by rw [stepped]⟩
    exact absurd claimed.2 (by decide)
  · intro some
    refine reports_full_of_count found here inside user (Nat.pos_of_ne_zero fun zero => some ?_)
    exact UInt32.toNat_inj.mp zero

def openedPseudo2 : File (pseudoDrvData adjacentBuffers) :=
  { privateData := (2 : Fin NO_OF_DEVICES), fPos := 0, fMode := 3 }

theorem opened_device_reports_full :
    ReportsFullExactly
      (stateAfter step (boot (pseudoDrvData adjacentBuffers) fun _ => 7) openPseudo2) 0 openedPseudo2 0
      (fun _ => 65) 4 :=
  (run_reports_full_iff (pseudoDrvData adjacentBuffers) (fun _ => 7) openPseudo2 (fun _ => 65) 4 rfl).mpr
    (by decide)

/-- Writing nothing at the start of an empty device finds no space left. -/
theorem empty_write_reports_full :
    ¬ ∀ (placement : Placement) (memory : Mem) (calls : List (Call (pseudoDrvData placement)))
      (fd : Nat) (file : File (pseudoDrvData placement)) (user : Nat → UInt8) (count : UInt32),
      (stateAfter step (boot (pseudoDrvData placement) memory) calls).files fd = some file →
        ReportsFullExactly (stateAfter step (boot (pseudoDrvData placement) memory) calls) fd file
          file.fPos.toInt.toNat user count := by
  intro claimed
  have reports := claimed adjacentBuffers (fun _ => 7) openPseudo2 0 openedPseudo2 (fun _ => 65) 0 rfl
  have refused := reports.full.mp ⟨[], rfl⟩
  exact absurd refused.2 (by decide)

end BbbLkm.PseudoN
