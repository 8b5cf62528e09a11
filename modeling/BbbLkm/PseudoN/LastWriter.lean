import BbbLkm.PseudoN.Vfs

namespace BbbLkm.PseudoN

open BbbLkm.Memory BbbLkm.Kernel BbbLkm.Cursor BbbLkm.Machine

variable {drv : PseudoDrvData}

/-- Memory after the module is loaded: the static arrays are zero. -/
def zeroBuffers (drv : PseudoDrvData) (memory : Mem) : Mem := fun address =>
  if ∃ dev, (drv.pseudoDevData dev).region.Contains address then 0 else memory address

def insmod (drv : PseudoDrvData) (memory : Mem) : State drv := boot drv (zeroBuffers drv memory)

def Call.FaultFree : Call drv → Prop
  | .pseudoRead _ _ fault => fault = none
  | .pseudoWrite _ _ _ fault => fault = none
  | _ => True

/-- The write that a successful `pseudo_write` performed. -/
def Event.write? : Event drv → Option (Write (Fin drv.noOfDevices) UInt8)
  | .wrote file user _ ret _ =>
      if 0 ≤ ret.toInt then
        some { device := file.privateData, start := file.fPos.toInt.toNat
               bytes := (List.range ret.toInt.toNat).map user }
      else none
  | _ => none

/-- The byte last written to an index by a successful write, newest event first. -/
def lastWrittenByte (history : List (Event drv)) (dev : Fin drv.noOfDevices) (index : Nat) : UInt8 :=
  (lastWritten (history.filterMap Event.write?) dev index).getD 0

def Replayed (history : List (Event drv)) (state : State drv) : Prop :=
  state.InRange ∧ ∀ dev index, index < (drv.pseudoDevData dev).size.toNat →
    state.contents dev index = replay (fun _ _ => 0) (history.filterMap Event.write?) dev index

theorem insmod_replayed (memory : Mem) : Replayed [] (insmod drv memory) := by
  refine ⟨boot_inRange _, ?_⟩
  intro dev index bound
  have inside : ∃ other, (drv.pseudoDevData other).region.Contains
      ((drv.pseudoDevData dev).region.address index) := ⟨dev, Region.contains_address bound⟩
  simp only [State.contents, insmod, boot, zeroBuffers, if_pos inside, List.filterMap_nil, replay]

theorem Replayed.contents_eq {history : List (Event drv)} {state : State drv}
    (replayed : Replayed history state) {dev : Fin drv.noOfDevices} {index : Nat}
    (bound : index < (drv.pseudoDevData dev).size.toNat) :
    state.contents dev index = lastWrittenByte history dev index :=
  (replayed.2 dev index bound).trans (replay_eq_lastWritten _ _ _ _)

theorem Replayed.of_no_write {history : List (Event drv)} {state after : State drv} {event : Event drv}
    (replayed : Replayed history state) (inRange : after.InRange) (same : after.memory = state.memory)
    (silent : event.write? = none) : Replayed (event :: history) after := by
  refine ⟨inRange, ?_⟩
  intro dev index bound
  rw [List.filterMap_cons_none silent, ← replayed.2 dev index bound]
  simp only [State.contents, same]

theorem contents_write (memory : Mem) {dev : Fin drv.noOfDevices} {position moved : Nat}
    (room : position + moved ≤ (drv.pseudoDevData dev).size.toNat) (user : Nat → UInt8)
    (other : Fin drv.noOfDevices) {index : Nat}
    (bound : index < (drv.pseudoDevData other).size.toNat) :
    store memory ((drv.pseudoDevData dev).region.address position) moved
        (fun byte => if byte < moved then user byte else 0)
        ((drv.pseudoDevData other).region.address index) =
      Write.apply { device := dev, start := position, bytes := (List.range moved).map user }
        (fun dev index => memory ((drv.pseudoDevData dev).region.address index)) other index := by
  rw [contents_store memory room _ other bound]
  by_cases same : other = dev
  · subst same
    simp only [Write.apply, Write.byteAt?, true_and, List.getElem?_map]
    by_cases before : position ≤ index
    · by_cases covered : index - position < moved
      · have ahead : position ≤ index ∧ index < position + moved := by omega
        simp [ahead, covered]
      · have behind : ¬ (position ≤ index ∧ index < position + moved) := by omega
        rw [if_neg behind]
        simp [covered, before]
    · simp [before]
  · rw [if_neg fun within => same within.1, Write.apply, Write.byteAt?_other (Ne.symm same)]
    rfl

theorem write_replayed {history : List (Event drv)} {state : State drv}
    (replayed : Replayed history state) {fd : Nat} {file : File drv}
    (found : state.files fd = some file) (user : Nat → UInt8) (count : UInt32) :
    Replayed ((step state (.pseudoWrite fd user count none)).2 :: history)
      (step state (.pseudoWrite fd user count none)).1 := by
  have next := step_inRange state (.pseudoWrite fd user count none) replayed.1
  obtain ⟨position, bound, here⟩ := replayed.1 fd file found
  have room := transfer_room bound count.toNat
  have start : file.fPos.toInt.toNat = position := by omega
  have result := pseudoWrite_inside here bound state.memory user count none
  simp only [step, found, result] at next ⊢
  by_cases full : transfer file.data.size.toNat position count.toNat = 0
  · simp only [if_pos full] at next ⊢
    exact replayed.of_no_write next rfl rfl
  · simp only [if_neg full, reached_none, if_true] at next ⊢
    have moved := toInt_moved bound count
    have success : (Event.wrote file user count
        (UInt32.ofNat (transfer file.data.size.toNat position count.toNat)).toInt32
        (span (file.data.region.address position)
          (transfer file.data.size.toNat position count.toNat))).write? =
        some { device := file.privateData, start := position
               bytes := (List.range (transfer file.data.size.toNat position count.toNat)).map user } := by
      simp only [Event.write?, moved, start, Int.toNat_natCast]
      rw [if_pos (by omega)]
    refine ⟨next, ?_⟩
    intro dev index inside
    rw [List.filterMap_cons_some success, replay]
    apply (contents_write state.memory room user dev inside).trans
    simp only [Write.apply]
    rw [← replayed.2 dev index inside]
    rfl

theorem step_replayed (history : List (Event drv)) (state : State drv) (call : Call drv)
    (quiet : call.FaultFree) (replayed : Replayed history state) :
    Replayed ((step state call).2 :: history) (step state call).1 := by
  have next := step_inRange state call replayed.1
  cases call with
  | pseudoOpen fd minor fMode =>
      simp only [step] at next ⊢
      split
      · exact replayed.of_no_write replayed.1 rfl rfl
      · rename_i free
        rw [if_neg free] at next
        split
        · rename_i permitted
          rw [if_pos permitted] at next
          exact replayed.of_no_write next rfl rfl
        · exact replayed.of_no_write replayed.1 rfl rfl
  | pseudoLseek fd offset orig =>
      cases found : state.files fd <;> simp only [step, found] at next ⊢ <;>
        exact replayed.of_no_write next rfl rfl
  | pseudoRead fd count fault =>
      cases found : state.files fd <;> simp only [step, found] at next ⊢ <;>
        exact replayed.of_no_write next rfl rfl
  | pseudoWrite fd user count fault =>
      cases found : state.files fd with
      | none =>
          simp only [step, found] at next ⊢
          exact replayed.of_no_write next rfl rfl
      | some file =>
          have unfaulted : fault = none := quiet
          subst unfaulted
          exact write_replayed replayed found user count
  | pseudoRelease fd => exact replayed.of_no_write next rfl rfl

theorem run_replayed (memory : Mem) {calls : List (Call drv)} (quiet : ∀ call ∈ calls, call.FaultFree) :
    Replayed (answers step (insmod drv memory) calls).reverse
      (stateAfter step (insmod drv memory) calls) := by
  simpa using history_run step_replayed quiet (insmod_replayed memory)

/-- Only the file on `fd` moves, and it moves by `amount`. -/
def AdvancesOnly (before after : State drv) (fd : Nat) (file : File drv) (amount : Int) : Prop :=
  (∃ fPos, after.files fd = some { file with fPos } ∧ fPos.toInt = file.fPos.toInt + amount) ∧
    ∀ other, other ≠ fd → after.files other = before.files other

/-- What reads and writes through the open files do, told from the history:
a read returns all that is asked for or left, each byte as it was last written. -/
def LastWriterLaw (history : List (Event drv)) (state : State drv) : Prop :=
  ∀ fd file, state.files fd = some file →
    (∀ count, ∃ ret delivered touched,
      (step state (.pseudoRead fd count none)).2 = .read file count ret delivered touched ∧
        ret.toInt = min (count.toNat : Int) (file.data.size.toNat - file.fPos.toInt) ∧
        delivered = (List.range ret.toInt.toNat).map (fun index =>
          lastWrittenByte history file.privateData (file.fPos.toInt.toNat + index)) ∧
        AdvancesOnly state (step state (.pseudoRead fd count none)).1 fd file ret.toInt) ∧
    (∀ user count, ∃ ret touched,
      (step state (.pseudoWrite fd user count none)).2 = .wrote file user count ret touched ∧
        (0 ≤ ret.toInt →
          AdvancesOnly state (step state (.pseudoWrite fd user count none)).1 fd file ret.toInt))

theorem Replayed.read_law {history : List (Event drv)} {state : State drv}
    (replayed : Replayed history state) {fd : Nat} {file : File drv}
    (found : state.files fd = some file) (count : UInt32) :
    ∃ ret delivered touched,
      (step state (.pseudoRead fd count none)).2 = .read file count ret delivered touched ∧
        ret.toInt = min (count.toNat : Int) (file.data.size.toNat - file.fPos.toInt) ∧
        delivered = (List.range ret.toInt.toNat).map (fun index =>
          lastWrittenByte history file.privateData (file.fPos.toInt.toNat + index)) ∧
        AdvancesOnly state (step state (.pseudoRead fd count none)).1 fd file ret.toInt := by
  obtain ⟨position, bound, here⟩ := replayed.1 fd file found
  have start : file.fPos.toInt.toNat = position := by omega
  have room := transfer_room bound count.toNat
  have moved := toInt_moved bound count
  have advanced := toInt_advance here bound count
  have result := pseudoRead_inside here bound state.memory count none
  simp only [reached_none, if_true] at result
  simp only [step, found, result]
  refine ⟨_, _, _, rfl, ?_, ?_, ⟨⟨_, setFile_self _ _ _, ?_⟩, fun other => setFile_other _ _⟩⟩
  · rw [moved, here]
    unfold transfer
    omega
  · rw [moved, Int.toNat_natCast, Region.load_address, start]
    apply List.map_congr_left
    intro index member
    have covered := List.mem_range.mp member
    have within : position + index < (drv.pseudoDevData file.privateData).size.toNat := by
      unfold File.data at room covered
      omega
    exact replayed.contents_eq within
  · rw [moved, advanced, here]
    omega

theorem Replayed.write_law {history : List (Event drv)} {state : State drv}
    (replayed : Replayed history state) {fd : Nat} {file : File drv}
    (found : state.files fd = some file) (user : Nat → UInt8) (count : UInt32) :
    ∃ ret touched,
      (step state (.pseudoWrite fd user count none)).2 = .wrote file user count ret touched ∧
        (0 ≤ ret.toInt →
          AdvancesOnly state (step state (.pseudoWrite fd user count none)).1 fd file ret.toInt) := by
  obtain ⟨position, bound, here⟩ := replayed.1 fd file found
  have moved := toInt_moved bound count
  have advanced := toInt_advance here bound count
  have result := pseudoWrite_inside here bound state.memory user count none
  simp only [reached_none, if_true] at result
  simp only [step, found, result]
  refine ⟨_, _, rfl, ?_⟩
  by_cases full : transfer file.data.size.toNat position count.toNat = 0
  · rw [if_pos full]
    intro success
    have refused : ¬ 0 ≤ (Int32.ofInt (-ENOMEM)).toInt := by decide
    exact absurd success refused
  · rw [if_neg full]
    intro _
    refine ⟨⟨_, setFile_self _ _ _, ?_⟩, fun other => setFile_other _ _⟩
    rw [moved, advanced, here]
    omega

/-- After every run of fault-free calls, reads return what was last written,
and a transfer moves its own file by the number it returns. -/
theorem run_last_writer (drv : PseudoDrvData) (memory : Mem) (calls : List (Call drv))
    (quiet : ∀ call ∈ calls, call.FaultFree) :
    LastWriterLaw (answers step (insmod drv memory) calls).reverse
      (stateAfter step (insmod drv memory) calls) := by
  have replayed := run_replayed memory quiet
  intro fd file found
  exact ⟨replayed.read_law found, replayed.write_law found⟩

def writeThenRewind : List (Call (pseudoDrvData adjacentBuffers)) :=
  [.pseudoOpen 0 (2 : Fin NO_OF_DEVICES) 3,
    .pseudoWrite 0 (fun index => UInt8.ofNat (65 + index)) 3 none,
    .pseudoLseek 0 0 SEEK_SET]

theorem last_writer_after_rewind :
    ((stateAfter step (insmod (pseudoDrvData adjacentBuffers) fun _ => 0) writeThenRewind).files
        0).isSome = true ∧
      LastWriterLaw
        (answers step (insmod (pseudoDrvData adjacentBuffers) fun _ => 0) writeThenRewind).reverse
        (stateAfter step (insmod (pseudoDrvData adjacentBuffers) fun _ => 0) writeThenRewind) :=
  ⟨by decide, run_last_writer _ _ _ (by simp [writeThenRewind, Call.FaultFree])⟩

end BbbLkm.PseudoN
