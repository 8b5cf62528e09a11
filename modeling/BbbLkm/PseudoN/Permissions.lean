import BbbLkm.PseudoN.Bounds

namespace BbbLkm.PseudoN

open BbbLkm.Memory BbbLkm.Kernel BbbLkm.Cursor BbbLkm.Machine

variable {drv : PseudoDrvData}

def File.hasMode (file : File drv) (bit : UInt32) : Bool := file.fMode &&& bit != 0

def vfsPermits (state : State drv) : Call drv → Bool
  | .pseudoRead fd _ _ => (state.files fd).all fun file => file.hasMode FMODE_READ
  | .pseudoWrite fd _ _ _ => (state.files fd).all fun file => file.hasMode FMODE_WRITE
  | _ => true

def vfsStep (state : State drv) (call : Call drv) : State drv × Event drv :=
  if vfsPermits state call then step state call else (state, .refused)

theorem rdonly_excludes_write {data : PseudoDevPrivateData} {fMode : UInt32}
    (permitted : pseudoOpen data fMode = 0) (rdonly : data.perm = RDONLY) :
    fMode &&& FMODE_WRITE = 0 := by
  have notBoth : RDONLY ≠ RDWR := by decide
  have notWronly : RDONLY ≠ WRONLY := by decide
  have denied : -EPERM ≠ 0 := by decide
  simp only [pseudoOpen, checkPermission, rdonly, if_neg notBoth, notWronly, false_and, if_false,
    true_and, UInt32.toUInt32_toInt32] at permitted
  split at permitted
  · rename_i granted
    exact Decidable.not_not.mp granted.2
  · exact absurd permitted denied

theorem wronly_excludes_read {data : PseudoDevPrivateData} {fMode : UInt32}
    (permitted : pseudoOpen data fMode = 0) (wronly : data.perm = WRONLY) :
    fMode &&& FMODE_READ = 0 := by
  have notBoth : WRONLY ≠ RDWR := by decide
  have notRdonly : WRONLY ≠ RDONLY := by decide
  have denied : -EPERM ≠ 0 := by decide
  simp only [pseudoOpen, checkPermission, wronly, if_neg notBoth, notRdonly, false_and, if_false,
    true_and, UInt32.toUInt32_toInt32] at permitted
  split at permitted
  · rename_i granted
    exact Decidable.not_not.mp granted.1
  · exact absurd permitted denied

/-- Every open file passed the permission check of its device, and its
position is in range. -/
def State.Permitted (state : State drv) : Prop :=
  state.InRange ∧ ∀ fd file, state.files fd = some file → pseudoOpen file.data file.fMode = 0

theorem boot_permitted (memory : Mem) : (boot drv memory).Permitted := by
  refine ⟨boot_inRange memory, ?_⟩
  intro fd file opened
  cases opened

theorem step_permitted (state : State drv) (call : Call drv) (permitted : state.Permitted) :
    (step state call).1.Permitted := by
  refine ⟨step_inRange state call permitted.1, ?_⟩
  intro fd file held
  cases step_files state call held with
  | kept before => exact permitted.2 fd file before
  | moved before found same _ =>
      rw [same]
      exact permitted.2 fd before found
  | opened granted _ => exact granted

theorem vfsStep_permitted (state : State drv) (call : Call drv) (permitted : state.Permitted) :
    (vfsStep state call).1.Permitted := by
  unfold vfsStep
  split
  · exact step_permitted state call permitted
  · exact permitted

theorem vfsStep_rdonly {state : State drv} (call : Call drv) (permitted : state.Permitted)
    {dev : Fin drv.noOfDevices} (rdonly : (drv.pseudoDevData dev).perm = RDONLY) {index : Nat}
    (bound : index < (drv.pseudoDevData dev).size.toNat) :
    (vfsStep state call).1.contents dev index = state.contents dev index := by
  rw [vfsStep]
  split
  · rename_i passed
    rcases step_memory state call with same | ⟨fd, user, count, fault, file, rfl, found, written⟩
    · simp only [State.contents, same]
    · have writable : file.fMode &&& FMODE_WRITE ≠ 0 := by
        simpa [vfsPermits, found, File.hasMode] using passed
      have separate : file.privateData ≠ dev := by
        intro same
        subst same
        exact writable (rdonly_excludes_write (permitted.2 fd file found) rdonly)
      have outside := (drv.apart _ _ separate).symm.not_contains (Region.contains_address bound)
      obtain ⟨position, inside, here⟩ := permitted.1 fd file found
      simp only [State.contents, written]
      exact pseudoWrite_outside here inside state.memory user count fault outside
  · rfl

/-- Two memories that agree except for the buffers of write-only devices. -/
def AgreeOffWronly (drv : PseudoDrvData) (left right : Mem) : Prop :=
  ∀ address, (∀ dev, (drv.pseudoDevData dev).perm = WRONLY →
    ¬ (drv.pseudoDevData dev).region.Contains address) → left address = right address

theorem AgreeOffWronly.store {left right : Mem} (agree : AgreeOffWronly drv left right)
    (start : UInt32) (count : Nat) (data : Nat → UInt8) :
    AgreeOffWronly drv (store left start count data) (store right start count data) := by
  intro address shared
  simp only [Memory.store, agree address shared]

theorem pseudoWrite_agree {file : File drv} (inside : file.InRange) {left right : Mem}
    (agree : AgreeOffWronly drv left right) (user : Nat → UInt8) (count : UInt32)
    (fault : Option Nat) :
    (pseudoWrite file.data left user count file.fPos fault).ret =
        (pseudoWrite file.data right user count file.fPos fault).ret ∧
      (pseudoWrite file.data left user count file.fPos fault).offset =
        (pseudoWrite file.data right user count file.fPos fault).offset ∧
      (pseudoWrite file.data left user count file.fPos fault).touched =
        (pseudoWrite file.data right user count file.fPos fault).touched ∧
      AgreeOffWronly drv (pseudoWrite file.data left user count file.fPos fault).memory
        (pseudoWrite file.data right user count file.fPos fault).memory := by
  obtain ⟨position, bound, here⟩ := inside
  rw [pseudoWrite_inside here bound left, pseudoWrite_inside here bound right]
  simp only
  split
  · exact ⟨rfl, rfl, rfl, agree⟩
  · split
    · refine ⟨rfl, rfl, rfl, ?_⟩
      simp only
      exact agree.store _ _ _
    · refine ⟨rfl, rfl, rfl, ?_⟩
      simp only
      exact agree.store _ _ _

theorem pseudoRead_agree {file : File drv} (inside : file.InRange) {left right : Mem}
    (agree : AgreeOffWronly drv left right) (readable : file.data.perm ≠ WRONLY) (count : UInt32)
    (fault : Option Nat) :
    pseudoRead file.data left count file.fPos fault =
      pseudoRead file.data right count file.fPos fault := by
  obtain ⟨position, bound, here⟩ := inside
  have room := transfer_room bound count.toNat
  have same (moved : Nat) (most : moved ≤ transfer file.data.size.toNat position count.toNat) :
      load left (file.data.region.address position) moved =
        load right (file.data.region.address position) moved := by
    refine List.map_congr_left fun address member => agree address fun dev wronly contained => ?_
    have fits : position + moved ≤ file.data.region.size := by rw [region_size]; omega
    have own := Region.span_within fits address member
    have separate : dev ≠ file.privateData := by
      intro equal
      subst equal
      exact readable wronly
    exact (drv.apart _ _ separate).not_contains contained own
  rw [pseudoRead_inside here bound left, pseudoRead_inside here bound right]
  simp only
  split
  · rw [same _ (Nat.le_refl _)]
  · rw [same _ (reached_le _ _)]

def Twins (left right : State drv) : Prop :=
  left.Permitted ∧ left.files = right.files ∧ AgreeOffWronly drv left.memory right.memory

theorem setFile_files {left right : State drv} (files : left.files = right.files) (fd : Nat)
    (file : File drv) : (left.setFile fd file).files = (right.setFile fd file).files := by
  simp only [State.setFile, files]

theorem step_twins {left right : State drv} (call : Call drv) (twins : Twins left right)
    (passed : vfsPermits left call = true) :
    (step left call).2 = (step right call).2 ∧ Twins (step left call).1 (step right call).1 := by
  have permitted := step_permitted left call twins.1
  obtain ⟨before, files, agree⟩ := twins
  suffices same : (step left call).2 = (step right call).2 ∧
      (step left call).1.files = (step right call).1.files ∧
        AgreeOffWronly drv (step left call).1.memory (step right call).1.memory from
    ⟨same.1, permitted, same.2⟩
  cases call with
  | pseudoOpen fd minor fMode =>
      simp only [step, ← files]
      split
      · exact ⟨rfl, files, agree⟩
      · split
        · exact ⟨rfl, setFile_files files _ _, agree⟩
        · exact ⟨rfl, files, agree⟩
  | pseudoLseek fd offset orig =>
      cases found : left.files fd with
      | none =>
          simp only [step, ← files, found, true_and]
          exact agree
      | some file =>
          simp only [step, ← files, found, true_and]
          exact ⟨setFile_files files _ _, agree⟩
  | pseudoRead fd count fault =>
      cases found : left.files fd with
      | none =>
          simp only [step, ← files, found, true_and]
          exact agree
      | some file =>
          have readable : file.data.perm ≠ WRONLY := by
            intro wronly
            have reads : file.fMode &&& FMODE_READ ≠ 0 := by
              simpa [vfsPermits, found, File.hasMode] using passed
            exact reads (wronly_excludes_read (before.2 fd file found) wronly)
          have result := pseudoRead_agree (before.1 fd file found) agree readable count fault
          simp only [step, ← files, found, result, true_and]
          exact ⟨setFile_files files _ _, agree⟩
  | pseudoWrite fd user count fault =>
      cases found : left.files fd with
      | none =>
          simp only [step, ← files, found, true_and]
          exact agree
      | some file =>
          obtain ⟨ret, offset, touched, memory⟩ :=
            pseudoWrite_agree (before.1 fd file found) agree user count fault
          simp only [step, ← files, found, ret, offset, touched, setFile_memory, true_and]
          refine ⟨setFile_files ?_ _ _, memory⟩
          rfl
  | pseudoRelease fd => exact ⟨rfl, by simp only [step, files], agree⟩

theorem vfsStep_twins (left right : State drv) (call : Call drv) (twins : Twins left right) :
    (vfsStep left call).2 = (vfsStep right call).2 ∧
      Twins (vfsStep left call).1 (vfsStep right call).1 := by
  have passes : vfsPermits right call = vfsPermits left call := by
    cases call <;> simp only [vfsPermits, twins.2.1]
  unfold vfsStep
  rw [passes]
  split
  · rename_i passed
    exact step_twins call twins passed
  · exact ⟨rfl, twins⟩

/-- Over every run through the VFS, read-only devices keep their contents, and
nothing a caller sees depends on the contents of write-only devices. -/
theorem run_respects_permissions (drv : PseudoDrvData) :
    (∀ (memory : Mem) (calls : List (Call drv)) (dev : Fin drv.noOfDevices),
      (drv.pseudoDevData dev).perm = RDONLY → ∀ index < (drv.pseudoDevData dev).size.toNat,
        (stateAfter vfsStep (boot drv memory) calls).contents dev index =
          (boot drv memory).contents dev index) ∧
    (∀ (left right : Mem) (calls : List (Call drv)), AgreeOffWronly drv left right →
      answers vfsStep (boot drv left) calls = answers vfsStep (boot drv right) calls) := by
  constructor
  · intro memory calls dev rdonly index bound
    have kept : ∀ (state : State drv) (call : Call drv),
        state.Permitted ∧ state.contents dev index = (boot drv memory).contents dev index →
        (vfsStep state call).1.Permitted ∧
          (vfsStep state call).1.contents dev index = (boot drv memory).contents dev index := by
      intro state call held
      exact ⟨vfsStep_permitted state call held.1,
        (vfsStep_rdonly call held.1 rdonly bound).trans held.2⟩
    have final : (stateAfter vfsStep (boot drv memory) calls).Permitted ∧
        (stateAfter vfsStep (boot drv memory) calls).contents dev index =
          (boot drv memory).contents dev index :=
      invariant_run kept ⟨boot_permitted memory, rfl⟩
    exact final.2
  · intro left right calls agree
    have twins : Twins (boot drv left) (boot drv right) := ⟨boot_permitted left, rfl, agree⟩
    exact (lockstep vfsStep_twins twins).1

/-- Attempts on the read-only and on the write-only device, through files of
either mode. -/
def probingCalls : List (Call (pseudoDrvData adjacentBuffers)) :=
  [.pseudoOpen 0 (0 : Fin NO_OF_DEVICES) FMODE_READ, .pseudoWrite 0 (fun _ => 7) 8 none,
    .pseudoOpen 1 (1 : Fin NO_OF_DEVICES) FMODE_READ, .pseudoRead 1 8 none,
    .pseudoOpen 2 (1 : Fin NO_OF_DEVICES) FMODE_WRITE, .pseudoRead 2 8 none]

def secretMemory : Mem := fun address =>
  if (pseudoDevice adjacentBuffers 1).region.Contains address then 1 else 0

theorem secretMemory_agree : AgreeOffWronly (pseudoDrvData adjacentBuffers) (fun _ => 0) secretMemory := by
  intro address outside
  have silent : ¬ (pseudoDevice adjacentBuffers 1).region.Contains address :=
    outside (1 : Fin NO_OF_DEVICES) rfl
  rw [secretMemory, if_neg silent]

theorem probing_respects_permissions :
    (stateAfter vfsStep (boot (pseudoDrvData adjacentBuffers) fun _ => 0) probingCalls).contents
        (0 : Fin NO_OF_DEVICES) 5 =
      (boot (pseudoDrvData adjacentBuffers) fun _ => 0).contents (0 : Fin NO_OF_DEVICES) 5 ∧
    answers vfsStep (boot (pseudoDrvData adjacentBuffers) fun _ => 0) probingCalls =
      answers vfsStep (boot (pseudoDrvData adjacentBuffers) secretMemory) probingCalls :=
  ⟨(run_respects_permissions (pseudoDrvData adjacentBuffers)).1 _ _ (0 : Fin NO_OF_DEVICES) rfl 5
      (by decide),
    (run_respects_permissions (pseudoDrvData adjacentBuffers)).2 _ _ _ secretMemory_agree⟩

end BbbLkm.PseudoN
