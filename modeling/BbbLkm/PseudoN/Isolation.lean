import BbbLkm.Machine.Projection
import BbbLkm.PseudoN.Permissions

namespace BbbLkm.PseudoN

open BbbLkm.Memory BbbLkm.Kernel BbbLkm.Cursor BbbLkm.Machine

variable {drv : PseudoDrvData} {dev : Fin drv.noOfDevices} {state left right : State drv} {fd : Nat}
  {file : File drv}

def File.isOf (file : File drv) (dev : Fin drv.noOfDevices) : Bool := file.privateData = dev

@[simp] theorem isOf_iff : file.isOf dev = true ↔ file.privateData = dev := decide_eq_true_iff

@[simp] theorem isOf_false_iff : file.isOf dev = false ↔ file.privateData ≠ dev := decide_eq_false_iff_not

/-- The call opens the device or is made on one of its files. -/
def concernsDevice (dev : Fin drv.noOfDevices) (state : State drv) : Call drv → Bool
  | .pseudoOpen fd minor _ => (state.files fd).isNone && minor = dev
  | .pseudoLseek fd _ _ => (state.files fd).any fun file => file.isOf dev
  | .pseudoRead fd _ _ => (state.files fd).any fun file => file.isOf dev
  | .pseudoWrite fd _ _ _ => (state.files fd).any fun file => file.isOf dev
  | .pseudoRelease fd => (state.files fd).any fun file => file.isOf dev

/-- `right` has the files and the contents that `left` has of the device, and no
other files. -/
structure AlikeOn (dev : Fin drv.noOfDevices) (left right : State drv) : Prop where
  inRange : left.InRange
  files : ∀ fd, right.files fd = (left.files fd).filter fun file => file.isOf dev
  contents : ∀ index < (drv.pseudoDevData dev).size.toNat,
    right.contents dev index = left.contents dev index

section Transfers

variable {memory other : Mem} {position : Nat}

/-- The bytes of a device, where two memories agree on them. -/
theorem load_congr {data : PseudoDevPrivateData}
    (same : ∀ index < data.size.toNat, other (data.region.address index) = memory (data.region.address index))
    {moved : Nat} (room : position + moved ≤ data.size.toNat) :
    load other (data.region.address position) moved = load memory (data.region.address position) moved := by
  rw [Region.load_address, Region.load_address]
  apply List.map_congr_left
  intro index member
  have bound := List.mem_range.mp member
  exact same _ (by omega)

theorem pseudoRead_congr (inside : file.InRange)
    (same : ∀ index < file.data.size.toNat,
      other (file.data.region.address index) = memory (file.data.region.address index))
    (count : UInt32) (fault : Option Nat) :
    pseudoRead file.data other count file.fPos fault = pseudoRead file.data memory count file.fPos fault := by
  obtain ⟨position, bound, here⟩ := inside
  have room := transfer_room bound count.toNat
  have below := reached_le (transfer file.data.size.toNat position count.toNat) fault
  have whole := load_congr same room
  have part := @load_congr memory other position file.data same
    (reached (transfer file.data.size.toNat position count.toNat) fault) (by omega)
  rw [pseudoRead_inside here bound other, pseudoRead_inside here bound memory]
  simp only [whole, part]

theorem pseudoWrite_congr (inside : file.InRange) (other memory : Mem) (user : Nat → UInt8) (count : UInt32)
    (fault : Option Nat) :
    (pseudoWrite file.data other user count file.fPos fault).ret =
        (pseudoWrite file.data memory user count file.fPos fault).ret ∧
      (pseudoWrite file.data other user count file.fPos fault).offset =
        (pseudoWrite file.data memory user count file.fPos fault).offset ∧
      (pseudoWrite file.data other user count file.fPos fault).touched =
        (pseudoWrite file.data memory user count file.fPos fault).touched := by
  obtain ⟨position, bound, here⟩ := inside
  rw [pseudoWrite_inside here bound other, pseudoWrite_inside here bound memory]
  simp only
  split
  · exact ⟨rfl, rfl, rfl⟩
  · split
    · exact ⟨rfl, rfl, rfl⟩
    · exact ⟨rfl, rfl, rfl⟩

/-- A write leaves two memories alike on its device if they were so before. -/
theorem pseudoWrite_contents (inside : file.InRange)
    (same : ∀ index < file.data.size.toNat,
      other (file.data.region.address index) = memory (file.data.region.address index))
    (user : Nat → UInt8) (count : UInt32) (fault : Option Nat) :
    ∀ index < file.data.size.toNat,
      (pseudoWrite file.data other user count file.fPos fault).memory (file.data.region.address index) =
        (pseudoWrite file.data memory user count file.fPos fault).memory
          (file.data.region.address index) := by
  obtain ⟨position, bound, here⟩ := inside
  have room := transfer_room bound count.toNat
  intro index within
  have stored : ∀ bytes,
      store other (file.data.region.address position)
          (transfer file.data.size.toNat position count.toNat) bytes (file.data.region.address index) =
        store memory (file.data.region.address position)
          (transfer file.data.size.toNat position count.toNat) bytes (file.data.region.address index) := by
    intro bytes
    rw [Region.store_address room within, Region.store_address room within, same index within]
  rw [pseudoWrite_inside here bound other, pseudoWrite_inside here bound memory]
  simp only
  split
  · exact same index within
  · split
    · simp only [stored]
    · simp only [stored]

/-- A write through a file of one device leaves the other devices' bytes alone. -/
theorem pseudoWrite_elsewhere (inside : file.InRange) (other : file.privateData ≠ dev) (memory : Mem)
    (user : Nat → UInt8) (count : UInt32) (fault : Option Nat) :
    ∀ index < (drv.pseudoDevData dev).size.toNat,
      (pseudoWrite file.data memory user count file.fPos fault).memory
          ((drv.pseudoDevData dev).region.address index) =
        memory ((drv.pseudoDevData dev).region.address index) := by
  obtain ⟨position, bound, here⟩ := inside
  have room := transfer_room bound count.toNat
  intro index within
  have stored : ∀ bytes,
      store memory (file.data.region.address position)
          (transfer file.data.size.toNat position count.toNat) bytes
          ((drv.pseudoDevData dev).region.address index) =
        memory ((drv.pseudoDevData dev).region.address index) := by
    intro bytes
    exact (contents_store memory room bytes dev within).trans (if_neg fun covered => other covered.1.symm)
  rw [pseudoWrite_inside here bound memory]
  simp only
  split
  · rfl
  · split
    · simp only [stored]
    · simp only [stored]

end Transfers

namespace AlikeOn

variable {memory : Mem}

theorem found (alike : AlikeOn dev left right) (opened : left.files fd = some file)
    (own : file.privateData = dev) : right.files fd = some file := by
  rw [alike.files, opened, Option.filter_some, if_pos (isOf_iff.mpr own)]

/-- What happens to a descriptor that is not the device's stays on the left. -/
theorem setFile_hidden (alike : AlikeOn dev left right) (closed : right.files fd = none)
    (foreign : file.privateData ≠ dev)
    (untouched : ∀ index < (drv.pseudoDevData dev).size.toNat,
      memory ((drv.pseudoDevData dev).region.address index) = left.contents dev index)
    (inRange : State.InRange ({ left with memory }.setFile fd file)) :
    AlikeOn dev ({ left with memory }.setFile fd file) right where
  inRange := inRange
  files other := by
    by_cases here : other = fd
    · subst here
      rw [closed, setFile_self, Option.filter_some, if_neg (by simpa using foreign)]
    · rw [setFile_other _ _ here]
      exact alike.files other
  contents index within := (alike.contents index within).trans (untouched index within).symm

theorem setFile_shown (alike : AlikeOn dev left right) (own : file.privateData = dev) {memory other : Mem}
    (agree : ∀ index < (drv.pseudoDevData dev).size.toNat,
      other ((drv.pseudoDevData dev).region.address index) =
        memory ((drv.pseudoDevData dev).region.address index))
    (inRange : State.InRange ({ left with memory }.setFile fd file)) :
    AlikeOn dev ({ left with memory }.setFile fd file) ({ right with memory := other }.setFile fd file) where
  inRange := inRange
  files slot := by
    by_cases here : slot = fd
    · subst here
      rw [setFile_self, setFile_self, Option.filter_some, if_pos (isOf_iff.mpr own)]
    · rw [setFile_other _ _ here, setFile_other _ _ here]
      exact alike.files slot
  contents := agree

theorem closed (alike : AlikeOn dev left right)
    (foreign : (left.files fd).any (fun file => file.isOf dev) = false) : right.files fd = none := by
  rw [alike.files]
  cases opened : left.files fd with
  | none => rfl
  | some file =>
      rw [opened] at foreign
      rw [Option.filter_some, if_neg (by simpa using foreign)]

theorem release (alike : AlikeOn dev left right) (inRange : State.InRange (step left (.pseudoRelease fd)).1) :
    AlikeOn dev (step left (.pseudoRelease fd)).1 (step right (.pseudoRelease fd)).1 where
  inRange := inRange
  files slot := by
    by_cases here : slot = fd
    · simp [step, here]
    · simpa [step, here] using alike.files slot
  contents := alike.contents

/-- A call on another device changes nothing of this one. -/
theorem step_hidden (alike : AlikeOn dev left right) (call : Call drv)
    (foreign : concernsDevice dev left call = false) : AlikeOn dev (step left call).1 right := by
  have inRange := step_inRange left call alike.inRange
  cases call with
  | pseudoOpen fd minor fMode =>
      simp only [step] at inRange ⊢
      split at inRange
      · rename_i occupied
        rwa [if_pos occupied]
      · rename_i free
        rw [if_neg free]
        have absent : left.files fd = none := by simpa using free
        have other : minor ≠ dev := by simpa [concernsDevice, absent] using foreign
        split
        · rename_i granted
          rw [if_pos granted] at inRange
          have unopened : right.files fd = none := by rw [alike.files, absent, Option.filter_none]
          exact alike.setFile_hidden unopened other (fun index within => rfl) inRange
        · exact alike
  | pseudoLseek fd offset orig =>
      have unopened := alike.closed foreign
      cases found : left.files fd with
      | none => simpa only [step, found] using alike
      | some file =>
          have other : file.privateData ≠ dev := by simpa [concernsDevice, found] using foreign
          simp only [step, found] at inRange ⊢
          exact alike.setFile_hidden unopened other (fun index within => rfl) inRange
  | pseudoRead fd count fault =>
      have unopened := alike.closed foreign
      cases found : left.files fd with
      | none => simpa only [step, found] using alike
      | some file =>
          have other : file.privateData ≠ dev := by simpa [concernsDevice, found] using foreign
          simp only [step, found] at inRange ⊢
          exact alike.setFile_hidden unopened other (fun index within => rfl) inRange
  | pseudoWrite fd user count fault =>
      have unopened := alike.closed foreign
      cases found : left.files fd with
      | none => simpa only [step, found] using alike
      | some file =>
          have other : file.privateData ≠ dev := by simpa [concernsDevice, found] using foreign
          have untouched := pseudoWrite_elsewhere (alike.inRange fd file found) other left.memory user count fault
          simp only [step, found] at inRange ⊢
          exact alike.setFile_hidden unopened other untouched inRange
  | pseudoRelease fd =>
      have unopened := alike.closed foreign
      constructor
      · exact inRange
      · intro slot
        by_cases here : slot = fd
        · simp [step, here, unopened]
        · simpa [step, here] using alike.files slot
      · exact alike.contents

/-- A call on the device does the same on both sides. -/
theorem step_shown (alike : AlikeOn dev left right) (call : Call drv)
    (own : concernsDevice dev left call = true) :
    (step left call).2 = (step right call).2 ∧ AlikeOn dev (step left call).1 (step right call).1 := by
  have inRange := step_inRange left call alike.inRange
  cases call with
  | pseudoOpen fd minor fMode =>
      obtain ⟨absent, rfl⟩ : left.files fd = none ∧ minor = dev := by
        simpa [concernsDevice] using own
      have unopened : right.files fd = none := by rw [alike.files, absent, Option.filter_none]
      simp only [step, absent, unopened, Option.isSome_none, Bool.false_eq_true, if_false] at inRange ⊢
      split
      · rename_i granted
        rw [if_pos granted] at inRange
        exact ⟨rfl, alike.setFile_shown rfl alike.contents inRange⟩
      · exact ⟨rfl, alike⟩
  | pseudoLseek fd offset orig =>
      obtain ⟨file, found, rfl⟩ : ∃ file, left.files fd = some file ∧ file.privateData = dev := by
        simpa [concernsDevice, Option.any_eq_true] using own
      simp only [step, found, alike.found found rfl, true_and] at inRange ⊢
      apply alike.setFile_shown
      · rfl
      · exact alike.contents
      · exact inRange
  | pseudoRead fd count fault =>
      obtain ⟨file, found, rfl⟩ : ∃ file, left.files fd = some file ∧ file.privateData = dev := by
        simpa [concernsDevice, Option.any_eq_true] using own
      have equal := pseudoRead_congr (alike.inRange fd file found) alike.contents count fault
      simp only [step, found, alike.found found rfl, equal, true_and] at inRange ⊢
      apply alike.setFile_shown
      · rfl
      · exact alike.contents
      · exact inRange
  | pseudoWrite fd user count fault =>
      obtain ⟨file, found, rfl⟩ : ∃ file, left.files fd = some file ∧ file.privateData = dev := by
        simpa [concernsDevice, Option.any_eq_true] using own
      have inside := alike.inRange fd file found
      obtain ⟨ret, offset, touched⟩ :=
        pseudoWrite_congr inside right.memory left.memory user count fault
      have written := pseudoWrite_contents inside alike.contents user count fault
      simp only [step, found, alike.found found rfl, ret, offset, touched, true_and] at inRange ⊢
      apply alike.setFile_shown
      · rfl
      · exact written
      · exact inRange
  | pseudoRelease fd => exact ⟨rfl, alike.release inRange⟩

theorem permits (alike : AlikeOn dev left right) (call : Call drv)
    (own : concernsDevice dev left call = true) : vfsPermits right call = vfsPermits left call := by
  cases call with
  | pseudoRead fd count fault =>
      obtain ⟨file, found, rfl⟩ : ∃ file, left.files fd = some file ∧ file.privateData = dev := by
        simpa [concernsDevice, Option.any_eq_true] using own
      rw [vfsPermits, vfsPermits, found, alike.found found rfl]
  | pseudoWrite fd user count fault =>
      obtain ⟨file, found, rfl⟩ : ∃ file, left.files fd = some file ∧ file.privateData = dev := by
        simpa [concernsDevice, Option.any_eq_true] using own
      rw [vfsPermits, vfsPermits, found, alike.found found rfl]
  | pseudoOpen fd minor fMode => rfl
  | pseudoLseek fd offset orig => rfl
  | pseudoRelease fd => rfl

end AlikeOn

theorem devices_unwind (dev : Fin drv.noOfDevices) : Unwinds vfsStep (concernsDevice dev) (AlikeOn dev) where
  hidden := by
    intro left right call alike foreign
    rw [vfsStep]
    split
    · exact alike.step_hidden call foreign
    · exact alike
  shown := by
    intro left right call alike own
    rw [vfsStep, vfsStep, alike.permits call own]
    split
    · exact alike.step_shown call own
    · exact ⟨rfl, alike⟩

theorem boot_alikeOn {memory other : Mem} {dev : Fin drv.noOfDevices}
    (same : ∀ index < (drv.pseudoDevData dev).size.toNat,
      (boot drv other).contents dev index = (boot drv memory).contents dev index) :
    AlikeOn dev (boot drv memory) (boot drv other) where
  inRange := boot_inRange memory
  files _ := rfl
  contents := same

/-- What a run answers on one device, and the bytes and files it leaves there,
are those of a run that makes the calls on this device only and starts from
memory that need agree only on it. -/
theorem run_isolates_devices (drv : PseudoDrvData) (dev : Fin drv.noOfDevices) (memory other : Mem)
    (calls : List (Call drv))
    (same : ∀ index < (drv.pseudoDevData dev).size.toNat,
      (boot drv other).contents dev index = (boot drv memory).contents dev index) :
    answers vfsStep (boot drv other) (concerning vfsStep (concernsDevice dev) (boot drv memory) calls) =
        observed vfsStep (concernsDevice dev) (boot drv memory) calls ∧
      AlikeOn dev (stateAfter vfsStep (boot drv memory) calls)
        (stateAfter vfsStep (boot drv other)
          (concerning vfsStep (concernsDevice dev) (boot drv memory) calls)) :=
  (devices_unwind dev).run calls (boot_alikeOn same)

/-- A reader of the third device, while others write to the fourth, read past
its end and take the reader's descriptor. -/
def crossedCalls : List (Call (pseudoDrvData adjacentBuffers)) :=
  [.pseudoOpen 0 (2 : Fin NO_OF_DEVICES) FMODE_READ, .pseudoOpen 1 (3 : Fin NO_OF_DEVICES) FMODE_WRITE,
    .pseudoOpen 0 (3 : Fin NO_OF_DEVICES) FMODE_READ, .pseudoWrite 1 (fun _ => 7) 600 none,
    .pseudoRead 0 4 none, .pseudoWrite 1 (fun _ => 7) 1 none, .pseudoRelease 0]

theorem crossed_devices_isolated :
    answers vfsStep (boot (pseudoDrvData adjacentBuffers) secretMemory)
        (concerning vfsStep (concernsDevice (2 : Fin NO_OF_DEVICES))
          (boot (pseudoDrvData adjacentBuffers) fun _ => 0) crossedCalls) =
      observed vfsStep (concernsDevice (2 : Fin NO_OF_DEVICES))
        (boot (pseudoDrvData adjacentBuffers) fun _ => 0) crossedCalls ∧
    AlikeOn (2 : Fin NO_OF_DEVICES)
      (stateAfter vfsStep (boot (pseudoDrvData adjacentBuffers) fun _ => 0) crossedCalls)
      (stateAfter vfsStep (boot (pseudoDrvData adjacentBuffers) secretMemory)
        (concerning vfsStep (concernsDevice (2 : Fin NO_OF_DEVICES))
          (boot (pseudoDrvData adjacentBuffers) fun _ => 0) crossedCalls)) := by
  apply run_isolates_devices
  intro index within
  have separate : (2 : Fin NO_OF_DEVICES) ≠ 1 := by decide
  exact if_neg (((pseudoDrvData adjacentBuffers).apart _ _ separate).not_contains
    (Region.contains_address within))

end BbbLkm.PseudoN
