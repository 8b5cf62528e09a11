import BbbLkm.Machine.Managed
import BbbLkm.Memory.Heap

namespace BbbLkm.Kernel

open BbbLkm.Machine BbbLkm.Memory

inductive Pointer where
  | null
  /-- `ZERO_SIZE_PTR`, what an allocation of no bytes returns. -/
  | zeroSize
  | block (block : Nat)
deriving DecidableEq

/-- A `devm_kzalloc` that is granted, which records what it allocates. -/
def devmKzalloc (devm : Managed Nat) (pdev size : Nat) : Pointer × Managed Nat :=
  if size = 0 then (.zeroSize, devm) else (.block devm.next, devm.allocate pdev)

theorem devmKzalloc_grows {before devm : Managed Nat} {pdev : Nat} (size : Nat)
    (grows : before.Grows pdev devm) : before.Grows pdev (devmKzalloc devm pdev size).2 := by
  rw [devmKzalloc]
  split
  · exact grows
  · exact grows.allocate

theorem devmKzalloc_keeps {devm : Managed Nat} {pdev size : Nat} {entry : Nat × Nat}
    (member : entry ∈ devm.live) : entry ∈ (devmKzalloc devm pdev size).2.live :=
  (devmKzalloc_grows size (.refl pdev devm)).keeps entry member

/-- How an allocation ends.  The bytes that no old block gives are the
environment's. -/
inductive Allocation where
  | failed
  | inPlace (filler : Nat → UInt8)
  | moved (filler : Nat → UInt8)

def kfree (heap : Heap) : Pointer → Heap
  | .null => heap
  | .zeroSize => heap
  | .block block => heap.free block

/-- The common prefix of the old and the new contents is kept. -/
def regrown (old : List UInt8) (size : Nat) (filler : Nat → UInt8) : List UInt8 :=
  (List.range size).map fun index => old.getD index (filler index)

def kmalloc (heap : Heap) (size : Nat) : Allocation → Heap × Pointer
  | .failed => (heap, .null)
  | .inPlace filler => (heap.allocate (regrown [] size filler), .block heap.next)
  | .moved filler => (heap.allocate (regrown [] size filler), .block heap.next)

def krealloc (heap : Heap) (pointer : Pointer) (size : Nat) (allocation : Allocation) :
    Heap × Pointer :=
  if size = 0 then (kfree heap pointer, .zeroSize) else
  match pointer with
  | .null => kmalloc heap size allocation
  | .zeroSize => kmalloc heap size allocation
  | .block block =>
      match allocation with
      | .failed => (heap.inspect block, .null)
      | .inPlace filler =>
          ((heap.inspect block).fill block (regrown (heap.contents block) size filler), .block block)
      | .moved filler =>
          ((heap.allocate (regrown (heap.contents block) size filler)).free block, .block heap.next)

/-- What a `krealloc` can do to the heap and to the pointer it is given. -/
inductive Reallocated (heap : Heap) (size : Nat) : Pointer → Allocation → Heap × Pointer → Prop where
  | nothing (pointer : Pointer) (allocation : Allocation) : size = 0 →
      (∀ block, pointer ≠ .block block) →
      Reallocated heap size pointer allocation (heap, .zeroSize)
  | freed (block : Nat) (allocation : Allocation) : size = 0 →
      Reallocated heap size (.block block) allocation (heap.free block, .zeroSize)
  | refused (pointer : Pointer) : size ≠ 0 → (∀ block, pointer ≠ .block block) →
      Reallocated heap size pointer .failed (heap, .null)
  | created (pointer : Pointer) (allocation : Allocation) (bytes : List UInt8) : size ≠ 0 →
      (∀ block, pointer ≠ .block block) →
      Reallocated heap size pointer allocation (heap.allocate bytes, .block heap.next)
  | failed (block : Nat) : size ≠ 0 →
      Reallocated heap size (.block block) .failed (heap.inspect block, .null)
  | inPlace (block : Nat) (filler : Nat → UInt8) (bytes : List UInt8) : size ≠ 0 →
      Reallocated heap size (.block block) (.inPlace filler)
        ((heap.inspect block).fill block bytes, .block block)
  | moved (block : Nat) (filler : Nat → UInt8) (bytes : List UInt8) : size ≠ 0 →
      Reallocated heap size (.block block) (.moved filler)
        ((heap.allocate bytes).free block, .block heap.next)

variable {heap : Heap} {pointer : Pointer} {size : Nat} {allocation : Allocation}

theorem kmalloc_outcome (sized : size ≠ 0) (nowhere : ∀ block, pointer ≠ .block block) :
    Reallocated heap size pointer allocation (kmalloc heap size allocation) := by
  cases allocation with
  | failed => exact .refused pointer sized nowhere
  | inPlace filler => exact .created pointer _ _ sized nowhere
  | moved filler => exact .created pointer _ _ sized nowhere

theorem krealloc_outcome :
    Reallocated heap size pointer allocation (krealloc heap pointer size allocation) := by
  unfold krealloc
  split
  · rename_i empty
    cases pointer with
    | null => exact .nothing _ _ empty nofun
    | zeroSize => exact .nothing _ _ empty nofun
    | block block => exact .freed block _ empty
  · rename_i sized
    cases pointer with
    | null => exact kmalloc_outcome sized nofun
    | zeroSize => exact kmalloc_outcome sized nofun
    | block block =>
        cases allocation with
        | failed => exact .failed block sized
        | inPlace filler => exact .inPlace block filler _ sized
        | moved filler => exact .moved block filler _ sized

/-- The bytes behind a pointer. -/
def Pointer.bytes (heap : Heap) : Pointer → List UInt8
  | .null => []
  | .zeroSize => []
  | .block address => heap.contents address

/-- The pointer is one that an allocation returned and that has not been freed. -/
def Pointer.Valid (heap : Heap) : Pointer → Prop
  | .null => False
  | .zeroSize => True
  | .block address => address ∈ heap.live

@[simp] theorem length_regrown (old : List UInt8) (size : Nat) (filler : Nat → UInt8) :
    (regrown old size filler).length = size := by
  simp [regrown]

theorem regrown_kept {old : List UInt8} {size index : Nat} (filler : Nat → UInt8)
    (within : index < size) (kept : index < old.length) :
    (regrown old size filler)[index]? = old[index]? := by
  simp [regrown, List.getElem?_range within, List.getElem?_eq_getElem kept, List.getD_eq_getElem?_getD]

/-- A buffer of the size asked for that starts as the old one did. -/
structure Regrows (heap : Heap) (pointer : Pointer) (size : Nat) (result : Heap × Pointer) : Prop where
  valid : result.2.Valid result.1
  length : (result.2.bytes result.1).length = size
  kept : ∀ index < size, index < (pointer.bytes heap).length →
    (result.2.bytes result.1)[index]? = (pointer.bytes heap)[index]?

theorem contents_allocate (heap : Heap) (bytes : List UInt8) :
    (heap.allocate bytes).contents heap.next = bytes := if_pos rfl

theorem kmalloc_regrows (empty : pointer.bytes heap = []) (granted : allocation ≠ .failed) :
    Regrows heap pointer size (kmalloc heap size allocation) := by
  have nothing : (pointer.bytes heap).length = 0 := by rw [empty, List.length_nil]
  cases allocation with
  | failed => exact absurd rfl granted
  | inPlace filler =>
      refine ⟨List.mem_cons_self, ?_, fun index _ older => by omega⟩
      exact (congrArg List.length (contents_allocate heap _)).trans (length_regrown [] size filler)
  | moved filler =>
      refine ⟨List.mem_cons_self, ?_, fun index _ older => by omega⟩
      exact (congrArg List.length (contents_allocate heap _)).trans (length_regrown [] size filler)

/-- A `krealloc` that is not refused. -/
theorem krealloc_regrows (old : ∀ block, pointer = .block block → block ∈ heap.live)
    (granted : size ≠ 0 → allocation ≠ .failed) :
    Regrows heap pointer size (krealloc heap pointer size allocation) := by
  unfold krealloc
  split
  · rename_i empty
    exact ⟨trivial, empty.symm, fun index within => by omega⟩
  · rename_i sized
    cases pointer with
    | null => exact kmalloc_regrows rfl (granted sized)
    | zeroSize => exact kmalloc_regrows rfl (granted sized)
    | block address =>
        have live := old address rfl
        cases allocation with
        | failed => exact absurd rfl (granted sized)
        | inPlace filler =>
            have bytes : ((heap.inspect address).fill address
                (regrown (heap.contents address) size filler)).contents address =
                  regrown (heap.contents address) size filler := if_pos rfl
            refine ⟨live, ?_, fun index within kept => ?_⟩
            · exact (congrArg List.length bytes).trans (length_regrown _ size filler)
            · exact (congrArg (·[index]?) bytes).trans (regrown_kept filler within kept)
        | moved filler =>
            have older := heap.allocated address live
            have bytes := contents_allocate heap (regrown (heap.contents address) size filler)
            refine ⟨?_, ?_, fun index within kept => ?_⟩
            · exact Heap.mem_live_free.mpr ⟨by omega, List.mem_cons_self⟩
            · exact (congrArg List.length bytes).trans (length_regrown _ size filler)
            · exact (congrArg (·[index]?) bytes).trans (regrown_kept filler within kept)

theorem krealloc_failed (sized : size ≠ 0) : (krealloc heap pointer size .failed).2 = .null := by
  unfold krealloc
  rw [if_neg sized]
  cases pointer with
  | null => rfl
  | zeroSize => rfl
  | block address => rfl

end BbbLkm.Kernel
