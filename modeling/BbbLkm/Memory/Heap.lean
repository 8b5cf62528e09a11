import Mathlib.Data.List.Nodup

namespace BbbLkm.Memory

/-- Blocks are numbered in the order of allocation and a number is never used
again.  `freed` records the blocks handed to a free, and `misused` those that an
operation is handed while they are not live. -/
structure Heap where
  next : Nat
  live : List Nat
  contents : Nat → List UInt8
  freed : List Nat
  misused : List Nat
  allocated : ∀ block ∈ live, block < next
  distinct : live.Nodup

namespace Heap

variable {heap : Heap} {block other : Nat} {bytes : List UInt8}

theorem next_not_live (heap : Heap) : heap.next ∉ heap.live := fun live =>
  absurd (heap.allocated heap.next live) (Nat.lt_irrefl _)

/-- A new block, which is the `next` one. -/
def allocate (heap : Heap) (bytes : List UInt8) : Heap where
  next := heap.next + 1
  live := heap.next :: heap.live
  contents block := if block = heap.next then bytes else heap.contents block
  freed := heap.freed
  misused := heap.misused
  allocated := by
    intro block member
    rcases List.mem_cons.mp member with same | older
    · subst same
      exact Nat.lt_succ_self _
    · exact Nat.lt_succ_of_lt (heap.allocated block older)
  distinct := List.nodup_cons.mpr ⟨heap.next_not_live, heap.distinct⟩

/-- An operation other than a free is handed the block. -/
def inspect (heap : Heap) (block : Nat) : Heap :=
  { heap with misused := if block ∈ heap.live then heap.misused else block :: heap.misused }

def fill (heap : Heap) (block : Nat) (bytes : List UInt8) : Heap :=
  { heap with contents := fun other => if other = block then bytes else heap.contents other }

def free (heap : Heap) (block : Nat) : Heap where
  next := heap.next
  live := heap.live.erase block
  contents := heap.contents
  freed := block :: heap.freed
  misused := if block ∈ heap.live then heap.misused else block :: heap.misused
  allocated other member := heap.allocated other (List.mem_of_mem_erase member)
  distinct := heap.distinct.erase block

def freeAll (heap : Heap) (blocks : List Nat) : Heap := blocks.foldl free heap

@[simp] theorem live_allocate : (heap.allocate bytes).live = heap.next :: heap.live := rfl

@[simp] theorem mem_live_free : other ∈ (heap.free block).live ↔ other ≠ block ∧ other ∈ heap.live :=
  heap.distinct.mem_erase_iff

@[simp] theorem freed_free : (heap.free block).freed = block :: heap.freed := rfl

theorem freed_freeAll (heap : Heap) (blocks : List Nat) :
    (heap.freeAll blocks).freed = blocks.reverse ++ heap.freed := by
  induction blocks generalizing heap with
  | nil => rfl
  | cons block rest ih =>
      have later := ih (heap.free block)
      rw [freed_free] at later
      rw [freeAll, List.foldl_cons, ← freeAll, later, List.reverse_cons, List.append_assoc]
      rfl

/-- No block has been freed twice, and none has been used after it was freed. -/
structure Tidy (heap : Heap) : Prop where
  misused : heap.misused = []
  once : heap.freed.Nodup
  gone : ∀ block ∈ heap.freed, block ∉ heap.live
  known : ∀ block ∈ heap.freed, block < heap.next

theorem Tidy.allocate (tidy : heap.Tidy) (bytes : List UInt8) : (heap.allocate bytes).Tidy where
  misused := tidy.misused
  once := tidy.once
  gone block freed := by
    have older := tidy.known block freed
    have gone := tidy.gone block freed
    rw [live_allocate, List.mem_cons]
    rintro (same | live)
    · omega
    · exact gone live
  known block freed := Nat.lt_succ_of_lt (tidy.known block freed)

theorem Tidy.inspect (tidy : heap.Tidy) (live : block ∈ heap.live) : (heap.inspect block).Tidy where
  misused := (if_pos live).trans tidy.misused
  once := tidy.once
  gone := tidy.gone
  known := tidy.known

theorem Tidy.fill (tidy : heap.Tidy) (block : Nat) (bytes : List UInt8) :
    (heap.fill block bytes).Tidy where
  misused := tidy.misused
  once := tidy.once
  gone := tidy.gone
  known := tidy.known

theorem Tidy.free (tidy : heap.Tidy) (live : block ∈ heap.live) : (heap.free block).Tidy where
  misused := (if_pos live).trans tidy.misused
  once := List.nodup_cons.mpr ⟨fun freed => tidy.gone block freed live, tidy.once⟩
  gone other freed := by
    rw [mem_live_free]
    rintro ⟨apart, stays⟩
    rcases List.mem_cons.mp freed with same | older
    · exact apart same
    · exact tidy.gone other older stays
  known other freed := by
    rcases List.mem_cons.mp freed with same | older
    · subst same
      exact heap.allocated other live
    · exact tidy.known other older

theorem Tidy.freeAll {blocks : List Nat} (tidy : heap.Tidy) (distinct : blocks.Nodup)
    (live : ∀ block ∈ blocks, block ∈ heap.live) : (heap.freeAll blocks).Tidy := by
  induction blocks generalizing heap with
  | nil => exact tidy
  | cons block rest ih =>
      obtain ⟨fresh, distinct⟩ := List.nodup_cons.mp distinct
      apply ih (tidy.free (live block (by simp))) distinct
      intro other member
      have apart : other ≠ block := fun same => fresh (same ▸ member)
      exact mem_live_free.mpr ⟨apart, live other (by simp [member])⟩

end Heap

end BbbLkm.Memory
