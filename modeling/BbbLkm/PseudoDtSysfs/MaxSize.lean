import BbbLkm.Kernel.Kstrtox
import BbbLkm.Kernel.Slab
import BbbLkm.PseudoDtSysfs.Probe

namespace BbbLkm.PseudoDtSysfs

open BbbLkm.Machine BbbLkm.Memory BbbLkm.Kernel BbbLkm.PseudoDt

/-- What of a bound device the sysfs file `max_size` works on: the blocks that
are recorded with the device, `pdata.size` and the buffer pointer. -/
structure BufferState where
  recorded : List Nat
  heap : Heap
  size : Int32
  buffer : Pointer

structure StoreCall where
  buf : CString
  count : Nat
  allocation : Allocation

def storeMaxSize (state : BufferState) (call : StoreCall) : BufferState × Except Errno Nat :=
  match kstrtol call.buf with
  | .error rc => (state, .error rc)
  | .ok result =>
      let size := Int32.ofInt result
      let reallocated := krealloc state.heap state.buffer size.toUInt32.toNat call.allocation
      ({ state with heap := reallocated.1, size, buffer := reallocated.2 }, .ok call.count)

namespace BufferState

/-- The buffer as the probe leaves it. -/
def start (pdev : Nat) (data : PseudoDevPrivateData) (world : World) : BufferState where
  recorded := world.devm.blocks pdev
  heap := {
    next := world.devm.next
    live := world.devm.live.map Prod.snd
    contents := fun block =>
      if .block block = data.buffer then List.replicate data.pdata.size.toUInt32.toNat 0 else []
    freed := []
    misused := []
    allocated := by
      intro block member
      obtain ⟨entry, present, same⟩ := List.mem_map.mp member
      exact same ▸ world.devm.allocated entry present
    distinct := world.devm.distinct }
  size := data.pdata.size
  buffer := data.buffer

/-- `pseudo_platform_driver_remove` does nothing to the buffer.  What is
recorded with the device is freed after it. -/
def remove (state : BufferState) : BufferState :=
  { state with heap := state.heap.freeAll state.recorded }

/-- What is freed after the driver's removal is what the core then reclaims. -/
theorem start_recorded_iff {pdev : Nat} {data : PseudoDevPrivateData} {world : World} {block : Nat} :
    block ∈ (start pdev data world).recorded ↔
      world.devm.Live block ∧
        ¬ (reclaim pdev (pseudoPlatformDriverRemove pdev data world)).devm.Live block := by
  have kept : (reclaim pdev (pseudoPlatformDriverRemove pdev data world)).devm =
      world.devm.reclaim pdev := rfl
  rw [kept, Managed.live_reclaim_iff, start]
  refine ⟨fun member => ?_, fun reclaimed => ?_⟩
  · have live : world.devm.Live block := ⟨pdev, Managed.mem_blocks.mp member⟩
    exact ⟨live, fun stays => stays.2 member⟩
  · by_contra unowned
    exact reclaimed.2 ⟨reclaimed.1, unowned⟩

end BufferState

/-- By the end of the run every block that was the device buffer at some time
has been freed once, and none was handed to an operation after that. -/
def FreedOnce (start : BufferState) (stores : List StoreCall) : Prop :=
  (∀ seen, seen <+: stores → ∀ block, (stateAfter storeMaxSize start seen).buffer = .block block →
    (stateAfter storeMaxSize start stores).remove.heap.freed.count block = 1) ∧
  (stateAfter storeMaxSize start stores).remove.heap.misused = []

/-- The store neither frees a buffer that is recorded with the device nor loses
one that is not. -/
def KeepsOwner (state : BufferState) (call : StoreCall) : Prop :=
  ∀ result, kstrtol call.buf = .ok result → ∀ block, state.buffer = .block block →
    (block ∈ state.recorded → result ≠ 0 ∧ ∀ filler, call.allocation ≠ .moved filler) ∧
    (block ∉ state.recorded → result ≠ 0 → call.allocation ≠ .failed)

/-- The buffer that the device is removed with is freed with the device. -/
def EndsRecorded (state : BufferState) : Prop :=
  ∀ block, state.buffer = .block block → block ∈ state.recorded

end BbbLkm.PseudoDtSysfs
