import BbbLkm.PseudoDtSysfs.MaxSize

namespace BbbLkm.PseudoDtSysfs

open BbbLkm.Machine BbbLkm.Memory BbbLkm.Kernel BbbLkm.PseudoDt

variable {state : BufferState} {call : StoreCall} {block : Nat}

theorem eq_zero_of_toNat {size : Int32} (zero : size.toUInt32.toNat = 0) : size = 0 := by
  have same : size.toUInt32 = 0 := UInt32.toNat_inj.mp zero
  rw [← Int32.toInt32_toUInt32 size, same]
  rfl

theorem size_eq_zero_iff {result : Int} (range : -2 ^ 31 ≤ result ∧ result < 2 ^ 31) :
    (Int32.ofInt result).toUInt32.toNat = 0 ↔ result = 0 := by
  have back : (Int32.ofInt result).toInt = result :=
    Int32.toInt_ofInt_of_le range.1 range.2
  apply Iff.intro
  · intro zero
    rw [← back, eq_zero_of_toNat zero]
    rfl
  · rintro rfl
    rfl

/-- What a store can do to the buffer: nothing, or one `krealloc` of it. -/
inductive Stored (state : BufferState) (call : StoreCall) : BufferState → Prop where
  | rejected (rc : Errno) : kstrtol call.buf = .error rc → Stored state call state
  | resized (result : Int) (size : Nat) (stored : Int32) (after : Heap × Pointer) :
      kstrtol call.buf = .ok result → (size = 0 ↔ result = 0) →
      Reallocated state.heap size state.buffer call.allocation after →
      Stored state call { state with heap := after.1, size := stored, buffer := after.2 }

theorem storeMaxSize_stored (state : BufferState) (call : StoreCall) :
    Stored state call (storeMaxSize state call).1 := by
  cases parsed : kstrtol call.buf with
  | error rc =>
      simp only [storeMaxSize, parsed]
      exact .rejected rc parsed
  | ok result =>
      simp only [storeMaxSize, parsed]
      exact .resized result _ _ _ parsed (size_eq_zero_iff (kstrtol_range parsed)) krealloc_outcome

structure Sound (state : BufferState) : Prop where
  tidy : state.heap.Tidy
  recorded : ∀ block ∈ state.recorded, block ∈ state.heap.live
  distinct : state.recorded.Nodup
  buffer : ∀ block, state.buffer = .block block → block ∈ state.heap.live

/-- The block is the buffer, or it has been freed or will be with the device. -/
def Accounted (block : Nat) (state : BufferState) : Prop :=
  block ∈ state.recorded ∨ state.buffer = .block block ∨ block ∈ state.heap.freed

/-- Nothing leads to the block any more, and it has not been freed. -/
structure Lost (block : Nat) (state : BufferState) : Prop where
  unrecorded : block ∉ state.recorded
  old : block < state.heap.next
  unfreed : block ∉ state.heap.freed
  buffer : state.buffer ≠ .block block

theorem store_recorded : (storeMaxSize state call).1.recorded = state.recorded := by
  have outcome := storeMaxSize_stored state call
  generalize (storeMaxSize state call).1 = after at outcome
  cases outcome with
  | rejected => rfl
  | resized => rfl

theorem store_freed (freed : block ∈ state.heap.freed) :
    block ∈ (storeMaxSize state call).1.heap.freed := by
  have outcome := storeMaxSize_stored state call
  generalize (storeMaxSize state call).1 = after at outcome
  cases outcome with
  | rejected => exact freed
  | resized result size stored after parsed zero reallocated =>
      generalize state.buffer = pointer at reallocated
      generalize call.allocation = allocation at reallocated
      cases reallocated with
      | nothing => exact freed
      | freed other _ _ => exact List.mem_cons_of_mem other freed
      | refused => exact freed
      | created => exact freed
      | failed => exact freed
      | inPlace => exact freed
      | moved other _ _ _ => exact List.mem_cons_of_mem other freed

theorem store_sound (sound : Sound state) (keeps : KeepsOwner state call) :
    Sound (storeMaxSize state call).1 := by
  have outcome := storeMaxSize_stored state call
  generalize (storeMaxSize state call).1 = after at outcome
  cases outcome with
  | rejected => exact sound
  | resized result size stored after parsed zero reallocated =>
      have keeps := keeps result parsed
      generalize held : state.buffer = pointer at reallocated keeps
      generalize call.allocation = allocation at reallocated keeps
      cases reallocated with
      | nothing => exact ⟨sound.tidy, sound.recorded, sound.distinct, nofun⟩
      | refused => exact ⟨sound.tidy, sound.recorded, sound.distinct, nofun⟩
      | freed block _ empty =>
          have unrecorded : block ∉ state.recorded := fun recorded =>
            ((keeps block rfl).1 recorded).1 (zero.mp empty)
          refine ⟨sound.tidy.free (sound.buffer block held), ?_, sound.distinct, nofun⟩
          intro other member
          have apart : other ≠ block := fun same => unrecorded (same ▸ member)
          exact Heap.mem_live_free.mpr ⟨apart, sound.recorded other member⟩
      | created _ _ bytes _ _ =>
          refine ⟨sound.tidy.allocate bytes, ?_, sound.distinct, ?_⟩
          · intro other member
            exact List.mem_cons_of_mem _ (sound.recorded other member)
          · rintro block ⟨⟩
            exact List.mem_cons_self
      | failed block _ =>
          exact ⟨sound.tidy.inspect (sound.buffer block held), sound.recorded, sound.distinct, nofun⟩
      | inPlace block filler bytes _ =>
          have live := sound.buffer block held
          refine ⟨(sound.tidy.inspect live).fill block bytes, sound.recorded, sound.distinct, ?_⟩
          rintro other ⟨⟩
          exact live
      | moved block filler bytes _ =>
          have live := sound.buffer block held
          have unrecorded : block ∉ state.recorded := fun recorded =>
            ((keeps block rfl).1 recorded).2 filler rfl
          have older := state.heap.allocated block live
          refine ⟨(sound.tidy.allocate bytes).free (List.mem_cons_of_mem _ live), ?_,
            sound.distinct, ?_⟩
          · intro other member
            have apart : other ≠ block := fun same => unrecorded (same ▸ member)
            have stays := List.mem_cons_of_mem state.heap.next (sound.recorded other member)
            exact Heap.mem_live_free.mpr ⟨apart, stays⟩
          · rintro other ⟨⟩
            exact Heap.mem_live_free.mpr ⟨by omega, List.mem_cons_self⟩

theorem store_accounted (keeps : KeepsOwner state call) (accounted : Accounted block state) :
    Accounted block (storeMaxSize state call).1 := by
  rcases accounted with recorded | buffer | freed
  · exact Or.inl (store_recorded.symm ▸ recorded)
  · by_cases recorded : block ∈ state.recorded
    · exact Or.inl (store_recorded.symm ▸ recorded)
    · -- a buffer that is not recorded stays the buffer or is freed
      have outcome := storeMaxSize_stored state call
      generalize (storeMaxSize state call).1 = after at outcome
      cases outcome with
      | rejected => exact Or.inr (Or.inl buffer)
      | resized result size stored after parsed zero reallocated =>
          have held := (keeps result parsed block buffer).2 recorded
          rw [buffer] at reallocated
          generalize call.allocation = allocation at reallocated held
          cases reallocated with
          | nothing _ _ _ nowhere => exact absurd rfl (nowhere block)
          | refused _ _ nowhere => exact absurd rfl (nowhere block)
          | created _ _ _ _ nowhere => exact absurd rfl (nowhere block)
          | freed => exact Or.inr (Or.inr List.mem_cons_self)
          | failed _ sized => exact absurd rfl (held (fun none => sized (zero.mpr none)))
          | inPlace => exact Or.inr (Or.inl rfl)
          | moved => exact Or.inr (Or.inr List.mem_cons_self)
  · exact Or.inr (Or.inr (store_freed freed))

theorem store_lost (lost : Lost block state) : Lost block (storeMaxSize state call).1 := by
  have outcome := storeMaxSize_stored state call
  generalize (storeMaxSize state call).1 = after at outcome
  obtain ⟨unrecorded, old, unfreed, apart⟩ := lost
  cases outcome with
  | rejected => exact ⟨unrecorded, old, unfreed, apart⟩
  | resized result size stored after parsed zero reallocated =>
      have fresh : state.heap.next ≠ block := by omega
      generalize state.buffer = pointer at reallocated apart
      generalize call.allocation = allocation at reallocated
      cases reallocated with
      | nothing => exact ⟨unrecorded, old, unfreed, nofun⟩
      | refused => exact ⟨unrecorded, old, unfreed, nofun⟩
      | failed => exact ⟨unrecorded, old, unfreed, nofun⟩
      | inPlace => exact ⟨unrecorded, old, unfreed, apart⟩
      | created =>
          exact ⟨unrecorded, Nat.lt_succ_of_lt old, unfreed, fun same => fresh (Pointer.block.inj same)⟩
      | freed other _ _ =>
          have other_ne : block ≠ other := fun same => apart (same ▸ rfl)
          exact ⟨unrecorded, old, List.not_mem_cons_of_ne_of_not_mem other_ne unfreed, nofun⟩
      | moved other _ _ _ =>
          have other_ne : block ≠ other := fun same => apart (same ▸ rfl)
          exact ⟨unrecorded, Nat.lt_succ_of_lt old, List.not_mem_cons_of_ne_of_not_mem other_ne unfreed,
            fun same => fresh (Pointer.block.inj same)⟩

variable {stores : List StoreCall}

theorem stores_recorded : (stateAfter storeMaxSize state stores).recorded = state.recorded := by
  have kept : ∀ after call, after.recorded = state.recorded →
      (storeMaxSize after call).1.recorded = state.recorded :=
    fun _ _ same => store_recorded.trans same
  exact invariant_run kept rfl

theorem stores_freed (freed : block ∈ state.heap.freed) :
    block ∈ (stateAfter storeMaxSize state stores).heap.freed := by
  have kept : ∀ after call, block ∈ after.heap.freed →
      block ∈ (storeMaxSize after call).1.heap.freed :=
    fun _ _ member => store_freed member
  exact invariant_run kept freed

theorem freed_remove (state : BufferState) :
    state.remove.heap.freed = state.recorded.reverse ++ state.heap.freed :=
  Heap.freed_freeAll _ _

theorem tidy_remove (sound : Sound state) : state.remove.heap.Tidy :=
  sound.tidy.freeAll sound.distinct sound.recorded

theorem stores_sound (sound : Sound state) (along : Along storeMaxSize KeepsOwner state stores) :
    Sound (stateAfter storeMaxSize state stores) :=
  invariant_along (fun _ _ sound keeps => store_sound sound keeps) sound along

theorem stores_accounted {seen : List StoreCall} (along : Along storeMaxSize KeepsOwner state stores)
    (started : seen <+: stores) (used : (stateAfter storeMaxSize state seen).buffer = .block block) :
    Accounted block (stateAfter storeMaxSize state stores) := by
  induction stores generalizing state seen with
  | nil =>
      rw [List.prefix_nil.mp started] at used
      exact Or.inr (Or.inl used)
  | cons call rest ih =>
      rcases List.prefix_cons_iff.mp started with rfl | ⟨later, rfl, within⟩
      · have now : Accounted block state := Or.inr (Or.inl used)
        exact invariant_along (fun _ _ accounted keeps => store_accounted keeps accounted) now along
      · exact ih along.2 within used

theorem freedOnce_of_along (sound : Sound state) (along : Along storeMaxSize KeepsOwner state stores)
    (ends : EndsRecorded (stateAfter storeMaxSize state stores)) : FreedOnce state stores := by
  have tidy := tidy_remove (stores_sound sound along)
  refine ⟨fun seen started block used => ?_, tidy.misused⟩
  have accounted := stores_accounted along started used
  have freed : block ∈ (stateAfter storeMaxSize state stores).remove.heap.freed := by
    rw [freed_remove, List.mem_append, List.mem_reverse]
    rcases accounted with recorded | buffer | freed
    · exact Or.inl recorded
    · exact Or.inl (ends block buffer)
    · exact Or.inr freed
  exact List.count_eq_one_of_mem tidy.once freed

/-- A recorded block that a store has freed is freed again with the device. -/
theorem count_of_freed_recorded (recorded : block ∈ state.recorded) (freed : block ∈ state.heap.freed) :
    (stateAfter storeMaxSize state stores).remove.heap.freed.count block ≠ 1 := by
  have first : 0 < (stateAfter storeMaxSize state stores).heap.freed.count block :=
    List.count_pos_iff.mpr (stores_freed freed)
  have second : 0 < state.recorded.reverse.count block :=
    List.count_pos_iff.mpr (List.mem_reverse.mpr recorded)
  rw [freed_remove, stores_recorded, List.count_append]
  omega

theorem count_of_lost (lost : Lost block state) :
    (stateAfter storeMaxSize state stores).remove.heap.freed.count block ≠ 1 := by
  have still : Lost block (stateAfter storeMaxSize state stores) :=
    invariant_run (fun _ _ lost => store_lost lost) lost
  have absent : block ∉ (stateAfter storeMaxSize state stores).remove.heap.freed := by
    rw [freed_remove, List.mem_append, List.mem_reverse, not_or]
    exact ⟨still.unrecorded, still.unfreed⟩
  rw [List.count_eq_zero.mpr absent]
  exact Nat.zero_ne_one

/-- A store that does not keep its owner frees a recorded buffer or loses an
unrecorded one. -/
theorem broken_of_not_keeps (sound : Sound state) (breaks : ¬ KeepsOwner state call) :
    ∃ block, state.buffer = .block block ∧
      ((block ∈ (storeMaxSize state call).1.recorded ∧
          block ∈ (storeMaxSize state call).1.heap.freed) ∨
        Lost block (storeMaxSize state call).1) := by
  simp only [KeepsOwner, not_forall] at breaks
  obtain ⟨result, parsed, block, buffer, breaks⟩ := breaks
  have zero := size_eq_zero_iff (kstrtol_range parsed)
  have live := sound.buffer block buffer
  refine ⟨block, buffer, ?_⟩
  simp only [storeMaxSize, parsed, buffer, krealloc]
  by_cases recorded : block ∈ state.recorded
  · refine Or.inl ⟨recorded, ?_⟩
    by_cases none : result = 0
    · rw [if_pos (zero.mpr none)]
      exact List.mem_cons_self
    · rw [if_neg (fun empty => none (zero.mp empty))]
      cases moves : call.allocation with
      | failed => simp [recorded, none, moves] at breaks
      | inPlace filler => simp [recorded, none, moves] at breaks
      | moved filler => exact List.mem_cons_self
  · apply Or.inr
    have lost : result ≠ 0 ∧ call.allocation = .failed := by simpa [recorded] using breaks
    rw [if_neg (fun empty => lost.1 (zero.mp empty)), lost.2]
    exact ⟨recorded, state.heap.allocated block live,
      fun freed => sound.tidy.gone block freed live, nofun⟩

theorem along_of_freedOnce (sound : Sound state) (freedOnce : FreedOnce state stores) :
    Along storeMaxSize KeepsOwner state stores ∧
      EndsRecorded (stateAfter storeMaxSize state stores) := by
  induction stores generalizing state with
  | nil =>
      refine ⟨trivial, fun block buffer => ?_⟩
      have once := freedOnce.1 [] (List.prefix_refl _) block buffer
      have freed : block ∈ state.remove.heap.freed := List.count_pos_iff.mp (once.symm ▸ Nat.one_pos)
      rw [freed_remove, List.mem_append, List.mem_reverse] at freed
      exact freed.resolve_right fun freed => sound.tidy.gone block freed (sound.buffer block buffer)
  | cons call rest ih =>
      have keeps : KeepsOwner state call := by
        by_contra breaks
        obtain ⟨block, buffer, twice | lost⟩ := broken_of_not_keeps sound breaks
        · exact count_of_freed_recorded twice.1 twice.2 (freedOnce.1 [] List.nil_prefix block buffer)
        · exact count_of_lost lost (freedOnce.1 [] List.nil_prefix block buffer)
      have later := ih (store_sound sound keeps) ⟨fun seen started block used =>
        freedOnce.1 (call :: seen) (List.cons_prefix_cons.mpr ⟨rfl, started⟩) block used, freedOnce.2⟩
      exact ⟨⟨keeps, later.1⟩, later.2⟩

section Probed

variable {pdev : Nat} {device : PlatformDevice} {calls : SysfsProbeCalls} {world after : World}
  {data : PseudoDevPrivateData}

/-- The buffer of a bound device is recorded with the device, if it is a block. -/
theorem probe_buffer_owned
    (probed : pseudoPlatformDriverProbe pdev device calls world = (.ok data, after)) :
    (data.pdata.size = 0 ∧ data.buffer = .zeroSize) ∨
      ∃ block, data.buffer = .block block ∧ (pdev, block) ∈ after.devm.live := by
  obtain ⟨_, devm, _, obtained⟩ := probeDevice_ok (probeDevice_of_probe probed)
  rw [devmKzalloc] at obtained
  split at obtained
  · rename_i empty
    obtain ⟨buffer, _⟩ := Prod.mk.inj obtained
    exact Or.inl ⟨eq_zero_of_toNat empty, buffer⟩
  · obtain ⟨buffer, grown⟩ := Prod.mk.inj obtained
    exact Or.inr ⟨_, buffer, grown ▸ Managed.mem_allocate.mpr (Or.inl ⟨rfl, rfl⟩)⟩

theorem sound_start
    (probed : pseudoPlatformDriverProbe pdev device calls world = (.ok data, after)) :
    Sound (.start pdev data after) where
  tidy := ⟨rfl, List.nodup_nil, nofun, nofun⟩
  recorded := by
    intro block member
    exact List.mem_map.mpr ⟨_, Managed.mem_blocks.mp member, rfl⟩
  distinct := after.devm.nodup_blocks pdev
  buffer := by
    intro block buffer
    have held : data.buffer = .block block := buffer
    rcases probe_buffer_owned probed with ⟨_, none⟩ | ⟨other, some, owned⟩
    · cases none.symm.trans held
    · cases some.symm.trans held
      exact List.mem_map.mpr ⟨_, owned, rfl⟩

/-- A run frees every buffer once exactly when no store frees a recorded buffer
or loses an unrecorded one, and the last buffer is not an unrecorded one. -/
theorem run_frees_once_iff (stores : List StoreCall)
    (probed : pseudoPlatformDriverProbe pdev device calls world = (.ok data, after)) :
    FreedOnce (.start pdev data after) stores ↔
      Along storeMaxSize KeepsOwner (.start pdev data after) stores ∧
        EndsRecorded (stateAfter storeMaxSize (.start pdev data after) stores) := by
  apply Iff.intro
  · intro freedOnce
    exact along_of_freedOnce (sound_start probed) freedOnce
  · intro conditions
    exact freedOnce_of_along (sound_start probed) conditions.1 conditions.2

end Probed

/-- What the probe of `pcdev1` as device 1 makes. -/
def pcdev1Data : PseudoDevPrivateData where
  address := 1
  pdata := { size := 512, perm := 0x11, serialNumber := ⟨[80, 83, 69, 85, 68, 79, 95, 49], pcdev1_serial_noNul⟩ }
  buffer := .block 2
  devNum := 100

def pcdev1World : World := (pseudoPlatformDriverProbe 1 pcdev1 .succeeding (loaded 100)).2

theorem pcdev1_probed :
    pseudoPlatformDriverProbe 1 pcdev1 .succeeding (loaded 100) = (.ok pcdev1Data, pcdev1World) := rfl

/-- "2000" and a newline. -/
def storeTwoThousand (allocation : Allocation) : StoreCall where
  buf := ⟨[50, 48, 48, 48, 10], by decide⟩
  count := 5
  allocation := allocation

theorem buffer_grown_in_place_freed_once :
    FreedOnce (.start 1 pcdev1Data pcdev1World) [storeTwoThousand (.inPlace fun _ => 0)] := by
  refine (run_frees_once_iff _ pcdev1_probed).mpr ⟨⟨?_, trivial⟩, ?_⟩
  · intro result parsed block _
    have value : 2000 = result :=
      Except.ok.inj ((by decide : kstrtol (storeTwoThousand .failed).buf = .ok 2000).symm.trans parsed)
    subst value
    exact ⟨fun _ => ⟨by decide, nofun⟩, fun _ _ => nofun⟩
  · rintro block ⟨⟩
    exact List.mem_cons_self

theorem moved_buffer_freed_twice :
    ¬ ∀ (pdev : Nat) (device : PlatformDevice) (calls : SysfsProbeCalls) (world after : World)
        (data : PseudoDevPrivateData) (stores : List StoreCall),
      pseudoPlatformDriverProbe pdev device calls world = (.ok data, after) →
        FreedOnce (.start pdev data after) stores := by
  intro claimed
  have freedOnce := claimed 1 pcdev1 .succeeding (loaded 100) pcdev1World pcdev1Data
    [storeTwoThousand (.moved fun _ => 0)]
    pcdev1_probed
  exact absurd (freedOnce.1 [] List.nil_prefix 2 rfl) (by decide)

end BbbLkm.PseudoDtSysfs
