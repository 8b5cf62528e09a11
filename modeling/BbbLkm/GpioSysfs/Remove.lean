import BbbLkm.GpioSysfs.Loop

namespace BbbLkm.GpioSysfs

open BbbLkm.Machine BbbLkm.Kernel

variable {pdev : Nat} {children : List ChildNode} {calls : ProbeCalls} {world after : World}

section Entry

def entered (pdev : Nat) (children : List ChildNode) (calls : ProbeCalls) (world : World) : World :=
  allocateArray pdev calls.arrayAllocated { world with totalDevices := children.length }

/-- A probe for a node with children is its loop over them. -/
theorem probe_eq_loop (nonempty : children ≠ []) : gpioSysfsProbe pdev children calls world =
    probeChildren pdev calls.child children 0 0 (entered pdev children calls world) := by
  have positive : children.length ≠ 0 := fun zero => nonempty (List.length_eq_zero_iff.mp zero)
  simp only [gpioSysfsProbe, if_neg positive]
  rfl

theorem probe_outcome (nonempty : children ≠ []) :
    LoopOutcome pdev calls.child children 0 (entered pdev children calls world)
      (gpioSysfsProbe pdev children calls world) := by
  rw [probe_eq_loop nonempty]
  exact (probeChildren_run _ _ _ _ _ _).outcome

theorem entered_frame : (entered pdev children calls world).devices = world.devices ∧
    (entered pdev children calls world).nextDevice = world.nextDevice ∧
    (entered pdev children calls world).unregistered = world.unregistered ∧
    (entered pdev children calls world).totalDevices = children.length := by
  cases allocated : calls.arrayAllocated <;> simp [entered, allocateArray, allocated]

theorem entered_array (allocated : calls.arrayAllocated = true) :
    (entered pdev children calls world).dev =
        .array world.devm.next (List.replicate children.length .null) ∧
      (pdev, world.devm.next) ∈ (entered pdev children calls world).devm.live := by
  simp [entered, allocateArray, allocated]

theorem entered_null (missing : calls.arrayAllocated = false) :
    (entered pdev children calls world).dev = .null := by
  simp [entered, allocateArray, missing]

end Entry

section Slots

theorem removalSlots_length (world : World) : (removalSlots world).length = world.totalDevices := by
  simp [removalSlots]

theorem removalSlots_array {block : Nat} {slots : List DevicePointer} (held : world.dev = .array block slots)
    (live : (pdev, block) ∈ world.devm.live) (length : slots.length = world.totalDevices) :
    removalSlots world = slots := by
  have found : (world.devm.live.any fun entry => entry.2 = block) = true :=
    List.any_eq_true.mpr ⟨_, live, by simp⟩
  apply List.ext_getElem (by rw [removalSlots_length, length])
  intro index _ bound
  simp only [removalSlots, List.getElem_map, List.getElem_range, readSlot, held, found, if_true,
    List.getD_eq_getElem?_getD, List.getElem?_eq_getElem bound, Option.getD_some]

theorem foldl_deviceUnregister (pointers : List DevicePointer) (world : World) :
    pointers.foldl deviceUnregister world = { world with
      devices := world.devices.filter fun device => slotOf device ∉ pointers
      unregistered := world.unregistered ++ pointers } := by
  induction pointers generalizing world with
  | nil => simp
  | cons pointer rest ih =>
      rw [List.foldl_cons, ih, deviceUnregister]
      simp only [List.filter_filter, List.append_assoc, List.cons_append, List.nil_append,
        World.mk.injEq, true_and, and_true]
      apply List.filter_congr
      intro device _
      rw [Bool.eq_iff_iff]
      simp only [Bool.and_eq_true, decide_eq_true_eq, List.mem_cons, not_or]
      exact and_comm

end Slots

/-- The removal calls `device_unregister` exactly once for each device that has
been registered since `before`, and for nothing else. -/
def RemovesRegistered (before after : World) : Prop :=
  ∃ registered slots, after.devices = registered ++ before.devices ∧
    (registered.map ClassDevice.id).Nodup ∧
    (gpioSysfsRemove after).unregistered = after.unregistered ++ slots ∧
    slots.Perm (registered.map slotOf)

theorem removal_unregistered (world : World) :
    (gpioSysfsRemove world).unregistered = world.unregistered ++ removalSlots world := by
  rw [gpioSysfsRemove, foldl_deviceUnregister]

theorem all_available_iff : (available children).length = children.length ↔
    ∀ child ∈ children, child.available = true := by
  rw [available, List.length_filter_eq_length_iff]

theorem slots_of_probed {created : List ClassDevice}
    (progress : Progress pdev created (entered pdev children calls world) after)
    (stored : setSlots (entered pdev children calls world).dev 0 (created.map slotOf) = some after.dev)
    (some : created ≠ []) :
    removalSlots after =
      created.map slotOf ++ List.replicate (children.length - created.length) .null := by
  cases allocated : calls.arrayAllocated with
  | false =>
      rw [entered_null allocated] at stored
      exact absurd (List.map_eq_nil_iff.mp (setSlots_null stored).1) some
  | true =>
      obtain ⟨held, live⟩ := @entered_array pdev children calls world allocated
      rw [held] at stored
      obtain ⟨room, dev⟩ := setSlots_array [] stored
      rw [List.nil_append, List.length_map] at dev
      rw [List.length_map] at room
      apply removalSlots_array dev (progress.devm.keeps _ live)
      rw [progress.total, entered_frame.2.2.2, List.length_append, List.length_map,
        List.length_replicate]
      omega

theorem probe_finished (probed : gpioSysfsProbe pdev children calls world = (.ok (), after)) :
    children ≠ [] ∧ ∃ created, Progress pdev created (entered pdev children calls world) after ∧
      created.length = (available children).length ∧
      setSlots (entered pdev children calls world).dev 0 (created.map slotOf) = some after.dev := by
  have nonempty : children ≠ [] := by
    intro empty
    simp [gpioSysfsProbe, empty] at probed
  have outcome := @probe_outcome pdev children calls world nonempty
  rw [probed] at outcome
  cases outcome with
  | finished created _ progress length _ stored => exact ⟨nonempty, created, progress, length, stored⟩

/-- With every child available the removal walks the slots of all of them. -/
theorem slots_of_all {created : List ClassDevice} (nonempty : children ≠ [])
    (all : (available children).length = children.length)
    (progress : Progress pdev created (entered pdev children calls world) after)
    (length : created.length = (available children).length)
    (stored : setSlots (entered pdev children calls world).dev 0 (created.map slotOf) = some after.dev) :
    created ≠ [] ∧ removalSlots after = created.map slotOf := by
  have some : created ≠ [] := by
    intro empty
    rw [empty, List.length_nil] at length
    exact nonempty (List.length_eq_zero_iff.mp (all.symm.trans length.symm))
  have slots := slots_of_probed progress stored some
  rw [length, all, Nat.sub_self, List.replicate_zero, List.append_nil] at slots
  exact ⟨some, slots⟩

/-- After a probe that returns 0, the removal unregisters exactly what the probe
registered if and only if every child is available. -/
theorem remove_matches_probe_iff (probed : gpioSysfsProbe pdev children calls world = (.ok (), after)) :
    RemovesRegistered world after ↔ ∀ child ∈ children, child.available = true := by
  obtain ⟨nonempty, created, progress, length, stored⟩ := probe_finished probed
  have frame := @entered_frame pdev children calls world
  have total : after.totalDevices = children.length := progress.total.trans frame.2.2.2
  rw [← all_available_iff]
  apply Iff.intro
  · intro removes
    obtain ⟨registered, slots, devices, _, unregistered, perm⟩ := removes
    rw [removal_unregistered, List.append_cancel_left_eq] at unregistered
    rw [progress.devices, frame.1, List.append_cancel_right_eq] at devices
    have count := perm.length_eq
    rw [← unregistered, removalSlots_length, total, ← devices, List.length_map,
      List.length_reverse, length] at count
    exact count.symm
  · intro all
    obtain ⟨_, slots⟩ := slots_of_all nonempty all progress length stored
    refine ⟨created.reverse, created.map slotOf, ?_, ?_, ?_, ?_⟩
    · rw [progress.devices, frame.1]
    · rw [List.map_reverse, List.nodup_reverse, progress.ids]
      exact List.nodup_range'
    · rw [removal_unregistered, slots]
    · rw [List.map_reverse]
      exact (List.reverse_perm _).symm

def ProbeCalls.succeeding : ProbeCalls where
  arrayAllocated := true
  child _ := {
    allocated := true
    gpiod := .ok 0xC0000000
    directionOutput := .ok ()
    deviceCreate := .ok () }

def gpio1 : ChildNode := ⟨true, some ⟨ascii "gpio2.2", by decide⟩⟩

def unlabelled : ChildNode := ⟨true, none⟩

theorem remove_matches_probe_of_two :
    RemovesRegistered loaded (gpioSysfsProbe 1 [gpio1, unlabelled] .succeeding loaded).2 := by
  have probed : gpioSysfsProbe 1 [gpio1, unlabelled] .succeeding loaded =
      (.ok (), (gpioSysfsProbe 1 [gpio1, unlabelled] .succeeding loaded).2) := rfl
  exact (remove_matches_probe_iff probed).mpr (by decide)

/-- One child of two is disabled: its slot stays null and is unregistered all the same. -/
theorem removes_unfilled_slot :
    ¬ ∀ (pdev : Nat) (children : List ChildNode) (calls : ProbeCalls) (world after : World),
      gpioSysfsProbe pdev children calls world = (.ok (), after) → RemovesRegistered world after := by
  intro claimed
  obtain ⟨registered, slots, _, _, unregistered, perm⟩ :=
    claimed 1 [gpio1, { unlabelled with available := false }] .succeeding loaded _ rfl
  have passed : slots = [.device 0, .null] := unregistered.symm
  have null : DevicePointer.null ∈ registered.map slotOf := by
    rw [← perm.mem_iff, passed]
    decide
  obtain ⟨device, _, same⟩ := List.mem_map.mp null
  cases same

end BbbLkm.GpioSysfs
