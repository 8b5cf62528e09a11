import BbbLkm.GpioSysfs.Remove

namespace BbbLkm.GpioSysfs

open BbbLkm.Machine BbbLkm.Kernel

variable {pdev : Nat} {children : List ChildNode} {calls : ProbeCalls} {world after : World}
  {result : Except Refusal Unit × World} {core : Core World Unit}

structure AvailableTree where
  children : List ChildNode
  available : ∀ child ∈ children, child.available = true

abbrev InstanceRequest := Request AvailableTree ProbeCalls

def serveInstance (core : Core World Unit) : InstanceRequest → Core World Unit × Answer
  | .probe pdev tree calls => serve gpioPlatformDriver core (.probe pdev tree.children calls)
  | .remove pdev => serve gpioPlatformDriver core (.remove pdev)

def devicesOf (world : World) (pdev : Nat) : List ClassDevice :=
  world.devices.filter fun device => device.parent = pdev

/-- The removal of any bound device would unregister its own class devices and
no others, once each; without bound devices there are no class devices; and
nothing has been unregistered twice. -/
structure Separate (core : Core World Unit) : Prop where
  own : ∀ entry ∈ core.bound,
    (removalSlots core.world).Perm ((devicesOf core.world entry.1).map slotOf)
  rest : core.bound = [] → core.world.devices = []
  once : core.world.unregistered.Nodup

/-- The probe creates a class device for every child or for none. -/
def Unbroken (children : List ChildNode) (calls : ProbeCalls) : Prop :=
  children = [] ∨ ¬ Succeeds (calls.child 0) ∨
    calls.arrayAllocated = true ∧ ∀ index < children.length, Succeeds (calls.child index)

/-- A probe is served while no device is bound, and creates all of its class
devices or none. -/
def ProbesAlone (core : Core World Unit) : InstanceRequest → Prop
  | .probe pdev tree calls => pdev ∉ core.bound.map Prod.fst →
      core.bound = [] ∧ Unbroken tree.children calls
  | .remove _ => True

section Interference

def slotsOf : DeviceArray → List DevicePointer
  | .null => []
  | .array _ slots => slots

theorem readSlot_eq_device_iff {index id : Nat} :
    readSlot world index = .device id ↔ ∃ block slots, world.dev = .array block slots ∧
      (∃ owner, (owner, block) ∈ world.devm.live) ∧ slots[index]? = some (.device id) := by
  cases held : world.dev with
  | null => simp [readSlot, held]
  | array block slots =>
      have isLive : (world.devm.live.any fun entry => entry.2 = block) = true ↔
          ∃ owner, (owner, block) ∈ world.devm.live := by
        simp [List.any_eq_true]
      simp only [readSlot, held, DeviceArray.array.injEq, List.getD_eq_getElem?_getD]
      apply Iff.intro
      · intro read
        split at read
        · rename_i live
          refine ⟨block, slots, ⟨rfl, rfl⟩, isLive.mp live, ?_⟩
          cases found : slots[index]? with
          | none => simp [found] at read
          | some pointer => simpa [found] using read
        · cases read
      · intro found
        obtain ⟨_, _, ⟨rfl, rfl⟩, live, present⟩ := found
        rw [if_pos (isLive.mpr live), present, Option.getD_some]

theorem mem_slotsOf_of_removal {id : Nat} (member : .device id ∈ removalSlots world) :
    .device id ∈ slotsOf world.dev := by
  obtain ⟨index, _, read⟩ := List.mem_map.mp member
  obtain ⟨block, slots, held, _, present⟩ := readSlot_eq_device_iff.mp read
  rw [held]
  exact List.mem_of_getElem? present

theorem setSlot_mem {dev stored : DeviceArray} {i id : Nat} {rc : Errno}
    (done : setSlot dev i (.error rc) = some stored) (member : .device id ∈ slotsOf stored) :
    .device id ∈ slotsOf dev := by
  cases dev with
  | null => simp [setSlot] at done
  | array block slots =>
      simp only [setSlot, Option.ite_none_right_eq_some, Option.some.injEq] at done
      rw [← done.2] at member
      rcases List.mem_or_eq_of_mem_set member with old | new
      · exact old
      · cases new

theorem setSlots_entered_mem {created : List ClassDevice} {dev : DeviceArray} {id : Nat}
    (done : setSlots (entered pdev children calls world).dev 0 (created.map slotOf) = some dev)
    (member : .device id ∈ slotsOf dev) : id ∈ created.map ClassDevice.id := by
  cases allocated : calls.arrayAllocated with
  | false =>
      rw [entered_null allocated] at done
      rw [(setSlots_null done).2] at member
      cases member
  | true =>
      rw [(@entered_array pdev children calls world allocated).1] at done
      rw [(setSlots_array [] done).2, slotsOf, List.nil_append] at member
      rcases List.mem_append.mp member with stored | empty
      · obtain ⟨device, created, same⟩ := List.mem_map.mp stored
        exact List.mem_map.mpr ⟨device, created, DevicePointer.device.inj same⟩
      · cases List.eq_of_mem_replicate empty

theorem Progress.id_ge {created : List ClassDevice}
    (progress : Progress pdev created (entered pdev children calls world) after) {id : Nat}
    (member : id ∈ created.map ClassDevice.id) : world.nextDevice ≤ id := by
  rw [progress.ids, entered_frame.2.1] at member
  exact (List.mem_range'_1.mp member).1

/-- A probe leaves no class device of another instance for a removal to find. -/
theorem removalSlots_fresh {id : Nat}
    (member : .device id ∈ removalSlots (gpioSysfsProbe pdev children calls world).2) :
    world.nextDevice ≤ id := by
  by_cases empty : children = []
  · simp [gpioSysfsProbe, removalSlots, empty] at member
  · have stored := mem_slotsOf_of_removal member
    have outcome := @probe_outcome pdev children calls world empty
    generalize gpioSysfsProbe pdev children calls world = result at stored outcome
    cases outcome with
    | finished created after progress _ _ done =>
        exact progress.id_ge (setSlots_entered_mem done stored)
    | stopped created refusal after dev progress _ _ _ done kept =>
        refine progress.id_ge (setSlots_entered_mem done ?_)
        rcases kept with same | ⟨rc, failed⟩
        · exact same ▸ stored
        · exact setSlot_mem failed stored
    | lost created last after progress _ _ done _ =>
        apply progress.id_ge
        rw [List.map_append]
        exact List.mem_append_left _ (setSlots_entered_mem done stored)

theorem removalSlots_reclaim {id : Nat}
    (member : .device id ∈ removalSlots (gpioPlatformDriver.reclaim pdev world)) :
    .device id ∈ removalSlots world := by
  obtain ⟨index, bound, read⟩ := List.mem_map.mp member
  obtain ⟨block, slots, held, ⟨owner, live⟩, present⟩ := readSlot_eq_device_iff.mp read
  refine List.mem_map.mpr ⟨index, bound, readSlot_eq_device_iff.mpr ?_⟩
  exact ⟨block, slots, held, ⟨owner, (List.mem_filter.mp live).1⟩, present⟩

theorem devices_kept {device : ClassDevice} (member : device ∈ world.devices) :
    device ∈ (gpioSysfsProbe pdev children calls world).2.devices := by
  by_cases empty : children = []
  · simpa [gpioSysfsProbe, empty] using member
  · obtain ⟨created, progress⟩ := (@probe_outcome pdev children calls world empty).progress
    rw [progress.devices, entered_frame.1]
    exact List.mem_append_right _ member

end Interference

section Alone

/-- The registered class devices are those of one platform device, in its array. -/
structure Serves (pdev : Nat) (world : World) : Prop where
  nonempty : world.devices ≠ []
  slots : removalSlots world = (world.devices.map slotOf).reverse
  parents : ∀ device ∈ world.devices, device.parent = pdev
  ids : (world.devices.map ClassDevice.id).Nodup
  fresh : ∀ device ∈ world.devices, device.id < world.nextDevice ∧
    slotOf device ∉ world.unregistered

/-- At most one device is bound, and the class devices are its own. -/
structure Sound (core : Core World Unit) : Prop where
  idle : core.bound = [] → core.world.devices = []
  busy : ∀ entry ∈ core.bound, core.bound = [entry] ∧ Serves entry.1 core.world
  past : ∀ id, .device id ∈ core.world.unregistered → id < core.world.nextDevice
  once : core.world.unregistered.Nodup

theorem Sound.start : Sound (.start loaded) where
  idle _ := rfl
  busy entry member := by cases member
  past id member := by cases member
  once := List.nodup_nil

theorem serves_of_probed (idle : world.devices = [])
    (past : ∀ id, .device id ∈ world.unregistered → id < world.nextDevice)
    (all : ∀ child ∈ children, child.available = true)
    (probed : gpioSysfsProbe pdev children calls world = (.ok (), after)) :
    Serves pdev after ∧ after.unregistered = world.unregistered ∧
      world.nextDevice ≤ after.nextDevice := by
  obtain ⟨nonempty, created, progress, length, stored⟩ := probe_finished probed
  have frame := @entered_frame pdev children calls world
  obtain ⟨some, slots⟩ := slots_of_all nonempty (all_available_iff.mpr all) progress length stored
  have devices : after.devices = created.reverse := by
    rw [progress.devices, frame.1, idle, List.append_nil]
  have unregistered : after.unregistered = world.unregistered := progress.unregistered.trans frame.2.2.1
  have next : after.nextDevice = world.nextDevice + created.length := by rw [progress.next, frame.2.1]
  refine ⟨?_, unregistered, by omega⟩
  exact {
    nonempty := by
      rw [devices]
      exact fun empty => some (List.reverse_eq_nil_iff.mp empty)
    slots := by rw [slots, devices, List.map_reverse, List.reverse_reverse]
    parents := fun device member => progress.parents device (List.mem_reverse.mp (devices ▸ member))
    ids := by
      rw [devices, List.map_reverse, List.nodup_reverse, progress.ids]
      exact List.nodup_range'
    fresh := by
      intro device member
      have listed : device.id ∈ created.map ClassDevice.id :=
        List.mem_map_of_mem (List.mem_reverse.mp (devices ▸ member))
      have lower := progress.id_ge listed
      rw [progress.ids, List.mem_range'_1, frame.2.1] at listed
      refine ⟨by omega, fun logged => ?_⟩
      have := past device.id (unregistered ▸ logged)
      omega }

theorem frame_of_unbroken {refusal : Refusal} (unbroken : Unbroken children calls)
    (probed : gpioSysfsProbe pdev children calls world = (.error refusal, after)) :
    after.devices = world.devices ∧ after.unregistered = world.unregistered ∧
      world.nextDevice ≤ after.nextDevice := by
  by_cases empty : children = []
  · simp only [gpioSysfsProbe, empty, List.length_nil, if_true, Prod.mk.injEq] at probed
    rw [← probed.2]
    exact ⟨rfl, rfl, Nat.le_refl _⟩
  have outcome := @probe_outcome pdev children calls world empty
  rw [probed] at outcome
  have frame := @entered_frame pdev children calls world
  have usable : (available children).length ≤ children.length := List.length_filter_le _ _
  cases outcome with
  | stopped created _ _ dev progress length succeeded failed _ _ =>
      have none : created = [] := by
        rcases unbroken with nil | first | ⟨_, every⟩
        · exact absurd nil empty
        · cases created with
          | nil => rfl
          | cons device rest => exact absurd (succeeded 0 (Nat.succ_pos _)) first
        · exact absurd (Nat.zero_add _ ▸ every created.length (by omega)) failed
      refine ⟨?_, progress.unregistered.trans frame.2.2.1, ?_⟩
      · rw [progress.devices, none, frame.1]
        rfl
      · rw [progress.next, frame.2.1]
        exact Nat.le_add_right _ _
  | lost created last _ progress length succeeded _ missing =>
      rcases unbroken with nil | first | ⟨allocated, _⟩
      · exact absurd nil empty
      · exact absurd (succeeded 0 (Nat.zero_le _)) first
      · rw [(@entered_array pdev children calls world allocated).1] at missing
        refine absurd ?_ missing
        rw [HasSlot, List.length_replicate]
        omega

def Admitted (core : Core World Unit) : Request (List ChildNode) ProbeCalls → Prop
  | .probe pdev children calls => (∀ child ∈ children, child.available = true) ∧
      (pdev ∉ core.bound.map Prod.fst → core.bound = [] ∧ Unbroken children calls)
  | .remove _ => True

theorem Sound.settle (sound : Sound core) (idle : core.bound = [])
    (devices : after.devices = core.world.devices)
    (unregistered : after.unregistered = core.world.unregistered)
    (next : core.world.nextDevice ≤ after.nextDevice) : Sound (core.settle after) where
  idle _ := devices.trans (sound.idle idle)
  busy entry member := by
    have listed : entry ∈ core.bound := member
    rw [idle] at listed
    cases listed
  past id logged := Nat.lt_of_lt_of_le (sound.past id (unregistered ▸ logged)) next
  once := by
    rw [Core.settle, unregistered]
    exact sound.once

theorem Sound.bind (sound : Sound core) (unbound : pdev ∉ core.bound.map Prod.fst)
    (idle : core.bound = []) (all : ∀ child ∈ children, child.available = true)
    (probed : gpioSysfsProbe pdev children calls core.world = (.ok (), after)) :
    Sound (core.bind pdev () after unbound) := by
  obtain ⟨serves, unregistered, next⟩ := serves_of_probed (sound.idle idle) sound.past all probed
  exact {
    idle := fun empty => absurd empty (List.cons_ne_nil _ _)
    busy := by
      intro entry member
      rcases List.mem_cons.mp member with rfl | older
      · exact ⟨congrArg (_ :: ·) idle, serves⟩
      · rw [idle] at older
        cases older
    past := fun id logged => Nat.lt_of_lt_of_le (sound.past id (unregistered ▸ logged)) next
    once := by
      rw [Core.bind, unregistered]
      exact sound.once }

theorem Serves.removed (serves : Serves pdev world) : (gpioSysfsRemove world).devices = [] := by
  rw [gpioSysfsRemove, foldl_deviceUnregister]
  apply List.filter_eq_nil_iff.mpr
  intro device member
  have listed : slotOf device ∈ removalSlots world := by
    rw [serves.slots, List.mem_reverse]
    exact List.mem_map_of_mem member
  simpa using listed

theorem Serves.mem_removalSlots (serves : Serves pdev world) {pointer : DevicePointer}
    (member : pointer ∈ removalSlots world) : ∃ device ∈ world.devices, slotOf device = pointer := by
  rw [serves.slots, List.mem_reverse] at member
  exact List.mem_map.mp member

theorem Serves.removalSlots_nodup (serves : Serves pdev world) : (removalSlots world).Nodup := by
  rw [serves.slots, List.nodup_reverse]
  have pointers : world.devices.map slotOf = (world.devices.map ClassDevice.id).map .device := by
    rw [List.map_map]
    rfl
  rw [pointers]
  exact serves.ids.map fun _ _ same => DevicePointer.device.inj same

theorem Sound.unbind (sound : Sound core) (member : (pdev, ()) ∈ core.bound) :
    Sound (core.unbind pdev
      (gpioPlatformDriver.reclaim pdev (gpioSysfsRemove core.world))) := by
  obtain ⟨only, serves⟩ := sound.busy _ member
  have empty : core.bound.filter (fun entry => entry.1 ≠ pdev) = [] := by
    rw [only]
    simp
  exact {
    idle := fun _ => serves.removed
    busy := by
      intro entry listed
      rw [Core.bound_unbind, empty] at listed
      cases listed
    past := by
      intro id logged
      have all : .device id ∈ (gpioSysfsRemove core.world).unregistered := logged
      rw [removal_unregistered, List.mem_append] at all
      have next : (gpioSysfsRemove core.world).nextDevice = core.world.nextDevice := by
        rw [gpioSysfsRemove, foldl_deviceUnregister]
      refine Nat.lt_of_lt_of_eq ?_ next.symm
      rcases all with old | new
      · exact sound.past id old
      · obtain ⟨device, registered, same⟩ := serves.mem_removalSlots new
        exact DevicePointer.device.inj same ▸ (serves.fresh device registered).1
    once := by
      have log : (gpioSysfsRemove core.world).unregistered.Nodup := by
        rw [removal_unregistered, List.nodup_append]
        refine ⟨sound.once, serves.removalSlots_nodup, fun old logged new passed same => ?_⟩
        obtain ⟨device, registered, slot⟩ := serves.mem_removalSlots passed
        exact (serves.fresh device registered).2 (slot ▸ same ▸ logged)
      exact log }

theorem sound_kept : Kept gpioPlatformDriver Admitted Sound where
  bind unbound sound admitted probed :=
    sound.bind unbound (admitted.2 unbound).1 admitted.1 probed
  refuse unbound sound admitted probed := by
    obtain ⟨devices, unregistered, next⟩ := frame_of_unbroken (admitted.2 unbound).2 probed
    exact sound.settle (admitted.2 unbound).1 devices unregistered next
  oops unbound sound admitted probed := by
    obtain ⟨devices, unregistered, next⟩ := frame_of_unbroken (admitted.2 unbound).2 probed
    exact sound.settle (admitted.2 unbound).1 devices unregistered next
  unbind sound _ member := sound.unbind member

theorem Sound.separate (sound : Sound core) : Separate core where
  own entry member := by
    obtain ⟨_, serves⟩ := sound.busy entry member
    have all : devicesOf core.world entry.1 = core.world.devices :=
      List.filter_eq_self.mpr fun device registered => by simpa using serves.parents device registered
    rw [all, serves.slots]
    exact List.reverse_perm _
  rest := sound.idle
  once := sound.once

end Alone

section Failure

theorem not_separate_of_second (sound : Sound core) {entry : Nat × Unit} (bound : entry ∈ core.bound)
    (unbound : pdev ∉ core.bound.map Prod.fst) :
    ¬ Separate (serve gpioPlatformDriver core (.probe pdev children calls)).1 := by
  intro separate
  obtain ⟨_, serves⟩ := sound.busy entry bound
  obtain ⟨worlds, kept⟩ := @serve_probe_world _ _ _ _ gpioPlatformDriver core pdev children calls unbound
  obtain ⟨device, registered⟩ := List.exists_mem_of_ne_nil _ serves.nonempty
  have remains := @devices_kept pdev children calls core.world device registered
  have still : device ∈ (serve gpioPlatformDriver core (.probe pdev children calls)).1.world.devices := by
    rcases worlds with same | reclaimed
    · rwa [same]
    · rwa [reclaimed]
  have owned : slotOf device ∈ removalSlots
      (serve gpioPlatformDriver core (.probe pdev children calls)).1.world := by
    refine (separate.own entry (kept entry bound)).mem_iff.mpr (List.mem_map_of_mem ?_)
    exact List.mem_filter.mpr ⟨still, by simpa using serves.parents device registered⟩
  have fresh : core.world.nextDevice ≤ device.id := by
    rcases worlds with same | reclaimed
    · rw [same] at owned
      exact removalSlots_fresh owned
    · rw [reclaimed] at owned
      exact removalSlots_fresh (removalSlots_reclaim owned)
  have := (serves.fresh device registered).1
  omega

theorem refused_of_broken (all : ∀ child ∈ children, child.available = true)
    (broken : ¬ Unbroken children calls) :
    ∃ refusal after, gpioSysfsProbe pdev children calls world = (.error refusal, after) ∧
      after.devices ≠ [] := by
  simp only [Unbroken, not_or, not_and, not_not] at broken
  obtain ⟨nonempty, first, incomplete⟩ := broken
  have outcome := @probe_outcome pdev children calls world nonempty
  generalize gpioSysfsProbe pdev children calls world = result at outcome
  cases outcome with
  | finished created after progress length succeeded stored =>
      rw [all_available_iff.mpr all] at length
      cases allocated : calls.arrayAllocated with
      | false =>
          rw [entered_null allocated] at stored
          have none := List.map_eq_nil_iff.mp (setSlots_null stored).1
          rw [none, List.length_nil] at length
          exact absurd (List.length_eq_zero_iff.mp length.symm) nonempty
      | true =>
          refine absurd (fun index bound => ?_) (incomplete allocated)
          exact Nat.zero_add index ▸ succeeded index (length ▸ bound)
  | stopped created refusal after dev progress _ _ failed _ _ =>
      refine ⟨refusal, after, rfl, ?_⟩
      rw [progress.devices]
      cases created with
      | nil => exact absurd first failed
      | cons device rest => simp
  | lost created last after progress _ _ _ _ =>
      refine ⟨.oops, after, rfl, ?_⟩
      rw [progress.devices]
      simp

theorem not_separate_of_broken (idle : core.bound = []) (unbound : pdev ∉ core.bound.map Prod.fst)
    (all : ∀ child ∈ children, child.available = true) (broken : ¬ Unbroken children calls) :
    ¬ Separate (serve gpioPlatformDriver core (.probe pdev children calls)).1 := by
  intro separate
  obtain ⟨refusal, after, probed, left⟩ := @refused_of_broken pdev children calls core.world all broken
  cases refusal with
  | errno rc =>
      rw [@serve_probe_errno _ _ _ _ gpioPlatformDriver _ _ _ _ _ _ unbound probed] at separate
      exact left (separate.rest idle)
  | oops =>
      rw [@serve_probe_oops _ _ _ _ gpioPlatformDriver _ _ _ _ _ unbound probed] at separate
      exact left (separate.rest idle)

end Failure

theorem sound_serveInstance (sound : Sound core) {request : InstanceRequest}
    (alone : ProbesAlone core request) : Sound (serveInstance core request).1 := by
  cases request with
  | probe pdev tree calls => exact sound_kept.serve _ sound ⟨tree.available, alone⟩
  | remove pdev => exact sound_kept.serve _ sound trivial

theorem probesAlone_iff (sound : Sound core) (request : InstanceRequest) :
    ProbesAlone core request ↔ Separate (serveInstance core request).1 := by
  apply Iff.intro
  · intro alone
    exact (sound_serveInstance sound alone).separate
  · intro separate
    cases request with
    | remove pdev => trivial
    | probe pdev tree calls =>
        intro unbound
        have idle : core.bound = [] := by
          cases split : core.bound with
          | nil => rfl
          | cons entry older =>
              have bound : entry ∈ core.bound := split ▸ List.mem_cons_self
              exact absurd separate (not_separate_of_second sound bound unbound)
        refine ⟨idle, ?_⟩
        by_cases broken : Unbroken tree.children calls
        · exact broken
        · exact absurd separate (not_separate_of_broken idle unbound tree.available broken)

/-- In every state of a run the removals of the bound devices are separate
exactly when each probe is served while no device is bound and creates all of
its class devices or none. -/
theorem run_separate_iff (requests : List InstanceRequest) :
    (∀ seen, seen <+: requests → Separate (stateAfter serveInstance (.start loaded) seen)) ↔
      Along serveInstance ProbesAlone (.start loaded) requests :=
  always_iff_along Sound (fun _ _ sound alone => sound_serveInstance sound alone)
    (fun _ request sound => probesAlone_iff sound request) .start Sound.start.separate

def twoInstances : List InstanceRequest :=
  [.probe 1 ⟨[gpio1], by decide⟩ .succeeding, .probe 2 ⟨[unlabelled], by decide⟩ .succeeding]

/-- The removal of the first would then unregister the class device of the second. -/
theorem instances_interfere :
    ¬ ∀ requests : List InstanceRequest,
      Separate (stateAfter serveInstance (.start loaded) requests) := by
  intro claimed
  have own := (claimed twoInstances).own (1, ()) (by decide)
  have passed : DevicePointer.device 1 ∈
      removalSlots (stateAfter serveInstance (.start loaded) twoInstances).world := by decide
  exact absurd (own.mem_iff.mp passed) (by decide)

end BbbLkm.GpioSysfs
