import BbbLkm.GpioSysfs.Probe

namespace BbbLkm.GpioSysfs

open BbbLkm.Machine BbbLkm.Kernel

variable {pdev i : Nat} {child : ChildNode} {children : List ChildNode} {world after : World}

structure Succeeds (calls : ChildCalls) : Prop where
  allocated : calls.allocated = true
  gpiod : ∃ desc, calls.gpiod = .ok desc
  directionOutput : calls.directionOutput = .ok ()
  deviceCreate : calls.deviceCreate = .ok ()

section Slots

def HasSlot : DeviceArray → Nat → Prop
  | .null, _ => False
  | .array _ slots, i => i < slots.length

def setSlots : DeviceArray → Nat → List DevicePointer → Option DeviceArray
  | dev, _, [] => some dev
  | dev, i, pointer :: rest => (setSlot dev i pointer).bind fun dev => setSlots dev (i + 1) rest

variable {dev stored : DeviceArray} {pointer : DevicePointer}

theorem setSlot_eq_none_iff : setSlot dev i pointer = none ↔ ¬ HasSlot dev i := by
  cases dev with
  | null => simp [setSlot, HasSlot]
  | array block slots => simp [setSlot, HasSlot]

theorem hasSlot_of_setSlot (done : setSlot dev i pointer = some stored) : HasSlot dev i := by
  by_contra missing
  cases done.symm.trans (setSlot_eq_none_iff.mpr missing)

theorem hasSlot_setSlot (done : setSlot dev i pointer = some stored) (index : Nat) :
    HasSlot stored index ↔ HasSlot dev index := by
  cases dev with
  | null => simp [setSlot] at done
  | array block slots =>
      simp only [setSlot, Option.ite_none_right_eq_some, Option.some.injEq] at done
      rw [← done.2, HasSlot, HasSlot, List.length_set]

theorem setSlots_null {pointers : List DevicePointer} (done : setSlots .null i pointers = some stored) :
    pointers = [] ∧ stored = .null := by
  cases pointers with
  | nil => exact ⟨rfl, (Option.some.inj done).symm⟩
  | cons pointer rest => simp [setSlots, setSlot] at done

/-- Storing to the slot behind a filled front extends it by one. -/
theorem setSlot_front {block empty : Nat} (filled : List DevicePointer) (pointer : DevicePointer) :
    setSlot (.array block (filled ++ List.replicate (empty + 1) .null)) filled.length pointer =
      some (.array block ((filled ++ [pointer]) ++ List.replicate empty .null)) := by
  simp [setSlot, List.replicate_succ]

theorem setSlots_array {block empty : Nat} {pointers : List DevicePointer}
    (filled : List DevicePointer)
    (done : setSlots (.array block (filled ++ List.replicate empty .null)) filled.length pointers =
      some stored) :
    pointers.length ≤ empty ∧
      stored = .array block (filled ++ pointers ++ List.replicate (empty - pointers.length) .null) := by
  induction pointers generalizing filled empty with
  | nil =>
      refine ⟨Nat.zero_le _, ?_⟩
      simpa [setSlots] using (Option.some.inj done).symm
  | cons pointer rest ih =>
      cases empty with
      | zero => simp [setSlots, setSlot] at done
      | succ empty =>
          rw [setSlots, setSlot_front, Option.bind_some] at done
          have tail : setSlots (.array block ((filled ++ [pointer]) ++ List.replicate empty .null))
              (filled ++ [pointer]).length rest = some stored := by simpa using done
          obtain ⟨room, result⟩ := ih (filled ++ [pointer]) tail
          refine ⟨by simpa using room, ?_⟩
          simpa using result

end Slots

section Child

/-- The calls for a child succeed up to `device_create_with_groups`. -/
structure ReachesCreate (calls : ChildCalls) : Prop where
  allocated : calls.allocated = true
  gpiod : ∃ desc, calls.gpiod = .ok desc
  directionOutput : calls.directionOutput = .ok ()

theorem Succeeds.reaches {calls : ChildCalls} (succeeds : Succeeds calls) : ReachesCreate calls :=
  ⟨succeeds.allocated, succeeds.gpiod, succeeds.directionOutput⟩

theorem ReachesCreate.succeeds {calls : ChildCalls} (reaches : ReachesCreate calls)
    (made : calls.deviceCreate = .ok ()) : Succeeds calls :=
  ⟨reaches.allocated, reaches.gpiod, reaches.directionOutput, made⟩

/-- The device is created or not, and there is a slot for the result or not. -/
inductive CreateOutcome (pdev i : Nat) (data : GpioDevicePrivateData) (outcome : Except Errno Unit)
    (world : World) : Except Refusal Unit × World → Prop where
  | refused (rc : Errno) (dev : DeviceArray) : outcome = .error rc →
      setSlot world.dev i (.error rc) = some dev →
      CreateOutcome pdev i data outcome world (.error (.errno rc), { world with dev })
  | unrecorded (rc : Errno) : outcome = .error rc → ¬ HasSlot world.dev i →
      CreateOutcome pdev i data outcome world (.error .oops, world)
  | lost : outcome = .ok () → ¬ HasSlot world.dev i →
      CreateOutcome pdev i data outcome world (.error .oops, { world with
        devices := ⟨world.nextDevice, pdev, data, readString data.bytes⟩ :: world.devices
        nextDevice := world.nextDevice + 1 })
  | created (dev : DeviceArray) : outcome = .ok () →
      setSlot world.dev i (.device world.nextDevice) = some dev →
      CreateOutcome pdev i data outcome world (.ok (), { world with
        dev
        devices := ⟨world.nextDevice, pdev, data, readString data.bytes⟩ :: world.devices
        nextDevice := world.nextDevice + 1 })

theorem createDevice_outcome {data : GpioDevicePrivateData} {outcome : Except Errno Unit} :
    CreateOutcome pdev i data outcome world (createDevice pdev i data outcome world) := by
  cases outcome with
  | error rc =>
      simp only [createDevice]
      split
      · rename_i missing
        exact .unrecorded rc rfl (setSlot_eq_none_iff.mp missing)
      · rename_i dev stored
        exact .refused rc dev rfl stored
  | ok _ =>
      simp only [createDevice]
      split
      · rename_i missing
        exact .lost rfl (setSlot_eq_none_iff.mp missing)
      · rename_i dev stored
        exact .created dev rfl stored

/-- A pass of the loop ends at a call that fails, or gets to the class device
with the data in new memory. -/
inductive ChildSteps (pdev : Nat) (child : ChildNode) (calls : ChildCalls) (i : Nat) (world : World) :
    Except Refusal Unit × World → Prop where
  | refused (rc : Errno) (devm : Managed Nat) : ¬ ReachesCreate calls → world.devm.Grows pdev devm →
      ChildSteps pdev child calls i world (.error (.errno rc), { world with devm })
  | reached (desc : UInt32) (result : Except Refusal Unit × World) : ReachesCreate calls →
      calls.gpiod = .ok desc →
      CreateOutcome pdev i ⟨world.devm.next, childBytes child.label i desc⟩ calls.deviceCreate
        { world with devm := world.devm.allocate pdev } result →
      ChildSteps pdev child calls i world result

theorem probeChild_steps {calls : ChildCalls} :
    ChildSteps pdev child calls i world (probeChild pdev child calls i world) := by
  have grown : world.devm.Grows pdev (world.devm.allocate pdev) :=
    (Managed.Grows.refl pdev world.devm).allocate
  cases allocated : calls.allocated with
  | false =>
      simp only [probeChild, allocated, Bool.not_false, if_true]
      exact .refused _ world.devm (fun reaches => by simp [reaches.allocated] at allocated)
        (.refl pdev world.devm)
  | true =>
  cases found : calls.gpiod with
  | error rc =>
      simp only [probeChild, allocated, found, Bool.not_true, Bool.false_eq_true, if_false]
      refine .refused _ _ (fun reaches => ?_) grown
      obtain ⟨desc, same⟩ := reaches.gpiod
      simp [same] at found
  | ok desc =>
  cases directed : calls.directionOutput with
  | error rc =>
      simp only [probeChild, allocated, found, directed, Bool.not_true, Bool.false_eq_true, if_false]
      exact .refused _ _ (fun reaches => by simp [reaches.directionOutput] at directed) grown
  | ok _ =>
      simp only [probeChild, allocated, found, directed, Bool.not_true, Bool.false_eq_true, if_false]
      exact .reached desc _ ⟨allocated, ⟨desc, found⟩, directed⟩ found createDevice_outcome

inductive ChildOutcome (pdev : Nat) (calls : ChildCalls) (i : Nat) (world : World) :
    Except Refusal Unit × World → Prop where
  /-- A call fails.  Only that of `device_create_with_groups` leaves its error in the slot. -/
  | failed (refusal : Refusal) (devm : Managed Nat) (dev : DeviceArray) :
      ¬ Succeeds calls → world.devm.Grows pdev devm →
      (dev = world.dev ∨ ∃ rc, setSlot world.dev i (.error rc) = some dev) →
      ChildOutcome pdev calls i world (.error refusal, { world with devm, dev })
  /-- There is no slot for the class device that has been created. -/
  | lost (device : ClassDevice) (devm : Managed Nat) :
      Succeeds calls → world.devm.Grows pdev devm → device.id = world.nextDevice →
      device.parent = pdev → ¬ HasSlot world.dev i →
      ChildOutcome pdev calls i world (.error .oops, { world with
        devm, devices := device :: world.devices, nextDevice := world.nextDevice + 1 })
  | created (device : ClassDevice) (devm : Managed Nat) (dev : DeviceArray) :
      Succeeds calls → world.devm.Grows pdev devm → device.id = world.nextDevice →
      device.parent = pdev → setSlot world.dev i (.device device.id) = some dev →
      ChildOutcome pdev calls i world (.ok (), { world with
        devm, dev, devices := device :: world.devices, nextDevice := world.nextDevice + 1 })

theorem probeChild_outcome {calls : ChildCalls} :
    ChildOutcome pdev calls i world (probeChild pdev child calls i world) := by
  have steps := @probeChild_steps pdev i child world calls
  generalize probeChild pdev child calls i world = result at steps
  cases steps with
  | refused rc devm unreached grows =>
      exact .failed _ devm world.dev (fun succeeds => unreached succeeds.reaches) grows (Or.inl rfl)
  | reached desc _ reaches _ outcome =>
      have grown : world.devm.Grows pdev (world.devm.allocate pdev) :=
        (Managed.Grows.refl pdev world.devm).allocate
      cases outcome with
      | refused rc dev failed stored =>
          exact .failed _ _ dev (fun succeeds => by cases failed.symm.trans succeeds.deviceCreate) grown
            (Or.inr ⟨rc, stored⟩)
      | unrecorded rc failed missing =>
          exact .failed _ _ world.dev (fun succeeds => by cases failed.symm.trans succeeds.deviceCreate)
            grown (Or.inl rfl)
      | lost made missing =>
          exact .lost _ _ (reaches.succeeds made) grown rfl rfl missing
      | created dev made stored =>
          exact .created _ _ dev (reaches.succeeds made) grown rfl rfl stored

end Child

/-- The class devices `created`, oldest first, have been registered for `pdev`,
and nothing has been unregistered. -/
structure Progress (pdev : Nat) (created : List ClassDevice) (before after : World) : Prop where
  total : after.totalDevices = before.totalDevices
  unregistered : after.unregistered = before.unregistered
  devices : after.devices = created.reverse ++ before.devices
  ids : created.map ClassDevice.id = List.range' before.nextDevice created.length
  parents : ∀ device ∈ created, device.parent = pdev
  next : after.nextDevice = before.nextDevice + created.length
  devm : before.devm.Grows pdev after.devm

theorem Progress.none {devm : Managed Nat} {dev : DeviceArray} {references : List (Nat × Nat)}
    (grows : world.devm.Grows pdev devm) :
    Progress pdev [] world { world with devm, dev, references } where
  total := rfl
  unregistered := rfl
  devices := rfl
  ids := rfl
  parents := by simp
  next := rfl
  devm := grows

theorem Progress.one {device : ClassDevice} {devm : Managed Nat} {dev : DeviceArray}
    {references : List (Nat × Nat)} (grows : world.devm.Grows pdev devm)
    (fresh : device.id = world.nextDevice) (parent : device.parent = pdev) :
    Progress pdev [device] world { world with
      devm, dev, references
      devices := device :: world.devices, nextDevice := world.nextDevice + 1 } where
  total := rfl
  unregistered := rfl
  devices := rfl
  ids := by simp [fresh]
  parents := by simpa using parent
  next := rfl
  devm := grows

theorem Progress.trans {middle : World} {first second : List ClassDevice}
    (earlier : Progress pdev first world middle) (later : Progress pdev second middle after) :
    Progress pdev (first ++ second) world after where
  total := later.total.trans earlier.total
  unregistered := later.unregistered.trans earlier.unregistered
  devices := by rw [later.devices, earlier.devices, List.reverse_append, List.append_assoc]
  ids := by
    rw [List.map_append, earlier.ids, later.ids, earlier.next, List.length_append,
      List.range'_append_1]
  parents device member := by
    rcases List.mem_append.mp member with old | new
    · exact earlier.parents device old
    · exact later.parents device new
  next := by rw [later.next, earlier.next, List.length_append, Nat.add_assoc]
  devm := earlier.devm.trans later.devm

def slotOf (device : ClassDevice) : DevicePointer := .device device.id

def available (children : List ChildNode) : List ChildNode :=
  children.filter fun child => child.available

section Run

def World.getChild (world : World) (pdev position : Nat) : World :=
  { world with references := (pdev, position) :: world.references }

def World.putChild (world : World) (pdev position : Nat) : World :=
  { world with references := world.references.erase (pdev, position) }

/-- The turns of the loop. -/
inductive LoopRun (pdev : Nat) (calls : Nat → ChildCalls) :
    List ChildNode → (position i : Nat) → World → Except Refusal Unit × World → Prop where
  | done (position i : Nat) (world : World) : LoopRun pdev calls [] position i world (.ok (), world)
  | skipped {child : ChildNode} {rest : List ChildNode} {position i : Nat} {world : World}
      {result : Except Refusal Unit × World} : child.available = false →
      LoopRun pdev calls rest (position + 1) i world result →
      LoopRun pdev calls (child :: rest) position i world result
  | stopped {child : ChildNode} {rest : List ChildNode} {position i : Nat} {world : World}
      {refusal : Refusal} {after : World} : child.available = true →
      probeChild pdev child (calls i) i (world.getChild pdev position) = (.error refusal, after) →
      LoopRun pdev calls (child :: rest) position i world (.error refusal, after)
  | taken {child : ChildNode} {rest : List ChildNode} {position i : Nat} {world middle : World}
      {result : Except Refusal Unit × World} : child.available = true →
      probeChild pdev child (calls i) i (world.getChild pdev position) = (.ok (), middle) →
      LoopRun pdev calls rest (position + 1) (i + 1) (middle.putChild pdev position) result →
      LoopRun pdev calls (child :: rest) position i world result

theorem probeChildren_run (pdev : Nat) (calls : Nat → ChildCalls) (children : List ChildNode)
    (position i : Nat) (world : World) :
    LoopRun pdev calls children position i world
      (probeChildren pdev calls children position i world) := by
  induction children generalizing position i world with
  | nil => exact .done position i world
  | cons child rest ih =>
  cases usable : child.available with
  | false =>
      simp only [probeChildren, usable, Bool.not_false, if_true]
      exact .skipped usable (ih _ _ _)
  | true =>
      simp only [probeChildren, usable, Bool.not_true, Bool.false_eq_true, if_false]
      split
      · rename_i refusal after ended
        exact .stopped usable ended
      · rename_i middle passed
        exact .taken usable passed (ih _ _ _)

end Run

inductive LoopOutcome (pdev : Nat) (calls : Nat → ChildCalls) (children : List ChildNode) (i : Nat)
    (world : World) : Except Refusal Unit × World → Prop where
  | finished (created : List ClassDevice) (after : World) :
      Progress pdev created world after → created.length = (available children).length →
      (∀ index < created.length, Succeeds (calls (i + index))) →
      setSlots world.dev i (created.map slotOf) = some after.dev →
      LoopOutcome pdev calls children i world (.ok (), after)
  /-- A call fails for the child after those whose class devices have been created. -/
  | stopped (created : List ClassDevice) (refusal : Refusal) (after : World) (dev : DeviceArray) :
      Progress pdev created world after → created.length < (available children).length →
      (∀ index < created.length, Succeeds (calls (i + index))) →
      ¬ Succeeds (calls (i + created.length)) →
      setSlots world.dev i (created.map slotOf) = some dev →
      (after.dev = dev ∨ ∃ rc, setSlot dev (i + created.length) (.error rc) = some after.dev) →
      LoopOutcome pdev calls children i world (.error refusal, after)
  /-- There is no slot for the last class device. -/
  | lost (created : List ClassDevice) (last : ClassDevice) (after : World) :
      Progress pdev (created ++ [last]) world after → created.length < (available children).length →
      (∀ index ≤ created.length, Succeeds (calls (i + index))) →
      setSlots world.dev i (created.map slotOf) = some after.dev →
      ¬ HasSlot world.dev (i + created.length) →
      LoopOutcome pdev calls children i world (.error .oops, after)

section Outcome

variable {calls : Nat → ChildCalls} {result : Except Refusal Unit × World}

theorem succeeds_from {count : Nat} (first : Succeeds (calls i))
    (later : ∀ index < count, Succeeds (calls (i + 1 + index))) :
    ∀ index < count + 1, Succeeds (calls (i + index)) := by
  intro index bound
  cases index with
  | zero => exact first
  | succ index =>
      have here := later index (by omega)
      rwa [Nat.add_right_comm] at here

theorem available_taken (usable : child.available = true) :
    available (child :: children) = child :: available children :=
  List.filter_cons_of_pos usable

theorem available_skipped (unusable : child.available = false) :
    available (child :: children) = available children :=
  List.filter_cons_of_neg (by simp [unusable])

theorem available_cons (usable : child.available = true) :
    (available (child :: children)).length = (available children).length + 1 := by
  rw [available_taken usable, List.length_cons]

theorem LoopOutcome.after_created {device : ClassDevice} {middle : World}
    (usable : child.available = true) (succeeds : Succeeds (calls i))
    (progress : Progress pdev [device] world middle)
    (stored : setSlot world.dev i (slotOf device) = some middle.dev)
    (rest : LoopOutcome pdev calls children (i + 1) middle result) :
    LoopOutcome pdev calls (child :: children) i world result := by
  have slots : ∀ {created dev}, setSlots middle.dev (i + 1) (created.map slotOf) = some dev →
      setSlots world.dev i ((device :: created).map slotOf) = some dev := by
    intro created dev done
    rw [List.map_cons, setSlots, stored, Option.bind_some, done]
  have count := @available_cons child children usable
  have shift : ∀ index, i + 1 + index = i + (index + 1) := fun index => by omega
  cases rest with
  | finished created after later length succeeded done =>
      refine .finished (device :: created) after (progress.trans later) ?_
        (succeeds_from succeeds succeeded) (slots done)
      rw [List.length_cons, length, count]
  | stopped created refusal after dev later length succeeded failed done kept =>
      rw [shift] at failed kept
      exact .stopped (device :: created) refusal after dev (progress.trans later)
        (by rw [List.length_cons]; omega) (succeeds_from succeeds succeeded) failed (slots done) kept
  | lost created last after later length succeeded done missing =>
      rw [shift, hasSlot_setSlot stored] at missing
      have all := succeeds_from succeeds fun index (bound : index < created.length + 1) =>
        succeeded index (Nat.le_of_lt_succ bound)
      exact .lost (device :: created) last after (progress.trans later)
        (by rw [List.length_cons]; omega) (fun index bound => all index (Nat.lt_succ_of_le bound))
        (slots done) missing

theorem LoopOutcome.after_skipped (unusable : child.available = false)
    (rest : LoopOutcome pdev calls children i world result) :
    LoopOutcome pdev calls (child :: children) i world result := by
  have same := @available_skipped child children unusable
  cases rest with
  | finished created after progress length succeeded done =>
      exact .finished created after progress (same ▸ length) succeeded done
  | stopped created refusal after dev progress length succeeded failed done kept =>
      exact .stopped created refusal after dev progress (same ▸ length) succeeded failed done kept
  | lost created last after progress length succeeded done missing =>
      exact .lost created last after progress (same ▸ length) succeeded done missing

theorem LoopRun.outcome {position : Nat} (run : LoopRun pdev calls children position i world result) :
    LoopOutcome pdev calls children i world result := by
  induction run with
  | done position i world =>
      exact .finished [] world (.none (.refl pdev world.devm)) rfl
        (fun index bound => absurd bound (Nat.not_lt_zero _)) rfl
  | skipped unusable _ ih => exact ih.after_skipped unusable
  | @stopped child rest position i world refusal after usable ended =>
      have positive : 0 < (available (child :: rest)).length := by
        rw [available_cons usable]
        exact Nat.succ_pos _
      have last := @probeChild_outcome pdev i child (world.getChild pdev position) (calls i)
      rw [ended] at last
      cases last with
      | failed refusal devm dev fails grows kept =>
          exact .stopped [] refusal _ world.dev (.none grows) positive
            (fun index bound => absurd bound (Nat.not_lt_zero _)) fails rfl kept
      | lost device devm succeeds grows fresh parent missing =>
          refine .lost [] device _ (.one grows fresh parent) positive (fun index bound => ?_) rfl missing
          rw [Nat.le_zero.mp bound]
          exact succeeds
  | @taken child rest position i world middle result usable passed _ ih =>
      have first := @probeChild_outcome pdev i child (world.getChild pdev position) (calls i)
      rw [passed] at first
      cases first with
      | created device devm dev succeeds grows fresh parent stored =>
          exact ih.after_created usable succeeds (.one grows fresh parent) stored

theorem LoopOutcome.progress (outcome : LoopOutcome pdev calls children i world result) :
    ∃ created, Progress pdev created world result.2 := by
  cases outcome with
  | finished created after progress _ _ _ => exact ⟨created, progress⟩
  | stopped created refusal after dev progress _ _ _ _ _ => exact ⟨created, progress⟩
  | lost created last after progress _ _ _ _ => exact ⟨created ++ [last], progress⟩

end Outcome

end BbbLkm.GpioSysfs
