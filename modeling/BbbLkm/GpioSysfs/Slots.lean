import BbbLkm.GpioSysfs.Failure

namespace BbbLkm.GpioSysfs

open BbbLkm.Machine BbbLkm.Kernel

variable {pdev i position : Nat} {child : ChildNode} {children front rest : List ChildNode}
  {world middle : World}

/-- The loop of the probe has run for the children `front` and goes on with
`rest` in `middle`. -/
structure LoopAt (pdev : Nat) (children : List ChildNode) (calls : ProbeCalls) (world : World)
    (front rest : List ChildNode) (middle : World) : Prop where
  split : children = front ++ rest
  passed : probeChildren pdev calls.child front 0 0 (entered pdev children calls world) =
    (.ok (), middle)

/-- The next turn of the loop stores the result of `device_create_with_groups`
to `gpio_drv_data.dev[i]`. -/
def StoresNext (calls : Nat → ChildCalls) (i : Nat) : List ChildNode → Prop
  | [] => False
  | child :: _ => child.available = true ∧ ReachesCreate (calls i)

/-- `gpio_drv_data.dev[index]`, where the array has that slot. -/
def slot? : DeviceArray → Nat → Option DevicePointer
  | .null, _ => none
  | .array _ slots, index => slots[index]?

/-- The slots before `i` hold the class devices of the first `i` available
children, in their order, and the others are null. -/
def SlotsHold (pdev : Nat) (children : List ChildNode) (calls : ProbeCalls) (before : World) (i : Nat)
    (world : World) : Prop :=
  ∃ created : List ClassDevice, created.length = i ∧
    Creates pdev calls.child ((available children).zipIdx.take i) created before world ∧
    (∀ index < i, slot? world.dev index = (created.map slotOf)[index]?) ∧
    ∀ index pointer, i ≤ index → slot? world.dev index = some pointer → pointer = .null

/-- No store of the probe faults.  Whenever its loop comes to a child, the
probe is what the loop does from there on, the next store goes to a slot, and
the slots are as they should be. -/
structure FillsSlots (pdev : Nat) (children : List ChildNode) (calls : ProbeCalls) (world : World) :
    Prop where
  returns : (gpioSysfsProbe pdev children calls world).1 ≠ .error .oops
  turn : children ≠ [] → ∀ front rest middle, LoopAt pdev children calls world front rest middle →
    gpioSysfsProbe pdev children calls world =
        probeChildren pdev calls.child rest front.length (available front).length middle ∧
      (StoresNext calls.child (available front).length rest →
        HasSlot middle.dev (available front).length ∧
          (available front).length < middle.totalDevices) ∧
      SlotsHold pdev children calls world (available front).length middle

/-- A loop without an array ends before its store. -/
def StoresAllocated (children : List ChildNode) (calls : ProbeCalls) : Prop :=
  calls.arrayAllocated = false → available children ≠ [] → ¬ ReachesCreate (calls.child 0)

section Turns

variable {calls : Nat → ChildCalls}

theorem probeChildren_skipped (unusable : child.available = false) :
    probeChildren pdev calls (child :: rest) position i world =
      probeChildren pdev calls rest (position + 1) i world := by
  simp only [probeChildren, unusable, Bool.not_false, if_true]

theorem probeChildren_taken (usable : child.available = true)
    (passed : probeChild pdev child (calls i) i (world.getChild pdev position) = (.ok (), middle)) :
    probeChildren pdev calls (child :: rest) position i world =
      probeChildren pdev calls rest (position + 1) (i + 1) (middle.putChild pdev position) := by
  rw [World.getChild] at passed
  simp only [probeChildren, usable, Bool.not_true, Bool.false_eq_true, if_false, passed]
  rfl

theorem probeChildren_stopped {refusal : Refusal} {after : World} (usable : child.available = true)
    (ended : probeChild pdev child (calls i) i (world.getChild pdev position) = (.error refusal, after)) :
    probeChildren pdev calls (child :: rest) position i world = (.error refusal, after) := by
  rw [World.getChild] at ended
  simp only [probeChildren, usable, Bool.not_true, Bool.false_eq_true, if_false, ended]

/-- After a front that the loop gets through it goes on with the rest. -/
theorem probeChildren_append (passed : probeChildren pdev calls front position i world = (.ok (), middle)) :
    probeChildren pdev calls (front ++ rest) position i world =
      probeChildren pdev calls rest (position + front.length) (i + (available front).length) middle := by
  induction front generalizing position i world with
  | nil =>
      cases passed
      rfl
  | cons child front ih =>
  rw [List.cons_append, List.length_cons, Nat.add_comm front.length, ← Nat.add_assoc]
  cases usable : child.available with
  | false =>
      rw [probeChildren_skipped usable] at passed ⊢
      rw [available_skipped usable]
      exact ih passed
  | true =>
      rw [available_cons usable, Nat.add_comm (available front).length, ← Nat.add_assoc]
      rcases turn : probeChild pdev child (calls i) i (world.getChild pdev position) with ⟨refusal | _, after⟩
      · cases (probeChildren_stopped usable turn).symm.trans passed
      · rw [probeChildren_taken usable turn] at passed ⊢
        exact ih passed

/-- A store for which there is no slot faults. -/
theorem probeChildren_stray (stores : StoresNext calls i rest) (slotless : ¬ HasSlot world.dev i) :
    (probeChildren pdev calls rest position i world).1 = .error .oops := by
  cases rest with
  | nil => exact stores.elim
  | cons child rest =>
      have faults := @probeChild_oops_iff pdev i child (world.getChild pdev position) (calls i)
      rcases turn : probeChild pdev child (calls i) i (world.getChild pdev position) with ⟨result, after⟩
      rw [turn] at faults
      obtain rfl : result = .error .oops := faults.mpr ⟨stores.2, slotless⟩
      rw [probeChildren_stopped stores.1 turn]

end Turns

section Filling

/-- The class devices of `entries` have been created, and the slots hold them
and nothing behind them. -/
structure Filled (pdev : Nat) (calls : Nat → ChildCalls) (total : Nat) (before : World)
    (entries : List (ChildNode × Nat)) (created : List ClassDevice) (world : World) : Prop where
  creates : Creates pdev calls entries created before world
  totalDevices : world.totalDevices = total
  slots : world.dev = .null ∧ created = [] ∨ ∃ block empty, created.length + empty = total ∧
    world.dev = .array block (created.map slotOf ++ List.replicate empty .null)

variable {calls : Nat → ChildCalls} {total : Nat} {before : World}
  {entries : List (ChildNode × Nat)} {created : List ClassDevice}

theorem Filled.getChild (filled : Filled pdev calls total before entries created world) :
    Filled pdev calls total before entries created (world.getChild pdev position) where
  creates := ⟨filled.creates.devices, filled.creates.each, filled.creates.fresh, filled.creates.grows⟩
  totalDevices := filled.totalDevices
  slots := filled.slots

/-- A turn that is taken fills the next slot. -/
theorem Filled.taken (filled : Filled pdev calls total before entries created world)
    (here : created.length = i)
    (passed : probeChild pdev child (calls i) i (world.getChild pdev position) = (.ok (), middle)) :
    ∃ device, Filled pdev calls total before (entries ++ [(child, i)]) (created ++ [device])
      (middle.putChild pdev position) := by
  have outcome := @probeChild_outcome pdev i child (world.getChild pdev position) (calls i)
  have creates := @probeChild_creates pdev i child (world.getChild pdev position) calls
  rw [passed] at outcome creates
  cases outcome with
  | created device devm dev _ _ _ _ stored =>
  cases creates with
  | one other _ _ own =>
  obtain rfl : device = other := (List.cons.inj own.devices).1
  have both := filled.getChild.creates.trans own
  refine ⟨device, ⟨both.devices, both.each, both.fresh, both.grows⟩, filled.totalDevices, Or.inr ?_⟩
  rcases filled.slots with ⟨null, _⟩ | ⟨block, empty, count, array⟩
  · rw [World.getChild, null] at stored
    cases stored
  · cases empty with
    | zero =>
        have missing : ¬ HasSlot (world.getChild pdev position).dev i := by
          simp [World.getChild, array, HasSlot, here]
        exact absurd (hasSlot_of_setSlot stored) missing
    | succ empty =>
        refine ⟨block, empty, by simp only [List.length_append, List.length_singleton]; omega, ?_⟩
        have front := @setSlot_front block empty (created.map slotOf) (slotOf device)
        rw [List.length_map, here, ← array] at front
        rw [World.putChild, List.map_append]
        exact Option.some.inj (stored.symm.trans front)

/-- A loop that gets through its children fills a slot for each available one. -/
theorem LoopRun.filled {result : Except Refusal Unit × World}
    (run : LoopRun pdev calls children position i world result) (passed : result.1 = .ok ())
    (filled : Filled pdev calls total before entries created world) (here : created.length = i) :
    ∃ made, made.length = i + (available children).length ∧
      Filled pdev calls total before (entries ++ (available children).zipIdx i) made result.2 := by
  induction run generalizing entries created with
  | done position i world =>
      refine ⟨created, here, ?_⟩
      rwa [available, List.filter_nil, List.zipIdx_nil, List.append_nil]
  | skipped unusable _ ih =>
      rw [available_skipped unusable]
      exact ih passed filled here
  | stopped => cases passed
  | @taken child rest position i world middle result usable taken _ ih =>
      obtain ⟨device, next⟩ := filled.taken here taken
      obtain ⟨made, length, following⟩ :=
        ih passed next (by rw [List.length_append, here, List.length_singleton])
      refine ⟨made, ?_, ?_⟩
      · rw [length, available_cons usable]
        omega
      · rwa [List.append_assoc, List.singleton_append, ← List.zipIdx_cons,
          ← available_taken usable] at following

theorem Filled.slots_front (filled : Filled pdev calls total before entries created world) :
    (∀ index < created.length, slot? world.dev index = (created.map slotOf)[index]?) ∧
      ∀ index pointer, created.length ≤ index → slot? world.dev index = some pointer → pointer = .null := by
  rcases filled.slots with ⟨null, none⟩ | ⟨block, empty, count, array⟩
  · rw [null, none]
    exact ⟨fun index bound => absurd bound (Nat.not_lt_zero _), fun _ _ _ found => by cases found⟩
  · rw [array]
    constructor
    · intro index bound
      exact List.getElem?_append_left (by rwa [List.length_map])
    · intro index pointer behind found
      rw [slot?, List.getElem?_append_right (by rwa [List.length_map])] at found
      exact List.eq_of_mem_replicate (List.mem_of_getElem? found)

theorem Filled.lt_total (filled : Filled pdev calls total before entries created world)
    (slot : HasSlot world.dev i) : i < world.totalDevices := by
  rw [filled.totalDevices]
  rcases filled.slots with ⟨null, _⟩ | ⟨block, empty, count, array⟩
  · rw [null] at slot
    exact slot.elim
  · rw [array, HasSlot, List.length_append, List.length_map, List.length_replicate] at slot
    omega

end Filling

theorem entered_filled (pdev : Nat) (children : List ChildNode) (calls : ProbeCalls) (world : World) :
    Filled pdev calls.child children.length world [] [] (entered pdev children calls world) where
  creates := entered_creates pdev children calls world
  totalDevices := entered_frame.2.2.2
  slots := by
    cases allocated : calls.arrayAllocated with
    | false => exact Or.inl ⟨entered_null allocated, rfl⟩
    | true => exact Or.inr ⟨_, children.length, Nat.zero_add _, (entered_array allocated).1⟩

/-- The loop faults if and only if it has no array and gets to a store. -/
theorem loop_oops_iff {calls : ProbeCalls} :
    (probeChildren pdev calls.child children 0 0 (entered pdev children calls world)).1 = .error .oops ↔
      ¬ StoresAllocated children calls := by
  have run := probeChildren_run pdev calls.child children 0 0 (entered pdev children calls world)
  generalize probeChildren pdev calls.child children 0 0 (entered pdev children calls world) = result at run
  rw [StoresAllocated]
  cases allocated : calls.arrayAllocated with
  | true => exact iff_of_false (run.returns (entered_room allocated)) (by simp)
  | false =>
      by_cases none : available children = []
      · refine iff_of_false (run.returns ?_) (by simp [none])
        rw [none]
        exact fun index bound => absurd bound (Nat.not_lt_zero _)
      · obtain ⟨refusal, ended, faults⟩ := run.ends_null (entered_null allocated) none
        rw [ended, Except.error.injEq, faults]
        simp [none]

theorem LoopAt.filled {calls : ProbeCalls} (reached : LoopAt pdev children calls world front rest middle) :
    ∃ created, created.length = (available front).length ∧
      Filled pdev calls.child children.length world
        ((available children).zipIdx.take (available front).length) created middle := by
  have run := probeChildren_run pdev calls.child front 0 0 (entered pdev children calls world)
  rw [reached.passed] at run
  obtain ⟨created, length, filled⟩ := run.filled rfl (entered_filled pdev children calls world) rfl
  have count : (available front).zipIdx.length = (available front).length := List.length_zipIdx
  have split : (available children).zipIdx.take (available front).length = (available front).zipIdx := by
    have both : available (front ++ rest) = available front ++ available rest := List.filter_append ..
    rw [reached.split, both, List.zipIdx_append]
    exact List.take_left' count
  rw [Nat.zero_add] at length
  rw [split]
  exact ⟨created, length, filled⟩

/-- The slots are filled as they should be in every probe if and only if the
loop does not get to a store without an array. -/
theorem probe_fills_slots_iff (pdev : Nat) (children : List ChildNode) (calls : ProbeCalls)
    (world : World) : FillsSlots pdev children calls world ↔ StoresAllocated children calls := by
  by_cases empty : children = []
  · subst empty
    refine iff_of_true ⟨?_, fun some => absurd rfl some⟩ fun _ some => absurd rfl some
    exact fun fault => by cases fault
  have loop := @probe_eq_loop pdev children calls world empty
  have faults := @loop_oops_iff pdev children world calls
  rw [← loop] at faults
  apply Iff.intro
  · intro fills
    by_contra unallocated
    exact fills.returns (faults.mpr unallocated)
  · intro allocated
    have returns : (gpioSysfsProbe pdev children calls world).1 ≠ .error .oops :=
      fun fault => faults.mp fault allocated
    refine ⟨returns, fun _ front rest middle reached => ?_⟩
    obtain ⟨created, length, filled⟩ := reached.filled
    have onward := @probeChildren_append pdev 0 0 front rest _ middle calls.child reached.passed
    rw [← reached.split, ← loop, Nat.zero_add, Nat.zero_add] at onward
    refine ⟨onward, fun stores => ?_, created, length, filled.creates, length ▸ filled.slots_front⟩
    have slot : HasSlot middle.dev (available front).length := by
      by_contra slotless
      exact returns (onward ▸ probeChildren_stray stores slotless)
    exact ⟨slot, filled.lt_total slot⟩

/-- There is no memory for the array. -/
def arrayless : ProbeCalls := { ProbeCalls.succeeding with arrayAllocated := false }

theorem store_without_array :
    ¬ ∀ (pdev : Nat) (children : List ChildNode) (calls : ProbeCalls) (world : World),
      FillsSlots pdev children calls world := by
  intro claimed
  have first := (claimed 1 [gpio1] arrayless loaded).turn (by simp) [] [gpio1] _ ⟨rfl, rfl⟩
  exact (first.2.1 ⟨rfl, rfl, ⟨_, rfl⟩, rfl⟩).1

end BbbLkm.GpioSysfs
