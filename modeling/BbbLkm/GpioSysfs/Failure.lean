import BbbLkm.GpioSysfs.Created

namespace BbbLkm.GpioSysfs

open BbbLkm.Machine BbbLkm.Kernel

variable {pdev i position : Nat} {child : ChildNode} {children : List ChildNode} {calls : ProbeCalls}
  {world after : World}

section Ending

theorem probeChild_oops_iff {calls : ChildCalls} :
    (probeChild pdev child calls i world).1 = .error .oops ↔
      ReachesCreate calls ∧ ¬ HasSlot world.dev i := by
  have steps := @probeChild_steps pdev i child world calls
  generalize probeChild pdev child calls i world = result at steps
  cases steps with
  | refused rc devm unreached _ => exact iff_of_false (by simp) fun both => unreached both.1
  | reached desc _ reaches _ outcome =>
      rw [and_iff_right reaches]
      cases outcome with
      | refused rc dev _ stored =>
          exact iff_of_false (by simp) fun missing => missing (hasSlot_of_setSlot stored)
      | unrecorded rc _ missing => exact iff_of_true rfl missing
      | lost _ missing => exact iff_of_true rfl missing
      | created dev _ stored =>
          exact iff_of_false (by simp) fun missing => missing (hasSlot_of_setSlot stored)

/-- While there is a slot for every child, the loop does not fault. -/
theorem LoopRun.returns {calls : Nat → ChildCalls} {result : Except Refusal Unit × World}
    (run : LoopRun pdev calls children position i world result)
    (room : ∀ index < (available children).length, HasSlot world.dev (i + index)) :
    result.1 ≠ .error .oops := by
  induction run with
  | done => simp
  | skipped unusable _ ih => exact ih (available_skipped unusable ▸ room)
  | @stopped child rest position i world refusal after usable ended =>
      have count := @available_cons child rest usable
      intro oops
      have faults := @probeChild_oops_iff pdev i child (world.getChild pdev position) (calls i)
      rw [ended] at faults
      exact (faults.mp oops).2 (room 0 (by omega))
  | @taken child rest position i world middle result usable passed _ ih =>
      have count := @available_cons child rest usable
      have first := @probeChild_outcome pdev i child (world.getChild pdev position) (calls i)
      rw [passed] at first
      cases first with
      | created device devm dev _ _ _ _ stored =>
          apply ih
          intro index bound
          rw [Nat.add_assoc, Nat.add_comm 1 index]
          exact (hasSlot_setSlot stored _).mpr (room (index + 1) (by omega))

theorem errno_iff_returns {refusal : Refusal} : (∃ rc, refusal = .errno rc) ↔ refusal ≠ .oops := by
  cases refusal with
  | errno rc => simp
  | oops => simp

/-- Without an array, the first available child ends the loop, and with a fault
if its calls get to the store. -/
theorem LoopRun.ends_null {calls : Nat → ChildCalls} {result : Except Refusal Unit × World}
    (run : LoopRun pdev calls children position i world result) (null : world.dev = .null)
    (some : available children ≠ []) :
    ∃ refusal, result.1 = .error refusal ∧ (refusal = .oops ↔ ReachesCreate (calls i)) := by
  induction run with
  | done => exact absurd rfl some
  | skipped unusable _ ih => exact ih null (available_skipped unusable ▸ some)
  | @stopped child rest position i world refusal after usable ended =>
      have slotless : ¬ HasSlot (world.getChild pdev position).dev i := by
        rw [World.getChild, null]
        exact not_false
      have faults := @probeChild_oops_iff pdev i child (world.getChild pdev position) (calls i)
      rw [ended, and_iff_left slotless] at faults
      exact ⟨refusal, rfl, by simpa using faults⟩
  | @taken child rest position i world middle result usable passed _ _ =>
      have first := @probeChild_outcome pdev i child (world.getChild pdev position) (calls i)
      rw [passed] at first
      cases first with
      | created device devm dev _ _ _ _ stored =>
          rw [World.getChild, null] at stored
          cases stored

theorem LoopRun.null {calls : Nat → ChildCalls} {result : Except Refusal Unit × World}
    (run : LoopRun pdev calls children position i world result) (null : world.dev = .null)
    (some : available children ≠ []) :
    (∃ rc, result.1 = .error (.errno rc)) ↔ ¬ ReachesCreate (calls i) := by
  obtain ⟨refusal, ended, faults⟩ := run.ends_null null some
  simp only [ended, Except.error.injEq]
  rw [errno_iff_returns, ne_eq, faults]

/-- No call for a child fails.  Without the array, the calls for the first child
get to the store that faults, unless there is no child to store. -/
def Unfailing (children : List ChildNode) (calls : ProbeCalls) : Prop :=
  if calls.arrayAllocated then ∀ index < (available children).length, Succeeds (calls.child index)
  else available children ≠ [] → ReachesCreate (calls.child 0)

theorem entered_room (allocated : calls.arrayAllocated = true) :
    ∀ index < (available children).length, HasSlot (entered pdev children calls world).dev (0 + index) := by
  intro index bound
  have most : (available children).length ≤ children.length := List.length_filter_le _ _
  rw [(@entered_array pdev children calls world allocated).1, HasSlot, List.length_replicate]
  omega

theorem probe_errno_iff (nonempty : children ≠ []) :
    (∃ rc, (gpioSysfsProbe pdev children calls world).1 = .error (.errno rc)) ↔
      ¬ Unfailing children calls := by
  have outcome := @probe_outcome pdev children calls world nonempty
  have loop := @probe_eq_loop pdev children calls world nonempty
  rw [Unfailing]
  cases allocated : calls.arrayAllocated with
  | false =>
      simp only [Bool.false_eq_true, if_false]
      by_cases none : available children = []
      · refine iff_of_false ?_ (fun fails => fails fun some => absurd none some)
        generalize gpioSysfsProbe pdev children calls world = result at outcome
        cases outcome with
        | finished => simp
        | stopped created _ _ _ _ length => simp [none] at length
        | lost created _ _ _ length => simp [none] at length
      · rw [loop, (probeChildren_run _ _ _ _ _ _).null (entered_null allocated) none, Classical.not_imp,
          and_iff_right none]
  | true =>
      have returns := (probeChildren_run pdev calls.child children 0 0
        (entered pdev children calls world)).returns (entered_room allocated)
      rw [← loop] at returns
      simp only [if_true]
      generalize gpioSysfsProbe pdev children calls world = result at outcome returns
      cases outcome with
      | finished created after _ length succeeded _ =>
          refine iff_of_false (by simp) fun fails => fails fun index bound => ?_
          exact Nat.zero_add index ▸ succeeded index (length ▸ bound)
      | stopped created refusal after dev _ length _ fails _ _ =>
          refine iff_of_true ?_ fun every => fails ((Nat.zero_add created.length).symm ▸ every _ length)
          simp only [Except.error.injEq, errno_iff_returns]
          exact fun oops => returns (oops ▸ rfl)
      | lost => exact absurd rfl returns

end Ending

section References

theorem probeChild_references (calls : ChildCalls) :
    (probeChild pdev child calls i world).2.references = world.references := by
  have outcome := @probeChild_outcome pdev i child world calls
  generalize probeChild pdev child calls i world = result at outcome
  cases outcome with
  | failed => rfl
  | lost => rfl
  | created => rfl

/-- The loop holds a reference when it is left before its end, and then only. -/
theorem LoopRun.references {calls : Nat → ChildCalls} {result : Except Refusal Unit × World}
    (run : LoopRun pdev calls children position i world result) :
    ∃ held, result.2.references = held ++ world.references ∧ (held = [] ↔ result.1 = .ok ()) := by
  induction run with
  | done => exact ⟨[], rfl, by simp⟩
  | skipped _ _ ih => exact ih
  | @stopped child rest position i world refusal after usable ended =>
      have kept := @probeChild_references pdev i child (world.getChild pdev position) (calls i)
      rw [ended] at kept
      exact ⟨[(pdev, position)], kept, by simp⟩
  | @taken child rest position i world middle result usable passed _ ih =>
      have kept := @probeChild_references pdev i child (world.getChild pdev position) (calls i)
      rw [passed] at kept
      have dropped : (middle.putChild pdev position).references = world.references := by
        rw [World.putChild, kept, World.getChild, List.erase_cons_head]
      rwa [dropped] at ih

/-- A probe that returns leaves every reference count as it was. -/
def BalancesReferences (pdev : Nat) (children : List ChildNode) (calls : ProbeCalls) (world : World) :
    Prop :=
  (gpioSysfsProbe pdev children calls world).1 ≠ .error .oops → ∀ node,
    (gpioSysfsProbe pdev children calls world).2.references.count node = world.references.count node

theorem entered_references : (entered pdev children calls world).references = world.references := by
  cases allocated : calls.arrayAllocated <;> simp [entered, allocateArray, allocated]

/-- A probe that returns has dropped its references if and only if it does not
return an error from inside the loop. -/
theorem probe_balances_references_iff (pdev : Nat) (children : List ChildNode) (calls : ProbeCalls)
    (world : World) : BalancesReferences pdev children calls world ↔ Unfailing children calls := by
  by_cases empty : children = []
  · subst empty
    refine iff_of_true (fun _ node => rfl) ?_
    rw [Unfailing]
    split
    · exact fun index bound => absurd bound (Nat.not_lt_zero _)
    · exact fun some => absurd rfl some
  obtain ⟨held, references, none⟩ := (probeChildren_run pdev calls.child children 0 0
    (entered pdev children calls world)).references
  rw [← probe_eq_loop empty] at references none
  rw [entered_references] at references
  have fails := @probe_errno_iff pdev children calls world empty
  rw [BalancesReferences, references]
  generalize gpioSysfsProbe pdev children calls world = result at none fails ⊢
  rcases result with ⟨refusal | _, after⟩
  · have leaked : held ≠ [] := fun nothing => by cases none.mp nothing
    cases refusal with
    | oops =>
        refine iff_of_true (fun returns => absurd rfl returns) ?_
        by_contra failing
        obtain ⟨rc, same⟩ := fails.mpr failing
        cases same
    | errno rc =>
        refine iff_of_false (fun balances => ?_) (fails.mp ⟨rc, rfl⟩)
        obtain ⟨node, member⟩ := List.exists_mem_of_ne_nil held leaked
        have count := balances (by simp) node
        have some : 0 < held.count node := List.count_pos_iff.mpr member
        rw [List.count_append] at count
        omega
  · refine iff_of_true (fun _ node => by rw [none.mpr rfl]; rfl) ?_
    by_contra failing
    obtain ⟨rc, same⟩ := fails.mpr failing
    cases same

/-- The device tree names no GPIO for the child. -/
def ungiven : ProbeCalls where
  arrayAllocated := true
  child _ := { ProbeCalls.succeeding.child 0 with gpiod := .error ⟨-2, by decide⟩ }

theorem failed_probe_keeps_reference :
    ¬ ∀ (pdev : Nat) (children : List ChildNode) (calls : ProbeCalls) (world : World),
      BalancesReferences pdev children calls world := by
  intro claimed
  have balances := claimed 1 [gpio1] ungiven loaded (by decide) (1, 0)
  exact absurd balances (by decide)

end References

section ClassDevices

variable {core : Core World Unit}

abbrev ProbeRequest := Request (List ChildNode) ProbeCalls

/-- A probe that returns an error leaves no class device that was not there
before it, and in particular none with data that it has allocated and that the
core has freed. -/
def LeavesNothing (core : Core World Unit) : ProbeRequest → Prop
  | .probe pdev children calls => ∀ rc,
      (serve gpioPlatformDriver core (.probe pdev children calls)).2 = .refused (.errno rc) →
        ∀ device ∈ (serve gpioPlatformDriver core (.probe pdev children calls)).1.world.devices,
          device ∈ core.world.devices ∧
          (core.world.devm.next ≤ device.data.address →
            (serve gpioPlatformDriver core (.probe pdev children calls)).1.world.devm.Live
              device.data.address)
  | .remove _ => True

/-- If the calls for the first child succeed, so do those for all others. -/
def FailsAtFirst (core : Core World Unit) : ProbeRequest → Prop
  | .probe pdev children calls => pdev ∉ core.bound.map Prod.fst → calls.arrayAllocated = true →
      Succeeds (calls.child 0) → ∀ index < (available children).length, Succeeds (calls.child index)
  | .remove _ => True

/-- The data of the registered class devices has been allocated. -/
def DataKnown (world : World) : Prop :=
  ∀ device ∈ world.devices, device.data.address < world.devm.next

theorem probe_dataKnown {result : Except Refusal Unit} (known : DataKnown world)
    (probed : gpioSysfsProbe pdev children calls world = (result, after)) : DataKnown after := by
  obtain ⟨_, _, created, _, creates, _⟩ := probe_creates pdev children calls world
  rw [probed] at creates
  intro device member
  rw [creates.devices, List.mem_append, List.mem_reverse] at member
  rcases member with new | old
  · exact (creates.fresh device new).2
  · exact Nat.lt_of_lt_of_le (known device old) creates.grows.next

theorem remove_dataKnown (known : DataKnown world) : DataKnown (gpioSysfsRemove world) := by
  rw [gpioSysfsRemove, foldl_deviceUnregister]
  intro device member
  exact known device (List.mem_filter.mp member).1

theorem dataKnown_kept :
    Kept gpioPlatformDriver (fun _ _ => True) fun core => DataKnown core.world where
  bind _ known _ probed := probe_dataKnown known probed
  refuse _ known _ probed := fun device member => probe_dataKnown known probed device member
  oops _ known _ probed := probe_dataKnown known probed
  unbind known _ _ := remove_dataKnown known

/-- A probe that returns an error at a child after others registers the class
devices of these. -/
theorem created_of_errno {rc : Errno}
    (probed : gpioSysfsProbe pdev children calls world = (.error (.errno rc), after)) :
    (∃ created, after.devices = created.reverse ++ world.devices ∧
      (∀ device ∈ created, world.devm.next ≤ device.data.address) ∧
      (created = [] ↔ (calls.arrayAllocated = true → Succeeds (calls.child 0) →
        ∀ index < (available children).length, Succeeds (calls.child index)))) := by
  obtain ⟨_, _, created, _, creates, _⟩ := probe_creates pdev children calls world
  rw [probed] at creates
  refine ⟨created, creates.devices, fun device member => (creates.fresh device member).1, ?_⟩
  by_cases empty : children = []
  · subst empty
    have same : world.devices = created.reverse ++ world.devices := by
      rw [← creates.devices]
      exact congrArg (fun result => result.2.devices) probed
    refine iff_of_true ?_ fun _ _ index bound => absurd bound (Nat.not_lt_zero _)
    simpa using same
  · have outcome := @probe_outcome pdev children calls world empty
    rw [probed] at outcome
    cases outcome with
    | stopped others _ _ dev progress length succeeded fails stored _ =>
        have same : others = created := by
          have devices := progress.devices.symm.trans creates.devices
          rw [entered_frame.1, List.append_cancel_right_eq] at devices
          exact List.reverse_injective devices
        subst same
        apply Iff.intro
        · rintro rfl _ first
          exact absurd first fails
        · intro every
          by_contra some
          obtain ⟨device, rest, split⟩ := List.exists_cons_of_ne_nil some
          have first : Succeeds (calls.child (0 + 0)) := succeeded 0 (by rw [split]; exact Nat.succ_pos _)
          cases allocated : calls.arrayAllocated with
          | false =>
              rw [entered_null allocated] at stored
              exact some (List.map_eq_nil_iff.mp (setSlots_null stored).1)
          | true =>
              exact fails ((Nat.zero_add others.length).symm ▸ every allocated first _ length)

theorem failsAtFirst_iff (known : DataKnown core.world) (request : ProbeRequest) :
    FailsAtFirst core request ↔ LeavesNothing core request := by
  cases request with
  | remove pdev => exact Iff.rfl
  | probe pdev children calls =>
  apply Iff.intro
  · intro first rc refused
    obtain ⟨unbound, after, probed, _⟩ := serve_refused refused
    obtain ⟨created, devices, _, none⟩ := created_of_errno probed
    rw [none.mpr (first unbound), List.reverse_nil, List.nil_append] at devices
    rw [serve_probe_errno unbound probed]
    intro device member
    have old : device ∈ core.world.devices := devices ▸ member
    have address := known device old
    exact ⟨old, fun fresh => by omega⟩
  · intro leaves unbound allocated first
    by_contra incomplete
    have failing : ¬ Unfailing children calls := by
      rw [Unfailing, if_pos allocated]
      exact incomplete
    have nonempty : children ≠ [] := by
      rintro rfl
      exact incomplete fun index bound => absurd bound (Nat.not_lt_zero _)
    obtain ⟨rc, ended⟩ := (@probe_errno_iff pdev children calls core.world nonempty).mpr failing
    have probed : gpioPlatformDriver.probe pdev children calls core.world =
        (.error (.errno rc), (gpioSysfsProbe pdev children calls core.world).2) := Prod.ext ended rfl
    obtain ⟨created, devices, fresh, none⟩ := created_of_errno probed
    have served := serve_probe_errno unbound probed
    have left := leaves rc (by rw [served])
    rw [served] at left
    have some : created ≠ [] := fun nothing => incomplete (none.mp nothing allocated first)
    obtain ⟨device, member⟩ := List.exists_mem_of_ne_nil created some
    have registered : device ∈ (gpioSysfsProbe pdev children calls core.world).2.devices := by
      rw [devices]
      exact List.mem_append_left _ (List.mem_reverse.mpr member)
    have address := known device (left device registered).1
    have newer := fresh device member
    omega

/-- Every failed probe of a run leaves nothing behind if and only if every
probe fails, if it does, at its first child. -/
theorem run_leaves_nothing_iff (requests : List ProbeRequest) :
    Along (serve gpioPlatformDriver) LeavesNothing (.start loaded) requests ↔
      Along (serve gpioPlatformDriver) FailsAtFirst (.start loaded) requests := by
  have initial : DataKnown (Core.start loaded : Core World Unit).world := by
    intro device member
    cases member
  exact (along_congr (fun core => DataKnown core.world)
    (fun _ request known _ => dataKnown_kept.serve request known trivial)
    (fun _ request known => failsAtFirst_iff known request) initial).symm

/-- The second child names no GPIO. -/
def secondUngiven : ProbeCalls where
  arrayAllocated := true
  child i := if i = 1 then ungiven.child i else ProbeCalls.succeeding.child i

theorem first_class_device_survives :
    ¬ ∀ requests : List ProbeRequest,
      Along (serve gpioPlatformDriver) LeavesNothing (.start loaded) requests := by
  intro claimed
  have leaves := (claimed [.probe 1 [gpio1, unlabelled] secondUngiven]).1 ⟨-2, by decide⟩ rfl
  have left := leaves _ (List.mem_singleton.mpr rfl)
  cases left.1

end ClassDevices

end BbbLkm.GpioSysfs
