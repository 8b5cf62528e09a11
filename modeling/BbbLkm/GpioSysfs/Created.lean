import Mathlib.Data.List.Forall2
import BbbLkm.GpioSysfs.Remove

namespace BbbLkm.GpioSysfs

open BbbLkm.Machine BbbLkm.Kernel

variable {pdev i position : Nat} {child : ChildNode} {children : List ChildNode}
  {world after : World}

/-- The class device of an available child, given with its index. -/
structure CreatedFor (calls : Nat → ChildCalls) (entry : ChildNode × Nat) (device : ClassDevice) :
    Prop where
  bytes : ∃ desc, (calls entry.2).gpiod = .ok desc ∧
    device.data.bytes = childBytes entry.1.label entry.2 desc
  format : device.format = readString device.data.bytes

/-- Between the two worlds one class device has been registered for each of the
children, with data in new managed memory. -/
structure Creates (pdev : Nat) (calls : Nat → ChildCalls) (entries : List (ChildNode × Nat))
    (created : List ClassDevice) (before after : World) : Prop where
  devices : after.devices = created.reverse ++ before.devices
  each : List.Forall₂ (CreatedFor calls) entries created
  fresh : ∀ device ∈ created,
    before.devm.next ≤ device.data.address ∧ device.data.address < after.devm.next
  grows : before.devm.Grows pdev after.devm

theorem Creates.trans {calls : Nat → ChildCalls} {middle : World}
    {entries more : List (ChildNode × Nat)} {created later : List ClassDevice}
    (first : Creates pdev calls entries created world middle)
    (second : Creates pdev calls more later middle after) :
    Creates pdev calls (entries ++ more) (created ++ later) world after where
  devices := by rw [second.devices, first.devices, List.reverse_append, List.append_assoc]
  each := List.rel_append first.each second.each
  fresh device member := by
    rcases List.mem_append.mp member with old | new
    · have range := first.fresh device old
      exact ⟨range.1, Nat.lt_of_lt_of_le range.2 second.grows.next⟩
    · have range := second.fresh device new
      exact ⟨Nat.le_trans first.grows.next range.1, range.2⟩
  grows := first.grows.trans second.grows

/-- A pass of the loop registers nothing and ends it, or registers the class
device of its child. -/
inductive ChildCreates (pdev : Nat) (calls : Nat → ChildCalls) (child : ChildNode) (i : Nat)
    (world : World) : Except Refusal Unit × World → Prop where
  | nothing (refusal : Refusal) (after : World) : Creates pdev calls [] [] world after →
      ChildCreates pdev calls child i world (.error refusal, after)
  | one (device : ClassDevice) (result : Except Refusal Unit) (after : World) :
      Creates pdev calls [(child, i)] [device] world after →
      ChildCreates pdev calls child i world (result, after)

theorem Creates.nothing {calls : Nat → ChildCalls} (devices : after.devices = world.devices)
    (grows : world.devm.Grows pdev after.devm) : Creates pdev calls [] [] world after where
  devices := devices
  each := .nil
  fresh := by simp
  grows := grows

theorem probeChild_creates (calls : Nat → ChildCalls) :
    ChildCreates pdev calls child i world (probeChild pdev child (calls i) i world) := by
  have steps := @probeChild_steps pdev i child world (calls i)
  generalize probeChild pdev child (calls i) i world = result at steps
  cases steps with
  | refused rc devm _ grows => exact .nothing _ _ (.nothing rfl grows)
  | reached desc _ _ found outcome =>
      have grown : world.devm.Grows pdev (world.devm.allocate pdev) :=
        (Managed.Grows.refl pdev world.devm).allocate
      have own : CreatedFor calls (child, i) ⟨world.nextDevice, pdev,
          ⟨world.devm.next, childBytes child.label i desc⟩,
          readString (childBytes child.label i desc)⟩ := ⟨⟨desc, found, rfl⟩, rfl⟩
      cases outcome with
      | refused rc dev _ _ => exact .nothing _ _ (.nothing rfl grown)
      | unrecorded rc _ _ => exact .nothing _ _ (.nothing rfl grown)
      | lost _ _ =>
          refine .one _ _ _ ⟨rfl, .cons own .nil, ?_, grown⟩
          simp [Managed.allocate]
      | created dev _ _ =>
          refine .one _ _ _ ⟨rfl, .cons own .nil, ?_, grown⟩
          simp [Managed.allocate]

/-- The loop has registered the class devices of the first available children,
and of all of them if it runs to its end. -/
theorem LoopRun.creates {calls : Nat → ChildCalls} {result : Except Refusal Unit × World}
    (run : LoopRun pdev calls children position i world result) :
    ∃ entries rest created, (available children).zipIdx i = entries ++ rest ∧
      Creates pdev calls entries created world result.2 ∧ (result.1 = .ok () → rest = []) := by
  induction run with
  | done position i world =>
      exact ⟨[], [], [], rfl, .nothing rfl (.refl pdev world.devm), fun _ => rfl⟩
  | skipped unusable _ ih =>
      rw [available_skipped unusable]
      exact ih
  | @stopped child rest position i world refusal after usable ended =>
      rw [available_taken usable, List.zipIdx_cons]
      have last := @probeChild_creates pdev i child (world.getChild pdev position) calls
      rw [ended] at last
      cases last with
      | nothing refusal after creates =>
          exact ⟨[], (child, i) :: (available rest).zipIdx (i + 1), [], rfl,
            .nothing creates.devices creates.grows, fun done => by cases done⟩
      | one device result after creates =>
          exact ⟨[(child, i)], (available rest).zipIdx (i + 1), [device], rfl,
            ⟨creates.devices, creates.each, creates.fresh, creates.grows⟩, fun done => by cases done⟩
  | @taken child rest position i world middle result usable passed _ ih =>
      rw [available_taken usable, List.zipIdx_cons]
      have first := @probeChild_creates pdev i child (world.getChild pdev position) calls
      rw [passed] at first
      cases first with
      | one device _ middle creates =>
          have here : Creates pdev calls [(child, i)] [device] world (middle.putChild pdev position) :=
            ⟨creates.devices, creates.each, creates.fresh, creates.grows⟩
          obtain ⟨entries, others, created, split, later, finished⟩ := ih
          exact ⟨(child, i) :: entries, others, device :: created, by rw [split]; rfl,
            here.trans later, finished⟩

theorem entered_creates (pdev : Nat) (children : List ChildNode) (calls : ProbeCalls) (world : World) :
    Creates pdev calls.child [] [] world (entered pdev children calls world) := by
  refine .nothing entered_frame.1 ?_
  cases allocated : calls.arrayAllocated with
  | false =>
      simp only [entered, allocateArray, allocated, Bool.false_eq_true, if_false]
      exact .refl pdev world.devm
  | true =>
      simp only [entered, allocateArray, allocated, if_true]
      exact (Managed.Grows.refl pdev world.devm).allocate

theorem probe_creates (pdev : Nat) (children : List ChildNode) (calls : ProbeCalls) (world : World) :
    ∃ entries rest created, (available children).zipIdx = entries ++ rest ∧
      Creates pdev calls.child entries created world (gpioSysfsProbe pdev children calls world).2 ∧
      ((gpioSysfsProbe pdev children calls world).1 = .ok () → rest = []) := by
  by_cases empty : children = []
  · subst empty
    exact ⟨[], [], [], rfl, .nothing rfl (.refl pdev world.devm), fun _ => rfl⟩
  · obtain ⟨entries, rest, created, split, creates, finished⟩ := (probeChildren_run pdev calls.child
      children 0 0 (entered pdev children calls world)).creates
    rw [probe_eq_loop empty]
    exact ⟨entries, rest, created, split, (entered_creates pdev children calls world).trans creates, finished⟩

/-- A probe that returns 0 has registered one class device for each available
child. -/
theorem probe_created {calls : ProbeCalls}
    (probed : gpioSysfsProbe pdev children calls world = (.ok (), after)) :
    ∃ created, Creates pdev calls.child (available children).zipIdx created world after := by
  obtain ⟨entries, rest, created, split, creates, finished⟩ :=
    probe_creates pdev children calls world
  rw [probed] at creates finished
  rw [finished rfl, List.append_nil] at split
  exact ⟨created, split ▸ creates⟩

theorem mem_available_of_mem_zipIdx {entry : ChildNode × Nat} {start : Nat}
    (member : entry ∈ (available children).zipIdx start) : entry.1 ∈ available children := by
  have mapped := List.mem_map_of_mem (f := Prod.fst) member
  rwa [List.zipIdx_map_fst] at mapped

theorem exists_mem_zipIdx (member : child ∈ available children) (start : Nat) :
    ∃ index, (child, index) ∈ (available children).zipIdx start := by
  rw [← List.zipIdx_map_fst start (available children)] at member
  obtain ⟨⟨_, index⟩, found, rfl⟩ := List.mem_map.mp member
  exact ⟨index, found⟩

/-- What all available children have goes to their class devices. -/
theorem Creates.each_and {calls : Nat → ChildCalls} {created : List ClassDevice} {P : ChildNode → Prop}
    (creates : Creates pdev calls (available children).zipIdx created world after)
    (all : ∀ child ∈ available children, P child) :
    List.Forall₂ (fun entry device => P entry.1 ∧ CreatedFor calls entry device)
      (available children).zipIdx created :=
  (List.forall₂_and_left _ _).mpr
    ⟨fun _ member => all _ (mem_available_of_mem_zipIdx member), creates.each⟩

end BbbLkm.GpioSysfs
