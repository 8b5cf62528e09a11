import BbbLkm.Kernel.Vsprintf
import BbbLkm.GpioSysfs.Labels
import BbbLkm.GpioSysfs.Failure

namespace BbbLkm.GpioSysfs

open BbbLkm.Machine BbbLkm.Kernel

variable {pdev : Nat} {children : List ChildNode} {calls : ProbeCalls} {world after : World}

/-- The name, with what stands in the place of the missing arguments. -/
def deviceName (texts : Nat → List UInt8) (device : ClassDevice) : Option (List UInt8) :=
  device.format.map (kobjectSetName texts)

def labelBytes (child : ChildNode) : Option (List UInt8) := child.label.map CString.bytes

/-- Every child has a label of its own that fits its field and has no slash. -/
structure LabelledApart (children : List ChildNode) : Prop where
  labelled : ∀ child ∈ children, ∃ name, child.label = some name ∧ name.length < sizeofLabel ∧
    47 ∉ name.bytes
  distinct : (children.map labelBytes).Nodup

structure AllSucceed (children : List ChildNode) (calls : ProbeCalls) : Prop where
  arrayAllocated : calls.arrayAllocated = true
  child : ∀ index < (available children).length, Succeeds (calls.child index)

/-- The class devices have the labels for their names, whatever the missing
arguments are, and so have names of their own. -/
def NamedByLabels (pdev : Nat) (children : List ChildNode) (calls : ProbeCalls) (world : World) : Prop :=
  ∀ after, gpioSysfsProbe pdev children calls world = (.ok (), after) →
    ∃ created : List ClassDevice, after.devices = created.reverse ++ world.devices ∧
      ∀ texts : Nat → Nat → List UInt8,
        created.map (fun device => deviceName (texts device.id) device) =
            (available children).map labelBytes ∧
          (created.map fun device => deviceName (texts device.id) device).Nodup

def Percentless (child : ChildNode) : Prop := ∀ name, child.label = some name → 37 ∉ name.bytes

theorem kobjectSetName_plain {texts : Nat → List UInt8} {name : List UInt8} (plain : 37 ∉ name)
    (slashless : 47 ∉ name) : kobjectSetName texts name = name := by
  rw [kobjectSetName, vsnprintf, expand_plain plain]
  refine (List.map_congr_left fun byte member => ?_).trans (List.map_id name)
  exact if_neg fun slash : byte = 47 => slashless (slash ▸ member)

theorem kobjectSetName_ne {texts : Nat → List UInt8} {name : List UInt8} (silent : ∀ k, 37 ∉ texts k)
    (directive : 37 ∈ name) : kobjectSetName texts name ≠ name := by
  intro same
  have fewer := @count_expand_lt texts 0 name silent directive
  have kept : (kobjectSetName texts name).count 37 = (vsnprintf texts name).count 37 := by
    rw [kobjectSetName, List.count, List.countP_map]
    apply List.countP_congr
    intro byte _
    simp only [Function.comp_apply, beq_iff_eq]
    split
    · rename_i slash
      rw [slash]
      decide
    · exact Iff.rfl
  rw [same, vsnprintf] at kept
  omega

theorem format_of_created {entry : ChildNode × Nat} {device : ClassDevice} {calls : Nat → ChildCalls}
    {name : CString} (labelled : entry.1.label = some name) (short : name.length < sizeofLabel)
    (created : CreatedFor calls entry device) : device.format = some name.bytes := by
  obtain ⟨desc, _, bytes⟩ := created.bytes
  have fits : LabelFits entry.1.label := by
    intro other same
    obtain rfl := Option.some.inj (labelled.symm.trans same)
    exact short
  rw [created.format, bytes, readString_childBytes fits, labelled, agreedLabel,
    List.take_of_length_le (Nat.le_sub_one_of_lt short)]

theorem probe_ok (nonempty : children ≠ []) (succeed : AllSucceed children calls) :
    ∃ after, gpioSysfsProbe pdev children calls world = (.ok (), after) := by
  have outcome := @probe_outcome pdev children calls world nonempty
  generalize gpioSysfsProbe pdev children calls world = result at outcome
  cases outcome with
  | finished created after => exact ⟨after, rfl⟩
  | stopped created refusal after dev _ length _ fails =>
      exact absurd (succeed.child _ length) ((Nat.zero_add created.length) ▸ fails)
  | lost created last after _ length _ _ missing =>
      exact absurd (entered_room succeed.arrayAllocated _ length) missing

/-- The class device has the label of its child for a format. -/
def FormattedBy (child : ChildNode) (device : ClassDevice) : Prop :=
  ∃ name, child.label = some name ∧ 47 ∉ name.bytes ∧ device.format = some name.bytes

theorem formats_of_labels (apart : LabelledApart children) {created : List ClassDevice}
    (creates : Creates pdev calls.child (available children).zipIdx created world after) :
    List.Forall₂ FormattedBy (available children) created := by
  have labelled := creates.each_and fun child member =>
    apart.labelled child (List.mem_of_mem_filter member)
  rw [← List.zipIdx_map_fst 0 (available children), List.forall₂_map_left_iff]
  apply labelled.imp
  intro entry device both
  obtain ⟨⟨name, same, short, slashless⟩, createdFor⟩ := both
  exact ⟨name, same, slashless, format_of_created same short createdFor⟩

theorem deviceName_iff {child : ChildNode} {device : ClassDevice} (format : FormattedBy child device) :
    (∀ texts : Nat → Nat → List UInt8, deviceName (texts device.id) device = labelBytes child) ↔
      Percentless child := by
  obtain ⟨name, labelled, slashless, format⟩ := format
  simp only [deviceName, labelBytes, format, labelled, Option.map_some, Option.some.injEq]
  apply Iff.intro
  · intro named other same directive
    obtain rfl := Option.some.inj (labelled.symm.trans same)
    -- each missing argument prints as a zero
    have silent : (37 : UInt8) ∉ [48] := by decide
    exact kobjectSetName_ne (fun _ => silent) directive (named fun _ _ => [48])
  · intro plain texts
    exact kobjectSetName_plain (plain name labelled) slashless

theorem names_eq_iff {usable : List ChildNode} {created : List ClassDevice}
    (formats : List.Forall₂ FormattedBy usable created) :
    (∀ texts : Nat → Nat → List UInt8,
      created.map (fun device => deviceName (texts device.id) device) = usable.map labelBytes) ↔
        ∀ child ∈ usable, Percentless child := by
  induction formats with
  | nil => simp
  | cons format _ ih =>
      simp only [List.map_cons, List.cons.injEq, forall_and, List.forall_mem_cons, ih,
        deviceName_iff format]

/-- The class devices are named by the labels if and only if no label of an
available child has a percent sign. -/
theorem names_are_labels_iff (pdev : Nat) (world : World) (apart : LabelledApart children)
    (succeed : AllSucceed children calls) :
    NamedByLabels pdev children calls world ↔ ∀ child ∈ available children, Percentless child := by
  apply Iff.intro
  · intro named child member
    have nonempty : children ≠ [] := List.ne_nil_of_mem (List.mem_of_mem_filter member)
    obtain ⟨after, probed⟩ := @probe_ok pdev children calls world nonempty succeed
    obtain ⟨created, devices, names⟩ := named after probed
    obtain ⟨others, creates⟩ := probe_created probed
    obtain rfl : created = others :=
      List.reverse_injective (List.append_cancel_right (devices.symm.trans creates.devices))
    exact (names_eq_iff (formats_of_labels apart creates)).mp (fun texts => (names texts).1) child member
  · intro plain after probed
    obtain ⟨created, creates⟩ := probe_created probed
    refine ⟨created, creates.devices, fun texts => ?_⟩
    have names := (names_eq_iff (formats_of_labels apart creates)).mpr plain texts
    refine ⟨names, ?_⟩
    rw [names]
    exact apart.distinct.sublist (List.filter_sublist.map labelBytes)

theorem succeeding_all (children : List ChildNode) : AllSucceed children .succeeding where
  arrayAllocated := rfl
  child _ _ := ⟨rfl, ⟨_, rfl⟩, rfl, rfl⟩

def gpio2 : ChildNode := ⟨true, some ⟨ascii "gpio2.3", by decide⟩⟩

theorem labels_name_devices : NamedByLabels 1 [gpio1, gpio2] .succeeding loaded := by
  have apart : LabelledApart [gpio1, gpio2] := ⟨by simp [gpio1, gpio2]; decide, by decide⟩
  apply (names_are_labels_iff 1 loaded apart (succeeding_all _)).mpr
  intro child member
  have either : child = gpio1 ∨ child = gpio2 := by
    simpa using List.mem_of_mem_filter member
  rcases either with rfl | rfl
  · intro name labelled
    obtain rfl := Option.some.inj labelled
    decide
  · intro name labelled
    obtain rfl := Option.some.inj labelled
    decide

/-- The label has a doubled percent sign. -/
def percent : ChildNode := ⟨true, some ⟨ascii "50%%", by decide⟩⟩

theorem percent_sign_lost :
    ¬ ∀ (pdev : Nat) (children : List ChildNode) (calls : ProbeCalls) (world : World),
      LabelledApart children → AllSucceed children calls → NamedByLabels pdev children calls world := by
  intro claimed
  have apart : LabelledApart [percent] := ⟨by simp [percent]; decide, by simp⟩
  obtain ⟨created, devices, names⟩ := claimed 1 [percent] .succeeding loaded apart (succeeding_all _) _ rfl
  have made : created = [⟨0, 1, ⟨1, childBytes percent.label 0 0xC0000000⟩, some (ascii "50%%")⟩] := by
    rw [← List.reverse_reverse created, ← List.append_nil created.reverse]
    exact congrArg List.reverse devices.symm
  have named := (names fun _ _ => []).1
  rw [made] at named
  exact absurd named (by decide)

end BbbLkm.GpioSysfs
