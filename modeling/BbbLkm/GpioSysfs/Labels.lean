import BbbLkm.GpioSysfs.Created

namespace BbbLkm.GpioSysfs

open BbbLkm.Machine BbbLkm.Kernel

variable {i : Nat} {label : Option CString} {desc : UInt32} {children : List ChildNode}

/-- `label_show`, where a NUL ends the label among the known bytes. -/
def labelShow (data : GpioDevicePrivateData) : Option (List UInt8) :=
  (readString data.bytes).map fun text => text ++ [10]

/-- The offsets from the start of the label that storing it writes to. -/
def labelWrites (label : Option CString) (i : Nat) : List Nat := (labelStore label i).writes

/-- The label or the default name, cut to what the field holds. -/
def agreedLabel (label : Option CString) (i : Nat) : List UInt8 :=
  match label with
  | none => (ascii "unknown gpio" ++ ascii (toString i)).take (sizeofLabel - 1)
  | some name => name.bytes.take (sizeofLabel - 1)

def LabelFits (label : Option CString) : Prop := ∀ name, label = some name → name.length < sizeofLabel

/-- The labels of the available children stay in their fields, and after a probe
that returns 0 the class devices show them. -/
structure LabelsKept (children : List ChildNode) : Prop where
  writes : ∀ entry ∈ (available children).zipIdx, ∀ offset ∈ labelWrites entry.1.label entry.2,
    offset < sizeofLabel
  shows : ∀ pdev calls world after, gpioSysfsProbe pdev children calls world = (.ok (), after) →
    ∃ created, after.devices = created.reverse ++ world.devices ∧
      List.Forall₂ (fun entry device =>
          labelShow device.data = some (agreedLabel entry.1.label entry.2 ++ [10]))
        (available children).zipIdx created

theorem digit_ne_nul {character : Char} (digit : character.isDigit = true) :
    character.val.toUInt8 ≠ 0 := by
  simp only [Char.isDigit, Bool.and_eq_true, decide_eq_true_eq, ge_iff_le, UInt32.le_iff_toNat_le] at digit
  intro nul
  have low := congrArg UInt8.toNat nul
  rw [UInt32.toNat_toUInt8] at low
  have first : 48 ≤ character.val.toNat := digit.1
  have last : character.val.toNat ≤ 57 := digit.2
  simp only [UInt8.toNat_zero] at low
  omega

theorem ascii_number_noNul (i : Nat) : 0 ∉ ascii (toString i) := by
  intro nul
  obtain ⟨character, member, same⟩ := List.mem_map.mp nul
  have digit : character.isDigit = true :=
    Nat.isDigit_of_mem_toDigits (b := 10) (by decide) (by decide) (by simpa using member)
  exact digit_ne_nul digit same

theorem agreedLabel_noNul (label : Option CString) (i : Nat) : 0 ∉ agreedLabel label i := by
  cases label with
  | none =>
      intro nul
      rcases List.mem_append.mp (List.mem_of_mem_take nul) with name | number
      · exact absurd name (by decide)
      · exact ascii_number_noNul i number
  | some name => exact fun nul => name.noNul (List.mem_of_mem_take nul)

theorem length_agreedLabel (label : Option CString) (i : Nat) : (agreedLabel label i).length < sizeofLabel := by
  cases label with
  | none => exact Nat.lt_of_le_of_lt (List.length_take_le _ _) (by decide)
  | some name => exact Nat.lt_of_le_of_lt (List.length_take_le _ _) (by decide)

theorem mem_labelWrites {offset : Nat} :
    offset ∈ labelWrites label i ↔ offset < (labelStore label i).stored.length := by
  simp [labelWrites, DataStore.writes, labelStore]

theorem labelStore_of_fits (fits : LabelFits label) :
    (labelStore label i).stored = agreedLabel label i ++ [0] := by
  cases label with
  | none => rfl
  | some name =>
      have short := fits name rfl
      rw [labelStore, agreedLabel, List.take_of_length_le (Nat.le_sub_one_of_lt short)]

/-- A label that fits is followed by its NUL, and the pointer comes after both. -/
theorem readString_childBytes (fits : LabelFits label) :
    readString (childBytes label i desc) = some (agreedLabel label i) := by
  have short := length_agreedLabel label i
  have split : ∃ rest, childBytes label i desc = agreedLabel label i ++ 0 :: rest := by
    have stored : (agreedLabel label i ++ [0]).length ≤ sizeofLabel := by
      rw [List.length_append]
      exact short
    have first : (labelStore label i).offset = 0 := rfl
    rw [childBytes, childStores, List.foldl_cons, List.foldl_cons, List.foldl_nil, overwrite, overwrite,
      first, labelStore_of_fits fits, List.take_zero, List.nil_append, descStore, List.take_append,
      List.take_of_length_le stored]
    simp only [List.append_assoc, List.cons_append, List.nil_append]
    exact ⟨_, rfl⟩
  obtain ⟨rest, split⟩ := split
  have noNul := agreedLabel_noNul label i
  rw [readString, split, if_pos (by simp), List.takeWhile_append_of_pos]
  · simp
  · intro byte member
    simpa using fun nul : byte = 0 => noNul (nul ▸ member)

theorem labelShow_of_fits {entry : ChildNode × Nat} {device : ClassDevice} {calls : Nat → ChildCalls}
    (fits : LabelFits entry.1.label) (created : CreatedFor calls entry device) :
    labelShow device.data = some (agreedLabel entry.1.label entry.2 ++ [10]) := by
  obtain ⟨desc, _, bytes⟩ := created.bytes
  rw [labelShow, bytes, readString_childBytes fits, Option.map_some]

/-- The labels are kept if and only if no available child has one of 20 bytes or
more. -/
theorem labels_kept_iff (children : List ChildNode) :
    LabelsKept children ↔ ∀ child ∈ available children, LabelFits child.label := by
  apply Iff.intro
  · intro kept child member name labelled
    obtain ⟨index, entry⟩ := exists_mem_zipIdx member 0
    have nul := kept.writes _ entry name.length
    simp only [mem_labelWrites, labelled, labelStore, List.length_append] at nul
    exact nul (Nat.lt_succ_self _)
  · intro fits
    constructor
    · intro entry member offset written
      have short := length_agreedLabel entry.1.label entry.2
      rw [mem_labelWrites, labelStore_of_fits (fits _ (mem_available_of_mem_zipIdx member)),
        List.length_append] at written
      exact Nat.lt_of_lt_of_le written short
    · intro pdev calls world after probed
      obtain ⟨created, creates⟩ := probe_created probed
      refine ⟨created, creates.devices, ?_⟩
      exact (creates.each_and fits).imp fun entry device both => labelShow_of_fits both.1 both.2

/-- A label of 20 characters. -/
def twentyCharacters : ChildNode := ⟨true, some ⟨ascii "gpio1.28-gpio1.28-p9", by decide⟩⟩

theorem long_label_overruns : ¬ ∀ children : List ChildNode, LabelsKept children := by
  intro claimed
  have nul := (claimed [twentyCharacters]).writes (twentyCharacters, 0) (by simp [available, twentyCharacters])
  exact absurd (nul 20 (by decide)) (by decide)

end BbbLkm.GpioSysfs
