import BbbLkm.PseudoN.Vfs
import BbbLkm.Pseudo.Bounds

namespace BbbLkm.Pseudo

open BbbLkm.Memory BbbLkm.Kernel BbbLkm.Cursor BbbLkm.Machine
open BbbLkm.PseudoN (PseudoDevPrivateData PseudoDrvData SEEK_SET SEEK_CUR SEEK_END RDWR origin?
  pseudoRead_inside pseudoWrite_inside pseudoRead_position pseudoWrite_position pseudoLseek_wraps
  pseudoLseek_unnamed toInt_maxSize region_size)

section Transfers

variable {left right : PseudoDevPrivateData} {leftMemory rightMemory : Mem} {offset : Int64}
  {position : Nat}

def SameContents (left right : PseudoDevPrivateData) (leftMemory rightMemory : Mem) : Prop :=
  ∀ index < left.size.toNat,
    leftMemory (left.region.address index) = rightMemory (right.region.address index)

theorem pseudoRead_same (sizes : right.size = left.size) (here : offset.toInt = position)
    (inside : position ≤ left.size.toNat) (same : SameContents left right leftMemory rightMemory)
    (count : UInt32) :
    (PseudoN.pseudoRead left leftMemory count offset none).ret =
        (PseudoN.pseudoRead right rightMemory count offset none).ret ∧
      (PseudoN.pseudoRead left leftMemory count offset none).offset =
        (PseudoN.pseudoRead right rightMemory count offset none).offset ∧
      (PseudoN.pseudoRead left leftMemory count offset none).delivered =
        (PseudoN.pseudoRead right rightMemory count offset none).delivered := by
  have room := transfer_room inside count.toNat
  rw [pseudoRead_inside here inside, pseudoRead_inside here (sizes.symm ▸ inside)]
  simp only [sizes, reached_none, if_true, true_and]
  rw [Region.load_address, Region.load_address]
  apply List.map_congr_left
  intro index member
  have covered := List.mem_range.mp member
  exact same (position + index) (by omega)

theorem pseudoWrite_same (sizes : right.size = left.size) (here : offset.toInt = position)
    (inside : position ≤ left.size.toNat) (same : SameContents left right leftMemory rightMemory)
    (user : Nat → UInt8) (count : UInt32) :
    (PseudoN.pseudoWrite left leftMemory user count offset none).ret =
        (PseudoN.pseudoWrite right rightMemory user count offset none).ret ∧
      (PseudoN.pseudoWrite left leftMemory user count offset none).offset =
        (PseudoN.pseudoWrite right rightMemory user count offset none).offset ∧
      SameContents left right (PseudoN.pseudoWrite left leftMemory user count offset none).memory
        (PseudoN.pseudoWrite right rightMemory user count offset none).memory := by
  have room := transfer_room inside count.toNat
  rw [pseudoWrite_inside here inside, pseudoWrite_inside here (sizes.symm ▸ inside)]
  simp only [sizes, reached_none, if_true]
  split
  · exact ⟨rfl, rfl, same⟩
  · refine ⟨rfl, rfl, fun index bound => ?_⟩
    have bound' : index < right.region.size := by rw [region_size, sizes]; exact bound
    have room' : position + transfer left.size.toNat position count.toNat ≤ right.region.size := by
      rw [region_size, sizes]
      exact room
    simp only
    rw [Region.store_address (by simpa using room) (by simpa using bound),
      Region.store_address room' bound', same index bound]
    rfl

end Transfers

/-- A call on the open file. -/
inductive FileCall where
  | lseek (offset : Int64) (orig : Int32)
  | read (count : UInt32)
  | write (user : Nat → UInt8) (count : UInt32)

namespace FileCall

def onPseudo : FileCall → Call
  | .lseek offset orig => .pseudoLseek 0 offset orig
  | .read count => .pseudoRead 0 count none
  | .write user count => .pseudoWrite 0 user count none

def onPseudoN {drv : PseudoDrvData} : FileCall → PseudoN.Call drv
  | .lseek offset orig => .pseudoLseek 0 offset orig
  | .read count => .pseudoRead 0 count none
  | .write user count => .pseudoWrite 0 user count none

end FileCall

/-- The seek is to the position where the file is, which is the end of the device
if the seek counts from there. -/
def InPlace (fPos offset : Int64) (orig : Int32) : Prop :=
  (orig = SEEK_SET → offset = fPos) ∧ (orig = SEEK_CUR → offset = 0) ∧
    (orig = SEEK_END → offset = 0 ∧ fPos = 512)

/-- The position that `pseudo_lseek` returns, which is not the one it leaves the
file at, is in both drivers the one where the file is. -/
theorem inPlace_iff {fPos offset next : Int64} {orig : Int32} {origin : Origin}
    (lower : 0 ≤ fPos.toInt) (upper : fPos.toInt ≤ 512) (named : origin? orig = some origin)
    (clamped : next.toInt = clamp 512 ((origin.base 512 fPos.toInt + offset.toInt).bmod (2 ^ 64))) :
    InPlace fPos offset orig ↔
      (pseudoLseek fPos offset orig).1 = next ∧ (pseudoLseek fPos offset orig).1 = fPos := by
  have least := offset.le_toInt
  have largest := offset.toInt_lt
  have size : MEM_SIZE.toInt64.toInt = 512 := by decide
  simp only [origin?] at named
  simp only [InPlace, pseudoLseek, ← Int64.toInt_inj]
  unfold clamp at clamped
  split at named
  · rename_i set
    cases named
    subst set
    have notCurrent : SEEK_SET ≠ SEEK_CUR := by decide
    have notEnd : SEEK_SET ≠ SEEK_END := by decide
    simp only [if_true, notCurrent, notEnd, false_implies, and_true, true_implies]
    rw [Int.bmod_def, Origin.base] at clamped
    omega
  · rename_i notSet
    split at named
    · rename_i current
      cases named
      subst current
      have notEnd : SEEK_CUR ≠ SEEK_END := by decide
      simp only [notSet, if_false, if_true, notEnd, false_implies, true_and, and_true, true_implies,
        Int64.toInt_add, Int64.toInt_zero]
      rw [Int.bmod_def, Origin.base] at clamped
      rw [Int.bmod_def]
      omega
    · rename_i notCurrent
      split at named
      · rename_i finish
        cases named
        subst finish
        simp only [notSet, notCurrent, if_false, if_true, false_implies, true_and, true_implies,
          Int64.toInt_sub, Int64.toInt_zero, size]
        have full : (512 : Int64).toInt = 512 := by decide
        rw [Int.bmod_def, Origin.base] at clamped
        rw [Int.bmod_def, full]
        omega
      · cases named

/-- What the caller gets: the value returned and the bytes read. -/
structure Reply where
  ret : Int
  bytes : List UInt8
deriving DecidableEq

def Event.reply : Event → Option Reply
  | .sought ret => some ⟨ret.toInt, []⟩
  | .read ret delivered _ => some ⟨ret.toInt, delivered⟩
  | .wrote ret _ => some ⟨ret.toInt, []⟩
  | _ => none

def replyN {drv : PseudoDrvData} : PseudoN.Event drv → Option Reply
  | .sought _ ret => some ⟨ret.toInt, []⟩
  | .read _ _ ret delivered _ => some ⟨ret.toInt, delivered⟩
  | .wrote _ _ _ ret _ => some ⟨ret.toInt, []⟩
  | _ => none

/-- The device, and one of a `pseudo_n` table with the same size and contents
that may be read and written. -/
structure Twins where
  placement : Placement
  memory : Mem
  drv : PseudoDrvData
  minor : Fin drv.noOfDevices
  memoryN : Mem
  size : (drv.pseudoDevData minor).size = placement.device.size
  perm : (drv.pseudoDevData minor).perm = RDWR
  contents : SameContents placement.device (drv.pseudoDevData minor) memory memoryN

namespace Twins

variable (twins : Twins)

abbrev Pair : Type := State × PseudoN.State twins.drv

/-- Both files have just been opened. -/
def start (fMode : UInt32) : twins.Pair :=
  ((step twins.placement (boot twins.memory) (.pseudoOpen 0)).1,
    (PseudoN.step (PseudoN.boot twins.drv twins.memoryN) (.pseudoOpen 0 twins.minor fMode)).1)

def step (pair : twins.Pair) (call : FileCall) : twins.Pair × Option Reply × Option Reply :=
  let one := Pseudo.step twins.placement pair.1 call.onPseudo
  let many := PseudoN.step pair.2 call.onPseudoN
  ((one.1, many.1), one.2.reply, replyN many.2)

/-- The call gives the same on both, and the position that a seek returns is the
one at which the next transfer takes place. -/
structure Agrees (pair : twins.Pair) (call : FileCall) : Prop where
  replies : (twins.step pair call).2.1 = (twins.step pair call).2.2
  seeks : ∀ offset orig, call = .lseek offset orig → (origin? orig).isSome →
    ∃ fPos, (twins.step pair call).1.1.files 0 = some fPos ∧
      (twins.step pair call).2.1 = some ⟨fPos.toInt, []⟩

/-- A seek asks for the position at which the file already is. -/
def SeeksInPlace (pair : twins.Pair) : FileCall → Prop
  | .lseek offset orig => ∀ fPos, pair.1.files 0 = some fPos → InPlace fPos offset orig
  | .read _ => True
  | .write _ _ => True

/-- Both files are at one position of devices with the same contents. -/
structure Together (pair : twins.Pair) (fPos : Int64) (fMode : UInt32) : Prop where
  one : pair.1.files 0 = some fPos
  many : pair.2.files 0 = some { privateData := twins.minor, fPos, fMode }
  inside : Within twins.placement fPos
  contents : SameContents twins.placement.device (twins.drv.pseudoDevData twins.minor)
    pair.1.memory pair.2.memory

variable {twins : Twins} {pair : twins.Pair} {fPos : Int64} {fMode : UInt32}

theorem start_together (twins : Twins) (fMode : UInt32) :
    twins.Together (twins.start fMode) 0 fMode where
  one := by simp [start, Pseudo.step, boot]
  many := by
    have granted : PseudoN.pseudoOpen (twins.drv.pseudoDevData twins.minor) fMode = 0 := by
      rw [PseudoN.pseudoOpen, twins.perm, PseudoN.checkPermission, if_pos rfl]
    simp [start, PseudoN.step, PseudoN.boot, granted]
  inside := ⟨0, Nat.zero_le _, Int64.toInt_zero⟩
  contents := by
    have granted : PseudoN.pseudoOpen (twins.drv.pseudoDevData twins.minor) fMode = 0 := by
      rw [PseudoN.pseudoOpen, twins.perm, PseudoN.checkPermission, if_pos rfl]
    simpa [start, Pseudo.step, boot, PseudoN.step, PseudoN.boot, granted] using twins.contents

theorem read_together (together : twins.Together pair fPos fMode) (count : UInt32) :
    twins.Agrees pair (.read count) ∧
      ∃ next, twins.Together (twins.step pair (.read count)).1 next fMode := by
  obtain ⟨position, bound, here⟩ := together.inside
  obtain ⟨ret, offset, delivered⟩ := pseudoRead_same twins.size here bound together.contents count
  have inside := pseudoRead_position here bound pair.1.memory count none
  refine ⟨⟨?_, fun _ _ seek => by cases seek⟩,
    (pseudoRead twins.placement pair.1.memory count fPos none).offset, ⟨?_, ?_, ?_, ?_⟩⟩
  · simp only [step, FileCall.onPseudo, FileCall.onPseudoN, Pseudo.step, PseudoN.step, together.one,
      together.many, Event.reply, replyN, pseudoRead_eq, PseudoN.File.data, ret, delivered]
  · simp only [step, FileCall.onPseudo, Pseudo.step, together.one, setFile_self]
  · simp only [step, FileCall.onPseudoN, PseudoN.step, together.many, PseudoN.setFile_self,
      pseudoRead_eq, PseudoN.File.data, offset]
  · rw [pseudoRead_eq]
    exact inside
  · simpa only [step, FileCall.onPseudo, FileCall.onPseudoN, Pseudo.step, PseudoN.step, together.one,
      together.many, setFile_memory, PseudoN.setFile_memory] using together.contents

theorem write_together (together : twins.Together pair fPos fMode) (user : Nat → UInt8)
    (count : UInt32) :
    twins.Agrees pair (.write user count) ∧
      ∃ next, twins.Together (twins.step pair (.write user count)).1 next fMode := by
  obtain ⟨position, bound, here⟩ := together.inside
  obtain ⟨ret, offset, contents⟩ :=
    pseudoWrite_same twins.size here bound together.contents user count
  have inside := pseudoWrite_position here bound pair.1.memory user count none
  refine ⟨⟨?_, fun _ _ seek => by cases seek⟩,
    (pseudoWrite twins.placement pair.1.memory user count fPos none).offset, ⟨?_, ?_, ?_, ?_⟩⟩
  · simp only [step, FileCall.onPseudo, FileCall.onPseudoN, Pseudo.step, PseudoN.step, together.one,
      together.many, Event.reply, replyN, pseudoWrite_eq, PseudoN.File.data, ret]
  · simp only [step, FileCall.onPseudo, Pseudo.step, together.one, setFile_self]
  · simp only [step, FileCall.onPseudoN, PseudoN.step, together.many, PseudoN.setFile_self,
      pseudoWrite_eq, PseudoN.File.data, offset]
  · rw [pseudoWrite_eq]
    exact inside
  · simpa only [step, FileCall.onPseudo, FileCall.onPseudoN, Pseudo.step, PseudoN.step, together.one,
      together.many, setFile_memory, PseudoN.setFile_memory, pseudoWrite_eq, PseudoN.File.data]
      using contents

theorem lseek_together (together : twins.Together pair fPos fMode) {offset : Int64} {orig : Int32}
    (inPlace : InPlace fPos offset orig) :
    twins.Together (twins.step pair (.lseek offset orig)).1 fPos fMode where
  one := by
    simp only [step, FileCall.onPseudo, Pseudo.step, together.one, pseudoLseek_keeps, setFile_self]
  many := by
    obtain ⟨position, bound, here⟩ := together.inside
    have upper : fPos.toInt ≤ 512 := by rw [device_size] at bound; omega
    cases named : origin? orig with
    | none =>
        simp only [step, FileCall.onPseudoN, PseudoN.step, together.many, PseudoN.setFile_self,
          pseudoLseek_unnamed named]
    | some origin =>
        obtain ⟨next, result, clamped⟩ :=
          pseudoLseek_wraps (twins.drv.pseudoDevData twins.minor) fPos offset named
        rw [twins.size, device_size] at clamped
        obtain ⟨first, second⟩ := (inPlace_iff (by omega) upper named clamped).mp inPlace
        simp only [step, FileCall.onPseudoN, PseudoN.step, together.many, PseudoN.setFile_self,
          PseudoN.File.data, result, ← first, second]
  inside := together.inside
  contents := by
    simpa only [step, FileCall.onPseudo, FileCall.onPseudoN, Pseudo.step, PseudoN.step, together.one,
      together.many, setFile_memory, PseudoN.setFile_memory] using together.contents

theorem lseek_agrees_iff (together : twins.Together pair fPos fMode) (offset : Int64) (orig : Int32) :
    InPlace fPos offset orig ↔ twins.Agrees pair (.lseek offset orig) := by
  obtain ⟨position, bound, here⟩ := together.inside
  have upper : fPos.toInt ≤ 512 := by rw [device_size] at bound; omega
  have left : (twins.step pair (.lseek offset orig)).2.1 =
      some ⟨(pseudoLseek fPos offset orig).1.toInt, []⟩ := by
    simp only [step, FileCall.onPseudo, Pseudo.step, together.one, Event.reply]
  have right : (twins.step pair (.lseek offset orig)).2.2 = some
      ⟨(PseudoN.pseudoLseek (twins.drv.pseudoDevData twins.minor) fPos offset orig).1.toInt, []⟩ := by
    simp only [step, FileCall.onPseudoN, PseudoN.step, together.many, replyN, PseudoN.File.data]
  have stays : (twins.step pair (.lseek offset orig)).1.1.files 0 = some fPos := by
    simp only [step, FileCall.onPseudo, Pseudo.step, together.one, pseudoLseek_keeps, setFile_self]
  cases named : origin? orig with
  | none =>
      have differs : orig ≠ SEEK_SET ∧ orig ≠ SEEK_CUR ∧ orig ≠ SEEK_END := by
        refine ⟨?_, ?_, ?_⟩ <;> intro same <;> subst same <;> cases named
      refine iff_of_true (by simp only [InPlace, differs, false_implies, and_self]) ⟨?_, ?_⟩
      · rw [left, right, pseudoLseek_unnamed named, pseudoLseek, if_neg differs.1,
          if_neg differs.2.1, if_neg differs.2.2]
      · intro other origin seek some_origin
        cases seek
        simp [named] at some_origin
  | some origin =>
      obtain ⟨next, result, clamped⟩ :=
        pseudoLseek_wraps (twins.drv.pseudoDevData twins.minor) fPos offset named
      rw [twins.size, device_size] at clamped
      rw [inPlace_iff (by omega) upper named clamped]
      apply Iff.intro
      · intro agree
        obtain ⟨first, second⟩ := agree
        refine ⟨by rw [left, right, result, first], ?_⟩
        intro _ _ seek _
        cases seek
        exact ⟨fPos, stays, by rw [left, second]⟩
      · intro agrees
        have replies := agrees.replies
        obtain ⟨other, held, taken⟩ := agrees.seeks offset orig rfl (by simp [named])
        rw [stays] at held
        cases held
        rw [left, right, result] at replies
        rw [left] at taken
        simp only [Option.some.injEq, Reply.mk.injEq, and_true, Int64.toInt_inj] at replies taken
        exact ⟨replies, taken⟩

def TogetherSomewhere (pair : twins.Pair) : Prop := ∃ fPos fMode, twins.Together pair fPos fMode

theorem step_together (call : FileCall) (together : TogetherSomewhere pair)
    (inPlace : twins.SeeksInPlace pair call) : TogetherSomewhere (twins.step pair call).1 := by
  obtain ⟨fPos, fMode, at_one⟩ := together
  cases call with
  | lseek offset orig =>
      exact ⟨fPos, fMode, lseek_together at_one (inPlace fPos at_one.one)⟩
  | read count =>
      obtain ⟨_, next, after⟩ := read_together at_one count
      exact ⟨next, fMode, after⟩
  | write user count =>
      obtain ⟨_, next, after⟩ := write_together at_one user count
      exact ⟨next, fMode, after⟩

theorem seeksInPlace_iff (call : FileCall) (together : TogetherSomewhere pair) :
    twins.SeeksInPlace pair call ↔ twins.Agrees pair call := by
  obtain ⟨fPos, fMode, at_one⟩ := together
  cases call with
  | lseek offset orig =>
      rw [← lseek_agrees_iff at_one]
      apply Iff.intro
      · intro inPlace
        exact inPlace fPos at_one.one
      · intro inPlace other held
        rw [at_one.one] at held
        cases held
        exact inPlace
  | read count => exact iff_of_true trivial (read_together at_one count).1
  | write user count => exact iff_of_true trivial (write_together at_one user count).1

/-- The two drivers agree throughout exactly those runs whose seeks all ask for
the position where the file already is. -/
theorem run_agrees_iff (twins : Twins) (fMode : UInt32) (calls : List FileCall) :
    Along twins.step twins.Agrees (twins.start fMode) calls ↔
      Along twins.step twins.SeeksInPlace (twins.start fMode) calls :=
  (along_congr TogetherSomewhere (fun _ call together inPlace => step_together call together inPlace)
    (fun _ call together => seeksInPlace_iff call together)
    ⟨0, fMode, start_together twins fMode⟩).symm

/-- Both devices hold their own indices. -/
def counting : Twins where
  placement := { pseudoDeviceBuf := 0xBF000000, placed := by decide }
  memory address := (address - 0xBF000000).toUInt8
  drv := PseudoN.pseudoDrvData PseudoN.adjacentBuffers
  minor := (3 : Fin PseudoN.NO_OF_DEVICES)
  memoryN address := (address - 0xBF002A00).toUInt8
  size := rfl
  perm := rfl
  contents index _ := by
    have left : (0xBF000000 + UInt32.ofNat index - 0xBF000000 : UInt32) = UInt32.ofNat index := by
      rw [UInt32.add_comm, UInt32.add_sub_cancel]
    have right : (0xBF002A00 + UInt32.ofNat index - 0xBF002A00 : UInt32) = UInt32.ofNat index := by
      rw [UInt32.add_comm, UInt32.add_sub_cancel]
    exact congrArg UInt32.toUInt8 (left.trans right.symm)

/-- After a seek to 5 the next byte read is that of index 0 from the one device
and that of index 5 from the other. -/
theorem seek_then_read_differs :
    ¬ ∀ (twins : Twins) (fMode : UInt32) (calls : List FileCall),
      Along twins.step twins.Agrees (twins.start fMode) calls := by
  intro claimed
  have along := claimed counting 3 [.lseek 5 SEEK_SET, .read 1]
  have replies := along.2.1.replies
  exact absurd replies (by decide)

end Twins

end BbbLkm.Pseudo
