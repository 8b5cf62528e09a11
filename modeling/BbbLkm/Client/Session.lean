import BbbLkm.Client.ReadLoop
import BbbLkm.PseudoN.Refinement
import Mathlib.Data.List.Induction

namespace BbbLkm.PseudoN

variable {drv : PseudoDrvData}

def Call.descriptor : Call drv → Nat
  | .pseudoOpen fd _ _ => fd
  | .pseudoLseek fd _ _ => fd
  | .pseudoRead fd _ _ => fd
  | .pseudoWrite fd _ _ _ => fd
  | .pseudoRelease fd => fd

/-- A call leaves the files behind other descriptors alone. -/
theorem vfsStep_files {call : Call drv} {fd : Nat} (apart : call.descriptor ≠ fd) (state : State drv) :
    (vfsStep state call).1.files fd = state.files fd := by
  have different : fd ≠ call.descriptor := Ne.symm apart
  rw [vfsStep]
  split
  · cases call with
    | pseudoOpen target minor fMode =>
        simp only [step]
        split
        · rfl
        · split
          · exact setFile_other _ _ different
          · rfl
    | pseudoLseek target offset orig =>
        cases found : state.files target with
        | none => simp only [step, found]
        | some file =>
            simp only [step, found]
            exact setFile_other _ _ different
    | pseudoRead target count fault =>
        cases found : state.files target with
        | none => simp only [step, found]
        | some file =>
            simp only [step, found]
            exact setFile_other _ _ different
    | pseudoWrite target user count fault =>
        cases found : state.files target with
        | none => simp only [step, found]
        | some file =>
            simp only [step, found]
            exact setFile_other _ _ different
    | pseudoRelease target => exact Function.update_of_ne different _ _
  · rfl

end BbbLkm.PseudoN

namespace BbbLkm.Client

open BbbLkm.Machine BbbLkm.Memory BbbLkm.Kernel BbbLkm.Cursor
open BbbLkm.PseudoN (Placement NO_OF_DEVICES pseudoDrvData Call vfsStep vfsStep_files vfsStep_read FMODE_READ
  SEEK_SET)

/-- The device behind `DEVICE_NAME3`. -/
def pseudo3 : Fin NO_OF_DEVICES := 3

/-- The mode of a file that is opened with `O_RDONLY` and can be sought in. -/
def readOnly : UInt32 := 0x1D

/-- The most that one `read` is for. -/
def MAX_RW_COUNT : UInt32 := 0x7FFFF000

abbrev Driver (placement : Placement) := PseudoN.State (pseudoDrvData placement)

inductive Phase where
  | opening
  | seeking
  | reading (locals : Locals) (buffer : List UInt8)
  /-- `main` has returned, after it printed `total_read` and the bytes. -/
  | exited (ret totalRead : Int32) (dumped : List UInt8)

structure System (placement : Placement) where
  driver : Driver placement
  phase : Phase

variable {placement : Placement}

/-- `read`, with -1 for any error, and the bytes that arrive. -/
def sysRead (driver : Driver placement) (fd : Nat) (count : UInt32) (fault : Option Nat) :
    Driver placement × Int32 × List UInt8 :=
  if count.toInt32 < 0 then (driver, -1, []) else
  let count := if MAX_RW_COUNT < count then MAX_RW_COUNT else count
  match vfsStep driver (.pseudoRead fd count fault) with
  | (driver, .read _ _ ret delivered _) => (driver, if ret < 0 then -1 else ret, delivered)
  | (driver, _) => (driver, -1, [])

/-- What `main` does up to its next system call, and the call. -/
def turn (fd : Nat) (requested : Int32) (fault : Option Nat) (system : System placement) : System placement :=
  match system.phase with
  | .opening =>
      match vfsStep system.driver (.pseudoOpen fd pseudo3 readOnly) with
      | (driver, .opened _ 0) => ⟨driver, .seeking⟩
      | (driver, _) => ⟨driver, .exited (-1) 0 []⟩
  | .seeking =>
      match vfsStep system.driver (.pseudoLseek fd 10 SEEK_SET) with
      | (driver, .sought _ ret) =>
          if ret < 0 then ⟨(vfsStep driver (.pseudoRelease fd)).1, .exited (-1) 0 []⟩
          else ⟨driver, .reading (start requested) (List.replicate BUFFER_SIZE 0)⟩
      | (driver, _) => ⟨(vfsStep driver (.pseudoRelease fd)).1, .exited (-1) 0 []⟩
  | .reading locals buffer =>
      if locals.Reads then
        let call := locals.readCall
        let read := sysRead system.driver fd call.count fault
        ⟨read.1, .reading (step locals read.2.1).1 (overwrite buffer call.destination.toNat read.2.2)⟩
      else
        ⟨(vfsStep system.driver (.pseudoRelease fd)).1,
          .exited 0 locals.totalRead (buffer.take locals.totalRead.toInt.toNat)⟩
  | .exited .. => system

/-- A call of another program, whose descriptors are not the client's. -/
structure Foreign (placement : Placement) (fd : Nat) where
  call : Call (pseudoDrvData placement)
  apart : call.descriptor ≠ fd

inductive Turn (placement : Placement) (fd : Nat) where
  | client (fault : Option Nat)
  | other (foreign : Foreign placement fd)

def systemStep (fd : Nat) (requested : Int32) (system : System placement) :
    Turn placement fd → System placement × Unit
  | .client fault => (turn fd requested fault system, ())
  | .other foreign => ({ system with driver := (vfsStep system.driver foreign.call).1 }, ())

def Turn.isClient {fd : Nat} : Turn placement fd → Bool
  | .client _ => true
  | .other _ => false

/-- The `total_read` that the client ends with. -/
def printed (requested : Int32) : Int32 :=
  if 0 ≤ requested then if requested ≤ 502 then requested else 502
  else if requested = -1 then -1 else 0

/-- The bytes of `/dev/pseudo3`. -/
def System.bytes (system : System placement) : List UInt8 := system.driver.bytes pseudo3

/-- The file that the client opens. -/
def opened (placement : Placement) : PseudoN.File (pseudoDrvData placement) where
  privateData := pseudo3
  fPos := 0
  fMode := readOnly

variable {fd : Nat} {requested : Int32} {driver : Driver placement} {position : Nat} {count : UInt32}

theorem opened_size : (opened placement).data.size.toNat = MEM_SIZE := rfl

theorem opened_reads : (opened placement).hasMode FMODE_READ = true := by
  have bits : (readOnly &&& FMODE_READ != 0) = true := by decide
  exact bits

/-- A read from the client's file delivers what is left of what was asked for. -/
theorem sysRead_delivers (held : driver.files fd = some ((opened placement).at position))
    (inside : position ≤ MEM_SIZE) (positive : 0 ≤ count.toInt32.toInt) :
    sysRead driver fd count none =
      (driver.moved driver.memory fd (opened placement) (position + transfer MEM_SIZE position count.toNat),
        (UInt32.ofNat (transfer MEM_SIZE position count.toNat)).toInt32,
        ((driver.bytes pseudo3).drop position).take (transfer MEM_SIZE position count.toNat)) := by
  have signed : ¬ count.toInt32 < 0 := by
    rw [Int32.lt_iff_toInt_lt, Int32.toInt_zero]
    omega
  have room := transfer_room inside count.toNat
  have cut : transfer MEM_SIZE position (if MAX_RW_COUNT < count then MAX_RW_COUNT else count).toNat =
      transfer MEM_SIZE position count.toNat := by
    split
    · rename_i above
      have more := UInt32.lt_iff_toNat_lt.mp above
      have most : MAX_RW_COUNT.toNat = 2147479552 := rfl
      unfold transfer MEM_SIZE
      omega
    · rfl
  have read := vfsStep_read held opened_reads (by rw [opened_size]; exact inside)
    (if MAX_RW_COUNT < count then MAX_RW_COUNT else count)
  have taken := @PseudoN.load_take _ driver (opened placement) position (transfer MEM_SIZE position count.toNat)
    (by rw [opened_size]; exact room)
  rw [opened_size, cut] at read
  have small : (UInt32.ofNat (transfer MEM_SIZE position count.toNat)).toNat =
      transfer MEM_SIZE position count.toNat := by
    rw [UInt32.toNat_ofNat']
    unfold MEM_SIZE at room ⊢
    omega
  have counted : ¬ (UInt32.ofNat (transfer MEM_SIZE position count.toNat)).toInt32 < 0 := by
    rw [Int32.lt_iff_toInt_lt, Int32.toInt_zero, toInt_toInt32_of_fits (by rw [small]; unfold MEM_SIZE at room ⊢; omega)]
    omega
  simp only [sysRead, if_neg signed, read, if_neg counted]
  rw [taken]
  rfl

/-- How far the client is after some turns of its own.  `Seen` are the contents
that the device had at the third of them. -/
inductive Progress (fd : Nat) (requested : Int32) (Seen : List UInt8 → Prop) :
    Nat → System placement → Prop where
  | opening (driver : Driver placement) : driver.files fd = none →
      Progress fd requested Seen 0 ⟨driver, .opening⟩
  | seeking (driver : Driver placement) : driver.files fd = some (opened placement) →
      Progress fd requested Seen 1 ⟨driver, .seeking⟩
  | sought (driver : Driver placement) : driver.files fd = some ((opened placement).at 10) →
      Progress fd requested Seen 2 ⟨driver, .reading (start requested) (List.replicate BUFFER_SIZE 0)⟩
  /-- More was asked for than there is, and the client asks once more. -/
  | cut (driver : Driver placement) (locals : Locals) (buffer bytes : List UInt8) :
      driver.files fd = some ((opened placement).at MEM_SIZE) → locals.Reads → 0 < locals.remain.toInt →
      locals.totalRead = printed requested → Seen bytes →
      buffer.take (printed requested).toInt.toNat = (bytes.drop 10).take (printed requested).toInt.toNat →
      Progress fd requested Seen 3 ⟨driver, .reading locals buffer⟩
  | done (turns : Nat) (driver : Driver placement) (locals : Locals) (buffer bytes : List UInt8) :
      turns ≤ 4 → ¬ locals.Reads → locals.totalRead = printed requested → Seen bytes →
      buffer.take (printed requested).toInt.toNat = (bytes.drop 10).take (printed requested).toInt.toNat →
      Progress fd requested Seen turns ⟨driver, .reading locals buffer⟩
  | exited (turns : Nat) (driver : Driver placement) (bytes : List UInt8) :
      driver.files fd = none → Seen bytes →
      Progress fd requested Seen turns ⟨driver, .exited 0 (printed requested)
        ((bytes.drop 10).take (printed requested).toInt.toNat)⟩

section Turns

variable {Seen : List UInt8 → Prop} {system : System placement}

theorem turn_opens (free : driver.files fd = none) (fault : Option Nat) :
    turn fd requested fault ⟨driver, .opening⟩ = ⟨driver.setFile fd (opened placement), .seeking⟩ := by
  have granted : PseudoN.pseudoOpen ((pseudoDrvData placement).pseudoDevData pseudo3) readOnly = 0 := rfl
  simp only [turn, vfsStep, PseudoN.vfsPermits, if_true, PseudoN.step, free, Option.isSome_none,
    Bool.false_eq_true, if_false, granted]
  rfl

theorem turn_seeks (held : driver.files fd = some (opened placement)) (fault : Option Nat) :
    turn fd requested fault ⟨driver, .seeking⟩ =
      ⟨driver.moved driver.memory fd (opened placement) 10,
        .reading (start requested) (List.replicate BUFFER_SIZE 0)⟩ := by
  have here : driver.files fd = some ((opened placement).at 0) := held
  have sought : PseudoN.pseudoLseek ((opened placement).at 0).data ((opened placement).at 0).fPos 10 SEEK_SET =
      (10, 10) := rfl
  have forward : ¬ (10 : Int64) < 0 := by decide
  simp only [turn, vfsStep, PseudoN.vfsPermits, if_true, PseudoN.step, here, sought, if_neg forward]
  rfl

theorem turn_exits {locals : Locals} {buffer : List UInt8} (leaves : ¬ locals.Reads) (fault : Option Nat) :
    turn fd requested fault ⟨driver, .reading locals buffer⟩ =
      ⟨(vfsStep driver (.pseudoRelease fd)).1,
        .exited 0 locals.totalRead (buffer.take locals.totalRead.toInt.toNat)⟩ := by
  simp only [turn, if_neg leaves]

theorem released (driver : Driver placement) (fd : Nat) :
    (vfsStep driver (.pseudoRelease fd)).1.files fd = none := by
  simp [vfsStep, PseudoN.vfsPermits, PseudoN.step]

/-- A turn that reads: the driver cuts the count to what is left. -/
theorem turn_reads {locals : Locals} {buffer : List UInt8} (reads : locals.Reads)
    (held : driver.files fd = some ((opened placement).at position)) (inside : position ≤ MEM_SIZE)
    (positive : 0 < locals.remain.toInt) :
    turn fd requested none ⟨driver, .reading locals buffer⟩ =
      let moved := transfer MEM_SIZE position locals.remain.toInt.toNat
      ⟨driver.moved driver.memory fd (opened placement) (position + moved),
        .reading (step locals (UInt32.ofNat moved).toInt32).1
          (overwrite buffer locals.totalRead.toInt.toNat (((driver.bytes pseudo3).drop position).take moved))⟩ := by
  have signed : 0 ≤ locals.remain.toUInt32.toInt32.toInt := by
    rw [Int32.toInt32_toUInt32]
    omega
  have count := @toNat_toUInt32_of_nonneg locals.remain (Int.le_of_lt positive)
  have asked : locals.remain.toUInt32.toNat = locals.remain.toInt.toNat := by omega
  have read := sysRead_delivers held inside signed
  rw [asked] at read
  simp only [turn, if_pos reads, Locals.readCall, read]

theorem start_reads (nonzero : requested.toInt ≠ 0) : (start requested).Reads := by
  have early : (0 : Int32) ≠ 2 := by decide
  have some : requested ≠ 0 := by
    rintro rfl
    exact nonzero Int32.toInt_zero
  exact ⟨rfl, early, some⟩

/-- A count that is negative is refused before the driver is asked. -/
theorem turn_refused {buffer : List UInt8} (negative : requested.toInt < 0) :
    turn fd requested none ⟨driver, .reading (start requested) buffer⟩ =
      ⟨driver, .reading (step (start requested) (-1)).1 (overwrite buffer 0 [])⟩ := by
  have reads := @start_reads requested (Int.ne_of_lt negative)
  have signed : (start requested).readCall.count.toInt32 < 0 := by
    have count : (start requested).readCall.count = requested.toUInt32 := rfl
    rw [count, Int32.toInt32_toUInt32, Int32.lt_iff_toInt_lt]
    exact negative
  have refused : sysRead driver fd (start requested).readCall.count none = (driver, -1, []) := by
    rw [sysRead, if_pos signed]
  simp only [turn, if_pos reads, refused]
  rfl

theorem toInt_printed (nonnegative : 0 ≤ requested.toInt) :
    (printed requested).toInt = min requested.toInt 502 := by
  have signed : 0 ≤ requested := Int32.le_iff_toInt_le.mpr nonnegative
  rw [printed, if_pos signed]
  split
  · rename_i few
    have most : requested.toInt ≤ 502 := Int32.le_iff_toInt_le.mp few
    omega
  · rename_i many
    have more : ¬ requested.toInt ≤ 502 := fun few => many (Int32.le_iff_toInt_le.mpr few)
    have limit : (502 : Int32).toInt = 502 := rfl
    omega

theorem printed_negative (negative : requested.toInt < 0) :
    printed requested = if requested = -1 then -1 else 0 := by
  have signed : ¬ 0 ≤ requested := by
    rw [Int32.le_iff_toInt_le, Int32.toInt_zero]
    omega
  rw [printed, if_neg signed]

theorem printed_nothing (nonpositive : requested.toInt ≤ 0) : (printed requested).toInt.toNat = 0 := by
  by_cases negative : requested.toInt < 0
  · rw [printed_negative negative]
    split
    · rfl
    · rfl
  · rw [toInt_printed (by omega)]
    omega

theorem take_overwrite (buffer data : List UInt8) : (overwrite buffer 0 data).take data.length = data := by
  rw [overwrite, List.take_zero, List.nil_append, List.take_left]

theorem overwrite_nil (buffer : List UInt8) (start : Nat) : overwrite buffer start [] = buffer := by
  rw [overwrite, List.append_nil, List.length_nil, Nat.add_zero, List.take_append_drop]

theorem transfer_first (nonnegative : 0 ≤ requested.toInt) :
    transfer MEM_SIZE 10 requested.toInt.toNat = (printed requested).toInt.toNat := by
  have total := toInt_printed nonnegative
  unfold transfer MEM_SIZE
  omega

theorem toInt32_printed (nonnegative : 0 ≤ requested.toInt) :
    (UInt32.ofNat (printed requested).toInt.toNat).toInt32 = printed requested := by
  have total := toInt_printed nonnegative
  have small : (UInt32.ofNat (printed requested).toInt.toNat).toNat = (printed requested).toInt.toNat := by
    rw [UInt32.toNat_ofNat']
    omega
  apply Int32.toInt_inj.mp
  rw [toInt_toInt32_of_fits (by rw [small]; omega), small]
  omega

/-- The first read is counted, and the loop goes on if it was short. -/
theorem step_first (positive : 0 < requested.toInt) :
    let locals := (step (start requested) (printed requested)).1
    locals.totalRead = printed requested ∧
      locals.remain.toInt = requested.toInt - (printed requested).toInt ∧
        (locals.Reads ↔ 502 < requested.toInt) := by
  have printed_eq := toInt_printed (Int.le_of_lt positive)
  have remain : (start requested).remain = requested := rfl
  have nonzero : printed requested ≠ 0 := by
    intro none
    rw [none, Int32.toInt_zero] at printed_eq
    omega
  have counted : printed requested ≤ (start requested).remain := by
    rw [remain, Int32.le_iff_toInt_le, printed_eq]
    exact Int.min_le_left _ _
  have total : (start requested).totalRead + printed requested = printed requested := Int32.zero_add _
  have rest : (requested - printed requested).toInt = requested.toInt - (printed requested).toInt := by
    have upper := requested.toInt_lt
    rw [Int32.toInt_sub, Int.bmod_def]
    omega
  have second : (start requested).n + 1 ≠ 2 := (by decide : (0 : Int32) + 1 ≠ 2)
  rw [step_counted (start_reads (Int.ne_of_gt positive)) nonzero counted]
  refine ⟨total, rest, fun again => ?_, fun more => ⟨rfl, second, fun none => ?_⟩⟩
  · by_contra few
    have zero : (requested - printed requested).toInt = 0 := by omega
    exact again.2.2 (Int32.toInt_inj.mp zero)
  · have zero : (requested - printed requested).toInt = 0 := congrArg Int32.toInt none
    omega

/-- The first read takes as much as there is of what was asked for. -/
theorem progress_first (positive : 0 < requested.toInt)
    (held : driver.files fd = some ((opened placement).at 10)) (now : Seen (driver.bytes pseudo3)) :
    Progress fd requested Seen 3
      (turn fd requested none ⟨driver, .reading (start requested) (List.replicate BUFFER_SIZE 0)⟩) := by
  have nonnegative := Int.le_of_lt positive
  have shown := take_overwrite (List.replicate BUFFER_SIZE 0)
    (((driver.bytes pseudo3).drop 10).take (printed requested).toInt.toNat)
  have length : (((driver.bytes pseudo3).drop 10).take (printed requested).toInt.toNat).length =
      (printed requested).toInt.toNat := by
    have whole : (driver.bytes pseudo3).length = MEM_SIZE := PseudoN.length_bytes driver pseudo3
    have most := @transfer_room MEM_SIZE 10 (by decide) requested.toInt.toNat
    rw [transfer_first nonnegative] at most
    rw [List.length_take, List.length_drop, whole]
    omega
  rw [length] at shown
  have taken := @turn_reads placement fd requested driver 10 (start requested) (List.replicate BUFFER_SIZE 0)
    (start_reads (Int.ne_of_gt positive)) held (by decide) positive
  have remain : (start requested).remain = requested := rfl
  have after := step_first positive
  simp only [remain, transfer_first nonnegative, toInt32_printed nonnegative] at taken
  rw [taken]
  generalize (step (start requested) (printed requested)).1 = locals at after ⊢
  obtain ⟨total, rest, again⟩ := after
  by_cases more : 502 < requested.toInt
  · have printed_eq := toInt_printed nonnegative
    have left : 0 < locals.remain.toInt := by
      rw [rest]
      omega
    have finish : 10 + (printed requested).toInt.toNat = MEM_SIZE := by
      unfold MEM_SIZE
      omega
    rw [finish]
    exact .cut _ _ _ (driver.bytes pseudo3) (PseudoN.moved_self _ _ _ _ _) (again.mpr more) left total now shown
  · exact .done 3 _ _ _ (driver.bytes pseudo3) (Nat.le_succ 3) (fun reads => more (again.mp reads)) total now shown

/-- A request for a negative number of bytes reads nothing, but -1 counts as
data when -1 is asked for. -/
theorem progress_negative (negative : requested.toInt < 0) (buffer : List UInt8)
    (now : Seen (driver.bytes pseudo3)) :
    Progress fd requested Seen 3 (turn fd requested none ⟨driver, .reading (start requested) buffer⟩) := by
  have reads := @start_reads requested (Int.ne_of_lt negative)
  have shown : buffer.take (printed requested).toInt.toNat =
      ((driver.bytes pseudo3).drop 10).take (printed requested).toInt.toNat := by
    rw [printed_nothing (Int.le_of_lt negative), List.take_zero, List.take_zero]
  have total := printed_negative negative
  rw [turn_refused negative, overwrite_nil]
  by_cases least : requested = -1
  · rw [if_pos least] at total
    have counted : (-1 : Int32) ≤ (start requested).remain := by
      rw [least]
      exact Int32.le_refl _
    rw [step_counted reads (by decide) counted]
    apply Progress.done 3 _ _ _ (driver.bytes pseudo3) (Nat.le_succ 3) _ _ now shown
    · intro again
      apply again.2.2
      have remain : (start requested).remain = -1 := least
      rw [remain]
      exact Int32.sub_self _
    · rw [total]
      exact Int32.zero_add _
  · rw [if_neg least] at total
    have above : (start requested).remain < -1 := by
      rw [Int32.lt_iff_toInt_lt]
      have apart : requested.toInt ≠ -1 := fun same => least (Int32.toInt_inj.mp same)
      have remain : (start requested).remain = requested := rfl
      have limit : (-1 : Int32).toInt = -1 := rfl
      rw [remain, limit]
      omega
    rw [step_stopped reads (Or.inr above)]
    exact .done 3 _ _ _ (driver.bytes pseudo3) (Nat.le_succ 3) (fun again => Bool.false_ne_true again.1)
      total.symm now shown

theorem progress_client {turns : Nat} (progress : Progress fd requested Seen turns system)
    (third : turns = 2 → Seen system.bytes) :
    Progress fd requested Seen (turns + 1) (turn fd requested none system) := by
  cases progress with
  | opening driver free =>
      rw [turn_opens free]
      exact .seeking _ (PseudoN.setFile_self _ _ _)
  | seeking driver held =>
      rw [turn_seeks held]
      exact .sought _ (PseudoN.moved_self _ _ _ _ _)
  | sought driver held =>
      have now : Seen (driver.bytes pseudo3) := third rfl
      by_cases positive : 0 < requested.toInt
      · exact progress_first positive held now
      by_cases negative : requested.toInt < 0
      · exact progress_negative negative _ now
      · obtain rfl : requested = 0 := Int32.toInt_inj.mp (by rw [Int32.toInt_zero]; omega)
        have leaves : ¬ (start 0).Reads := fun reads => reads.2.2 rfl
        have exited := @Progress.exited placement fd 0 Seen 3 _ (driver.bytes pseudo3) (released driver fd) now
        rw [turn_exits leaves]
        rw [printed_nothing (Int.le_of_eq Int32.toInt_zero), List.take_zero] at exited
        exact exited
  | cut driver locals buffer bytes held reads positive total seen shown =>
      have none : transfer MEM_SIZE MEM_SIZE locals.remain.toInt.toNat = 0 := by
        rw [transfer, Nat.sub_self, Nat.min_zero]
      have taken := @turn_reads placement fd requested driver MEM_SIZE locals buffer reads held
        (Nat.le_refl _) positive
      have zero : (UInt32.ofNat 0).toInt32 = 0 := rfl
      simp only [none, zero, List.take_zero, overwrite_nil, step_stopped reads (Or.inl rfl)] at taken
      rw [taken]
      exact .done 4 _ _ _ bytes (Nat.le_refl _) (fun again => Bool.false_ne_true again.1) total seen shown
  | done turns driver locals buffer bytes _ leaves total seen shown =>
      rw [turn_exits leaves, total, shown]
      exact .exited _ _ bytes (released driver fd) seen
  | exited turns driver bytes closed seen => exact .exited _ driver bytes closed seen

theorem progress_other {turns : Nat} (progress : Progress fd requested Seen turns system)
    (same : driver.files fd = system.driver.files fd) :
    Progress fd requested Seen turns { system with driver } := by
  cases progress with
  | opening _ free => exact .opening _ (same.trans free)
  | seeking _ held => exact .seeking _ (same.trans held)
  | sought _ held => exact .sought _ (same.trans held)
  | cut _ _ _ bytes held reads positive total seen shown =>
      exact .cut _ _ _ bytes (same.trans held) reads positive total seen shown
  | done _ _ _ _ bytes early leaves total seen shown =>
      exact .done _ _ _ _ bytes early leaves total seen shown
  | exited _ _ bytes closed seen => exact .exited _ _ bytes (same.trans closed) seen

theorem Progress.mono {Later : List UInt8 → Prop} {turns : Nat} (progress : Progress fd requested Seen turns system)
    (later : ∀ bytes, Seen bytes → Later bytes) : Progress fd requested Later turns system := by
  cases progress with
  | opening _ free => exact .opening _ free
  | seeking _ held => exact .seeking _ held
  | sought _ held => exact .sought _ held
  | cut _ _ _ bytes held reads positive total seen shown =>
      exact .cut _ _ _ bytes held reads positive total (later bytes seen) shown
  | done _ _ _ _ bytes early leaves total seen shown =>
      exact .done _ _ _ _ bytes early leaves total (later bytes seen) shown
  | exited _ _ bytes closed seen => exact .exited _ _ bytes closed (later bytes seen)

end Turns

section Run

def Turn.Faultless : Turn placement fd → Prop
  | .client fault => fault = none
  | .other _ => True

/-- The device had these contents when the client took its third turn. -/
def Shown (requested : Int32) (system : System placement) (turns : List (Turn placement fd)) (bytes : List UInt8) :
    Prop :=
  ∃ before, before ++ [.client none] <+: turns ∧ before.countP Turn.isClient = 2 ∧
    bytes = (stateAfter (systemStep fd requested) system before).bytes

theorem run_progress (free : driver.files fd = none) (turns : List (Turn placement fd))
    (faultless : ∀ turn ∈ turns, turn.Faultless) :
    Progress fd requested (Shown requested ⟨driver, .opening⟩ turns) (turns.countP Turn.isClient)
      (stateAfter (systemStep fd requested) ⟨driver, .opening⟩ turns) := by
  induction turns using List.reverseRecOn with
  | nil => exact .opening driver free
  | append_singleton turns turn ih =>
      have earlier := ih fun other member => faultless other (List.mem_append_left _ member)
      have progress := earlier.mono fun bytes shown => by
        obtain ⟨before, started, two, same⟩ := shown
        exact (⟨before, started.trans (List.prefix_append _ _), two, same⟩ :
          Shown requested ⟨driver, .opening⟩ (turns ++ [turn]) bytes)
      rw [stateAfter_append, stateAfter_cons, stateAfter_nil, List.countP_append]
      cases turn with
      | client fault =>
          obtain rfl : fault = none := faultless _ (List.mem_append_right _ List.mem_cons_self)
          exact progress_client progress fun two => ⟨turns, List.prefix_refl _, two, rfl⟩
      | other foreign => exact progress_other progress (vfsStep_files foreign.apart _)

/-- However the calls of other programs come between its turns, a client that
has had five of them has returned 0 and closed its file.  What it has printed
are the bytes from position 10 on, as many as were asked for and are there, as
the device had them all when the client read for the first time. -/
theorem run_prints_snapshot (free : driver.files fd = none) (turns : List (Turn placement fd))
    (faultless : ∀ turn ∈ turns, turn.Faultless) (enough : 5 ≤ turns.countP Turn.isClient) :
    (stateAfter (systemStep fd requested) ⟨driver, .opening⟩ turns).driver.files fd = none ∧
      ∃ before, before ++ [.client none] <+: turns ∧ before.countP Turn.isClient = 2 ∧
        (stateAfter (systemStep fd requested) ⟨driver, .opening⟩ turns).phase = .exited 0 (printed requested)
          (((stateAfter (systemStep fd requested) ⟨driver, .opening⟩ before).bytes.drop 10).take
            (printed requested).toInt.toNat) := by
  have progress := @run_progress placement fd requested driver free turns faultless
  generalize stateAfter (systemStep fd requested) ⟨driver, .opening⟩ turns = system at progress ⊢
  generalize turns.countP Turn.isClient = count at progress enough
  cases progress with
  | opening => omega
  | seeking => omega
  | sought => omega
  | cut => omega
  | done _ _ _ _ _ early => omega
  | exited _ driver bytes closed shown =>
      obtain ⟨before, started, two, same⟩ := shown
      rw [same]
      exact ⟨closed, before, started, two, rfl⟩

/-- Another program writes to the device before and after the client reads. -/
def writesAround : List (Turn PseudoN.adjacentBuffers 1) :=
  [.other ⟨.pseudoOpen 0 pseudo3 3, Nat.zero_ne_one⟩, .client none, .client none,
    .other ⟨.pseudoWrite 0 (fun _ => 65) 12 none, Nat.zero_ne_one⟩, .client none,
    .other ⟨.pseudoWrite 0 (fun _ => 66) 12 none, Nat.zero_ne_one⟩, .client none, .client none]

theorem writesAround_prints_snapshot :
    (stateAfter (systemStep 1 100) ⟨PseudoN.boot (pseudoDrvData PseudoN.adjacentBuffers) fun _ => 0, .opening⟩
        writesAround).driver.files 1 = none ∧
      ∃ before, before ++ [.client none] <+: writesAround ∧ before.countP Turn.isClient = 2 ∧
        (stateAfter (systemStep 1 100)
          ⟨PseudoN.boot (pseudoDrvData PseudoN.adjacentBuffers) fun _ => 0, .opening⟩ writesAround).phase =
          .exited 0 (printed 100)
            (((stateAfter (systemStep 1 100)
              ⟨PseudoN.boot (pseudoDrvData PseudoN.adjacentBuffers) fun _ => 0, .opening⟩ before).bytes.drop 10).take
              (printed 100).toInt.toNat) :=
  run_prints_snapshot rfl _ (by simp [writesAround, Turn.Faultless]) (Nat.le_refl 5)

end Run

end BbbLkm.Client
