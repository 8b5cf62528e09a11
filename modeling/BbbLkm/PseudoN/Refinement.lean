import BbbLkm.Cursor.Files
import BbbLkm.PseudoN.Chunks
import BbbLkm.PseudoN.Seek

namespace BbbLkm.PseudoN

open BbbLkm.Memory BbbLkm.Kernel BbbLkm.Cursor BbbLkm.Machine

variable {drv : PseudoDrvData} {state : State drv} {fd : Nat} {file : File drv}

abbrev sizes (drv : PseudoDrvData) (dev : Fin drv.noOfDevices) : Nat := (drv.pseudoDevData dev).size.toNat

/-- Whom a device of some permission is open to. -/
def grants (perm : Int32) (reads writes : Bool) : Bool :=
  perm = RDWR || (perm = RDONLY && reads && !writes) || (perm = WRONLY && !reads && writes)

def admits (drv : PseudoDrvData) (dev : Fin drv.noOfDevices) (reads writes : Bool) : Bool :=
  grants (drv.pseudoDevData dev).perm reads writes

def asked (fMode bit : UInt32) : Bool := fMode &&& bit != 0

/-- How far a user copy of `count` bytes gets. -/
def reach (count : Nat) : Option Nat → Nat
  | none => count
  | some done => done

def Call.request : Call drv → Cursor.Request (Fin drv.noOfDevices) UInt8
  | .pseudoOpen fd minor fMode => .openAs fd minor (asked fMode FMODE_READ) (asked fMode FMODE_WRITE)
  | .pseudoLseek fd offset orig => .seek fd (origin? orig) offset.toInt
  | .pseudoRead fd count fault => .read fd count.toNat (reach count.toNat fault)
  | .pseudoWrite fd user count fault =>
      .write fd ((List.range count.toNat).map user) (reach count.toNat fault)
  | .pseudoRelease fd => .close fd

/-- What a program sees of a call: the value returned and the bytes that have
arrived in its buffer. -/
inductive Outcome where
  | returned (ret : Int) (bytes : List UInt8)
  | released
  | refused

def Event.outcome : Event drv → Outcome
  | .opened _ ret => .returned ret []
  | .sought _ ret => .returned ret.toInt []
  | .read _ _ ret delivered _ => .returned ret.toInt delivered
  | .wrote _ _ _ ret _ => .returned ret.toInt []
  | .released => .released
  | .refused => .refused

/-- The error codes of the driver. -/
def outcome : Reply UInt8 → Outcome
  | .opened => .returned 0 []
  | .denied => .returned (-EPERM) []
  | .soughtTo position => .returned position []
  | .badOrigin => .returned (-EINVAL) []
  | .delivered bytes => .returned bytes.length bytes
  | .cutShort bytes => .returned (-EFAULT) bytes
  | .wrote count => .returned count []
  | .noRoom => .returned (-ENOMEM) []
  | .faulted => .returned (-EFAULT) []
  | .closed => .released
  | .refused => .refused

/-- The abstract files of the device table.  A write whose user memory gives out
leaves zeros. -/
def serve (files : Files UInt8 (sizes drv)) (request : Cursor.Request (Fin drv.noOfDevices) UInt8) :
    Files UInt8 (sizes drv) × Reply UInt8 :=
  files.serve (admits drv) 0 request

/-- The open file that the model has for one of the driver's. -/
structure Stands (file : File drv) (opened : Opened (sizes drv)) : Prop where
  device : opened.device = file.privateData
  position : file.fPos.toInt = opened.position
  reads : opened.reads = file.hasMode FMODE_READ
  writes : opened.writes = file.hasMode FMODE_WRITE

structure Represents (state : State drv) (files : Files UInt8 (sizes drv)) : Prop where
  contents : ∀ dev, (files.contents dev).bytes = state.bytes dev
  slots : ∀ fd, Option.Rel Stands (state.files fd) (files.slots fd)

/-- No seek of the call asks for more than the largest `loff_t`. -/
def SeeksFit (state : State drv) : Call drv → Prop
  | .pseudoLseek fd offset orig => SeekFits state fd offset orig
  | _ => True

theorem pseudoOpen_grants (data : PseudoDevPrivateData) (fMode : UInt32) :
    pseudoOpen data fMode =
      if grants data.perm (asked fMode FMODE_READ) (asked fMode FMODE_WRITE) then 0 else -EPERM := by
  simp only [pseudoOpen, checkPermission, UInt32.toUInt32_toInt32, grants, asked]
  by_cases both : data.perm = RDWR
  · simp [both]
  · simp only [both, if_false, decide_false, Bool.false_or]
    by_cases reads : fMode &&& FMODE_READ = 0
    · by_cases writes : fMode &&& FMODE_WRITE = 0
      · simp [reads, writes]
      · simp [reads, writes]
    · by_cases writes : fMode &&& FMODE_WRITE = 0
      · simp [reads, writes]
      · simp [reads, writes]

theorem reached_eq {moved count : Nat} (below : moved ≤ count) (fault : Option Nat) :
    reached moved fault = min (reach count fault) moved := by
  cases fault with
  | none => exact (Nat.min_eq_right below).symm
  | some done => rfl

theorem reached_all_iff {moved count : Nat} (below : moved ≤ count) (fault : Option Nat) :
    reached moved fault = moved ↔ moved ≤ reach count fault := by
  rw [reached_eq below]
  omega

/-- What a read at a position takes, with or without a fault. -/
theorem load_take {position moved : Nat} (room : position + moved ≤ file.data.size.toNat) :
    load state.memory (file.data.region.address position) moved =
      ((state.bytes file.privateData).drop position).take moved := by
  have size : (drv.pseudoDevData file.privateData).size.toNat = file.data.size.toNat := rfl
  rw [Region.load_address]
  apply List.ext_getElem
  · simp only [State.bytes, List.length_map, List.length_range, List.length_take, List.length_drop, size]
    omega
  · intro index left right
    simp only [State.bytes, State.contents, List.getElem_map, List.getElem_range, List.getElem_take,
      List.getElem_drop]
    rfl

@[simp] theorem length_bytes (state : State drv) (dev : Fin drv.noOfDevices) :
    (state.bytes dev).length = sizes drv dev := by
  simp [State.bytes]

theorem getElem?_bytes (state : State drv) {dev : Fin drv.noOfDevices} {index : Nat}
    (within : index < sizes drv dev) : (state.bytes dev)[index]? = some (state.contents dev index) := by
  simp [State.bytes, List.getElem?_range within]

namespace Stands

variable {opened : Opened (sizes drv)}

theorem within (stands : Stands file opened) : opened.position ≤ file.data.size.toNat := by
  have inside := opened.inside
  rw [stands.device] at inside
  exact inside

theorem inRange (stands : Stands file opened) : file.InRange :=
  ⟨opened.position, stands.within, stands.position⟩

theorem rest (stands : Stands file opened) : opened.rest = file.data.size.toNat - opened.position := by
  rw [Opened.rest, stands.device]
  rfl

theorem advance (stands : Stands file opened) {count : Nat} (room : count ≤ opened.rest) {fPos : Int64}
    (moved : fPos.toInt = (opened.position + count : Nat)) :
    Stands { file with fPos } (opened.advance count room) :=
  ⟨stands.device, moved, stands.reads, stands.writes⟩

theorem seek (stands : Stands file opened) (origin : Origin) {offset : Int} {fPos : Int64}
    (sought : fPos.toInt = Cursor.seek file.data.size.toNat file.fPos.toInt origin offset) :
    Stands { file with fPos } (opened.seek origin offset) where
  device := stands.device
  position := by
    have range := clamp_range file.data.size.toNat (origin.base file.data.size.toNat file.fPos.toInt + offset)
    have place : (opened.seek origin offset).position =
        (Cursor.seek (sizes drv opened.device) opened.position origin offset).toNat := rfl
    rw [sought, place, stands.device, ← stands.position]
    exact (Int.toNat_of_nonneg range.1).symm
  reads := stands.reads
  writes := stands.writes

end Stands

/-- Storing what a file already is changes nothing. -/
theorem setFile_held (held : state.files fd = some file) : state.setFile fd file = state := by
  rw [State.setFile, ← held, Function.update_eq_self]

namespace Represents

variable {files : Files UInt8 (sizes drv)} {opened : Opened (sizes drv)}

theorem found (represents : Represents state files) (held : state.files fd = some file) :
    ∃ opened, files.slots fd = some opened ∧ Stands file opened := by
  have related := represents.slots fd
  rw [held] at related
  cases slot : files.slots fd with
  | none => rw [slot] at related; cases related
  | some opened =>
      rw [slot] at related
      cases related with
      | some stands => exact ⟨opened, rfl, stands⟩

theorem absent (represents : Represents state files) (free : state.files fd = none) :
    files.slots fd = none := by
  have related := represents.slots fd
  rw [free] at related
  cases slot : files.slots fd with
  | none => rfl
  | some opened => rw [slot] at related; cases related

theorem setFile (represents : Represents state files) {memory : Mem} {after : Files UInt8 (sizes drv)}
    (contents : ∀ dev, (after.contents dev).bytes = State.bytes { state with memory } dev)
    (slots : after.slots = files.slots) (stands : Stands file opened) :
    Represents ({ state with memory }.setFile fd file) (after.setSlot fd opened) where
  contents := contents
  slots slot := by
    by_cases here : slot = fd
    · subst here
      simp only [setFile_self, Files.setSlot, Function.update_self]
      exact .some stands
    · rw [setFile_other _ _ here]
      simpa only [Files.setSlot, Function.update_of_ne here, slots] using represents.slots slot

theorem rewritten (represents : Represents state files) (held : state.files fd = some file) {memory : Mem}
    {after : Files UInt8 (sizes drv)}
    (contents : ∀ dev, (after.contents dev).bytes = State.bytes { state with memory } dev)
    (slots : after.slots = files.slots) : Represents ({ state with memory }.setFile fd file) after where
  contents := contents
  slots other := by
    have same := @setFile_same drv { state with memory } fd file held
    rw [same, slots]
    exact represents.slots other

/-- What one call does is what the model does. -/
def Matched (state : State drv) (files : Files UInt8 (sizes drv)) (call : Call drv) : Prop :=
  (vfsStep state call).2.outcome = outcome (serve files call.request).2 ∧
    Represents (vfsStep state call).1 (serve files call.request).1

theorem open_matched (represents : Represents state files) (fd : Nat) (minor : Fin drv.noOfDevices)
    (fMode : UInt32) : Matched state files (.pseudoOpen fd minor fMode) := by
  simp only [Matched, vfsStep, vfsPermits, if_true, Call.request, serve, Files.serve, step]
  cases held : state.files fd with
  | some file =>
      obtain ⟨opened, slot, _⟩ := represents.found held
      simp only [slot, Option.isSome_some, if_true]
      exact ⟨rfl, represents⟩
  | none =>
      have slot := represents.absent held
      have asks := pseudoOpen_grants (drv.pseudoDevData minor) fMode
      rw [← admits] at asks
      simp only [slot, Option.isSome_none, Bool.false_eq_true, if_false, asks]
      by_cases granted : admits drv minor (asked fMode FMODE_READ) (asked fMode FMODE_WRITE) = true
      · have fresh : Stands { privateData := minor, fPos := 0, fMode : File drv }
            { device := minor, position := 0, inside := Nat.zero_le _,
              reads := asked fMode FMODE_READ, writes := asked fMode FMODE_WRITE } :=
          ⟨rfl, Int64.toInt_zero, rfl, rfl⟩
        simp only [if_pos granted, if_true]
        exact ⟨rfl, represents.setFile represents.contents rfl fresh⟩
      · have denied : -EPERM ≠ 0 := by decide
        simp only [if_neg granted, if_neg denied]
        exact ⟨rfl, represents⟩

theorem close_matched (represents : Represents state files) (fd : Nat) :
    Matched state files (.pseudoRelease fd) := by
  simp only [Matched, vfsStep, vfsPermits, if_true, Call.request, serve, Files.serve, step]
  refine ⟨rfl, represents.contents, fun slot => ?_⟩
  by_cases here : slot = fd
  · subst here
    simp only [Function.update_self]
    exact .none
  · simpa only [Function.update_of_ne here] using represents.slots slot

theorem seek_matched (represents : Represents state files) {offset : Int64} {orig : Int32}
    (fits : SeekFits state fd offset orig) : Matched state files (.pseudoLseek fd offset orig) := by
  simp only [Matched, vfsStep, vfsPermits, if_true, Call.request, serve, Files.serve]
  cases held : state.files fd with
  | none =>
      have slot := represents.absent held
      simp only [step, held, slot]
      exact ⟨rfl, represents⟩
  | some file =>
      obtain ⟨opened, slot, stands⟩ := represents.found held
      have inside : file.InRange := stands.inRange
      cases named : origin? orig with
      | none =>
          simp only [step, held, slot, pseudoLseek_unnamed named, setFile_held held]
          exact ⟨rfl, represents⟩
      | some origin =>
          obtain ⟨fPos, stepped, clamped⟩ := step_lseek held offset named
          rw [(clamp_wrapped_iff inside origin offset).mpr (fits file origin held named)] at clamped
          have moved := stands.seek origin clamped
          simp only [stepped, slot]
          refine ⟨?_, represents.setFile represents.contents rfl moved⟩
          simp only [Event.outcome, outcome, moved.position]

theorem ahead_eq (represents : Represents state files) (stands : Stands file opened) (count : Nat) :
    files.ahead opened count =
      load state.memory (file.data.region.address opened.position)
        (transfer file.data.size.toNat opened.position count) := by
  have length : (state.bytes file.privateData).length = file.data.size.toNat := length_bytes _ _
  rw [load_take (transfer_room stands.within count), Files.ahead, represents.contents, stands.device,
    transfer, List.take_eq_take_min, List.length_drop, length]

/-- The outcome of a read that finds its file and may use it. -/
theorem read_found (represents : Represents state files) (held : state.files fd = some file)
    (readable : file.hasMode FMODE_READ = true) (count : UInt32) (fault : Option Nat) :
    Matched state files (.pseudoRead fd count fault) := by
  obtain ⟨opened, slot, stands⟩ := represents.found held
  have inside := stands.within
  have permitted : vfsPermits state (.pseudoRead fd count fault) = true := by
    simpa [vfsPermits, held] using readable
  have reads : opened.reads = true := stands.reads.trans readable
  have ahead := represents.ahead_eq stands count.toNat
  have length : (files.ahead opened count.toNat).length =
      transfer file.data.size.toNat opened.position count.toNat := by simp [ahead, load]
  have result := pseudoRead_inside stands.position inside state.memory count fault
  have cut := transfer_le_count file.data.size.toNat opened.position count.toNat
  by_cases whole : reached (transfer file.data.size.toNat opened.position count.toNat) fault =
      transfer file.data.size.toNat opened.position count.toNat
  · have taken := (reached_all_iff cut fault).mp whole
    rw [← length] at taken
    simp only [if_pos whole] at result
    have advanced := toInt_advance stands.position inside count
    have moved : Stands { file with fPos := _ } _ :=
      stands.advance (files.ahead_room opened count.toNat) (advanced.trans (by rw [length]))
    have returned := toInt_moved inside count
    simp only [Matched, vfsStep, if_pos permitted, Call.request, serve,
      Files.serve_read (admits drv) 0 slot reads taken, step, held, result]
    refine ⟨?_, represents.setFile represents.contents rfl moved⟩
    simp only [Event.outcome, outcome, returned, length]
    rw [ahead]
  · have short : reach count.toNat fault < (files.ahead opened count.toNat).length := by
      rw [length]
      exact Nat.not_le.mp fun taken => whole ((reached_all_iff cut fault).mpr taken)
    simp only [if_neg whole] at result
    simp only [Matched, vfsStep, if_pos permitted, Call.request, serve,
      Files.serve_read_short (admits drv) 0 slot reads short, step, held, result, setFile_held held]
    refine ⟨?_, represents⟩
    have room := transfer_room inside count.toNat
    have below := reached_le (transfer file.data.size.toNat opened.position count.toNat) fault
    rw [Event.outcome, outcome, ahead, load_take room, load_take (by omega), List.take_take, ← reached_eq cut]
    rfl

theorem read_matched (represents : Represents state files) (fd : Nat) (count : UInt32)
    (fault : Option Nat) : Matched state files (.pseudoRead fd count fault) := by
  cases held : state.files fd with
  | none =>
      have slot := represents.absent held
      simp only [Matched, vfsStep, vfsPermits, Call.request, serve, Files.serve, step, held, slot,
        Option.all_none, if_true]
      exact ⟨rfl, represents⟩
  | some file =>
      by_cases readable : file.hasMode FMODE_READ = true
      · exact represents.read_found held readable count fault
      · obtain ⟨opened, slot, stands⟩ := represents.found held
        have unreadable : opened.reads = false := by simpa [stands.reads] using readable
        simp only [Matched, vfsStep, vfsPermits, Call.request, serve, Files.serve, held, slot,
          Option.all_some, readable, unreadable, Bool.false_eq_true, if_false]
        exact ⟨rfl, represents⟩

/-- A store to the open device is a replacement of what is ahead of the file. -/
theorem replace_contents (represents : Represents state files) (stands : Stands file opened)
    {data : List UInt8} (room : data.length ≤ opened.rest) {bytes : Nat → UInt8}
    (same : ∀ index < data.length, data[index]? = some (bytes index)) (dev : Fin drv.noOfDevices) :
    ((files.replace opened data room).contents dev).bytes =
      State.bytes
        { state with memory := store state.memory (file.data.region.address opened.position) data.length bytes }
        dev := by
  have inside := stands.within
  rw [stands.rest] at room
  have fits : opened.position + data.length ≤ (drv.pseudoDevData file.privateData).size.toNat := by
    unfold File.data at room inside
    omega
  have stored := @contents_store drv state.memory file.privateData opened.position data.length fits bytes dev
  apply List.ext_getElem?
  intro index
  by_cases within : index < sizes drv dev
  · rw [Files.bytes_replace, stands.device, represents.contents, getElem?_bytes _ within]
    simp only [State.contents, File.data, stored within]
    by_cases here : dev = file.privateData
    · subst here
      rw [if_pos rfl, getElem?_overwrite (by rw [length_bytes]; exact fits), getElem?_bytes _ within]
      by_cases covered : opened.position ≤ index ∧ index < opened.position + data.length
      · rw [if_pos covered, if_pos ⟨rfl, covered⟩]
        exact same _ (by omega)
      · rw [if_neg covered, if_neg fun both => covered both.2, State.contents]
    · rw [if_neg here, if_neg fun both => here both.1, getElem?_bytes _ within, State.contents]
  · have outside : sizes drv dev ≤ index := Nat.le_of_not_lt within
    rw [List.getElem?_eq_none (by rwa [Image.length_eq]), List.getElem?_eq_none (by rwa [length_bytes])]

/-- The bytes that a write offers and the device has room for. -/
theorem length_fitting (stands : Stands file opened) (user : Nat → UInt8) (count : UInt32) :
    (((List.range count.toNat).map user).take opened.rest).length =
      transfer file.data.size.toNat opened.position count.toNat := by
  rw [List.length_take, List.length_map, List.length_range, stands.rest, transfer, Nat.min_comm]

/-- A write that finds room stores what the model does. -/
theorem write_contents (represents : Represents state files) (stands : Stands file opened)
    (user : Nat → UInt8) (count : UInt32) (fault : Option Nat)
    (room : (landed (0 : UInt8) (reach count.toNat fault)
      (((List.range count.toNat).map user).take opened.rest)).length ≤ opened.rest)
    (dev : Fin drv.noOfDevices) :
    ((files.replace opened _ room).contents dev).bytes =
      State.bytes
        { state with
          memory := store state.memory (file.data.region.address opened.position)
            (transfer file.data.size.toNat opened.position count.toNat)
            fun index =>
              if index < reached (transfer file.data.size.toNat opened.position count.toNat) fault then
                user index
              else 0 }
        dev := by
  have length := length_fitting stands user count
  have cut := transfer_le_count file.data.size.toNat opened.position count.toNat
  have same : ∀ index < (landed (0 : UInt8) (reach count.toNat fault)
      (((List.range count.toNat).map user).take opened.rest)).length,
      (landed (0 : UInt8) (reach count.toNat fault)
        (((List.range count.toNat).map user).take opened.rest))[index]? =
        some (if index < reached (transfer file.data.size.toNat opened.position count.toNat) fault then
          user index else 0) := by
    intro index within
    rw [length_landed, length] at within
    have offered : (((List.range count.toNat).map user).take opened.rest)[index]? = some (user index) := by
      unfold transfer at within
      rw [List.getElem?_take_of_lt (by rw [stands.rest]; omega), List.getElem?_map,
        List.getElem?_range (by omega), Option.map_some]
    rw [getElem?_landed _ _ (by rwa [length]), offered, reached_eq cut]
    by_cases arrived : index < reach count.toNat fault
    · rw [if_pos arrived, if_pos (by omega)]
    · rw [if_neg arrived, if_neg (by omega)]
  rw [represents.replace_contents stands room same dev, length_landed, length]

theorem write_found (represents : Represents state files) (held : state.files fd = some file)
    (writable : file.hasMode FMODE_WRITE = true) (user : Nat → UInt8) (count : UInt32)
    (fault : Option Nat) : Matched state files (.pseudoWrite fd user count fault) := by
  obtain ⟨opened, slot, stands⟩ := represents.found held
  have inside := stands.within
  have permitted : vfsPermits state (.pseudoWrite fd user count fault) = true := by
    simpa [vfsPermits, held] using writable
  have writes : opened.writes = true := stands.writes.trans writable
  have length := length_fitting stands user count
  have room := @length_landed _ (0 : UInt8) (reach count.toNat fault)
    (((List.range count.toNat).map user).take opened.rest)
  have stored := represents.write_contents stands user count fault (by rw [room]; exact List.length_take_le _ _)
  have result := pseudoWrite_inside stands.position inside state.memory user count fault
  have cut := transfer_le_count file.data.size.toNat opened.position count.toNat
  by_cases full : transfer file.data.size.toNat opened.position count.toNat = 0
  · have nothing : ((List.range count.toNat).map user).take opened.rest = [] :=
      List.eq_nil_of_length_eq_zero (length.trans full)
    simp only [if_pos full] at result
    simp only [Matched, vfsStep, if_pos permitted, Call.request, serve,
      Files.serve_write_full (admits drv) 0 slot writes nothing, step, held, result, setFile_held held]
    exact ⟨rfl, represents⟩
  · have offered : ((List.range count.toNat).map user).take opened.rest ≠ [] := by
      intro nothing
      rw [nothing] at length
      exact full length.symm
    by_cases whole : reached (transfer file.data.size.toNat opened.position count.toNat) fault =
        transfer file.data.size.toNat opened.position count.toNat
    · have given := (reached_all_iff cut fault).mp whole
      rw [← length] at given
      simp only [if_neg full, if_pos whole] at result
      have advanced := toInt_advance stands.position inside count
      have moved : Stands { file with fPos := _ } _ :=
        stands.advance (List.length_take_le _ ((List.range count.toNat).map user))
          (advanced.trans (by rw [length]))
      have returned := toInt_moved inside count
      simp only [Matched, vfsStep, if_pos permitted, Call.request, serve,
        Files.serve_write (admits drv) 0 slot writes offered given, step, held, result]
      refine ⟨?_, represents.setFile stored rfl moved⟩
      simp only [Event.outcome, outcome, returned, length]
    · have short : reach count.toNat fault < (((List.range count.toNat).map user).take opened.rest).length := by
        rw [length]
        exact Nat.not_le.mp fun given => whole ((reached_all_iff cut fault).mpr given)
      simp only [if_neg full, if_neg whole] at result
      simp only [Matched, vfsStep, if_pos permitted, Call.request, serve,
        Files.serve_write_short (admits drv) 0 slot writes short, step, held, result]
      exact ⟨rfl, represents.rewritten held stored rfl⟩

theorem write_matched (represents : Represents state files) (fd : Nat) (user : Nat → UInt8)
    (count : UInt32) (fault : Option Nat) : Matched state files (.pseudoWrite fd user count fault) := by
  cases held : state.files fd with
  | none =>
      have slot := represents.absent held
      simp only [Matched, vfsStep, vfsPermits, Call.request, serve, Files.serve, step, held, slot,
        Option.all_none, if_true]
      exact ⟨rfl, represents⟩
  | some file =>
      by_cases writable : file.hasMode FMODE_WRITE = true
      · exact represents.write_found held writable user count fault
      · obtain ⟨opened, slot, stands⟩ := represents.found held
        have unwritable : opened.writes = false := by simpa [stands.writes] using writable
        simp only [Matched, vfsStep, vfsPermits, Call.request, serve, Files.serve, held, slot,
          Option.all_some, writable, unwritable, Bool.false_eq_true, if_false]
        exact ⟨rfl, represents⟩

theorem matched (represents : Represents state files) (call : Call drv) (fits : SeeksFit state call) :
    Matched state files call := by
  cases call with
  | pseudoOpen fd minor fMode => exact represents.open_matched fd minor fMode
  | pseudoLseek fd offset orig => exact represents.seek_matched fits
  | pseudoRead fd count fault => exact represents.read_matched fd count fault
  | pseudoWrite fd user count fault => exact represents.write_matched fd user count fault
  | pseudoRelease fd => exact represents.close_matched fd

end Represents

/-- The model of a device table none of whose devices is open. -/
def image (drv : PseudoDrvData) (memory : Mem) : Files UInt8 (sizes drv) where
  contents dev := { bytes := (boot drv memory).bytes dev, length_eq := length_bytes _ _ }
  slots _ := none

theorem boot_represents (drv : PseudoDrvData) (memory : Mem) :
    Represents (boot drv memory) (image drv memory) where
  contents _ := rfl
  slots _ := .none

/-- A run whose seeks all fit gives what the abstract files give, call by call,
and leaves their bytes and positions. -/
theorem run_refines_files (drv : PseudoDrvData) (memory : Mem) (calls : List (Call drv))
    (fits : Along vfsStep SeeksFit (boot drv memory) calls) :
    (answers vfsStep (boot drv memory) calls).map Event.outcome =
        (answers serve (image drv memory) (calls.map Call.request)).map outcome ∧
      Represents (stateAfter vfsStep (boot drv memory) calls)
        (stateAfter serve (image drv memory) (calls.map Call.request)) :=
  simulation_along (fun call represents fits => represents.matched call fits)
    (boot_represents drv memory) fits

/-- Three bytes are written, and the last two of them read back. -/
def writeAndReread : List (Call (pseudoDrvData adjacentBuffers)) :=
  [.pseudoOpen 0 (2 : Fin NO_OF_DEVICES) 3, .pseudoWrite 0 (fun _ => 65) 3 none, .pseudoLseek 0 (-2) SEEK_CUR,
    .pseudoRead 0 2 none]

theorem writeAndReread_fits (memory : Mem) :
    Along vfsStep SeeksFit (boot (pseudoDrvData adjacentBuffers) memory) writeAndReread := by
  refine ⟨trivial, trivial, ?_, trivial, trivial⟩
  intro file origin found named
  cases found
  cases named
  exact (by decide : (3 + -2 : Int) < 2 ^ 63)

theorem writeAndReread_refines :
    (answers vfsStep (boot (pseudoDrvData adjacentBuffers) fun _ => 0) writeAndReread).map Event.outcome =
        (answers serve (image (pseudoDrvData adjacentBuffers) fun _ => 0)
          (writeAndReread.map Call.request)).map outcome ∧
      Represents (stateAfter vfsStep (boot (pseudoDrvData adjacentBuffers) fun _ => 0) writeAndReread)
        (stateAfter serve (image (pseudoDrvData adjacentBuffers) fun _ => 0)
          (writeAndReread.map Call.request)) :=
  run_refines_files _ _ _ (writeAndReread_fits _)

end BbbLkm.PseudoN
