import BbbLkm.PseudoN.EndOfDevice
import BbbLkm.PseudoN.Permissions

namespace BbbLkm.PseudoN

open BbbLkm.Memory BbbLkm.Kernel BbbLkm.Cursor BbbLkm.Machine

variable {drv : PseudoDrvData} {state : State drv} {fd : Nat} {file : File drv} {position : Nat}

def total (chunks : List UInt32) : Nat := (chunks.map UInt32.toNat).sum

/-- A way to cut `length` bytes into calls that each ask for some. -/
structure Chunking (chunks : List UInt32) (length : Nat) : Prop where
  positive : ∀ chunk ∈ chunks, 0 < chunk.toNat
  sum : total chunks = length

def userBytes (bytes : List UInt8) (index : Nat) : UInt8 := bytes.getD index 0

def writeCalls (drv : PseudoDrvData) (fd : Nat) : List UInt8 → List UInt32 → List (Call drv)
  | _, [] => []
  | bytes, chunk :: rest =>
      .pseudoWrite fd (userBytes bytes) chunk none :: writeCalls drv fd (bytes.drop chunk.toNat) rest

def readCalls (drv : PseudoDrvData) (fd : Nat) (chunks : List UInt32) : List (Call drv) :=
  chunks.map fun chunk => .pseudoRead fd chunk none

def Event.delivered : Event drv → List UInt8
  | .read _ _ _ delivered _ => delivered
  | _ => []

def delivered (state : State drv) (calls : List (Call drv)) : List UInt8 :=
  (answers vfsStep state calls).flatMap Event.delivered

def State.moved (state : State drv) (memory : Mem) (fd : Nat) (file : File drv) (position : Nat) :
    State drv :=
  { state with memory }.setFile fd (file.at position)

@[simp] theorem moved_memory (state : State drv) (memory : Mem) (fd : Nat) (file : File drv)
    (position : Nat) : (state.moved memory fd file position).memory = memory := rfl

@[simp] theorem moved_self (state : State drv) (memory : Mem) (fd : Nat) (file : File drv)
    (position : Nat) : (state.moved memory fd file position).files fd = some (file.at position) :=
  setFile_self _ _ _

@[simp] theorem moved_moved (state : State drv) (first second : Mem) (fd : Nat) (file : File drv)
    (position next : Nat) :
    (state.moved first fd file position).moved second fd file next =
      state.moved second fd file next := by
  simp [State.moved, State.setFile]

theorem moved_same (found : state.files fd = some (file.at position)) :
    state.moved state.memory fd file position = state := by
  rw [State.moved, State.setFile, ← found, Function.update_eq_self]

@[simp] theorem hasMode_at (file : File drv) (position : Nat) (bit : UInt32) :
    (file.at position).hasMode bit = file.hasMode bit := rfl

theorem userBytes_drop (bytes : List UInt8) (dropped index : Nat) :
    userBytes (bytes.drop dropped) index = userBytes bytes (dropped + index) := by
  simp [userBytes, List.getD_eq_getElem?_getD, List.getElem?_drop]

theorem vfsStep_write (found : state.files fd = some (file.at position))
    (writable : file.hasMode FMODE_WRITE = true) (user : Nat → UInt8) (count : UInt32) :
    vfsStep state (.pseudoWrite fd user count none) =
      step state (.pseudoWrite fd user count none) := by
  have passed : vfsPermits state (.pseudoWrite fd user count none) = true := by
    simpa [vfsPermits, found] using writable
  rw [vfsStep, if_pos passed]

theorem write_moves (found : state.files fd = some (file.at position))
    (writable : file.hasMode FMODE_WRITE = true) (inside : position ≤ file.data.size.toNat)
    (user : Nat → UInt8) (count : UInt32) :
    (vfsStep state (.pseudoWrite fd user count none)).1 =
      state.moved
        (store state.memory (file.data.region.address position)
          (transfer file.data.size.toNat position count.toNat) user)
        fd file (position + transfer file.data.size.toNat position count.toNat) := by
  rw [vfsStep_write found writable]
  by_cases full : transfer file.data.size.toNat position count.toNat = 0
  · rw [step_write_full found (at_fPos inside) inside user full, full, store_zero, Nat.add_zero,
      moved_same found]
  · rw [step_write_stored found (at_fPos inside) inside user full]
    rfl

theorem vfsStep_read (found : state.files fd = some (file.at position))
    (readable : file.hasMode FMODE_READ = true) (inside : position ≤ file.data.size.toNat)
    (count : UInt32) :
    vfsStep state (.pseudoRead fd count none) =
      let moved := transfer file.data.size.toNat position count.toNat
      (state.moved state.memory fd file (position + moved),
        .read (file.at position) count (UInt32.ofNat moved).toInt32
          (load state.memory (file.data.region.address position) moved)
          (span (file.data.region.address position) moved)) := by
  have passed : vfsPermits state (.pseudoRead fd count none) = true := by
    simpa [vfsPermits, found] using readable
  have result := pseudoRead_inside (at_fPos inside) inside state.memory count none
  have advance := fPos_advance (at_fPos inside) inside count
  rw [at_data] at advance
  simp only [reached_none, if_true, advance] at result
  rw [vfsStep, if_pos passed]
  simp only [step, found, at_data, result]
  rfl

/-- Writing chunk by chunk is one store of all that fits. -/
theorem writeCalls_moves (chunks : List UInt32) (bytes : List UInt8)
    (found : state.files fd = some (file.at position)) (writable : file.hasMode FMODE_WRITE = true)
    (inside : position ≤ file.data.size.toNat) :
    stateAfter vfsStep state (writeCalls drv fd bytes chunks) =
      state.moved
        (store state.memory (file.data.region.address position)
          (transfer file.data.size.toNat position (total chunks)) (userBytes bytes))
        fd file (position + transfer file.data.size.toNat position (total chunks)) := by
  induction chunks generalizing state position bytes with
  | nil =>
      have none : transfer file.data.size.toNat position (total []) = 0 := Nat.zero_min _
      rw [none, store_zero, Nat.add_zero, moved_same found]
      rfl
  | cons chunk rest ih =>
      have room := transfer_room inside chunk.toNat
      have split := transfer_add file.data.size.toNat position chunk.toNat (total rest)
      have later := transfer_room room (total rest)
      have whole : total (chunk :: rest) = chunk.toNat + total rest := by simp [total]
      rw [writeCalls, stateAfter_cons, write_moves found writable inside,
        ih (bytes.drop chunk.toNat) (moved_self _ _ _ _ _) room, moved_moved, moved_memory, whole, split,
        Nat.add_assoc, Region.store_store (by simpa [Nat.add_assoc] using later)]
      intro index within
      -- Only a first chunk that was not cut leaves room for the others.
      have uncut : transfer file.data.size.toNat position chunk.toNat = chunk.toNat := by
        unfold transfer at within ⊢
        omega
      rw [uncut, userBytes_drop]

/-- Reading chunk by chunk delivers all that the device has, up to the total. -/
theorem readCalls_deliver (chunks : List UInt32) (found : state.files fd = some (file.at position))
    (readable : file.hasMode FMODE_READ = true) (inside : position ≤ file.data.size.toNat) :
    stateAfter vfsStep state (readCalls drv fd chunks) =
        state.moved state.memory fd file
          (position + transfer file.data.size.toNat position (total chunks)) ∧
      delivered state (readCalls drv fd chunks) =
        load state.memory (file.data.region.address position)
          (transfer file.data.size.toNat position (total chunks)) := by
  induction chunks generalizing state position with
  | nil =>
      have none : transfer file.data.size.toNat position (total []) = 0 := Nat.zero_min _
      rw [none, Nat.add_zero, moved_same found]
      exact ⟨rfl, rfl⟩
  | cons chunk rest ih =>
      have room := transfer_room inside chunk.toNat
      have split := transfer_add file.data.size.toNat position chunk.toNat (total rest)
      have whole : total (chunk :: rest) = chunk.toNat + total rest := by simp [total]
      have first := vfsStep_read found readable inside chunk
      obtain ⟨final, following⟩ := ih (moved_self state state.memory fd file _) room
      rw [whole, split]
      constructor
      · rw [readCalls, List.map_cons, stateAfter_cons, first]
        exact final.trans (by rw [moved_moved, moved_memory, Nat.add_assoc])
      · rw [delivered, readCalls, List.map_cons, answers_cons, List.flatMap_cons, first,
          Region.load_add]
        exact congrArg _ following

theorem seek_back (found : state.files fd = some (file.at position)) {target : Nat}
    (inside : target ≤ file.data.size.toNat) :
    (vfsStep state (.pseudoLseek fd (Int64.ofNat target) SEEK_SET)).1 =
      state.moved state.memory fd file target := by
  have here : (Int64.ofNat target).toInt = target := at_fPos inside
  obtain ⟨next, result, clamped⟩ :=
    pseudoLseek_wraps file.data (file.at position).fPos (Int64.ofNat target)
      (show origin? SEEK_SET = some .start from rfl)
  have fits := file.data.sizeFits
  unfold INT_MAX at fits
  have same : next = Int64.ofNat target := Int64.toInt_inj.mp (by
    rw [clamped, here, Origin.base, Int.zero_add, Int.bmod_def, clamp]
    omega)
  subst same
  simp only [vfsStep, vfsPermits, if_true, step, found, at_data, result]
  rfl

theorem load_written (memory : Mem) (inside : position ≤ file.data.size.toNat) (bytes : List UInt8) :
    load
        (store memory (file.data.region.address position)
          (transfer file.data.size.toNat position bytes.length) (userBytes bytes))
        (file.data.region.address position) (transfer file.data.size.toNat position bytes.length) =
      bytes.take (file.data.size.toNat - position) := by
  rw [Region.load_store (transfer_room inside bytes.length)]
  apply List.ext_getElem
  · simp [transfer, Nat.min_comm]
  · intro index _ right
    rw [List.length_take] at right
    simp [userBytes, List.getD_eq_getElem?_getD, List.getElem?_eq_getElem (show index < bytes.length by omega)]

/-- What follows a write on the device is what was there before it. -/
theorem load_following (memory : Mem) {moved count : Nat}
    (room : position + moved + count ≤ file.data.size.toNat) (data : Nat → UInt8) :
    load (store memory (file.data.region.address position) moved data)
        (file.data.region.address (position + moved)) count =
      load memory (file.data.region.address (position + moved)) count := by
  rw [Region.load_address, Region.load_address]
  apply List.map_congr_left
  intro index member
  have within := List.mem_range.mp member
  rw [Region.store_address (by rw [region_size]; omega) (by rw [region_size]; omega), if_neg (by omega)]

/-- Where the file stands once the bytes are written and it is back where it was. -/
def rewound (state : State drv) (fd : Nat) (file : File drv) (bytes : List UInt8)
    (chunks : List UInt32) : State drv :=
  stateAfter vfsStep state (writeCalls drv fd bytes chunks ++ [.pseudoLseek fd file.fPos SEEK_SET])

/-- How many bytes of the device lie after the file position. -/
def File.room (file : File drv) : Nat := file.data.size.toNat - file.fPos.toInt.toNat

/-- Where `room` bytes are left, each read returns the count of those it is
asked for that are still there. -/
def ReadsCount (state : State drv) (fd : Nat) (room length : Nat) : Prop :=
  ∀ before chunk after, Chunking (before ++ chunk :: after) length →
    (vfsStep (stateAfter vfsStep state (readCalls drv fd before)) (.pseudoRead fd chunk none)).2.ret =
      some ((min chunk.toNat (room - total before) : Nat) : Int)

/-- Transfers do the same in chunks as in one call, and each returns what it has
moved. -/
structure CutsFreely (state : State drv) (fd : Nat) (file : File drv) (bytes : List UInt8) : Prop where
  writes : ∀ chunks, Chunking chunks bytes.length →
    stateAfter vfsStep state (writeCalls drv fd bytes chunks) =
      (vfsStep state (.pseudoWrite fd (userBytes bytes) (UInt32.ofNat bytes.length) none)).1
  writeCounts : ∀ before chunk after, Chunking (before ++ chunk :: after) bytes.length →
    total before < file.room →
      (vfsStep (stateAfter vfsStep state (writeCalls drv fd bytes before))
          (.pseudoWrite fd (userBytes (bytes.drop (total before))) chunk none)).2.ret =
        some ((min chunk.toNat (file.room - total before) : Nat) : Int)
  full : ∀ before chunk after, Chunking (before ++ chunk :: after) bytes.length → ∀ filled,
    (stateAfter vfsStep state (writeCalls drv fd bytes before)).files fd = some filled →
    filled.fPos.toInt = filled.data.size.toNat →
    vfsStep (stateAfter vfsStep state (writeCalls drv fd bytes before))
        (.pseudoWrite fd (userBytes (bytes.drop (total before))) chunk none) =
      (stateAfter vfsStep state (writeCalls drv fd bytes before),
        .wrote filled (userBytes (bytes.drop (total before))) chunk (Int32.ofInt (-ENOMEM)) [])
  reads : ∀ chunks, Chunking chunks bytes.length →
    delivered state (readCalls drv fd chunks) =
      delivered state (readCalls drv fd [UInt32.ofNat bytes.length])
  readCounts : ReadsCount state fd file.room bytes.length
  rereadCounts : ∀ chunks, Chunking chunks bytes.length →
    ReadsCount (rewound state fd file bytes chunks) fd file.room bytes.length
  rereads : ∀ chunks others, Chunking chunks bytes.length → Chunking others bytes.length →
    delivered (rewound state fd file bytes chunks) (readCalls drv fd others) = bytes.take file.room

/-- Once the written bytes have been read back, every further read returns 0. -/
def EndsAfter (state : State drv) (fd : Nat) (file : File drv) (bytes : List UInt8) : Prop :=
  ∀ chunks others further, Chunking chunks bytes.length → Chunking others bytes.length →
    ∀ event ∈ answers vfsStep
      (stateAfter vfsStep (rewound state fd file bytes chunks) (readCalls drv fd others))
      (readCalls drv fd further), event.ret = some 0

def State.bytes (state : State drv) (dev : Fin drv.noOfDevices) : List UInt8 :=
  (List.range (drv.pseudoDevData dev).size.toNat).map (state.contents dev)

/-- Once the written bytes have been read back, further reads go on with what
the device held after them. -/
def GoesOnAfter (state : State drv) (fd : Nat) (file : File drv) (bytes : List UInt8) : Prop :=
  ∀ chunks others further, Chunking chunks bytes.length → Chunking others bytes.length →
    delivered
        (stateAfter vfsStep (rewound state fd file bytes chunks) (readCalls drv fd others))
        (readCalls drv fd further) =
      ((state.bytes file.privateData).drop (file.fPos.toInt.toNat + bytes.length)).take (total further)

theorem total_single {length : Nat} (fits : length < 2 ^ 31) : total [UInt32.ofNat length] = length := by
  rw [total, List.map_singleton, List.sum_singleton,
    UInt32.toNat_ofNat_of_lt' (by simp only [UInt32.size]; omega)]

/-- The device keeps the written bytes, and the file is back where it was. -/
theorem rewound_moved (found : state.files fd = some file) (here : file.fPos.toInt = position)
    (inside : position ≤ file.data.size.toNat) (writable : file.hasMode FMODE_WRITE = true)
    {bytes : List UInt8} {chunks : List UInt32} (chunking : Chunking chunks bytes.length) :
    rewound state fd file bytes chunks =
      state.moved
        (store state.memory (file.data.region.address position)
          (transfer file.data.size.toNat position bytes.length) (userBytes bytes))
        fd file position := by
  have same := at_here here inside
  have start : file.fPos = Int64.ofNat position := congrArg File.fPos same.symm
  rw [← same] at found
  rw [rewound, stateAfter_append, writeCalls_moves chunks bytes found writable inside, chunking.sum,
    start]
  exact (seek_back (moved_self _ _ _ _ _) inside).trans (moved_moved _ _ _ _ _ _ _)

theorem transfer_left (size position done count : Nat) :
    transfer size (position + transfer size position done) count = min count (size - position - done) := by
  unfold transfer
  omega

theorem write_counts (found : state.files fd = some (file.at position))
    (writable : file.hasMode FMODE_WRITE = true) (inside : position ≤ file.data.size.toNat)
    {bytes : List UInt8} {before after : List UInt32} {chunk : UInt32}
    (cut : Chunking (before ++ chunk :: after) bytes.length)
    (room : total before < file.data.size.toNat - position) :
    (vfsStep (stateAfter vfsStep state (writeCalls drv fd bytes before))
        (.pseudoWrite fd (userBytes (bytes.drop (total before))) chunk none)).2.ret =
      some ((min chunk.toNat (file.data.size.toNat - position - total before) : Nat) : Int) := by
  have asked := cut.positive chunk (List.mem_append_right _ List.mem_cons_self)
  have left := transfer_left file.data.size.toNat position (total before) chunk.toNat
  have inside' := transfer_room inside (total before)
  have here := moved_self state (store state.memory (file.data.region.address position)
    (transfer file.data.size.toNat position (total before)) (userBytes bytes)) fd file
    (position + transfer file.data.size.toNat position (total before))
  rw [writeCalls_moves before bytes found writable inside, vfsStep_write here writable,
    step_write_stored here (at_fPos inside') inside' _ (by rw [at_data, left]; omega), at_data, Event.ret,
    toInt_moved inside' chunk, left]

theorem read_counts (found : state.files fd = some (file.at position))
    (readable : file.hasMode FMODE_READ = true) (inside : position ≤ file.data.size.toNat) (length : Nat) :
    ReadsCount state fd (file.data.size.toNat - position) length := by
  intro before chunk after _
  have inside' := transfer_room inside (total before)
  have left := transfer_left file.data.size.toNat position (total before) chunk.toNat
  rw [(readCalls_deliver before found readable inside).1, vfsStep_read (moved_self _ _ _ _ _) readable inside',
    Event.ret, toInt_moved inside' chunk, left]

theorem cuts_freely (found : state.files fd = some file) (inRange : file.InRange)
    (readable : file.hasMode FMODE_READ = true) (writable : file.hasMode FMODE_WRITE = true)
    {bytes : List UInt8} (fits : bytes.length < 2 ^ 31) : CutsFreely state fd file bytes := by
  obtain ⟨position, inside, here⟩ := inRange
  have same := at_here here inside
  have start : file.fPos.toInt.toNat = position := by omega
  have foundAt : state.files fd = some (file.at position) := by rw [same, found]
  have single := total_single fits
  have count : (UInt32.ofNat bytes.length).toNat = bytes.length := by
    rw [total, List.map_singleton, List.sum_singleton] at single
    exact single
  have room : file.room = file.data.size.toNat - position := by rw [File.room, start]
  refine ⟨fun chunks chunking => ?_, fun before chunk after cut within => ?_, ?_, fun chunks chunking => ?_, ?_,
    fun chunks cut => ?_, fun chunks others cut otherCut => ?_⟩
  · rw [writeCalls_moves chunks bytes foundAt writable inside, write_moves foundAt writable inside,
      chunking.sum, count]
  · rw [room] at within ⊢
    exact write_counts foundAt writable inside cut within
  · intro before chunk after _ filled reached full
    have moved := writeCalls_moves before bytes foundAt writable inside
    rw [moved, moved_self] at reached
    cases reached
    have room := transfer_room inside (total before)
    have finish := at_fPos room
    rw [finish] at full
    rw [moved, vfsStep_write (moved_self _ _ _ _ _) writable]
    apply step_write_full (moved_self _ _ _ _ _) finish room _
    exact (transfer_eq_zero_iff room _).mpr (Or.inr (Int.ofNat_inj.mp full))
  · rw [(readCalls_deliver chunks foundAt readable inside).2,
      (readCalls_deliver [UInt32.ofNat bytes.length] foundAt readable inside).2, chunking.sum, single]
  · rw [room]
    exact read_counts foundAt readable inside bytes.length
  · rw [rewound_moved found here inside writable cut, room]
    exact read_counts (moved_self _ _ _ _ _) readable inside bytes.length
  · rw [rewound_moved found here inside writable cut,
      (readCalls_deliver others (moved_self _ _ _ _ _) readable inside).2, otherCut.sum, moved_memory,
      load_written state.memory inside bytes, room]

theorem reread_moved (found : state.files fd = some file) (here : file.fPos.toInt = position)
    (inside : position ≤ file.data.size.toNat) (readable : file.hasMode FMODE_READ = true)
    (writable : file.hasMode FMODE_WRITE = true) {bytes : List UInt8} {chunks others : List UInt32}
    (cut : Chunking chunks bytes.length) (otherCut : Chunking others bytes.length) :
    stateAfter vfsStep (rewound state fd file bytes chunks) (readCalls drv fd others) =
      state.moved
        (store state.memory (file.data.region.address position)
          (transfer file.data.size.toNat position bytes.length) (userBytes bytes))
        fd file (position + transfer file.data.size.toNat position bytes.length) := by
  rw [rewound_moved found here inside writable cut,
    (readCalls_deliver others (moved_self _ _ _ _ _) readable inside).1, moved_moved, moved_memory,
    otherCut.sum]

theorem goes_on_after (found : state.files fd = some file) (inRange : file.InRange)
    (readable : file.hasMode FMODE_READ = true) (writable : file.hasMode FMODE_WRITE = true)
    (bytes : List UInt8) : GoesOnAfter state fd file bytes := by
  intro chunks others further cut otherCut
  obtain ⟨position, inside, here⟩ := inRange
  have start : file.fPos.toInt.toNat = position := by omega
  have room := transfer_room inside bytes.length
  rw [reread_moved found here inside readable writable cut otherCut,
    (readCalls_deliver further (moved_self _ _ _ _ _) readable room).2, moved_memory,
    load_following state.memory (transfer_room room (total further)), Region.load_address, start]
  have size : (drv.pseudoDevData file.privateData).size.toNat = file.data.size.toNat := rfl
  apply List.ext_getElem
  · simp only [State.bytes, List.length_map, List.length_range, List.length_take, List.length_drop, size]
    unfold transfer
    omega
  · intro index left right
    simp only [List.length_map, List.length_range] at left
    have uncut : transfer file.data.size.toNat position bytes.length = bytes.length := by
      unfold transfer at left ⊢
      omega
    simp only [State.bytes, State.contents, List.getElem_map, List.getElem_range, List.getElem_take,
      List.getElem_drop, uncut]
    rfl

theorem reads_at_end (further : List UInt32)
    (found : state.files fd = some (file.at file.data.size.toNat))
    (readable : file.hasMode FMODE_READ = true) :
    ∀ event ∈ answers vfsStep state (readCalls drv fd further), event.ret = some 0 := by
  induction further with
  | nil => simp [readCalls]
  | cons count rest ih =>
      intro event member
      have first := vfsStep_read found readable (Nat.le_refl _) count
      have nothing : transfer file.data.size.toNat file.data.size.toNat count.toNat = 0 :=
        (transfer_eq_zero_iff (Nat.le_refl _) _).mpr (Or.inr rfl)
      simp only [nothing, Nat.add_zero, moved_same found] at first
      rw [readCalls, List.map_cons, answers_cons, first, List.mem_cons] at member
      rcases member with rfl | later
      · rfl
      · exact ih event later

theorem ends_after (found : state.files fd = some file) (inRange : file.InRange)
    (readable : file.hasMode FMODE_READ = true) (writable : file.hasMode FMODE_WRITE = true)
    {bytes : List UInt8} (fills : file.room ≤ bytes.length) : EndsAfter state fd file bytes := by
  intro chunks others further cut otherCut
  obtain ⟨position, inside, here⟩ := inRange
  have finish : position + transfer file.data.size.toNat position bytes.length =
      file.data.size.toNat := by
    unfold File.room at fills
    unfold transfer
    omega
  rw [reread_moved found here inside readable writable cut otherCut, finish]
  exact reads_at_end further (moved_self _ _ _ _ _) readable

/-- From every state that a run reaches, a file that is open for reading and
writing may be written and read in chunks of any sizes.  Reading back the
written bytes ends the device if they reached its end. -/
theorem run_cuts_freely (drv : PseudoDrvData) (memory : Mem) (calls : List (Call drv)) {fd : Nat}
    {file : File drv} (found : (stateAfter vfsStep (boot drv memory) calls).files fd = some file)
    (readable : file.hasMode FMODE_READ = true) (writable : file.hasMode FMODE_WRITE = true)
    {bytes : List UInt8} (fits : bytes.length < 2 ^ 31) :
    CutsFreely (stateAfter vfsStep (boot drv memory) calls) fd file bytes ∧
      GoesOnAfter (stateAfter vfsStep (boot drv memory) calls) fd file bytes ∧
      (file.room ≤ bytes.length →
        EndsAfter (stateAfter vfsStep (boot drv memory) calls) fd file bytes) := by
  have permitted : (stateAfter vfsStep (boot drv memory) calls).Permitted :=
    invariant_run vfsStep_permitted (boot_permitted memory)
  have inRange := permitted.1 fd file found
  exact ⟨cuts_freely found inRange readable writable fits,
    goes_on_after found inRange readable writable bytes,
    ends_after found inRange readable writable⟩

theorem opened_device_cuts_freely :
    CutsFreely (stateAfter vfsStep (boot (pseudoDrvData adjacentBuffers) fun _ => 7) openPseudo2) 0
      openedPseudo2 [65, 66, 67] :=
  (run_cuts_freely (pseudoDrvData adjacentBuffers) (fun _ => 7) openPseudo2 rfl (by decide) (by decide)
    (by decide)).1

/-- One byte does not fill a device: the read after it finds the byte that was
there before. -/
theorem short_list_reads_on :
    ¬ ∀ (placement : Placement) (memory : Mem) (calls : List (Call (pseudoDrvData placement)))
      (fd : Nat) (file : File (pseudoDrvData placement)) (bytes : List UInt8),
      (stateAfter vfsStep (boot (pseudoDrvData placement) memory) calls).files fd = some file →
        file.hasMode FMODE_READ = true → file.hasMode FMODE_WRITE = true → bytes.length < 2 ^ 31 →
          CutsFreely (stateAfter vfsStep (boot (pseudoDrvData placement) memory) calls) fd file bytes ∧
            EndsAfter (stateAfter vfsStep (boot (pseudoDrvData placement) memory) calls) fd file bytes := by
  intro claimed
  have ends := (claimed adjacentBuffers (fun _ => 7) openPseudo2 0 openedPseudo2 [65] rfl (by decide)
    (by decide) (by decide)).2
  have chunking : Chunking [1] 1 := ⟨by simp, rfl⟩
  have stopped := ends [1] [1] [1] chunking chunking _ (List.mem_singleton.mpr rfl)
  exact absurd stopped (by decide)

end BbbLkm.PseudoN
