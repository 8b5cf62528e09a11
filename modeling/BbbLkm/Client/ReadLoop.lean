import Mathlib.Algebra.BigOperators.Group.List.Basic
import Mathlib.Algebra.Ring.Int.Defs
import BbbLkm.Machine.Run
import BbbLkm.Memory.Words

namespace BbbLkm.Client

open BbbLkm.Machine BbbLkm.Memory

/-! # The read loop of the client

What `main` does between `lseek` to position 10 and the final `printf`.  One
pass of the loop is one step; the result of its `read` call is the request.
-/

/-- `sizeof(buffer)`. -/
def BUFFER_SIZE : Nat := 2048

/-- The device behind `/dev/pseudo3`. -/
def MEM_SIZE : Nat := 512

/-- The locals of `main`, and the file position that the kernel keeps.
`looping` is false once the loop has been left. -/
structure Locals where
  n : Int32
  totalRead : Int32
  remain : Int32
  looping : Bool
  position : Nat

/-- After `remain = atoi(argv[1])` and the seek. -/
def start (remain : Int32) : Locals :=
  { n := 0, totalRead := 0, remain, looping := true, position := 10 }

/-- The index into `buffer` that a `read` call stores to, and its count. -/
structure ReadCall where
  destination : Int
  count : UInt32

/-- The loop goes round once more: `while (n != 2 && remain)`. -/
def Locals.Reads (state : Locals) : Prop :=
  state.looping = true ∧ state.n ≠ 2 ∧ state.remain ≠ 0

instance (state : Locals) : Decidable state.Reads := inferInstanceAs (Decidable (_ ∧ _ ∧ _))

def Locals.readCall (state : Locals) : ReadCall :=
  { destination := state.totalRead.toInt, count := state.remain.toUInt32 }

def step (state : Locals) (ret : Int32) : Locals × Option ReadCall :=
  if state.Reads then
    let call := state.readCall
    let state := { state with position := state.position + ret.toInt.toNat }
    if ret = 0 then ({ state with looping := false }, some call)
    else if ret ≤ state.remain then
      ({ state with
          totalRead := state.totalRead + ret
          remain := state.remain - ret
          n := state.n + 1 }, some call)
    else if ret < 0 then ({ state with looping := false }, some call)
    else ({ state with looping := false }, some call)
  else ({ state with looping := false }, none)

/-- What `read` may return: -1, or a count that is at most what it was asked
for and what the device has left. -/
structure Possible (state : Locals) (ret : Int32) : Prop where
  reads : state.Reads
  result : ret = -1 ∨
    0 ≤ ret.toInt ∧ ret.toInt ≤ state.readCall.count.toNat ∧ state.position + ret.toInt ≤ MEM_SIZE

/-- The sum of the results that are not errors. -/
def received (results : List Int32) : Int :=
  ((results.map Int32.toInt).filter (0 ≤ ·)).sum

/-- After a pass the counters add up, the call stayed inside the buffer, and a
failed call has ended the loop. -/
structure Accounted (requested : Int32) (received : Int) (state : Locals) (ret : Int32) : Prop where
  total : (step state ret).1.totalRead.toInt = received
  rest : (step state ret).1.totalRead.toInt + (step state ret).1.remain.toInt = requested.toInt
  placed : ∃ call, (step state ret).2 = some call ∧ 0 ≤ call.destination ∧
    call.destination < BUFFER_SIZE ∧ call.destination + ret.toInt ≤ BUFFER_SIZE
  failed : ret = -1 → (step state ret).1.looping = false ∧
    (step state ret).1.totalRead = state.totalRead ∧ (step state ret).1.remain = state.remain

/-- An error comes only while `remain` is below -1, and bytes only while it is
positive: elsewhere `ret <= remain` sorts them the wrong way. -/
def SortedRight (state : Locals) (ret : Int32) : Prop :=
  (ret = -1 → state.remain.toInt < -1) ∧ (0 < ret.toInt → 0 < state.remain.toInt)

instance (state : Locals) (ret : Int32) : Decidable (SortedRight state ret) :=
  inferInstanceAs (Decidable ((ret = -1 → _) ∧ (0 < ret.toInt → _)))

structure Balanced (requested : Int32) (state : Locals) : Prop where
  rest : state.totalRead.toInt + state.remain.toInt = requested.toInt
  position : (state.position : Int) = 10 + state.totalRead.toInt
  inside : state.position ≤ MEM_SIZE
  lower : 0 ≤ state.totalRead.toInt

variable {requested : Int32} {state : Locals} {ret : Int32}

theorem start_balanced (requested : Int32) : Balanced requested (start requested) where
  rest := by simp [start]
  position := rfl
  inside := show 10 ≤ MEM_SIZE by decide
  lower := Int.le_refl 0

/-- The branch that counts `ret` as data. -/
theorem step_counted (reads : state.Reads) (nonzero : ret ≠ 0) (counted : ret ≤ state.remain) :
    step state ret =
      ({ state with
          totalRead := state.totalRead + ret
          remain := state.remain - ret
          n := state.n + 1
          position := state.position + ret.toInt.toNat }, some state.readCall) := by
  simp only [step, if_pos reads, if_neg nonzero, if_pos counted]

theorem step_stopped (reads : state.Reads) (stops : ret = 0 ∨ state.remain < ret) :
    step state ret =
      ({ state with looping := false, position := state.position + ret.toInt.toNat },
        some state.readCall) := by
  rcases stops with rfl | above
  · simp only [step, if_pos reads, if_true]
  · simp only [step, if_pos reads, if_neg (Int32.not_le.mpr above)]
    split
    · rfl
    · split
      · rfl
      · rfl

/-- A result that is sorted right either is data that was asked for, or ends
the loop. -/
theorem sorted_cases (possible : Possible state ret) (sorted : SortedRight state ret) :
    0 < ret.toInt ∧ ret.toInt ≤ state.remain.toInt ∨
      (ret = 0 ∨ state.remain < ret) ∧ (ret = 0 ∨ ret = -1) := by
  obtain ⟨errors, bytes⟩ := sorted
  rcases possible.result with rfl | ⟨nonnegative, asked, left⟩
  · refine Or.inr ⟨Or.inr (Int32.lt_iff_toInt_lt.mpr (errors rfl)), Or.inr rfl⟩
  · by_cases none : ret.toInt = 0
    · have zero : ret = 0 := Int32.toInt_inj.mp none
      exact Or.inr ⟨Or.inl zero, Or.inl zero⟩
    · have positive := bytes (by omega)
      have count := @toNat_toUInt32_of_nonneg state.remain (Int.le_of_lt positive)
      simp only [Locals.readCall] at asked
      exact Or.inl ⟨by omega, by omega⟩

theorem step_balanced (balanced : Balanced requested state) (possible : Possible state ret)
    (sorted : SortedRight state ret) : Balanced requested (step state ret).1 := by
  obtain ⟨rest, position, inside, lower⟩ := balanced
  rcases sorted_cases possible sorted with ⟨positive, asked⟩ | ⟨stops, empty⟩
  · have nonzero : ret ≠ 0 := by
      rintro rfl
      exact absurd positive (by decide)
    have left : state.position + ret.toInt ≤ MEM_SIZE := by
      rcases possible.result with rfl | result
      · exact absurd positive (by decide)
      · exact result.2.2
    unfold MEM_SIZE at left inside
    have total : (state.totalRead + ret).toInt = state.totalRead.toInt + ret.toInt := by
      rw [Int32.toInt_add, Int.bmod_def]
      omega
    have remaining : (state.remain - ret).toInt = state.remain.toInt - ret.toInt := by
      have upper := state.remain.toInt_lt
      rw [Int32.toInt_sub, Int.bmod_def]
      omega
    rw [step_counted possible.reads nonzero (Int32.le_iff_toInt_le.mpr asked)]
    constructor
    · simp only [total, remaining]
      omega
    · simp only [total]
      omega
    · simp only [MEM_SIZE]
      omega
    · simp only [total]
      omega
  · have still : ret.toInt.toNat = 0 := by
      rcases empty with rfl | rfl
      · rfl
      · rfl
    rw [step_stopped possible.reads stops]
    simp only [still]
    exact ⟨rest, position, inside, lower⟩

theorem step_placed (balanced : Balanced requested state) (possible : Possible state ret) :
    ∃ call, (step state ret).2 = some call ∧ 0 ≤ call.destination ∧
      call.destination < BUFFER_SIZE ∧ call.destination + ret.toInt ≤ BUFFER_SIZE := by
  obtain ⟨rest, position, inside, lower⟩ := balanced
  have called : (step state ret).2 = some state.readCall := by
    by_cases counted : ret ≠ 0 ∧ ret ≤ state.remain
    · rw [step_counted possible.reads counted.1 counted.2]
    · have stops : ret = 0 ∨ state.remain < ret := by
        rw [← Int32.not_le]
        exact Decidable.or_iff_not_not_and_not.mpr fun both => counted ⟨both.1, Decidable.not_not.mp both.2⟩
      rw [step_stopped possible.reads stops]
  have most : ret.toInt ≤ MEM_SIZE := by
    rcases possible.result with rfl | result
    · decide
    · omega
  unfold MEM_SIZE at inside most
  refine ⟨state.readCall, called, lower, ?_, ?_⟩
  · simp only [Locals.readCall, BUFFER_SIZE]
    omega
  · simp only [Locals.readCall, BUFFER_SIZE]
    omega

theorem accounted_of_sorted (balanced : Balanced requested state) (possible : Possible state ret)
    (sorted : SortedRight state ret) :
    Accounted requested ((step state ret).1.position - 10) state ret := by
  have after := step_balanced balanced possible sorted
  refine ⟨by have := after.position; omega, after.rest, step_placed balanced possible, ?_⟩
  rintro rfl
  have above : state.remain < -1 := Int32.lt_iff_toInt_lt.mpr (sorted.1 rfl)
  rw [step_stopped possible.reads (Or.inr above)]
  exact ⟨rfl, rfl, rfl⟩

theorem sorted_of_accounted (balanced : Balanced requested state) (possible : Possible state ret)
    (accounted : Accounted requested ((step state ret).1.position - 10) state ret) :
    SortedRight state ret := by
  have nonzero : state.remain.toInt ≠ 0 := fun zero => possible.reads.2.2 (Int32.toInt_inj.mp zero)
  constructor
  · rintro rfl
    by_contra counted
    have below : (-1 : Int32) ≤ state.remain := by
      rw [Int32.le_iff_toInt_le]
      exact Int.not_lt.mp counted
    have same := (accounted.failed rfl).1
    rw [step_counted possible.reads (by decide) below] at same
    exact absurd (possible.reads.1.symm.trans same) (by decide)
  · intro positive
    by_contra negative
    have above : state.remain < ret := Int32.lt_iff_toInt_lt.mpr (by omega)
    have total := accounted.total
    have position := balanced.position
    rw [step_stopped possible.reads (Or.inr above)] at total
    simp only at total
    omega

/-- The kernel's file position counts the bytes that the calls delivered. -/
theorem position_received {results : List Int32} (possible : Along step Possible state results) :
    ((stateAfter step state results).position : Int) = state.position + received results := by
  induction results generalizing state with
  | nil => simp [received]
  | cons ret rest ih =>
      have moved : (step state ret).1.position = state.position + ret.toInt.toNat := by
        simp only [step, if_pos possible.1.reads]
        repeat' split
        all_goals rfl
      have sum : received (ret :: rest) = ret.toInt.toNat + received rest := by
        simp only [received, List.map_cons, List.filter_cons, decide_eq_true_eq]
        split
        · rw [List.sum_cons]
          omega
        · omega
      rw [stateAfter_cons, ih possible.2, moved, sum]
      omega

theorem position_after {before : List Int32}
    (possible : Along step Possible state (before ++ [ret])) :
    ((step (stateAfter step state before) ret).1.position : Int) =
      state.position + received (before ++ [ret]) := by
  have counted := position_received possible
  rwa [stateAfter_append, stateAfter_cons, stateAfter_nil] at counted

/-- Along every possible run of the loop, every pass is accounted for if and only
if every result is sorted right. -/
theorem run_accounted_iff (requested : Int32) (results : List Int32)
    (possible : Along step Possible (start requested) results) :
    (∀ before ret after, results = before ++ ret :: after →
      Accounted requested (received (before ++ [ret])) (stateAfter step (start requested) before) ret) ↔
      Along step SortedRight (start requested) results := by
  have steps := @along_congr _ _ _ step (start requested) results (Balanced requested)
    (fun state ret => Possible state ret ∧ SortedRight state ret)
    (fun state ret => Possible state ret ∧
      Accounted requested ((step state ret).1.position - 10) state ret)
    (fun state ret balanced sorted => step_balanced balanced sorted.1 sorted.2)
    (fun state ret balanced => and_congr_right fun possible =>
      ⟨accounted_of_sorted balanced possible, sorted_of_accounted balanced possible⟩)
    (start_balanced requested)
  rw [along_and, along_and, and_congr_right_iff] at steps
  rw [steps possible, along_iff_forall]
  refine forall_congr' fun before => forall_congr' fun ret => forall_congr' fun after =>
    forall_congr' fun split => ?_
  have started : Along step Possible (start requested) (before ++ [ret]) := by
    rw [split, ← List.singleton_append, ← List.append_assoc] at possible
    exact (along_append.mp possible).1
  have position := position_after started
  rw [show ((step (stateAfter step (start requested) before) ret).1.position : Int) - 10 =
    received (before ++ [ret]) by rw [position]; simp [start]]

theorem full_read_possible : Along step Possible (start 10) [4, 6] :=
  ⟨⟨by decide, Or.inr (by decide)⟩, ⟨by decide, Or.inr (by decide)⟩, trivial⟩

theorem full_read_accounted :
    Accounted 10 10 (stateAfter step (start 10) [4]) 6 :=
  (run_accounted_iff 10 [4, 6] full_read_possible).mpr ⟨by decide, by decide, trivial⟩ [4] 6 [] rfl

/-- A failed read of ten bytes makes the total -1. -/
theorem failed_read_counted :
    ¬ ∀ (requested : Int32) (results : List Int32), Along step Possible (start requested) results →
      ∀ before ret after, results = before ++ ret :: after →
        Accounted requested (received (before ++ [ret])) (stateAfter step (start requested) before)
          ret := by
  intro claimed
  have possible : Along step Possible (start 10) [-1] := ⟨⟨by decide, Or.inl rfl⟩, trivial⟩
  have accounted := claimed 10 [-1] possible [] (-1) [] rfl
  exact absurd (accounted.failed rfl).1 (by decide)

end BbbLkm.Client
