import BbbLkm.Machine.Run
import BbbLkm.Kernel.Decimal
import BbbLkm.Kernel.Gpiolib
import BbbLkm.Kernel.Sysfs
import BbbLkm.GpioSysfs.Probe

namespace BbbLkm.GpioSysfs

open BbbLkm.Machine BbbLkm.Memory BbbLkm.Kernel

variable {line : Line} {count : Nat}

inductive AttributeAnswer where
  | shown (printed : Printed)
  | stored (ret : Int)

def AttributeAnswer.ret : AttributeAnswer → Int
  | .shown printed => printed.ret
  | .stored ret => ret

def directionShow (buf : UInt32) (memory : Mem) (outcome : Except Errno Unit) (line : Line) : Printed :=
  let dir := gpiodGetDirection outcome line
  if dir < 0 then { ret := dir, memory, touched := [] } else
  let direction := if dir = 0 then "out" else "in"
  sprintf memory buf (ascii direction ++ [10])

def directionStore (buf : CString) (count : Nat) (outcome : Redirection) (line : Line) : Line × Int :=
  let set :=
    if sysfsStreq buf.bytes (ascii "in") then gpiodDirectionInput outcome
    else if sysfsStreq buf.bytes (ascii "out") then gpiodDirectionOutput 0 outcome
    else (-EINVAL, line)
  (set.2, if set.1 ≠ 0 then set.1 else count)

def valueShow (buf : UInt32) (memory : Mem) (outside : Bool) (outcome : Except Errno Unit) (line : Line) :
    Printed :=
  let val := gpiodGetValue outside outcome line
  sprintf memory buf (decimal val ++ [10])

def valueStore (buf : CString) (count : Nat) (line : Line) : Line × Int :=
  match kstrtolIn 0 buf with
  | .error rc => (line, rc.val)
  | .ok value => (gpiodSetValue value line, count)

/-- A `show` method is called with a page and the memory that it is part of. -/
inductive AttributeRequest where
  | directionShow (page : Page) (memory : Mem) (outcome : Except Errno Unit)
  | directionStore (buf : CString) (count : Nat) (outcome : Redirection)
  /-- An input is at the level `outside`. -/
  | valueShow (page : Page) (memory : Mem) (outside : Bool) (outcome : Except Errno Unit)
  | valueStore (buf : CString) (count : Nat)

def serveAttribute (line : Line) : AttributeRequest → Line × AttributeAnswer
  | .directionShow page memory outcome =>
      (line, .shown (directionShow (page.address 0) memory outcome line))
  | .directionStore buf count outcome =>
      let stored := directionStore buf count outcome line
      (stored.1, .stored stored.2)
  | .valueShow page memory outside outcome =>
      (line, .shown (valueShow (page.address 0) memory outside outcome line))
  | .valueStore buf count =>
      let stored := valueStore buf count line
      (stored.1, .stored stored.2)

section Purpose

def directionName : Line → String
  | .input => "in"
  | .output _ => "out"

/-- The string is the name, possibly with a newline behind it. -/
def Names (buf : CString) (name : String) : Prop := buf.bytes = ascii name ∨ buf.bytes = ascii name ++ [10]

/-- What gpiolib returns to the method is an error. -/
def Reports : AttributeRequest → Prop
  | .directionShow _ _ outcome => ∃ rc, outcome = .error rc
  | .directionStore _ _ outcome => ∃ rc, outcome = .error rc
  | .valueShow _ _ _ outcome => ∃ rc, outcome = .error rc
  | .valueStore _ _ => False

/-- The method has done what its result says. -/
def Done (before : Line) (answer : AttributeAnswer) (after : Line) : AttributeRequest → Prop
  | .directionShow page _ _ => ∃ printed, answer = .shown printed ∧
      Shows page (ascii (directionName before) ++ [10]) printed
  | .directionStore buf count _ => answer.ret = count → Names buf (directionName after)
  | .valueShow page _ outside _ => ∃ printed, answer = .shown printed ∧
      Shows page (ascii (if before.level outside then "1" else "0") ++ [10]) printed
  | .valueStore buf count => answer.ret = count →
      ∃ value, kstrtolIn 0 buf = .ok value ∧ (after.DrivenActive ↔ value ≠ 0)

structure Truthful (line : Line) (request : AttributeRequest) : Prop where
  done : Done line (serveAttribute line request).2 (serveAttribute line request).1 request
  failed : Reports request → (serveAttribute line request).2.ret < 0

/-- No error is printed for a level, and no input is set to active. -/
def Heeded (line : Line) : AttributeRequest → Prop
  | .valueShow _ _ _ outcome => ∀ rc, outcome ≠ .error rc
  | .valueStore buf _ => line = .input → ∀ value, kstrtolIn 0 buf = .ok value → value = 0
  | _ => True

end Purpose

theorem sysfsStreq_iff_names {buf : CString} {name : String} (unterminated : (ascii name).getLast? ≠ some 10) :
    sysfsStreq buf.bytes (ascii name) = true ↔ Names buf name := by
  rw [sysfsStreq_iff, Names]
  refine or_congr_right (or_iff_right fun longer => unterminated ?_)
  rw [longer, List.getLast?_concat]

theorem directionShow_error {rc : Errno} {buf : UInt32} {memory : Mem} :
    directionShow buf memory (.error rc) line = { ret := rc.val, memory, touched := [] } := by
  simp only [directionShow, gpiodGetDirection]
  exact if_pos rc.property

theorem directionShow_ok {buf : UInt32} {memory : Mem} : directionShow buf memory (.ok ()) line =
    sprintf memory buf (ascii (directionName line) ++ [10]) := by
  cases line <;> rfl

theorem directionShow_shows (page : Page) (memory : Mem) (outcome : Except Errno Unit) (line : Line) :
    Shows page (ascii (directionName line) ++ [10]) (directionShow (page.address 0) memory outcome line) := by
  cases outcome with
  | error rc =>
      rw [directionShow_error]
      exact ⟨Or.inl rc.property, fun _ member => by cases member⟩
  | ok _ =>
      have short : (ascii (directionName line) ++ [10]).length < PAGE_SIZE := by
        cases line with
        | input => decide
        | output _ => exact (by decide : (ascii "out" ++ [10]).length < PAGE_SIZE)
      rw [directionShow_ok]
      exact (shows_sprintf_iff memory).mpr short

theorem valueShow_shows (page : Page) (memory : Mem) (outside : Bool) (line : Line) :
    Shows page (ascii (if line.level outside then "1" else "0") ++ [10])
      (valueShow (page.address 0) memory outside (.ok ()) line) := by
  have text : decimal (gpiodGetValue outside (.ok ()) line) =
      ascii (if line.level outside then "1" else "0") := by
    simp only [gpiodGetValue]
    cases line.level outside <;> rfl
  have short : (ascii (if line.level outside then "1" else "0") ++ [10]).length < PAGE_SIZE := by
    cases line.level outside <;> decide
  rw [valueShow, text]
  exact (shows_sprintf_iff memory).mpr short

/-- An errno that is returned for the count is not one. -/
theorem failed_ne_count {rc : Errno} : rc.val ≠ (count : Int) := by
  have negative := rc.property
  omega

/-- The store either fails or has set the direction that its string names. -/
inductive StoreOutcome (buf : CString) (count : Nat) (outcome : Redirection) : Line × Int → Prop where
  | failed (rc : Errno) (left : Line) : StoreOutcome buf count outcome (left, rc.val)
  | set (after : Line) : outcome = .ok () → Names buf (directionName after) →
      StoreOutcome buf count outcome (after, count)

theorem redirect_outcome {buf : CString} {target : Line} (outcome : Redirection)
    (names : Names buf (directionName target)) :
    StoreOutcome buf count outcome ((redirect target outcome).2,
      if (redirect target outcome).1 ≠ 0 then (redirect target outcome).1 else count) := by
  cases outcome with
  | error reported =>
      obtain ⟨rc, left⟩ := reported
      rw [redirect, if_pos (Int.ne_of_lt rc.property)]
      exact .failed rc left
  | ok _ => exact .set target rfl names

theorem directionStore_outcome (buf : CString) (outcome : Redirection) :
    StoreOutcome buf count outcome (directionStore buf count outcome line) := by
  have input := @sysfsStreq_iff_names buf "in" (by decide)
  have output := @sysfsStreq_iff_names buf "out" (by decide)
  rw [directionStore]
  by_cases isIn : sysfsStreq buf.bytes (ascii "in") = true
  · simp only [if_pos isIn]
    exact redirect_outcome outcome (input.mp isIn)
  · by_cases isOut : sysfsStreq buf.bytes (ascii "out") = true
    · simp only [if_neg isIn, if_pos isOut]
      exact redirect_outcome outcome (output.mp isOut)
    · simp only [if_neg isIn, if_neg isOut]
      exact .failed .invalid line

theorem directionStore_truthful (buf : CString) (outcome : Redirection) :
    Truthful line (.directionStore buf count outcome) := by
  have stored := @directionStore_outcome line count buf outcome
  have served : serveAttribute line (.directionStore buf count outcome) =
      ((directionStore buf count outcome line).1, .stored (directionStore buf count outcome line).2) := rfl
  generalize directionStore buf count outcome line = result at stored served
  constructor
  · rw [served]
    cases stored with
    | failed rc left => exact fun counted => absurd counted failed_ne_count
    | set after _ names => exact fun _ => names
  · rw [served]
    rintro ⟨rc, reported⟩
    cases stored with
    | failed rc left => exact rc.property
    | set after succeeded _ => cases succeeded.symm.trans reported

theorem directionShow_truthful (page : Page) (memory : Mem) (outcome : Except Errno Unit) :
    Truthful line (.directionShow page memory outcome) := by
  refine ⟨⟨_, rfl, directionShow_shows page memory outcome line⟩, ?_⟩
  rintro ⟨rc, rfl⟩
  have failed := @directionShow_error line rc (page.address 0) memory
  simp only [serveAttribute, AttributeAnswer.ret, failed]
  exact rc.property

theorem valueShow_truthful_iff (page : Page) (memory : Mem) (outside : Bool) (outcome : Except Errno Unit) :
    Truthful line (.valueShow page memory outside outcome) ↔ ∀ rc, outcome ≠ .error rc := by
  have length : 0 ≤ (valueShow (page.address 0) memory outside outcome line).ret := Int.natCast_nonneg _
  apply Iff.intro
  · intro truthful rc reported
    have negative := truthful.failed ⟨rc, reported⟩
    exact absurd negative (Int.not_lt.mpr length)
  · intro heeded
    cases outcome with
    | error rc => exact absurd rfl (heeded rc)
    | ok _ =>
        refine ⟨⟨_, rfl, valueShow_shows page memory outside line⟩, ?_⟩
        rintro ⟨rc, reported⟩
        cases reported

theorem valueStore_truthful_iff (buf : CString) :
    Truthful line (.valueStore buf count) ↔
      (line = .input → ∀ value, kstrtolIn 0 buf = .ok value → value = 0) := by
  cases parsed : kstrtolIn 0 buf with
  | error rc =>
      refine iff_of_true ⟨?_, fun reported => reported.elim⟩ fun _ value same => by cases same
      simp only [serveAttribute, valueStore, parsed, Done]
      exact fun counted => absurd counted failed_ne_count
  | ok value =>
      have drives := @gpiodSetValue_drives_iff value line
      simp only [Except.ok.injEq, forall_eq']
      rw [← drives]
      apply Iff.intro
      · intro truthful
        have done := truthful.done
        simp only [serveAttribute, valueStore, parsed, Done, AttributeAnswer.ret, Except.ok.injEq,
          exists_eq_left', forall_const] at done
        exact done
      · intro driven
        refine ⟨?_, fun reported => reported.elim⟩
        simp only [serveAttribute, valueStore, parsed, Done, AttributeAnswer.ret, Except.ok.injEq,
          exists_eq_left', forall_const]
        exact driven

theorem heeded_iff_truthful (request : AttributeRequest) : Heeded line request ↔ Truthful line request := by
  cases request with
  | directionShow page memory outcome =>
      exact iff_of_true trivial (directionShow_truthful page memory outcome)
  | directionStore buf count outcome => exact iff_of_true trivial (directionStore_truthful buf outcome)
  | valueShow page memory outside outcome =>
      exact (valueShow_truthful_iff page memory outside outcome).symm
  | valueStore buf count => exact (valueStore_truthful_iff buf).symm

/-- In every run, the methods do what their results say if and only if none of
them prints an error for a level or sets an input to active. -/
theorem run_truthful_iff (line : Line) (requests : List AttributeRequest) :
    Along serveAttribute Truthful line requests ↔ Along serveAttribute Heeded line requests :=
  (along_congr (fun _ => True) (fun _ _ _ _ => trivial)
    (fun _ request _ => heeded_iff_truthful request) trivial).symm

theorem read_error_is_shown :
    ¬ ∀ (line : Line) (requests : List AttributeRequest),
      Along serveAttribute Truthful line requests := by
  intro claimed
  -- the line as the probe leaves it, which cannot be read
  obtain ⟨shown, _⟩ := claimed (.output false)
    [.valueShow firstPage (fun _ => 0) false (.error ⟨-5, by decide⟩)]
  have negative : ((3 : Nat) : Int) < 0 := shown.failed ⟨_, rfl⟩
  exact absurd negative (by decide)

end BbbLkm.GpioSysfs
