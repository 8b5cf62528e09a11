import BbbLkm.PseudoN.Vfs

namespace BbbLkm.PseudoN

open BbbLkm.Memory BbbLkm.Kernel BbbLkm.Cursor BbbLkm.Machine

variable {drv : PseudoDrvData} {state : State drv} {fd : Nat} {file : File drv} {origin : Origin}

/-- The target, without wrapping, of a seek on an open file. -/
def File.seekTarget (file : File drv) (origin : Origin) (offset : Int64) : Int :=
  origin.base file.data.size.toNat file.fPos.toInt + offset.toInt

/-- `pseudo_lseek` moves the file to the exact target clamped to the device,
and returns that position. -/
def SeeksExactly (state : State drv) (fd : Nat) (offset : Int64) (orig : Int32) : Prop :=
  ∀ file origin, state.files fd = some file → origin? orig = some origin →
    ∃ fPos, (step state (.pseudoLseek fd offset orig)).1.files fd = some { file with fPos } ∧
      (step state (.pseudoLseek fd offset orig)).2 = .sought file fPos ∧
      fPos.toInt = seek file.data.size.toNat file.fPos.toInt origin offset.toInt

/-- The target is at most the largest `loff_t`. -/
def SeekFits (state : State drv) (fd : Nat) (offset : Int64) (orig : Int32) : Prop :=
  ∀ file origin, state.files fd = some file → origin? orig = some origin →
    file.seekTarget origin offset < 2 ^ 63

theorem step_lseek (found : state.files fd = some file) (offset : Int64) {orig : Int32}
    (named : origin? orig = some origin) :
    ∃ fPos, step state (.pseudoLseek fd offset orig) =
        (state.setFile fd { file with fPos }, .sought file fPos) ∧
      fPos.toInt = clamp file.data.size.toNat ((file.seekTarget origin offset).bmod (2 ^ 64)) := by
  obtain ⟨next, result, clamped⟩ := pseudoLseek_wraps file.data file.fPos offset named
  exact ⟨next, by simp only [step, found, result], clamped⟩

/-- Wrapping sends a target that is too large to the wrong end of the device,
and leaves all others alone. -/
theorem clamp_wrapped_iff (inside : file.InRange) (origin : Origin) (offset : Int64) :
    clamp file.data.size.toNat ((file.seekTarget origin offset).bmod (2 ^ 64)) =
        seek file.data.size.toNat file.fPos.toInt origin offset.toInt ↔
      file.seekTarget origin offset < 2 ^ 63 := by
  obtain ⟨position, bound, here⟩ := inside
  have range : 0 ≤ origin.base file.data.size.toNat file.fPos.toInt ∧
      origin.base file.data.size.toNat file.fPos.toInt ≤ file.data.size.toNat :=
    origin.base_range (by omega) (by omega)
  have lower := offset.le_toInt
  have upper := offset.toInt_lt
  rw [Int.bmod_def]
  unfold seek clamp File.seekTarget
  omega

theorem seeks_exactly_iff (inRange : state.InRange) (fd : Nat) (offset : Int64) (orig : Int32) :
    SeeksExactly state fd offset orig ↔ SeekFits state fd offset orig := by
  have compare : ∀ file origin, state.files fd = some file → origin? orig = some origin →
      ∃ fPos, step state (.pseudoLseek fd offset orig) =
          (state.setFile fd { file with fPos }, .sought file fPos) ∧
        (fPos.toInt = seek file.data.size.toNat file.fPos.toInt origin offset.toInt ↔
          file.seekTarget origin offset < 2 ^ 63) := by
    intro file origin found named
    obtain ⟨fPos, stepped, clamped⟩ := step_lseek found offset named
    exact ⟨fPos, stepped, clamped ▸ clamp_wrapped_iff (inRange fd file found) origin offset⟩
  apply Iff.intro
  · intro exactly file origin found named
    obtain ⟨fPos, stepped, agree⟩ := compare file origin found named
    obtain ⟨other, _, returned, target⟩ := exactly file origin found named
    rw [stepped] at returned
    cases returned
    exact agree.mp target
  · intro fits file origin found named
    obtain ⟨fPos, stepped, agree⟩ := compare file origin found named
    refine ⟨fPos, ?_, by rw [stepped], agree.mpr (fits file origin found named)⟩
    rw [stepped]
    exact setFile_self _ _ _

/-- In every state that a run reaches, a seek is exact if and only if its
target does not exceed the largest `loff_t`. -/
theorem run_seeks_exactly_iff (drv : PseudoDrvData) (memory : Mem) (calls : List (Call drv))
    (fd : Nat) (offset : Int64) (orig : Int32) :
    SeeksExactly (stateAfter step (boot drv memory) calls) fd offset orig ↔
      SeekFits (stateAfter step (boot drv memory) calls) fd offset orig :=
  seeks_exactly_iff (run_inRange memory calls) fd offset orig

def openAndAdvance : List (Call (pseudoDrvData adjacentBuffers)) :=
  [.pseudoOpen 0 (2 : Fin NO_OF_DEVICES) 3, .pseudoLseek 0 1 SEEK_SET]

/-- From position 1, the largest offset there is seeks to the start. -/
theorem largest_offset_seeks_backwards :
    ¬ ∀ (placement : Placement) (memory : Mem) (calls : List (Call (pseudoDrvData placement)))
      (fd : Nat) (offset : Int64) (orig : Int32),
      SeeksExactly (stateAfter step (boot (pseudoDrvData placement) memory) calls) fd offset orig := by
  intro claimed
  have exactly := claimed adjacentBuffers (fun _ => 0) openAndAdvance 0 Int64.maxValue SEEK_CUR
  obtain ⟨fPos, _, returned, target⟩ := exactly { privateData := (2 : Fin NO_OF_DEVICES), fPos := 1, fMode := 3 }
    .current rfl rfl
  cases returned
  exact absurd target (by decide)

end BbbLkm.PseudoN
