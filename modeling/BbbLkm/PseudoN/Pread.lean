import BbbLkm.PseudoN.Bounds

namespace BbbLkm.PseudoN

open BbbLkm.Memory BbbLkm.Kernel BbbLkm.Cursor

variable {data : PseudoDevPrivateData} {memory : Mem} {user : Nat → UInt8} {count : UInt32}
  {offset : Int64} {fault : Option Nat}

/-- What `rw_verify_area` lets through. -/
def VfsAdmits (count : UInt32) (offset : Int64) : Prop :=
  0 ≤ offset.toInt ∧ count.toNat ≤ INT_MAX ∧ offset.toInt + count.toNat < 2 ^ 63

instance (count : UInt32) (offset : Int64) : Decidable (VfsAdmits count offset) :=
  inferInstanceAs (Decidable (_ ∧ _))

/-- A transfer that copies at most what was asked for, only within the buffer,
and nothing at or past the end. -/
def Confined (data : PseudoDevPrivateData) (count : UInt32) (offset : Int64)
    (touched : List UInt32) : Prop :=
  touched.length ≤ count.toNat ∧
    (∀ address ∈ touched, ∃ index < data.size.toNat, data.region.address index = address) ∧
    ((data.size.toNat : Int) ≤ offset.toInt → touched = [])

theorem pseudoRead_span (data : PseudoDevPrivateData) (memory : Mem) (count : UInt32) (offset : Int64)
    (fault : Option Nat) :
    (pseudoRead data memory count offset fault).touched =
      span (data.buffer + truncate offset) (copied (adjustSize data count offset) fault) := by
  simp only [pseudoRead]
  split <;> rfl

theorem pseudoWrite_span (data : PseudoDevPrivateData) (memory : Mem) (user : Nat → UInt8)
    (count : UInt32) (offset : Int64) (fault : Option Nat) :
    (pseudoWrite data memory user count offset fault).touched =
      if adjustSize data count offset = 0 ∨ INT_MAX < (adjustSize data count offset).toNat then []
      else span (data.buffer + truncate offset) (adjustSize data count offset).toNat := by
  simp only [pseudoWrite, copyFromUser]
  by_cases empty : adjustSize data count offset = 0
  · rw [if_pos empty, if_pos (Or.inl empty)]
  · rw [if_neg empty]
    by_cases refused : INT_MAX < (adjustSize data count offset).toNat
    · rw [if_pos (Or.inr refused)]
      simp only [if_pos refused]
      split <;> rfl
    · rw [if_neg (not_or.mpr ⟨empty, refused⟩)]
      simp only [if_neg refused]
      split <;> rfl

/-- Past the end the difference wraps when it is stored into `size`. -/
theorem adjustSize_beyond (admitted : VfsAdmits count offset)
    (beyond : (data.size.toNat : Int) < offset.toInt) :
    ((adjustSize data count offset).toNat : Int) = (data.size.toNat - offset.toInt) % 2 ^ 32 := by
  obtain ⟨lower, _, upper⟩ := admitted
  have bound := offset.toInt_lt
  have limit := toInt_maxSize data
  have sum : (offset + widen count).toInt = offset.toInt + count.toNat := by
    rw [toInt_add_of_fits (by rw [toInt_widen]; omega) (by rw [toInt_widen]; omega), toInt_widen]
  have exceeds : offset + widen count > data.maxSize := Int64.lt_iff_toInt_lt.mpr (by omega)
  rw [adjustSize, if_pos exceeds, toNat_truncate, toInt_sub_of_fits (by omega) (by omega), limit]

theorem confined_inside (lower : 0 ≤ offset.toInt) (inside : offset.toInt ≤ data.size.toNat) :
    Confined data count offset (pseudoRead data memory count offset fault).touched ∧
      Confined data count offset (pseudoWrite data memory user count offset fault).touched := by
  have here : offset.toInt = (offset.toInt.toNat : Int) := (Int.toNat_of_nonneg lower).symm
  have bound : offset.toInt.toNat ≤ data.size.toNat := by omega
  have room := transfer_room bound count.toNat
  have asked := transfer_le_count data.size.toNat offset.toInt.toNat count.toNat
  have ended (atEnd : (data.size.toNat : Int) ≤ offset.toInt) :
      transfer data.size.toNat offset.toInt.toNat count.toNat = 0 :=
    (transfer_eq_zero_iff bound count.toNat).mpr (Or.inr (by omega))
  have confined (moved : Nat) (most : moved ≤ transfer data.size.toNat offset.toInt.toNat count.toNat) :
      Confined data count offset (span (data.region.address offset.toInt.toNat) moved) := by
    refine ⟨by rw [span_length]; omega, fun address member => ?_, fun atEnd => ?_⟩
    · have fits : offset.toInt.toNat + moved ≤ data.region.size := by rw [region_size]; omega
      exact Region.contains_iff.mp (Region.span_within fits address member)
    · have none_moved : moved = 0 := by have := ended atEnd; omega
      rw [none_moved, span_zero]
  constructor
  · rw [pseudoRead_inside here bound memory count fault]
    simp only
    split
    · exact confined _ (Nat.le_refl _)
    · exact confined _ (reached_le _ _)
  · rw [pseudoWrite_inside here bound memory user count fault]
    simp only
    split
    · exact ⟨Nat.zero_le _, by simp, fun _ => rfl⟩
    · split
      · exact confined _ (Nat.le_refl _)
      · exact confined _ (Nat.le_refl _)

/-- Transfers at an admitted position are confined exactly when the position is
not past the end, or the wrapped difference is zero or more than a user copy
accepts. -/
theorem transfers_confined_iff (data : PseudoDevPrivateData) {count : UInt32} {offset : Int64}
    (admitted : VfsAdmits count offset) :
    (∀ memory user fault,
      Confined data count offset (pseudoRead data memory count offset fault).touched ∧
        Confined data count offset (pseudoWrite data memory user count offset fault).touched) ↔
      offset.toInt ≤ data.size.toNat ∨
        (data.size.toNat - offset.toInt) % 2 ^ 32 = 0 ∨
        INT_MAX < (data.size.toNat - offset.toInt) % 2 ^ 32 := by
  apply Iff.intro
  · intro confined
    by_contra escaped
    simp only [not_or, Int.not_le] at escaped
    obtain ⟨beyond, some_size, accepted⟩ := escaped
    have wrapped := adjustSize_beyond admitted beyond
    have silent := (confined (fun _ => 0) (fun _ => 0) none).1.2.2 (Int.le_of_lt beyond)
    have moved := congrArg List.length silent
    rw [pseudoRead_span, span_length, copied_of_admitted (by omega), reached_none, List.length_nil] at moved
    omega
  · intro condition memory user fault
    by_cases beyond : (data.size.toNat : Int) < offset.toInt
    · have wrapped := adjustSize_beyond admitted beyond
      have idle : adjustSize data count offset = 0 ∨ INT_MAX < (adjustSize data count offset).toNat := by
        rcases condition with inside | vanishes | refused
        · omega
        · exact Or.inl (UInt32.toNat_inj.mp (by rw [UInt32.toNat_zero]; omega))
        · exact Or.inr (by omega)
      have uncopied : copied (adjustSize data count offset) fault = 0 := by
        rcases idle with vanishes | refused
        · rw [vanishes]
          exact Nat.le_zero.mp (copied_le 0 fault)
        · rw [copied, if_pos refused]
      have nothing : Confined data count offset [] := ⟨Nat.zero_le _, by simp, fun _ => rfl⟩
      constructor
      · rw [pseudoRead_span, uncopied, span_zero]
        exact nothing
      · rw [pseudoWrite_span, if_pos idle]
        exact nothing
    · exact confined_inside admitted.1 (by omega)

theorem transfers_confined_at_start :
    VfsAdmits 600 100 ∧ ∀ memory user fault,
      Confined (pseudoDevice adjacentBuffers 3) 600 100
          (pseudoRead (pseudoDevice adjacentBuffers 3) memory 600 100 fault).touched ∧
        Confined (pseudoDevice adjacentBuffers 3) 600 100
          (pseudoWrite (pseudoDevice adjacentBuffers 3) memory user 600 100
            fault).touched :=
  ⟨by decide, (transfers_confined_iff _ (by decide)).mpr (Or.inl (by decide))⟩

/-- At position `2 ^ 32 + 508` of a 512-byte device the difference wraps to 4,
so a request for one byte moves four. -/
theorem transfers_not_confined :
    ¬ ∀ (placement : Placement) (dev : Fin NO_OF_DEVICES) (count : UInt32) (offset : Int64),
      VfsAdmits count offset → ∀ memory user fault,
        Confined (pseudoDevice placement dev) count offset
            (pseudoRead (pseudoDevice placement dev) memory count offset fault).touched ∧
          Confined (pseudoDevice placement dev) count offset
            (pseudoWrite (pseudoDevice placement dev) memory user count offset
              fault).touched := by
  intro claimed
  have asked := (claimed adjacentBuffers 3 1 4294967804 (by decide) (fun _ => 0) (fun _ => 0) none).1.1
  have moved : (pseudoRead (pseudoDevice adjacentBuffers 3) (fun _ => 0) 1 4294967804
      none).touched.length = 4 := by decide
  rw [moved] at asked
  exact absurd asked (by decide)

end BbbLkm.PseudoN
