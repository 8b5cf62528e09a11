import BbbLkm.Cursor.Device
import BbbLkm.PseudoN.FileOps

namespace BbbLkm.PseudoN

open BbbLkm.Memory BbbLkm.Kernel BbbLkm.Cursor

variable {data : PseudoDevPrivateData} {count : UInt32} {offset : Int64} {position : Nat}
  {fault : Option Nat}

@[simp] theorem region_size : data.region.size = data.size.toNat := rfl

theorem toInt_maxSize (data : PseudoDevPrivateData) : data.maxSize.toInt = data.size.toNat := by
  have fits := data.sizeFits
  unfold INT_MAX at fits
  rw [PseudoDevPrivateData.maxSize, Int32.toInt_toInt64, toInt_toInt32_of_fits (by omega)]

theorem adjustSize_inside (here : offset.toInt = position) (inside : position ≤ data.size.toNat) :
    adjustSize data count offset = UInt32.ofNat (transfer data.size.toNat position count.toNat) := by
  have fits := data.sizeFits
  have bound := count.toNat_lt
  unfold INT_MAX at fits
  have limit := toInt_maxSize data
  have sum : (offset + widen count).toInt = position + count.toNat := by
    rw [toInt_add_of_fits (by rw [toInt_widen]; omega) (by rw [toInt_widen]; omega), here, toInt_widen]
  unfold adjustSize transfer
  apply UInt32.toNat_inj.mp
  rw [UInt32.toNat_ofNat_of_lt' (by simp only [UInt32.size]; omega)]
  by_cases exceeds : offset + widen count > data.maxSize
  · rw [if_pos exceeds]
    have exceeds' := Int64.lt_iff_toInt_lt.mp exceeds
    have rest : (data.maxSize - offset).toInt = data.size.toNat - position := by
      rw [toInt_sub_of_fits (by omega) (by omega), limit, here]
    have cut := toNat_truncate_of_fits (data.maxSize - offset) (by omega) (by omega)
    omega
  · rw [if_neg exceeds]
    have under : ¬ data.maxSize.toInt < (offset + widen count).toInt :=
      fun less => exceeds (Int64.lt_iff_toInt_lt.mpr less)
    omega

theorem buffer_add_inside (here : offset.toInt = position) (inside : position ≤ data.size.toNat) :
    data.buffer + truncate offset = data.region.address position := by
  have fits := data.sizeFits
  unfold INT_MAX at fits
  have cut := toNat_truncate_of_fits offset (by omega) (by omega)
  have same : truncate offset = UInt32.ofNat position := UInt32.toNat_inj.mp (by
    rw [UInt32.toNat_ofNat_of_lt' (by simp only [UInt32.size]; omega)]
    omega)
  rw [same]
  rfl

theorem transfer_fits (inside : position ≤ data.size.toNat) (count : UInt32) :
    transfer data.size.toNat position count.toNat ≤ INT_MAX := by
  have fits := data.sizeFits
  have room := transfer_room inside count.toNat
  omega

theorem toNat_moved (inside : position ≤ data.size.toNat) (count : UInt32) :
    (UInt32.ofNat (transfer data.size.toNat position count.toNat)).toNat =
      transfer data.size.toNat position count.toNat := by
  have fits := transfer_fits inside count
  unfold INT_MAX at fits
  exact UInt32.toNat_ofNat_of_lt' (by simp only [UInt32.size]; omega)

theorem left_ne_zero {moved : Nat} (fits : moved ≤ INT_MAX) :
    UInt32.ofNat (moved - reached moved fault) ≠ 0 ↔ reached moved fault ≠ moved := by
  have below := reached_le moved fault
  unfold INT_MAX at fits
  rw [ne_eq, ← UInt32.toNat_inj, UInt32.toNat_ofNat_of_lt' (by simp only [UInt32.size]; omega)]
  simp only [UInt32.toNat_zero]
  omega

theorem pseudoRead_inside (here : offset.toInt = position) (inside : position ≤ data.size.toNat)
    (memory : Mem) (count : UInt32) (fault : Option Nat) :
    pseudoRead data memory count offset fault =
      let moved := transfer data.size.toNat position count.toNat
      if reached moved fault = moved then
        { ret := (UInt32.ofNat moved).toInt32, offset := offset + widen (UInt32.ofNat moved)
          delivered := load memory (data.region.address position) moved
          touched := span (data.region.address position) moved }
      else
        { ret := Int32.ofInt (-EFAULT), offset
          delivered := load memory (data.region.address position) (reached moved fault)
          touched := span (data.region.address position) (reached moved fault) } := by
  have fits := transfer_fits inside count
  have small := toNat_moved inside count
  simp only [pseudoRead, adjustSize_inside here inside, buffer_add_inside here inside, copyToUser,
    copied_of_admitted (small.symm ▸ fits : _ ≤ INT_MAX), small, left_ne_zero fits, ne_eq, ite_not]
  split
  · rename_i whole
    rw [whole]
  · rfl

/-- `pseudo_write` stores what is left of the device, unless nothing is left or
the copy faults, and then it has stored the whole amount all the same. -/
theorem pseudoWrite_inside (here : offset.toInt = position) (inside : position ≤ data.size.toNat)
    (memory : Mem) (user : Nat → UInt8) (count : UInt32) (fault : Option Nat) :
    pseudoWrite data memory user count offset fault =
      let moved := transfer data.size.toNat position count.toNat
      if moved = 0 then { ret := Int32.ofInt (-ENOMEM), offset, memory, touched := [] }
      else
        let after := store memory (data.region.address position) moved
          fun index => if index < reached moved fault then user index else 0
        if reached moved fault = moved then
          { ret := (UInt32.ofNat moved).toInt32, offset := offset + widen (UInt32.ofNat moved)
            memory := after, touched := span (data.region.address position) moved }
        else
          { ret := Int32.ofInt (-EFAULT), offset
            memory := after, touched := span (data.region.address position) moved } := by
  have fits := transfer_fits inside count
  have small := toNat_moved inside count
  have empty : UInt32.ofNat (transfer data.size.toNat position count.toNat) = 0 ↔
      transfer data.size.toNat position count.toNat = 0 := by
    rw [← UInt32.toNat_inj, small, UInt32.toNat_zero]
  simp only [pseudoWrite, adjustSize_inside here inside, buffer_add_inside here inside, copyFromUser,
    copied_of_admitted (small.symm ▸ fits : _ ≤ INT_MAX), small, if_neg (Nat.not_lt.mpr fits), empty,
    left_ne_zero fits, ne_eq, ite_not]

theorem toInt_advance (here : offset.toInt = position) (inside : position ≤ data.size.toNat)
    (count : UInt32) :
    (offset + widen (UInt32.ofNat (transfer data.size.toNat position count.toNat))).toInt =
      (position + transfer data.size.toNat position count.toNat : Nat) := by
  have fits := transfer_fits inside count
  have bound := data.sizeFits
  unfold INT_MAX at fits bound
  have small := toNat_moved inside count
  rw [toInt_add_of_fits (by rw [toInt_widen, small]; omega) (by rw [toInt_widen, small]; omega),
    toInt_widen, small, here]
  omega

theorem toInt_moved (inside : position ≤ data.size.toNat) (count : UInt32) :
    (UInt32.ofNat (transfer data.size.toNat position count.toNat)).toInt32.toInt =
      (transfer data.size.toNat position count.toNat : Nat) := by
  have fits := transfer_fits inside count
  unfold INT_MAX at fits
  have small := toNat_moved inside count
  rw [toInt_toInt32_of_fits (by omega), small]

theorem pseudoRead_position (here : offset.toInt = position) (inside : position ≤ data.size.toNat)
    (memory : Mem) (count : UInt32) (fault : Option Nat) :
    ∃ next ≤ data.size.toNat, (pseudoRead data memory count offset fault).offset.toInt = next := by
  simp only [pseudoRead_inside here inside memory count fault]
  split
  · exact ⟨_, transfer_room inside count.toNat, toInt_advance here inside count⟩
  · exact ⟨position, inside, here⟩

theorem pseudoWrite_position (here : offset.toInt = position) (inside : position ≤ data.size.toNat)
    (memory : Mem) (user : Nat → UInt8) (count : UInt32) (fault : Option Nat) :
    ∃ next ≤ data.size.toNat,
      (pseudoWrite data memory user count offset fault).offset.toInt = next := by
  simp only [pseudoWrite_inside here inside memory user count fault]
  split
  · exact ⟨position, inside, here⟩
  · split
    · exact ⟨_, transfer_room inside count.toNat, toInt_advance here inside count⟩
    · exact ⟨position, inside, here⟩

theorem pseudoRead_touched (here : offset.toInt = position) (inside : position ≤ data.size.toNat)
    (memory : Mem) (count : UInt32) (fault : Option Nat) :
    ∀ address ∈ (pseudoRead data memory count offset fault).touched, data.region.Contains address := by
  have room := transfer_room inside count.toNat
  have below := reached_le (transfer data.size.toNat position count.toNat) fault
  rw [pseudoRead_inside here inside memory count fault]
  simp only
  split
  · exact Region.span_within (by simpa using room)
  · exact Region.span_within (by rw [region_size]; omega)

theorem pseudoWrite_touched (here : offset.toInt = position) (inside : position ≤ data.size.toNat)
    (memory : Mem) (user : Nat → UInt8) (count : UInt32) (fault : Option Nat) :
    ∀ address ∈ (pseudoWrite data memory user count offset fault).touched,
      data.region.Contains address := by
  have room := transfer_room inside count.toNat
  have within : ∀ address ∈ span (data.region.address position)
      (transfer data.size.toNat position count.toNat), data.region.Contains address :=
    Region.span_within (by simpa using room)
  rw [pseudoWrite_inside here inside memory user count fault]
  simp only
  split
  · simp
  · split
    · exact within
    · exact within

/-- Memory changes at most at the addresses that `pseudo_write` touched. -/
theorem pseudoWrite_frame {memory : Mem} {user : Nat → UInt8} {address : UInt32}
    (untouched : address ∉ (pseudoWrite data memory user count offset fault).touched) :
    (pseudoWrite data memory user count offset fault).memory address = memory address := by
  simp only [pseudoWrite] at untouched ⊢
  split
  · rfl
  · rename_i some_size
    rw [if_neg some_size] at untouched
    split at untouched
    · rename_i faulted
      rw [if_pos faulted]
      exact copyFromUser_frame untouched
    · rename_i whole
      rw [if_neg whole]
      exact copyFromUser_frame untouched

theorem pseudoWrite_outside (here : offset.toInt = position) (inside : position ≤ data.size.toNat)
    (memory : Mem) (user : Nat → UInt8) (count : UInt32) (fault : Option Nat) {address : UInt32}
    (outside : ¬ data.region.Contains address) :
    (pseudoWrite data memory user count offset fault).memory address = memory address :=
  pseudoWrite_frame fun member =>
    outside (pseudoWrite_touched here inside memory user count fault address member)

/-- The origin that `orig` names, if it is one of the three. -/
def origin? (orig : Int32) : Option Origin :=
  if orig = SEEK_SET then some .start
  else if orig = SEEK_CUR then some .current
  else if orig = SEEK_END then some .finish
  else none

theorem toInt_clamped (data : PseudoDevPrivateData) (target : Int64) :
    (if (if target > data.maxSize then data.maxSize else target) < 0 then 0
      else if target > data.maxSize then data.maxSize else target : Int64).toInt =
        clamp data.size.toNat target.toInt := by
  have limit := toInt_maxSize data
  unfold clamp
  by_cases exceeds : target > data.maxSize
  · have nonnegative : ¬ data.maxSize < 0 := by
      rw [Int64.lt_iff_toInt_lt, limit, Int64.toInt_zero]
      omega
    have above := Int64.lt_iff_toInt_lt.mp exceeds
    rw [if_pos exceeds, if_neg nonnegative]
    omega
  · have bounded : ¬ data.maxSize.toInt < target.toInt :=
      fun less => exceeds (Int64.lt_iff_toInt_lt.mpr less)
    rw [if_neg exceeds]
    by_cases negative : target < 0
    · have below := Int64.lt_iff_toInt_lt.mp negative
      rw [if_pos negative]
      rw [Int64.toInt_zero] at below ⊢
      omega
    · have nonnegative : ¬ target.toInt < 0 :=
        fun less => negative (Int64.lt_iff_toInt_lt.mpr less)
      rw [if_neg negative]
      omega

/-- `pseudo_lseek` clamps the sum as it is after wrapping to 64 bits. -/
theorem pseudoLseek_wraps (data : PseudoDevPrivateData) (fPos offset : Int64)
    {orig : Int32} {origin : Origin} (named : origin? orig = some origin) :
    ∃ next, pseudoLseek data fPos offset orig = (next, next) ∧
      next.toInt = clamp data.size.toNat
        ((origin.base data.size.toNat fPos.toInt + offset.toInt).bmod (2 ^ 64)) := by
  have limit := toInt_maxSize data
  simp only [origin?] at named
  simp only [pseudoLseek]
  split at named
  · rename_i set
    cases named
    rw [if_pos set]
    refine ⟨_, rfl, (toInt_clamped data offset).trans ?_⟩
    rw [Origin.base, Int.zero_add, Int.bmod_def]
    have lower := offset.le_toInt
    have upper := offset.toInt_lt
    congr 1
    omega
  · rename_i notSet
    rw [if_neg notSet]
    split at named
    · rename_i current
      cases named
      rw [if_pos current]
      refine ⟨_, rfl, (toInt_clamped data (fPos + offset)).trans ?_⟩
      rw [Int64.toInt_add, Origin.base]
    · rename_i notCurrent
      rw [if_neg notCurrent]
      split at named
      · rename_i finish
        cases named
        rw [if_pos finish]
        refine ⟨_, rfl, (toInt_clamped data (data.maxSize + offset)).trans ?_⟩
        rw [Int64.toInt_add, limit, Origin.base]
      · cases named

theorem pseudoLseek_unnamed {fPos : Int64} {orig : Int32} (unnamed : origin? orig = none) :
    pseudoLseek data fPos offset orig = (Int64.ofInt (-EINVAL), fPos) := by
  simp only [origin?] at unnamed
  simp only [pseudoLseek]
  split at unnamed
  · cases unnamed
  · rename_i notSet
    split at unnamed
    · cases unnamed
    · rename_i notCurrent
      split at unnamed
      · cases unnamed
      · rename_i notFinish
        rw [if_neg notSet, if_neg notCurrent, if_neg notFinish]

theorem pseudoLseek_inside {fPos : Int64} {orig : Int32} (here : fPos.toInt = position)
    (inside : position ≤ data.size.toNat) :
    ∃ next ≤ data.size.toNat, (pseudoLseek data fPos offset orig).2.toInt = next := by
  cases named : origin? orig with
  | none =>
      rw [pseudoLseek_unnamed named]
      exact ⟨position, inside, here⟩
  | some origin =>
      obtain ⟨next, result, clamped⟩ := pseudoLseek_wraps data fPos offset named
      have range := clamp_range data.size.toNat
        ((origin.base data.size.toNat fPos.toInt + offset.toInt).bmod (2 ^ 64))
      have nonnegative : 0 ≤ next.toInt := clamped ▸ range.1
      exact ⟨next.toInt.toNat, by omega, by rw [result, Int.toNat_of_nonneg nonnegative]⟩

end BbbLkm.PseudoN
