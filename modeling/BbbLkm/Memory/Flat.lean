import Mathlib.Algebra.Group.Int.Defs
import Mathlib.Algebra.Group.Nat.Defs
import Mathlib.Logic.Basic

namespace BbbLkm.Memory

/-! # Flat 32-bit memory

A memory maps every 32-bit address to a byte; address arithmetic wraps.  A
`Region` is a range of addresses that does not wrap, such as a static array.
Copies are described by where they start and how many bytes they move, so that
one which runs out of its region is still a meaningful operation.
-/

abbrev Mem := UInt32 → UInt8

def span (start : UInt32) (count : Nat) : List UInt32 :=
  (List.range count).map fun index => start + UInt32.ofNat index

def load (memory : Mem) (start : UInt32) (count : Nat) : List UInt8 :=
  (span start count).map memory

def store (memory : Mem) (start : UInt32) (count : Nat) (data : Nat → UInt8) : Mem :=
  fun address =>
    if (address - start).toNat < count then data (address - start).toNat else memory address

@[simp] theorem span_length (start : UInt32) (count : Nat) : (span start count).length = count := by
  simp [span]

@[simp] theorem span_zero (start : UInt32) : span start 0 = [] := rfl

theorem store_frame {memory : Mem} {start address : UInt32} {count : Nat} {data : Nat → UInt8}
    (outside : address ∉ span start count) : store memory start count data address = memory address := by
  unfold store
  split
  · rename_i inside
    refine absurd (List.mem_map.mpr ⟨(address - start).toNat, List.mem_range.mpr inside, ?_⟩) outside
    rw [UInt32.ofNat_toNat]
    exact UInt32.toNat_inj.mp (by
      have := start.toNat_lt
      have := address.toNat_lt
      simp only [UInt32.toNat_add, UInt32.toNat_sub]
      omega)
  · rfl

@[simp] theorem store_zero (memory : Mem) (start : UInt32) (data : Nat → UInt8) :
    store memory start 0 data = memory := by
  funext address
  simp [store]

theorem store_congr {memory : Mem} {start : UInt32} {count : Nat} {left right : Nat → UInt8}
    (same : ∀ index < count, left index = right index) :
    store memory start count left = store memory start count right := by
  funext address
  unfold store
  split
  · rename_i inside
    exact same _ inside
  · rfl

/-- A range of addresses that does not wrap. -/
structure Region where
  base : UInt32
  size : Nat
  fits : base.toNat + size ≤ 2 ^ 32

namespace Region

variable (region : Region)

def address (index : Nat) : UInt32 := region.base + UInt32.ofNat index

def Contains (address : UInt32) : Prop :=
  region.base.toNat ≤ address.toNat ∧ address.toNat < region.base.toNat + region.size

instance (address : UInt32) : Decidable (region.Contains address) :=
  inferInstanceAs (Decidable (_ ∧ _))

def Disjoint (left right : Region) : Prop :=
  left.base.toNat + left.size ≤ right.base.toNat ∨ right.base.toNat + right.size ≤ left.base.toNat

instance (left right : Region) : Decidable (left.Disjoint right) :=
  inferInstanceAs (Decidable (_ ∨ _))

variable {region}

theorem toNat_address {index : Nat} (bound : index < region.size) :
    (region.address index).toNat = region.base.toNat + index := by
  have fits := region.fits
  rw [Region.address, UInt32.toNat_add, UInt32.toNat_ofNat_of_lt' (by simp only [UInt32.size]; omega)]
  omega

theorem contains_address {index : Nat} (bound : index < region.size) : region.Contains (region.address index) := by
  rw [Contains, toNat_address bound]
  omega

theorem contains_iff {address : UInt32} :
    region.Contains address ↔ ∃ index < region.size, region.address index = address := by
  apply Iff.intro
  · intro inside
    obtain ⟨lower, upper⟩ := inside
    refine ⟨address.toNat - region.base.toNat, by omega, UInt32.toNat_inj.mp ?_⟩
    rw [toNat_address (by omega)]
    omega
  · intro listed
    obtain ⟨index, bound, rfl⟩ := listed
    exact contains_address bound

theorem Disjoint.symm {left right : Region} (disjoint : left.Disjoint right) : right.Disjoint left :=
  Or.symm disjoint

theorem Disjoint.not_contains {left right : Region} {address : UInt32}
    (disjoint : left.Disjoint right) (inside : left.Contains address) : ¬ right.Contains address := by
  unfold Region.Disjoint at disjoint
  unfold Contains at *
  omega

theorem span_within {start count : Nat} (room : start + count ≤ region.size) :
    ∀ address ∈ span (region.address start) count, region.Contains address := by
  intro address member
  obtain ⟨index, bound, rfl⟩ := List.mem_map.mp member
  have inside : index < count := List.mem_range.mp bound
  have shifted : region.address start + UInt32.ofNat index = region.address (start + index) := by
    simp only [Region.address, UInt32.ofNat_add, UInt32.add_assoc]
  rw [shifted]
  exact contains_address (by omega)

/-- The address behind a region is not one of its own, unless the region is the
whole memory. -/
theorem not_contains_end (proper : region.size < 2 ^ 32) :
    ¬ region.Contains (region.address region.size) := by
  have fits := region.fits
  have size : (UInt32.ofNat region.size).toNat = region.size := UInt32.toNat_ofNat_of_lt' proper
  have last : (region.address region.size).toNat = (region.base.toNat + region.size) % 2 ^ 32 := by
    rw [Region.address, UInt32.toNat_add, size]
  unfold Contains
  omega

theorem span_within_iff (proper : region.size < 2 ^ 32) {count : Nat} :
    (∀ address ∈ span (region.address 0) count, region.Contains address) ↔ count ≤ region.size := by
  apply Iff.intro
  · intro within
    refine Nat.le_of_not_lt fun beyond => not_contains_end proper (within _ ?_)
    refine List.mem_map.mpr ⟨region.size, List.mem_range.mpr beyond, ?_⟩
    simp [Region.address]
  · intro room
    exact span_within (by omega)

theorem load_address (memory : Mem) (start count : Nat) :
    load memory (region.address start) count =
      (List.range count).map fun index => memory (region.address (start + index)) := by
  simp [load, span, Region.address, UInt32.ofNat_add, UInt32.add_assoc]

theorem store_address {memory : Mem} {start count index : Nat} {data : Nat → UInt8}
    (room : start + count ≤ region.size) (bound : index < region.size) :
    store memory (region.address start) count data (region.address index) =
      if start ≤ index ∧ index < start + count then data (index - start)
      else memory (region.address index) := by
  rcases Nat.eq_zero_or_pos count with rfl | positive
  · simp only [store, Nat.not_lt_zero, ↓reduceIte, Nat.add_zero]
    rw [if_neg (by omega)]
  have fits := region.fits
  have target := toNat_address bound
  have source : (region.address start).toNat = region.base.toNat + start := toNat_address (by omega)
  have offset : (region.address index - region.address start).toNat =
      if start ≤ index then index - start else 2 ^ 32 + index - start := by
    rw [UInt32.toNat_sub, target, source]
    split <;> omega
  unfold store
  rw [offset]
  by_cases after : start ≤ index
  · rw [if_pos after]
    by_cases before : index < start + count
    · rw [if_pos (by omega), if_pos ⟨after, before⟩]
    · rw [if_neg (by omega), if_neg (by omega)]
  · rw [if_neg after, if_neg (by omega), if_neg (by omega)]

theorem store_outside {memory : Mem} {start count : Nat} {data : Nat → UInt8} {address : UInt32}
    (room : start + count ≤ region.size) (outside : ¬ region.Contains address) :
    store memory (region.address start) count data address = memory address :=
  store_frame fun member => outside (span_within room address member)

theorem load_add (memory : Mem) (start first second : Nat) :
    load memory (region.address start) (first + second) =
      load memory (region.address start) first ++ load memory (region.address (start + first)) second := by
  simp [load_address, List.range_add, Nat.add_assoc]

/-- A store followed by one that goes on where it ended is one store. -/
theorem store_store {memory : Mem} {start first second : Nat} {data following : Nat → UInt8}
    (room : start + (first + second) ≤ region.size)
    (continues : ∀ index < second, following index = data (first + index)) :
    store (store memory (region.address start) first data) (region.address (start + first)) second
        following =
      store memory (region.address start) (first + second) data := by
  have roomFirst : start + first ≤ region.size := by omega
  have roomSecond : start + first + second ≤ region.size := by omega
  funext address
  by_cases inside : region.Contains address
  · obtain ⟨index, bound, rfl⟩ := contains_iff.mp inside
    rw [store_address roomSecond bound, store_address roomFirst bound, store_address room bound]
    by_cases later : start + first ≤ index ∧ index < start + first + second
    · rw [if_pos later, if_pos (by omega), continues _ (by omega)]
      congr 1
      omega
    · rw [if_neg later]
      by_cases earlier : start ≤ index ∧ index < start + first
      · rw [if_pos earlier, if_pos (by omega)]
      · rw [if_neg earlier, if_neg (by omega)]
  · rw [store_outside roomSecond inside, store_outside roomFirst inside, store_outside room inside]

theorem load_store {memory : Mem} {start count : Nat} {data : Nat → UInt8}
    (room : start + count ≤ region.size) :
    load (store memory (region.address start) count data) (region.address start) count =
      (List.range count).map data := by
  rw [load_address]
  apply List.map_congr_left
  intro index member
  have within := List.mem_range.mp member
  rw [store_address room (by omega), if_pos (by omega), Nat.add_sub_cancel_left]

end Region

end BbbLkm.Memory
