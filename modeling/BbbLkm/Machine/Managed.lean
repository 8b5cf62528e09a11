import Mathlib.Data.List.Nodup

namespace BbbLkm.Machine

/-! # Managed allocations

An allocation is recorded with the owner it is made for, and all the blocks of
an owner are freed together.  Blocks are numbered in the order of allocation
and a number is never used again, so that a freed block is told from a live one.
-/

structure Managed (Owner : Type*) where
  next : Nat
  live : List (Owner × Nat)
  allocated : ∀ entry ∈ live, entry.2 < next
  distinct : (live.map Prod.snd).Nodup

namespace Managed

variable {Owner : Type*} {pool : Managed Owner} {owner other : Owner} {block : Nat}

def empty : Managed Owner where
  next := 0
  live := []
  allocated := by simp
  distinct := by simp

theorem next_not_live (pool : Managed Owner) : pool.next ∉ pool.live.map Prod.snd := by
  intro member
  obtain ⟨entry, present, same⟩ := List.mem_map.mp member
  exact absurd (pool.allocated entry present) (by omega)

def allocate (pool : Managed Owner) (owner : Owner) : Managed Owner where
  next := pool.next + 1
  live := (owner, pool.next) :: pool.live
  allocated := by
    intro entry member
    rcases List.mem_cons.mp member with same | older
    · subst same
      exact Nat.lt_succ_self _
    · exact Nat.lt_succ_of_lt (pool.allocated entry older)
  distinct := List.nodup_cons.mpr ⟨pool.next_not_live, pool.distinct⟩

def reclaim [DecidableEq Owner] (pool : Managed Owner) (owner : Owner) : Managed Owner where
  next := pool.next
  live := pool.live.filter fun entry => entry.1 ≠ owner
  allocated entry member := pool.allocated entry (List.mem_filter.mp member).1
  distinct := pool.distinct.sublist (List.filter_sublist.map Prod.snd)

def blocks [DecidableEq Owner] (pool : Managed Owner) (owner : Owner) : List Nat :=
  (pool.live.filter fun entry => entry.1 = owner).map Prod.snd

def Live (pool : Managed Owner) (block : Nat) : Prop := ∃ owner, (owner, block) ∈ pool.live

@[simp] theorem mem_allocate :
    (other, block) ∈ (pool.allocate owner).live ↔
      (other = owner ∧ block = pool.next) ∨ (other, block) ∈ pool.live := by
  simp [allocate]

@[simp] theorem mem_reclaim [DecidableEq Owner] :
    (other, block) ∈ (pool.reclaim owner).live ↔ (other, block) ∈ pool.live ∧ other ≠ owner := by
  simp [reclaim]

@[simp] theorem mem_blocks [DecidableEq Owner] :
    block ∈ pool.blocks owner ↔ (owner, block) ∈ pool.live := by
  simp [blocks]

theorem nodup_blocks [DecidableEq Owner] (pool : Managed Owner) (owner : Owner) :
    (pool.blocks owner).Nodup :=
  pool.distinct.sublist (List.filter_sublist.map Prod.snd)

/-- What an owner's reclaim frees is exactly its blocks. -/
theorem live_reclaim_iff [DecidableEq Owner] :
    (pool.reclaim owner).Live block ↔ pool.Live block ∧ block ∉ pool.blocks owner := by
  apply Iff.intro
  · rintro ⟨other, member⟩
    obtain ⟨present, apart⟩ := mem_reclaim.mp member
    refine ⟨⟨other, present⟩, fun owned => apart ?_⟩
    have same := List.inj_on_of_nodup_map pool.distinct present (mem_blocks.mp owned) rfl
    exact congrArg Prod.fst same
  · rintro ⟨⟨other, present⟩, unowned⟩
    refine ⟨other, mem_reclaim.mpr ⟨present, fun same => unowned ?_⟩⟩
    exact mem_blocks.mpr (same ▸ present)

/-- Between the two pools, only blocks for `owner` have been allocated. -/
structure Grows (owner : Owner) (before after : Managed Owner) : Prop where
  next : before.next ≤ after.next
  keeps : ∀ entry ∈ before.live, entry ∈ after.live
  adds : ∀ entry ∈ after.live, entry ∈ before.live ∨ entry.1 = owner ∧ before.next ≤ entry.2

theorem Grows.refl (owner : Owner) (pool : Managed Owner) : Grows owner pool pool where
  next := Nat.le_refl _
  keeps _ member := member
  adds _ member := Or.inl member

theorem Grows.allocate {before after : Managed Owner} (grows : Grows owner before after) :
    Grows owner before (after.allocate owner) where
  next := Nat.le_succ_of_le grows.next
  keeps entry member := List.mem_cons_of_mem _ (grows.keeps entry member)
  adds entry member := by
    rcases List.mem_cons.mp member with same | older
    · subst same
      exact Or.inr ⟨rfl, grows.next⟩
    · exact grows.adds entry older

theorem Grows.trans {before middle after : Managed Owner} (first : Grows owner before middle)
    (second : Grows owner middle after) : Grows owner before after where
  next := Nat.le_trans first.next second.next
  keeps entry member := second.keeps entry (first.keeps entry member)
  adds entry member := by
    rcases second.adds entry member with old | added
    · exact first.adds entry old
    · exact Or.inr ⟨added.1, Nat.le_trans first.next added.2⟩

theorem owner_unique (first : (owner, block) ∈ pool.live) (second : (other, block) ∈ pool.live) :
    owner = other := by
  have same := List.inj_on_of_nodup_map pool.distinct first second rfl
  exact congrArg Prod.fst same

end Managed

end BbbLkm.Machine
