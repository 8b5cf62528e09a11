import Mathlib.Data.List.Basic

namespace BbbLkm.Machine

/-! # Ledgers of acquired resources

A ledger holds what has been acquired and not yet released, and records every
release.  A release names what it releases by a predicate and does nothing when
no held resource satisfies it.
-/

structure Ledger (Resource : Type*) where
  held : List Resource
  released : List Resource

namespace Ledger

variable {Resource : Type*}

def empty : Ledger Resource where
  held := []
  released := []

def acquire (ledger : Ledger Resource) (resource : Resource) : Ledger Resource :=
  { ledger with held := resource :: ledger.held }

def release (ledger : Ledger Resource) (names : Resource → Bool) : Ledger Resource where
  held := ledger.held.filter fun resource => !names resource
  released := ledger.released ++ ledger.held.filter names

@[simp] theorem mem_acquire {ledger : Ledger Resource} {resource other : Resource} :
    other ∈ (ledger.acquire resource).held ↔ other = resource ∨ other ∈ ledger.held := by
  simp [acquire]

@[simp] theorem mem_release {ledger : Ledger Resource} {names : Resource → Bool}
    {resource : Resource} :
    resource ∈ (ledger.release names).held ↔ resource ∈ ledger.held ∧ names resource = false := by
  simp [release]

/-- A release moves resources from held to released and loses or invents none. -/
theorem release_perm (ledger : Ledger Resource) (names : Resource → Bool) :
    ((ledger.release names).released ++ (ledger.release names).held).Perm
      (ledger.released ++ ledger.held) := by
  simp only [release, List.append_assoc]
  exact (List.filter_append_perm names ledger.held).append_left ledger.released

theorem nodup_acquire {ledger : Ledger Resource} {resource : Resource}
    (distinct : ledger.held.Nodup) (fresh : resource ∉ ledger.held) :
    (ledger.acquire resource).held.Nodup :=
  List.nodup_cons.mpr ⟨fresh, distinct⟩

theorem released_perm_of_emptied {before after : Ledger Resource}
    (kept : (after.released ++ after.held).Perm (before.released ++ before.held))
    (fresh : before.released = []) (emptied : after.held = []) :
    after.released.Perm before.held := by
  simpa [fresh, emptied] using kept

end Ledger

end BbbLkm.Machine
