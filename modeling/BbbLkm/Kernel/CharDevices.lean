import BbbLkm.Kernel.Errno
import Mathlib.Data.List.Basic

namespace BbbLkm.Kernel

structure Cdev where
  /-- The block of memory that the `struct cdev` is part of. -/
  block : Nat
  number : Int
deriving DecidableEq

def cdevAdd (cdevs : List Cdev) (cdev : Cdev) (outcome : Except Errno Unit) :
    Except Errno (List Cdev) :=
  match outcome with
  | .error rc => .error rc
  | .ok _ => .ok (cdev :: cdevs)

def cdevDel (cdevs : List Cdev) (block : Nat) : List Cdev :=
  cdevs.filter fun cdev => cdev.block ≠ block

structure Node (Name : Type*) where
  number : Int
  name : Name
deriving DecidableEq

section Nodes

variable {Name : Type*} [DecidableEq Name]

def Clashes (node other : Node Name) : Prop := other.number = node.number ∨ other.name = node.name

instance (node other : Node Name) : Decidable (Clashes node other) :=
  inferInstanceAs (Decidable (_ ∨ _))

/-- A class has one node of a number and one of a name. -/
def deviceCreate (nodes : List (Node Name)) (node : Node Name) (outcome : Except Errno Unit) :
    Except Errno (List (Node Name)) :=
  match outcome with
  | .error rc => .error rc
  | .ok _ => if ∃ other ∈ nodes, Clashes node other then .error .alreadyExists else .ok (node :: nodes)

def deviceDestroy (nodes : List (Node Name)) (number : Int) : List (Node Name) :=
  nodes.filter fun node => node.number ≠ number

theorem deviceCreate_ok_iff {nodes after : List (Node Name)} {node : Node Name}
    {outcome : Except Errno Unit} :
    deviceCreate nodes node outcome = .ok after ↔
      outcome = .ok () ∧ (∀ other ∈ nodes, ¬ Clashes node other) ∧ after = node :: nodes := by
  cases outcome with
  | error rc => simp [deviceCreate]
  | ok _ =>
      rw [deviceCreate]
      split
      · rename_i taken
        obtain ⟨other, member, clash⟩ := taken
        simp only [reduceCtorEq, true_and, false_iff, not_and]
        exact fun free => absurd clash (free other member)
      · rename_i free
        have none : ∀ other ∈ nodes, ¬ Clashes node other :=
          fun other member clash => free ⟨other, member, clash⟩
        apply Iff.intro
        · intro created
          exact ⟨rfl, none, (Except.ok.inj created).symm⟩
        · intro conditions
          rw [conditions.2.2]

end Nodes

theorem cdevDel_cons {cdevs : List Cdev} {block : Nat} {number : Int}
    (apart : ∀ cdev ∈ cdevs, cdev.block ≠ block) : cdevDel (⟨block, number⟩ :: cdevs) block = cdevs := by
  rw [cdevDel, List.filter_cons_of_neg (by simp)]
  exact List.filter_eq_self.mpr fun cdev member => by simpa using apart cdev member

end BbbLkm.Kernel
