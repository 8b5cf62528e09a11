import BbbLkm.Machine.Ledger

namespace BbbLkm.Machine

/-- A ledger that also keeps all that was ever acquired, and counts the releases
that name nothing held. -/
structure Account (Resource : Type*) extends Ledger Resource where
  acquired : List Resource
  strays : Nat
  balanced : acquired.Perm (released ++ held)

namespace Account

variable {Resource : Type*}

def empty : Account Resource where
  toLedger := .empty
  acquired := []
  strays := 0
  balanced := List.Perm.refl _

def acquire (account : Account Resource) (resource : Resource) : Account Resource where
  toLedger := account.toLedger.acquire resource
  acquired := resource :: account.acquired
  strays := account.strays
  balanced := (account.balanced.cons resource).trans List.perm_middle.symm

def release (account : Account Resource) (names : Resource → Bool) : Account Resource where
  toLedger := account.toLedger.release names
  acquired := account.acquired
  strays := if account.held.any names then account.strays else account.strays + 1
  balanced := account.balanced.trans (account.toLedger.release_perm names).symm

variable {account : Account Resource} {resource other : Resource} {names : Resource → Bool}

@[simp] theorem held_empty : (empty : Account Resource).held = [] := rfl

@[simp] theorem held_acquire : (account.acquire resource).held = resource :: account.held := rfl

@[simp] theorem held_release :
    (account.release names).held = account.held.filter fun resource => !names resource := rfl

theorem mem_acquire : other ∈ (account.acquire resource).held ↔ other = resource ∨ other ∈ account.held :=
  Ledger.mem_acquire

theorem mem_release :
    other ∈ (account.release names).held ↔ other ∈ account.held ∧ names other = false :=
  Ledger.mem_release

theorem strays_release (held : resource ∈ account.held) (named : names resource = true) :
    (account.release names).strays = account.strays :=
  if_pos (List.any_eq_true.mpr ⟨resource, held, named⟩)

theorem release_newest {rest : List Resource} (split : account.held = resource :: rest)
    (named : names resource = true) (others : ∀ other ∈ rest, names other = false) :
    (account.release names).held = rest ∧ (account.release names).strays = account.strays := by
  apply And.intro
  · rw [held_release, split, List.filter_cons_of_neg (by simp [named])]
    exact List.filter_eq_self.mpr fun other member => by simp [others other member]
  · exact strays_release (split ▸ List.mem_cons_self) named

theorem release_newest_eq [DecidableEq Resource] {rest : List Resource}
    (split : account.held = resource :: rest) (apart : resource ∉ rest) :
    (account.release (· = resource)).held = rest ∧
      (account.release (· = resource)).strays = account.strays := by
  apply release_newest split (decide_eq_true rfl)
  intro other member
  have different : other ≠ resource := fun same => apart (same ▸ member)
  exact decide_eq_false different

/-- All that was acquired has been released once, and nothing else has been. -/
def Settled (account : Account Resource) : Prop :=
  account.strays = 0 ∧ account.released.Perm account.acquired

theorem settled_iff : account.Settled ↔ account.strays = 0 ∧ account.held = [] := by
  refine and_congr_right fun _ => Iff.intro (fun released => ?_) (fun none => ?_)
  · have count := (released.trans account.balanced).length_eq
    rw [List.length_append] at count
    exact List.eq_nil_of_length_eq_zero (by omega)
  · have balanced := account.balanced
    rw [none, List.append_nil] at balanced
    exact balanced.symm

end Account

end BbbLkm.Machine
