import Mathlib.Logic.Basic

namespace BbbLkm.Machine

/-! # Building up in stages

Each stage acquires a resource or fails, and a failure takes back what the stages
before it have acquired, newest first.  Resources that are always released in
this order form a stack.
-/

inductive Move (Resource : Type*) where
  | acquire (resource : Resource)
  | release (resource : Resource)
deriving DecidableEq

/-- What is held after the moves, newest first, if every release among them is
of the newest resource that is held. -/
def nested {Resource : Type*} [DecidableEq Resource] :
    List Resource → List (Move Resource) → Option (List Resource)
  | held, [] => some held
  | held, .acquire resource :: rest => nested (resource :: held) rest
  | [], .release _ :: _ => none
  | newest :: held, .release resource :: rest => if resource = newest then nested held rest else none

structure Stage (Resource Failure : Type*) where
  resource : Resource
  outcome : Except Failure Unit

variable {Resource Failure : Type*}

/-- The stages on top of those that have succeeded, whose resources are `below`. -/
def climb (below : List Resource) :
    List (Stage Resource Failure) → Except Failure Unit × List (Move Resource)
  | [] => (.ok (), [])
  | stage :: rest =>
      match stage.outcome with
      | .error failure => (.error failure, below.map .release)
      | .ok _ =>
          let above := climb (stage.resource :: below) rest
          (above.1, .acquire stage.resource :: above.2)

/-- The failure of the first stage that fails. -/
def firstFailure (stages : List (Stage Resource Failure)) : Option Failure :=
  stages.findSome? fun stage =>
    match stage.outcome with
    | .error failure => some failure
    | .ok _ => none

variable {below held : List Resource} {stages : List (Stage Resource Failure)}

theorem climb_failure :
    (climb below stages).1 =
      match firstFailure stages with
      | some failure => .error failure
      | none => .ok () := by
  induction stages generalizing below with
  | nil => rfl
  | cons stage rest ih =>
      cases outcome : stage.outcome with
      | error failure => simp only [climb, firstFailure, List.findSome?_cons, outcome]
      | ok _ =>
          simp only [climb, firstFailure, List.findSome?_cons, outcome]
          exact ih

section Nesting

variable [DecidableEq Resource]

theorem nested_append (held : List Resource) (first second : List (Move Resource)) :
    nested held (first ++ second) = (nested held first).bind fun held => nested held second := by
  induction first generalizing held with
  | nil => rfl
  | cons move rest ih =>
      cases move with
      | acquire resource => exact ih (resource :: held)
      | release resource =>
          cases held with
          | nil => rfl
          | cons newest held =>
              simp only [List.cons_append, nested]
              split
              · exact ih held
              · rfl

theorem nested_releases (below held : List Resource) :
    nested (below ++ held) (below.map .release) = some held := by
  induction below with
  | nil => rfl
  | cons newest below ih => simpa only [List.cons_append, List.map_cons, nested, if_true] using ih

/-- Stages that all succeed hold their resources, and stages of which one fails
hold nothing. -/
theorem nested_climb :
    nested (below ++ held) (climb below stages).2 =
      match (climb below stages).1 with
      | .ok _ => some ((stages.map Stage.resource).reverse ++ (below ++ held))
      | .error _ => some held := by
  induction stages generalizing below with
  | nil => rfl
  | cons stage rest ih =>
      cases outcome : stage.outcome with
      | error failure =>
          simp only [climb, outcome]
          exact nested_releases below held
      | ok _ =>
          have above := @ih (stage.resource :: below)
          simp only [climb, outcome, nested, List.cons_append] at above ⊢
          rw [above]
          split
          · simp
          · rfl

end Nesting

end BbbLkm.Machine
