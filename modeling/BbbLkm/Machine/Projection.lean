import BbbLkm.Machine.Run

namespace BbbLkm.Machine

/-! # What one observer sees of a run

A request concerns an observer or it does not, which may depend on the state it
is made in.  Where the other requests do nothing that the observer can see, a
run and what is left of it without them look the same.
-/

variable {State Request Answer : Type*}

/-- The requests of a run that concern the observer. -/
def concerning (step : State → Request → State × Answer) (concerns : State → Request → Bool) :
    State → List Request → List Request
  | _, [] => []
  | state, request :: rest =>
      if concerns state request then
        request :: concerning step concerns (step state request).1 rest
      else concerning step concerns (step state request).1 rest

/-- The answers to those requests. -/
def observed (step : State → Request → State × Answer) (concerns : State → Request → Bool) :
    State → List Request → List Answer
  | _, [] => []
  | state, request :: rest =>
      if concerns state request then
        (step state request).2 :: observed step concerns (step state request).1 rest
      else observed step concerns (step state request).1 rest

/-- `Alike` relates a state to what the observer knows of it: requests that do
not concern the observer keep to one side, and the others agree on both. -/
structure Unwinds (step : State → Request → State × Answer) (concerns : State → Request → Bool)
    (Alike : State → State → Prop) : Prop where
  hidden : ∀ {left right : State} {request : Request}, Alike left right →
    concerns left request = false → Alike (step left request).1 right
  shown : ∀ {left right : State} {request : Request}, Alike left right →
    concerns left request = true →
      (step left request).2 = (step right request).2 ∧
        Alike (step left request).1 (step right request).1

variable {step : State → Request → State × Answer} {concerns : State → Request → Bool}
  {Alike : State → State → Prop} {left right : State}

theorem Unwinds.run (unwinds : Unwinds step concerns Alike) (requests : List Request)
    (alike : Alike left right) :
    answers step right (concerning step concerns left requests) = observed step concerns left requests ∧
      Alike (stateAfter step left requests)
        (stateAfter step right (concerning step concerns left requests)) := by
  induction requests generalizing left right with
  | nil => exact ⟨rfl, alike⟩
  | cons request rest ih =>
      rw [concerning, observed]
      cases concerned : concerns left request with
      | false => exact ih (unwinds.hidden alike concerned)
      | true =>
          obtain ⟨same, following⟩ := unwinds.shown alike concerned
          obtain ⟨seen, final⟩ := ih following
          simp only [if_true, answers_cons, stateAfter_cons]
          exact ⟨by rw [same, seen], final⟩

end BbbLkm.Machine
