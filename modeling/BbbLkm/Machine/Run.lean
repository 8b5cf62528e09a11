import Mathlib.Logic.Basic

namespace BbbLkm.Machine

/-! # Runs of an answering machine

A machine serves one request at a time: `step state request` is the next state
together with the answer.  Environment choices (a failing call, a faulting
copy) are part of the request, so that a run is determined by its requests and
a property of all runs is a property of all request lists.
-/

variable {State Request Answer : Type*}

def run (step : State → Request → State × Answer) :
    State → List Request → State × List Answer
  | state, [] => (state, [])
  | state, request :: rest =>
      let served := step state request
      let following := run step served.1 rest
      (following.1, served.2 :: following.2)

def stateAfter (step : State → Request → State × Answer)
    (state : State) (requests : List Request) : State :=
  (run step state requests).1

/-- The answers of a run, oldest first. -/
def answers (step : State → Request → State × Answer)
    (state : State) (requests : List Request) : List Answer :=
  (run step state requests).2

section Unfolding

variable (step : State → Request → State × Answer) (state : State)

@[simp] theorem stateAfter_nil : stateAfter step state [] = state := rfl

@[simp] theorem stateAfter_cons (request : Request) (rest : List Request) :
    stateAfter step state (request :: rest) = stateAfter step (step state request).1 rest := rfl

@[simp] theorem answers_nil : answers step state [] = [] := rfl

@[simp] theorem answers_cons (request : Request) (rest : List Request) :
    answers step state (request :: rest) =
      (step state request).2 :: answers step (step state request).1 rest := rfl

theorem stateAfter_append (requests more : List Request) :
    stateAfter step state (requests ++ more) =
      stateAfter step (stateAfter step state requests) more := by
  induction requests generalizing state with
  | nil => rfl
  | cons request rest ih => exact ih (step state request).1

end Unfolding

section Invariants

variable {step : State → Request → State × Answer} {state : State} {requests : List Request}

theorem invariant_run {Inv : State → Prop}
    (preserved : ∀ state request, Inv state → Inv (step state request).1)
    (initial : Inv state) : Inv (stateAfter step state requests) := by
  induction requests generalizing state with
  | nil => exact initial
  | cons request rest ih => exact ih (preserved state request initial)

theorem answers_run {Inv : State → Prop} {Good : Answer → Prop}
    (preserved : ∀ state request, Inv state → Inv (step state request).1)
    (good : ∀ state request, Inv state → Good (step state request).2)
    (initial : Inv state) : ∀ answer ∈ answers step state requests, Good answer := by
  induction requests generalizing state with
  | nil => simp
  | cons request rest ih =>
      intro answer member
      rw [answers_cons, List.mem_cons] at member
      rcases member with rfl | later
      · exact good state request initial
      · exact ih (preserved state request initial) answer later

/-- A relation between the state and the answers given so far, kept by every
step whose request is admitted, holds at the end of every run of admitted
requests.  The history is read newest first. -/
theorem history_run {Admitted : Request → Prop} {Rel : List Answer → State → Prop}
    {past : List Answer}
    (preserved : ∀ past state request, Admitted request → Rel past state →
      Rel ((step state request).2 :: past) (step state request).1)
    (admitted : ∀ request ∈ requests, Admitted request) (initial : Rel past state) :
    Rel ((answers step state requests).reverse ++ past) (stateAfter step state requests) := by
  induction requests generalizing state past with
  | nil => exact initial
  | cons request rest ih =>
      have next := preserved past state request (admitted request (by simp)) initial
      simpa using ih (fun later member => admitted later (by simp [member])) next

theorem lockstep {Other : Type*} {other : Other → Request → Other × Answer}
    {Rel : State → Other → Prop} {twin : Other}
    (matched : ∀ state twin request, Rel state twin →
      (step state request).2 = (other twin request).2 ∧
        Rel (step state request).1 (other twin request).1)
    (initial : Rel state twin) :
    answers step state requests = answers other twin requests ∧
      Rel (stateAfter step state requests) (stateAfter other twin requests) := by
  induction requests generalizing state twin with
  | nil => exact ⟨rfl, initial⟩
  | cons request rest ih =>
      obtain ⟨same, related⟩ := matched state twin request initial
      obtain ⟨following, final⟩ := ih related
      exact ⟨by rw [answers_cons, answers_cons, same, following], final⟩

end Invariants

/-- Every step of the run meets a condition on the state before it and on its
request. -/
def Along (step : State → Request → State × Answer) (Cond : State → Request → Prop) :
    State → List Request → Prop
  | _, [] => True
  | state, request :: rest => Cond state request ∧ Along step Cond (step state request).1 rest

section Conditions

variable {step : State → Request → State × Answer} {state : State} {requests : List Request}

theorem along_iff_forall {Cond : State → Request → Prop} :
    Along step Cond state requests ↔ ∀ before request after,
      requests = before ++ request :: after → Cond (stateAfter step state before) request := by
  induction requests generalizing state with
  | nil => simp [Along]
  | cons first rest ih =>
      apply Iff.intro
      · intro along before request after split
        obtain ⟨now, later⟩ := along
        cases before with
        | nil =>
            obtain ⟨rfl, rfl⟩ := List.cons.inj split
            exact now
        | cons head before =>
            obtain ⟨rfl, tail⟩ := List.cons.inj split
            exact ih.mp later before request after tail
      · intro every
        refine ⟨every [] first rest rfl, ih.mpr ?_⟩
        intro before request after split
        exact every (first :: before) request after (by rw [split, List.cons_append])

theorem along_and {Cond Good : State → Request → Prop} :
    Along step (fun state request => Cond state request ∧ Good state request) state requests ↔
      Along step Cond state requests ∧ Along step Good state requests := by
  simp only [along_iff_forall]
  apply Iff.intro
  · intro both
    exact ⟨fun before request after split => (both before request after split).1,
      fun before request after split => (both before request after split).2⟩
  · intro each before request after split
    exact ⟨each.1 before request after split, each.2 before request after split⟩

theorem along_requests {Cond : Request → Prop} :
    Along step (fun _ request => Cond request) state requests ↔ ∀ request ∈ requests, Cond request := by
  induction requests generalizing state with
  | nil => simp [Along]
  | cons request rest ih => rw [Along, ih, List.forall_mem_cons]

theorem along_append {Cond : State → Request → Prop} {more : List Request} :
    Along step Cond state (requests ++ more) ↔
      Along step Cond state requests ∧ Along step Cond (stateAfter step state requests) more := by
  induction requests generalizing state with
  | nil => simp [Along]
  | cons request rest ih =>
      rw [List.cons_append, Along, Along, ih, stateAfter_cons, and_assoc]

theorem along_after_iff {Good : State → Prop} (initial : Good state) :
    Along step (fun state request => Good (step state request).1) state requests ↔
      ∀ seen, seen <+: requests → Good (stateAfter step state seen) := by
  induction requests generalizing state with
  | nil =>
      refine iff_of_true trivial fun seen started => ?_
      rw [List.prefix_nil.mp started]
      exact initial
  | cons request rest ih =>
      apply Iff.intro
      · intro along seen started
        rcases List.prefix_cons_iff.mp started with rfl | ⟨later, rfl, within⟩
        · exact initial
        · exact (ih along.1).mp along.2 later within
      · intro every
        have now : Good (step state request).1 := every [request] (by simp)
        refine ⟨now, (ih now).mpr fun seen within => ?_⟩
        exact every (request :: seen) (List.cons_prefix_cons.mpr ⟨rfl, within⟩)

theorem along_map {Request' Answer' : Type*} {step' : State → Request' → State × Answer'}
    {Cond : State → Request → Prop} {Cond' : State → Request' → Prop} {translate : Request → Request'}
    (same : ∀ state request, (step' state (translate request)).1 = (step state request).1)
    (agree : ∀ state request, Cond' state (translate request) ↔ Cond state request) :
    Along step' Cond' state (requests.map translate) ↔ Along step Cond state requests := by
  induction requests generalizing state with
  | nil => exact Iff.rfl
  | cons request rest ih =>
      rw [List.map_cons, Along, Along, agree, same]
      exact and_congr_right fun _ => ih

theorem invariant_along {Inv : State → Prop} {Cond : State → Request → Prop}
    (preserved : ∀ state request, Inv state → Cond state request → Inv (step state request).1)
    (initial : Inv state) (along : Along step Cond state requests) :
    Inv (stateAfter step state requests) := by
  induction requests generalizing state with
  | nil => exact initial
  | cons request rest ih => exact ih (preserved state request initial along.1) along.2

/-- A machine whose steps are those of a model, as far as the answers show, is
not told from the model along any run of admitted requests. -/
theorem simulation_along {Model Request' Reply Shown : Type*} {serve : Model → Request' → Model × Reply}
    {Cond : State → Request → Prop} {Represents : State → Model → Prop} {model : Model}
    {translate : Request → Request'} {shown : Answer → Shown} {meaning : Reply → Shown}
    (matched : ∀ {state model} request, Represents state model → Cond state request →
      shown (step state request).2 = meaning (serve model (translate request)).2 ∧
        Represents (step state request).1 (serve model (translate request)).1)
    (initial : Represents state model) (along : Along step Cond state requests) :
    (answers step state requests).map shown =
        (answers serve model (requests.map translate)).map meaning ∧
      Represents (stateAfter step state requests) (stateAfter serve model (requests.map translate)) := by
  induction requests generalizing state model with
  | nil => exact ⟨rfl, initial⟩
  | cons request rest ih =>
      obtain ⟨now, later⟩ := along
      obtain ⟨same, represented⟩ := matched request initial now
      obtain ⟨following, final⟩ := ih represented later
      exact ⟨by simp only [answers_cons, List.map_cons, same, following], final⟩

/-- Two step conditions that agree in every invariant state agree along every
run, when the first one keeps the invariant.  This is how a condition on the
requests is shown to be exactly the one under which the steps behave. -/
theorem along_congr (Inv : State → Prop) {Cond Good : State → Request → Prop}
    (preserved : ∀ state request, Inv state → Cond state request → Inv (step state request).1)
    (agree : ∀ state request, Inv state → (Cond state request ↔ Good state request))
    (initial : Inv state) :
    Along step Cond state requests ↔ Along step Good state requests := by
  induction requests generalizing state with
  | nil => exact Iff.rfl
  | cons request rest ih =>
      have now := agree state request initial
      apply Iff.intro
      · intro along
        obtain ⟨meets, later⟩ := along
        exact ⟨now.mp meets, (ih (preserved state request initial meets)).mp later⟩
      · intro along
        obtain ⟨behaves, later⟩ := along
        have meets := now.mpr behaves
        exact ⟨meets, (ih (preserved state request initial meets)).mpr later⟩

/-- A run stays in good states exactly when its steps meet the condition, if in
every invariant state the condition is that the step leads to a good one. -/
theorem always_iff_along (Inv : State → Prop) {Good : State → Prop}
    {Cond : State → Request → Prop}
    (preserved : ∀ state request, Inv state → Cond state request → Inv (step state request).1)
    (agree : ∀ state request, Inv state → (Cond state request ↔ Good (step state request).1))
    (initial : Inv state) (good : Good state) :
    (∀ seen, seen <+: requests → Good (stateAfter step state seen)) ↔
      Along step Cond state requests := by
  rw [← along_after_iff good]
  exact (along_congr Inv preserved agree initial).symm

end Conditions

end BbbLkm.Machine
