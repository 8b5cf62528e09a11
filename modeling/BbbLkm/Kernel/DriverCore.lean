import BbbLkm.Machine.Managed
import BbbLkm.Machine.Run
import BbbLkm.Kernel.Errno
import Mathlib.Data.List.Nodup

namespace BbbLkm.Kernel

open BbbLkm.Machine

/-! # Binding devices to a driver

The part of the driver core that a platform driver meets: `probe` is called
only for a device that is not bound and `remove` only for one that is, and
after a failed probe or a removal the core itself frees what the device manages.
-/

inductive Refusal where
  | errno (rc : Errno)
  /-- A fault inside the probe, which then never returns. -/
  | oops
deriving DecidableEq

structure Driver (World Device Calls Data : Type*) where
  /-- The calls are given with the outcomes that the probe gets from them. -/
  probe : Nat → Device → Calls → World → Except Refusal Data × World
  remove : Nat → Data → World → World
  reclaim : Nat → World → World

inductive Request (Device Calls : Type*) where
  | probe (pdev : Nat) (device : Device) (calls : Calls)
  | remove (pdev : Nat)

inductive Answer where
  /-- The core does not make the call. -/
  | skipped
  | bound
  | refused (refusal : Refusal)
  | removed
deriving DecidableEq

/-- The bound devices with their driver data, newest first. -/
structure Core (World Data : Type*) where
  world : World
  bound : List (Nat × Data)
  distinct : (bound.map Prod.fst).Nodup

namespace Core

variable {World Data : Type*}

def start (world : World) : Core World Data where
  world := world
  bound := []
  distinct := by simp

def bind (core : Core World Data) (pdev : Nat) (data : Data) (world : World)
    (unbound : pdev ∉ core.bound.map Prod.fst) : Core World Data where
  world := world
  bound := (pdev, data) :: core.bound
  distinct := List.nodup_cons.mpr ⟨unbound, core.distinct⟩

def unbind (core : Core World Data) (pdev : Nat) (world : World) : Core World Data where
  world := world
  bound := core.bound.filter fun entry => entry.1 ≠ pdev
  distinct := core.distinct.sublist (List.filter_sublist.map Prod.fst)

def settle (core : Core World Data) (world : World) : Core World Data where
  world := world
  bound := core.bound
  distinct := core.distinct

@[simp] theorem bound_unbind (core : Core World Data) (pdev : Nat) (world : World) :
    (core.unbind pdev world).bound = core.bound.filter fun entry => entry.1 ≠ pdev := rfl

theorem data_unique {core : Core World Data} {pdev : Nat} {data other : Data}
    (first : (pdev, data) ∈ core.bound) (second : (pdev, other) ∈ core.bound) : data = other :=
  congrArg Prod.snd (List.inj_on_of_nodup_map core.distinct first second rfl)

/-- A key that differs between the bound devices tells them apart. -/
theorem key_eq_iff {Key : Type*} {core : Core World Data} {key : Nat × Data → Key} {pdev : Nat}
    {data : Data} {entry : Nat × Data} (distinct : (core.bound.map key).Nodup)
    (member : (pdev, data) ∈ core.bound) (bound : entry ∈ core.bound) :
    key entry = key (pdev, data) ↔ entry.1 = pdev := by
  apply Iff.intro
  · intro same
    exact congrArg Prod.fst (List.inj_on_of_nodup_map distinct bound member same)
  · intro same
    subst same
    rw [data_unique member bound]

theorem address_eq_iff {core : Core World Data} {pool : Managed Nat} {address : Nat × Data → Nat}
    {pdev : Nat} {data : Data} {entry : Nat × Data}
    (owned : ∀ entry ∈ core.bound, (entry.1, address entry) ∈ pool.live)
    (member : (pdev, data) ∈ core.bound) (bound : entry ∈ core.bound) :
    address entry = address (pdev, data) ↔ entry.1 = pdev := by
  apply Iff.intro
  · intro same
    have first := owned entry bound
    rw [same] at first
    exact Managed.owner_unique first (owned _ member)
  · intro same
    subst same
    rw [data_unique member bound]

theorem bound_perm_unbind {core : Core World Data} {pdev : Nat} {data : Data} (world : World)
    (member : (pdev, data) ∈ core.bound) :
    core.bound.Perm ((pdev, data) :: (core.unbind pdev world).bound) := by
  obtain ⟨newer, older, split⟩ := List.append_of_mem member
  have distinct := core.distinct
  simp only [split, List.map_append, List.map_cons, List.nodup_append, List.nodup_cons,
    List.mem_map, List.mem_cons] at distinct
  have before : newer.filter (fun entry => entry.1 ≠ pdev) = newer :=
    List.filter_eq_self.mpr fun entry present => by
      simpa using distinct.2.2 _ ⟨entry, present, rfl⟩ pdev (Or.inl rfl)
  have after : older.filter (fun entry => entry.1 ≠ pdev) = older :=
    List.filter_eq_self.mpr fun entry present => by
      have apart : entry.1 ≠ pdev := fun same => distinct.2.1.1 ⟨entry, present, same⟩
      simpa using apart
  rw [bound_unbind, split, List.filter_append, List.filter_cons_of_neg (by simp), before, after]
  exact List.perm_middle

theorem bound_unbind_newest {core : Core World Data} {pdev : Nat} {data : Data}
    {older : List (Nat × Data)} (world : World) (split : core.bound = (pdev, data) :: older) :
    (core.unbind pdev world).bound = older := by
  have distinct := core.distinct
  rw [split, List.map_cons, List.nodup_cons] at distinct
  rw [bound_unbind, split, List.filter_cons_of_neg (by simp)]
  apply List.filter_eq_self.mpr
  intro entry present
  have apart : entry.1 ≠ pdev := fun same =>
    distinct.1 (List.mem_map.mpr ⟨entry, present, same⟩)
  simpa using apart

theorem length_unbind {core : Core World Data} {pdev : Nat} {data : Data} (world : World)
    (member : (pdev, data) ∈ core.bound) :
    (core.unbind pdev world).bound.length + 1 = core.bound.length := by
  simpa using (bound_perm_unbind world member).length_eq.symm

end Core

section Serving

variable {World Device Calls Data : Type*}

def serve (driver : Driver World Device Calls Data) (core : Core World Data) :
    Request Device Calls → Core World Data × Answer
  | .probe pdev device calls =>
      if unbound : pdev ∉ core.bound.map Prod.fst then
        match driver.probe pdev device calls core.world with
        | (.ok data, world) => (core.bind pdev data world unbound, .bound)
        | (.error (.errno rc), world) =>
            (core.settle (driver.reclaim pdev world), .refused (.errno rc))
        | (.error .oops, world) => (core.settle world, .refused .oops)
      else (core, .skipped)
  | .remove pdev =>
      match core.bound.lookup pdev with
      | some data =>
          (core.unbind pdev (driver.reclaim pdev (driver.remove pdev data core.world)), .removed)
      | none => (core, .skipped)

variable {driver : Driver World Device Calls Data} {core : Core World Data}
  {pdev : Nat} {device : Device} {calls : Calls} {data : Data}

theorem mem_of_lookup {entries : List (Nat × Data)} (found : entries.lookup pdev = some data) :
    (pdev, data) ∈ entries := by
  obtain ⟨before, after, rfl, _⟩ := List.lookup_eq_some_iff.mp found
  simp

theorem lookup_of_mem (member : (pdev, data) ∈ core.bound) : core.bound.lookup pdev = some data := by
  cases found : core.bound.lookup pdev with
  | none =>
      have absent := List.lookup_eq_none_iff.mp found (pdev, data) member
      simp at absent
  | some other => rw [Core.data_unique member (mem_of_lookup found)]

theorem serve_remove (member : (pdev, data) ∈ core.bound) :
    serve driver core (.remove pdev) =
      (core.unbind pdev (driver.reclaim pdev (driver.remove pdev data core.world)), .removed) := by
  simp only [serve, lookup_of_mem member]

theorem bound_remove (driver : Driver World Device Calls Data) (core : Core World Data) (pdev : Nat) :
    (serve driver core (.remove pdev)).1.bound = core.bound.filter fun entry => entry.1 ≠ pdev := by
  cases found : core.bound.lookup pdev with
  | some data => rw [serve_remove (mem_of_lookup found), Core.bound_unbind]
  | none =>
      have absent := List.lookup_eq_none_iff.mp found
      simp only [serve, found]
      refine (List.filter_eq_self.mpr fun entry member => ?_).symm
      have apart : entry.1 ≠ pdev := fun same => by simpa [same] using absent entry member
      exact decide_eq_true apart

theorem serve_probe_ok {world : World} (unbound : pdev ∉ core.bound.map Prod.fst)
    (probed : driver.probe pdev device calls core.world = (.ok data, world)) :
    serve driver core (.probe pdev device calls) = (core.bind pdev data world unbound, .bound) := by
  simp only [serve, dif_pos unbound, probed]

theorem serve_probe_errno {rc : Errno} {world : World} (unbound : pdev ∉ core.bound.map Prod.fst)
    (probed : driver.probe pdev device calls core.world = (.error (.errno rc), world)) :
    serve driver core (.probe pdev device calls) =
      (core.settle (driver.reclaim pdev world), .refused (.errno rc)) := by
  simp only [serve, dif_pos unbound, probed]

theorem serve_probe_oops {world : World} (unbound : pdev ∉ core.bound.map Prod.fst)
    (probed : driver.probe pdev device calls core.world = (.error .oops, world)) :
    serve driver core (.probe pdev device calls) = (core.settle world, .refused .oops) := by
  simp only [serve, dif_pos unbound, probed]

/-- However a probe ends, the world is as it leaves it, up to managed memory,
and what was bound stays bound. -/
theorem serve_probe_world (unbound : pdev ∉ core.bound.map Prod.fst) :
    ((serve driver core (.probe pdev device calls)).1.world =
        (driver.probe pdev device calls core.world).2 ∨
      (serve driver core (.probe pdev device calls)).1.world =
        driver.reclaim pdev (driver.probe pdev device calls core.world).2) ∧
    ∀ entry ∈ core.bound, entry ∈ (serve driver core (.probe pdev device calls)).1.bound := by
  rcases probed : driver.probe pdev device calls core.world with ⟨refusal | data, world⟩
  · cases refusal with
    | errno rc =>
        rw [serve_probe_errno unbound probed]
        exact ⟨Or.inr rfl, fun entry member => member⟩
    | oops =>
        rw [serve_probe_oops unbound probed]
        exact ⟨Or.inl rfl, fun entry member => member⟩
  · rw [serve_probe_ok unbound probed]
    exact ⟨Or.inl rfl, fun entry member => List.mem_cons_of_mem _ member⟩

theorem serve_refused {refusal : Refusal}
    (answer : (serve driver core (.probe pdev device calls)).2 = .refused refusal) :
    pdev ∉ core.bound.map Prod.fst ∧ ∃ world,
      driver.probe pdev device calls core.world = (.error refusal, world) ∧
      ((serve driver core (.probe pdev device calls)).1 = core.settle (driver.reclaim pdev world) ∨
        (serve driver core (.probe pdev device calls)).1 = core.settle world) := by
  by_cases unbound : pdev ∉ core.bound.map Prod.fst
  · refine ⟨unbound, ?_⟩
    rcases probed : driver.probe pdev device calls core.world with ⟨other | data, world⟩
    · cases other with
      | errno rc =>
          rw [serve_probe_errno unbound probed] at answer ⊢
          obtain rfl := Answer.refused.inj answer
          exact ⟨world, rfl, Or.inl rfl⟩
      | oops =>
          rw [serve_probe_oops unbound probed] at answer ⊢
          obtain rfl := Answer.refused.inj answer
          exact ⟨world, rfl, Or.inr rfl⟩
    · rw [serve_probe_ok unbound probed] at answer
      cases answer
  · simp only [serve, dif_neg unbound, reduceCtorEq] at answer

/-- An invariant of the core, given by what each way of serving a request has
to keep.  Each case may use the condition that the request is served under. -/
structure Kept (driver : Driver World Device Calls Data)
    (Cond : Core World Data → Request Device Calls → Prop) (Inv : Core World Data → Prop) : Prop where
  bind : ∀ {core : Core World Data} {pdev : Nat} {device : Device} {calls : Calls} {data : Data}
    {world : World} (unbound : pdev ∉ core.bound.map Prod.fst), Inv core →
    Cond core (.probe pdev device calls) →
    driver.probe pdev device calls core.world = (.ok data, world) →
    Inv (core.bind pdev data world unbound)
  refuse : ∀ {core : Core World Data} {pdev : Nat} {device : Device} {calls : Calls} {rc : Errno}
    {world : World}, pdev ∉ core.bound.map Prod.fst → Inv core →
    Cond core (.probe pdev device calls) →
    driver.probe pdev device calls core.world = (.error (.errno rc), world) →
    Inv (core.settle (driver.reclaim pdev world))
  oops : ∀ {core : Core World Data} {pdev : Nat} {device : Device} {calls : Calls}
    {world : World}, pdev ∉ core.bound.map Prod.fst → Inv core →
    Cond core (.probe pdev device calls) →
    driver.probe pdev device calls core.world = (.error .oops, world) →
    Inv (core.settle world)
  unbind : ∀ {core : Core World Data} {pdev : Nat} {data : Data}, Inv core →
    Cond core (.remove pdev) → (pdev, data) ∈ core.bound →
    Inv (core.unbind pdev (driver.reclaim pdev (driver.remove pdev data core.world)))

theorem Kept.serve {Cond : Core World Data → Request Device Calls → Prop}
    {Inv : Core World Data → Prop} (kept : Kept driver Cond Inv) (request : Request Device Calls)
    (holds : Inv core) (condition : Cond core request) : Inv (serve driver core request).1 := by
  cases request with
  | probe pdev device calls =>
      rw [Kernel.serve]
      split
      · rename_i unbound
        split
        · rename_i probed
          exact kept.bind unbound holds condition probed
        · rename_i probed
          exact kept.refuse unbound holds condition probed
        · rename_i probed
          exact kept.oops unbound holds condition probed
      · exact holds
  | remove pdev =>
      cases found : core.bound.lookup pdev with
      | none => simpa only [Kernel.serve, found] using holds
      | some data =>
          rw [serve_remove (mem_of_lookup found)]
          exact kept.unbind holds condition (mem_of_lookup found)

theorem Kept.run {Cond : Core World Data → Request Device Calls → Prop}
    {Inv : Core World Data → Prop} {requests : List (Request Device Calls)}
    (kept : Kept driver Cond Inv) (initial : Inv core)
    (along : Along (Kernel.serve driver) Cond core requests) :
    Inv (stateAfter (Kernel.serve driver) core requests) :=
  invariant_along (fun _ request holds condition => kept.serve request holds condition) initial along

theorem Kept.always {Inv : Core World Data → Prop} (kept : Kept driver (fun _ _ => True) Inv)
    (initial : Inv core) (requests : List (Request Device Calls)) :
    Inv (stateAfter (Kernel.serve driver) core requests) :=
  kept.run initial (along_iff_forall.mpr fun _ _ _ _ => trivial)

/-- Unregistering a driver removes every device that is bound to it, newest first. -/
def detach (driver : Driver World Device Calls Data) (core : Core World Data) : Core World Data :=
  stateAfter (Kernel.serve driver) core (core.bound.map fun entry => .remove entry.1)

theorem bound_after_removes {entries : List (Nat × Data)} (bound : core.bound = entries) :
    (stateAfter (Kernel.serve driver) core (entries.map fun entry => .remove entry.1)).bound = [] := by
  induction entries generalizing core with
  | nil => exact bound
  | cons entry older ih =>
      have newest : (entry.1, entry.2) ∈ core.bound := by simp [bound]
      rw [List.map_cons, stateAfter_cons, serve_remove newest]
      exact ih (Core.bound_unbind_newest _ bound)

theorem bound_detach (driver : Driver World Device Calls Data) (core : Core World Data) :
    (detach driver core).bound = [] :=
  bound_after_removes rfl

end Serving

end BbbLkm.Kernel
