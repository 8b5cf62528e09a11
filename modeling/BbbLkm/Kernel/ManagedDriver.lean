import BbbLkm.Kernel.DriverCore
import Mathlib.Data.List.Induction

namespace BbbLkm.Kernel

open BbbLkm.Machine

/-! # Drivers that manage their memory

A probe allocates for the device that it is called for, and a removal leaves the
freeing to the core.  Then whatever is allocated has a device to go with, unless
the probe that allocated it never came back.
-/

structure Manages {World Device Calls Data : Type*} (driver : Driver World Device Calls Data)
    (devm : World → Managed Nat) : Prop where
  probe : ∀ {pdev : Nat} {device : Device} {calls : Calls} {world after : World}
    {result : Except Refusal Data}, driver.probe pdev device calls world = (result, after) →
    (devm world).Grows pdev (devm after)
  remove : ∀ pdev data world, devm (driver.remove pdev data world) = devm world
  reclaim : ∀ pdev world, devm (driver.reclaim pdev world) = (devm world).reclaim pdev

variable {World Device Calls Data : Type*} {driver : Driver World Device Calls Data}
  {devm : World → Managed Nat} {core : Core World Data} {pdev block : Nat}

/-- A probe of the device has faulted during the run. -/
def Oopsed (driver : Driver World Device Calls Data) (core : Core World Data)
    (requests : List (Request Device Calls)) (pdev : Nat) : Prop :=
  ∃ before device calls after, requests = before ++ .probe pdev device calls :: after ∧
    (serve driver (stateAfter (serve driver) core before) (.probe pdev device calls)).2 = .refused .oops

theorem Oopsed.append {requests : List (Request Device Calls)} (oopsed : Oopsed driver core requests pdev)
    (more : List (Request Device Calls)) : Oopsed driver core (requests ++ more) pdev := by
  obtain ⟨before, device, calls, after, split, faulted⟩ := oopsed
  exact ⟨before, device, calls, after ++ more, by rw [split, List.append_assoc, List.cons_append], faulted⟩

namespace Manages

/-- A block that is live after a request belongs to a bound device, or to one whose
probe has just faulted, or it was live before without a device. -/
theorem serve_owner (manages : Manages driver devm) (request : Request Device Calls)
    (live : (pdev, block) ∈ (devm (serve driver core request).1.world).live) :
    pdev ∈ (serve driver core request).1.bound.map Prod.fst ∨
      (∃ device calls, request = .probe pdev device calls ∧
        (serve driver core request).2 = .refused .oops) ∨
      (pdev, block) ∈ (devm core.world).live ∧ pdev ∉ core.bound.map Prod.fst := by
  by_cases known : (pdev, block) ∈ (devm core.world).live ∧ pdev ∉ core.bound.map Prod.fst
  · exact Or.inr (Or.inr known)
  · have bound_of_old : (pdev, block) ∈ (devm core.world).live → pdev ∈ core.bound.map Prod.fst := by
      intro old
      by_contra unbound
      exact known ⟨old, unbound⟩
    cases request with
    | probe other device calls =>
        by_cases unbound : other ∉ core.bound.map Prod.fst
        · rcases probed : driver.probe other device calls core.world with ⟨refusal | data, world⟩
          · have grows := manages.probe probed
            cases refusal with
            | errno rc =>
                rw [serve_probe_errno unbound probed] at live ⊢
                simp only [Core.settle, manages.reclaim, Managed.mem_reclaim] at live
                rcases grows.adds _ live.1 with old | new
                · exact Or.inl (bound_of_old old)
                · exact absurd new.1 live.2
            | oops =>
                rw [serve_probe_oops unbound probed] at live ⊢
                rcases grows.adds _ live with old | new
                · exact Or.inl (bound_of_old old)
                · obtain rfl : pdev = other := new.1
                  exact Or.inr (Or.inl ⟨device, calls, rfl, rfl⟩)
          · have grows := manages.probe probed
            rw [serve_probe_ok unbound probed] at live ⊢
            rcases grows.adds _ live with old | new
            · exact Or.inl (List.mem_cons_of_mem _ (bound_of_old old))
            · obtain rfl : pdev = other := new.1
              exact Or.inl List.mem_cons_self
        · simp only [serve, dif_neg unbound] at live ⊢
          exact Or.inl (bound_of_old live)
    | remove other =>
        cases found : core.bound.lookup other with
        | none =>
            simp only [serve, found] at live ⊢
            exact Or.inl (bound_of_old live)
        | some data =>
            simp only [serve, found] at live ⊢
            simp only [Core.unbind, manages.reclaim, manages.remove, Managed.mem_reclaim] at live
            obtain ⟨entry, member, same⟩ := List.mem_map.mp (bound_of_old live.1)
            have apart : entry.1 ≠ other := by rw [same]; exact live.2
            refine Or.inl (List.mem_map.mpr ⟨entry, ?_, same⟩)
            exact List.mem_filter.mpr ⟨member, decide_eq_true apart⟩

/-- Whatever a run has allocated and not freed belongs to a device that is bound
at the end, or to one whose probe has faulted. -/
theorem run_owner (manages : Manages driver devm) (requests : List (Request Device Calls))
    (initial : ∀ entry ∈ (devm core.world).live, entry.1 ∈ core.bound.map Prod.fst)
    (live : (pdev, block) ∈ (devm (stateAfter (serve driver) core requests).world).live) :
    pdev ∈ (stateAfter (serve driver) core requests).bound.map Prod.fst ∨
      Oopsed driver core requests pdev := by
  induction requests using List.reverseRecOn with
  | nil => exact Or.inl (initial _ live)
  | append_singleton requests request ih =>
      rw [stateAfter_append, stateAfter_cons, stateAfter_nil] at live ⊢
      rcases manages.serve_owner request live with bound | ⟨device, calls, rfl, faulted⟩ | ⟨old, unbound⟩
      · exact Or.inl bound
      · exact Or.inr ⟨requests, device, calls, [], rfl, faulted⟩
      · rcases ih old with bound | oopsed
        · exact absurd bound unbound
        · exact Or.inr (oopsed.append [request])

theorem oopsed_of_detach {requests : List (Request Device Calls)} {entries : List (Nat × Data)}
    (oopsed : Oopsed driver core (requests ++ entries.map fun entry => .remove entry.1) pdev) :
    Oopsed driver core requests pdev := by
  obtain ⟨before, device, calls, after, split, faulted⟩ := oopsed
  have silent : Request.probe pdev device calls ∉ entries.map fun entry => Request.remove entry.1 := by simp
  rcases List.append_eq_append_iff.mp split with ⟨more, rfl, removes⟩ | ⟨more, rfl, rest⟩
  · exact absurd (by simp [removes]) silent
  · cases more with
    | nil =>
        rw [List.nil_append] at rest
        exact absurd (rest ▸ List.mem_cons_self) silent
    | cons head more =>
        obtain ⟨rfl, rfl⟩ := List.cons.inj rest
        exact ⟨before, device, calls, more, rfl, faulted⟩

/-- Once the driver is unregistered, only a probe that has faulted still has
memory. -/
theorem detach_owner (manages : Manages driver devm) (requests : List (Request Device Calls))
    (initial : ∀ entry ∈ (devm core.world).live, entry.1 ∈ core.bound.map Prod.fst)
    (live : (pdev, block) ∈
      (devm (detach driver (stateAfter (serve driver) core requests)).world).live) :
    Oopsed driver core requests pdev := by
  rw [detach, ← stateAfter_append] at live
  rcases manages.run_owner _ initial live with bound | oopsed
  · rw [stateAfter_append] at bound
    have none := bound_detach driver (stateAfter (serve driver) core requests)
    rw [detach] at none
    rw [none] at bound
    cases bound
  · exact oopsed_of_detach oopsed

/-- What a run has allocated and not freed belongs to devices that are bound, or
whose probe has faulted, and only to the latter once the driver is unregistered. -/
def FreesMemory (driver : Driver World Device Calls Data) (devm : World → Managed Nat) (world : World)
    (requests : List (Request Device Calls)) : Prop :=
  let core := stateAfter (serve driver) (.start world) requests
  (∀ pdev block, (pdev, block) ∈ (devm core.world).live →
    pdev ∈ core.bound.map Prod.fst ∨ Oopsed driver (.start world) requests pdev) ∧
  (∀ pdev block, (pdev, block) ∈ (devm (detach driver core).world).live →
    Oopsed driver (.start world) requests pdev)

theorem freesMemory (manages : Manages driver devm) {world : World} (none : (devm world).live = [])
    (requests : List (Request Device Calls)) : FreesMemory driver devm world requests := by
  have initial : ∀ entry ∈ (devm (Core.start world : Core World Data).world).live,
      entry.1 ∈ (Core.start world : Core World Data).bound.map Prod.fst := by
    intro entry member
    rw [Core.start, none] at member
    cases member
  exact ⟨fun _ _ live => manages.run_owner requests initial live,
    fun _ _ live => manages.detach_owner requests initial live⟩

/-- Memory that has been freed is never used again. -/
theorem serve_dead (manages : Manages driver devm) (request : Request Device Calls)
    (old : block < (devm core.world).next) (dead : ¬ (devm core.world).Live block) :
    block < (devm (serve driver core request).1.world).next ∧
      ¬ (devm (serve driver core request).1.world).Live block := by
  have grown : ∀ {owner : Nat} {world after : World}, (devm world).Grows owner (devm after) →
      block < (devm world).next → ¬ (devm world).Live block →
      block < (devm after).next ∧ ¬ (devm after).Live block := by
    intro owner world after grows before gone
    refine ⟨Nat.lt_of_lt_of_le before grows.next, fun live => ?_⟩
    obtain ⟨other, member⟩ := live
    rcases grows.adds _ member with known | new
    · exact gone ⟨other, known⟩
    · exact absurd new.2 (by simpa using before)
  have reclaimed : ∀ {owner : Nat} {world : World}, block < (devm world).next → ¬ (devm world).Live block →
      block < (devm (driver.reclaim owner world)).next ∧ ¬ (devm (driver.reclaim owner world)).Live block := by
    intro owner world before gone
    rw [manages.reclaim]
    exact ⟨before, fun live => gone (Managed.live_reclaim_iff.mp live).1⟩
  cases request with
  | probe pdev device calls =>
      by_cases unbound : pdev ∉ core.bound.map Prod.fst
      · rcases probed : driver.probe pdev device calls core.world with ⟨refusal | data, world⟩
        · have after := grown (manages.probe probed) old dead
          cases refusal with
          | errno rc =>
              rw [serve_probe_errno unbound probed]
              exact reclaimed after.1 after.2
          | oops =>
              rw [serve_probe_oops unbound probed]
              exact after
        · rw [serve_probe_ok unbound probed]
          exact grown (manages.probe probed) old dead
      · simpa only [serve, dif_neg unbound] using ⟨old, dead⟩
  | remove pdev =>
      cases found : core.bound.lookup pdev with
      | none => simpa only [serve, found] using ⟨old, dead⟩
      | some data =>
          simp only [serve, found]
          apply reclaimed
          · rw [manages.remove]
            exact old
          · rw [manages.remove]
            exact dead

end Manages

end BbbLkm.Kernel
