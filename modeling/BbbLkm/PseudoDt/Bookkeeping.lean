import BbbLkm.PseudoDt.Outcome

namespace BbbLkm.PseudoDt

open BbbLkm.Machine BbbLkm.Kernel

abbrev Bound := Nat × PseudoDevPrivateData

def cdevOf (entry : Bound) : Cdev := ⟨entry.2.address, entry.2.devNum⟩

def numberOf (entry : Bound) : Int := entry.2.devNum

def nodeOf (base : Int) (entry : Bound) : Node Int := ⟨numberOf entry, numberOf entry - base⟩

/-- What is registered, newest first, is what the bound devices stand for, and
their private data is live. -/
structure Balanced (core : Core World PseudoDevPrivateData) : Prop where
  cdevs : core.world.cdevs = core.bound.map cdevOf
  nodes : core.world.nodes = core.bound.map (nodeOf core.world.deviceNumberBase)
  total : core.world.totalDevices = core.bound.length
  numbers : (core.bound.map numberOf).Nodup
  owned : ∀ entry ∈ core.bound, (entry.1, entry.2.address) ∈ core.world.devm.live

namespace Balanced

variable {core : Core World PseudoDevPrivateData} {pdev : Nat} {device : PlatformDevice}
  {calls : ProbeCalls} {devm : Managed Nat} {data : PseudoDevPrivateData}

theorem start (base : Int) : Balanced (.start (loaded base)) where
  cdevs := rfl
  nodes := rfl
  total := rfl
  numbers := List.nodup_nil
  owned := by simp [Core.start]

theorem cdevsAllocated (balanced : Balanced core) : CdevsAllocated core.world := by
  intro cdev member
  rw [balanced.cdevs] at member
  obtain ⟨entry, bound, rfl⟩ := List.mem_map.mp member
  exact core.world.devm.allocated _ (balanced.owned entry bound)

theorem outcome (balanced : Balanced core)
    {result : Except Refusal PseudoDevPrivateData × World}
    (probed : probeDevice pdev device calls core.world = result) :
    ProbeOutcome pdev device calls core.world result :=
  probed ▸ probeDevice_outcome balanced.cdevsAllocated

theorem node_mem (balanced : Balanced core) {entry : Bound} (member : entry ∈ core.bound) :
    nodeOf core.world.deviceNumberBase entry ∈ core.world.nodes := by
  rw [balanced.nodes]
  exact List.mem_map_of_mem member

theorem settle (balanced : Balanced core) (grows : core.world.devm.Grows pdev devm) (added : List Cdev) :
    Balanced (core.settle { core.world with devm, added }) where
  cdevs := balanced.cdevs
  nodes := balanced.nodes
  total := balanced.total
  numbers := balanced.numbers
  owned entry member := grows.keeps _ (balanced.owned entry member)

theorem reclaimed (balanced : Balanced core) (unbound : pdev ∉ core.bound.map Prod.fst) :
    Balanced (core.settle (reclaim pdev core.world)) where
  cdevs := balanced.cdevs
  nodes := balanced.nodes
  total := balanced.total
  numbers := balanced.numbers
  owned entry member := by
    refine Managed.mem_reclaim.mpr ⟨balanced.owned entry member, fun same => unbound ?_⟩
    exact List.mem_map.mpr ⟨entry, member, same⟩

theorem bind (balanced : Balanced core) (unbound : pdev ∉ core.bound.map Prod.fst)
    {world : World} (outcome : ProbeOutcome pdev device calls core.world (.ok data, world)) :
    Balanced (core.bind pdev data world unbound) := by
  cases outcome with
  | registered _ devm completes grows owned fresh number =>
      have named : nodeOf core.world.deviceNumberBase (pdev, data) =
          ⟨data.devNum, core.world.totalDevices⟩ := by
        simp only [nodeOf, numberOf, number, nextDevNum, Node.mk.injEq, true_and]
        omega
      have new : data.devNum ∉ core.bound.map numberOf := by
        intro member
        obtain ⟨entry, bound, same⟩ := List.mem_map.mp member
        refine completes.free _ (balanced.node_mem bound) (Or.inl ?_)
        exact same.trans number
      exact {
        cdevs := congrArg (_ :: ·) balanced.cdevs
        nodes := by
          rw [Core.bind, List.map_cons, named]
          exact congrArg (_ :: ·) balanced.nodes
        total := by
          simp only [Core.bind, List.length_cons, balanced.total]
          omega
        numbers := List.nodup_cons.mpr ⟨new, balanced.numbers⟩
        owned := by
          intro entry member
          rcases List.mem_cons.mp member with rfl | older
          · exact owned
          · exact grows.keeps _ (balanced.owned entry older) }

theorem address_eq_iff (balanced : Balanced core) (member : (pdev, data) ∈ core.bound)
    {entry : Bound} (bound : entry ∈ core.bound) :
    entry.2.address = data.address ↔ entry.1 = pdev :=
  Core.address_eq_iff balanced.owned member bound

theorem number_eq_iff (balanced : Balanced core) (member : (pdev, data) ∈ core.bound)
    {entry : Bound} (bound : entry ∈ core.bound) :
    numberOf entry = data.devNum ↔ entry.1 = pdev :=
  Core.key_eq_iff balanced.numbers member bound

theorem unbind (balanced : Balanced core) (member : (pdev, data) ∈ core.bound) :
    Balanced (core.unbind pdev
      (reclaim pdev (pseudoPlatformDriverRemove pdev data core.world))) where
  cdevs := by
    simp only [Core.unbind, reclaim, pseudoPlatformDriverRemove, cdevDel, balanced.cdevs,
      List.filter_map]
    refine congrArg _ (List.filter_congr fun entry bound => ?_)
    simp only [Function.comp_apply, cdevOf, ne_eq, balanced.address_eq_iff member bound]
  nodes := by
    simp only [Core.unbind, reclaim, pseudoPlatformDriverRemove, deviceDestroy, balanced.nodes,
      List.filter_map]
    refine congrArg _ (List.filter_congr fun entry bound => ?_)
    simp only [Function.comp_apply, nodeOf, ne_eq, balanced.number_eq_iff member bound]
  total := by
    have one := Core.length_unbind core.world member
    simp only [Core.unbind, reclaim, pseudoPlatformDriverRemove, balanced.total] at one ⊢
    omega
  numbers := balanced.numbers.sublist (List.filter_sublist.map _)
  owned entry bound := by
    obtain ⟨older, different⟩ := List.mem_filter.mp bound
    exact Managed.mem_reclaim.mpr ⟨balanced.owned entry older, by simpa using different⟩

theorem refuse (balanced : Balanced core) {refusal : Refusal} {world : World}
    (outcome : ProbeOutcome pdev device calls core.world (.error refusal, world)) :
    Balanced (core.settle world) := by
  cases outcome with
  | refused _ devm added _ grows => exact balanced.settle grows added

end Balanced

theorem balanced_kept : Kept pseudoPlatformDriver (fun _ _ => True) Balanced where
  bind unbound balanced _ probed :=
    balanced.bind unbound (balanced.outcome probed)
  refuse unbound balanced _ probed :=
    (balanced.refuse (balanced.outcome probed)).reclaimed unbound
  oops _ balanced _ probed :=
    balanced.refuse (balanced.outcome probed)
  unbind balanced _ member := balanced.unbind member

/-- The registered cdevs, the nodes and the counter are exactly those of the
bound devices. -/
structure ExactBooks (core : Core World PseudoDevPrivateData) : Prop where
  cdevs : core.world.cdevs.Perm (core.bound.map cdevOf)
  nodes : (core.world.nodes.map Node.number).Perm (core.bound.map numberOf)
  numbers : (core.bound.map numberOf).Nodup
  total : core.world.totalDevices = core.bound.length

structure SameBooks (before after : Core World PseudoDevPrivateData) : Prop where
  cdevs : after.world.cdevs = before.world.cdevs
  nodes : after.world.nodes = before.world.nodes
  total : after.world.totalDevices = before.world.totalDevices
  bound : after.bound = before.bound

theorem Balanced.exact {core : Core World PseudoDevPrivateData} (balanced : Balanced core) :
    ExactBooks core where
  cdevs := .of_eq balanced.cdevs
  nodes := by
    rw [balanced.nodes, List.map_map]
    exact .of_eq rfl
  numbers := balanced.numbers
  total := balanced.total

theorem ProbeOutcome.sameBooks {core after : Core World PseudoDevPrivateData} {pdev : Nat}
    {device : PlatformDevice} {calls : ProbeCalls} {refusal : Refusal} {world : World}
    (outcome : ProbeOutcome pdev device calls core.world (.error refusal, world))
    (settled : after = core.settle (reclaim pdev world) ∨ after = core.settle world) :
    SameBooks core after := by
  cases outcome with
  | refused _ devm _ _ _ =>
      rcases settled with rfl | rfl
      · exact ⟨rfl, rfl, rfl, rfl⟩
      · exact ⟨rfl, rfl, rfl, rfl⟩

/-- After every run, whatever fails in it, the books are exact, and a probe
that fails next would leave them as they are. -/
theorem run_keeps_exact_books (base : Int) (requests : List (Request PlatformDevice ProbeCalls)) :
    let core := stateAfter (serve pseudoPlatformDriver) (.start (loaded base)) requests
    ExactBooks core ∧ ∀ pdev device calls refusal,
      (serve pseudoPlatformDriver core (.probe pdev device calls)).2 = .refused refusal →
      SameBooks core (serve pseudoPlatformDriver core (.probe pdev device calls)).1 := by
  have balanced := balanced_kept.always (Balanced.start base) requests
  refine ⟨balanced.exact, fun pdev device calls refusal answer => ?_⟩
  obtain ⟨_, world, probed, settled⟩ := serve_refused answer
  exact (balanced.outcome probed).sameBooks settled

end BbbLkm.PseudoDt
