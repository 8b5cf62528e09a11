import BbbLkm.PseudoDtSysfs.Probe

namespace BbbLkm.PseudoDtSysfs

open BbbLkm.Machine BbbLkm.Kernel BbbLkm.PseudoDt

section Stack

/-- The numbers of the bound devices, newest first, count down to `base`. -/
def Stacked (base : Int) : List Bound → Prop
  | [] => True
  | entry :: older => numberOf entry = base + older.length ∧ Stacked base older

theorem Stacked.lt {base : Int} {entries : List Bound} (stacked : Stacked base entries)
    {entry : Bound} (member : entry ∈ entries) : numberOf entry < base + entries.length := by
  induction entries with
  | nil => cases member
  | cons newest older ih =>
      rw [List.length_cons]
      rcases List.mem_cons.mp member with rfl | within
      · have := stacked.1
        omega
      · have := ih stacked.2 within
        omega

end Stack

/-- A bound device that is removed is the one bound last. -/
def RemovesNewest {Calls : Type} (core : Core World PseudoDevPrivateData) :
    Request PlatformDevice Calls → Prop
  | .probe _ _ _ => True
  | .remove pdev => pdev ∈ core.bound.map Prod.fst → (core.bound.map Prod.fst).head? = some pdev

/-- The number that a probe would choose is not that of a bound device, and a
probe for which every kernel call succeeds that can does bind. -/
structure NextProbeFits {Calls : Type} (driver : Driver World PlatformDevice Calls PseudoDevPrivateData)
    (succeeding : Calls) (core : Core World PseudoDevPrivateData) : Prop where
  free : ∀ entry ∈ core.bound, numberOf entry ≠ nextDevNum core.world
  binds : ∀ pdev device, pdev ∉ core.bound.map Prod.fst → Described device true →
    (serve driver core (.probe pdev device succeeding)).2 = .bound

variable {core : Core World PseudoDevPrivateData} {pdev : Nat} {device : PlatformDevice}
  {data : PseudoDevPrivateData}

structure Ordered (core : Core World PseudoDevPrivateData) : Prop where
  balanced : Balanced core
  stacked : Stacked core.world.deviceNumberBase core.bound

theorem Ordered.start (base : Int) : Ordered (.start (loaded base)) where
  balanced := .start base
  stacked := trivial

theorem Ordered.bind (ordered : Ordered core) (unbound : pdev ∉ core.bound.map Prod.fst)
    {calls : ProbeCalls} {world : World}
    (outcome : ProbeOutcome pdev device calls core.world (.ok data, world)) :
    Ordered (core.bind pdev data world unbound) where
  balanced := ordered.balanced.bind unbound outcome
  stacked := by
    cases outcome with
    | registered _ devm _ _ _ _ number =>
        refine ⟨?_, ordered.stacked⟩
        rw [numberOf, number, nextDevNum, ordered.balanced.total]
        rfl

theorem Ordered.refuse (ordered : Ordered core) {calls : ProbeCalls} {refusal : Refusal} {world : World}
    (outcome : ProbeOutcome pdev device calls core.world (.error refusal, world)) :
    Ordered (core.settle world) where
  balanced := ordered.balanced.refuse outcome
  stacked := by
    cases outcome with
    | refused _ devm _ _ _ => exact ordered.stacked

theorem newest_of_removesNewest {Calls : Type} (member : (pdev, data) ∈ core.bound)
    (newest : RemovesNewest core (.remove pdev : Request PlatformDevice Calls)) :
    ∃ older, core.bound = (pdev, data) :: older := by
  have first := newest (List.mem_map_of_mem member)
  cases split : core.bound with
  | nil => simp [split] at member
  | cons entry older =>
      rw [split, List.map_cons, List.head?_cons, Option.some.injEq] at first
      obtain ⟨other, held⟩ := entry
      subst first
      have same : held = data := Core.data_unique (split ▸ List.mem_cons_self) member
      exact ⟨older, by rw [same]⟩

theorem ordered_kept : Kept PseudoDt.pseudoPlatformDriver RemovesNewest Ordered where
  bind unbound ordered _ probed :=
    ordered.bind unbound (ordered.balanced.outcome probed)
  refuse unbound ordered _ probed :=
    have settled := ordered.refuse (ordered.balanced.outcome probed)
    ⟨settled.balanced.reclaimed unbound, settled.stacked⟩
  oops _ ordered _ probed :=
    ordered.refuse (ordered.balanced.outcome probed)
  unbind ordered newest member := by
    obtain ⟨older, split⟩ := newest_of_removesNewest member newest
    refine ⟨ordered.balanced.unbind member, ?_⟩
    rw [Core.bound_unbind_newest _ split]
    have stacked := ordered.stacked
    rw [split] at stacked
    exact stacked.2

theorem Ordered.fits (ordered : Ordered core) :
    NextProbeFits PseudoDt.pseudoPlatformDriver .succeeding core where
  free entry member := by
    have below := ordered.stacked.lt member
    rw [nextDevNum, ordered.balanced.total]
    omega
  binds pdev device unbound described := by
    have completes : Completes device .succeeding core.world := {
      described := described
      dataAllocated := rfl
      bufferAllocated := rfl
      cdevAdd := rfl
      deviceCreate := rfl
      free := by
        intro node member clash
        rw [ordered.balanced.nodes] at member
        obtain ⟨entry, bound, rfl⟩ := List.mem_map.mp member
        have below := ordered.stacked.lt bound
        have total := ordered.balanced.total
        simp only [Clashes, nodeOf, nextDevNum] at clash
        omega }
    have outcome := ordered.balanced.outcome
      (rfl : probeDevice pdev device .succeeding core.world = _)
    generalize probed : probeDevice pdev device .succeeding core.world = result at outcome
    cases outcome with
    | refused _ _ _ incomplete _ => exact absurd completes incomplete
    | registered data devm _ _ _ _ _ =>
        have served : serve PseudoDt.pseudoPlatformDriver core (.probe pdev device .succeeding) = _ :=
          serve_probe_ok unbound probed
        rw [served]

/-- A removal out of order leaves the newest device with the number that the
next probe chooses. -/
theorem not_fits_of_older_removed (ordered : Ordered core) {newest : Bound} {older : List Bound}
    (split : core.bound = newest :: older) (member : (pdev, data) ∈ core.bound)
    (notNewest : newest.1 ≠ pdev) :
    ¬ NextProbeFits PseudoDt.pseudoPlatformDriver .succeeding
      (serve PseudoDt.pseudoPlatformDriver core (.remove pdev)).1 := by
  intro fits
  have balanced : Balanced (serve PseudoDt.pseudoPlatformDriver core (.remove pdev)).1 :=
    balanced_kept.serve (.remove pdev) ordered.balanced trivial
  have first : newest ∈ core.bound := split ▸ List.mem_cons_self
  have top : numberOf newest = core.world.deviceNumberBase + older.length := by
    have stacked := ordered.stacked
    rw [split] at stacked
    exact stacked.1
  rw [serve_remove member] at fits balanced
  have remains : newest ∈ core.bound.filter fun entry => entry.1 ≠ pdev :=
    List.mem_filter.mpr ⟨first, by simpa using notNewest⟩
  refine fits.free newest remains ?_
  have one := Core.length_unbind core.world member
  have total := balanced.total
  rw [split, List.length_cons] at one
  rw [top, nextDevNum, total]
  simp only [Core.unbind] at one ⊢
  have same : older.length = (core.bound.filter fun entry => entry.1 ≠ pdev).length := by omega
  rw [same]
  rfl

theorem removesNewest_iff (ordered : Ordered core) (request : Request PlatformDevice ProbeCalls) :
    RemovesNewest core request ↔ NextProbeFits PseudoDt.pseudoPlatformDriver .succeeding
      (serve PseudoDt.pseudoPlatformDriver core request).1 := by
  apply Iff.intro
  · intro newest
    exact (ordered_kept.serve request ordered newest).fits
  · intro fits
    cases request with
    | probe pdev device calls => trivial
    | remove pdev =>
        intro member
        obtain ⟨entry, present, rfl⟩ := List.mem_map.mp member
        cases split : core.bound with
        | nil => simp [split] at present
        | cons newest older =>
            by_cases same : newest.1 = entry.1
            · simp [same]
            · exact absurd fits (not_fits_of_older_removed ordered split present same)

def withSysfs : Request PlatformDevice ProbeCalls → Request PlatformDevice SysfsProbeCalls
  | .probe pdev device calls =>
      .probe pdev device { toProbeCalls := calls, sysfsCreateGroup := .ok () }
  | .remove pdev => .remove pdev

theorem serve_withSysfs (core : Core World PseudoDevPrivateData)
    (request : Request PlatformDevice ProbeCalls) :
    serve pseudoPlatformDriver core (withSysfs request) =
      serve PseudoDt.pseudoPlatformDriver core request := by
  cases request with
  | remove pdev => rfl
  | probe pdev device calls =>
      have same : pseudoPlatformDriver.probe pdev device
          { toProbeCalls := calls, sysfsCreateGroup := .ok () } core.world =
          PseudoDt.pseudoPlatformDriver.probe pdev device calls core.world := probe_of_sysfs_ok rfl
      simp only [withSysfs, serve, same]
      rfl

theorem fits_withSysfs :
    NextProbeFits pseudoPlatformDriver .succeeding core ↔
      NextProbeFits PseudoDt.pseudoPlatformDriver .succeeding core := by
  have same : ∀ pdev device,
      serve pseudoPlatformDriver core (.probe pdev device .succeeding) =
        serve PseudoDt.pseudoPlatformDriver core (.probe pdev device .succeeding) :=
    fun pdev device => serve_withSysfs core (.probe pdev device .succeeding)
  apply Iff.intro
  · intro fits
    refine ⟨fits.free, fun pdev device unbound described => ?_⟩
    rw [← same]
    exact fits.binds pdev device unbound described
  · intro fits
    refine ⟨fits.free, fun pdev device unbound described => ?_⟩
    rw [same]
    exact fits.binds pdev device unbound described

theorem removesNewest_withSysfs (core : Core World PseudoDevPrivateData)
    (request : Request PlatformDevice ProbeCalls) :
    RemovesNewest core (withSysfs request) ↔ RemovesNewest core request := by
  cases request with
  | probe pdev device calls => exact Iff.rfl
  | remove pdev => exact Iff.rfl

theorem run_fits_iff (base : Int) (requests : List (Request PlatformDevice ProbeCalls)) :
    (∀ seen, seen <+: requests → NextProbeFits PseudoDt.pseudoPlatformDriver .succeeding
        (stateAfter (serve PseudoDt.pseudoPlatformDriver) (.start (loaded base)) seen)) ↔
      Along (serve PseudoDt.pseudoPlatformDriver) RemovesNewest (.start (loaded base)) requests :=
  always_iff_along Ordered
    (fun _ request ordered newest => ordered_kept.serve request ordered newest)
    (fun _ request ordered => removesNewest_iff ordered request)
    (.start base) (Ordered.start base).fits

/-- Both drivers choose free numbers exactly in the runs that remove no device
before those bound after it. -/
theorem run_numbers_fit_iff (base : Int) (requests : List (Request PlatformDevice ProbeCalls)) :
    ((∀ seen, seen <+: requests → NextProbeFits PseudoDt.pseudoPlatformDriver .succeeding
        (stateAfter (serve PseudoDt.pseudoPlatformDriver) (.start (loaded base)) seen)) ↔
      Along (serve PseudoDt.pseudoPlatformDriver) RemovesNewest (.start (loaded base)) requests) ∧
    ((∀ seen, seen <+: requests.map withSysfs → NextProbeFits pseudoPlatformDriver .succeeding
        (stateAfter (serve pseudoPlatformDriver) (.start (loaded base)) seen)) ↔
      Along (serve pseudoPlatformDriver) RemovesNewest (.start (loaded base))
        (requests.map withSysfs)) := by
  refine ⟨run_fits_iff base requests, ?_⟩
  have states : ∀ core request, (serve pseudoPlatformDriver core (withSysfs request)).1 =
      (serve PseudoDt.pseudoPlatformDriver core request).1 :=
    fun core request => congrArg Prod.fst (serve_withSysfs core request)
  rw [← along_after_iff (fits_withSysfs.mpr (Ordered.start base).fits),
    along_map states removesNewest_withSysfs, ← run_fits_iff,
    ← along_after_iff (Ordered.start base).fits]
  apply along_map states
  intro core request
  rw [states, fits_withSysfs]

/-- Every kernel call of a probe succeeds that can. -/
def CallsSucceed {Calls : Type} (succeeding : Calls) : Request PlatformDevice Calls → Prop
  | .probe _ _ calls => calls = succeeding
  | .remove _ => True

def removesOlder : List (Request PlatformDevice ProbeCalls) :=
  [.probe 1 pcdev1 .succeeding, .probe 2 pcdev1 .succeeding, .remove 1]

theorem described_pcdev1 : Described pcdev1 true := by
  have matched : ofMatchDevice pcdev1 = some .pseudoDevA1x := rfl
  rw [Described, matched]
  exact ⟨rfl, _, rfl, rfl, rfl, rfl⟩

/-- The next device then gets the number of the second, which is still bound,
and its probe fails. -/
theorem next_probe_collides :
    (¬ ∀ (base : Int) (requests : List (Request PlatformDevice ProbeCalls)),
      (∀ request ∈ requests, CallsSucceed .succeeding request) →
        NextProbeFits PseudoDt.pseudoPlatformDriver .succeeding
          (stateAfter (serve PseudoDt.pseudoPlatformDriver) (.start (loaded base)) requests)) ∧
    (¬ ∀ (base : Int) (requests : List (Request PlatformDevice SysfsProbeCalls)),
      (∀ request ∈ requests, CallsSucceed .succeeding request) →
        NextProbeFits pseudoPlatformDriver .succeeding
          (stateAfter (serve pseudoPlatformDriver) (.start (loaded base)) requests)) := by
  apply And.intro
  · intro claimed
    have succeed : ∀ request ∈ removesOlder, CallsSucceed .succeeding request := by
      simp [removesOlder, CallsSucceed]
    have bound := (claimed 100 removesOlder succeed).binds 3 pcdev1 (by decide) described_pcdev1
    exact absurd bound (by decide)
  · intro claimed
    have succeed : ∀ request ∈ removesOlder.map withSysfs, CallsSucceed .succeeding request := by
      simp [removesOlder, withSysfs, CallsSucceed, SysfsProbeCalls.succeeding]
    have bound := (claimed 100 (removesOlder.map withSysfs) succeed).binds 3 pcdev1 (by decide)
      described_pcdev1
    exact absurd bound (by decide)

end BbbLkm.PseudoDtSysfs
