import BbbLkm.PseudoPlatform.Lifetime

namespace BbbLkm.PseudoPlatform

open BbbLkm.Machine BbbLkm.Kernel

def InRegion (base : UInt32) (number : Int) : Prop :=
  base.toNat ≤ number ∧ number < base.toNat + MAX_DEVICES

instance (base : UInt32) (number : Int) : Decidable (InRegion base number) :=
  inferInstanceAs (Decidable (_ ∧ _))

/-- An id that is the index of one of the reserved numbers. -/
def InRange (id : Int32) : Prop := 0 ≤ id.toInt ∧ id.toInt < MAX_DEVICES

theorem toInt_eq (id : Int32) : id.toInt =
    if 2 * id.toUInt32.toNat < 2 ^ 32 then (id.toUInt32.toNat : Int)
    else (id.toUInt32.toNat : Int) - 2 ^ 32 :=
  BitVec.toInt_eq_toNat_cond id.toBitVec

theorem inRegion_iff (region : ReservedRegion) (id : Int32) :
    InRegion region.base (region.base + id.toUInt32).toNat ↔ InRange id := by
  have fits := region.fits
  have small := id.toUInt32.toNat_lt
  have first := region.base.toNat_lt
  rw [InRegion, InRange, toInt_eq, UInt32.toNat_add]
  simp only [MAX_DEVICES] at *
  split <;> omega

/-- Platform devices that the driver is matched with.  The bus has at most one
device of a name and an id. -/
structure Fleet where
  devices : List MatchedDevice
  distinct : (devices.map fun device => (device.name, device.id)).Nodup

inductive FleetRequest (fleet : Fleet) where
  | bind (index : Fin fleet.devices.length) (calls : ProbeCalls)
  | unbind (index : Fin fleet.devices.length)

namespace Fleet

variable (fleet : Fleet)

def request : FleetRequest fleet → Request MatchedDevice ProbeCalls
  | .bind index calls => .probe index.val fleet.devices[index] calls
  | .unbind index => .remove index.val

def step (core : Core World PseudoDevPrivateData) (request : FleetRequest fleet) :
    Core World PseudoDevPrivateData × Answer :=
  serve pseudoPlatformDriver core (fleet.request request)

end Fleet

/-- The cdevs that are registered are those of the bound devices, each with a
node of its number, and their numbers are distinct and reserved. -/
structure NumbersReserved (base : UInt32) (core : Core World PseudoDevPrivateData) : Prop where
  devices : core.world.cdevs = core.bound.map fun entry => entry.2.pseudoCdev
  nodes : core.world.nodes.map Node.number = core.world.cdevs.map Cdev.number
  distinct : (core.world.cdevs.map Cdev.number).Nodup
  reserved : ∀ cdev ∈ core.world.cdevs, InRegion base cdev.number

/-- A bind that succeeds is of a device whose id is in range. -/
def BindsInRange {fleet : Fleet} (core : Core World PseudoDevPrivateData) :
    FleetRequest fleet → Prop
  | .bind index calls => index.val ∉ core.bound.map Prod.fst →
      Completes fleet.devices[index] calls core.world → InRange fleet.devices[index].id
  | .unbind _ => True

variable {region : ReservedRegion} {fleet : Fleet} {core : Core World PseudoDevPrivateData}

def BoundInRegion (base : UInt32) (core : Core World PseudoDevPrivateData) : Prop :=
  ∀ entry ∈ core.bound, InRegion base (numberOf entry).toNat

theorem numbersReserved_iff {base : UInt32} (running : Running base core) :
    NumbersReserved base core ↔ BoundInRegion base core := by
  have numbers : core.world.cdevs.map Cdev.number =
      (core.bound.map numberOf).map fun number => (number.toNat : Int) := by
    rw [running.cdevs_eq, List.map_map, List.map_map]
    rfl
  apply Iff.intro
  · intro holds entry bound
    refine holds.reserved entry.2.pseudoCdev ?_
    rw [running.cdevs_eq]
    exact List.mem_map_of_mem bound
  · intro inside
    constructor
    · exact running.cdevs_eq
    · rw [numbers, running.nodes_eq, List.map_map, List.map_map]
      rfl
    · rw [numbers]
      refine running.numbers.map fun first second same => ?_
      exact UInt32.toNat_inj.mp (Int.ofNat_inj.mp same)
    · intro cdev held
      rw [running.cdevs_eq] at held
      obtain ⟨entry, bound, rfl⟩ := List.mem_map.mp held
      exact inside entry bound

theorem step_running {base : UInt32} (running : Running base core) (request : FleetRequest fleet) :
    Running base (fleet.step core request).1 :=
  (running_kept base).serve (fleet.request request) running trivial

theorem bind_iff {pdev : Nat} {device : MatchedDevice} {calls : ProbeCalls}
    (running : Running region.base core) (reserved : BoundInRegion region.base core)
    (unbound : pdev ∉ core.bound.map Prod.fst) :
    (Completes device calls core.world → InRange device.id) ↔
      BoundInRegion region.base (serve pseudoPlatformDriver core (.probe pdev device calls)).1 := by
  have outcome := running.outcome (rfl : pseudoPlatformDriverProbe pdev device calls core.world = _)
  generalize probed : pseudoPlatformDriverProbe pdev device calls core.world = result at outcome
  cases outcome with
  | refused rc account devm incomplete _ _ _ =>
      rw [serve_probe_errno unbound probed]
      exact iff_of_true (fun completes => absurd completes incomplete) reserved
  | registered data devm completes _ _ number _ =>
      have region_iff := inRegion_iff region device.id
      have numbered : numberOf (pdev, data) = region.base + device.id.toUInt32 := by
        rw [numberOf, number, World.devNum, running.region]
      rw [serve_probe_ok unbound probed]
      apply Iff.intro
      · intro within entry member
        rcases List.mem_cons.mp member with rfl | older
        · exact numbered ▸ region_iff.mpr (within completes)
        · exact reserved entry older
      · intro all _
        exact region_iff.mp (numbered ▸ all (pdev, data) List.mem_cons_self)

theorem bindsInRange_iff (running : Running region.base core)
    (reserved : BoundInRegion region.base core) (request : FleetRequest fleet) :
    BindsInRange core request ↔ BoundInRegion region.base (fleet.step core request).1 := by
  cases request with
  | bind index calls =>
      by_cases unbound : index.val ∉ core.bound.map Prod.fst
      · exact (forall_prop_of_true unbound).trans (bind_iff running reserved unbound)
      · refine iff_of_true (fun absent => absurd absent unbound) ?_
        simp only [Fleet.step, Fleet.request, serve, dif_neg unbound]
        exact reserved
  | unbind index =>
      refine iff_of_true trivial ?_
      simp only [Fleet.step, Fleet.request, serve]
      split
      · intro entry member
        exact reserved entry (List.mem_filter.mp member).1
      · exact reserved

/-- In every state of a run the numbers that the bound devices have registered
are distinct and reserved exactly when every bind that succeeds is of a device
with an id in range. -/
theorem run_numbers_in_region_iff (region : ReservedRegion) (fleet : Fleet)
    (requests : List (FleetRequest fleet)) :
    (∀ seen, seen <+: requests → NumbersReserved region.base (stateAfter fleet.step
        (.start (pseudoPlatformDriverInit (.succeeding region) .unused).2) seen)) ↔
      Along fleet.step BindsInRange
        (.start (pseudoPlatformDriverInit (.succeeding region) .unused).2) requests := by
  have start := running_unused region
  have reserved := (numbersReserved_iff start).mpr nofun
  refine always_iff_along (fun core => Running region.base core ∧ NumbersReserved region.base core)
    ?_ ?_ ⟨start, reserved⟩ reserved
  · rintro core request ⟨running, reserved⟩ within
    have after := step_running running request
    have inside := (numbersReserved_iff running).mp reserved
    exact ⟨after, (numbersReserved_iff after).mpr ((bindsInRange_iff running inside request).mp within)⟩
  · rintro core request ⟨running, reserved⟩
    have after := step_running running request
    have inside := (numbersReserved_iff running).mp reserved
    exact (bindsInRange_iff running inside request).trans (numbersReserved_iff after).symm

/-- The only device of its name, which has the id -1. -/
def onlyDevice : MatchedDevice where
  name := "pseudo-dev-A1x"
  id := -1
  platformData := some {
    size := 512
    perm := 0x11
    serialNumber := ⟨[80, 83, 69, 85, 68, 79, 95, 49], PseudoDt.pcdev1_serial_noNul⟩ }
  idEntry := ⟨"pseudo-dev-A1x", 0⟩
  matched := rfl

theorem only_device_below_region :
    ¬ ∀ (region : ReservedRegion) (fleet : Fleet) (requests : List (FleetRequest fleet)),
      ∀ seen, seen <+: requests → NumbersReserved region.base (stateAfter fleet.step
        (.start (pseudoPlatformDriverInit (.succeeding region) .unused).2) seen) := by
  intro claimed
  let fleet : Fleet := ⟨[onlyDevice], List.nodup_singleton _⟩
  let bind : FleetRequest fleet := .bind ⟨0, Nat.one_pos⟩ .succeeding
  have reserved := claimed dynamicRegion fleet [bind] [bind] (List.prefix_refl _)
  exact absurd (reserved.reserved ⟨0, 535822335⟩ (by decide)) (by decide)

end BbbLkm.PseudoPlatform
