import BbbLkm.PseudoPlatform.Setup

namespace BbbLkm.PseudoPlatform

open BbbLkm.Machine BbbLkm.Kernel
open BbbLkm.PseudoDt (PesudoDevNames PseudoPlatformData pseudoDevConfig?)

variable {setup : Setup} {id : Fin 10} {device : SetupDevice} {region : ReservedRegion}
  {ids : List (Fin 10)} {core : Core World PseudoDevPrivateData} {matched : MatchedDevice}

theorem c1x_unlisted : platformMatchId pseudoDeviceIds (deviceName .pseudoDevC1x) = none := rfl

theorem listed {type : PesudoDevNames} (other : type ≠ .pseudoDevC1x) :
    platformMatchId pseudoDeviceIds (deviceName type) = some ⟨deviceName type, type.toInt⟩ := by
  cases type with
  | pseudoDevA1x => rfl
  | pseudoDevB1x => rfl
  | pseudoDevC1x => exact absurd rfl other
  | pseudoDevD1x => rfl

theorem platformMatch_none {device : PlatformDevice}
    (unlisted : platformMatchId pseudoDeviceIds device.name = none) : platformMatch device = none := by
  unfold platformMatch
  split
  · rfl
  · rename_i found
    cases unlisted.symm.trans found

theorem platformMatch_some {device : PlatformDevice} {idEntry : PlatformDeviceId}
    (listed : platformMatchId pseudoDeviceIds device.name = some idEntry) :
    ∃ matched, platformMatch device = some matched ∧ matched.toPlatformDevice = device ∧
      matched.idEntry = idEntry := by
  unfold platformMatch
  split
  · rename_i unlisted
    cases unlisted.symm.trans listed
  · rename_i found
    exact ⟨_, rfl, rfl, Option.some.inj (found.symm.trans listed)⟩

theorem attach_idle (idle : ∀ device, setup id = some device → device.type = .pseudoDevC1x) :
    attach setup core id = core := by
  have unmatched : ((setup id).bind fun device => platformMatch (platformDevice id device)) = none := by
    cases found : setup id with
    | none => rfl
    | some device =>
        have unlisted : platformMatchId pseudoDeviceIds (platformDevice id device).name = none := by
          rw [platformDevice, idle device found]
          exact c1x_unlisted
        exact platformMatch_none unlisted
  simp only [attach, unmatched]

theorem attach_probes (core : Core World PseudoDevPrivateData) (found : setup id = some device)
    (other : device.type ≠ .pseudoDevC1x) :
    ∃ matched : MatchedDevice, matched.toPlatformDevice = platformDevice id device ∧
      matched.idEntry.driverData = device.type.toInt ∧
      attach setup core id =
        (serve pseudoPlatformDriver core (.probe id.val matched .succeeding)).1 := by
  have named : platformMatchId pseudoDeviceIds (platformDevice id device).name =
      some ⟨deviceName device.type, device.type.toInt⟩ := listed other
  obtain ⟨matched, offered, same, entry⟩ := platformMatch_some named
  refine ⟨matched, same, by rw [entry], ?_⟩
  simp only [attach, found, Option.bind_some, offered]

/-- The number of an id, counted from the first reserved one. -/
def numberAt (base : UInt32) (id : Fin 10) : UInt32 := base + (Int32.ofNat id.val).toUInt32

theorem numberAt_toNat (region : ReservedRegion) (id : Fin 10) :
    (numberAt region.base id).toNat = region.base.toNat + id.val := by
  have fits := region.fits
  have small : ∀ id : Fin 10, (Int32.ofNat id.val).toUInt32.toNat = id.val := by decide
  rw [numberAt, UInt32.toNat_add, small]
  simp only [MAX_DEVICES] at fits
  omega

theorem ofNat_inj : ∀ first second : Fin 10,
    Int32.ofNat first.val = Int32.ofNat second.val → first = second := by decide

/-- The entry is the binding of one of the devices, under the number of its id
and with the configuration of its type. -/
def BoundFrom (setup : Setup) (base : UInt32) (ids : List (Fin 10)) (entry : Bound) : Prop :=
  ∃ id ∈ ids, ∃ device, setup id = some device ∧ device.type ≠ .pseudoDevC1x ∧
    entry.1 = id.val ∧ entry.2.devNum = numberAt base id ∧
    pseudoDevConfig? device.type.toInt = some entry.2.printed

/-- The driver has been offered the devices, and has bound all but those of the
type that the table lacks. -/
structure Attached (setup : Setup) (region : ReservedRegion) (ids : List (Fin 10))
    (core : Core World PseudoDevPrivateData) : Prop where
  running : Running region.base core
  entries : ∀ entry ∈ core.bound, BoundFrom setup region.base ids entry
  bound : ∀ id ∈ ids, ∀ device, setup id = some device → device.type ≠ .pseudoDevC1x →
    id.val ∈ core.bound.map Prod.fst

namespace Attached

/-- A device is bound under its own id. -/
theorem of_bound {data : PseudoDevPrivateData} (attached : Attached setup region ids core)
    (member : (id.val, data) ∈ core.bound) :
    id ∈ ids ∧ ∃ device, setup id = some device ∧ device.type ≠ .pseudoDevC1x ∧
      data.devNum = numberAt region.base id ∧
      pseudoDevConfig? device.type.toInt = some data.printed := by
  obtain ⟨other, offered, device, found, listed, named, rest⟩ := attached.entries _ member
  obtain rfl : id = other := Fin.ext named
  exact ⟨offered, device, found, listed, rest⟩

theorem of_bound_id (attached : Attached setup region ids core)
    (member : id.val ∈ core.bound.map Prod.fst) :
    id ∈ ids ∧ ∃ device, setup id = some device ∧ device.type ≠ .pseudoDevC1x := by
  obtain ⟨⟨_, data⟩, bound, rfl⟩ := List.mem_map.mp member
  obtain ⟨offered, device, found, listed, _⟩ := attached.of_bound bound
  exact ⟨offered, device, found, listed⟩

/-- The probe has registered a device under the number that it has recorded. -/
theorem numberedById {data : PseudoDevPrivateData} (attached : Attached setup region ids core)
    (found : setup id = some device) (member : (id.val, data) ∈ core.bound) :
    NumberedById core.world id device data := by
  obtain ⟨_, owner, found', _, number, printed⟩ := attached.of_bound member
  rw [found] at found'
  obtain rfl := Option.some.inj found'
  have named : nodeOf region.base (id.val, data) = ⟨data.devNum.toNat, Int32.ofNat id.val⟩ := by
    rw [nodeOf, numberOf, number, numberAt, UInt32.add_comm, UInt32.add_sub_cancel,
      Int32.toInt32_toUInt32]
  constructor
  · rw [attached.running.region, number, numberAt_toNat]
  · rw [attached.running.cdevs_eq]
    exact List.mem_map.mpr ⟨_, member, rfl⟩
  · exact attached.running.mem_nodes.mpr ⟨_, member, named⟩
  · exact printed

theorem unbound (attached : Attached setup region ids core) (fresh : id ∉ ids) :
    id.val ∉ core.bound.map Prod.fst :=
  fun member => fresh (attached.of_bound_id member).1

theorem completes (attached : Attached setup region ids core) (fresh : id ∉ ids)
    (same : matched.toPlatformDevice = platformDevice id device) :
    Completes matched .succeeding core.world := by
  have idOf : matched.id = Int32.ofNat id.val := congrArg PlatformDevice.id same
  have data : matched.platformData = some device.platformData :=
    congrArg PlatformDevice.platformData same
  refine ⟨by rw [data]; rfl, rfl, rfl, rfl, rfl, fun node member => ?_⟩
  obtain ⟨entry, bound, rfl⟩ := attached.running.mem_nodes.mp member
  obtain ⟨other, offered, _, _, _, _, number, _⟩ := attached.entries entry bound
  have apart : other ≠ id := fun equal => fresh (equal ▸ offered)
  have here : core.world.devNum matched.id = numberAt region.base id := by
    rw [World.devNum, attached.running.region, idOf, numberAt]
  rw [here]
  rintro (numbers | names)
  · simp only [nodeOf, numberOf, number, numberAt_toNat] at numbers
    exact apart (Fin.ext (by omega))
  · simp only [nodeOf, numberOf, number, numberAt, idOf] at names
    rw [UInt32.add_comm, UInt32.add_sub_cancel, Int32.toInt32_toUInt32] at names
    exact apart (ofNat_inj _ _ names)

theorem start (running : Running region.base core) (none : core.bound = []) :
    Attached setup region [] core where
  running := running
  entries entry member := by simp [none] at member
  bound := nofun

theorem boundFrom_append {base : UInt32} {entry : Bound} (from_ids : BoundFrom setup base ids entry)
    (id : Fin 10) : BoundFrom setup base (ids ++ [id]) entry := by
  obtain ⟨other, offered, rest⟩ := from_ids
  exact ⟨other, List.mem_append_left [id] offered, rest⟩

/-- A device that the table lacks is registered and stays unbound. -/
theorem attach_unlisted (attached : Attached setup region ids core)
    (idle : ∀ device, setup id = some device → device.type = .pseudoDevC1x) :
    Attached setup region (ids ++ [id]) (attach setup core id) := by
  rw [attach_idle idle]
  refine ⟨attached.running, fun entry member => boundFrom_append (attached.entries entry member) id, ?_⟩
  intro other offered device found listed
  rcases List.mem_append.mp offered with old | new
  · exact attached.bound other old device found listed
  · obtain rfl := List.mem_singleton.mp new
    exact absurd (idle device found) listed

theorem attach_listed (attached : Attached setup region ids core) (fresh : id ∉ ids)
    (found : setup id = some device) (listed : device.type ≠ .pseudoDevC1x) :
    Attached setup region (ids ++ [id]) (attach setup core id) := by
  obtain ⟨matched, same, entry, probes⟩ := attach_probes core found listed
  have idOf : matched.id = Int32.ofNat id.val := congrArg PlatformDevice.id same
  have running := (running_kept region.base).serve (.probe id.val matched .succeeding)
    attached.running trivial
  have outcome := attached.running.outcome
    (rfl : pseudoPlatformDriverProbe id.val matched .succeeding core.world = _)
  generalize probed : pseudoPlatformDriverProbe id.val matched .succeeding core.world = result at outcome
  cases outcome with
  | refused _ _ _ incomplete _ _ _ => exact absurd (attached.completes fresh same) incomplete
  | registered data devm completes _ _ number printed =>
      rw [probes]
      rw [serve_probe_ok (attached.unbound fresh) probed] at running ⊢
      refine ⟨running, ?_, ?_⟩
      · intro bound member
        rcases List.mem_cons.mp member with rfl | older
        · refine ⟨id, by simp, device, found, listed, rfl, ?_, entry ▸ printed⟩
          rw [number, World.devNum, attached.running.region, idOf, numberAt]
        · exact boundFrom_append (attached.entries bound older) id
      · intro other offered owner others listed
        rcases List.mem_append.mp offered with old | new
        · exact List.mem_cons_of_mem _ (attached.bound other old owner others listed)
        · obtain rfl := List.mem_singleton.mp new
          exact List.mem_cons_self

theorem attach (attached : Attached setup region ids core) (fresh : id ∉ ids) :
    Attached setup region (ids ++ [id]) (attach setup core id) := by
  by_cases idle : ∀ device, setup id = some device → device.type = .pseudoDevC1x
  · exact attached.attach_unlisted idle
  · simp only [not_forall] at idle
    obtain ⟨device, found, listed⟩ := idle
    exact attached.attach_listed fresh found listed

/-- Loading the driver offers it every registered device, one after another. -/
theorem attachAll {rest : List (Fin 10)} (attached : Attached setup region ids core)
    (distinct : (ids ++ rest).Nodup) :
    Attached setup region (ids ++ rest) (rest.foldl (PseudoPlatform.attach setup) core) := by
  induction rest generalizing ids core with
  | nil => simpa using attached
  | cons id rest ih =>
      have fresh : id ∉ ids := fun old =>
        (List.nodup_append.mp distinct).2.2 id old id List.mem_cons_self rfl
      have next := ih (attached.attach fresh) (by simpa using distinct)
      simpa using next

theorem detach (attached : Attached setup region ids core) (distinct : ids.Nodup) (id : Fin 10) :
    Attached setup region (ids.erase id) (serve pseudoPlatformDriver core (.remove id.val)).1 where
  running := (running_kept region.base).serve _ attached.running trivial
  entries := by
    intro entry member
    rw [bound_remove] at member
    obtain ⟨older, apart⟩ := List.mem_filter.mp member
    obtain ⟨other, offered, device, found, listed, named, rest⟩ := attached.entries entry older
    have different : other ≠ id := fun equal => by simp [named, equal] at apart
    exact ⟨other, distinct.mem_erase_iff.mpr ⟨different, offered⟩, device, found, listed, named, rest⟩
  bound := by
    intro other offered device found listed
    obtain ⟨different, old⟩ := distinct.mem_erase_iff.mp offered
    obtain ⟨entry, bound, named⟩ := List.mem_map.mp (attached.bound other old device found listed)
    have apart : entry.1 ≠ id.val := fun equal => different (Fin.ext (named.symm.trans equal))
    rw [bound_remove]
    exact List.mem_map.mpr ⟨entry, List.mem_filter.mpr ⟨bound, decide_eq_true apart⟩, named⟩

end Attached

/-- Without the driver nothing is bound and nothing is held. -/
structure Idle (core : Core World PseudoDevPrivateData) : Prop where
  bound : core.bound = []
  held : core.world.account.held = []
  strays : core.world.account.strays = 0

structure Sound (setup : Setup) (state : BusState) : Prop where
  distinct : state.registered.Nodup
  idle : state.loaded = false → Idle state.core
  attached : state.loaded = true → ∃ region, Attached setup region state.registered state.core

variable {state : BusState}

theorem Sound.start (setup : Setup) : Sound setup .start where
  distinct := List.nodup_nil
  idle _ := ⟨rfl, rfl, rfl⟩
  attached := nofun

theorem Sound.register (sound : Sound setup state) (id : Fin 10) :
    Sound setup (register setup state id) := by
  unfold PseudoPlatform.register
  split
  · rename_i admitted
    have fresh := admitted.2
    refine ⟨?_, fun unloaded => ?_, fun loaded => ?_⟩
    · have apart : ∀ other ∈ state.registered, ∀ new ∈ [id], other ≠ new := by
        intro other old new member same
        exact fresh (List.mem_singleton.mp member ▸ same ▸ old)
      exact List.nodup_append.mpr ⟨sound.distinct, List.nodup_singleton id, apart⟩
    · rw [if_neg (by simp [show state.loaded = false from unloaded])]
      exact sound.idle unloaded
    · obtain ⟨region, attached⟩ := sound.attached loaded
      rw [if_pos (show state.loaded = true from loaded)]
      exact ⟨region, attached.attach fresh⟩
  · exact sound

theorem Sound.unregister (sound : Sound setup state) (id : Fin 10) :
    Sound setup (unregister state id) where
  distinct := sound.distinct.erase id
  idle unloaded := by
    have idle := sound.idle unloaded
    have none : (serve pseudoPlatformDriver state.core (.remove id.val)).1 = state.core := by
      simp only [serve, idle.bound, List.lookup_nil]
    simpa only [PseudoPlatform.unregister, none] using idle
  attached loaded := by
    obtain ⟨region, attached⟩ := sound.attached loaded
    exact ⟨region, attached.detach sound.distinct id⟩

theorem Sound.load (sound : Sound setup state) (region : ReservedRegion) :
    Sound setup (load setup state region) := by
  unfold PseudoPlatform.load
  split
  · exact sound
  · rename_i unloaded
    have idle := sound.idle (Bool.eq_false_iff.mpr unloaded)
    refine ⟨sound.distinct, nofun, fun _ => ⟨region, ?_⟩⟩
    exact (Attached.start (running_start region idle.held idle.strays) rfl).attachAll sound.distinct

theorem Sound.unload (sound : Sound setup state) : Sound setup (unload state) := by
  unfold PseudoPlatform.unload
  split
  · rename_i loaded
    obtain ⟨region, attached⟩ := sound.attached loaded
    obtain ⟨held, strays⟩ := cleanup_releases attached.running
    exact ⟨sound.distinct, fun _ => ⟨bound_detach _ _, held, strays⟩, nofun⟩
  · exact sound

theorem Sound.step (sound : Sound setup state) (request : BusRequest) :
    Sound setup (busStep setup state request).1 := by
  cases request with
  | register id => exact sound.register id
  | unregister id => exact sound.unregister id
  | load region => exact sound.load region
  | unload => exact sound.unload

/-- No device of the type that the table lacks is registered while the driver is loaded. -/
def C1xApart (setup : Setup) (state : BusState) : Prop :=
  state.loaded = true → ∀ id ∈ state.registered, ∀ device, setup id = some device →
    device.type ≠ .pseudoDevC1x

theorem boundAsRegistered_iff (sound : Sound setup state) :
    BoundAsRegistered setup state ↔ C1xApart setup state := by
  apply Iff.intro
  · intro holds loaded id offered device found
    obtain ⟨region, attached⟩ := sound.attached loaded
    have bound := (holds.bound id device found).mpr ⟨offered, loaded⟩
    obtain ⟨_, owner, found', listed⟩ := attached.of_bound_id bound
    rw [found] at found'
    exact Option.some.inj found' ▸ listed
  · intro apart
    cases loaded : state.loaded with
    | false =>
        have none := (sound.idle loaded).bound
        exact ⟨fun id device _ => by simp [none, loaded], fun _ _ _ _ member => by simp [none] at member⟩
    | true =>
        obtain ⟨region, attached⟩ := sound.attached loaded
        refine ⟨fun id device found => ⟨fun member => ?_, fun offered => ?_⟩, ?_⟩
        · exact ⟨(attached.of_bound_id member).1, loaded⟩
        · exact attached.bound id offered.1 device found (apart loaded id offered.1 device found)
        · exact fun id device data found member => attached.numberedById found member

theorem keepsC1xApart_iff (apart : C1xApart setup state) (request : BusRequest) :
    KeepsC1xApart setup state request ↔ C1xApart setup (busStep setup state request).1 := by
  cases request with
  | register id =>
      simp only [busStep, PseudoPlatform.register]
      split
      · rename_i admitted
        apply Iff.intro
        · intro keeps loaded other offered
          rcases List.mem_append.mp offered with old | new
          · exact apart loaded other old
          · exact List.mem_singleton.mp new ▸ keeps loaded admitted.2
        · intro apart loaded _
          exact apart loaded id (by simp)
      · rename_i refused
        refine iff_of_true (fun _ fresh device found => ?_) apart
        exact absurd ⟨by simp [found], fresh⟩ refused
  | unregister id =>
      refine iff_of_true trivial fun loaded other offered => ?_
      exact apart loaded other (List.mem_of_mem_erase offered)
  | load region =>
      simp only [busStep, PseudoPlatform.load]
      split
      · rename_i loaded
        exact iff_of_true (fun unloaded => absurd loaded (by simp [unloaded])) apart
      · rename_i unloaded
        apply Iff.intro
        · intro keeps _
          exact keeps (Bool.eq_false_iff.mpr unloaded)
        · intro apart _
          exact apart rfl
  | unload =>
      refine iff_of_true trivial ?_
      simp only [busStep, PseudoPlatform.unload]
      split
      · exact nofun
      · exact apart

/-- In every state of a run the bound devices are the registered ones exactly
when no `pseudo-dev-C1x` is registered while the driver is loaded. -/
theorem run_binds_registered_iff (setup : Setup) (requests : List BusRequest) :
    (∀ seen, seen <+: requests →
        BoundAsRegistered setup (stateAfter (busStep setup) .start seen)) ↔
      Along (busStep setup) (KeepsC1xApart setup) .start requests := by
  have sound := Sound.start setup
  have apart : C1xApart setup .start := nofun
  refine always_iff_along (fun state => Sound setup state ∧ C1xApart setup state) ?_ ?_
    ⟨sound, apart⟩ ((boundAsRegistered_iff sound).mpr apart)
  · rintro state request ⟨sound, apart⟩ keeps
    exact ⟨sound.step request, (keepsC1xApart_iff apart request).mp keeps⟩
  · rintro state request ⟨sound, apart⟩
    exact (keepsC1xApart_iff apart request).trans (boundAsRegistered_iff (sound.step request)).symm

/-- The C1x device of the setup module. -/
theorem c1x_stays_unbound :
    ¬ ∀ (setup : Setup) (requests : List BusRequest), ∀ seen, seen <+: requests →
      BoundAsRegistered setup (stateAfter (busStep setup) .start seen) := by
  intro claimed
  have holds := claimed platformPseudoDevs [.register 2, .load dynamicRegion]
    [.register 2, .load dynamicRegion] (List.prefix_refl _)
  exact absurd ((holds.bound 2 _ rfl).mpr ⟨by decide, rfl⟩) (by decide)

end BbbLkm.PseudoPlatform
