import BbbLkm.PseudoDt.Outcome

namespace BbbLkm.PseudoDt

open BbbLkm.Machine BbbLkm.Kernel

def pseudoOpen : Int := 0

def pseudoRelease : Int := 0

/-- The bound devices and the open files, each with the block that the cdev it
refers to is part of. -/
structure Session where
  core : Core World PseudoDevPrivateData
  files : List (Nat × Nat)

inductive SessionRequest (Calls : Type) where
  | driver (request : Request PlatformDevice Calls)
  /-- The device file of a bound device is opened as `fd`. -/
  | pseudoOpen (fd pdev : Nat)
  | pseudoRelease (fd : Nat)

inductive SessionAnswer where
  | driver (answer : Answer)
  | opened (ret : Int)
  | released (ret : Int)
  /-- There is no such device or file, or the descriptor is in use. -/
  | refused

namespace Session

variable {Calls : Type} {driver : Driver World PlatformDevice Calls PseudoDevPrivateData}
  {session : Session} {pdev : Nat}

def start (world : World) : Session where
  core := .start world
  files := []

def withCore (session : Session) (core : Core World PseudoDevPrivateData) : Session :=
  { session with core }

@[simp] theorem withCore_core (session : Session) : session.withCore session.core = session := rfl

def openFile (session : Session) (fd : Nat) (data : PseudoDevPrivateData) : Session :=
  { session with files := (fd, data.address) :: session.files }

def step (driver : Driver World PlatformDevice Calls PseudoDevPrivateData) (session : Session) :
    SessionRequest Calls → Session × SessionAnswer
  | .driver request =>
      let served := serve driver session.core request
      (session.withCore served.1, .driver served.2)
  | .pseudoOpen fd pdev =>
      match session.core.bound.lookup pdev with
      | none => (session, .refused)
      | some data =>
          -- only a registered cdev is found; `cdev_del` prevents new opens and nothing else
          if fd ∉ session.files.map Prod.fst ∧
              data.address ∈ session.core.world.cdevs.map Cdev.block then
            (session.openFile fd data, .opened PseudoDt.pseudoOpen)
          else (session, .refused)
  | .pseudoRelease fd =>
      if fd ∈ session.files.map Prod.fst then
        ({ session with files := session.files.filter fun file => file.1 ≠ fd },
          .released PseudoDt.pseudoRelease)
      else (session, .refused)

/-- No file is open whose cdev has been freed. -/
def Safe (session : Session) : Prop := ∀ file ∈ session.files, session.core.world.devm.Live file.2

/-- A bound device that is removed has no file open. -/
def RemovesClosed (session : Session) : SessionRequest Calls → Prop
  | .driver (.remove pdev) => ∀ data, (pdev, data) ∈ session.core.bound →
      ∀ file ∈ session.files, file.2 ≠ data.address
  | _ => True

/-- Every bound device owns its private data, and every open file is open on a
bound device. -/
structure Attached (session : Session) : Prop where
  owned : ∀ entry ∈ session.core.bound, (entry.1, entry.2.address) ∈ session.core.world.devm.live
  files : ∀ file ∈ session.files, ∃ entry ∈ session.core.bound, entry.2.address = file.2

theorem Attached.start (base : Int) : Attached (.start (loaded base)) where
  owned := by simp [Session.start, Core.start]
  files := by simp [Session.start]

theorem Attached.safe (attached : Attached session) : session.Safe := by
  intro file opened
  obtain ⟨entry, bound, same⟩ := attached.files file opened
  exact ⟨entry.1, same ▸ attached.owned entry bound⟩

theorem Attached.files_subset (attached : Attached session) {files : List (Nat × Nat)}
    (fewer : ∀ file ∈ files, file ∈ session.files) : Attached { session with files } where
  owned := attached.owned
  files file opened := attached.files file (fewer file opened)

theorem Attached.openFile (attached : Attached session) (fd : Nat) {data : PseudoDevPrivateData}
    (bound : (pdev, data) ∈ session.core.bound) : Attached (session.openFile fd data) where
  owned := attached.owned
  files file opened := by
    rcases List.mem_cons.mp opened with rfl | older
    · exact ⟨_, bound, rfl⟩
    · exact attached.files file older

end Session

section Memory

variable {Calls : Type} {pdev : Nat} {device : PlatformDevice} {calls : ProbeCalls} {world : World}

/-- A probe only adds to the memory of its own device, and one that succeeds
has put the private data there. -/
def Allocating (pdev : Nat) (world : World) (result : Except Refusal PseudoDevPrivateData × World) :
    Prop :=
  world.devm.Grows pdev result.2.devm ∧
    ∀ data, result.1 = .ok data → (pdev, data.address) ∈ result.2.devm.live

theorem probeRegister_devm (calls : ProbeCalls) (data : PseudoDevPrivateData) (world : World) :
    (probeRegister calls data world).2.devm = world.devm ∧
      ∀ registered, (probeRegister calls data world).1 = .ok registered →
        registered.address = data.address := by
  have outcome := probeRegister_outcome calls data world
  generalize probeRegister calls data world = result at outcome ⊢
  cases outcome with
  | refused rc cdevs added => exact ⟨rfl, fun _ succeeded => by cases succeeded⟩
  | registered cdevs added nodes =>
      refine ⟨rfl, fun registered same => ?_⟩
      obtain rfl := Except.ok.inj same
      rfl

theorem probeDevice_allocating :
    Allocating pdev world (probeDevice pdev device calls world) := by
  have first : PlatformDataOutcome pdev device calls world.devm _ := probePlatformData_outcome
  rw [probeDevice]
  generalize probePlatformData pdev device calls world.devm = found at first
  cases first with
  | refused refusal devm _ grown => exact ⟨grown, fun _ failed => by cases failed⟩
  | found pdata driverData devm _ grown =>
  have second : AllocateOutcome pdev calls pdata driverData devm _ := probeAllocate_outcome
  simp only
  generalize probeAllocate pdev calls pdata driverData devm = obtained at second
  cases second with
  | refused refusal after _ grown' =>
      exact ⟨grown.trans grown', fun _ failed => by cases failed⟩
  | allocated data after _ grown' owned _ =>
      obtain ⟨devm, address⟩ := probeRegister_devm calls data { world with devm := after }
      refine ⟨by rw [devm]; exact grown.trans grown', fun registered succeeded => ?_⟩
      rw [devm, address registered succeeded]
      exact owned

end Memory

section Driver

variable {Calls : Type} {driver : Driver World PlatformDevice Calls PseudoDevPrivateData}
  {session : Session}

/-- A driver whose private data is managed memory of its device. -/
structure ManagesData (driver : Driver World PlatformDevice Calls PseudoDevPrivateData) : Prop where
  probe : ∀ pdev device calls world, Allocating pdev world (driver.probe pdev device calls world)
  remove : ∀ pdev data world, (driver.remove pdev data world).devm = world.devm
  reclaim : driver.reclaim = reclaim

namespace Session

theorem attached_probe (manages : ManagesData driver) (attached : Attached session) {pdev : Nat}
    {device : PlatformDevice} {calls : Calls} (unbound : pdev ∉ session.core.bound.map Prod.fst) :
    Attached (session.withCore (serve driver session.core (.probe pdev device calls)).1) := by
  have grown := manages.probe pdev device calls session.core.world
  rcases probed : driver.probe pdev device calls session.core.world with ⟨refusal | data, world⟩
  · rw [probed] at grown
    cases refusal with
    | errno rc =>
        rw [serve_probe_errno unbound probed, manages.reclaim]
        refine ⟨fun entry bound => Managed.mem_reclaim.mpr ⟨?_, fun same => unbound ?_⟩, attached.files⟩
        · exact grown.1.keeps _ (attached.owned entry bound)
        · exact List.mem_map.mpr ⟨entry, bound, same⟩
    | oops =>
        rw [serve_probe_oops unbound probed]
        exact ⟨fun entry bound => grown.1.keeps _ (attached.owned entry bound), attached.files⟩
  · rw [probed] at grown
    rw [serve_probe_ok unbound probed]
    constructor
    · intro entry bound
      rcases List.mem_cons.mp bound with rfl | older
      · exact grown.2 data rfl
      · exact grown.1.keeps _ (attached.owned entry older)
    · intro file opened
      obtain ⟨entry, older, same⟩ := attached.files file opened
      exact ⟨entry, List.mem_cons_of_mem _ older, same⟩

theorem attached_remove (manages : ManagesData driver) (attached : Attached session) {pdev : Nat}
    {data : PseudoDevPrivateData} (bound : (pdev, data) ∈ session.core.bound)
    (closed : ∀ file ∈ session.files, file.2 ≠ data.address) :
    Attached (session.withCore (serve driver session.core (.remove pdev)).1) := by
  rw [serve_remove bound, manages.reclaim]
  constructor
  · intro entry left
    obtain ⟨older, different⟩ := List.mem_filter.mp left
    refine Managed.mem_reclaim.mpr ⟨?_, by simpa using different⟩
    rw [manages.remove]
    exact attached.owned entry older
  · intro file opened
    obtain ⟨entry, older, same⟩ := attached.files file opened
    refine ⟨entry, List.mem_filter.mpr ⟨older, ?_⟩, same⟩
    have different : entry.1 ≠ pdev := by
      intro one
      subst one
      exact closed file opened (same ▸ congrArg _ (Core.data_unique older bound))
    simpa using different

/-- The removal frees the private data under every file that is open on the device. -/
theorem not_safe_of_open (manages : ManagesData driver) (attached : Attached session) {pdev : Nat}
    {data : PseudoDevPrivateData} (bound : (pdev, data) ∈ session.core.bound) {file : Nat × Nat}
    (opened : file ∈ session.files) (same : file.2 = data.address) :
    ¬ (session.withCore (serve driver session.core (.remove pdev)).1).Safe := by
  intro safe
  rw [serve_remove bound, manages.reclaim] at safe
  obtain ⟨owner, live⟩ := safe file opened
  obtain ⟨live, different⟩ := Managed.mem_reclaim.mp live
  rw [manages.remove, same] at live
  exact different (Managed.owner_unique live (attached.owned _ bound))

theorem step_attached (manages : ManagesData driver) (request : SessionRequest Calls)
    (attached : Attached session) (closed : session.RemovesClosed request) :
    Attached (step driver session request).1 := by
  cases request with
  | driver request =>
      cases request with
      | probe pdev device calls =>
          by_cases unbound : pdev ∉ session.core.bound.map Prod.fst
          · exact attached_probe manages attached unbound
          · simpa only [step, serve, dif_neg unbound, withCore_core] using attached
      | remove pdev =>
          cases found : session.core.bound.lookup pdev with
          | none => simpa only [step, serve, found, withCore_core] using attached
          | some data =>
              have bound := mem_of_lookup found
              exact attached_remove manages attached bound (closed data bound)
  | pseudoOpen fd pdev =>
      simp only [step]
      split
      · exact attached
      · rename_i data found
        split
        · exact attached.openFile fd (mem_of_lookup found)
        · exact attached
  | pseudoRelease fd =>
      simp only [step]
      split
      · exact attached.files_subset fun file kept => (List.mem_filter.mp kept).1
      · exact attached

theorem removesClosed_iff (manages : ManagesData driver) (request : SessionRequest Calls)
    (attached : Attached session) :
    session.RemovesClosed request ↔ (step driver session request).1.Safe := by
  apply Iff.intro
  · intro closed
    exact (step_attached manages request attached closed).safe
  · intro safe
    cases request with
    | pseudoOpen fd pdev => trivial
    | pseudoRelease fd => trivial
    | driver request =>
        cases request with
        | probe pdev device calls => trivial
        | remove pdev =>
            intro data bound file opened same
            exact not_safe_of_open manages attached bound opened same safe

theorem run_safe_iff (manages : ManagesData driver) (base : Int)
    (requests : List (SessionRequest Calls)) :
    (∀ seen, seen <+: requests → (stateAfter (step driver) (.start (loaded base)) seen).Safe) ↔
      Along (step driver) RemovesClosed (.start (loaded base)) requests :=
  always_iff_along Attached
    (fun _ request attached closed => step_attached manages request attached closed)
    (fun _ request attached => removesClosed_iff manages request attached)
    (.start base) (Attached.start base).safe

end Session

end Driver

theorem managesData : ManagesData pseudoPlatformDriver where
  probe _ _ _ _ := probeDevice_allocating
  remove _ _ _ := rfl
  reclaim := rfl

end BbbLkm.PseudoDt
