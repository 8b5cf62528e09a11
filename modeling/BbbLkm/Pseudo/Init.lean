import BbbLkm.Kernel.Errno
import BbbLkm.Machine.Ladder
import BbbLkm.Machine.Run

namespace BbbLkm.Pseudo

open BbbLkm.Kernel BbbLkm.Machine

inductive Registration where
  | region (deviceNumber : UInt32)
  | pseudoCdev (deviceNumber : UInt32)
  | pseudoClass
  | pseudoDevice (deviceNumber : UInt32)
deriving DecidableEq

structure InitCalls where
  allocChrdevRegion : Except Errno UInt32
  cdevAdd : Except Errno Unit
  classCreate : Except Errno Unit
  deviceCreate : Except Errno Unit

section Labels

variable (deviceNumber : UInt32)

/-- The label `unreg_cdev`; the ones before it fall through to it. -/
def unregCdev : List (Move Registration) := [.release (.region deviceNumber)]

def cdevDel : List (Move Registration) :=
  .release (.pseudoCdev deviceNumber) :: unregCdev deviceNumber

def classDel : List (Move Registration) := .release .pseudoClass :: cdevDel deviceNumber

end Labels

/-- `pseudo_init`: the value returned, `device_number`, and what is registered
and taken back on the way. -/
def pseudoInit (calls : InitCalls) : Int × UInt32 × List (Move Registration) :=
  match calls.allocChrdevRegion with
  | .error rc => (rc.val, 0, [])
  | .ok deviceNumber =>
      let moves := [.acquire (.region deviceNumber)]
      match calls.cdevAdd with
      | .error rc => (rc.val, deviceNumber, moves ++ unregCdev deviceNumber)
      | .ok _ =>
          let moves := moves ++ [.acquire (.pseudoCdev deviceNumber)]
          match calls.classCreate with
          | .error rc => (rc.val, deviceNumber, moves ++ cdevDel deviceNumber)
          | .ok _ =>
              let moves := moves ++ [.acquire .pseudoClass]
              match calls.deviceCreate with
              | .error rc => (rc.val, deviceNumber, moves ++ classDel deviceNumber)
              | .ok _ => (0, deviceNumber, moves ++ [.acquire (.pseudoDevice deviceNumber)])

def pseudoExit (deviceNumber : UInt32) : List (Move Registration) :=
  [.release (.pseudoDevice deviceNumber), .release .pseudoClass, .release (.pseudoCdev deviceNumber),
    .release (.region deviceNumber)]

/-- The `device_number` of the module while it is loaded, and all that it has
registered and taken back so far. -/
structure Module where
  loaded : Option UInt32
  moves : List (Move Registration)

inductive ModuleRequest where
  | insmod (calls : InitCalls)
  | rmmod

inductive ModuleAnswer where
  | inited (ret : Int)
  | exited
  /-- The module is loaded already, or is not loaded. -/
  | refused

def moduleStep (module : Module) : ModuleRequest → Module × ModuleAnswer
  | .insmod calls =>
      match module.loaded with
      | some _ => (module, .refused)
      | none =>
          let inited := pseudoInit calls
          ({ loaded := if inited.1 = 0 then some inited.2.1 else none, moves := module.moves ++ inited.2.2 },
            .inited inited.1)
  | .rmmod =>
      match module.loaded with
      | none => (module, .refused)
      | some deviceNumber =>
          ({ loaded := none, moves := module.moves ++ pseudoExit deviceNumber }, .exited)

def Module.unused : Module where
  loaded := none
  moves := []

/-- What a loaded module holds, newest first. -/
def holdings : Option UInt32 → List Registration
  | none => []
  | some deviceNumber =>
      [.pseudoDevice deviceNumber, .pseudoClass, .pseudoCdev deviceNumber, .region deviceNumber]

section Ladder

variable (calls : InitCalls) (deviceNumber : UInt32)

/-- The registrations that come after the region. -/
def stages : List (Stage Registration Errno) :=
  [⟨.pseudoCdev deviceNumber, calls.cdevAdd⟩, ⟨.pseudoClass, calls.classCreate⟩,
    ⟨.pseudoDevice deviceNumber, calls.deviceCreate⟩]

/-- The error of the first call that fails, in the order of the calls. -/
def firstError : Option Errno :=
  match calls.allocChrdevRegion with
  | .error rc => some rc
  | .ok deviceNumber => firstFailure (stages calls deviceNumber)

def returned : Except Errno Unit → Int
  | .ok _ => 0
  | .error rc => rc.val

variable {calls} {deviceNumber}

theorem pseudoInit_climbs (reserved : calls.allocChrdevRegion = .ok deviceNumber) :
    pseudoInit calls =
      (returned (climb [.region deviceNumber] (stages calls deviceNumber)).1, deviceNumber,
        .acquire (.region deviceNumber) ::
          (climb [.region deviceNumber] (stages calls deviceNumber)).2) := by
  simp only [pseudoInit, reserved, stages, climb]
  cases calls.cdevAdd with
  | error rc => rfl
  | ok _ =>
      cases calls.classCreate with
      | error rc => rfl
      | ok _ =>
          cases calls.deviceCreate with
          | error rc => rfl
          | ok _ => rfl

/-- A load returns the first error and holds nothing then, and without one
returns 0 and holds all four. -/
theorem pseudoInit_nested (calls : InitCalls) :
    (pseudoInit calls).1 = ((firstError calls).map Subtype.val).getD 0 ∧
      nested [] (pseudoInit calls).2.2 =
        some (holdings (if (pseudoInit calls).1 = 0 then some (pseudoInit calls).2.1 else none)) := by
  cases reserved : calls.allocChrdevRegion with
  | error rc =>
      have negative := rc.property
      have failed : rc.val ≠ 0 := by omega
      simp only [pseudoInit, firstError, reserved, if_neg failed]
      exact ⟨rfl, rfl⟩
  | ok deviceNumber =>
      have climbed := @climb_failure _ _ [.region deviceNumber] (stages calls deviceNumber)
      have held := @nested_climb _ _ [.region deviceNumber] [] (stages calls deviceNumber) _
      rw [List.append_nil] at held
      rw [pseudoInit_climbs reserved]
      simp only [firstError, reserved, nested, held, climbed]
      cases firstFailure (stages calls deviceNumber) with
      | some rc =>
          have negative := rc.property
          have failed : rc.val ≠ 0 := by omega
          simp only [returned, failed, if_false]
          exact ⟨rfl, rfl⟩
      | none => exact ⟨rfl, rfl⟩

theorem pseudoExit_nested (deviceNumber : UInt32) :
    nested (holdings (some deviceNumber)) (pseudoExit deviceNumber) = some [] := by
  simp [holdings, pseudoExit, nested]

end Ladder

/-- Every release so far was of the newest registration, and what is held is
what the module needs while it is loaded. -/
def Stacked (module : Module) : Prop := nested [] module.moves = some (holdings module.loaded)

theorem moduleStep_stacked (module : Module) (request : ModuleRequest) (stacked : Stacked module) :
    Stacked (moduleStep module request).1 := by
  unfold Stacked at stacked ⊢
  cases request with
  | insmod calls =>
      cases loaded : module.loaded with
      | some deviceNumber => simpa only [moduleStep, loaded] using stacked
      | none =>
          rw [loaded] at stacked
          simp only [moduleStep, loaded, nested_append, stacked, holdings, Option.bind_some]
          exact (pseudoInit_nested calls).2
  | rmmod =>
      cases loaded : module.loaded with
      | none => simpa only [moduleStep, loaded] using stacked
      | some deviceNumber =>
          rw [loaded] at stacked
          simp only [moduleStep, loaded, nested_append, stacked, Option.bind_some]
          exact pseudoExit_nested deviceNumber

/-- Over every run of loads and unloads, whichever calls fail in them, only the
newest registration is ever released, a module that is not loaded holds nothing
and one that is loaded holds all four.  A load then returns the error of the
first call that fails, and 0 if none does. -/
theorem run_releases_newest_first (requests : List ModuleRequest) :
    Stacked (stateAfter moduleStep .unused requests) ∧
      ∀ calls, (stateAfter moduleStep .unused requests).loaded = none →
        (moduleStep (stateAfter moduleStep .unused requests) (.insmod calls)).2 =
          .inited (((firstError calls).map Subtype.val).getD 0) := by
  refine ⟨invariant_run moduleStep_stacked rfl, fun calls unloaded => ?_⟩
  simp only [moduleStep, unloaded, (pseudoInit_nested calls).1]

/-- Major number 240, with a failing `device_create` if one is named. -/
def loadAt240 (deviceCreate : Except Errno Unit) : InitCalls where
  allocChrdevRegion := .ok 0x0F000000
  cdevAdd := .ok ()
  classCreate := .ok ()
  deviceCreate := deviceCreate

theorem failing_load_releases_newest_first :
    Stacked (stateAfter moduleStep .unused
        [.insmod (loadAt240 (.ok ())), .rmmod, .insmod (loadAt240 (.error .noMemory))]) ∧
      (moduleStep (stateAfter moduleStep .unused
          [.insmod (loadAt240 (.ok ())), .rmmod, .insmod (loadAt240 (.error .noMemory))])
        (.insmod (loadAt240 (.error .alreadyExists)))).2 = .inited (-EEXIST) :=
  ⟨(run_releases_newest_first _).1,
    (run_releases_newest_first [.insmod (loadAt240 (.ok ())), .rmmod,
      .insmod (loadAt240 (.error .noMemory))]).2 (loadAt240 (.error .alreadyExists)) rfl⟩

end BbbLkm.Pseudo
