import Mathlib.Data.List.Basic
import BbbLkm.Kernel.DeviceTree

namespace BbbLkm.Kernel

/-- The array that designated initialisers build.  One without a designator
initialises the entry after the last one, and a later one replaces an earlier
one for the same entry. -/
def designated {Entry : Type*} (empty : Entry) (next : Nat) (built : List Entry) :
    List (Option Nat × Entry) → List Entry
  | [] => built
  | (designator, entry) :: rest =>
      let index := designator.getD next
      let widened := built ++ List.replicate (index + 1 - built.length) empty
      designated empty (index + 1) (widened.set index entry) rest

structure PlatformDeviceId where
  name : String
  driverData : Int
deriving DecidableEq

def PlatformDeviceId.empty : PlatformDeviceId where
  name := ""
  driverData := 0

/-- The first entry of the name, up to the first empty entry. -/
def platformMatchId : List PlatformDeviceId → String → Option PlatformDeviceId
  | [], _ => none
  | id :: rest, name =>
      if id.name = "" then none
      else if id.name = name then some id
      else platformMatchId rest name

theorem platformMatchId_mem {table : List PlatformDeviceId} {name : String} {id : PlatformDeviceId}
    (found : platformMatchId table name = some id) : id ∈ table ∧ id.name = name := by
  induction table with
  | nil => cases found
  | cons first rest ih =>
      rw [platformMatchId] at found
      split at found
      · cases found
      · split at found
        · rename_i same
          cases found
          exact ⟨List.mem_cons_self, same⟩
        · obtain ⟨member, same⟩ := ih found
          exact ⟨List.mem_cons_of_mem first member, same⟩

/-- What the bus compares a device with.  `idTable` is null in a driver that
registers none. -/
structure MatchRules (Data : Type*) where
  name : String
  ofMatchTable : List (String × Data)
  idTable : Option (List PlatformDeviceId)

/-- What the bus compares of a device; one without a node has no compatible
strings. -/
structure BusDevice where
  name : String
  driverOverride : Option String
  compatible : List String

/-- `platform_match`: whether the bus hands the device to the driver, and then
the `id_entry` that the match leaves. -/
def platformMatch {Data : Type*} (rules : MatchRules Data) (device : BusDevice) :
    Option (Option PlatformDeviceId) :=
  match device.driverOverride with
  | some wanted => if wanted = rules.name then some none else none
  | none =>
      if (ofMatch rules.ofMatchTable device.compatible).isSome then some none
      else
        match rules.idTable with
        | some table => (platformMatchId table device.name).map some
        | none => if device.name = rules.name then some none else none

/-- Without an id table no match leaves an `id_entry`. -/
theorem platformMatch_idEntry {Data : Type*} {rules : MatchRules Data} {device : BusDevice}
    {idEntry : Option PlatformDeviceId} (unlisted : rules.idTable = none)
    (matched : platformMatch rules device = some idEntry) : idEntry = none := by
  simp only [platformMatch, unlisted] at matched
  split at matched
  · split at matched
    · exact (Option.some.inj matched).symm
    · cases matched
  · split at matched
    · exact (Option.some.inj matched).symm
    · split at matched
      · exact (Option.some.inj matched).symm
      · cases matched

end BbbLkm.Kernel
