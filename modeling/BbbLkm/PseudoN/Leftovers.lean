import BbbLkm.Machine.Run
import BbbLkm.PseudoN.Init
import Mathlib.Data.List.Induction

namespace BbbLkm.PseudoN

open BbbLkm.Machine BbbLkm.Kernel Registration

structure Module where
  /-- The number in `pseudo_drv_data`, and what the module has registered. -/
  loaded : Option (Nat × Account Registration)
  /-- What is registered without a module, newest first. -/
  left : List Registration

inductive ModuleRequest where
  | insmod (calls : InitCalls)
  | rmmod

inductive ModuleAnswer where
  | inited (ret : Int)
  | exited
  /-- The module is loaded already, or is not loaded. -/
  | refused

def moduleStep (noOfDevices : Nat) (module : Module) : ModuleRequest → Module × ModuleAnswer
  | .insmod calls =>
      match module.loaded with
      | some _ => (module, .refused)
      | none =>
          let inited := pseudoInit noOfDevices calls .empty
          if inited.1 = 0 then ({ module with loaded := some inited.2 }, .inited inited.1)
          else ({ module with left := inited.2.2.held ++ module.left }, .inited inited.1)
  | .rmmod =>
      match module.loaded with
      | none => (module, .refused)
      | some (base, account) =>
          ({ loaded := none, left := (pseudoExit noOfDevices base account).held ++ module.left }, .exited)

def Module.unused : Module where
  loaded := none
  left := []

/-- The load fails at the device, with the ones before it registered. -/
structure FailsAt (noOfDevices : Nat) (calls : InitCalls) (base index : Nat) : Prop where
  region : calls.allocChrdevRegion = .ok base
  cls : calls.classCreate = .ok ()
  within : index < noOfDevices
  earlier : ∀ other < index, Succeeds calls other
  fails : ¬ Succeeds calls index

/-- The nodes of the devices before it but for the second, and its own cdev. -/
def Leaves (calls : InitCalls) (base index : Nat) (registration : Registration) : Prop :=
  (∃ other < index, other ≠ 1 ∧ registration = .node (base + other)) ∨
    calls.cdevAdd index = .ok () ∧ registration = .cdev index (base + index)

def LeftBehind (noOfDevices : Nat) (calls : InitCalls) (registration : Registration) : Prop :=
  ∃ base index, FailsAt noOfDevices calls base index ∧ Leaves calls base index registration

variable {noOfDevices base index : Nat} {calls : InitCalls} {registration : Registration} {module : Module}

theorem FailsAt.unique {base' index' : Nat} (first : FailsAt noOfDevices calls base index)
    (second : FailsAt noOfDevices calls base' index') : base = base' ∧ index = index' := by
  constructor
  · exact Except.ok.inj (first.region.symm.trans second.region)
  · rcases Nat.lt_trichotomy index index' with less | same | more
    · exact absurd (second.earlier index less) first.fails
    · exact same
    · exact absurd (first.earlier index' more) second.fails

/-- How a load goes, with what is registered after it. -/
inductive InitOutcome (noOfDevices : Nat) (calls : InitCalls) : Int × Nat × Account Registration → Prop where
  | refused (rc : Errno) (base : Nat) (account : Account Registration) :
      (∀ base index, ¬ FailsAt noOfDevices calls base index) → account.held = [] →
      InitOutcome noOfDevices calls (rc.val, base, account)
  | cleaned (rc : Errno) (base index : Nat) (account : Account Registration) :
      FailsAt noOfDevices calls base index →
      (∀ registration, registration ∈ account.held ↔ Leaves calls base index registration) →
      InitOutcome noOfDevices calls (rc.val, base, account)
  | loaded (base : Nat) (account : Account Registration) :
      (∀ base index, ¬ FailsAt noOfDevices calls base index) →
      (pseudoExit noOfDevices base account).held = [] → (pseudoExit noOfDevices base account).strays = 0 →
      InitOutcome noOfDevices calls (0, base, account)

/-- The cleanup takes back the cdevs before the device, and of the nodes only the
second. -/
theorem mem_cleaned {after : Account Registration}
    (held : ∀ registration, registration ∈ after.held ↔
      calls.cdevAdd index = .ok () ∧ registration = .cdev index (base + index) ∨
        registration ∈ (beforeDevices noOfDevices base).held ∨ Built base 0 index registration) :
    registration ∈ (((cleanupCdev base index after).release isClass).release (isRegion base noOfDevices)).held ↔
      Leaves calls base index registration := by
  rw [Account.mem_release, Account.mem_release, mem_cleanupCdev, held, mem_beforeDevices, Leaves]
  apply Iff.intro
  · rintro ⟨⟨⟨own | (rfl | rfl) | ⟨other, _, below, rfl | rfl⟩, second, cdevs⟩, notClass⟩, notRegion⟩
    · exact Or.inr own
    · cases notClass
    · simp [isRegion] at notRegion
    · simpa [isCdev] using cdevs other below
    · refine Or.inl ⟨other, below, fun same => ?_, rfl⟩
      subst same
      simp [isNode] at second
      omega
  · rintro (⟨other, below, apart, rfl⟩ | own)
    · refine ⟨⟨⟨Or.inr (Or.inr ⟨other, Nat.zero_le _, below, Or.inr rfl⟩), fun _ => ?_, fun _ _ => rfl⟩, rfl⟩, rfl⟩
      simpa [isNode] using apart
    · obtain ⟨added, rfl⟩ := own
      refine ⟨⟨⟨Or.inl ⟨added, rfl⟩, fun _ => rfl, fun lower less => ?_⟩, rfl⟩, rfl⟩
      simpa [isCdev] using Nat.ne_of_gt less

theorem pseudoInit_outcome (noOfDevices : Nat) (calls : InitCalls) :
    InitOutcome noOfDevices calls (pseudoInit noOfDevices calls .empty) := by
  cases region : calls.allocChrdevRegion with
  | error rc =>
      simp only [pseudoInit, region]
      exact .refused rc _ _ (fun _ _ fails => by cases region.symm.trans fails.region) rfl
  | ok base =>
  cases cls : calls.classCreate with
  | error rc =>
      simp only [pseudoInit, region, cls]
      refine .refused rc _ _ (fun _ _ fails => by cases cls.symm.trans fails.cls) ?_
      simp [isRegion]
  | ok _ =>
  have outcome := createDevices_outcome calls base noOfDevices 0 (beforeDevices noOfDevices base)
  rw [loaded_eq region cls]
  generalize left : createDevices calls base noOfDevices 0 (beforeDevices noOfDevices base) = result at outcome
  rw [Nat.zero_add] at outcome
  cases outcome with
  | finished succeeded held =>
      have every : ∀ index < noOfDevices, Succeeds calls index := fun index bound =>
        succeeded index (Nat.zero_le _) bound
      have silent : firstError noOfDevices calls = none := by
        simp only [firstError, region, cls]
        exact List.findSome?_eq_none_iff.mpr fun index member =>
          (every index (List.mem_range.mp member)).deviceError_eq
      obtain ⟨_, _, emptied, _, strays⟩ := (contract_of_success region cls every).2 silent
      rw [loaded_eq region cls, left] at emptied strays
      exact .loaded base _ (fun _ _ fails => fails.fails (every _ fails.within)) emptied strays
  | @cdevAddFailed after rc index _ upper succeeded failed held =>
      have fails : FailsAt noOfDevices calls base index :=
        ⟨region, cls, upper, fun other => succeeded other (Nat.zero_le _), fun succeeds =>
          by cases failed.symm.trans succeeds.1⟩
      refine .cleaned rc base index _ fails fun registration => mem_cleaned fun registration => ?_
      rw [held]
      simp [failed]
  | @deviceCreateFailed after rc index _ upper succeeded added failed held =>
      have fails : FailsAt noOfDevices calls base index :=
        ⟨region, cls, upper, fun other => succeeded other (Nat.zero_le _), fun succeeds =>
          by cases failed.symm.trans succeeds.2⟩
      refine .cleaned rc base index _ fails fun registration => mem_cleaned fun registration => ?_
      rw [held]
      simp [added]

/-- Unloading the module, if it is loaded, would leave nothing and release
nothing but what the module has registered. -/
def Tidy (noOfDevices : Nat) (module : Module) : Prop :=
  ∀ base account, module.loaded = some (base, account) →
    (pseudoExit noOfDevices base account).held = [] ∧ (pseudoExit noOfDevices base account).strays = 0

theorem LeftBehind.iff_leaves (fails : FailsAt noOfDevices calls base index) :
    LeftBehind noOfDevices calls registration ↔ Leaves calls base index registration := by
  apply Iff.intro
  · rintro ⟨base', index', fails', leaves⟩
    obtain ⟨rfl, rfl⟩ := fails.unique fails'
    exact leaves
  · exact fun leaves => ⟨base, index, fails, leaves⟩

theorem not_leftBehind (none : ∀ base index, ¬ FailsAt noOfDevices calls base index) :
    ¬ LeftBehind noOfDevices calls registration := by
  rintro ⟨base, index, fails, _⟩
  exact none base index fails

theorem Tidy.insmod (unloaded : module.loaded = none) (calls : InitCalls) :
    Tidy noOfDevices (moduleStep noOfDevices module (.insmod calls)).1 ∧
      ∀ registration, registration ∈ (moduleStep noOfDevices module (.insmod calls)).1.left ↔
        registration ∈ module.left ∨ LeftBehind noOfDevices calls registration := by
  have outcome := pseudoInit_outcome noOfDevices calls
  simp only [moduleStep, unloaded]
  generalize pseudoInit noOfDevices calls .empty = result at outcome
  cases outcome with
  | refused rc base account none empty =>
      have failed : rc.val ≠ 0 := Int.ne_of_lt rc.property
      simp only [if_neg failed, empty, List.nil_append]
      constructor
      · rintro _ _ ⟨⟩
      · exact fun registration => (or_iff_left (not_leftBehind none)).symm
  | cleaned rc base index account fails held =>
      have failed : rc.val ≠ 0 := Int.ne_of_lt rc.property
      simp only [if_neg failed, List.mem_append, held, LeftBehind.iff_leaves fails]
      constructor
      · rintro _ _ ⟨⟩
      · exact fun registration => or_comm
  | loaded base account none empty strays =>
      simp only [if_true]
      constructor
      · rintro _ _ ⟨⟩
        exact ⟨empty, strays⟩
      · exact fun registration => (or_iff_left (not_leftBehind none)).symm

theorem Tidy.rmmod (tidy : Tidy noOfDevices module) :
    Tidy noOfDevices (moduleStep noOfDevices module .rmmod).1 ∧
      (moduleStep noOfDevices module .rmmod).1.left = module.left := by
  cases loaded : module.loaded with
  | none =>
      rw [moduleStep, loaded]
      exact ⟨tidy, rfl⟩
  | some running =>
      obtain ⟨base, account⟩ := running
      rw [moduleStep, loaded]
      constructor
      · rintro _ _ ⟨⟩
      · exact congrArg (· ++ module.left) (tidy base account loaded).1

theorem Tidy.step (tidy : Tidy noOfDevices module) (request : ModuleRequest) :
    Tidy noOfDevices (moduleStep noOfDevices module request).1 ∧
      ∀ registration, registration ∈ (moduleStep noOfDevices module request).1.left ↔
        registration ∈ module.left ∨
          ∃ calls, request = .insmod calls ∧ module.loaded = none ∧ LeftBehind noOfDevices calls registration := by
  cases request with
  | rmmod =>
      obtain ⟨kept, same⟩ := tidy.rmmod
      exact ⟨kept, fun registration => by simp [same]⟩
  | insmod calls =>
      cases loaded : module.loaded with
      | some running =>
          simp only [moduleStep, loaded]
          exact ⟨tidy, fun registration => by simp⟩
      | none =>
          obtain ⟨kept, left⟩ := @Tidy.insmod noOfDevices module loaded calls
          exact ⟨kept, fun registration => by simp [left]⟩

/-- After every run of loads and unloads of any number of devices, what is
registered without a module is exactly what the failed loads have left behind. -/
theorem run_leaves_exactly (noOfDevices : Nat) (requests : List ModuleRequest) :
    Tidy noOfDevices (stateAfter (moduleStep noOfDevices) .unused requests) ∧
      ∀ registration, registration ∈ (stateAfter (moduleStep noOfDevices) .unused requests).left ↔
        ∃ before calls, before ++ [.insmod calls] <+: requests ∧
          (stateAfter (moduleStep noOfDevices) .unused before).loaded = none ∧
            LeftBehind noOfDevices calls registration := by
  induction requests using List.reverseRecOn with
  | nil =>
      constructor
      · rintro _ _ ⟨⟩
      · intro registration
        simp [Module.unused]
  | append_singleton requests request ih =>
      obtain ⟨tidy, left⟩ := ih
      obtain ⟨kept, grown⟩ := tidy.step request
      rw [stateAfter_append, stateAfter_cons, stateAfter_nil]
      refine ⟨kept, fun registration => ?_⟩
      rw [grown, left]
      apply Iff.intro
      · rintro (⟨before, calls, started, unloaded, behind⟩ | ⟨calls, rfl, unloaded, behind⟩)
        · exact ⟨before, calls, started.trans (List.prefix_append _ _), unloaded, behind⟩
        · exact ⟨requests, calls, List.prefix_refl _, unloaded, behind⟩
      · rintro ⟨before, calls, started, unloaded, behind⟩
        rcases List.prefix_concat_iff.mp started with last | earlier
        · obtain ⟨rfl, same⟩ := List.append_inj' last rfl
          exact Or.inr ⟨calls, (List.head_eq_of_cons_eq same).symm, unloaded, behind⟩
        · exact Or.inl ⟨before, calls, earlier, unloaded, behind⟩

/-- With four devices, when the second `cdev_add` fails. -/
example : (stateAfter (moduleStep 4) .unused [.insmod secondCdevAddFails, .rmmod]).left = [.node 100] := by
  decide

end BbbLkm.PseudoN
