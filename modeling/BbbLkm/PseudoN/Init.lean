import BbbLkm.Machine.Account
import BbbLkm.Kernel.Errno

namespace BbbLkm.PseudoN

open BbbLkm.Machine BbbLkm.Kernel

inductive Registration where
  | region (base count : Nat)
  | cls
  | cdev (index number : Nat)
  | node (number : Nat)
deriving DecidableEq

namespace Registration

def isRegion (base count : Nat) (registration : Registration) : Bool :=
  registration = .region base count

def isClass (registration : Registration) : Bool := registration = .cls

def isNode (number : Nat) (registration : Registration) : Bool := registration = .node number

/-- The registration of the cdev embedded in `pseudo_dev_data[index]`. -/
def isCdev (index : Nat) : Registration → Bool
  | .cdev other _ => other = index
  | _ => false

end Registration

open Registration

/-- The outcome of each kernel call of `pseudo_init`; the device calls are made
once for each index. -/
structure InitCalls where
  allocChrdevRegion : Except Errno Nat
  classCreate : Except Errno Unit
  cdevAdd : Nat → Except Errno Unit
  deviceCreate : Nat → Except Errno Unit

inductive LoopExit where
  | finished
  /-- `goto cleanup_cdev` with `rc` and the loop index. -/
  | cleanupCdev (rc : Errno) (index : Nat)

def createDevices (calls : InitCalls) (base : Nat) :
    (remaining index : Nat) → Account Registration → LoopExit × Account Registration
  | 0, _, account => (.finished, account)
  | remaining + 1, index, account =>
      match calls.cdevAdd index with
      | .error rc => (.cleanupCdev rc index, account)
      | .ok _ =>
          let account := account.acquire (.cdev index (base + index))
          match calls.deviceCreate index with
          | .error rc => (.cleanupCdev rc index, account)
          | .ok _ => createDevices calls base remaining (index + 1) (account.acquire (.node (base + index)))

/-- `while (--i >= 0)` at the label `cleanup_cdev`.  The node number passed to
`device_destroy` is `device_number + 1`, whatever the index. -/
def cleanupCdev (base : Nat) : Nat → Account Registration → Account Registration
  | 0, account => account
  | index + 1, account =>
      cleanupCdev base index ((account.release (isNode (base + 1))).release (isCdev index))

/-- `pseudo_init`: the value returned, the device number stored in
`pseudo_drv_data`, and the registrations. -/
def pseudoInit (noOfDevices : Nat) (calls : InitCalls) (account : Account Registration) :
    Int × Nat × Account Registration :=
  match calls.allocChrdevRegion with
  | .error rc => (rc.val, 0, account)
  | .ok base =>
      let account := account.acquire (.region base noOfDevices)
      match calls.classCreate with
      | .error rc => (rc.val, base, account.release (isRegion base noOfDevices))
      | .ok _ =>
          match createDevices calls base noOfDevices 0 (account.acquire .cls) with
          | (.finished, account) => (0, base, account)
          | (.cleanupCdev rc index, account) =>
              (rc.val, base, ((cleanupCdev base index account).release isClass).release
                (isRegion base noOfDevices))

def destroyDevices (base : Nat) :
    (remaining index : Nat) → Account Registration → Account Registration
  | 0, _, account => account
  | remaining + 1, index, account =>
      destroyDevices base remaining (index + 1)
        ((account.release (isNode (base + index))).release (isCdev index))

def pseudoExit (noOfDevices base : Nat) (account : Account Registration) : Account Registration :=
  ((destroyDevices base noOfDevices 0 account).release isClass).release (isRegion base noOfDevices)

variable {calls : InitCalls} {base index remaining : Nat} {account : Account Registration}

def Built (base first last : Nat) (registration : Registration) : Prop :=
  ∃ index, first ≤ index ∧ index < last ∧
    (registration = .cdev index (base + index) ∨ registration = .node (base + index))

theorem built_succ {base first last : Nat} {registration : Registration} (nonempty : first < last) :
    Built base first last registration ↔
      (registration = .cdev first (base + first) ∨ registration = .node (base + first)) ∨
        Built base (first + 1) last registration := by
  apply Iff.intro
  · intro built
    obtain ⟨index, lower, upper, shape⟩ := built
    rcases Nat.eq_or_lt_of_le lower with same | later
    · subst same
      exact Or.inl shape
    · exact Or.inr ⟨index, later, upper, shape⟩
  · intro built
    rcases built with shape | later
    · exact ⟨first, Nat.le_refl _, nonempty, shape⟩
    · obtain ⟨index, lower, upper, shape⟩ := later
      exact ⟨index, by omega, upper, shape⟩

theorem not_built_empty {base first : Nat} {registration : Registration} :
    ¬ Built base first first registration := by
  intro built
  obtain ⟨index, lower, upper, _⟩ := built
  omega

def Succeeds (calls : InitCalls) (index : Nat) : Prop :=
  calls.cdevAdd index = .ok () ∧ calls.deviceCreate index = .ok ()

/-- How the device loop ends: with every device built, at a failing `cdev_add`
with the devices before it built, or at a failing `device_create` with the cdev
of that index added as well. -/
inductive LoopOutcome (calls : InitCalls) (base first last : Nat) (before : Account Registration) :
    LoopExit × Account Registration → Prop where
  | finished {after : Account Registration}
      (succeeded : ∀ index, first ≤ index → index < last → Succeeds calls index)
      (held : ∀ registration, registration ∈ after.held ↔
        registration ∈ before.held ∨ Built base first last registration) :
      LoopOutcome calls base first last before (.finished, after)
  | cdevAddFailed {after : Account Registration} {rc : Errno} {index : Nat}
      (lower : first ≤ index) (upper : index < last)
      (succeeded : ∀ earlier, first ≤ earlier → earlier < index → Succeeds calls earlier)
      (failed : calls.cdevAdd index = .error rc)
      (held : ∀ registration, registration ∈ after.held ↔
        registration ∈ before.held ∨ Built base first index registration) :
      LoopOutcome calls base first last before (.cleanupCdev rc index, after)
  | deviceCreateFailed {after : Account Registration} {rc : Errno} {index : Nat}
      (lower : first ≤ index) (upper : index < last)
      (succeeded : ∀ earlier, first ≤ earlier → earlier < index → Succeeds calls earlier)
      (added : calls.cdevAdd index = .ok ()) (failed : calls.deviceCreate index = .error rc)
      (held : ∀ registration, registration ∈ after.held ↔
        registration = .cdev index (base + index) ∨
          registration ∈ before.held ∨ Built base first index registration) :
      LoopOutcome calls base first last before (.cleanupCdev rc index, after)

/-- The account after one turn of the device loop. -/
def buildDevice (base index : Nat) (account : Account Registration) : Account Registration :=
  (account.acquire (.cdev index (base + index))).acquire (.node (base + index))

theorem mem_buildDevice {registration : Registration} :
    registration ∈ (buildDevice base index account).held ↔
      (registration = .cdev index (base + index) ∨ registration = .node (base + index)) ∨
        registration ∈ account.held := by
  rw [buildDevice, Account.mem_acquire, Account.mem_acquire, or_left_comm, or_assoc]

/-- What the turn has built is the first of what the loop builds. -/
theorem mem_buildDevice_or_built {first last : Nat} {registration : Registration} (nonempty : first < last) :
    registration ∈ (buildDevice base first account).held ∨ Built base (first + 1) last registration ↔
      registration ∈ account.held ∨ Built base first last registration := by
  rw [mem_buildDevice, built_succ nonempty, or_assoc, or_left_comm]

/-- A turn that succeeds can be put in front of the rest of the loop. -/
theorem LoopOutcome.cons {first last : Nat} {result : LoopExit × Account Registration}
    (nonempty : first < last) (now : Succeeds calls first)
    (rest : LoopOutcome calls base (first + 1) last (buildDevice base first account) result) :
    LoopOutcome calls base first last account result := by
  have extend {bound : Nat}
      (later : ∀ index, first + 1 ≤ index → index < bound → Succeeds calls index) :
      ∀ index, first ≤ index → index < bound → Succeeds calls index := by
    intro index lower upper
    rcases Nat.eq_or_lt_of_le lower with same | above
    · exact same ▸ now
    · exact later index above upper
  cases rest with
  | finished succeeded held =>
      refine .finished (extend succeeded) fun registration => ?_
      rw [held, mem_buildDevice_or_built nonempty]
  | cdevAddFailed lower upper succeeded failed held =>
      refine .cdevAddFailed (by omega) upper (extend succeeded) failed fun registration => ?_
      rw [held, mem_buildDevice_or_built (Nat.lt_of_succ_le lower)]
  | deviceCreateFailed lower upper succeeded added failed held =>
      refine .deviceCreateFailed (by omega) upper (extend succeeded) added failed fun registration => ?_
      rw [held, mem_buildDevice_or_built (Nat.lt_of_succ_le lower)]

theorem createDevices_outcome (calls : InitCalls) (base : Nat) (remaining index : Nat)
    (account : Account Registration) :
    LoopOutcome calls base index (index + remaining) account
      (createDevices calls base remaining index account) := by
  induction remaining generalizing index account with
  | zero =>
      refine .finished (fun other lower upper => by omega) fun registration => ?_
      simp only [Nat.add_zero, not_built_empty, or_false]
  | succ remaining ih =>
      rw [createDevices]
      cases added : calls.cdevAdd index with
      | error rc =>
          refine .cdevAddFailed (Nat.le_refl _) (by omega) (fun other lower upper => by omega) added
            fun registration => ?_
          simp only [not_built_empty, or_false]
      | ok _ =>
          simp only
          cases created : calls.deviceCreate index with
          | error rc =>
              refine .deviceCreateFailed (Nat.le_refl _) (by omega) (fun other lower upper => by omega)
                added created fun registration => ?_
              simp only [Account.mem_acquire, not_built_empty, or_false]
          | ok _ =>
              have rest := ih (index + 1) (buildDevice base index account)
              rw [Nat.add_right_comm, Nat.add_assoc] at rest
              exact rest.cons (by omega) ⟨added, created⟩

/-- The cleanup loop removes the cdevs below its index and, of the nodes, at
most the one numbered `base + 1`. -/
theorem mem_cleanupCdev {registration : Registration} :
    registration ∈ (cleanupCdev base index account).held ↔
      registration ∈ account.held ∧
        (0 < index → isNode (base + 1) registration = false) ∧
        ∀ lower < index, isCdev lower registration = false := by
  induction index generalizing account with
  | zero => simp [cleanupCdev]
  | succ index ih =>
      rw [cleanupCdev, ih, Account.mem_release, Account.mem_release]
      apply Iff.intro
      · intro kept
        obtain ⟨⟨⟨held, node⟩, cdev⟩, _, below⟩ := kept
        refine ⟨held, fun _ => node, fun lower bound => ?_⟩
        rcases Nat.lt_succ_iff_lt_or_eq.mp bound with less | same
        · exact below lower less
        · exact same ▸ cdev
      · intro kept
        obtain ⟨held, node, below⟩ := kept
        exact ⟨⟨⟨held, node (by omega)⟩, below index (by omega)⟩, fun _ => node (by omega),
          fun lower bound => below lower (by omega)⟩

theorem mem_destroyDevices {registration : Registration} :
    registration ∈ (destroyDevices base remaining index account).held ↔
      registration ∈ account.held ∧ ∀ other, index ≤ other → other < index + remaining →
        isNode (base + other) registration = false ∧ isCdev other registration = false := by
  induction remaining generalizing index account with
  | zero =>
      simp only [destroyDevices, Nat.add_zero]
      exact ⟨fun held => ⟨held, fun other lower upper => by omega⟩, And.left⟩
  | succ remaining ih =>
      rw [destroyDevices, ih, Account.mem_release, Account.mem_release]
      apply Iff.intro
      · intro kept
        obtain ⟨⟨⟨held, node⟩, cdev⟩, later⟩ := kept
        refine ⟨held, fun other lower upper => ?_⟩
        rcases Nat.eq_or_lt_of_le lower with same | above
        · exact same ▸ ⟨node, cdev⟩
        · exact later other above (by omega)
      · intro kept
        obtain ⟨held, every⟩ := kept
        have now := every index (Nat.le_refl _) (by omega)
        exact ⟨⟨⟨held, now.1⟩, now.2⟩, fun other lower upper => every other (by omega) (by omega)⟩

theorem createDevices_released :
    (createDevices calls base remaining index account).2.released = account.released ∧
      (createDevices calls base remaining index account).2.strays = account.strays := by
  induction remaining generalizing index account with
  | zero => exact ⟨rfl, rfl⟩
  | succ remaining ih =>
      rw [createDevices]
      split
      · exact ⟨rfl, rfl⟩
      · simp only
        split
        · exact ⟨rfl, rfl⟩
        · exact ih

theorem createDevices_nodup (distinct : account.held.Nodup)
    (fresh : ∀ later, index ≤ later →
      Registration.cdev later (base + later) ∉ account.held ∧
        Registration.node (base + later) ∉ account.held) :
    (createDevices calls base remaining index account).2.held.Nodup := by
  induction remaining generalizing index account with
  | zero => exact distinct
  | succ remaining ih =>
      have now := fresh index (Nat.le_refl _)
      have withCdev := Ledger.nodup_acquire distinct now.1
      rw [createDevices]
      split
      · exact distinct
      · simp only
        split
        · exact withCdev
        · refine ih (Ledger.nodup_acquire withCdev ?_) ?_
          · simp [now.2]
          · intro later above
            have before := fresh later (by omega)
            have different : later ≠ index := by omega
            simp [before, different]

theorem destroyDevices_perm :
    ((destroyDevices base remaining index account).released ++
        (destroyDevices base remaining index account).held).Perm
      (account.released ++ account.held) := by
  induction remaining generalizing index account with
  | zero => exact .refl _
  | succ remaining ih =>
      exact (ih.trans (Ledger.release_perm _ _)).trans (Ledger.release_perm _ _)

/-- What names the devices of the loop names something that is held. -/
theorem destroyDevices_strays (held : ∀ other, index ≤ other → other < index + remaining →
    Registration.node (base + other) ∈ account.held ∧ Registration.cdev other (base + other) ∈ account.held) :
    (destroyDevices base remaining index account).strays = account.strays := by
  induction remaining generalizing index account with
  | zero => rfl
  | succ remaining ih =>
      have now := held index (Nat.le_refl _) (by omega)
      have cdev : Registration.cdev index (base + index) ∈ (account.release (isNode (base + index))).held :=
        Account.mem_release.mpr ⟨now.2, rfl⟩
      rw [destroyDevices, ih, Account.strays_release cdev (by simp [isCdev]),
        Account.strays_release now.1 (by simp [isNode])]
      intro other lower upper
      have later := held other (by omega) (by omega)
      have apart : other ≠ index := by omega
      simp [later, isNode, isCdev, apart]

theorem pseudoExit_strays {noOfDevices : Nat}
    (cls : Registration.cls ∈ account.held) (region : Registration.region base noOfDevices ∈ account.held)
    (devices : ∀ index < noOfDevices,
      Registration.node (base + index) ∈ account.held ∧ Registration.cdev index (base + index) ∈ account.held) :
    (pseudoExit noOfDevices base account).strays = account.strays := by
  have classStays : Registration.cls ∈ (destroyDevices base noOfDevices 0 account).held :=
    mem_destroyDevices.mpr ⟨cls, fun _ _ _ => ⟨rfl, rfl⟩⟩
  have regionStays : Registration.region base noOfDevices ∈
      ((destroyDevices base noOfDevices 0 account).release isClass).held :=
    Account.mem_release.mpr ⟨mem_destroyDevices.mpr ⟨region, fun _ _ _ => ⟨rfl, rfl⟩⟩, rfl⟩
  rw [pseudoExit, Account.strays_release regionStays (by simp [isRegion]),
    Account.strays_release classStays rfl, destroyDevices_strays]
  exact fun other _ upper => devices other (by omega)

theorem pseudoExit_perm (noOfDevices : Nat) :
    ((pseudoExit noOfDevices base account).released ++ (pseudoExit noOfDevices base account).held).Perm
      (account.released ++ account.held) :=
  ((Ledger.release_perm _ _).trans (Ledger.release_perm _ _)).trans destroyDevices_perm

/-- The first kernel call, of the two that an index makes, that fails. -/
def deviceError (calls : InitCalls) (index : Nat) : Option Errno :=
  match calls.cdevAdd index, calls.deviceCreate index with
  | .error rc, _ => some rc
  | .ok _, .error rc => some rc
  | .ok _, .ok _ => none

/-- The error of the first kernel call that fails, in the order of the calls. -/
def firstError (noOfDevices : Nat) (calls : InitCalls) : Option Errno :=
  match calls.allocChrdevRegion, calls.classCreate with
  | .error rc, _ => some rc
  | .ok _, .error rc => some rc
  | .ok _, .ok _ => (List.range noOfDevices).findSome? (deviceError calls)

theorem Succeeds.deviceError_eq (succeeds : Succeeds calls index) : deviceError calls index = none := by
  simp only [deviceError, succeeds.1, succeeds.2]

theorem firstError_of_loop {count : Nat} {rc : Errno} (bound : index < count)
    (earlier : ∀ other < index, deviceError calls other = none)
    (here : deviceError calls index = some rc) :
    (List.range count).findSome? (deviceError calls) = some rc := by
  induction count with
  | zero => omega
  | succ count ih =>
      rw [List.range_succ, List.findSome?_append]
      rcases Nat.lt_succ_iff_lt_or_eq.mp bound with less | same
      · rw [ih less]
        rfl
      · subst same
        have silent : (List.range index).findSome? (deviceError calls) = none :=
          List.findSome?_eq_none_iff.mpr fun other member => earlier other (List.mem_range.mp member)
        rw [silent, List.findSome?_singleton, here]
        rfl

/-- A failing load returns the error and leaves nothing registered; after a
load that succeeds, unload releases everything registered exactly once, and
nothing else. -/
def InitContract (noOfDevices : Nat) (calls : InitCalls) : Prop :=
  let loaded := pseudoInit noOfDevices calls .empty
  (∀ rc, firstError noOfDevices calls = some rc → loaded.1 = rc.val ∧ loaded.2.2.held = []) ∧
    (firstError noOfDevices calls = none → loaded.1 = 0 ∧ loaded.2.2.held.Nodup ∧
      (pseudoExit noOfDevices loaded.2.1 loaded.2.2).held = [] ∧
      (pseudoExit noOfDevices loaded.2.1 loaded.2.2).released.Perm loaded.2.2.held ∧
      (pseudoExit noOfDevices loaded.2.1 loaded.2.2).strays = 0)

/-- No failing call leaves a device half or fully built behind it: what fails,
if anything, is the region, the class or the very first `cdev_add`. -/
def FailsBeforeDevices (noOfDevices : Nat) (calls : InitCalls) : Prop :=
  (∃ rc, calls.allocChrdevRegion = .error rc) ∨ (∃ rc, calls.classCreate = .error rc) ∨
    (∃ rc, calls.cdevAdd 0 = .error rc) ∨ ∀ index < noOfDevices, Succeeds calls index

def beforeDevices (noOfDevices base : Nat) : Account Registration :=
  (Account.empty.acquire (.region base noOfDevices)).acquire .cls

theorem mem_beforeDevices {noOfDevices : Nat} {registration : Registration} :
    registration ∈ (beforeDevices noOfDevices base).held ↔
      registration = .cls ∨ registration = .region base noOfDevices := by
  simp [beforeDevices]

variable {noOfDevices : Nat}

theorem contract_of_early_error (failed : (∃ rc, calls.allocChrdevRegion = .error rc) ∨
    ∃ rc, calls.classCreate = .error rc) : InitContract noOfDevices calls := by
  unfold InitContract firstError pseudoInit
  cases region : calls.allocChrdevRegion with
  | error rc => simp
  | ok base =>
      cases cls : calls.classCreate with
      | error rc => simp [isRegion]
      | ok _ => simp [region, cls] at failed

theorem loaded_eq (region : calls.allocChrdevRegion = .ok base) (cls : calls.classCreate = .ok ()) :
    pseudoInit noOfDevices calls .empty =
      match createDevices calls base noOfDevices 0 (beforeDevices noOfDevices base) with
      | (.finished, account) => (0, base, account)
      | (.cleanupCdev rc index, account) =>
          (rc.val, base, ((cleanupCdev base index account).release isClass).release
            (isRegion base noOfDevices)) := by
  simp only [pseudoInit, region, cls]
  rfl

theorem contract_of_success (region : calls.allocChrdevRegion = .ok base)
    (cls : calls.classCreate = .ok ()) (every : ∀ index < noOfDevices, Succeeds calls index) :
    InitContract noOfDevices calls := by
  have silent : (List.range noOfDevices).findSome? (deviceError calls) = none :=
    List.findSome?_eq_none_iff.mpr fun index member =>
      (every index (List.mem_range.mp member)).deviceError_eq
  have outcome := createDevices_outcome calls base noOfDevices 0 (beforeDevices noOfDevices base)
  have released : (createDevices calls base noOfDevices 0 (beforeDevices noOfDevices base)).2.released = [] ∧
      (createDevices calls base noOfDevices 0 (beforeDevices noOfDevices base)).2.strays = 0 :=
    createDevices_released
  have distinct : (createDevices calls base noOfDevices 0 (beforeDevices noOfDevices base)).2.held.Nodup :=
    createDevices_nodup (by simp [beforeDevices])
      (fun later _ => by simp [mem_beforeDevices])
  simp only [InitContract, firstError, region, cls, silent, loaded_eq region cls]
  generalize createDevices calls base noOfDevices 0 (beforeDevices noOfDevices base) = result
    at outcome released distinct
  cases outcome with
  | finished succeeded held =>
      rename_i after
      have emptied : (pseudoExit noOfDevices base after).held = [] := by
        apply List.eq_nil_iff_forall_not_mem.mpr
        intro registration member
        simp only [pseudoExit, Account.mem_release, mem_destroyDevices, held, mem_beforeDevices] at member
        obtain ⟨⟨⟨origin, gone⟩, notClass⟩, notRegion⟩ := member
        rcases origin with (isCls | isReg) | ⟨index, lower, upper, isCdev' | isNode'⟩
        · simp [isCls, isClass] at notClass
        · simp [isReg, isRegion] at notRegion
        · have := (gone index lower (by omega)).2
          simp [isCdev', isCdev] at this
        · have := (gone index lower (by omega)).1
          simp [isNode', isNode] at this
      have strays : (pseudoExit noOfDevices base after).strays = after.strays := by
        refine pseudoExit_strays ?_ ?_ fun index bound => ⟨?_, ?_⟩
        · exact (held _).mpr (Or.inl (mem_beforeDevices.mpr (Or.inl rfl)))
        · exact (held _).mpr (Or.inl (mem_beforeDevices.mpr (Or.inr rfl)))
        · exact (held _).mpr (Or.inr ⟨index, Nat.zero_le _, by omega, Or.inr rfl⟩)
        · exact (held _).mpr (Or.inr ⟨index, Nat.zero_le _, by omega, Or.inl rfl⟩)
      refine ⟨by simp, fun _ => ⟨rfl, distinct, emptied, ?_, strays.trans released.2⟩⟩
      exact Ledger.released_perm_of_emptied (pseudoExit_perm noOfDevices) released.1 emptied
  | cdevAddFailed lower upper succeeded failed held =>
      exact absurd ((every _ (by omega)).1.symm.trans failed) (by simp)
  | deviceCreateFailed lower upper succeeded added failed held =>
      exact absurd ((every _ (by omega)).2.symm.trans failed) (by simp)

theorem mem_after_cleanup {after : Account Registration} {rc : Errno} {registration : Registration}
    (region : calls.allocChrdevRegion = .ok base) (cls : calls.classCreate = .ok ())
    (left : createDevices calls base noOfDevices 0 (beforeDevices noOfDevices base) =
      (.cleanupCdev rc index, after)) :
    registration ∈ (pseudoInit noOfDevices calls .empty).2.2.held ↔
      registration ∈ after.held ∧ (0 < index → isNode (base + 1) registration = false) ∧
        (∀ lower < index, isCdev lower registration = false) ∧ isClass registration = false ∧
        isRegion base noOfDevices registration = false := by
  simp only [loaded_eq region cls, left, Account.mem_release, mem_cleanupCdev, and_assoc]

theorem contract_of_first_cdevAdd {rc : Errno} {after : Account Registration}
    (region : calls.allocChrdevRegion = .ok base) (cls : calls.classCreate = .ok ())
    (first : (List.range noOfDevices).findSome? (deviceError calls) = some rc)
    (left : createDevices calls base noOfDevices 0 (beforeDevices noOfDevices base) =
      (.cleanupCdev rc 0, after))
    (held : ∀ registration, registration ∈ after.held ↔
      registration ∈ (beforeDevices noOfDevices base).held ∨ Built base 0 0 registration) :
    InitContract noOfDevices calls := by
  have emptied : (pseudoInit noOfDevices calls .empty).2.2.held = [] := by
    apply List.eq_nil_iff_forall_not_mem.mpr
    intro registration member
    obtain ⟨origin, _, _, notClass, notRegion⟩ := (mem_after_cleanup region cls left).mp member
    simp only [held, not_built_empty, or_false, mem_beforeDevices] at origin
    rcases origin with same | same
    · simp [same, isClass] at notClass
    · simp [same, isRegion] at notRegion
  have returned : (pseudoInit noOfDevices calls .empty).1 = rc.val := by
    simp only [loaded_eq region cls, left]
  constructor
  · intro other failed
    simp only [firstError, region, cls, first, Option.some.injEq] at failed
    exact ⟨failed ▸ returned, emptied⟩
  · intro succeeded
    simp [firstError, region, cls, first] at succeeded

theorem not_contract_of_leftover {rc : Errno} {registration : Registration}
    (region : calls.allocChrdevRegion = .ok base) (cls : calls.classCreate = .ok ())
    (first : (List.range noOfDevices).findSome? (deviceError calls) = some rc)
    (leftover : registration ∈ (pseudoInit noOfDevices calls .empty).2.2.held) :
    ¬ InitContract noOfDevices calls := by
  intro contract
  have emptied := (contract.1 rc (by simp only [firstError, region, cls, first])).2
  rw [emptied] at leftover
  cases leftover

theorem not_failsBeforeDevices (region : calls.allocChrdevRegion = .ok base)
    (cls : calls.classCreate = .ok ()) (first : calls.cdevAdd 0 = .ok ()) (bound : index < noOfDevices)
    (fails : ¬ Succeeds calls index) : ¬ FailsBeforeDevices noOfDevices calls := by
  intro condition
  rcases condition with ⟨_, failed⟩ | ⟨_, failed⟩ | ⟨_, failed⟩ | every
  · simp [region] at failed
  · simp [cls] at failed
  · simp [first] at failed
  · exact fails (every index bound)

/-- Load and unload keep their contract exactly when no call fails once a
device has begun to be registered. -/
theorem init_contract_iff (noOfDevices : Nat) (calls : InitCalls) :
    InitContract noOfDevices calls ↔ FailsBeforeDevices noOfDevices calls := by
  cases region : calls.allocChrdevRegion with
  | error rc =>
      exact iff_of_true (contract_of_early_error (Or.inl ⟨rc, region⟩)) (Or.inl ⟨rc, region⟩)
  | ok base =>
  cases cls : calls.classCreate with
  | error rc =>
      exact iff_of_true (contract_of_early_error (Or.inr ⟨rc, cls⟩)) (Or.inr (Or.inl ⟨rc, cls⟩))
  | ok _ =>
  have outcome := createDevices_outcome calls base noOfDevices 0 (beforeDevices noOfDevices base)
  generalize left : createDevices calls base noOfDevices 0 (beforeDevices noOfDevices base) = result
    at outcome
  rw [Nat.zero_add] at outcome
  cases outcome with
  | finished succeeded held =>
      have every : ∀ index < noOfDevices, Succeeds calls index :=
        fun index bound => succeeded index (Nat.zero_le _) bound
      exact iff_of_true (contract_of_success region cls every) (Or.inr (Or.inr (Or.inr every)))
  | cdevAddFailed lower upper succeeded failed held =>
      rename_i after rc index
      have earlier : ∀ other < index, deviceError calls other = none :=
        fun other less => (succeeded other (Nat.zero_le _) less).deviceError_eq
      have here : deviceError calls index = some rc := by simp only [deviceError, failed]
      have first := firstError_of_loop upper earlier here
      rcases Nat.eq_zero_or_pos index with zero | positive
      · subst zero
        exact iff_of_true (contract_of_first_cdevAdd region cls first left held)
          (Or.inr (Or.inr (Or.inl ⟨rc, failed⟩)))
      · have started := succeeded 0 (Nat.le_refl _) positive
        -- the node of index 0 survives: the loop destroys node `base + 1` instead
        have leftover : .node (base + 0) ∈ (pseudoInit noOfDevices calls .empty).2.2.held := by
          refine (mem_after_cleanup region cls left).mpr ⟨?_, ?_, ?_, rfl, rfl⟩
          · exact (held _).mpr (Or.inr ⟨0, Nat.le_refl _, positive, Or.inr rfl⟩)
          · simp [isNode]
          · simp [isCdev]
        refine iff_of_false (not_contract_of_leftover region cls first leftover)
          (not_failsBeforeDevices region cls started.1 upper fun succeeds => ?_)
        simp [succeeds.1] at failed
  | deviceCreateFailed lower upper succeeded added failed held =>
      rename_i after rc index
      have earlier : ∀ other < index, deviceError calls other = none :=
        fun other less => (succeeded other (Nat.zero_le _) less).deviceError_eq
      have here : deviceError calls index = some rc := by simp only [deviceError, added, failed]
      have first := firstError_of_loop upper earlier here
      have started : calls.cdevAdd 0 = .ok () := by
        rcases Nat.eq_zero_or_pos index with zero | positive
        · exact zero ▸ added
        · exact (succeeded 0 (Nat.le_refl _) positive).1
      -- the cdev of the failing index survives: the loop starts below it
      have leftover : .cdev index (base + index) ∈ (pseudoInit noOfDevices calls .empty).2.2.held := by
        refine (mem_after_cleanup region cls left).mpr ⟨?_, ?_, ?_, rfl, rfl⟩
        · exact (held _).mpr (Or.inl rfl)
        · simp [isNode]
        · intro below less
          simp only [isCdev, decide_eq_false_iff_not]
          omega
      refine iff_of_false (not_contract_of_leftover region cls first leftover)
        (not_failsBeforeDevices region cls started upper fun succeeds => ?_)
      simp [succeeds.2] at failed

def secondCdevAddFails : InitCalls where
  allocChrdevRegion := .ok 100
  classCreate := .ok ()
  cdevAdd index := if index = 1 then .error .noMemory else .ok ()
  deviceCreate _ := .ok ()

/-- With the shipped four devices, a failing second `cdev_add` leaves the first
node behind. -/
theorem init_contract_fails :
    ¬ ∀ (noOfDevices : Nat) (calls : InitCalls), 1 ≤ noOfDevices → InitContract noOfDevices calls := by
  intro claimed
  have contract := claimed 4 secondCdevAddFails (by decide)
  have emptied := (contract.1 .noMemory (by decide)).2
  exact absurd emptied (by decide)

end BbbLkm.PseudoN
