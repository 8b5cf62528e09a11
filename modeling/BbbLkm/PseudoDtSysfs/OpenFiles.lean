import BbbLkm.PseudoDt.OpenFiles
import BbbLkm.PseudoDtSysfs.Probe

namespace BbbLkm.PseudoDtSysfs

open BbbLkm.Machine BbbLkm.Kernel BbbLkm.PseudoDt

theorem managesData : ManagesData pseudoPlatformDriver where
  probe pdev device calls world := by
    have allocating : Allocating pdev world (probeDevice pdev device calls.toProbeCalls world) :=
      probeDevice_allocating
    rcases probe_cases pdev device calls world with same | ⟨rc, data, after, bound, failed⟩
    · rw [show pseudoPlatformDriver.probe pdev device calls world = _ from same]
      exact allocating
    · rw [bound] at allocating
      rw [show pseudoPlatformDriver.probe pdev device calls world = _ from failed]
      exact ⟨allocating.1, fun _ succeeded => by cases succeeded⟩
  remove _ _ _ := rfl
  reclaim := rfl

/-- No file is ever open on a freed cdev exactly in the runs that remove no
device while a file is open on it. -/
theorem run_files_live_iff (base : Int) :
    (∀ requests : List (SessionRequest ProbeCalls),
      (∀ seen, seen <+: requests →
          (stateAfter (Session.step PseudoDt.pseudoPlatformDriver) (.start (loaded base)) seen).Safe) ↔
        Along (Session.step PseudoDt.pseudoPlatformDriver) Session.RemovesClosed
          (.start (loaded base)) requests) ∧
    (∀ requests : List (SessionRequest SysfsProbeCalls),
      (∀ seen, seen <+: requests →
          (stateAfter (Session.step pseudoPlatformDriver) (.start (loaded base)) seen).Safe) ↔
        Along (Session.step pseudoPlatformDriver) Session.RemovesClosed (.start (loaded base))
          requests) :=
  ⟨Session.run_safe_iff PseudoDt.managesData base, Session.run_safe_iff managesData base⟩

/-- A device is removed while a file is open on it. -/
def removedWhileOpen {Calls : Type} (succeeding : Calls) : List (SessionRequest Calls) :=
  [.driver (.probe 1 pcdev1 succeeding), .pseudoOpen 0 1, .driver (.remove 1)]

theorem file_outlives_cdev :
    (¬ ∀ (base : Int) (requests : List (SessionRequest ProbeCalls)),
      (stateAfter (Session.step PseudoDt.pseudoPlatformDriver) (.start (loaded base)) requests).Safe) ∧
    (¬ ∀ (base : Int) (requests : List (SessionRequest SysfsProbeCalls)),
      (stateAfter (Session.step pseudoPlatformDriver) (.start (loaded base)) requests).Safe) := by
  apply And.intro
  · intro claimed
    obtain ⟨owner, live⟩ := claimed 100 (removedWhileOpen .succeeding) (0, 1) (by decide)
    cases live
  · intro claimed
    obtain ⟨owner, live⟩ := claimed 100 (removedWhileOpen .succeeding) (0, 1) (by decide)
    cases live

end BbbLkm.PseudoDtSysfs
