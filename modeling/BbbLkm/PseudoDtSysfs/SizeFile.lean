import BbbLkm.Kernel.Decimal
import BbbLkm.PseudoDtSysfs.SerialNum

namespace BbbLkm.PseudoDtSysfs

open BbbLkm.Machine BbbLkm.Memory BbbLkm.Kernel BbbLkm.PseudoDt

/-- `%d` and a newline. -/
def maxSizeFormat : List UInt8 := [37, 100, 10]

def showMaxSize (devData : PseudoDevPrivateData) (buf : UInt32) (memory : Mem) : Printed :=
  sprintf memory buf (vsnprintf (fun _ => decimal devData.pdata.size.toInt) maxSizeFormat)

/-- The number of the last store that is accepted. -/
def lastSize (size : Int32) (stores : List StoreCall) : Int :=
  (stores.reverse.findSome? fun call => (kstrtol call.buf).toOption).getD size.toInt

variable {state : BufferState} {call : StoreCall}

theorem storeMaxSize_accepted {result : Int} (parsed : kstrtol call.buf = .ok result) :
    (storeMaxSize state call).2 = .ok call.count ∧ (storeMaxSize state call).1.size.toInt = result := by
  obtain ⟨least, most⟩ := kstrtol_range parsed
  rw [storeMaxSize, parsed]
  exact ⟨rfl, Int32.toInt_ofInt_of_le least most⟩

theorem storeMaxSize_size (state : BufferState) (call : StoreCall) :
    (storeMaxSize state call).1.size.toInt = (kstrtol call.buf).toOption.getD state.size.toInt := by
  cases parsed : kstrtol call.buf with
  | error rc =>
      rw [storeMaxSize, parsed]
      rfl
  | ok result => exact (storeMaxSize_accepted parsed).2

theorem run_size (state : BufferState) (stores : List StoreCall) :
    (stateAfter storeMaxSize state stores).size.toInt = lastSize state.size stores := by
  induction stores generalizing state with
  | nil => rfl
  | cons call stores ih =>
      rw [stateAfter_cons, ih, lastSize, lastSize, storeMaxSize_size, List.reverse_cons, List.findSome?_append,
        Option.getD_or, List.findSome?_singleton]

/-- The text is short of a page by far. -/
theorem showMaxSize_shows (devData : PseudoDevPrivateData) (page : Page) (memory : Mem) :
    Shows page (decimalLine devData.pdata.size.toInt).bytes (showMaxSize devData (page.address 0) memory) ∧
      (showMaxSize devData (page.address 0) memory).ret = (decimalLine devData.pdata.size.toInt).length := by
  have text : vsnprintf (fun _ => decimal devData.pdata.size.toInt) maxSizeFormat =
      (decimalLine devData.pdata.size.toInt).bytes := rfl
  rw [showMaxSize, text]
  constructor
  · have short := length_decimal_le devData.pdata.size.le_toInt devData.pdata.size.toInt_lt
    have length : (decimalLine devData.pdata.size.toInt).bytes.length =
        (decimal devData.pdata.size.toInt).length + 1 := List.length_append
    rw [shows_sprintf_iff, length]
    unfold PAGE_SIZE
    omega
  · rfl

/-- After every run of stores, what is read from the file is the text of the
number that was accepted last.  Written back, it is accepted again and leaves
the size as it is. -/
theorem run_shows_last_size (pdev : Nat) (data : PseudoDevPrivateData) (world : World) (stores : List StoreCall)
    (page : Page) (memory : Mem) :
    ∃ text : CString,
      Shows page text.bytes
        (showMaxSize (privateDataAfter data (.start pdev data world) stores) (page.address 0) memory) ∧
      (showMaxSize (privateDataAfter data (.start pdev data world) stores) (page.address 0) memory).ret =
        text.length ∧
      kstrtol text = .ok (lastSize data.pdata.size stores) ∧
        ∀ call : StoreCall, call.buf = text →
          let state := stateAfter storeMaxSize (.start pdev data world) stores
          (storeMaxSize state call).2 = .ok call.count ∧ (storeMaxSize state call).1.size = state.size := by
  obtain ⟨shows, ret⟩ := showMaxSize_shows (privateDataAfter data (.start pdev data world) stores) page memory
  have size : (privateDataAfter data (.start pdev data world) stores).pdata.size.toInt =
      lastSize data.pdata.size stores := run_size _ stores
  have parsed : kstrtol (decimalLine (privateDataAfter data (.start pdev data world) stores).pdata.size.toInt) =
      .ok (lastSize data.pdata.size stores) := by
    rw [← size]
    exact kstrtol_decimalLine (Int32.le_toInt _) (Int32.toInt_lt _)
  refine ⟨_, shows, ret, parsed, ?_⟩
  intro call written
  rw [← written] at parsed
  obtain ⟨accepted, kept⟩ := @storeMaxSize_accepted (stateAfter storeMaxSize (.start pdev data world) stores)
    call _ parsed
  exact ⟨accepted, Int32.toInt_inj.mp (kept.trans size.symm)⟩

end BbbLkm.PseudoDtSysfs
