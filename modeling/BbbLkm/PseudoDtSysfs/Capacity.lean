import BbbLkm.PseudoDtSysfs.Ownership
import BbbLkm.Memory.Words

namespace BbbLkm.PseudoDtSysfs

open BbbLkm.Machine BbbLkm.Memory BbbLkm.Kernel BbbLkm.PseudoDt

variable {state : BufferState} {call : StoreCall}

def BufferState.bytes (state : BufferState) : List UInt8 := state.buffer.bytes state.heap

/-- The buffer is an allocation of at least `pdata.size` bytes. -/
structure HoldsSize (state : BufferState) : Prop where
  valid : state.buffer.Valid state.heap
  capacity : state.size.toInt ≤ state.bytes.length

/-- A store fails and changes nothing, or makes the buffer as large as the
string says and keeps what both sizes have in common. -/
inductive StoresOrRefuses (state : BufferState) (call : StoreCall) : Prop where
  | refused (rc : Errno) : (storeMaxSize state call).2 = .error rc →
      (storeMaxSize state call).1.size = state.size →
      (storeMaxSize state call).1.buffer = state.buffer →
      (storeMaxSize state call).1.bytes = state.bytes → StoresOrRefuses state call
  | stored (number : Int) : (storeMaxSize state call).2 = .ok call.count →
      kstrtol call.buf = .ok number → (storeMaxSize state call).1.size.toInt = number → 0 ≤ number →
      HoldsSize (storeMaxSize state call).1 →
      (∀ index : Nat, index < min state.size.toInt number →
        (storeMaxSize state call).1.bytes[index]? = state.bytes[index]?) →
      StoresOrRefuses state call

/-- The string is no number, or one that is not negative, and zero if there is
no memory. -/
def Resizable (call : StoreCall) : Prop :=
  ∀ number, kstrtol call.buf = .ok number → 0 ≤ number ∧ (number ≠ 0 → call.allocation ≠ .failed)

theorem toNat_size {number : Int} (range : -2 ^ 31 ≤ number ∧ number < 2 ^ 31) (nonnegative : 0 ≤ number) :
    ((Int32.ofInt number).toUInt32.toNat : Int) = number := by
  have back : (Int32.ofInt number).toInt = number := Int32.toInt_ofInt_of_le range.1 range.2
  rw [toNat_toUInt32_of_nonneg (by rw [back]; exact nonnegative), back]

theorem store_rejected {rc : Errno} (rejected : kstrtol call.buf = .error rc) :
    storeMaxSize state call = (state, .error rc) := by
  simp only [storeMaxSize, rejected]

theorem store_parsed {number : Int} (parsed : kstrtol call.buf = .ok number) :
    storeMaxSize state call =
      ({ state with
          heap := (krealloc state.heap state.buffer (Int32.ofInt number).toUInt32.toNat call.allocation).1
          size := Int32.ofInt number
          buffer :=
            (krealloc state.heap state.buffer (Int32.ofInt number).toUInt32.toNat call.allocation).2 },
        .ok call.count) := by
  simp only [storeMaxSize, parsed]

theorem store_of_resizable (holds : HoldsSize state) (resizable : Resizable call) :
    StoresOrRefuses state call ∧ HoldsSize (storeMaxSize state call).1 := by
  cases parsed : kstrtol call.buf with
  | error rc =>
      have rejected := @store_rejected state call rc parsed
      exact ⟨.refused rc (by rw [rejected]) (by rw [rejected]) (by rw [rejected]) (by rw [rejected]),
        by rw [rejected]; exact holds⟩
  | ok number =>
      obtain ⟨nonnegative, granted⟩ := resizable number parsed
      have range := kstrtol_range parsed
      have size := toNat_size range nonnegative
      have back : (Int32.ofInt number).toInt = number := Int32.toInt_ofInt_of_le range.1 range.2
      have zero := size_eq_zero_iff range
      have live : ∀ block, state.buffer = .block block → block ∈ state.heap.live := by
        intro block buffer
        have valid := holds.valid
        rw [buffer] at valid
        exact valid
      have regrows := krealloc_regrows live fun sized => granted fun none => sized (zero.mpr none)
      have stored := @store_parsed state call number parsed
      have after : HoldsSize (storeMaxSize state call).1 := by
        rw [stored]
        refine ⟨regrows.valid, ?_⟩
        simp only [BufferState.bytes, back, regrows.length]
        omega
      refine ⟨.stored number (by rw [stored]) parsed (by rw [stored]; exact back) nonnegative after ?_, after⟩
      intro index within
      have capacity := holds.capacity
      rw [stored]
      exact regrows.kept index (by omega) (by unfold BufferState.bytes at capacity; omega)

theorem resizable_of_stores (stores : StoresOrRefuses state call) : Resizable call := by
  intro number parsed
  have stored := @store_parsed state call number parsed
  cases stores with
  | refused rc refused =>
      rw [stored] at refused
      cases refused
  | stored other _ parsed' _ nonnegative after =>
      obtain rfl : other = number := Except.ok.inj (parsed'.symm.trans parsed)
      refine ⟨nonnegative, fun some failed => ?_⟩
      have sized : (Int32.ofInt other).toUInt32.toNat ≠ 0 :=
        fun none => some ((size_eq_zero_iff (kstrtol_range parsed)).mp none)
      have valid := after.valid
      rw [stored, failed] at valid
      simp only [krealloc_failed sized] at valid
      exact valid

theorem holds_start {pdev : Nat} {device : PlatformDevice} {calls : SysfsProbeCalls}
    {world after : World} {data : PseudoDevPrivateData}
    (probed : pseudoPlatformDriverProbe pdev device calls world = (.ok data, after)) :
    HoldsSize (.start pdev data after) := by
  have sound := sound_start probed
  rcases probe_buffer_owned probed with ⟨empty, buffer⟩ | ⟨block, buffer, _⟩
  · constructor
    · simp [BufferState.start, buffer, Pointer.Valid]
    · simp [BufferState.start, empty, buffer, BufferState.bytes, Pointer.bytes]
  · constructor
    · have live := sound.buffer block buffer
      simp only [BufferState.start, buffer]
      exact live
    · simp only [BufferState.bytes, BufferState.start, buffer, Pointer.bytes, if_true, List.length_replicate]
      exact toInt_le_toNat data.pdata.size

/-- In every run after a successful probe, every store fails whole or resizes
the buffer, and the buffer always has its recorded size, if and only if no
store asks for a negative size or finds no memory. -/
theorem run_resizes_iff {pdev : Nat} {device : PlatformDevice} {calls : SysfsProbeCalls}
    {world after : World} {data : PseudoDevPrivateData} (stores : List StoreCall)
    (probed : pseudoPlatformDriverProbe pdev device calls world = (.ok data, after)) :
    (Along storeMaxSize StoresOrRefuses (.start pdev data after) stores ∧
      ∀ seen, seen <+: stores → HoldsSize (stateAfter storeMaxSize (.start pdev data after) seen)) ↔
      ∀ call ∈ stores, Resizable call := by
  have holds := holds_start probed
  have steps := @along_congr _ _ _ storeMaxSize (.start pdev data after) stores HoldsSize
    (fun _ call => Resizable call)
    (fun state call => StoresOrRefuses state call ∧ HoldsSize (storeMaxSize state call).1)
    (fun state call holds resizable => (store_of_resizable holds resizable).2)
    (fun state call holds =>
      ⟨store_of_resizable holds, fun stores => resizable_of_stores stores.1⟩)
    holds
  rw [along_requests, along_and, along_after_iff holds] at steps
  exact steps.symm

theorem store_grown_in_place :
    HoldsSize (stateAfter storeMaxSize (.start 1 pcdev1Data pcdev1World)
      [storeTwoThousand (.inPlace fun _ => 0)]) := by
  refine ((run_resizes_iff _ pcdev1_probed).mpr ?_).2 _ (List.prefix_refl _)
  intro call member number parsed
  obtain rfl := List.mem_singleton.mp member
  have value : 2000 = number :=
    Except.ok.inj ((by decide : kstrtol (storeTwoThousand .failed).buf = .ok 2000).symm.trans parsed)
  subst value
  exact ⟨by decide, fun _ => nofun⟩

/-- "-1" and a newline. -/
def storeMinusOne : StoreCall where
  buf := ⟨[45, 49, 10], by decide⟩
  count := 3
  allocation := .failed

/-- A store of -1 records it, loses the buffer and reports success. -/
theorem negative_size_stored :
    ¬ ∀ (pdev : Nat) (device : PlatformDevice) (calls : SysfsProbeCalls) (world after : World)
        (data : PseudoDevPrivateData) (stores : List StoreCall),
      pseudoPlatformDriverProbe pdev device calls world = (.ok data, after) →
        Along storeMaxSize StoresOrRefuses (.start pdev data after) stores ∧
          ∀ seen, seen <+: stores →
            HoldsSize (stateAfter storeMaxSize (.start pdev data after) seen) := by
  intro claimed
  have holds := (claimed 1 pcdev1 .succeeding (loaded 100) pcdev1World pcdev1Data [storeMinusOne]
    pcdev1_probed).2 [storeMinusOne] (List.prefix_refl _)
  exact holds.valid

end BbbLkm.PseudoDtSysfs
