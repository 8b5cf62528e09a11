import Mathlib.Data.List.Basic
import BbbLkm.Memory.Flat

namespace BbbLkm.Kernel

open BbbLkm.Memory

/-- `sysfs_streq`, which disregards a newline at the end of either string. -/
def sysfsStreq : List UInt8 → List UInt8 → Bool
  | first :: left, second :: right => first = second && sysfsStreq left right
  | left, right => left = right || left = [] && right = [10] || left = [10] && right = []

theorem sysfsStreq_iff {left right : List UInt8} :
    sysfsStreq left right = true ↔ left = right ∨ right = left ++ [10] ∨ left = right ++ [10] := by
  induction left generalizing right with
  | nil => cases right <;> simp [sysfsStreq]
  | cons first left ih =>
      cases right with
      | nil => simp [sysfsStreq]
      | cons second right =>
          rw [sysfsStreq, Bool.and_eq_true, decide_eq_true_iff, ih, List.cons_append, List.cons_append,
            List.cons.injEq, List.cons.injEq, List.cons.injEq, and_or_left, and_or_left, @eq_comm _ second]

section Pages

def PAGE_SIZE : Nat := 4096

/-- The buffer of a `show` method. -/
structure Page extends Region where
  whole : size = PAGE_SIZE

/-- The page at the start of the kernel's memory. -/
def firstPage : Page where
  base := 0xC0000000
  size := PAGE_SIZE
  fits := by decide
  whole := rfl

/-- What `sprintf` returns and writes. -/
structure Printed where
  ret : Int
  memory : Mem
  touched : List UInt32

/-- `sprintf`, with the text that its format makes of the arguments.  The text
is written with its NUL. -/
def sprintf (memory : Mem) (buf : UInt32) (text : List UInt8) : Printed where
  ret := text.length
  memory := store memory buf (text.length + 1) fun index => (text ++ [0]).getD index 0
  touched := span buf (text.length + 1)

/-- A `show` method fails or shows the text, and writes to its page only. -/
structure Shows (page : Page) (text : List UInt8) (printed : Printed) : Prop where
  shown : printed.ret < 0 ∨
    printed.ret = text.length ∧ load printed.memory (page.address 0) text.length = text
  within : ∀ address ∈ printed.touched, page.Contains address

theorem load_sprintf {page : Page} {text : List UInt8} (room : text.length < PAGE_SIZE) (memory : Mem) :
    load (sprintf memory (page.address 0) text).memory (page.address 0) text.length = text := by
  have size := page.whole
  apply List.ext_getElem (by simp [load])
  intro index _ bound
  have stored := @Region.store_address page.toRegion memory 0 (text.length + 1) index
    (fun index => (text ++ [0]).getD index 0) (by omega) (by omega)
  rw [Nat.zero_add, Nat.sub_zero, if_pos (by omega)] at stored
  simp only [Region.load_address, List.getElem_map, List.getElem_range, Nat.zero_add, sprintf, stored]
  rw [List.getD_eq_getElem?_getD, List.getElem?_append_left bound, List.getElem?_eq_getElem bound,
    Option.getD_some]

/-- A text is shown if and only if the page holds it with its NUL. -/
theorem shows_sprintf_iff {page : Page} {text : List UInt8} (memory : Mem) :
    Shows page text (sprintf memory (page.address 0) text) ↔ text.length < PAGE_SIZE := by
  have size := page.whole
  have proper : page.size < 2 ^ 32 := by
    rw [size]
    decide
  have within := @Region.span_within_iff page.toRegion proper (text.length + 1)
  rw [size] at within
  apply Iff.intro
  · intro shows
    exact within.mp shows.within
  · intro room
    exact ⟨Or.inr ⟨rfl, load_sprintf room memory⟩, within.mpr room⟩

end Pages

end BbbLkm.Kernel
