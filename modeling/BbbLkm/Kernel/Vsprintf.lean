import Mathlib.Data.List.Count

namespace BbbLkm.Kernel

/-! # Format expansion

`vsnprintf` reads its format byte by byte.  What a conversion prints depends on
the variable arguments, which are the environment's: `texts k` is the text of
the `k`-th one, its width and precision included.
-/

/-- Where in its format `vsnprintf` is. -/
inductive FormatState where
  | text
  | flags
  | width
  | widthArgument
  | point
  | precision
  | precisionArgument
  | qualifier (byte : UInt8)
  | qualified
  /-- After `%p`, whose extensions are letters and digits. -/
  | pointer
deriving DecidableEq

def isFlag (byte : UInt8) : Bool := byte ∈ [45, 43, 32, 35, 48]

def isDigit (byte : UInt8) : Bool := 48 ≤ byte && byte ≤ 57

def isAlphanumeric (byte : UInt8) : Bool :=
  isDigit byte || 65 ≤ byte && byte ≤ 90 || 97 ≤ byte && byte ≤ 122

/-- `h`, `l`, `L`, `z` and `t`. -/
def isQualifier (byte : UInt8) : Bool := byte ∈ [104, 108, 76, 122, 116]

def afterPrecision (byte : UInt8) : Option FormatState :=
  if isQualifier byte then some (.qualifier byte) else none

def afterWidth (byte : UInt8) : Option FormatState :=
  if byte = 46 then some .point else afterPrecision byte

/-- The state that the byte leads to within a directive, if it does not end it. -/
def FormatState.next : FormatState → UInt8 → Option FormatState
  | .text, _ => none
  | .flags, byte =>
      if isFlag byte then some .flags
      else if isDigit byte then some .width
      else if byte = 42 then some .widthArgument
      else afterWidth byte
  | .width, byte => if isDigit byte then some .width else afterWidth byte
  | .widthArgument, byte => afterWidth byte
  | .point, byte =>
      if isDigit byte then some .precision
      else if byte = 42 then some .precisionArgument
      else afterPrecision byte
  | .precision, byte => if isDigit byte then some .precision else afterPrecision byte
  | .precisionArgument, byte => afterPrecision byte
  | .qualifier first, byte => if byte = first ∧ byte ∈ [104, 108] then some .qualified else none
  | .qualified, _ => none
  | .pointer, byte => if isAlphanumeric byte then some .pointer else none

/-- `c`, `s`, `o`, `x`, `X`, `d`, `i` and `u`. -/
def isConversion (byte : UInt8) : Bool := byte ∈ [99, 115, 111, 120, 88, 100, 105, 117]

/-- Outside of directives bytes are copied.  A directive prints a percent sign
or the text of a conversion; what is neither ends the output. -/
def expand (texts : Nat → List UInt8) : FormatState → Nat → List UInt8 → List UInt8
  | _, _, [] => []
  | state, conversions, byte :: rest =>
      match state.next byte with
      | some following => expand texts following conversions rest
      | none =>
          if state = .text ∨ state = .pointer then
            if byte = 37 then expand texts .flags conversions rest
            else byte :: expand texts .text conversions rest
          else if byte = 37 then 37 :: expand texts .text conversions rest
          else if isConversion byte then
            texts conversions ++ expand texts .text (conversions + 1) rest
          else if byte = 112 then texts conversions ++ expand texts .pointer (conversions + 1) rest
          else []

def vsnprintf (texts : Nat → List UInt8) (format : List UInt8) : List UInt8 := expand texts .text 0 format

/-- `kobject_set_name_vargs`, which does not let a name have slashes. -/
def kobjectSetName (texts : Nat → List UInt8) (format : List UInt8) : List UInt8 :=
  (vsnprintf texts format).map fun byte => if byte = 47 then 33 else byte

/-- `%5.2lu%%-%pI4!` -/
example : vsnprintf (fun _ => [48]) [37, 53, 46, 50, 108, 117, 37, 37, 45, 37, 112, 73, 52, 33] =
    [48, 37, 45, 48, 33] := by decide

variable {texts : Nat → List UInt8} {conversions : Nat} {format : List UInt8}

theorem expand_plain (plain : 37 ∉ format) : expand texts .text conversions format = format := by
  induction format with
  | nil => rfl
  | cons byte rest ih =>
      rw [List.mem_cons, not_or] at plain
      simp only [expand, FormatState.next, true_or, if_true, if_neg (Ne.symm plain.1), ih plain.2]

/-- Conversions that print no percent sign let no more of them through than the
format has. -/
theorem count_expand_le (silent : ∀ k, 37 ∉ texts k) (state : FormatState) :
    (expand texts state conversions format).count 37 ≤ format.count 37 := by
  induction format generalizing state conversions with
  | nil => exact Nat.le_refl _
  | cons byte rest ih =>
      have nothing : ∀ k, (texts k).count 37 = 0 := fun k => List.count_eq_zero.mpr (silent k)
      have later := fun following more => @ih more following
      have tail : rest.count 37 ≤ (byte :: rest).count 37 := List.count_le_count_cons
      rw [expand]
      split
      · exact Nat.le_trans (later _ _) tail
      · split
        · split
          · exact Nat.le_trans (later _ _) tail
          · rw [List.count_cons, List.count_cons]
            exact Nat.add_le_add_right (later _ _) _
        · split
          · rename_i percent
            rw [percent, List.count_cons, List.count_cons]
            exact Nat.add_le_add_right (later _ _) _
          · split
            · rw [List.count_append, nothing, Nat.zero_add]
              exact Nat.le_trans (later _ _) tail
            · split
              · rw [List.count_append, nothing, Nat.zero_add]
                exact Nat.le_trans (later _ _) tail
              · exact Nat.zero_le _

/-- A format with a percent sign loses at least one. -/
theorem count_expand_lt (silent : ∀ k, 37 ∉ texts k) (directive : 37 ∈ format) :
    (expand texts .text conversions format).count 37 < format.count 37 := by
  induction format with
  | nil => cases directive
  | cons byte rest ih =>
      simp only [expand, FormatState.next, true_or, if_true]
      by_cases percent : byte = 37
      · rw [if_pos percent, percent, List.count_cons_self]
        exact Nat.lt_succ_of_le (count_expand_le silent .flags)
      · have later : 37 ∈ rest := (List.mem_cons.mp directive).resolve_left (Ne.symm percent)
        rw [if_neg percent, List.count_cons_of_ne percent, List.count_cons_of_ne percent]
        exact ih later

end BbbLkm.Kernel
