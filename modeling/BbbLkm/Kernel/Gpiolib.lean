import BbbLkm.Kernel.Errno

namespace BbbLkm.Kernel

/-! # GPIO lines

What gpiolib's consumer calls do to a line.  Whether a call fails is the
environment's choice, and so is what a failed change of direction leaves behind.
Values are logical: a line is active or not.
-/

/-- An input drives nothing. -/
inductive Line where
  | input
  | output (active : Bool)
deriving DecidableEq

namespace Line

/-- The level of the line, where `outside` drives it if it is an input. -/
def level (outside : Bool) : Line → Bool
  | .input => outside
  | .output active => active

def DrivenActive (line : Line) : Prop := line = .output true

end Line

/-- The error of a change of direction comes with the line that it leaves. -/
abbrev Redirection := Except (Errno × Line) Unit

def gpiodGetDirection (outcome : Except Errno Unit) (line : Line) : Int :=
  match outcome, line with
  | .error rc, _ => rc.val
  | .ok _, .output _ => 0
  | .ok _, .input => 1

def redirect (target : Line) : Redirection → Int × Line
  | .error (rc, left) => (rc.val, left)
  | .ok _ => (0, target)

def gpiodDirectionInput : Redirection → Int × Line := redirect .input

def gpiodDirectionOutput (value : Int) : Redirection → Int × Line := redirect (.output (value ≠ 0))

def gpiodGetValue (outside : Bool) (outcome : Except Errno Unit) (line : Line) : Int :=
  match outcome with
  | .error rc => rc.val
  | .ok _ => if line.level outside then 1 else 0

/-- An input is not driven, and the caller does not learn of it. -/
def gpiodSetValue (value : Int) : Line → Line
  | .input => .input
  | .output _ => .output (value ≠ 0)

theorem gpiodSetValue_drives_iff {value : Int} {line : Line} :
    ((gpiodSetValue value line).DrivenActive ↔ value ≠ 0) ↔ (line = .input → value = 0) := by
  cases line with
  | input => simp [gpiodSetValue, Line.DrivenActive]
  | output active => simp [gpiodSetValue, Line.DrivenActive]

end BbbLkm.Kernel
