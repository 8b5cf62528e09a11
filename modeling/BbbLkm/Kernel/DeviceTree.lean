import Mathlib.Logic.Basic

namespace BbbLkm.Kernel

/-- A string without its terminating NUL. -/
structure CString where
  bytes : List UInt8
  noNul : 0 ∉ bytes
deriving DecidableEq

namespace CString

def length (string : CString) : Nat := string.bytes.length

end CString

/-- A match table: the first of the node's compatible strings that the table
has, and the data it is listed with. -/
def ofMatch {Data : Type*} (table : List (String × Data)) (compatible : List String) :
    Option Data :=
  compatible.findSome? fun name => (table.find? fun entry => entry.1 = name).map Prod.snd

end BbbLkm.Kernel
