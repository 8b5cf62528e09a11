import Mathlib.Logic.Basic

namespace BbbLkm.Kernel

def EPERM : Int := 1
def ENOMEM : Int := 12
def EFAULT : Int := 14
def EEXIST : Int := 17
def EINVAL : Int := 22
def ERANGE : Int := 34

/-- A negative error code. -/
abbrev Errno := { code : Int // code < 0 }

namespace Errno

def noMemory : Errno := ⟨-ENOMEM, by decide⟩

def alreadyExists : Errno := ⟨-EEXIST, by decide⟩

def invalid : Errno := ⟨-EINVAL, by decide⟩

def range : Errno := ⟨-ERANGE, by decide⟩

end Errno

end BbbLkm.Kernel
