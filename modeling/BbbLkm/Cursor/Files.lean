import Mathlib.Logic.Function.Basic
import BbbLkm.Cursor.Device

namespace BbbLkm.Cursor

/-! # Files on bounded devices

What a user of such devices may count on: each file has a position of its own,
a read delivers what lies ahead of it, a write replaces it, and both stop at the
end of the device.  Where the user's memory stops taking or giving bytes comes
with the request.
-/

section Contents

variable {Byte : Type*}

/-- `data` in place of what stood from `start` on. -/
def overwrite (bytes : List Byte) (start : Nat) (data : List Byte) : List Byte :=
  bytes.take start ++ data ++ bytes.drop (start + data.length)

theorem length_overwrite {bytes data : List Byte} {start : Nat}
    (room : start + data.length ≤ bytes.length) : (overwrite bytes start data).length = bytes.length := by
  simp only [overwrite, List.length_append, List.length_take, List.length_drop]
  omega

theorem getElem?_overwrite {bytes data : List Byte} {start : Nat}
    (room : start + data.length ≤ bytes.length) (index : Nat) :
    (overwrite bytes start data)[index]? =
      if start ≤ index ∧ index < start + data.length then data[index - start]? else bytes[index]? := by
  have taken : (bytes.take start).length = start := by
    rw [List.length_take]
    omega
  rw [overwrite, List.append_assoc]
  by_cases before : index < start
  · rw [List.getElem?_append_left (by omega), List.getElem?_take_of_lt before, if_neg (by omega)]
  · rw [List.getElem?_append_right (by omega), taken]
    by_cases within : index - start < data.length
    · rw [List.getElem?_append_left within, if_pos (by omega)]
    · rw [List.getElem?_append_right (by omega), List.getElem?_drop, if_neg (by omega)]
      congr 1
      omega

/-- What arrives of `bytes` if only `reach` of them can be had: the rest of the
place is filled. -/
def landed (blank : Byte) (reach : Nat) (bytes : List Byte) : List Byte :=
  bytes.take reach ++ List.replicate (bytes.length - reach) blank

@[simp] theorem length_landed (blank : Byte) (reach : Nat) (bytes : List Byte) :
    (landed blank reach bytes).length = bytes.length := by
  simp only [landed, List.length_append, List.length_take, List.length_replicate]
  omega

theorem getElem?_landed (blank : Byte) (reach : Nat) {bytes : List Byte} {index : Nat}
    (within : index < bytes.length) :
    (landed blank reach bytes)[index]? = if index < reach then bytes[index]? else some blank := by
  rw [landed]
  split
  · rename_i arrived
    rw [List.getElem?_append_left (by rw [List.length_take]; omega), List.getElem?_take_of_lt arrived]
  · have taken : (bytes.take reach).length = reach := by
      rw [List.length_take]
      omega
    rw [List.getElem?_append_right (by omega), taken, List.getElem?_replicate, if_pos (by omega)]

end Contents

variable {Device Byte : Type*} {size : Device → Nat}

/-- An open file, which stands on its device or at the end of it. -/
structure Opened (size : Device → Nat) where
  device : Device
  position : Nat
  inside : position ≤ size device
  reads : Bool
  writes : Bool

namespace Opened

variable (opened : Opened size)

def rest : Nat := size opened.device - opened.position

def advance (count : Nat) (room : count ≤ opened.rest) : Opened size :=
  { opened with
    position := opened.position + count
    inside := by
      have inside := opened.inside
      unfold rest at room
      omega }

def seek (origin : Origin) (offset : Int) : Opened size :=
  { opened with
    position := (Cursor.seek (size opened.device) opened.position origin offset).toNat
    inside := by
      have range := clamp_range (size opened.device)
        (origin.base (size opened.device) opened.position + offset)
      unfold Cursor.seek
      omega }

end Opened

/-- The bytes of a device, of which there are always as many. -/
structure Image (Byte : Type*) (size : Nat) where
  bytes : List Byte
  length_eq : bytes.length = size

/-- The bytes of every device, and the files by their slots. -/
structure Files (Byte : Type*) (size : Device → Nat) where
  contents : (device : Device) → Image Byte (size device)
  slots : Nat → Option (Opened size)

inductive Request (Device Byte : Type*) where
  | openAs (slot : Nat) (device : Device) (reads writes : Bool)
  | seek (slot : Nat) (origin : Option Origin) (offset : Int)
  | read (slot : Nat) (count reach : Nat)
  | write (slot : Nat) (bytes : List Byte) (reach : Nat)
  | close (slot : Nat)

inductive Reply (Byte : Type*) where
  | opened
  | denied
  | soughtTo (position : Nat)
  | badOrigin
  | delivered (bytes : List Byte)
  /-- The user's memory took only these. -/
  | cutShort (bytes : List Byte)
  | wrote (count : Nat)
  | noRoom
  /-- The user's memory gave out. -/
  | faulted
  | closed
  | refused

namespace Files

variable (files : Files Byte size)

def setSlot (slot : Nat) (opened : Opened size) : Files Byte size :=
  { files with slots := Function.update files.slots slot (some opened) }

def ahead (opened : Opened size) (count : Nat) : List Byte :=
  ((files.contents opened.device).bytes.drop opened.position).take count

theorem ahead_room (opened : Opened size) (count : Nat) :
    (files.ahead opened count).length ≤ opened.rest := by
  simp only [ahead, Opened.rest, List.length_take, List.length_drop, Image.length_eq]
  omega

theorem landed_room (blank : Byte) (reach : Nat) (bytes : List Byte) (opened : Opened size) :
    (landed blank reach (bytes.take opened.rest)).length ≤ opened.rest := by
  rw [length_landed]
  exact List.length_take_le _ bytes

variable [DecidableEq Device]

def replace (opened : Opened size) (data : List Byte) (room : data.length ≤ opened.rest) :
    Files Byte size :=
  { files with
    contents := Function.update files.contents opened.device
      ⟨overwrite (files.contents opened.device).bytes opened.position data, by
        have inside := opened.inside
        have length := (files.contents opened.device).length_eq
        unfold Opened.rest at room
        rw [length_overwrite (by omega), length]⟩ }

theorem bytes_replace {opened : Opened size} {data : List Byte} (room : data.length ≤ opened.rest)
    (device : Device) :
    ((files.replace opened data room).contents device).bytes =
      if device = opened.device then overwrite (files.contents device).bytes opened.position data
      else (files.contents device).bytes := by
  by_cases same : device = opened.device
  · subst same
    simp [replace]
  · simp [replace, same]

/-- `admits` says which files a device may be opened as, and `blank` is what a
write that gives out leaves behind. -/
def serve (admits : Device → Bool → Bool → Bool) (blank : Byte) :
    Request Device Byte → Files Byte size × Reply Byte
  | .openAs slot device reads writes =>
      match files.slots slot with
      | some _ => (files, .refused)
      | none =>
          if admits device reads writes then
            (files.setSlot slot { device, position := 0, inside := Nat.zero_le _, reads, writes }, .opened)
          else (files, .denied)
  | .seek slot origin offset =>
      match files.slots slot, origin with
      | none, _ => (files, .refused)
      | some _, none => (files, .badOrigin)
      | some opened, some origin =>
          (files.setSlot slot (opened.seek origin offset), .soughtTo (opened.seek origin offset).position)
  | .read slot count reach =>
      match files.slots slot with
      | none => (files, .refused)
      | some opened =>
          if opened.reads then
            if (files.ahead opened count).length ≤ reach then
              (files.setSlot slot (opened.advance _ (files.ahead_room opened count)),
                .delivered (files.ahead opened count))
            else (files, .cutShort ((files.ahead opened count).take reach))
          else (files, .refused)
  | .write slot bytes reach =>
      match files.slots slot with
      | none => (files, .refused)
      | some opened =>
          if opened.writes then
            let fitting := bytes.take opened.rest
            have room : fitting.length ≤ opened.rest := List.length_take_le _ _
            if fitting.length = 0 then (files, .noRoom)
            else
              let stored := files.replace opened (landed blank reach fitting) (by simpa using room)
              if fitting.length ≤ reach then
                (stored.setSlot slot (opened.advance fitting.length room), .wrote fitting.length)
              else (stored, .faulted)
          else (files, .refused)
  | .close slot => ({ files with slots := Function.update files.slots slot none }, .closed)

section Transfers

variable {files : Files Byte size} {opened : Opened size} {slot count reach : Nat} {bytes : List Byte}
  (admits : Device → Bool → Bool → Bool) (blank : Byte)

theorem serve_read (found : files.slots slot = some opened) (reads : opened.reads = true)
    (taken : (files.ahead opened count).length ≤ reach) :
    files.serve admits blank (.read slot count reach) =
      (files.setSlot slot (opened.advance _ (files.ahead_room opened count)),
        .delivered (files.ahead opened count)) := by
  simp only [serve, found, if_pos reads, if_pos taken]

theorem serve_read_short (found : files.slots slot = some opened) (reads : opened.reads = true)
    (short : reach < (files.ahead opened count).length) :
    files.serve admits blank (.read slot count reach) =
      (files, .cutShort ((files.ahead opened count).take reach)) := by
  simp only [serve, found, if_pos reads, if_neg (Nat.not_le.mpr short)]

theorem serve_write (found : files.slots slot = some opened) (writes : opened.writes = true)
    (some : bytes.take opened.rest ≠ []) (given : (bytes.take opened.rest).length ≤ reach) :
    files.serve admits blank (.write slot bytes reach) =
      ((files.replace opened (landed blank reach (bytes.take opened.rest))
          (landed_room blank reach bytes opened)).setSlot slot
          (opened.advance _ (List.length_take_le _ bytes)), .wrote (bytes.take opened.rest).length) := by
  have positive : (bytes.take opened.rest).length ≠ 0 := fun zero => some (List.eq_nil_of_length_eq_zero zero)
  simp only [serve, found, if_pos writes, if_neg positive, if_pos given]

theorem serve_write_short (found : files.slots slot = some opened) (writes : opened.writes = true)
    (short : reach < (bytes.take opened.rest).length) :
    files.serve admits blank (.write slot bytes reach) =
      (files.replace opened (landed blank reach (bytes.take opened.rest))
        (landed_room blank reach bytes opened), .faulted) := by
  have positive : (bytes.take opened.rest).length ≠ 0 := by omega
  simp only [serve, found, if_pos writes, if_neg positive, if_neg (Nat.not_le.mpr short)]

theorem serve_write_full (found : files.slots slot = some opened) (writes : opened.writes = true)
    (full : bytes.take opened.rest = []) :
    files.serve admits blank (.write slot bytes reach) = (files, .noRoom) := by
  simp only [serve, found, if_pos writes, full, List.length_nil, if_true]

end Transfers

end Files

end BbbLkm.Cursor
