import Docblocks.Fault

/-!
What becomes of files while they are written.

A file is opened, which empties it, then the text is put into bytes, and then these are stored. The
system may refuse to open the file, which leaves it as it is, or break off while it stores the
bytes, which leaves the file with the first of them. How the system answers is not settled by the
model: a device is any way of answering, which may depend on all that was written before, as on a
disk that fills up.
-/

set_option autoImplicit false
set_option relaxedAutoImplicit false

namespace Docblocks.Disk

/-- Files that were to be written, the oldest first: the place of each, and the bytes that it was
left with unless it could not be opened. -/
abbrev Edits := List (Place × Option Bytes)

/-- How the system answers when files are written: with an error instead of opening a file, or with
an error after it has stored some of the bytes, and how many. -/
structure Device where
  opening : Edits → Place → Option Errno := fun _ _ => none
  storing : Edits → Place → Bytes → Option (Errno × Nat) := fun _ _ _ => none

namespace Device

/-- What comes of writing a text to the file at a place: why it fails if it does, and the bytes that
the file is left with unless it could not be opened. -/
def save (v : Device) (before : Edits) (path : Path) (place : Place) (t : Text) :
    Except Docblocks.Fault Unit × Option Bytes :=
  match v.opening before place with
  | some e => (.error (.unwritten path e), none)
  | none =>
    match Text.Utf8.encode t with
    | .error f => (.error (.unencodable f), some [])
    | .ok bytes =>
      match v.storing before place bytes with
      | some (e, kept) => (.error (.unwritten path e), some (bytes.take kept))
      | none => (.ok (), some bytes)

/-- The device that answers with some errors in turn, one for each file that is to be written, and
with none any more when they are used up: to open the file if no number of bytes is given. -/
def replaying (answers : List (Option (Errno × Option Nat))) : Device where
  opening before _ :=
    match answers[before.length]?.join with
    | some (e, none) => some e
    | _ => none
  storing before _ _ :=
    match answers[before.length]?.join with
    | some (e, some kept) => some (e, kept)
    | _ => none

end Device
end Docblocks.Disk
