import Docblocks.Value.Basic

/-!
The order of the members of a set.

Numbers stand in the slots of an open table, which has eight slots or more than twice as many as
there are numbers. A number goes to the slot of its residue, or to one of a few slots behind it; if
all of these are taken, to another slot that the residue leads to. Members that are no numbers have
no slots of their own, and a set with such a member keeps the order in which it was given.
-/

set_option autoImplicit false
set_option relaxedAutoImplicit false

namespace Docblocks

/-- The prime that residues are taken by. -/
def residuePrime : Nat := Nat.pow 2 61 - 1

/-- The residue of a number of the given sign and size; minus one is left out. -/
def signedResidue (negative : Bool) (size : Nat) : Int :=
  let r := size % residuePrime
  if negative then (if r = 1 then -2 else -(r : Int)) else r

/-- The residue of a number beyond all others. -/
def infiniteResidue : Int := 314159

/-- The residue of a number, which equal numbers share. -/
def Value.residue? : Value → Option Int
  | .bool b => some (if b then 1 else 0)
  | .int n => some (signedResidue (n < 0) n.natAbs)
  | .float (.finite s m e) => some (signedResidue s (m * Nat.pow 2 (e % 61).toNat))
  | .float (.infinite s) => some (if s then -infiniteResidue else infiniteResidue)
  | _ => none

/-- The number of slots for a number of members. -/
def slotCount (members : Nat) : Nat :=
  if members < 5 then 8 else Nat.pow 2 (Nat.log2 (2 * members) + 1)

/-- The number of slots behind a slot that are tried with it. -/
def slotReach : Nat := 9

/-- The first free slot from one on: that slot and some behind it where there are so many, then
those of the next slot that the rest of the residue leads to. -/
def freeSlot (slots : Array (Option Value)) : Nat → Nat → Nat → Nat
  | 0, _, i => i
  | fuel + 1, rest, i =>
    let reach := if i + slotReach < slots.size then slotReach else 0
    match (List.range (reach + 1)).find? fun k => (slots.getD (i + k) none).isNone with
    | some k => i + k
    | none => freeSlot slots fuel (rest / 32) ((i * 5 + 1 + rest / 32) % slots.size)

/-- Puts a value with a residue into a slot. A residue takes up a machine word, so after a few steps
nothing is left of it, and from then on every slot is tried. -/
def placeInSlots (slots : Array (Option Value)) (e : Int × Value) : Array (Option Value) :=
  let word := (e.1 % (Nat.pow 2 64 : Nat)).toNat
  slots.setIfInBounds (freeSlot slots (slots.size + 13) word (word % slots.size)) (some e.2)

/-- The members of a set in the order of the set. -/
def setOrder (members : List Value) : List Value :=
  match members.mapM Value.residue? with
  | none => members
  | some residues =>
    let slots := Array.replicate (slotCount members.length) none
    ((residues.zip members).foldl placeInSlots slots).toList.filterMap id

end Docblocks
