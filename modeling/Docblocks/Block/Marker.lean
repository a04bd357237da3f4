import Docblocks.Text.Search

/-!
The two markers that bound a generated block, and where they stand in a text.

A text is located by the first place and the number of places of each marker. `spanFrom?` is the
search that the replacement uses: the leftmost stretch that opens with the start marker and closes
with the nearest end marker after it.
-/

set_option autoImplicit false
set_option relaxedAutoImplicit false

namespace Docblocks.Block

/-- The text that opens a generated block. -/
def startMarker : Text := "StartGeneratedWithDataObjectAnnotator".points

/-- The text that closes a generated block. -/
def endMarker : Text := "EndGeneratedWithDataObjectAnnotator".points

/-- First place and number of places of an opening and a closing tag. -/
structure Location where
  start? : Option Nat
  stop? : Option Nat
  startCount : Nat
  endCount : Nat
  deriving DecidableEq, Repr

namespace Location

/-- Both kinds of tag occur. -/
def present (l : Location) : Bool :=
  0 < l.startCount && 0 < l.endCount

/-- Exactly one kind of tag occurs. -/
def lone (l : Location) : Bool :=
  decide (0 < l.startCount) != decide (0 < l.endCount)

/-- Both kinds occur and the first closing tag stands before the first opening tag. -/
def inverted (l : Location) : Bool :=
  l.present &&
    match l.start?, l.stop? with
    | some s, some e => e < s
    | _, _ => false

/-- Some kind of tag occurs more than once. -/
def multiple (l : Location) : Bool :=
  1 < l.startCount || 1 < l.endCount

end Location

/-- Locates an opening and a closing tag in a text. -/
def locateTags (opening closing content : Text) : Location where
  start? := Text.find? opening content
  stop? := Text.find? closing content
  startCount := Text.count opening content
  endCount := Text.count closing content

/-- Locates the two markers in a text. -/
def locate (content : Text) : Location :=
  locateTags startMarker endMarker content

/-- A text split around a stretch bounded by the markers. -/
structure Span where
  before : Text
  inside : Text
  after : Text
  deriving DecidableEq, Repr

/-- The stretch that opens right here with the start marker and closes with the nearest end marker.
-/
def spanHere? (content : Text) : Option Span :=
  if startMarker.isPrefixOf content then
    (Text.cut? endMarker (content.drop startMarker.length)).map fun p => ⟨[], p.1, p.2⟩
  else none

/-- The leftmost stretch that opens with the start marker and closes with the nearest end marker. -/
def span? : Text → Option Span
  | [] => none
  | c :: t =>
    match spanHere? (c :: t) with
    | some s => some s
    | none => (span? t).map fun s => ⟨c :: s.before, s.inside, s.after⟩

end Docblocks.Block
