import Docblocks.Text.Layout

/-!
Paths in normal form: empty and single-dot components are dropped, double-dot components are kept.
Exactly two leading slashes are a root of their own, any other number of them is the plain root.
-/

set_option autoImplicit false
set_option relaxedAutoImplicit false

namespace Docblocks.Disk

/-- Where a path starts. -/
inductive Anchor
  | here
  | root
  | doubleRoot
  deriving DecidableEq, Repr

/-- A path in normal form. -/
structure Path where
  anchor : Anchor
  parts : List Text
  deriving DecidableEq, Repr

namespace Path

/-- The start that the leading slashes of a text mean. -/
def anchorOf (t : Text) : Anchor :=
  match (t.takeWhile (· == .char '/')).length with
  | 0 => .here
  | 2 => .doubleRoot
  | _ => .root

/-- The components of a text, without empty and single-dot ones. -/
def partsOf (t : Text) : List Text :=
  (Text.pieces '/' t).filter fun p => !p.isEmpty && p != ".".points

/-- The path that a text means. -/
def ofText (t : Text) : Path :=
  ⟨anchorOf t, partsOf t⟩

/-- A path followed by another one, which counts alone if it has a root. -/
def join (base p : Path) : Path :=
  if p.anchor = .here then ⟨base.anchor, base.parts ++ p.parts⟩ else p

/-- The path without its last component. -/
def parent (p : Path) : Path :=
  ⟨p.anchor, p.parts.dropLast⟩

/-- The leading slashes of a path. -/
def Anchor.slashes : Anchor → Text
  | .here => []
  | .root => "/".points
  | .doubleRoot => "//".points

/-- The text of a path; the empty path is a single dot. -/
def written (p : Path) : Text :=
  if p.anchor = .here && p.parts.isEmpty then ".".points
  else Anchor.slashes p.anchor ++ Text.join "/".points p.parts

/-- Whether a component holds the code point that ends names. -/
def hasNul (p : Path) : Bool :=
  p.parts.any fun name => name.contains (.char '\x00')

end Path
end Docblocks.Disk
