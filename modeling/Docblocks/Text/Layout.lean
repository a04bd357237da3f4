import Docblocks.Text.Search

/-!
Putting texts together: joining with a separator, padding to a width, cutting at a code point.
-/

set_option autoImplicit false
set_option relaxedAutoImplicit false

namespace Docblocks.Text

/-- Texts one after another with a separator between any two. -/
def join (sep : Text) : List Text → Text
  | [] => []
  | [t] => t
  | t :: u :: rest => t ++ sep ++ join sep (u :: rest)

/-- A text filled up with spaces on the right to a width. -/
def padRight (width : Nat) (t : Text) : Text :=
  t ++ List.replicate (width - t.length) (.char ' ')

/-- A number in decimal, filled up with zeros on the left to a width. -/
def padNat (width n : Nat) : Text :=
  let ds := (toString n).points
  List.replicate (width - ds.length) (.char '0') ++ ds

/-- The pieces of a text between the places of a code point. -/
def pieces (sep : Point) : Text → List Text
  | [] => [[]]
  | c :: t =>
    match pieces sep t with
    | [] => [[c]]
    | p :: ps => if c = sep then [] :: p :: ps else (c :: p) :: ps

/-- The lines of a text, each with a line end added. -/
def unlines (ls : List Text) : Text :=
  ls.flatMap fun l => l ++ "\n".points

end Docblocks.Text
