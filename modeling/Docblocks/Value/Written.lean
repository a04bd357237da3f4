import Docblocks.Value.Basic
import Docblocks.Text.Quoted

/-!
Values as text. `literal` is the form inside a list or a mapping, with texts quoted and dates
spelled out; `written` is the form of a value on its own. A value inside itself is written as three
dots between its brackets. A whole number beyond the limit of digits has no text.
-/

set_option autoImplicit false
set_option relaxedAutoImplicit false

namespace Docblocks.Value

open Docblocks.Text (join quoted quotedBytes)
open Docblocks.Number (TooLong intWritten)

/-- A text between an opening and a closing one. -/
def between (opening closing : String) (t : Text) : Text :=
  opening.points ++ t ++ closing.points

/-- What stands for a value inside itself. -/
def ellipsis : Value → Text
  | .map _ => between "\x7b" "\x7d" "...".points
  | .pair _ _ => between "(" ")" "...".points
  | _ => between "[" "]" "...".points

mutual

/-- A value inside the knots of some labels, each with what stands for it. -/
def literalIn (around : List (Label × Text)) : Value → Except TooLong Text
  | .null => .ok "None".points
  | .bool true => .ok "True".points
  | .bool false => .ok "False".points
  | .int n => intWritten n
  | .float x => .ok x.written
  | .undefined _ => .ok Number.Binary.undefined.written
  | .date d => .ok d.literal
  | .moment m => .ok m.literal
  | .text t => .ok (quoted t)
  | .bytes bs => .ok (quotedBytes bs)
  | .list items =>
    (literalsIn around items).map fun ts => between "[" "]" (join ", ".points ts)
  | .pair a b =>
    match literalIn around a with
    | .error f => .error f
    | .ok s => (literalIn around b).map fun t => between "(" ")" (join ", ".points [s, t])
  | .setOf members =>
    (literalsIn around members).map fun ts =>
      if ts.isEmpty then "set()".points else between "\x7b" "\x7d" (join ", ".points ts)
  | .map entries =>
    (entryLiteralsIn around entries).map fun ts => between "\x7b" "\x7d" (join ", ".points ts)
  | .knot l body =>
    match around.lookup l with
    | some t => .ok t
    | none => literalIn ((l, body.ellipsis) :: around) body
  | .back l => .ok ((around.lookup l).getD [])

/-- The literals of a list of values. -/
def literalsIn (around : List (Label × Text)) : List Value → Except TooLong (List Text)
  | [] => .ok []
  | v :: vs =>
    match literalIn around v with
    | .error f => .error f
    | .ok t => (literalsIn around vs).map (t :: ·)

/-- The literals of a list of entries. -/
def entryLiteralsIn (around : List (Label × Text)) :
    List (Value × Value) → Except TooLong (List Text)
  | [] => .ok []
  | (k, v) :: es =>
    match literalIn around k with
    | .error f => .error f
    | .ok s =>
      match literalIn around v with
      | .error f => .error f
      | .ok t => (entryLiteralsIn around es).map ((s ++ ": ".points ++ t) :: ·)

end

/-- A value as it stands inside a list or a mapping. -/
def literal (v : Value) : Except TooLong Text :=
  literalIn [] v

/-- A value on its own. -/
def written : Value → Except TooLong Text
  | .text t => .ok t
  | .date d => .ok d.written
  | .moment m => .ok m.written
  | v => v.literal

/-- The texts of some values. -/
def writtenAll : List Value → Except TooLong (List Text)
  | [] => .ok []
  | v :: vs =>
    match v.written with
    | .error f => .error f
    | .ok t => (writtenAll vs).map (t :: ·)

/-- The name of the type of a value. -/
def typeName : Value → Text
  | .null => "NoneType".points
  | .bool _ => "bool".points
  | .int _ => "int".points
  | .float _ => "float".points
  | .undefined _ => "float".points
  | .date _ => "date".points
  | .moment _ => "datetime".points
  | .text _ => "str".points
  | .bytes _ => "bytes".points
  | .list _ => "list".points
  | .pair _ _ => "tuple".points
  | .setOf _ => "set".points
  | .map _ => "dict".points
  | .knot _ body => body.typeName
  | .back _ => "list".points

end Docblocks.Value
