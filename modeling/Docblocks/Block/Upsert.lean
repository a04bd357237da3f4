import Docblocks.Block.Marker

/-!
Putting a payload into the generated block of a class.

A text with one well-placed pair of markers gets its block replaced; a text without a pair gets a
new comment above the class declaration. Everything outside the block is kept as it is.
-/

set_option autoImplicit false
set_option relaxedAutoImplicit false

namespace Docblocks.Block

/-- The declaration above which a new block is put; the word after the name keeps plain mentions of
the class out. -/
def anchor (className : Text) : Text :=
  "class ".points ++ className ++ " extends".points

/-- The payload with a line end, which is added only when it is missing. -/
def closeLine (payload : Text) : Text :=
  if payload.getLast? = some '\n' then payload else payload ++ "\n".points

/-- The block body: both markers with the payload between blank comment lines. -/
def body (payload : Text) : Text :=
  startMarker ++ "\n * \n".points ++ closeLine payload ++ " * \n * ".points ++ endMarker

/-- The comment that is put above a class without a block. -/
def comment (payload : Text) : Text :=
  "\n/**\n * ".points ++ body payload ++ "\n */\n".points

/-- Why the markers of a text do not form one block. -/
inductive Disorder
  | inverted
  | multiple
  deriving DecidableEq, Repr

/-- A text whose markers are present and do not form exactly one ordered block. -/
structure Fault where
  disorder : Disorder
  className : Text
  startCount : Nat
  endCount : Nat
  deriving DecidableEq, Repr

/-- The wording of a marker fault. -/
def Fault.message (f : Fault) : Text :=
  match f.disorder with
  | .inverted => "End marker precedes start marker in ".points ++ f.className ++ " source".points
  | .multiple =>
    "Expected one generated block for ".points ++ f.className ++ ", found ".points ++
      (toString f.startCount).points ++ " start and ".points ++
      (toString f.endCount).points ++ " end markers".points

/-- What became of a text. Without a pair of markers, `lone` tells whether one kind occurs. -/
inductive Outcome
  | replaced (content : Text)
  | inserted (content : Text) (lone : Bool)
  | noPayload
  | anchorMissing (lone : Bool)
  deriving DecidableEq, Repr

namespace Outcome

/-- The new text, if there is one. -/
def content? : Outcome → Option Text
  | .replaced t => some t
  | .inserted t _ => some t
  | .noPayload => none
  | .anchorMissing _ => none

/-- Whether the text held exactly one kind of marker. -/
def lone : Outcome → Bool
  | .replaced _ => false
  | .inserted _ b => b
  | .noPayload => false
  | .anchorMissing b => b

/-- The name of an outcome in reports. -/
def status : Outcome → Text
  | .replaced _ => "replaced".points
  | .inserted _ _ => "inserted".points
  | .noPayload => "no_payload".points
  | .anchorMissing _ => "anchor_not_found".points

end Outcome

/-- Puts a new block in the place of the first block of a text. -/
def replaceSpan (content block : Text) : Text :=
  match span? content with
  | some s => s.before ++ block ++ s.after
  | none => content

/-- Puts a payload into the block of a class, or a new block above its declaration. -/
def upsert (content className payload : Text) : Except Fault Outcome :=
  if payload.isEmpty then .ok .noPayload
  else
    let l := locate content
    if l.present then
      if l.inverted then .error ⟨.inverted, className, l.startCount, l.endCount⟩
      else if l.multiple then .error ⟨.multiple, className, l.startCount, l.endCount⟩
      else .ok (.replaced (replaceSpan content (body payload)))
    else
      match Text.cut? (anchor className) content with
      | none => .ok (.anchorMissing l.lone)
      | some (before, after) =>
        .ok (.inserted (before ++ comment payload ++ anchor className ++ after) l.lone)

/-- The text to be written, if a candidate differs from what is there. -/
def change? (current : Text) (candidate? : Option Text) : Option Text :=
  match candidate? with
  | none => none
  | some t => if t = current then none else some t

end Docblocks.Block
