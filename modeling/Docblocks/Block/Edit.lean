import Docblocks.Block.Upsert
import Docblocks.Block.Strip

/-!
Editing steps on a text buffer: each step computes a candidate, and the buffer is replaced only when
the candidate differs from it. A run takes any number of steps, each on what the one before leaves.
-/

set_option autoImplicit false
set_option relaxedAutoImplicit false

namespace Docblocks.Block

/-- One editing step. -/
inductive Edit
  | upsert (className payload : Text)
  | strip
  deriving DecidableEq, Repr

/-- What a step did: the outcome of an upsert, whether the buffer changed, and the buffer after it.
-/
structure Edited where
  outcome? : Option Outcome
  changed : Bool
  content : Text
  deriving DecidableEq, Repr

/-- Keeps a candidate that differs from the buffer. -/
def settle (buffer : Text) (outcome? : Option Outcome) (candidate? : Option Text) : Edited :=
  match change? buffer candidate? with
  | some t => ⟨outcome?, true, t⟩
  | none => ⟨outcome?, false, buffer⟩

/-- Runs one editing step on a buffer. -/
def Edit.run (buffer : Text) : Edit → Except Fault Edited
  | .upsert className payload =>
    match Block.upsert buffer className payload with
    | .error f => .error f
    | .ok o => .ok (settle buffer (some o) o.content?)
  | .strip => .ok (settle buffer none (some (Block.strip buffer)))

/-- The buffer after a step; a step that fails leaves it as it was. -/
def Edit.after (buffer : Text) (e : Edit) : Text :=
  match Edit.run buffer e with
  | .ok r => r.content
  | .error _ => buffer

/-- What the steps of a run give, in order. -/
def Edit.runAll (buffer : Text) : List Edit → List (Except Fault Edited)
  | [] => []
  | e :: es => Edit.run buffer e :: Edit.runAll (Edit.after buffer e) es

/-- The buffer after a run. -/
def Edit.afterAll (buffer : Text) (es : List Edit) : Text :=
  es.foldl Edit.after buffer

end Docblocks.Block
