import Docblocks.Proofs.Run.Batch

/-!
A batch over what a batch has left.

After a batch that returned and could write every file that it set about to write, every class on
its list is quiet: its file holds the text that the class makes of it, or the class fails on its
markers each time. So a second batch finds nothing to write, and its report says which classes have
spoiled their files. A file that could not be written, or was cut off, is another matter: the second
batch tries it again.
-/

set_option autoImplicit false
set_option relaxedAutoImplicit false

namespace Docblocks.Run

open Docblocks.Schema (Descriptor)

variable {r r' : Run} {disk : Disk} {name n : Text} {w w' : World} {t : Target}
  {d : Descriptor} {ds : List Descriptor} {f : Fault}

/-! ## What the first batch has met -/

theorem Advanced.contained (h : Advanced r name w w') (hx : r.examine w.disk name = .error f) :
    contains f = true := by
  have clash : ∀ {e : Except Skip Finding}, r.examine w.disk name = .ok e → contains f = true := by
    intro e he
    rw [hx] at he
    cases he
  cases h with
  | noted hx' hf =>
    rw [hx] at hx'
    cases hx'
    exact hf
  | done hs =>
    cases hs with
    | passed hx' => exact clash hx'
    | unmade hx' => exact clash hx'
    | kept hx' => exact clash hx'
    | planned hx' => exact clash hx'
    | written hx' => exact clash hx'
  | torn hs hf hv =>
    rw [verdict_of_error hx] at hv
    cases hv

theorem Separate.advance (h : r.Separate w.disk (d :: ds)) (hw : Advanced r name w w') :
    r.Separate w'.disk ds := by
  intro d₁ hd₁ d₂ hd₂ hne t₁ t₂ ht₁ ht₂
  rw [hw.target_eq] at ht₁ ht₂
  exact h d₁ (List.mem_cons_of_mem d hd₁) d₂ (List.mem_cons_of_mem d hd₂) hne t₁ t₂ ht₁ ht₂

/-- Two runs with the same settings, classes and payloads; their switches may differ. -/
structure Alike (r r' : Run) : Prop where
  settings : r'.settings = r.settings
  classes : r'.classes = r.classes
  payload : r'.payload = r.payload

theorem Alike.worklist_eq (h : Alike r r') : r'.worklist = r.worklist := by
  rw [worklist, worklist, h.classes]

theorem Alike.verdict_eq (h : Alike r r') : r'.verdict = r.verdict := by
  funext disk n
  unfold verdict examine target upsert
  rw [h.settings, h.classes, h.payload]

end Docblocks.Run
