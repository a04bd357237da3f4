import Docblocks.Text.Point

/-!
Searching a text for a pattern.

`cut?` finds the first place of a pattern, `count` the number of places met by a left-to-right scan
that goes on after each match, and `eraseAll` deletes exactly those places. The scans recurse on the
text itself; a match leaves a number of code points still to be passed over.
-/

set_option autoImplicit false
set_option relaxedAutoImplicit false

namespace Docblocks.Text

/-- Cuts a text at the first place of the pattern, into what stands before it and after it. -/
def cut? (pat : Text) : Text → Option (Text × Text)
  | [] => if pat.isEmpty then some ([], []) else none
  | c :: t =>
    if pat.isPrefixOf (c :: t) then some ([], (c :: t).drop pat.length)
    else (cut? pat t).map fun p => (c :: p.1, p.2)

/-- The offset of the first place of the pattern. -/
def find? (pat t : Text) : Option Nat :=
  (cut? pat t).map fun p => p.1.length

/-- Whether the pattern stands somewhere in the text. -/
def has (pat t : Text) : Bool :=
  (cut? pat t).isSome

/-- Places met by a scan that still has to pass over the given number of code points. -/
def countFrom (pat : Text) : Nat → Text → Nat
  | _, [] => 0
  | k + 1, _ :: t => countFrom pat k t
  | 0, c :: t =>
    if pat.isPrefixOf (c :: t) then countFrom pat (pat.length - 1) t + 1
    else countFrom pat 0 t

/-- The number of places of a pattern that do not overlap; the empty pattern stands between any two
code points and at both ends. -/
def count (pat t : Text) : Nat :=
  if pat.isEmpty then t.length + 1 else countFrom pat 0 t

/-- Deletes the places met by a scan that still has to pass over the given number of code points. -/
def eraseFrom (pat : Text) : Nat → Text → Text
  | _, [] => []
  | k + 1, _ :: t => eraseFrom pat k t
  | 0, c :: t =>
    if pat.isPrefixOf (c :: t) then eraseFrom pat (pat.length - 1) t
    else c :: eraseFrom pat 0 t

/-- Deletes every place of a pattern that is not empty, from left to right. -/
def eraseAll (pat t : Text) : Text :=
  eraseFrom pat 0 t

/-- A text begins with a pattern exactly when it is the pattern followed by something. -/
theorem isPrefixOf_iff {pat t : Text} : pat.isPrefixOf t = true ↔ ∃ d, t = pat ++ d := by
  rw [List.isPrefixOf_iff_prefix]
  exact ⟨fun ⟨d, h⟩ => ⟨d, h.symm⟩, fun ⟨d, h⟩ => ⟨d, h.symm⟩⟩

/-- What a cut removes is the pattern, and nothing else is lost. -/
theorem eq_append_of_cut? {pat t a d : Text} (h : cut? pat t = some (a, d)) :
    t = a ++ pat ++ d := by
  induction t generalizing a with
  | nil =>
    cases pat with
    | nil => simp_all [cut?]
    | cons c p => simp [cut?] at h
  | cons c t ih =>
    rw [cut?] at h
    split at h
    next hp =>
      obtain ⟨e, he⟩ := isPrefixOf_iff.1 hp
      simp only [he, List.drop_left, Option.some.injEq, Prod.mk.injEq] at h
      simp [he, ← h.1, ← h.2]
    next =>
      obtain ⟨p, hp, hc⟩ := Option.map_eq_some_iff.1 h
      simp only [Prod.mk.injEq] at hc
      obtain ⟨rfl, rfl⟩ := hc
      simp [ih hp]

end Docblocks.Text
