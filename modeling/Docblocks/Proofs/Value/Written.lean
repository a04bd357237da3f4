import Docblocks.Proofs.Result
import Docblocks.Value.Written

/-!
Which values can be written.

Nothing but a whole number with too many digits keeps a value from being written, and it does so
wherever it stands in the value, in keys and under any number of brackets. A value that stands in
itself is written as dots there, so that its numbers come up once.
-/

set_option autoImplicit false
set_option relaxedAutoImplicit false

namespace Docblocks.Number

/-- The number has no more digits than the limit allows. -/
def Fits (n : Int) : Prop := n.natAbs < Nat.pow 10 digitLimit

instance (n : Int) : Decidable (Fits n) :=
  inferInstanceAs (Decidable (n.natAbs < Nat.pow 10 digitLimit))

theorem length_natText_le_iff {n k : Nat} (hk : 0 < k) :
    (natText n).length ≤ k ↔ n < Nat.pow 10 k := by
  have hlen : (natText n).length = (Nat.toDigits 10 n).length := by
    rw [natText, String.points, Text.ofChars, List.length_map, Nat.toString_eq_ofList_toDigits,
      String.toList_ofList]
  rw [hlen]
  exact Nat.length_toDigits_le_iff (by decide) hk

theorem exists_intWritten_iff (n : Int) : (∃ t, intWritten n = .ok t) ↔ Fits n := by
  have hfits : (natText n.natAbs).length ≤ digitLimit ↔ Fits n :=
    length_natText_le_iff (by decide)
  rw [intWritten, ← hfits]
  split
  · next hlt => simp [hlt]
  · next hle => simp [Nat.le_of_not_lt hle]

end Docblocks.Number

namespace Docblocks.Value

open Docblocks.Number (Fits exists_intWritten_iff)

mutual

/-- The whole numbers that come up when a value is written inside the knots of some labels. -/
def wholesIn (around : List Label) : Value → List Int
  | .int n => [n]
  | .list items => wholesOfItems around items
  | .pair a b => wholesIn around a ++ wholesIn around b
  | .setOf members => wholesOfItems around members
  | .map entries => wholesOfEntries around entries
  | .knot l body => if l ∈ around then [] else wholesIn (l :: around) body
  | _ => []

def wholesOfItems (around : List Label) : List Value → List Int
  | [] => []
  | v :: vs => wholesIn around v ++ wholesOfItems around vs

def wholesOfEntries (around : List Label) : List (Value × Value) → List Int
  | [] => []
  | (k, v) :: es => wholesIn around k ++ wholesIn around v ++ wholesOfEntries around es

end

/-- The whole numbers in a value. -/
def wholes (v : Value) : List Int := wholesIn [] v

private theorem lookup_eq_none_iff {around : List (Label × Text)} {l : Label} :
    around.lookup l = none ↔ l ∉ around.map (·.1) := by
  rw [List.lookup_eq_none_iff, List.mem_map, not_exists]
  constructor
  · rintro h e ⟨he, rfl⟩
    simpa using h e he
  · intro h e he
    simpa using fun hl => h e ⟨he, hl.symm⟩

mutual

/-- A value is written exactly if all whole numbers in it fit. -/
theorem exists_literalIn_iff (around : List (Label × Text)) (v : Value) :
    (∃ t, literalIn around v = .ok t) ↔ ∀ n ∈ wholesIn (around.map (·.1)) v, Fits n := by
  cases v with
  | int n => simp [literalIn, wholesIn, exists_intWritten_iff]
  | list items =>
    rw [literalIn, Except.exists_map_eq_ok, wholesIn]
    exact exists_literalsIn_iff around items
  | setOf members =>
    rw [literalIn, Except.exists_map_eq_ok, wholesIn]
    exact exists_literalsIn_iff around members
  | map entries =>
    rw [literalIn, Except.exists_map_eq_ok, wholesIn]
    exact exists_entryLiteralsIn_iff around entries
  | pair a b =>
    rw [literalIn, wholesIn, List.forall_mem_append, ← exists_literalIn_iff around a,
      ← exists_literalIn_iff around b]
    cases literalIn around a with
    | error f => simp
    | ok s => simp [Except.exists_map_eq_ok]
  | knot l body =>
    rw [literalIn, wholesIn]
    cases hl : around.lookup l with
    -- A knot inside itself is written as dots, and none of its numbers comes up again.
    | some t =>
      have hinside : l ∈ around.map (·.1) := by
        apply Decidable.byContradiction
        intro hout
        rw [lookup_eq_none_iff.mpr hout] at hl
        cases hl
      rw [if_pos hinside]
      simp
    | none =>
      rw [if_neg (lookup_eq_none_iff.mp hl)]
      exact exists_literalIn_iff ((l, body.ellipsis) :: around) body
  | bool b => cases b <;> simp [literalIn, wholesIn]
  | _ => simp [literalIn, wholesIn]

theorem exists_literalsIn_iff (around : List (Label × Text)) (vs : List Value) :
    (∃ ts, literalsIn around vs = .ok ts) ↔ ∀ n ∈ wholesOfItems (around.map (·.1)) vs, Fits n := by
  cases vs with
  | nil => simp [literalsIn, wholesOfItems]
  | cons v vs =>
    rw [literalsIn, wholesOfItems, List.forall_mem_append, ← exists_literalIn_iff around v,
      ← exists_literalsIn_iff around vs]
    cases literalIn around v with
    | error f => simp
    | ok t => simp [Except.exists_map_eq_ok]

theorem exists_entryLiteralsIn_iff (around : List (Label × Text)) (es : List (Value × Value)) :
    (∃ ts, entryLiteralsIn around es = .ok ts) ↔
      ∀ n ∈ wholesOfEntries (around.map (·.1)) es, Fits n := by
  cases es with
  | nil => simp [entryLiteralsIn, wholesOfEntries]
  | cons e es =>
    obtain ⟨k, v⟩ := e
    rw [entryLiteralsIn, wholesOfEntries, List.forall_mem_append, List.forall_mem_append,
      ← exists_literalIn_iff around k, ← exists_literalIn_iff around v,
      ← exists_entryLiteralsIn_iff around es]
    cases literalIn around k with
    | error f => simp
    | ok s =>
      cases literalIn around v with
      | error f => simp
      | ok t => simp [Except.exists_map_eq_ok]

end

theorem exists_written_iff (v : Value) : (∃ t, v.written = .ok t) ↔ ∀ n ∈ v.wholes, Fits n := by
  have hliteral : (∃ t, v.literal = .ok t) ↔ ∀ n ∈ v.wholes, Fits n :=
    exists_literalIn_iff [] v
  cases v with
  | text t => simp [written, wholes, wholesIn]
  | date d => simp [written, wholes, wholesIn]
  | moment m => simp [written, wholes, wholesIn]
  | _ => exact hliteral

end Docblocks.Value
