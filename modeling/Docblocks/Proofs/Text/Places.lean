import Docblocks.Proofs.Text.Seam

/-!
All places of a pattern in a text, those that overlap included.

The scans of a text see less: the search stops at the first place, and the count goes on after each
match, so that it passes over the places that begin inside one. For a pattern that no place of
itself can overlap, the count is the number of all places.
-/

set_option autoImplicit false
set_option relaxedAutoImplicit false

namespace Docblocks.Text

variable {pat t a d : Text} {i k : Nat}

/-- The offsets at which the pattern stands in the text, in order. -/
def places (pat t : Text) : List Nat :=
  (List.range (t.length + 1)).filter fun i => pat.isPrefixOf (t.drop i)

theorem mem_places : i ∈ places pat t ↔ ∃ a d, t = a ++ pat ++ d ∧ a.length = i := by
  unfold places
  rw [List.mem_filter, List.mem_range, List.isPrefixOf_iff_prefix]
  constructor
  · rintro ⟨hi, d, hd⟩
    refine ⟨t.take i, d, ?_, ?_⟩
    · rw [List.append_assoc, hd, List.take_append_drop]
    · rw [List.length_take]
      omega
  · rintro ⟨a, d, rfl, rfl⟩
    constructor
    · simp only [List.length_append]
      omega
    · rw [List.append_assoc, List.drop_left]
      exact List.prefix_append pat d

theorem places_eq_nil_iff : places pat t = [] ↔ ¬pat <:+: t := by
  rw [List.eq_nil_iff_forall_not_mem]
  constructor
  · rintro h ⟨a, d, hd⟩
    exact h a.length (mem_places.mpr ⟨a, d, hd.symm, rfl⟩)
  · intro h i hi
    obtain ⟨a, d, hd, -⟩ := mem_places.mp hi
    exact h ⟨a, d, hd.symm⟩

theorem places_cons (pat : Text) (c : Point) (t : Text) :
    places pat (c :: t) =
      (if pat.isPrefixOf (c :: t) then [0] else []) ++ (places pat t).map (· + 1) := by
  unfold places
  rw [List.length_cons, List.range_succ_eq_map, List.filter_cons, List.drop_zero, List.filter_map]
  split
  · rfl
  · rfl

/-- The search finds the first place. -/
theorem find?_eq_head? (pat t : Text) : find? pat t = (places pat t).head? := by
  unfold find?
  induction t with
  | nil =>
    cases pat with
    | nil => rfl
    | cons b p => rfl
  | cons c t ih =>
    rw [cut?, places_cons]
    split
    · rfl
    · rw [List.nil_append, List.head?_map, ← ih, Option.map_map, Option.map_map]
      rfl

theorem head?_places_of_cut? (h : cut? pat t = some (a, d)) :
    (places pat t).head? = some a.length := by
  rw [← find?_eq_head?, find?, h]
  rfl

/-- The first place is the least one. -/
theorem le_of_head?_places (h : (places pat t).head? = some k) (hi : i ∈ places pat t) : k ≤ i := by
  have hsorted : (places pat t).Pairwise (· < ·) := List.pairwise_lt_range.filter _
  obtain ⟨is, his⟩ := List.head?_eq_some_iff.mp h
  rw [his] at hi hsorted
  rcases List.mem_cons.mp hi with rfl | hmem
  · exact Nat.le_refl i
  · exact Nat.le_of_lt ((List.pairwise_cons.mp hsorted).1 i hmem)

/-- Something is counted exactly when there is a first place; this holds also for the empty pattern
and for one that overlaps itself. -/
theorem count_pos_iff_find? (pat t : Text) : 0 < count pat t ↔ (find? pat t).isSome = true := by
  rw [find?, Option.isSome_map]
  by_cases hne : pat = []
  · subst hne
    have hfirst : cut? [] t = some ([], t) := cut?_self_append [] t
    rw [hfirst]
    simp [count]
  · rw [count_pos_iff hne, Option.isSome_iff_ne_none, ne_eq, cut?_eq_none_iff, Decidable.not_not]

/-! ## Places that do not overlap -/

/-- Behind a place of one pattern, no place of another begins before the first one is over, if no
end of the first pattern goes together with the other pattern. -/
theorem Seals.add_length_le {u : Text} {j : Nat} (h : Seals pat [] u) (hi : i ∈ places pat t)
    (hj : j ∈ places u t) (hij : i < j) : i + pat.length ≤ j := by
  apply Nat.le_of_not_lt
  intro hlt
  obtain ⟨a, d, rfl, rfl⟩ := mem_places.mp hi
  obtain ⟨b, e, hsplit, rfl⟩ := mem_places.mp hj
  have hleft : (a ++ pat ++ d).drop b.length = pat.drop (b.length - a.length) ++ d := by
    rw [List.append_assoc, List.drop_append, List.drop_eq_nil_of_le (Nat.le_of_lt hij),
      List.nil_append, List.drop_append_of_le_length (by omega)]
  have hright : (a ++ pat ++ d).drop b.length = u ++ e := by
    rw [hsplit, List.append_assoc, List.drop_left]
  have hrest : pat.drop (b.length - a.length) <+: u ++ e := ⟨d, hleft.symm.trans hright⟩
  rcases h (b.length - a.length) (by omega) (by omega) with hl | hr
  · exact hl (Or.inr List.nil_suffix)
  · exact hr (List.prefix_or_prefix_of_prefix hrest (List.prefix_append u e))

private theorem le_of_mem_places {c : Point} (h : Seals pat [] pat) (hp : pat <+: c :: t)
    (hi : i ∈ places pat t) : pat.length - 1 ≤ i := by
  have hfront : 0 ∈ places pat (c :: t) := by
    obtain ⟨d, hd⟩ := hp
    exact mem_places.mpr ⟨[], d, hd.symm, rfl⟩
  have hlater : i + 1 ∈ places pat (c :: t) := by
    rw [places_cons]
    exact List.mem_append_right _ (List.mem_map_of_mem hi)
  have hle := h.add_length_le hfront hlater (Nat.succ_pos i)
  omega

private theorem countFrom_eq_length_places (h : Seals pat [] pat) (hne : pat ≠ [])
    (hk : ∀ i ∈ places pat t, k ≤ i) : countFrom pat k t = (places pat t).length := by
  induction t generalizing k with
  | nil =>
    have hnone : places pat [] = [] := places_eq_nil_iff.mpr (by simpa using hne)
    rw [hnone]
    cases k with
    | zero => rfl
    | succ k => rfl
  | cons c t ih =>
    rw [places_cons] at hk
    rw [places_cons, List.length_append, List.length_map]
    cases k with
    | zero =>
      rw [countFrom]
      split
      · next hp =>
        rw [List.isPrefixOf_iff_prefix] at hp
        rw [ih fun i hi => le_of_mem_places h hp hi, List.length_singleton]
        omega
      · rw [ih fun i _ => Nat.zero_le i, List.length_nil]
        omega
    | succ k =>
      -- A scan that has still to pass over something stands at no place.
      have hp : ¬pat.isPrefixOf (c :: t) = true := by
        intro hp
        have h0 := hk 0 (by simp [hp])
        omega
      have hrest : ∀ i ∈ places pat t, k ≤ i := by
        intro i hi
        have hi' := hk (i + 1) (List.mem_append_right _ (List.mem_map_of_mem hi))
        omega
      rw [countFrom, ih hrest, if_neg hp, List.length_nil]
      omega

/-- The count of a pattern that does not overlap itself is the number of all its places. -/
theorem count_eq_length_places (h : Seals pat [] pat) (hne : pat ≠ []) (t : Text) :
    count pat t = (places pat t).length := by
  rw [count, if_neg (by simpa using hne)]
  exact countFrom_eq_length_places h hne fun i _ => Nat.zero_le i

end Docblocks.Text
