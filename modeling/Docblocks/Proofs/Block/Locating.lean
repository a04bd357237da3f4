import Docblocks.Proofs.Block.Outcomes

/-!
What the numbers of a location mean.

A count passes over the places that begin inside a place it has met, and a search sees the first
place only. For the markers nothing is lost by this: no end of a marker goes together with the front
of one, so no two places of markers overlap. For other tags, which may be empty or overlap
themselves, a count still tells whether there is a first place, and all that is read off a location
depends on no more than that.
-/

set_option autoImplicit false
set_option relaxedAutoImplicit false

namespace Docblocks.Block

open Docblocks.Text

variable {t m k : Text} {i j : Nat} {l : Location}

/-! ## Places of the markers -/

private theorem eq_of_prefix (hm : m ∈ markers) (hk : k ∈ markers) (h : m <+: k ∨ k <+: m) :
    m = k := by
  have hall : ∀ m ∈ markers, ∀ k ∈ markers, m <+: k ∨ k <+: m → m = k := by decide
  exact hall m hm k hk h

/-- Two places of markers are one place of one marker, or do not overlap. -/
theorem places_apart (hm : m ∈ markers) (hk : k ∈ markers) (hi : i ∈ places m t)
    (hj : j ∈ places k t) : (i = j ∧ m = k) ∨ i + m.length ≤ j ∨ j + k.length ≤ i := by
  have hmk : Seals m [] k := (solid_of_mem hk m hm).1
  have hkm : Seals k [] m := (solid_of_mem hm k hk).1
  rcases Nat.lt_trichotomy i j with hlt | heq | hgt
  · exact .inr (.inl (hmk.add_length_le hi hj hlt))
  · subst heq
    obtain ⟨a, d, rfl, rfl⟩ := mem_places.mp hi
    obtain ⟨b, e, hsplit, hlen⟩ := mem_places.mp hj
    -- Both markers stand in front of what is left of the text at the place.
    rw [List.append_assoc, List.append_assoc] at hsplit
    obtain ⟨-, hrest⟩ := List.append_inj hsplit hlen.symm
    have hfront : m <+: k ++ e := ⟨d, hrest⟩
    exact .inl ⟨rfl, eq_of_prefix hm hk
      (List.prefix_or_prefix_of_prefix hfront (List.prefix_append k e))⟩
  · exact .inr (.inr (hkm.add_length_le hj hi hgt))

theorem count_lines (hm : m ∈ markers) (a b : Text) :
    count m (a ++ "\n".points ++ b) = count m a + count m b := by
  have hbreak : Plain "\n".points := plain_of_subset (by decide) (by decide)
  rw [hbreak.solid.count_append_append hm, hbreak.clean.count_eq_zero hm, Nat.add_zero]

/-! ## Counts and first places -/

/-- The counts of a location tell the same as its first places, and so does what is read off them.
-/
structure Location.Agrees (l : Location) : Prop where
  startCount_pos_iff : 0 < l.startCount ↔ l.start? ≠ none
  endCount_pos_iff : 0 < l.endCount ↔ l.stop? ≠ none
  present_iff : l.present = true ↔ l.start? ≠ none ∧ l.stop? ≠ none
  lone_iff : l.lone = true ↔ ¬(l.start? = none ↔ l.stop? = none)
  inverted_iff : l.inverted = true ↔ ∃ s e, l.start? = some s ∧ l.stop? = some e ∧ e < s

theorem Location.agrees_of_counts (hs : 0 < l.startCount ↔ l.start? ≠ none)
    (he : 0 < l.endCount ↔ l.stop? ≠ none) : l.Agrees := by
  have hpresent : l.present = true ↔ l.start? ≠ none ∧ l.stop? ≠ none := by
    rw [Location.present, Bool.and_eq_true, decide_eq_true_iff, decide_eq_true_iff, hs, he]
  refine ⟨hs, he, hpresent, ?_, ?_⟩
  · rw [Location.lone, bne_iff_ne, ne_eq, decide_eq_decide, hs, he]
    simp only [ne_eq, Decidable.not_iff_not]
  · rw [Location.inverted, Bool.and_eq_true, hpresent]
    cases l.start? with
    | none => simp
    | some s =>
      cases l.stop? with
      | none => simp
      | some e => simp

theorem locateTags_agrees (opening closing t : Text) : (locateTags opening closing t).Agrees := by
  apply Location.agrees_of_counts
  · rw [← Option.isSome_iff_ne_none]
    exact count_pos_iff_find? opening t
  · rw [← Option.isSome_iff_ne_none]
    exact count_pos_iff_find? closing t

/-- The locator counts all places of both markers: no two of them overlap, and the places in two
texts with a line end between them add up. For any tags at all, the counts tell the same as the
first places. -/
theorem locator_counts_all_places (t a b opening closing : Text) :
    (locate t).startCount = (places startMarker t).length ∧
    (locate t).endCount = (places endMarker t).length ∧
    (∀ m ∈ markers, ∀ k ∈ markers, ∀ i ∈ places m t, ∀ j ∈ places k t,
      (i = j ∧ m = k) ∨ i + m.length ≤ j ∨ j + k.length ≤ i) ∧
    (locate (a ++ "\n".points ++ b)).startCount = (locate a).startCount + (locate b).startCount ∧
    (locate (a ++ "\n".points ++ b)).endCount = (locate a).endCount + (locate b).endCount ∧
    (locateTags opening closing t).Agrees := by
  refine ⟨count_eq_places start_mem_markers t, count_eq_places end_mem_markers t, ?_,
    count_lines start_mem_markers a b, count_lines end_mem_markers a b,
    locateTags_agrees opening closing t⟩
  intro m hm k hk i hi j hj
  exact places_apart hm hk hi hj

/-- Three markers side by side, and a tag that overlaps itself next to an empty one. -/
theorem locator_counts_all_places_adjacent :
    (locate (startMarker ++ endMarker ++ startMarker)).startCount = 2 ∧
    0 + startMarker.length ≤ 37 ∧
    (locateTags "aa".points [] "baaa".points).inverted = true := by
  let t := startMarker ++ endMarker ++ startMarker
  obtain ⟨hcount, -, hapart, -⟩ := locator_counts_all_places t [] [] [] []
  have hstart : places startMarker t = [0, 72] := by decide +kernel
  have hend : places endMarker t = [37] := by decide +kernel
  have hfirst : 0 ∈ places startMarker t := by rw [hstart]; exact List.mem_cons_self
  have hsecond : 37 ∈ places endMarker t := by rw [hend]; exact List.mem_cons_self
  have hover := hapart startMarker start_mem_markers endMarker end_mem_markers 0 hfirst 37 hsecond
  refine ⟨?_, ?_, ?_⟩
  · rw [hcount, hstart]
    rfl
  · omega
  · obtain ⟨-, -, -, -, -, hagrees⟩ := locator_counts_all_places "baaa".points [] [] "aa".points []
    exact hagrees.inverted_iff.mpr ⟨1, 0, by decide, by decide, Nat.one_pos⟩

end Docblocks.Block
