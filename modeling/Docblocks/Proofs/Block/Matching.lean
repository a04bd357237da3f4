import Docblocks.Proofs.Block.Locating

/-!
The stretch of a text that an exchange of the block takes.

It is searched for apart from the locator. `Span.First` says which stretch is meant without the
search: of all those that open with the start marker and close with the end marker, with anything in
between, one that begins leftmost, and of these the shortest. Whenever the locator finds both
markers and the first ones in order, repeated or not, this stretch reaches from the first start
marker to the end of the first end marker.
-/

set_option autoImplicit false
set_option relaxedAutoImplicit false

namespace Docblocks.Block

open Docblocks.Text

variable {t : Text} {r s : Span} {i j : Nat}

namespace Span

/-- The text that is split into the span. -/
def text (s : Span) : Text := s.before ++ startMarker ++ s.inside ++ endMarker ++ s.after

/-- The stretch with its markers. -/
def stretch (s : Span) : Text := startMarker ++ s.inside ++ endMarker

/-- The offset of the start marker. -/
def opening (s : Span) : Nat := s.before.length

/-- The offset of the end marker. -/
def closing (s : Span) : Nat := (s.before ++ startMarker ++ s.inside).length

/-- Of all the ways to split the text, one whose stretch begins leftmost, and of these the one with
the shortest stretch. -/
structure First (s : Span) (t : Text) : Prop where
  splits : t = s.text
  leftmost : ∀ r : Span, t = r.text → s.opening ≤ r.opening
  shortest : ∀ r : Span, t = r.text → r.opening = s.opening →
    s.inside.length ≤ r.inside.length

theorem closing_eq (s : Span) : s.closing = s.opening + startMarker.length + s.inside.length := by
  rw [closing, List.length_append, List.length_append, opening]

theorem eq_of_text_eq (h : r.text = s.text) (ho : r.opening = s.opening)
    (hi : r.inside.length = s.inside.length) : r = s := by
  obtain ⟨a, x, d⟩ := r
  obtain ⟨b, y, e⟩ := s
  simp only [text, opening, List.append_assoc] at h ho hi
  obtain ⟨rfl, hrest⟩ := List.append_inj h ho
  obtain ⟨rfl, hrest'⟩ := List.append_inj (List.append_cancel_left hrest) hi
  rw [List.append_cancel_left hrest']

theorem First.unique (hs : s.First t) (hr : r.First t) : r = s := by
  have ho : r.opening = s.opening :=
    Nat.le_antisymm (hr.leftmost s hs.splits) (hs.leftmost r hr.splits)
  have hi : r.inside.length = s.inside.length :=
    Nat.le_antisymm (hr.shortest s hs.splits ho.symm) (hs.shortest r hr.splits ho)
  exact eq_of_text_eq (hr.splits.symm.trans hs.splits) ho hi

/-- A text is split around any start marker and any end marker that begins behind it. -/
theorem exists_iff_places :
    (∃ s : Span, t = s.text ∧ s.opening = i ∧ s.closing = j) ↔
      i ∈ places startMarker t ∧ j ∈ places endMarker t ∧ i + startMarker.length ≤ j := by
  constructor
  · rintro ⟨s, rfl, rfl, rfl⟩
    refine ⟨mem_places.mpr ⟨s.before, s.inside ++ endMarker ++ s.after, by simp [text], rfl⟩,
      mem_places.mpr ⟨s.before ++ startMarker ++ s.inside, s.after, rfl, rfl⟩, ?_⟩
    rw [closing_eq]
    omega
  · rintro ⟨hi, hj, hle⟩
    obtain ⟨a, d, rfl, rfl⟩ := mem_places.mp hi
    obtain ⟨b, e, hsplit, rfl⟩ := mem_places.mp hj
    have hfront : a ++ startMarker <+: a ++ startMarker ++ d := List.prefix_append _ d
    have hback : b <+: a ++ startMarker ++ d := ⟨endMarker ++ e, by rw [hsplit, List.append_assoc]⟩
    have hlen : (a ++ startMarker).length ≤ b.length := by rwa [List.length_append]
    obtain ⟨x, rfl⟩ := List.prefix_of_prefix_length_le hfront hback hlen
    exact ⟨⟨a, x, e⟩, hsplit, rfl, rfl⟩

end Span

/-! ## The search -/

theorem spanHere?_eq_some (h : spanHere? t = some s) : s.First t := by
  rw [spanHere?] at h
  split at h
  · next hp =>
    obtain ⟨d, rfl⟩ := isPrefixOf_iff.mp hp
    obtain ⟨⟨x, e⟩, hcut, rfl⟩ := Option.map_eq_some_iff.mp h
    rw [List.drop_left] at hcut
    refine ⟨?_, fun r _ => Nat.zero_le _, ?_⟩
    · rw [eq_append_of_cut? hcut]
      simp [Span.text]
    · intro r hr ho
      -- Nothing stands before the other stretch either, so both end markers are in `d`.
      have hbefore : r.before = [] := List.eq_nil_of_length_eq_zero ho
      have hd : d = r.inside ++ endMarker ++ r.after := by
        simp only [Span.text, hbefore, List.nil_append, List.append_assoc] at hr
        rw [List.append_cancel_left hr, List.append_assoc]
      exact le_of_head?_places (head?_places_of_cut? hcut)
        (mem_places.mpr ⟨r.inside, r.after, hd, rfl⟩)
  · cases h

theorem before_ne_nil_of_spanHere? (h : spanHere? t = none) (hr : t = r.text) :
    r.before ≠ [] := by
  intro hnil
  have hsplit : t = startMarker ++ (r.inside ++ endMarker ++ r.after) := by
    rw [hr, Span.text, hnil]
    simp
  rw [spanHere?, if_pos (isPrefixOf_iff.mpr ⟨_, hsplit⟩), Option.map_eq_none_iff, hsplit,
    List.drop_left, cut?_eq_none_iff] at h
  exact h ⟨r.inside, r.after, rfl⟩

/-- A split of a text with nothing to be found at its front is a split of the rest. -/
private theorem exists_tail {c : Point} (h : spanHere? (c :: t) = none) (hr : c :: t = r.text) :
    ∃ b, r.before = c :: b ∧ t = (⟨b, r.inside, r.after⟩ : Span).text := by
  obtain ⟨c', b, hb⟩ := List.exists_cons_of_ne_nil (before_ne_nil_of_spanHere? h hr)
  rw [Span.text, hb] at hr
  obtain ⟨rfl, hrest⟩ := List.cons.inj hr
  exact ⟨b, hb, hrest⟩

-- The induction is on the text; the step compares a split of the text with one of its tail.
private theorem first_of_span? (h : span? t = some s) : s.First t := by
  induction t generalizing s with
  | nil => cases h
  | cons c t ih =>
    rw [span?] at h
    cases hhere : spanHere? (c :: t) with
    | some r =>
      rw [hhere] at h
      obtain rfl := Option.some.inj h
      exact spanHere?_eq_some hhere
    | none =>
      rw [hhere] at h
      obtain ⟨s', hs', rfl⟩ := Option.map_eq_some_iff.mp h
      have hfirst := ih hs'
      refine ⟨?_, ?_, ?_⟩
      · rw [hfirst.splits]
        rfl
      · intro r hr
        obtain ⟨b, hb, hrest⟩ := exists_tail hhere hr
        have hle := hfirst.leftmost _ hrest
        simp only [Span.opening, hb, List.length_cons] at hle ⊢
        omega
      · intro r hr ho
        obtain ⟨b, hb, hrest⟩ := exists_tail hhere hr
        refine hfirst.shortest ⟨b, r.inside, r.after⟩ hrest ?_
        simp only [Span.opening, hb, List.length_cons] at ho ⊢
        omega

private theorem exists_span? (hr : t = r.text) : ∃ s, span? t = some s := by
  induction t generalizing r with
  | nil =>
    have hlen := congrArg List.length hr
    have hpos := List.length_pos_iff.mpr (ne_nil_of_mem_markers start_mem_markers)
    simp only [Span.text, List.length_append, List.length_nil] at hlen
    omega
  | cons c t ih =>
    rw [span?]
    cases hhere : spanHere? (c :: t) with
    | some s => exact ⟨s, rfl⟩
    | none =>
      obtain ⟨b, -, hrest⟩ := exists_tail hhere hr
      obtain ⟨s, hs⟩ := ih hrest
      rw [hs]
      exact ⟨_, rfl⟩

/-- The search finds the leftmost and shortest stretch. -/
theorem span?_eq_some_iff : span? t = some s ↔ s.First t := by
  constructor
  · exact first_of_span?
  · intro hs
    obtain ⟨r, hr⟩ := exists_span? hs.splits
    rw [hr, hs.unique (first_of_span? hr)]

/-- The search finds something exactly if an end marker begins at or behind the end of a start
marker. -/
theorem exists_span?_iff : (∃ s, span? t = some s) ↔
    ∃ i ∈ places startMarker t, ∃ j ∈ places endMarker t, i + startMarker.length ≤ j := by
  constructor
  · rintro ⟨s, hs⟩
    obtain ⟨hi, hj, hle⟩ :=
      Span.exists_iff_places.mp ⟨s, (first_of_span? hs).splits, rfl, rfl⟩
    exact ⟨_, hi, _, hj, hle⟩
  · rintro ⟨i, hi, j, hj, hle⟩
    obtain ⟨s, hs, -, -⟩ := Span.exists_iff_places.mpr ⟨hi, hj, hle⟩
    exact exists_span? hs

/-! ## The search and the locator -/

/-- The first places of the markers bound the leftmost and shortest stretch, if they are in order.
-/
theorem first_of_head?_places (hi : (places startMarker t).head? = some i)
    (hj : (places endMarker t).head? = some j) (hle : i ≤ j) :
    ∃ s : Span, s.First t ∧ s.opening = i ∧ s.closing = j := by
  have himem : i ∈ places startMarker t := List.mem_of_head? hi
  have hjmem : j ∈ places endMarker t := List.mem_of_head? hj
  have hbehind : i + startMarker.length ≤ j := by
    have hpos := List.length_pos_iff.mpr (ne_nil_of_mem_markers end_mem_markers)
    rcases places_apart start_mem_markers end_mem_markers himem hjmem with ⟨-, hsame⟩ | hlt | hgt
    · exact absurd hsame (by decide)
    · exact hlt
    · omega
  obtain ⟨s, hs, rfl, rfl⟩ := Span.exists_iff_places.mpr ⟨himem, hjmem, hbehind⟩
  refine ⟨s, ⟨hs, ?_, ?_⟩, rfl, rfl⟩
  · intro r hr
    obtain ⟨hr', -, -⟩ := Span.exists_iff_places.mp ⟨r, hr, rfl, rfl⟩
    exact le_of_head?_places hi hr'
  · intro r hr ho
    obtain ⟨-, hr', -⟩ := Span.exists_iff_places.mp ⟨r, hr, rfl, rfl⟩
    have hclose := le_of_head?_places hj hr'
    rw [Span.closing_eq, Span.closing_eq, ho] at hclose
    omega

theorem Span.cut_eq (h : t = s.text) :
    s.before = t.take s.opening ∧
      s.stretch = (t.take (s.closing + endMarker.length)).drop s.opening ∧
      s.after = t.drop (s.closing + endMarker.length) := by
  have hlen : s.closing + endMarker.length = (s.before ++ s.stretch).length := by
    rw [Span.closing, Span.stretch]
    simp only [List.length_append]
    omega
  have hsplit : t = s.before ++ s.stretch ++ s.after := by
    rw [h, Span.text, Span.stretch]
    simp
  rw [hlen, hsplit, Span.opening]
  refine ⟨?_, ?_, ?_⟩
  · rw [List.append_assoc, List.take_left]
  · rw [List.take_left, List.drop_left]
  · rw [List.drop_left]

/-- The search and the locator agree. What the search finds is the leftmost and shortest stretch
that opens with the start marker and closes with the end marker. If both markers are there and the
first ones are in order, it is what stands from the first start marker to the end of the first end
marker; and there is something to be found exactly if some end marker begins at or behind the end of
some start marker. -/
theorem span_search_agrees_with_locator (t : Text) :
    (∀ s : Span, span? t = some s ↔ s.First t) ∧
    ((locate t).present = true → ¬(locate t).inverted = true →
      ∃ i j s, (locate t).start? = some i ∧ (locate t).stop? = some j ∧ span? t = some s ∧
        s.before = t.take i ∧ s.stretch = (t.take (j + endMarker.length)).drop i ∧
        s.after = t.drop (j + endMarker.length)) ∧
    ((∃ s, span? t = some s) ↔
      ∃ i ∈ places startMarker t, ∃ j ∈ places endMarker t, i + startMarker.length ≤ j) := by
  refine ⟨fun s => span?_eq_some_iff, ?_, exists_span?_iff⟩
  intro hpresent hinverted
  have hagrees : (locate t).Agrees := locateTags_agrees startMarker endMarker t
  obtain ⟨hstart, hstop⟩ := hagrees.present_iff.mp hpresent
  obtain ⟨i, hi⟩ := Option.ne_none_iff_exists'.mp hstart
  obtain ⟨j, hj⟩ := Option.ne_none_iff_exists'.mp hstop
  have hle : i ≤ j := by
    apply Nat.le_of_not_lt
    intro hlt
    exact hinverted (hagrees.inverted_iff.mpr ⟨i, j, hi, hj, hlt⟩)
  have hihead : (places startMarker t).head? = some i := (find?_eq_head? _ t).symm.trans hi
  have hjhead : (places endMarker t).head? = some j := (find?_eq_head? _ t).symm.trans hj
  obtain ⟨s, hfirst, rfl, rfl⟩ := first_of_head?_places hihead hjhead hle
  exact ⟨_, _, s, hi, hj, span?_eq_some_iff.mpr hfirst, Span.cut_eq hfirst.splits⟩

private def repeatedMarkers : Text :=
  "a".points ++ startMarker ++ "\n".points ++ endMarker ++ endMarker ++ startMarker

/-- With both markers twice, the first end marker closes the stretch. -/
theorem span_search_agrees_with_locator_repeated :
    (locate repeatedMarkers).present = true ∧ ¬(locate repeatedMarkers).inverted = true ∧
      ∃ s, span? repeatedMarkers = some s ∧ s.before = "a".points ∧
        s.stretch = startMarker ++ "\n".points ++ endMarker ∧ s.after = endMarker ++ startMarker := by
  have hpresent : (locate repeatedMarkers).present = true := by decide +kernel
  have hinverted : ¬(locate repeatedMarkers).inverted = true := by decide +kernel
  have hstart : (locate repeatedMarkers).start? = some 1 := by decide +kernel
  have hstop : (locate repeatedMarkers).stop? = some 39 := by decide +kernel
  obtain ⟨i, j, s, hi, hj, hs, hbefore, hstretch, hafter⟩ :=
    (span_search_agrees_with_locator repeatedMarkers).2.1 hpresent hinverted
  obtain rfl := Option.some.inj (hi.symm.trans hstart)
  obtain rfl := Option.some.inj (hj.symm.trans hstop)
  refine ⟨hpresent, hinverted, s, hs, ?_, ?_, ?_⟩
  · rw [hbefore]
    decide +kernel
  · rw [hstretch]
    decide +kernel
  · rw [hafter]
    decide +kernel

end Docblocks.Block
