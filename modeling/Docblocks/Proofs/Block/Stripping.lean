import Docblocks.Proofs.Block.Editing
import Docblocks.Proofs.Block.Outcomes
import Docblocks.Proofs.Text.Lines

/-!
What a strip takes out of a text, and what it leaves.

A strip deletes the two marker lines by their wording, each without regard to the other and to where
it stands. Where the marker lines of a text begin lines, this leaves out whole lines, and a marker
goes exactly if it stands on such a line. So a pair of markers with only one of them on a line of
its own is torn, and the marker that is left is a lone one. Where a marker line stands behind
something on its line, the text around it grows together and may hold a marker line again, so that
a second strip goes on; each strip that changes a text makes it shorter.
-/

set_option autoImplicit false
set_option relaxedAutoImplicit false

namespace Docblocks.Block

open Docblocks.Text

variable {t m l : Text}

/-- The lines that a strip deletes. -/
def markerLines : List Text := markers.map markerLine

/-- Each marker line that stands in the text begins a line. -/
def Aligned (t : Text) : Prop := ∀ l ∈ markerLines, BeginsLines l t

instance (t : Text) : Decidable (Aligned t) :=
  inferInstanceAs (Decidable (∀ l ∈ markerLines, BeginsLines l t))

theorem forall_markerLines {P : Text → Prop} :
    (∀ l ∈ markerLines, P l) ↔ P (markerLine startMarker) ∧ P (markerLine endMarker) := by
  simp [markerLines, markers]

private theorem isLine_of_mem (hl : l ∈ markerLines) : IsLine l := by
  revert l
  rw [forall_markerLines]
  exact ⟨⟨" * ".points ++ startMarker, rfl, by decide⟩, ⟨" * ".points ++ endMarker, rfl, by decide⟩⟩

private theorem markerLine_mem (hm : m ∈ markers) : markerLine m ∈ markerLines :=
  List.mem_map_of_mem hm

private theorem short_of_mem (hm : m ∈ markers) : Short m := by
  revert m
  decide

theorem strip_of_present (hs : startMarker <:+: t) (he : endMarker <:+: t) :
    strip t = eraseAll (markerLine endMarker) (eraseAll (markerLine startMarker) t) := by
  rw [strip, if_pos (locate_present_iff.mpr ⟨hs, he⟩)]

theorem strip_of_not_present (h : ¬(startMarker <:+: t ∧ endMarker <:+: t)) : strip t = t := by
  rw [strip, if_neg (by rwa [locate_present_iff])]

theorem strip_of_no_lines (h : ∀ l ∈ markerLines, ¬l <:+: t) : strip t = t := by
  rw [forall_markerLines] at h
  unfold strip
  split
  · rw [eraseAll_eq_self h.1, eraseAll_eq_self h.2]
  · rfl

/-! ## Lines that are left out -/

theorem Aligned.line_eq (h : Aligned t) {k : Text} (hk : k ∈ lines t) (hl : l ∈ markerLines)
    (hin : l <:+: k) : k = l :=
  (h l hl).line_eq (isLine_of_mem hl) k hk hin

theorem Aligned.infix_iff (h : Aligned t) (hl : l ∈ markerLines) : l <:+: t ↔ l ∈ lines t := by
  rw [(isLine_of_mem hl).short.infix_iff]
  constructor
  · rintro ⟨k, hk, hin⟩
    rwa [h.line_eq hk hl hin] at hk
  · intro hmem
    exact ⟨l, hmem, List.infix_refl l⟩

/-- A strip of an aligned text leaves the marker lines out. -/
theorem Aligned.strip_eq (h : Aligned t) (hs : startMarker <:+: t) (he : endMarker <:+: t) :
    strip t = ((lines t).filter (· ∉ markerLines)).flatten := by
  have hstart := markerLine_mem start_mem_markers
  have hend := markerLine_mem end_mem_markers
  -- The lines of the text between the two deletions are lines of the text.
  have hbetween : ∀ k ∈ lines ((lines t).filter (· ≠ markerLine startMarker)).flatten,
      markerLine endMarker <:+: k → k = markerLine endMarker := by
    intro k hk
    rw [lines_flatten_filter] at hk
    exact h.line_eq (List.mem_of_mem_filter hk) hend
  rw [strip_of_present hs he,
    (isLine_of_mem hstart).eraseAll_eq fun k hk => h.line_eq hk hstart,
    (isLine_of_mem hend).eraseAll_eq hbetween, lines_flatten_filter, List.filter_filter]
  congr 1
  apply List.filter_congr
  intro k _
  simp [markerLines, markers, and_comm]

theorem Aligned.not_infix_strip (h : Aligned t) (hs : startMarker <:+: t)
    (he : endMarker <:+: t) (hl : l ∈ markerLines) : ¬l <:+: strip t := by
  rw [h.strip_eq hs he, (isLine_of_mem hl).short.infix_iff, lines_flatten_filter]
  rintro ⟨k, hk, hin⟩
  obtain ⟨hmem, hkeep⟩ := List.mem_filter.mp hk
  rw [h.line_eq hmem hl hin] at hkeep
  simp [hl] at hkeep

private theorem not_mem_markerLines (h : Point.char '\n' ∉ t) : t ∉ markerLines := by
  intro hl
  obtain ⟨k, rfl, -⟩ := isLine_of_mem hl
  exact h (by simp)

/-- A strip is a filter of lines: of a text with both markers, whose marker lines begin lines, it
keeps the rest and every line but the marker lines, and what it keeps is again the lines and the
rest of a text. -/
theorem strip_filters_lines (hs : startMarker <:+: t) (he : endMarker <:+: t) (h : Aligned t) :
    (∃ ls rest, Divides ls rest t) ∧
    ∀ ls rest, Divides ls rest t → Divides (ls.filter (· ∉ markerLines)) rest (strip t) := by
  refine ⟨exists_divides t, ?_⟩
  intro ls rest hd
  have hkept := hd.filter (· ∉ markerLines) (by simpa using not_mem_markerLines hd.unended)
  rwa [← h.strip_eq hs he] at hkept

/-- Lines in no good order: the end marker comes first, and again at the end without a line end. -/
def strayLines : List Text :=
  [markerLine endMarker, "kept\n".points, markerLine startMarker, markerLine startMarker,
    "* \n".points]

/-- All three marker lines go; the last marker is on no line of its own and stays. -/
theorem strip_filters_lines_stray :
    Aligned (strayLines.flatten ++ endMarker) ∧
      Divides strayLines endMarker (strayLines.flatten ++ endMarker) ∧
      strip (strayLines.flatten ++ endMarker) = "kept\n* \n".points ++ endMarker := by
  have hs : startMarker <:+: strayLines.flatten ++ endMarker :=
    (count_pos_iff (by decide)).mp (by decide +kernel)
  have he : endMarker <:+: strayLines.flatten ++ endMarker := List.infix_append' _ _ []
  have haligned : Aligned (strayLines.flatten ++ endMarker) := by decide +kernel
  have hd : Divides strayLines endMarker (strayLines.flatten ++ endMarker) := by
    refine ⟨rfl, ?_, by decide⟩
    have hstart : IsLine (markerLine startMarker) :=
      isLine_of_mem (markerLine_mem start_mem_markers)
    have hend : IsLine (markerLine endMarker) := isLine_of_mem (markerLine_mem end_mem_markers)
    have hkept : IsLine "kept\n".points := ⟨"kept".points, rfl, by decide⟩
    have hblank : IsLine "* \n".points := ⟨"* ".points, rfl, by decide⟩
    simp [strayLines, hstart, hend, hkept, hblank]
  refine ⟨haligned, hd, ?_⟩
  rw [((strip_filters_lines hs he haligned).2 _ _ hd).eq]
  decide +kernel

/-! ## Markers that are left -/

private theorem count_markerLine {n : Text} (hm : m ∈ markers) (hn : n ∈ markers) :
    count m (markerLine n) = if markerLine n = markerLine m then 1 else 0 := by
  have hall : ∀ m ∈ markers, ∀ n ∈ markers,
      count m (markerLine n) = if markerLine n = markerLine m then 1 else 0 := by
    decide
  exact hall m hm n hn

-- A line that is left out takes one marker with it, if it is the line of that marker.
private theorem count_eq_count_kept (hm : m ∈ markers) (t : Text) :
    count m t = count m ((lines t).filter (· ∉ markerLines)).flatten +
      (lines t).count (markerLine m) := by
  have hshort := short_of_mem hm
  induction t using line_induction with
  | nil => rfl
  | rest t hne hmem =>
    have hkeep : t ∉ markerLines := not_mem_markerLines hmem
    have hother : t ≠ markerLine m := by
      rintro rfl
      exact hkeep (markerLine_mem hm)
    simp [lines_of_not_mem hne hmem, hkeep, hother]
  | line k u hk ih =>
    rw [hshort.count_line, ih, lines_append hk, List.count_cons, List.filter_cons]
    by_cases hl : k ++ [Point.char '\n'] ∈ markerLines
    · obtain ⟨n, hn, hline⟩ := List.mem_map.mp hl
      rw [← hline, count_markerLine hm hn]
      simp only [hline, hl, not_true_eq_false, decide_false, Bool.false_eq_true, if_false,
        beq_iff_eq]
      omega
    · have hother : k ++ [Point.char '\n'] ≠ markerLine m := by
        intro heq
        exact hl (heq ▸ markerLine_mem hm)
      simp only [hl, not_false_eq_true, decide_true, if_true, List.flatten_cons,
        hshort.count_line, beq_iff_eq, hother, if_false]
      omega

/-- A strip of an aligned text takes away the markers that stand on marker lines. -/
theorem Aligned.count_strip (h : Aligned t) (hs : startMarker <:+: t) (he : endMarker <:+: t)
    (hm : m ∈ markers) : count m t = count m (strip t) + (lines t).count (markerLine m) := by
  rw [h.strip_eq hs he]
  exact count_eq_count_kept hm t

/-- Of a pair of markers, a strip takes away the one that stands on a marker line. -/
theorem Aligned.infix_strip_iff (h : Aligned t) (hp : Paired t) (hm : m ∈ markers) :
    m <:+: strip t ↔ ¬markerLine m <:+: t := by
  have hone : ∀ n ∈ markers, count n t = 1 := forall_markers.mpr ⟨hp.1, hp.2.1⟩
  have hcount := h.count_strip (hp.holds start_mem_markers) (hp.holds end_mem_markers) hm
  rw [hone m hm] at hcount
  rw [h.infix_iff (markerLine_mem hm), ← List.count_pos_iff,
    ← count_pos_iff (ne_nil_of_mem_markers hm)]
  omega

private theorem Clean.not_infix_lines (h : Clean t) : ∀ l ∈ markerLines, ¬l <:+: t := by
  intro l hl hin
  obtain ⟨m, hm, rfl⟩ := List.mem_map.mp hl
  exact h m hm ((List.infix_append _ m _).trans hin)

theorem Aligned.lone_strip_iff (h : Aligned t) (ht : Clean t ∨ Paired t) :
    Lone (strip t) ↔ ¬(markerLine startMarker <:+: t ↔ markerLine endMarker <:+: t) := by
  rcases ht with hc | hp
  · have hno := hc.not_infix_lines
    rw [strip_of_no_lines hno]
    have hnone := forall_markerLines.mp hno
    simp [hc.not_lone, hnone.1, hnone.2]
  · have hs := h.infix_strip_iff hp start_mem_markers
    have he := h.infix_strip_iff hp end_mem_markers
    rw [Lone, hs, he]
    by_cases hsl : markerLine startMarker <:+: t
    · simp [hsl]
    · simp [hsl]

theorem Aligned.clean_strip (h : Aligned t) (hp : Paired t)
    (hs : markerLine startMarker <:+: t) (he : markerLine endMarker <:+: t) : Clean (strip t) := by
  rw [Clean, forall_markers, h.infix_strip_iff hp start_mem_markers,
    h.infix_strip_iff hp end_mem_markers]
  exact ⟨fun hno => hno hs, fun hno => hno he⟩

/-- A strip of a text with no marker or one pair, whose marker lines begin lines, leaves no marker
or one pair exactly if both markers stand on marker lines or none does. It takes out both or leaves
the text as it is then; else it leaves a lone marker, which every later payload meets. -/
theorem strip_keeps_pair_iff (ht : Clean t ∨ Paired t) (h : Aligned t) :
    (Clean (strip t) ∨ Paired (strip t) ↔
      (markerLine startMarker <:+: t ↔ markerLine endMarker <:+: t)) ∧
    (markerLine startMarker <:+: t → markerLine endMarker <:+: t → Clean (strip t)) ∧
    (¬markerLine startMarker <:+: t → ¬markerLine endMarker <:+: t → strip t = t) ∧
    ∀ c p, p ≠ [] → ∃ o, upsert (strip t) c p = .ok o ∧
      (o.lone = true ↔ ¬(markerLine startMarker <:+: t ↔ markerLine endMarker <:+: t)) := by
  have hboth : markerLine startMarker <:+: t → markerLine endMarker <:+: t → Clean (strip t) := by
    intro hs he
    rcases ht with hc | hp
    · exact absurd hs (forall_markerLines.mp hc.not_infix_lines).1
    · exact h.clean_strip hp hs he
  have hnone : ¬markerLine startMarker <:+: t → ¬markerLine endMarker <:+: t → strip t = t :=
    fun hs he => strip_of_no_lines (forall_markerLines.mpr ⟨hs, he⟩)
  have hlone := h.lone_strip_iff ht
  have hkept : Clean (strip t) ∨ Paired (strip t) ↔
      (markerLine startMarker <:+: t ↔ markerLine endMarker <:+: t) := by
    constructor
    · intro hkept
      have hnot : ¬Lone (strip t) := by
        rcases hkept with hc | hp
        · exact hc.not_lone
        · exact hp.not_lone
      rwa [hlone, not_not] at hnot
    · intro hiff
      by_cases hs : markerLine startMarker <:+: t
      · exact .inl (hboth hs (hiff.mp hs))
      · rw [hnone hs (fun he => hs (hiff.mpr he))]
        exact ht
  refine ⟨hkept, hboth, hnone, ?_⟩
  intro c p hp
  rw [← hlone]
  apply exists_upsert_lone _ c hp
  by_cases hiff : markerLine startMarker <:+: t ↔ markerLine endMarker <:+: t
  · rcases hkept.mpr hiff with hc | hp
    · exact .inl hc
    · exact .inr (.inl hp)
  · exact .inr (.inr (hlone.mpr hiff))

/-- Both markers of a comment that an upsert puts in stand on marker lines. -/
theorem strip_keeps_pair_iff_comment :
    Paired (comment "tag".points) ∧ Aligned (comment "tag".points) ∧
      markerLine startMarker <:+: comment "tag".points ∧
      markerLine endMarker <:+: comment "tag".points ∧ Clean (strip (comment "tag".points)) := by
  have hpaired : Paired (comment "tag".points) :=
    Frame.paired_fill (f := ⟨"\n/**\n * ".points, "\n */\n".points⟩) ⟨by decide, by decide⟩
      (by decide)
  have haligned : Aligned (comment "tag".points) := by decide +kernel
  have hs : markerLine startMarker <:+: comment "tag".points :=
    (count_pos_iff (by decide)).mp (by decide +kernel)
  have he : markerLine endMarker <:+: comment "tag".points :=
    (count_pos_iff (by decide)).mp (by decide +kernel)
  exact ⟨hpaired, haligned, hs, he,
    (strip_keeps_pair_iff (.inr hpaired) haligned).2.1 hs he⟩

/-- A hand-written pair, whose second marker has a line of its own, but not a marker line. -/
def tornBlock : Text :=
  " * ".points ++ startMarker ++ "\nanything here\n".points ++ endMarker ++ "\n */\n".points

/-- A strip takes one marker of the pair and leaves the other, which the next payload meets as a
lone one. -/
theorem strip_tears_pair :
    Paired tornBlock ∧ ¬(Clean (strip tornBlock) ∨ Paired (strip tornBlock)) ∧
      Lone (strip tornBlock) ∧
      ∃ o, upsert (strip tornBlock) "Foo".points "tag".points = .ok o ∧ o.lone = true := by
  have hpaired : Paired tornBlock := paired_around (by decide) (by decide) (by decide)
  have hlone : Lone (strip tornBlock) := by decide +kernel
  obtain ⟨o, ho, hreports⟩ := exists_upsert_lone (p := "tag".points) (.inr (.inr hlone))
    "Foo".points (by decide)
  refine ⟨hpaired, ?_, hlone, o, ho, hreports.mpr hlone⟩
  rintro (hc | hp)
  · exact hc.not_lone hlone
  · exact hp.not_lone hlone

/-! ## Strips one after another -/

theorem strip_sublist (t : Text) : (strip t).Sublist t := by
  unfold strip
  split
  · exact (eraseAll_sublist _ _).trans (eraseAll_sublist _ t)
  · exact List.Sublist.refl t

theorem length_strip_lt (h : strip t ≠ t) : (strip t).length < t.length := by
  apply Nat.lt_of_not_le
  intro hle
  exact h ((strip_sublist t).eq_of_length_le hle)

theorem strip_eq_self_iff : strip t = t ↔
    (startMarker <:+: t → endMarker <:+: t → ∀ l ∈ markerLines, ¬l <:+: t) := by
  constructor
  · intro hsame hs he
    rw [strip_of_present hs he] at hsame
    have hstart : ¬markerLine startMarker <:+: t := by
      intro hl
      have hfirst :=
        length_eraseAll_lt (isLine_of_mem (markerLine_mem start_mem_markers)).short.1 hl
      have hsecond := (eraseAll_sublist (markerLine endMarker)
        (eraseAll (markerLine startMarker) t)).length_le
      rw [hsame] at hsecond
      omega
    have hend : ¬markerLine endMarker <:+: t := by
      intro hl
      have hsecond := length_eraseAll_lt (isLine_of_mem (markerLine_mem end_mem_markers)).short.1 hl
      rw [eraseAll_eq_self hstart] at hsame
      rw [hsame] at hsecond
      omega
    exact forall_markerLines.mpr ⟨hstart, hend⟩
  · intro h
    by_cases hpair : startMarker <:+: t ∧ endMarker <:+: t
    · exact strip_of_no_lines (h hpair.1 hpair.2)
    · exact strip_of_not_present hpair

theorem Aligned.strip_strip (h : Aligned t) : strip (strip t) = strip t := by
  by_cases hpair : startMarker <:+: t ∧ endMarker <:+: t
  · apply strip_of_no_lines
    intro l hl
    exact h.not_infix_strip hpair.1 hpair.2 hl
  · rw [strip_of_not_present hpair, strip_of_not_present hpair]

@[simp] theorem after_strip (t : Text) : Edit.after t .strip = strip t := by
  simp [Edit.after, Edit.run]

private theorem afterAll_strips_of_eq (h : strip t = t) (n : Nat) :
    Edit.afterAll t (List.replicate n .strip) = t := by
  induction n with
  | zero => rfl
  | succ n ih =>
    rw [List.replicate_succ, Edit.afterAll, List.foldl_cons, after_strip, h]
    exact ih

/-- As many strips as the text is long leave nothing for another one. -/
theorem strip_afterAll_strips {n : Nat} (hn : t.length ≤ n) :
    strip (Edit.afterAll t (List.replicate n .strip)) =
      Edit.afterAll t (List.replicate n .strip) := by
  induction n generalizing t with
  | zero =>
    obtain rfl : t = [] := List.length_eq_zero_iff.mp (Nat.le_zero.mp hn)
    exact List.sublist_nil.mp (strip_sublist [])
  | succ n ih =>
    by_cases h : strip t = t
    · rw [afterAll_strips_of_eq h, h]
    · have hlt := length_strip_lt h
      rw [List.replicate_succ, Edit.afterAll, List.foldl_cons, after_strip]
      exact ih (by omega)

/-- When a second strip has nothing to do: exactly if the first one leaves no marker line, or not
both markers; and so always if the marker lines of the text begin lines. Whatever the text, strips
come to rest. -/
theorem strip_again_iff (t : Text) :
    (strip (strip t) = strip t ↔
      (startMarker <:+: strip t → endMarker <:+: strip t → ∀ l ∈ markerLines, ¬l <:+: strip t)) ∧
    (Aligned t → strip (strip t) = strip t) ∧
    ∀ n, t.length ≤ n → strip (Edit.afterAll t (List.replicate n .strip)) =
      Edit.afterAll t (List.replicate n .strip) :=
  ⟨strip_eq_self_iff, Aligned.strip_strip, fun _ => strip_afterAll_strips⟩

/-- A marker line inside the wording of another one, and an end marker that is on no marker line. -/
def nestedLines : Text :=
  " * Start * ".points ++ startMarker ++ "\nGeneratedWithDataObjectAnnotator\n".points ++
    endMarker ++ "\n".points

/-- What stands around the deleted line grows together to a marker line, which a second strip
deletes, although the text holds one pair of markers. -/
theorem second_strip_goes_on :
    Paired nestedLines ∧ strip (strip nestedLines) ≠ strip nestedLines ∧
      strip nestedLines = markerLine startMarker ++ endMarker ++ "\n".points ∧
      strip (strip nestedLines) = endMarker ++ "\n".points := by
  have hpaired : Paired nestedLines := paired_around (by decide) (by decide) (by decide)
  have hfirst : strip nestedLines = markerLine startMarker ++ endMarker ++ "\n".points := by
    decide +kernel
  have hsecond : strip (strip nestedLines) = endMarker ++ "\n".points := by
    rw [hfirst]
    decide +kernel
  refine ⟨hpaired, ?_, hfirst, hsecond⟩
  rw [hsecond, hfirst]
  decide +kernel

end Docblocks.Block
