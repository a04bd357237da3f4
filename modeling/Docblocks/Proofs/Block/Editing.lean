import Docblocks.Proofs.Block.Repetition
import Mathlib.Data.List.Forall2

/-!
Runs of upserts and strips on a clean text.

Along such a run the buffer is clean, or a clean payload in a clean frame whose markers stand on
comment lines of their own. The last condition is what strips need: they delete a marker together
with its whole line, and the lines around it do not grow together to a new marker.
-/

set_option autoImplicit false
set_option relaxedAutoImplicit false

namespace Docblocks.Block

open Docblocks.Text

variable {t p a d m : Text}

/-- The payload of a step is clean. -/
def Edit.CleanPayload : Edit → Prop
  | .upsert _ p => Clean p
  | .strip => True

instance : DecidablePred Edit.CleanPayload
  | .upsert _ p => inferInstanceAs (Decidable (Clean p))
  | .strip => inferInstanceAs (Decidable True)

/-- The stretch from the first start marker to the end of the first end marker. -/
def located? (t : Text) : Option Text :=
  match (locate t).start?, (locate t).stop? with
  | some s, some e => some ((t.take (e + endMarker.length)).drop s)
  | _, _ => none

/-- What a step leaves: no marker or one pair; no marker after a strip; and after an upsert that
made a text, the body of its payload as the located stretch. An upsert reports no lone marker. -/
def Edit.Sound (e : Edit) (r : Edited) : Prop :=
  (Clean r.content ∨ Paired r.content) ∧
    match e with
    | .upsert _ p => ∃ o, r.outcome? = some o ∧ o.lone = false ∧
        ∀ u, o.content? = some u → r.content = u ∧ located? r.content = some (body p)
    | .strip => Clean r.content

/-! ## The invariant -/

/-- Both markers stand on comment lines of their own. -/
def Frame.Lined (f : Frame) : Prop :=
  ∃ a d, f.before = a ++ " * ".points ∧ f.after = "\n".points ++ d

/-- A clean text, or a clean payload in a clean frame with marker lines. -/
def Orderly (t : Text) : Prop :=
  Clean t ∨ ∃ (f : Frame) (p : Text), t = f.fill p ∧ f.Clean ∧ Clean p ∧ f.Lined

theorem Orderly.clean_or_paired (h : Orderly t) : Clean t ∨ Paired t := by
  rcases h with h | ⟨f, p, rfl, hf, hp, -⟩
  · exact Or.inl h
  · exact Or.inr (Frame.paired_fill hf hp)

theorem Frame.located?_fill {f : Frame} (hf : f.Clean) (hp : Block.Clean p) :
    located? (f.fill p) = some (body p) := by
  have hl : locate (f.fill p) = ⟨some f.before.length,
      some (f.before ++ startMarker ++ inside p).length, 1, 1⟩ := by
    rw [f.fill_eq]
    exact locate_around hf.1 (clean_inside hp) hf.2
  have ht : (f.before ++ startMarker ++ inside p).length + endMarker.length =
      (f.before ++ body p).length := by
    simp only [body_eq, List.length_append]
    omega
  unfold located?
  rw [hl]
  simp only [ht, Frame.fill, List.take_left, List.drop_left]

theorem lined_commentFrame (a c d : Text) : (commentFrame a c d).Lined := by
  have hopen : "\n/**\n * ".points = "\n/**\n".points ++ " * ".points := by decide
  have hclose : "\n */\n".points = "\n".points ++ " */\n".points := by decide
  refine ⟨a ++ "\n/**\n".points, " */\n".points ++ (anchor c ++ d), ?_, ?_⟩
  · rw [commentFrame, hopen, List.append_assoc]
  · rw [commentFrame, hclose, List.append_assoc]

/-! ## Strips -/

/-- What a strip leaves of a body. -/
def stripped (p : Text) : Text := " * \n".points ++ closeLine p ++ " * \n".points

private theorem plain_blank : Plain " * \n".points := plain_of_subset (by decide) (by decide)

private theorem solid_markerLine (m : Text) : Solid (markerLine m) :=
  (plain_of_subset (by decide) (by decide)).solid_around
    (plain_of_subset (by decide) (by decide)) m

private theorem count_start_markerLine_end : count startMarker (markerLine endMarker) = 0 := by
  decide

private theorem seals_markerLine (hm : m ∈ markers) :
    Seals (markerLine m) [] (markerLine m) ∧ Seals (markerLine m) (markerLine m) [] := by
  revert m
  decide

private theorem fill_eq_lines (p : Text) :
    (Frame.mk (a ++ " * ".points) ("\n".points ++ d)).fill p =
      a ++ markerLine startMarker ++ (stripped p ++ markerLine endMarker ++ d) := by
  have hopen : "\n * \n".points = "\n".points ++ " * \n".points := by decide
  have hclose : " * \n * ".points = " * \n".points ++ " * ".points := by decide
  simp [Frame.fill, body, stripped, markerLine, hopen, hclose]

private theorem not_infix_markerLine (h : ¬m <:+: t) : ¬markerLine m <:+: t := by
  intro hl
  exact h ((List.infix_append _ _ _).trans hl)

private theorem clean_stripped_around (ha : Clean a) (hp : Clean p) (hd : Clean d) :
    Clean (a ++ stripped p ++ d) := by
  rw [clean_iff_count]
  intro m hm
  rw [stripped, ← List.append_assoc, plain_blank.solid.count_append_append hm, ← List.append_assoc,
    plain_blank.solid.count_append_append hm, plain_blank.clean.count_eq_zero hm,
    count_closeLine hm, ha.count_eq_zero hm, hp.count_eq_zero hm, hd.count_eq_zero hm]

/-- A strip takes both marker lines out and keeps all else. -/
theorem strip_fill (ha : Clean a) (hp : Clean p) (hd : Clean d) :
    strip ((Frame.mk (a ++ " * ".points) ("\n".points ++ d)).fill p) = a ++ stripped p ++ d := by
  have hclean := clean_stripped_around ha hp hd
  have hstart : ¬startMarker <:+: stripped p ++ markerLine endMarker ++ d := by
    have hs : Clean (stripped p) := hclean.mono (List.infix_append _ _ _)
    rw [← count_eq_zero_iff (ne_nil_of_mem_markers start_mem_markers),
      (solid_markerLine endMarker).count_append_append start_mem_markers,
      hs.count_eq_zero start_mem_markers, hd.count_eq_zero start_mem_markers,
      count_start_markerLine_end]
  have hend : Clean (a ++ stripped p) := hclean.mono List.infix_append_left
  have hfirst : eraseAll (markerLine startMarker)
      (a ++ markerLine startMarker ++ (stripped p ++ markerLine endMarker ++ d)) =
        a ++ (stripped p ++ markerLine endMarker ++ d) :=
    eraseAll_around (by simp [markerLine, ne_nil_of_mem_markers start_mem_markers])
      (seals_markerLine start_mem_markers).1 (seals_markerLine start_mem_markers).2
      (not_infix_markerLine (ha _ start_mem_markers)) (not_infix_markerLine hstart)
  have hsecond : eraseAll (markerLine endMarker)
      (a ++ stripped p ++ markerLine endMarker ++ d) = a ++ stripped p ++ d :=
    eraseAll_around (by simp [markerLine, ne_nil_of_mem_markers end_mem_markers])
      (seals_markerLine end_mem_markers).1 (seals_markerLine end_mem_markers).2
      (not_infix_markerLine (hend _ end_mem_markers))
      (not_infix_markerLine (hd _ end_mem_markers))
  rw [strip, if_pos (Frame.present_fill _ p), fill_eq_lines, hfirst, ← hsecond]
  simp only [List.append_assoc]

/-- A strip of an orderly text leaves no marker. -/
theorem Orderly.clean_strip (h : Orderly t) : Clean (strip t) := by
  rcases h with h | ⟨⟨_, _⟩, p, rfl, hf, hp, a, d, rfl, rfl⟩
  · rw [strip, if_neg h.not_present]
    exact h
  · have ha : Clean a := hf.1.mono List.infix_append_left
    have hd : Clean d := hf.2.mono List.infix_append_right
    rw [strip_fill ha hp hd]
    exact clean_stripped_around ha hp hd

/-! ## Steps and runs -/

/-- An upsert of a clean payload keeps a text orderly. -/
theorem Orderly.upsert (h : Orderly t) (hp : Clean p) (c : Text) :
    ∃ o, Block.upsert t c p = .ok o ∧ o.lone = false ∧ Orderly (o.content?.getD t) ∧
      ∀ u, o.content? = some u → located? u = some (body p) := by
  by_cases hne : p = []
  · subst hne
    exact ⟨.noPayload, rfl, rfl, h, by simp [Outcome.content?]⟩
  rcases h with h | ⟨f, q, rfl, hf, hq, hlined⟩
  · have hlone : (locate t).lone = false := by
      rw [← Bool.not_eq_true, locate_lone_iff]
      exact h.not_lone
    rw [upsert_of_not_present h.not_present c hne, hlone]
    cases hc : cut? (anchor c) t with
    | none => exact ⟨.anchorMissing false, rfl, rfl, Or.inl h, by simp [Outcome.content?]⟩
    | some r =>
      have hf : (commentFrame r.1 c r.2).Clean := by
        rw [Frame.clean_iff_count]
        intro m hm
        rw [count_commentFrame hm, ← eq_append_of_cut? hc]
        exact h.count_eq_zero hm
      refine ⟨.inserted ((commentFrame r.1 c r.2).fill p) false, ?_, rfl, ?_, ?_⟩
      · rw [fill_commentFrame]
      · exact Or.inr ⟨_, p, rfl, hf, hp, lined_commentFrame _ _ _⟩
      · rintro u ⟨⟩
        exact Frame.located?_fill hf hp
  · refine ⟨.replaced (f.fill p), Frame.upsert_fill hf hq c hne, rfl, ?_, ?_⟩
    · exact Or.inr ⟨f, p, rfl, hf, hp, hlined⟩
    · rintro u ⟨⟩
      exact Frame.located?_fill hf hp

/-- A step with a clean payload is sound on an orderly buffer, and leaves one. -/
theorem Orderly.run (h : Orderly t) (e : Edit) (he : e.CleanPayload) :
    ∃ r, Edit.run t e = .ok r ∧ e.Sound r ∧ Orderly r.content := by
  cases e with
  | strip =>
    have hs : Clean (settle t none (some (Block.strip t))).content := by
      rw [settle_content]
      exact h.clean_strip
    exact ⟨_, rfl, ⟨Or.inl hs, hs⟩, Or.inl hs⟩
  | upsert c p =>
    obtain ⟨o, ho, hlone, hord, hbody⟩ := h.upsert he c
    refine ⟨settle t (some o) o.content?, by rw [Edit.run, ho], ⟨?_, o, ?_, hlone, ?_⟩, ?_⟩
    · rw [settle_content]
      exact hord.clean_or_paired
    · exact settle_outcome? _ _ _
    · intro u hu
      have hcontent : (settle t (some o) o.content?).content = u := by simp [hu]
      rw [hcontent]
      exact ⟨rfl, hbody u hu⟩
    · rw [settle_content]
      exact hord

theorem Orderly.runAll (h : Orderly t) (steps : List Edit)
    (hs : ∀ e ∈ steps, e.CleanPayload) :
    List.Forall₂ (fun e x => ∃ r, x = .ok r ∧ Edit.Sound e r) steps (Edit.runAll t steps) := by
  induction steps generalizing t with
  | nil => exact .nil
  | cons e steps ih =>
    obtain ⟨r, hr, hsound, hord⟩ := h.run e (hs e List.mem_cons_self)
    have hafter : Edit.after t e = r.content := by rw [Edit.after, hr]
    refine .cons ⟨r, hr, hsound⟩ ?_
    rw [hafter]
    exact ih hord fun e' he' => hs e' (List.mem_cons_of_mem e he')

/-- From a clean text, upserts of clean payloads by any classes and strips, in any order, all
succeed; after each step there is no marker or one pair, and none after a strip; and after an
upsert that made a text, the located stretch is the body of its payload. -/
theorem runs_keep_one_block (ht : Clean t) (steps : List Edit)
    (hs : ∀ e ∈ steps, e.CleanPayload) :
    List.Forall₂ (fun e x => ∃ r, x = .ok r ∧ Edit.Sound e r) steps (Edit.runAll t steps) :=
  Orderly.runAll (Or.inl ht) steps hs

/-- A block is put in, stripped, put in again above what the strip has left, and replaced. -/
theorem runs_keep_one_block_page :
    Clean "class Page extends Base".points ∧
      List.Forall₂ (fun e x => ∃ r, x = .ok r ∧ Edit.Sound e r)
        [.upsert "Page".points "tag".points, .strip, .upsert "Page".points " * @mixin New\n".points,
          .upsert [] " * @mixin Other\n".points, .upsert "Page".points []]
        (Edit.runAll "class Page extends Base".points
          [.upsert "Page".points "tag".points, .strip,
            .upsert "Page".points " * @mixin New\n".points,
            .upsert [] " * @mixin Other\n".points, .upsert "Page".points []]) := by
  have clean : Clean "class Page extends Base".points := by decide
  exact ⟨clean, runs_keep_one_block clean _ (by decide)⟩

end Docblocks.Block
