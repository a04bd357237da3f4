import Docblocks.Block.Edit
import Docblocks.Proofs.Block.Frame

/-!
Upserts on what an upsert has made.

Two main statements: when the same payload can be put in again and again, and that of several
payloads put in one after another only the last one is left.
-/

set_option autoImplicit false
set_option relaxedAutoImplicit false

namespace Docblocks.Block

variable {t c p q u : Text} {o : Outcome}

/-! ## Steps of a run -/

@[simp] theorem settle_content (buffer : Text) (o? : Option Outcome) (k? : Option Text) :
    (settle buffer o? k?).content = k?.getD buffer := by
  cases k? with
  | none => rfl
  | some k =>
    by_cases hk : k = buffer
    · simp [settle, change?, hk]
    · simp [settle, change?, hk]

@[simp] theorem settle_outcome? (buffer : Text) (o? : Option Outcome) (k? : Option Text) :
    (settle buffer o? k?).outcome? = o? := by
  unfold settle
  split
  · rfl
  · rfl

/-- A text that takes no payload is left as it is. -/
private theorem after_upsert_eq_self (h : ∀ c q, q ≠ [] → ∃ f, upsert t c q = .error f)
    (c q : Text) : Edit.after t (.upsert c q) = t := by
  by_cases hq : q = []
  · subst hq
    simp [Edit.after, Edit.run, upsert, Outcome.content?]
  · obtain ⟨f, hf⟩ := h c q hq
    simp [Edit.after, Edit.run, hf]

private theorem afterAll_upserts_eq_self (h : ∀ c q, q ≠ [] → ∃ f, upsert t c q = .error f)
    (steps : List (Text × Text)) :
    Edit.afterAll t (steps.map fun s => .upsert s.1 s.2) = t := by
  induction steps with
  | nil => rfl
  | cons s steps ih =>
    rw [List.map_cons, Edit.afterAll, List.foldl_cons, after_upsert_eq_self h]
    exact ih

/-! ## The same payload again -/

theorem upsert_again_of_clean (first : upsert t c p = .ok o) (made : o.content? = some u)
    (hl : ¬Lone t) (hp : Clean p) (c' : Text) : upsert u c' p = .ok (.replaced u) := by
  obtain ⟨hne, f, rfl, hf, -⟩ := exists_frame first made
  exact Frame.upsert_fill (hf.mpr hl) hp c' hne

theorem upsert_again_of_lone (first : upsert t c p = .ok o) (made : o.content? = some u)
    (hl : Lone t) (c' : Text) (hq : q ≠ []) : ∃ f, upsert u c' q = .error f := by
  obtain ⟨-, f, rfl, hf, -⟩ := exists_frame first made
  exact Frame.exists_upsert_fill_error (fun h => hf.mp h.1 hl) c' hq

theorem upsert_again_of_not_clean (first : upsert t c p = .ok o) (made : o.content? = some u)
    (hp : ¬Clean p) (c' : Text) : ∃ f, upsert u c' p = .error f := by
  obtain ⟨hne, f, rfl, -, -⟩ := exists_frame first made
  exact Frame.exists_upsert_fill_error (fun h => hp h.2) c' hne

/-- A payload that has made a text is put into it again without a change, by any class, exactly when
the text before was not lone and the payload is clean; else the second time fails. A text made from
a lone one takes no payload at all any more, so that it stays as it is under all further upserts.
-/
theorem upsert_same_payload_again (first : upsert t c p = .ok o) (made : o.content? = some u) :
    (∀ c', (¬Lone t ∧ Clean p →
        upsert u c' p = .ok (.replaced u) ∧ (Outcome.replaced u).lone = false) ∧
      (¬(¬Lone t ∧ Clean p) → ∃ f, upsert u c' p = .error f)) ∧
    (Lone t → (∀ c' q, q ≠ [] → ∃ f, upsert u c' q = .error f) ∧
      ∀ steps : List (Text × Text),
        Edit.afterAll u (steps.map fun s => .upsert s.1 s.2) = u) := by
  refine ⟨fun c' => ⟨?_, ?_⟩, ?_⟩
  · rintro ⟨hl, hp⟩
    exact ⟨upsert_again_of_clean first made hl hp c', rfl⟩
  · intro h
    by_cases hl : Lone t
    · exact upsert_again_of_lone first made hl c' (exists_frame first made).1
    · exact upsert_again_of_not_clean first made (fun hp => h ⟨hl, hp⟩) c'
  · intro hl
    have hfail : ∀ c' q, q ≠ [] → ∃ f, upsert u c' q = .error f :=
      fun c' q hq => upsert_again_of_lone first made hl c' hq
    exact ⟨hfail, afterAll_upserts_eq_self hfail⟩

/-- The two sides of the condition: the second text holds an end marker and no start marker. -/
theorem upsert_same_payload_again_page :
    (∃ u, upsert "class Page extends Base".points "Page".points "tag".points =
        .ok (.inserted u false) ∧ upsert u "Tag".points "tag".points = .ok (.replaced u)) ∧
      ∃ u, upsert (endMarker ++ "class Page extends Base".points) "Page".points "tag".points =
        .ok (.inserted u true) ∧ ∃ f, upsert u "Tag".points " * @mixin New\n".points = .error f := by
  have clean : upsert "class Page extends Base".points "Page".points "tag".points =
      .ok (.inserted ((commentFrame [] "Page".points " Base".points).fill "tag".points) false) := by
    rfl
  have lone : upsert (endMarker ++ "class Page extends Base".points) "Page".points "tag".points =
      .ok (.inserted ((commentFrame endMarker "Page".points " Base".points).fill "tag".points)
        true) := by
    rfl
  refine ⟨⟨_, clean, ?_⟩, ⟨_, lone, ?_⟩⟩
  · exact (((upsert_same_payload_again clean rfl).1 _).1
      ⟨by decide, by decide⟩).1
  · exact ((upsert_same_payload_again lone rfl).2 (by decide)).1 _ _ (by decide)

/-! ## Other payloads -/

private theorem run_upsert_fill {f : Frame} (hf : f.Clean) (hp : Clean p) (c : Text)
    (hq : q ≠ []) :
    ∃ r, Edit.run (f.fill p) (.upsert c q) = .ok r ∧ r.outcome? = some (.replaced r.content) ∧
      r.content = f.fill q := by
  refine ⟨settle (f.fill p) (some (.replaced (f.fill q))) (some (f.fill q)), ?_, ?_, ?_⟩
  · rw [Edit.run, Frame.upsert_fill hf hp c hq]
    rfl
  · simp
  · simp

-- Along the run the buffer is the same frame, filled with the payload of the step before.
private theorem runAll_fill {f : Frame} (hf : f.Clean) (hp : Clean p)
    (steps : List (Text × Text)) (hs : ∀ s ∈ steps, s.2 ≠ [] ∧ Clean s.2) :
    (∀ x ∈ Edit.runAll (f.fill p) (steps.map fun s => .upsert s.1 s.2),
      ∃ r, x = .ok r ∧ r.outcome? = some (.replaced r.content)) ∧
    Edit.afterAll (f.fill p) (steps.map fun s => .upsert s.1 s.2) =
      f.fill ((steps.map Prod.snd).getLastD p) := by
  induction steps generalizing p with
  | nil => exact ⟨by simp [Edit.runAll], rfl⟩
  | cons s steps ih =>
    obtain ⟨hne, hc⟩ := hs s List.mem_cons_self
    obtain ⟨r, hr, ho, hfill⟩ := run_upsert_fill hf hp s.1 hne
    have hafter : Edit.after (f.fill p) (.upsert s.1 s.2) = f.fill s.2 := by
      rw [Edit.after, hr]
      exact hfill
    obtain ⟨hall, hlast⟩ := ih hc fun s' hs' => hs s' (List.mem_cons_of_mem s hs')
    constructor
    · intro x hx
      rw [List.map_cons, Edit.runAll, hafter, List.mem_cons] at hx
      rcases hx with rfl | hx
      · exact ⟨r, hr, ho⟩
      · exact hall x hx
    · rw [List.map_cons, Edit.afterAll, List.foldl_cons, hafter, List.map_cons,
        List.getLastD_cons]
      exact hlast

/-- Of clean payloads put in one after another, by whatever classes, only the last one is left: the
text is the one that it makes from the text before all of them, unless that was lone. -/
theorem upserts_keep_last_payload (hl : ¬Lone t) (first : upsert t c p = .ok o)
    (made : o.content? = some u) (hp : Clean p) (steps : List (Text × Text))
    (hs : ∀ s ∈ steps, s.2 ≠ [] ∧ Clean s.2) :
    (∀ x ∈ Edit.runAll u (steps.map fun s => .upsert s.1 s.2),
      ∃ r, x = .ok r ∧ r.outcome? = some (.replaced r.content)) ∧
    ∃ o', upsert t c ((steps.map Prod.snd).getLastD p) = .ok o' ∧
      o'.content? = some (Edit.afterAll u (steps.map fun s => .upsert s.1 s.2)) := by
  obtain ⟨hne, f, rfl, hf, hfill⟩ := exists_frame first made
  obtain ⟨hall, hlast⟩ := runAll_fill (hf.mpr hl) hp steps hs
  refine ⟨hall, ?_⟩
  rw [hlast]
  apply hfill
  have hmem : (steps.map Prod.snd).getLastD p ∈ p :: steps.map Prod.snd := List.getLastD_mem_cons
  rcases List.mem_cons.mp hmem with h | h
  · rwa [h]
  · obtain ⟨s, hmem, h⟩ := List.mem_map.mp h
    rw [← h]
    exact (hs s hmem).1

/-- A payload without a line end, then two others by classes that the text does not name. -/
theorem upserts_keep_last_payload_page :
    ∃ u, upsert "class Page extends Base".points "Page".points "tag".points =
        .ok (.inserted u false) ∧
      (∀ x ∈ Edit.runAll u
          [.upsert [] " * @mixin Old\n".points, .upsert "Tag".points " * @mixin New\n".points],
        ∃ r, x = .ok r ∧ r.outcome? = some (.replaced r.content)) ∧
      ∃ o, upsert "class Page extends Base".points "Page".points " * @mixin New\n".points = .ok o ∧
        o.content? = some (Edit.afterAll u
          [.upsert [] " * @mixin Old\n".points, .upsert "Tag".points " * @mixin New\n".points]) := by
  have first : upsert "class Page extends Base".points "Page".points "tag".points =
      .ok (.inserted ((commentFrame [] "Page".points " Base".points).fill "tag".points) false) := by
    rfl
  refine ⟨_, first, ?_⟩
  exact upserts_keep_last_payload (by decide) first rfl (by decide)
    [([], " * @mixin Old\n".points), ("Tag".points, " * @mixin New\n".points)] (by decide)

end Docblocks.Block
