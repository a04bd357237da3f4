import Docblocks.Block.Upsert
import Docblocks.Proofs.Block.Marked

/-!
What an upsert does to a text, said with the frame of its block.

A frame is what stands before and after a block. An upsert that makes a text puts the body of its
payload into a frame that depends on the old text and the class alone. The frame is clean unless
the old text was lone; then the old marker stays in the frame, next to the two of the body.
-/

set_option autoImplicit false
set_option relaxedAutoImplicit false

namespace Docblocks.Block

open Docblocks.Text

variable {t c p q a x d m : Text} {o : Outcome}

/-! ## Bodies -/

/-- What stands between the markers of a body. -/
def inside (p : Text) : Text := "\n * \n".points ++ closeLine p ++ " * \n * ".points

private theorem plain_opening : Plain "\n * \n".points := plain_of_subset (by decide) (by decide)

private theorem plain_closing : Plain " * \n * ".points := plain_of_subset (by decide) (by decide)

private theorem plain_break : Plain "\n".points := plain_of_subset (by decide) (by decide)

private theorem plain_commentOpening : Plain "\n/**\n * ".points :=
  plain_of_subset (by decide) (by decide)

private theorem plain_commentClosing : Plain "\n */\n".points :=
  plain_of_subset (by decide) (by decide)

theorem body_eq (p : Text) : body p = startMarker ++ inside p ++ endMarker := by
  simp [body, inside]

theorem count_closeLine (hm : m ∈ markers) (p : Text) :
    count m (closeLine p) = count m p := by
  unfold closeLine
  split
  · rfl
  · rw [plain_break.solid.count_append hm, plain_break.clean.count_eq_zero hm]
    rfl

theorem count_inside (hm : m ∈ markers) (p : Text) : count m (inside p) = count m p := by
  have h := plain_opening.solid.count_append_append hm [] (closeLine p)
  rw [List.nil_append] at h
  have hz : count m ([] : Text) = 0 := (count_eq_zero_iff (ne_nil_of_mem_markers hm)).mpr (by
    simpa using ne_nil_of_mem_markers hm)
  rw [inside, plain_closing.solid.count_append hm, h, plain_opening.clean.count_eq_zero hm,
    plain_closing.clean.count_eq_zero hm, count_closeLine hm, hz]
  omega

theorem clean_inside (hp : Clean p) : Clean (inside p) := by
  rw [clean_iff_count]
  intro m hm
  rw [count_inside hm]
  exact hp.count_eq_zero hm

/-! ## Frames -/

/-- What stands before and after the block of a text. -/
structure Frame where
  before : Text
  after : Text

/-- The text with the body of a payload in a frame. -/
def Frame.fill (f : Frame) (p : Text) : Text := f.before ++ body p ++ f.after

/-- The number of places of a marker in a frame. -/
def Frame.count (f : Frame) (m : Text) : Nat := Text.count m f.before + Text.count m f.after

/-- A frame without markers. -/
def Frame.Clean (f : Frame) : Prop := Block.Clean f.before ∧ Block.Clean f.after

theorem Frame.clean_iff_count (f : Frame) : f.Clean ↔ ∀ m ∈ markers, f.count m = 0 := by
  unfold Frame.Clean Frame.count
  rw [Block.clean_iff_count, Block.clean_iff_count]
  constructor
  · rintro ⟨hb, ha⟩ m hm
    rw [hb m hm, ha m hm]
  · intro h
    constructor
    · intro m hm
      have := h m hm
      omega
    · intro m hm
      have := h m hm
      omega

theorem Frame.fill_eq (f : Frame) (p : Text) :
    f.fill p = f.before ++ startMarker ++ inside p ++ endMarker ++ f.after := by
  simp [Frame.fill, body_eq]

/-- A filled frame has the markers of the frame, those of the payload, and one of each kind. -/
theorem Frame.count_fill (f : Frame) (hm : m ∈ markers) (p : Text) :
    Text.count m (f.fill p) = f.count m + Text.count m p + 1 := by
  have hone : Text.count m startMarker + Text.count m endMarker = 1 := by
    revert m
    rw [forall_markers, count_start_start, count_start_end, count_end_start, count_end_end]
    exact ⟨rfl, rfl⟩
  rw [f.fill_eq, solid_end.count_append_append hm, solid_start.count_append_append hm,
    count_inside hm, Frame.count]
  omega

theorem Frame.present_fill (f : Frame) (p : Text) : (locate (f.fill p)).present = true := by
  have hs := f.count_fill start_mem_markers p
  have he := f.count_fill end_mem_markers p
  rw [locate_present_iff, ← count_pos_iff (ne_nil_of_mem_markers start_mem_markers),
    ← count_pos_iff (ne_nil_of_mem_markers end_mem_markers)]
  omega

theorem Frame.paired_fill {f : Frame} (hf : f.Clean) (hp : Block.Clean p) :
    Paired (f.fill p) := by
  rw [f.fill_eq]
  exact paired_around hf.1 (clean_inside hp) hf.2

theorem Frame.count_fill_eq_one_iff (f : Frame) (p : Text) :
    (∀ m ∈ markers, Text.count m (f.fill p) = 1) ↔ f.Clean ∧ Block.Clean p := by
  rw [f.clean_iff_count, Block.clean_iff_count]
  simp only [forall_markers, f.count_fill start_mem_markers, f.count_fill end_mem_markers]
  omega

/-! ## Upserts by case -/

theorem upsert_of_present (hp : (locate t).present = true) (c : Text) (hq : q ≠ []) :
    upsert t c q =
      if (locate t).inverted then
        .error ⟨.inverted, c, (locate t).startCount, (locate t).endCount⟩
      else if (locate t).multiple then
        .error ⟨.multiple, c, (locate t).startCount, (locate t).endCount⟩
      else .ok (.replaced (replaceSpan t (body q))) := by
  have hq' : ¬q.isEmpty = true := by simpa using hq
  rw [upsert, if_neg hq']
  simp only [hp, if_true]

theorem upsert_of_not_present (hp : ¬(locate t).present = true) (c : Text)
    (hq : q ≠ []) :
    upsert t c q =
      match cut? (anchor c) t with
      | none => .ok (.anchorMissing (locate t).lone)
      | some (a, d) => .ok (.inserted (a ++ comment q ++ anchor c ++ d) (locate t).lone) := by
  have hq' : ¬q.isEmpty = true := by simpa using hq
  rw [upsert, if_neg hq']
  simp only [hp]
  rfl

/-- On a text around one block, the block is exchanged. -/
theorem upsert_around (ha : Clean a) (hx : Clean x) (hd : Clean d) (c : Text) (hq : q ≠ []) :
    upsert (a ++ startMarker ++ x ++ endMarker ++ d) c q = .ok (.replaced (a ++ body q ++ d)) := by
  have hl := locate_around ha hx hd
  have hp : (locate (a ++ startMarker ++ x ++ endMarker ++ d)).present = true := by
    rw [hl]
    rfl
  have hi : ¬(locate (a ++ startMarker ++ x ++ endMarker ++ d)).inverted = true := by
    rw [hl]
    simp [Location.inverted]
  have hm : ¬(locate (a ++ startMarker ++ x ++ endMarker ++ d)).multiple = true := by
    rw [hl]
    simp [Location.multiple]
  rw [upsert_of_present hp c hq, if_neg hi, if_neg hm, replaceSpan, span?_around ha hx]

/-- On a text with a clean frame and payload, the payload is exchanged. -/
theorem Frame.upsert_fill {f : Frame} (hf : f.Clean) (hp : Block.Clean p) (c : Text)
    (hq : q ≠ []) : upsert (f.fill p) c q = .ok (.replaced (f.fill q)) := by
  rw [f.fill_eq p]
  exact upsert_around hf.1 (clean_inside hp) hf.2 c hq

/-- A marker in the frame or in the payload of a text stands next to those of the body, so that the
text takes no payload any more. -/
theorem Frame.exists_upsert_fill_error {f : Frame} (h : ¬(f.Clean ∧ Block.Clean p)) (c : Text)
    (hq : q ≠ []) : ∃ e, upsert (f.fill p) c q = .error e := by
  have hs := f.count_fill start_mem_markers p
  have he := f.count_fill end_mem_markers p
  rw [← f.count_fill_eq_one_iff, forall_markers] at h
  have hm : (locate (f.fill p)).multiple = true := by
    rw [locate_multiple_iff]
    omega
  rw [upsert_of_present (f.present_fill p) c hq, if_pos hm]
  split
  · exact ⟨_, rfl⟩
  · exact ⟨_, rfl⟩

/-- The frame of a new comment above the declaration of a class. -/
def commentFrame (a c d : Text) : Frame :=
  ⟨a ++ "\n/**\n * ".points, "\n */\n".points ++ (anchor c ++ d)⟩

theorem fill_commentFrame (a c d p : Text) :
    (commentFrame a c d).fill p = a ++ comment p ++ anchor c ++ d := by
  simp [Frame.fill, commentFrame, comment]

private theorem seals_class (hm : m ∈ markers) : Seals m [] "class ".points := by
  revert m
  decide

/-- The frame of a new comment has the markers of the text that is cut at the declaration. -/
theorem count_commentFrame (hm : m ∈ markers) (a c d : Text) :
    (commentFrame a c d).count m = count m (a ++ anchor c ++ d) := by
  have hcut : Tight m a (anchor c ++ d) := by
    have h := (seals_class hm).tight_right a (c ++ " extends".points ++ d)
    simpa [anchor] using h
  have hafter : count m ("\n */\n".points ++ (anchor c ++ d)) = count m (anchor c ++ d) := by
    have h := ((plain_commentClosing.solid m hm).2.tight_left [] (anchor c ++ d)).count_append
      (ne_nil_of_mem_markers hm)
    rw [List.nil_append, plain_commentClosing.clean.count_eq_zero hm] at h
    omega
  rw [Frame.count, commentFrame, plain_commentOpening.solid.count_append hm,
    plain_commentOpening.clean.count_eq_zero hm, hafter, List.append_assoc,
    hcut.count_append (ne_nil_of_mem_markers hm)]
  omega

/-- Everything that an upsert can come to. -/
theorem upsert_cases (h : upsert t c p = .ok o) :
    (p = [] ∧ o = .noPayload) ∨
    (p ≠ [] ∧ ∃ a x d, t = a ++ startMarker ++ x ++ endMarker ++ d ∧ Clean a ∧ Clean x ∧ Clean d ∧
      o = .replaced (a ++ body p ++ d)) ∨
    (p ≠ [] ∧ ¬(locate t).present = true ∧ cut? (anchor c) t = none ∧
      o = .anchorMissing (locate t).lone) ∨
    (p ≠ [] ∧ ¬(locate t).present = true ∧ ∃ a d, cut? (anchor c) t = some (a, d) ∧
      o = .inserted ((commentFrame a c d).fill p) (locate t).lone) := by
  by_cases hp : p = []
  · subst hp
    exact Or.inl ⟨rfl, (Except.ok.inj h).symm⟩
  by_cases hl : (locate t).present = true
  · rw [upsert_of_present hl c hp] at h
    split at h
    · cases h
    · next hi =>
      split at h
      · cases h
      · next hm =>
        obtain ⟨a, x, d, rfl, ha, hx, hd⟩ := exists_around hl hi hm
        rw [replaceSpan, span?_around ha hx] at h
        exact Or.inr (Or.inl ⟨hp, a, x, d, rfl, ha, hx, hd, (Except.ok.inj h).symm⟩)
  · rw [upsert_of_not_present hl c hp] at h
    cases hc : cut? (anchor c) t with
    | none =>
      rw [hc] at h
      exact Or.inr (Or.inr (Or.inl ⟨hp, hl, rfl, (Except.ok.inj h).symm⟩))
    | some r =>
      rw [hc] at h
      refine Or.inr (Or.inr (Or.inr ⟨hp, hl, r.1, r.2, rfl, ?_⟩))
      rw [fill_commentFrame]
      exact (Except.ok.inj h).symm

/-- An upsert that makes a text fills a frame, whatever the payload is. -/
theorem exists_frame {u : Text} (h : upsert t c p = .ok o) (hu : o.content? = some u) :
    p ≠ [] ∧ ∃ f : Frame, u = f.fill p ∧ (f.Clean ↔ ¬Lone t) ∧
      ∀ q ≠ [], ∃ o', upsert t c q = .ok o' ∧ o'.content? = some (f.fill q) := by
  obtain ⟨-, rfl⟩ | ⟨hp, a, x, d, rfl, ha, hx, hd, rfl⟩ | ⟨-, -, -, rfl⟩ |
    ⟨hp, hl, a, d, hc, rfl⟩ := upsert_cases h
  · cases hu
  · refine ⟨hp, ⟨a, d⟩, (Option.some.inj hu).symm, ?_, ?_⟩
    · have hpres : (locate (a ++ startMarker ++ x ++ endMarker ++ d)).present = true := by
        rw [locate_around ha hx hd]
        rfl
      exact ⟨fun _ hl => hl.not_present hpres, fun _ => ⟨ha, hd⟩⟩
    · intro q hq
      exact ⟨_, upsert_around ha hx hd c hq, rfl⟩
  · cases hu
  · refine ⟨hp, commentFrame a c d, (Option.some.inj hu).symm, ?_, ?_⟩
    · rw [← clean_iff_not_lone hl, Frame.clean_iff_count, clean_iff_count, eq_append_of_cut? hc]
      exact forall_congr' fun m => forall_congr' fun hm => by rw [count_commentFrame hm]
    · intro q hq
      rw [upsert_of_not_present hl c hq, hc]
      exact ⟨_, rfl, by rw [fill_commentFrame]; rfl⟩

end Docblocks.Block
