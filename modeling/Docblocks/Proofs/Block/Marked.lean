import Docblocks.Block.Marker
import Docblocks.Proofs.Text.Seam

/-!
Texts by the markers that stand in them.

A text is clean without any marker, lone with exactly one kind, and paired with one start marker
and one end marker after it. Paired texts are those that the locator finds present, in order and
single; they are cut around their block in one way, which is also the way of the span search.
-/

set_option autoImplicit false
set_option relaxedAutoImplicit false

namespace Docblocks.Block

open Docblocks.Text

variable {t a x d m k : Text}

/-- The two markers. -/
def markers : List Text := [startMarker, endMarker]

/-- No marker stands in the text. -/
def Clean (t : Text) : Prop := ∀ m ∈ markers, ¬m <:+: t

/-- Exactly one kind of marker stands in the text. -/
def Lone (t : Text) : Prop :=
  (startMarker <:+: t ∧ ¬endMarker <:+: t) ∨ (endMarker <:+: t ∧ ¬startMarker <:+: t)

/-- One start marker stands in the text, and one end marker after it. -/
def Paired (t : Text) : Prop :=
  count startMarker t = 1 ∧ count endMarker t = 1 ∧
    ∃ s e, find? startMarker t = some s ∧ find? endMarker t = some e ∧ s < e

theorem start_mem_markers : startMarker ∈ markers := List.mem_cons_self

theorem end_mem_markers : endMarker ∈ markers := List.mem_cons_of_mem _ List.mem_cons_self

theorem ne_nil_of_mem_markers (hm : m ∈ markers) : m ≠ [] := by
  revert m
  decide

theorem forall_markers {P : Text → Prop} :
    (∀ m ∈ markers, P m) ↔ P startMarker ∧ P endMarker := by
  simp [markers]

/-! ## Pieces that no marker crosses -/

/-- No marker crosses either end of the piece, whatever stands around it. -/
def Solid (k : Text) : Prop := ∀ m ∈ markers, Seals m [] k ∧ Seals m k []

instance (k : Text) : Decidable (Solid k) :=
  inferInstanceAs (Decidable (∀ m ∈ markers, Seals m [] k ∧ Seals m k []))

theorem solid_start : Solid startMarker := by decide

theorem solid_end : Solid endMarker := by decide

theorem solid_of_mem (hk : k ∈ markers) : Solid k :=
  forall_markers.mpr ⟨solid_start, solid_end⟩ k hk

/-- The piece is made of code points that stand in no marker. -/
def Plain (k : Text) : Prop := k ≠ [] ∧ ∀ c ∈ k, ∀ m ∈ markers, c ∉ m

/-- Blanks, line ends and the signs of a comment stand in no marker. -/
private theorem plain_points : Plain "\n */".points := by
  unfold Plain
  decide

theorem plain_of_subset (hne : k ≠ []) (hk : k ⊆ "\n */".points) : Plain k :=
  ⟨hne, fun c hc => plain_points.2 c (hk hc)⟩

theorem Plain.seals_right (hk : Plain k) (hm : m ∈ markers) (x : Text) : Seals m [] (k ++ x) := by
  obtain ⟨c, k', rfl⟩ := List.exists_cons_of_ne_nil hk.1
  exact seals_of_head (hk.2 c List.mem_cons_self m hm) (k' ++ x)

theorem Plain.seals_left (hk : Plain k) (hm : m ∈ markers) (x : Text) : Seals m (x ++ k) [] := by
  rcases List.eq_nil_or_concat k with h | ⟨k', c, rfl⟩
  · exact absurd h hk.1
  · rw [List.concat_eq_append, ← List.append_assoc]
    exact seals_of_last (hk.2 c (by simp) m hm) (x ++ k')

theorem Plain.solid_around (ha : Plain a) (hd : Plain d) (x : Text) : Solid (a ++ x ++ d) := by
  intro m hm
  rw [List.append_assoc]
  refine ⟨ha.seals_right hm _, ?_⟩
  rw [← List.append_assoc]
  exact hd.seals_left hm _

theorem Plain.solid (hk : Plain k) : Solid k := by
  intro m hm
  have hr := hk.seals_right hm []
  rw [List.append_nil] at hr
  exact ⟨hr, hk.seals_left hm []⟩

theorem Plain.clean (hk : Plain k) : Clean k := by
  intro m hm h
  obtain ⟨c, hc⟩ := List.exists_mem_of_ne_nil m (ne_nil_of_mem_markers hm)
  exact hk.2 c (h.subset hc) m hm hc

theorem Solid.count_append (hk : Solid k) (hm : m ∈ markers) (a : Text) :
    count m (a ++ k) = count m a + count m k := by
  have h : Tight m a (k ++ []) := (hk m hm).1.tight_right a []
  rw [List.append_nil] at h
  exact h.count_append (ne_nil_of_mem_markers hm)

theorem Solid.count_append_append (hk : Solid k) (hm : m ∈ markers) (a d : Text) :
    count m (a ++ k ++ d) = count m a + count m k + count m d := by
  have h : Tight m (a ++ k) d := (hk m hm).2.tight_left a d
  rw [h.count_append (ne_nil_of_mem_markers hm), hk.count_append hm]

theorem clean_iff_count : Clean t ↔ ∀ m ∈ markers, count m t = 0 := by
  refine forall_congr' fun m => forall_congr' fun hm => ?_
  exact (count_eq_zero_iff (ne_nil_of_mem_markers hm)).symm

instance (t : Text) : Decidable (Clean t) :=
  decidable_of_iff (∀ m ∈ markers, count m t = 0) clean_iff_count.symm

theorem Clean.mono {u : Text} (h : Clean t) (hu : u <:+: t) : Clean u :=
  fun m hm hmu => h m hm (hmu.trans hu)

theorem Clean.not_lone (h : Clean t) : ¬Lone t := by
  rintro (⟨hs, -⟩ | ⟨he, -⟩)
  · exact h _ start_mem_markers hs
  · exact h _ end_mem_markers he

theorem Clean.count_eq_zero (h : Clean t) (hm : m ∈ markers) : count m t = 0 :=
  clean_iff_count.mp h m hm

theorem count_start_start : count startMarker startMarker = 1 := by decide

theorem count_end_start : count endMarker startMarker = 0 := by decide

theorem count_start_end : count startMarker endMarker = 0 := by decide

theorem count_end_end : count endMarker endMarker = 1 := by decide

/-! ## The locator -/

theorem locate_present_iff :
    (locate t).present = true ↔ startMarker <:+: t ∧ endMarker <:+: t := by
  rw [Location.present, Bool.and_eq_true, decide_eq_true_iff, decide_eq_true_iff]
  exact and_congr (count_pos_iff (ne_nil_of_mem_markers start_mem_markers))
    (count_pos_iff (ne_nil_of_mem_markers end_mem_markers))

theorem locate_lone_iff : (locate t).lone = true ↔ Lone t := by
  have hs : 0 < (locate t).startCount ↔ startMarker <:+: t :=
    count_pos_iff (ne_nil_of_mem_markers start_mem_markers)
  have he : 0 < (locate t).endCount ↔ endMarker <:+: t :=
    count_pos_iff (ne_nil_of_mem_markers end_mem_markers)
  rw [Location.lone, bne_iff_ne, ne_eq, decide_eq_decide, hs, he, Lone]
  by_cases h : startMarker <:+: t
  · simp [h]
  · simp [h]

instance (t : Text) : Decidable (Lone t) :=
  decidable_of_iff ((locate t).lone = true) locate_lone_iff

theorem locate_multiple_iff :
    (locate t).multiple = true ↔ 1 < count startMarker t ∨ 1 < count endMarker t := by
  rw [Location.multiple, Bool.or_eq_true, decide_eq_true_iff, decide_eq_true_iff]
  rfl

theorem locate_inverted_iff {s e : Nat} (hs : find? startMarker t = some s)
    (he : find? endMarker t = some e) :
    (locate t).inverted = true ↔ (locate t).present = true ∧ e < s := by
  have hs' : (locate t).start? = some s := hs
  have he' : (locate t).stop? = some e := he
  rw [Location.inverted, hs', he', Bool.and_eq_true, decide_eq_true_iff]

theorem Clean.not_present (h : Clean t) : ¬(locate t).present = true := by
  rw [locate_present_iff]
  rintro ⟨hs, -⟩
  exact h _ start_mem_markers hs

/-- Without a pair of kinds, a text is clean or lone. -/
theorem clean_iff_not_lone (hp : ¬(locate t).present = true) : Clean t ↔ ¬Lone t := by
  rw [locate_present_iff] at hp
  rw [Clean, forall_markers, Lone]
  by_cases hs : startMarker <:+: t
  · have he : ¬endMarker <:+: t := fun he => hp ⟨hs, he⟩
    simp [hs, he]
  · simp [hs]

theorem Lone.not_present (h : Lone t) : ¬(locate t).present = true := by
  rw [locate_present_iff]
  rintro ⟨hs, he⟩
  rcases h with ⟨-, hn⟩ | ⟨-, hn⟩
  · exact hn he
  · exact hn hs

private theorem not_end_infix_left (ha : Clean a) (hx : Clean x) :
    ¬endMarker <:+: a ++ startMarker ++ x := by
  rw [← count_eq_zero_iff (ne_nil_of_mem_markers end_mem_markers),
    solid_start.count_append_append end_mem_markers, ha.count_eq_zero end_mem_markers,
    hx.count_eq_zero end_mem_markers, count_end_start]

private theorem cut?_start_around (ha : Clean a) (r : Text) :
    cut? startMarker (a ++ (startMarker ++ r)) = some (a, r) :=
  ((solid_start _ start_mem_markers).1.tight_right a r).cut?_append_self
    (ha _ start_mem_markers)

private theorem cut?_end_around (ha : ¬endMarker <:+: a) (r : Text) :
    cut? endMarker (a ++ (endMarker ++ r)) = some (a, r) :=
  ((solid_end _ end_mem_markers).1.tight_right a r).cut?_append_self ha

/-- The locator on a text around one block. -/
theorem locate_around (ha : Clean a) (hx : Clean x) (hd : Clean d) :
    locate (a ++ startMarker ++ x ++ endMarker ++ d) =
      ⟨some a.length, some (a ++ startMarker ++ x).length, 1, 1⟩ := by
  have hs : find? startMarker (a ++ startMarker ++ x ++ endMarker ++ d) = some a.length := by
    rw [find?, show a ++ startMarker ++ x ++ endMarker ++ d =
      a ++ (startMarker ++ (x ++ endMarker ++ d)) by simp, cut?_start_around ha]
    rfl
  have he : find? endMarker (a ++ startMarker ++ x ++ endMarker ++ d) =
      some (a ++ startMarker ++ x).length := by
    rw [find?, List.append_assoc, cut?_end_around (not_end_infix_left ha hx)]
    rfl
  have hc : ∀ m ∈ markers, count m (a ++ startMarker ++ x ++ endMarker ++ d) =
      count m startMarker + count m endMarker := by
    intro m hm
    rw [solid_end.count_append_append hm, solid_start.count_append_append hm,
      ha.count_eq_zero hm, hx.count_eq_zero hm, hd.count_eq_zero hm]
    omega
  rw [locate, locateTags, hs, he, hc _ start_mem_markers, hc _ end_mem_markers,
    count_start_start, count_start_end, count_end_start, count_end_end]

/-- A text whose markers are present, in order and single is a text around one block. -/
theorem exists_around (hp : (locate t).present = true) (hi : ¬(locate t).inverted = true)
    (hm : ¬(locate t).multiple = true) :
    ∃ a x d, t = a ++ startMarker ++ x ++ endMarker ++ d ∧ Clean a ∧ Clean x ∧ Clean d := by
  obtain ⟨hs, he⟩ := locate_present_iff.mp hp
  have hmult : count startMarker t ≤ 1 ∧ count endMarker t ≤ 1 := by
    rw [locate_multiple_iff] at hm
    omega
  obtain ⟨a, r, har⟩ := exists_cut?_of_infix hs
  obtain rfl := eq_append_of_cut? har
  rw [solid_start.count_append_append start_mem_markers,
    solid_start.count_append_append end_mem_markers, count_start_start,
    count_end_start] at hmult
  -- An end marker in front of the start marker would be the first one.
  have hea : ¬endMarker <:+: a := by
    intro hea
    obtain ⟨b, e, hbe⟩ := exists_cut?_of_infix hea
    have hlt : b.length < a.length := by
      have hl := congrArg List.length (eq_append_of_cut? hbe)
      have hpos := List.length_pos_iff.mpr (ne_nil_of_mem_markers end_mem_markers)
      simp only [List.length_append] at hl
      omega
    have hcut := cut?_append_left hbe (startMarker ++ r)
    rw [← List.append_assoc] at hcut
    have hfs : find? startMarker (a ++ startMarker ++ r) = some a.length := by rw [find?, har]; rfl
    have hfe : find? endMarker (a ++ startMarker ++ r) = some b.length := by rw [find?, hcut]; rfl
    exact hi ((locate_inverted_iff hfs hfe).mpr ⟨hp, hlt⟩)
  have her : endMarker <:+: r := by
    have hc := (count_pos_iff (ne_nil_of_mem_markers end_mem_markers)).mpr he
    rw [solid_start.count_append_append end_mem_markers, count_end_start,
      (count_eq_zero_iff (ne_nil_of_mem_markers end_mem_markers)).mpr hea] at hc
    exact (count_pos_iff (ne_nil_of_mem_markers end_mem_markers)).mp (by omega)
  obtain ⟨x, d, hxd⟩ := exists_cut?_of_infix her
  obtain rfl := eq_append_of_cut? hxd
  rw [solid_end.count_append_append start_mem_markers,
    solid_end.count_append_append end_mem_markers, count_start_end, count_end_end] at hmult
  refine ⟨a, x, d, by simp, ?_, ?_, ?_⟩
  · exact clean_iff_count.mpr (forall_markers.mpr ⟨by omega, by omega⟩)
  · exact clean_iff_count.mpr (forall_markers.mpr ⟨by omega, by omega⟩)
  · exact clean_iff_count.mpr (forall_markers.mpr ⟨by omega, by omega⟩)

theorem paired_around (ha : Clean a) (hx : Clean x) (hd : Clean d) :
    Paired (a ++ startMarker ++ x ++ endMarker ++ d) := by
  have h := locate_around ha hx hd
  simp only [locate, locateTags, Location.mk.injEq] at h
  obtain ⟨hs, he, hsc, hec⟩ := h
  refine ⟨hsc, hec, _, _, hs, he, ?_⟩
  have hpos := List.length_pos_iff.mpr (ne_nil_of_mem_markers start_mem_markers)
  simp only [List.length_append]
  omega

/-! ## The span search -/

private theorem span?_eq_of_cut? {r : Text} (h : cut? startMarker t = some (a, r))
    (h' : cut? endMarker r = some (x, d)) : span? t = some ⟨a, x, d⟩ := by
  induction t generalizing a with
  | nil =>
    have hn : cut? startMarker [] = none := by decide
    rw [hn] at h
    cases h
  | cons c t ih =>
    rw [cut?] at h
    rw [span?, spanHere?]
    split at h
    · next hp =>
      obtain ⟨rfl, rfl⟩ := Prod.mk.inj (Option.some.inj h)
      rw [if_pos hp, h']
      rfl
    · next hp =>
      obtain ⟨⟨b, e⟩, hb, he⟩ := Option.map_eq_some_iff.mp h
      obtain ⟨rfl, rfl⟩ := Prod.mk.inj he
      rw [if_neg hp, ih hb]
      rfl

theorem span?_around (ha : Clean a) (hx : Clean x) (d : Text) :
    span? (a ++ startMarker ++ x ++ endMarker ++ d) = some ⟨a, x, d⟩ := by
  rw [show a ++ startMarker ++ x ++ endMarker ++ d =
    a ++ (startMarker ++ (x ++ (endMarker ++ d))) by simp]
  exact span?_eq_of_cut? (cut?_start_around ha _) (cut?_end_around (hx _ end_mem_markers) d)

end Docblocks.Block
