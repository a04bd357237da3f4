import Docblocks.Proofs.Block.Frame
import Docblocks.Proofs.Text.Places

/-!
Which outcome an upsert has on a text, and what it makes of it.

The locator works with first places and with counts that pass over overlaps, the replacement with a
search of its own. Here all of it is said through the places of the markers and of the declaration:
a text whose markers have one place each, in order, is cut around its block in one way; any other
text with both markers is refused; and without a pair the first declaration alone decides.
-/

set_option autoImplicit false
set_option relaxedAutoImplicit false

namespace Docblocks.Block

open Docblocks.Text

variable {t a x d c p m : Text}

/-! ## Places of the markers -/

theorem count_eq_places (hm : m ∈ markers) (t : Text) : count m t = (places m t).length :=
  count_eq_length_places (solid_of_mem hm m hm).1 (ne_nil_of_mem_markers hm) t

/-- The start marker has one place in the text, and the end marker one place behind it. -/
def OneBlock (t : Text) : Prop :=
  ∃ s e, places startMarker t = [s] ∧ places endMarker t = [e] ∧ s < e

/-- The first end marker of the text stands before its first start marker. -/
def EndFirst (t : Text) : Prop :=
  ∃ s e, (places startMarker t).head? = some s ∧ (places endMarker t).head? = some e ∧ e < s

private theorem places_eq_singleton {i : Nat} (hm : m ∈ markers) (hc : count m t = 1)
    (hf : find? m t = some i) : places m t = [i] := by
  rw [count_eq_places hm] at hc
  obtain ⟨j, hj⟩ := List.length_eq_one_iff.mp hc
  rw [find?_eq_head?, hj] at hf
  rw [hj, Option.some.inj hf]

theorem Paired.holds (hp : Paired t) (hm : m ∈ markers) : m <:+: t := by
  have hone : ∀ n ∈ markers, count n t = 1 := forall_markers.mpr ⟨hp.1, hp.2.1⟩
  rw [← count_pos_iff (ne_nil_of_mem_markers hm), hone m hm]
  exact Nat.one_pos

theorem Paired.not_lone (hp : Paired t) : ¬Lone t := by
  rintro (⟨-, hno⟩ | ⟨-, hno⟩)
  · exact hno (hp.holds end_mem_markers)
  · exact hno (hp.holds start_mem_markers)

theorem oneBlock_iff_paired : OneBlock t ↔ Paired t := by
  constructor
  · rintro ⟨s, e, hs, he, hlt⟩
    refine ⟨?_, ?_, s, e, ?_, ?_, hlt⟩
    · rw [count_eq_places start_mem_markers, hs, List.length_singleton]
    · rw [count_eq_places end_mem_markers, he, List.length_singleton]
    · rw [find?_eq_head?, hs, List.head?_singleton]
    · rw [find?_eq_head?, he, List.head?_singleton]
  · rintro ⟨hsc, hec, s, e, hs, he, hlt⟩
    exact ⟨s, e, places_eq_singleton start_mem_markers hsc hs,
      places_eq_singleton end_mem_markers hec he, hlt⟩

theorem locate_inverted_iff_endFirst (hp : (locate t).present = true) :
    (locate t).inverted = true ↔ EndFirst t := by
  obtain ⟨hs, he⟩ := locate_present_iff.mp hp
  obtain ⟨a, d, ha⟩ := exists_cut?_of_infix hs
  obtain ⟨b, k, hb⟩ := exists_cut?_of_infix he
  have hfs : find? startMarker t = some a.length := by rw [find?, ha]; rfl
  have hfe : find? endMarker t = some b.length := by rw [find?, hb]; rfl
  rw [locate_inverted_iff hfs hfe]
  unfold EndFirst
  rw [← find?_eq_head?, ← find?_eq_head?, hfs, hfe]
  simp [hp]

/-- The texts that the locator finds present, in order and single. -/
theorem oneBlock_iff_located (hp : (locate t).present = true) :
    OneBlock t ↔ ¬(locate t).inverted = true ∧ ¬(locate t).multiple = true := by
  constructor
  · intro h
    obtain ⟨hsc, hec, s, e, hs, he, hlt⟩ := oneBlock_iff_paired.mp h
    constructor
    · rw [locate_inverted_iff hs he]
      omega
    · rw [locate_multiple_iff]
      omega
  · rintro ⟨hi, hm⟩
    obtain ⟨a, x, d, rfl, ha, hx, hd⟩ := exists_around hp hi hm
    exact oneBlock_iff_paired.mpr (paired_around ha hx hd)

private theorem OneBlock.lengths (h : OneBlock t) :
    ∃ s e, ∀ a x d, t = a ++ startMarker ++ x ++ endMarker ++ d →
      a.length = s ∧ (a ++ startMarker ++ x).length = e := by
  obtain ⟨s, e, hs, he, -⟩ := h
  refine ⟨s, e, ?_⟩
  intro a x d hsplit
  have hstart : a.length ∈ places startMarker t := by
    refine mem_places.mpr ⟨a, x ++ endMarker ++ d, ?_, rfl⟩
    simp [hsplit]
  have hend : (a ++ startMarker ++ x).length ∈ places endMarker t :=
    mem_places.mpr ⟨a ++ startMarker ++ x, d, hsplit, rfl⟩
  rw [hs, List.mem_singleton] at hstart
  rw [he, List.mem_singleton] at hend
  exact ⟨hstart, hend⟩

/-- A text with one block is cut around it in one way. -/
theorem OneBlock.split_unique {a' x' d' : Text} (h : OneBlock t)
    (hsplit : t = a ++ startMarker ++ x ++ endMarker ++ d)
    (hsplit' : t = a' ++ startMarker ++ x' ++ endMarker ++ d') : a' = a ∧ x' = x ∧ d' = d := by
  obtain ⟨s, e, hlen⟩ := h.lengths
  obtain ⟨hstart, hend⟩ := hlen a x d hsplit
  obtain ⟨hstart', hend'⟩ := hlen a' x' d' hsplit'
  rw [hsplit, List.append_assoc _ endMarker, List.append_assoc _ endMarker] at hsplit'
  obtain ⟨hfront, hafter⟩ := List.append_inj hsplit'.symm (hend'.trans hend.symm)
  rw [List.append_assoc, List.append_assoc] at hfront
  obtain ⟨hbefore, hinside⟩ := List.append_inj hfront (hstart'.trans hstart.symm)
  exact ⟨hbefore, List.append_cancel_left hinside, List.append_cancel_left hafter⟩

/-! ## Outcomes -/

theorem OneBlock.upsert_eq (h : OneBlock t) (hs : startMarker <:+: t) (he : endMarker <:+: t)
    (c : Text) (hp : p ≠ []) :
    ∃ a x d, t = a ++ startMarker ++ x ++ endMarker ++ d ∧
      upsert t c p = .ok (.replaced (a ++ body p ++ d)) := by
  have hpresent : (locate t).present = true := locate_present_iff.mpr ⟨hs, he⟩
  obtain ⟨hi, hm⟩ := (oneBlock_iff_located hpresent).mp h
  obtain ⟨a, x, d, rfl, ha, hx, hd⟩ := exists_around hpresent hi hm
  exact ⟨a, x, d, rfl, upsert_around ha hx hd c hp⟩

theorem exists_upsert_error (h : ¬OneBlock t) (hs : startMarker <:+: t) (he : endMarker <:+: t)
    (c : Text) (hp : p ≠ []) :
    ∃ f, upsert t c p = .error f ∧ f.className = c ∧
      f.startCount = (places startMarker t).length ∧ f.endCount = (places endMarker t).length ∧
      (f.disorder = .inverted ↔ EndFirst t) := by
  have hpresent : (locate t).present = true := locate_present_iff.mpr ⟨hs, he⟩
  have hsc : (locate t).startCount = (places startMarker t).length :=
    count_eq_places start_mem_markers t
  have hec : (locate t).endCount = (places endMarker t).length := count_eq_places end_mem_markers t
  rw [oneBlock_iff_located hpresent] at h
  rw [upsert_of_present hpresent c hp, ← locate_inverted_iff_endFirst hpresent, hsc, hec]
  by_cases hi : (locate t).inverted = true
  · rw [if_pos hi]
    exact ⟨_, rfl, rfl, rfl, rfl, by simp [hi]⟩
  · have hm : (locate t).multiple = true := by
      by_cases hm : (locate t).multiple = true
      · exact hm
      · exact absurd ⟨hi, hm⟩ h
    rw [if_neg hi, if_pos hm]
    exact ⟨_, rfl, rfl, rfl, rfl, by simp [hi]⟩

theorem upsert_of_no_pair (h : ¬(startMarker <:+: t ∧ endMarker <:+: t)) (c : Text)
    (hp : p ≠ []) :
    (¬anchor c <:+: t → upsert t c p = .ok (.anchorMissing (decide (Lone t)))) ∧
    (anchor c <:+: t → ∃ a d, t = a ++ d ∧ (places (anchor c) t).head? = some a.length ∧
      upsert t c p = .ok (.inserted (a ++ comment p ++ d) (decide (Lone t)))) := by
  have hpresent : ¬(locate t).present = true := by rwa [locate_present_iff]
  have hlone : (locate t).lone = decide (Lone t) := by
    rw [Bool.eq_iff_iff, locate_lone_iff, decide_eq_true_iff]
  rw [upsert_of_not_present hpresent c hp, hlone]
  constructor
  · intro hno
    rw [cut?_eq_none_iff.mpr hno]
  · intro hanchor
    obtain ⟨a, d, hcut⟩ := exists_cut?_of_infix hanchor
    refine ⟨a, anchor c ++ d, ?_, head?_places_of_cut? hcut, ?_⟩
    · rw [eq_append_of_cut? hcut, List.append_assoc]
    · rw [hcut]
      simp

theorem lone_iff_of_upsert {o : Outcome} (h : upsert t c p = .ok o) :
    o.lone = true ↔ p ≠ [] ∧ Lone t := by
  obtain ⟨rfl, rfl⟩ | ⟨hp, a, x, d, rfl, ha, hx, hd, rfl⟩ | ⟨hp, -, -, rfl⟩ |
    ⟨hp, -, a, d, -, rfl⟩ := upsert_cases h
  · simp [Outcome.lone]
  · have hno := (paired_around ha hx hd).not_lone
    simp only [Outcome.lone, Bool.false_eq_true, hno, and_false]
  · simp [Outcome.lone, hp, locate_lone_iff]
  · simp [Outcome.lone, hp, locate_lone_iff]

/-- A text that is clean, paired or lone takes any payload, and reports a lone one. -/
theorem exists_upsert_lone (h : Clean t ∨ Paired t ∨ Lone t) (c : Text) (hp : p ≠ []) :
    ∃ o, upsert t c p = .ok o ∧ (o.lone = true ↔ Lone t) := by
  have htakes : ∃ o, upsert t c p = .ok o := by
    by_cases hpair : startMarker <:+: t ∧ endMarker <:+: t
    · have hpresent : (locate t).present = true := locate_present_iff.mpr hpair
      have hone : OneBlock t := by
        rcases h with hclean | hpaired | hlone
        · exact absurd hpresent hclean.not_present
        · exact oneBlock_iff_paired.mpr hpaired
        · exact absurd hpresent hlone.not_present
      obtain ⟨a, x, d, -, hupsert⟩ := hone.upsert_eq hpair.1 hpair.2 c hp
      exact ⟨_, hupsert⟩
    · obtain ⟨hmissing, hfound⟩ := upsert_of_no_pair hpair c hp
      by_cases hanchor : anchor c <:+: t
      · obtain ⟨a, d, -, -, hupsert⟩ := hfound hanchor
        exact ⟨_, hupsert⟩
      · exact ⟨_, hmissing hanchor⟩
  obtain ⟨o, ho⟩ := htakes
  refine ⟨o, ho, ?_⟩
  rw [lone_iff_of_upsert ho, and_iff_right hp]

/-- What an upsert comes to, for every text, class and payload. Nothing is done without a payload.
Where both markers stand in the text, it has to hold one block, which is exchanged while all around
it stays; else the upsert fails and tells the numbers of markers. Where a marker is missing, a
comment is put before the first declaration of the class, if there is one. The name of the class and
the payload go into all of this as they are. -/
theorem upsert_by_places (t c p : Text) :
    (p = [] → upsert t c p = .ok .noPayload) ∧
    (p ≠ [] → startMarker <:+: t → endMarker <:+: t →
      (¬OneBlock t → ∃ f, upsert t c p = .error f ∧ f.className = c ∧
        f.startCount = (places startMarker t).length ∧ f.endCount = (places endMarker t).length ∧
        (f.disorder = .inverted ↔ EndFirst t)) ∧
      (OneBlock t → ∃ a x d, t = a ++ startMarker ++ x ++ endMarker ++ d ∧
        (∀ a' x' d', t = a' ++ startMarker ++ x' ++ endMarker ++ d' →
          a' = a ∧ x' = x ∧ d' = d) ∧
        upsert t c p = .ok (.replaced (a ++ body p ++ d)))) ∧
    (p ≠ [] → ¬(startMarker <:+: t ∧ endMarker <:+: t) →
      (¬anchor c <:+: t → upsert t c p = .ok (.anchorMissing (decide (Lone t)))) ∧
      (anchor c <:+: t → ∃ a d, t = a ++ d ∧ (places (anchor c) t).head? = some a.length ∧
        upsert t c p = .ok (.inserted
          (a ++ ("\n/**\n * ".points ++ body p ++ "\n */\n".points) ++ d) (decide (Lone t))))) := by
  refine ⟨?_, ?_, ?_⟩
  · rintro rfl
    rfl
  · intro hp hs he
    refine ⟨fun h => exists_upsert_error h hs he c hp, ?_⟩
    intro h
    obtain ⟨a, x, d, hsplit, hupsert⟩ := h.upsert_eq hs he c hp
    exact ⟨a, x, d, hsplit, fun a' x' d' => h.split_unique hsplit, hupsert⟩
  · intro hp h
    exact upsert_of_no_pair h c hp

private def declaredTwice : Text :=
  "class P extends ".points ++ startMarker ++ "; class P extends Q".points

/-- An end marker before two start markers, one block with nothing around it, and a lone marker
after the first of two declarations. -/
theorem upsert_by_places_page :
    (∃ f, upsert (endMarker ++ (startMarker ++ startMarker)) [] "tag".points = .error f ∧
      f.startCount = 2 ∧ f.endCount = 1 ∧ f.disorder = .inverted) ∧
    upsert (startMarker ++ endMarker) [] "tag".points = .ok (.replaced (body "tag".points)) ∧
    ∃ a d, declaredTwice = a ++ d ∧ a.length = 0 ∧
      upsert declaredTwice "P".points "tag".points = .ok (.inserted
        (a ++ ("\n/**\n * ".points ++ body "tag".points ++ "\n */\n".points) ++ d) true) := by
  have hne : "tag".points ≠ [] := by decide
  refine ⟨?_, ?_, ?_⟩
  · have hs : places startMarker (endMarker ++ (startMarker ++ startMarker)) = [35, 72] := by
      decide +kernel
    have he : places endMarker (endMarker ++ (startMarker ++ startMarker)) = [0] := by
      decide +kernel
    have hno : ¬OneBlock (endMarker ++ (startMarker ++ startMarker)) := by
      rintro ⟨s, e, hs', -⟩
      rw [hs] at hs'
      cases hs'
    obtain ⟨f, hf, -, hsc, hec, hd⟩ := ((upsert_by_places _ [] "tag".points).2.1 hne
      ⟨endMarker, startMarker, by simp⟩ ⟨[], startMarker ++ startMarker, by simp⟩).1 hno
    rw [hs] at hsc
    rw [he] at hec
    exact ⟨f, hf, hsc, hec, hd.mpr ⟨35, 0, by rw [hs]; rfl, by rw [he]; rfl, by decide⟩⟩
  · have hone : OneBlock (startMarker ++ endMarker) :=
      ⟨0, 37, by decide +kernel, by decide +kernel, by decide⟩
    obtain ⟨a, x, d, -, hunique, hupsert⟩ := ((upsert_by_places _ [] "tag".points).2.1 hne
      ⟨[], endMarker, by simp⟩ ⟨startMarker, [], by simp⟩).2 hone
    obtain ⟨rfl, rfl, rfl⟩ := hunique [] [] [] (by simp)
    simpa using hupsert
  · have hlone : Lone declaredTwice := by decide +kernel
    have hfirst : (places (anchor "P".points) declaredTwice).head? = some 0 := by decide +kernel
    obtain ⟨a, d, hsplit, hhead, hupsert⟩ := ((upsert_by_places _ "P".points "tag".points).2.2 hne
      (fun h => hlone.not_present (locate_present_iff.mpr h))).2 ⟨[], _, by rfl⟩
    rw [decide_eq_true hlone] at hupsert
    exact ⟨a, d, hsplit, Option.some.inj (hhead.symm.trans hfirst), hupsert⟩

end Docblocks.Block
