import Docblocks.Proofs.Block.Marked
import Docblocks.Proofs.Schema.Wording
import Docblocks.Proofs.Text.Lines
import Mathlib.Data.List.Infix

/-!
What a payload shows of the class that it is made from.

Where no text of a class holds a line end, the payload can be read back: its lines without the
comment sign are the tags of the class, and its groups are the stretches between empty lines. And
whatever the texts of a class hold, a marker stands in the payload exactly if it stands in one of
these texts, so that no marker arises from the wording around them.
-/

set_option autoImplicit false
set_option relaxedAutoImplicit false

namespace Docblocks.Schema

open Docblocks.Text
open Docblocks.Block (markers forall_markers startMarker endMarker start_mem_markers
  end_mem_markers)

variable {d : Descriptor} {gs : List (List Text)} {p m : Text}

/-! ## Reading a payload -/

/-- A comment line without its sign and its line end. -/
def bare (l : Text) : Text := (l.drop " * ".points.length).dropLast

/-- The stretches of lines between empty lines; where there are no lines, there is no stretch. -/
def stretches (ls : List Text) : List (List Text) :=
  if ls = [] then [] else ls.splitOn []

def groupsIn (p : Text) : List (List Text) :=
  stretches ((lines p).map bare)

/-- The lines of groups of tags: a line for each tag, and an empty one between any two groups. -/
def groupLines (gs : List (List Text)) : List Text :=
  [tagLine []].intercalate ((gs.filter (!·.isEmpty)).map (·.map tagLine))

@[simp] theorem bare_tagLine (tag : Text) : bare (tagLine tag) = tag := by
  rw [bare, tagLine, List.append_assoc, List.drop_left]
  exact List.dropLast_concat

theorem isLine_tagLine {tag : Text} (h : Point.char '\n' ∉ tag) : IsLine (tagLine tag) := by
  refine ⟨" * ".points ++ tag, rfl, ?_⟩
  rw [List.mem_append]
  rintro (hsign | htag)
  · revert hsign
    decide
  · exact h htag

private theorem join_flatten (sep : Text) (ls : List (List Text)) :
    join sep (ls.map List.flatten) = ([sep].intercalate ls).flatten := by
  induction ls with
  | nil => rfl
  | cons l ls ih =>
    cases ls with
    | nil => simp [join, List.intercalate]
    | cons k ls =>
      rw [List.map_cons, List.map_cons, join, ← List.map_cons, ih, List.intercalate_cons_cons]
      simp

private theorem map_intercalate {α β : Type} (f : α → β) (sep : List α) (ls : List (List α)) :
    (sep.intercalate ls).map f = (sep.map f).intercalate (ls.map (·.map f)) := by
  induction ls with
  | nil => rfl
  | cons l ls ih =>
    cases ls with
    | nil => simp [List.intercalate]
    | cons k ls =>
      rw [List.intercalate_cons_cons, List.map_append, List.map_append, ih]
      simp [List.intercalate_cons_cons]

theorem payloadOf_eq (gs : List (List Text)) : payloadOf gs = (groupLines gs).flatten := by
  rw [groupLines, ← join_flatten, payloadOf, List.map_map]
  rfl

private theorem mem_intercalate {α : Type} {x : α} {sep : List α} {ls : List (List α)}
    (hx : x ∈ sep.intercalate ls) : x ∈ sep ∨ ∃ l ∈ ls, x ∈ l := by
  induction ls with
  | nil => cases hx
  | cons l ls ih =>
    cases ls with
    | nil => exact .inr ⟨l, List.mem_cons_self, by simpa [List.intercalate] using hx⟩
    | cons k ls =>
      rw [List.intercalate_cons_cons, List.mem_append, List.mem_append] at hx
      rcases hx with (hl | hsep) | hrest
      · exact .inr ⟨l, List.mem_cons_self, hl⟩
      · exact .inl hsep
      · exact (ih hrest).imp_right fun ⟨k, hk, hxk⟩ => ⟨k, List.mem_cons_of_mem l hk, hxk⟩

/-- Every line of groups is the line of a tag, or holds nothing but the comment sign. -/
theorem exists_of_mem_groupLines {l : Text} (hl : l ∈ groupLines gs) :
    ∃ tag, l = tagLine tag ∧ (tag = [] ∨ ∃ g ∈ gs, tag ∈ g) := by
  rcases mem_intercalate hl with hsep | ⟨k, hk, hlk⟩
  · exact ⟨[], List.mem_singleton.mp hsep, .inl rfl⟩
  · obtain ⟨g, hg, rfl⟩ := List.mem_map.mp hk
    obtain ⟨tag, htag, rfl⟩ := List.mem_map.mp hlk
    exact ⟨tag, rfl, .inr ⟨g, (List.mem_filter.mp hg).1, htag⟩⟩

section

variable (hline : ∀ g ∈ gs, ∀ tag ∈ g, Point.char '\n' ∉ tag)
include hline

theorem lines_payloadOf : lines (payloadOf gs) = groupLines gs := by
  have hd : Divides (groupLines gs) [] (payloadOf gs) := by
    refine ⟨by rw [payloadOf_eq, List.append_nil], ?_, List.not_mem_nil⟩
    intro l hl
    obtain ⟨tag, rfl, rfl | ⟨g, hg, htag⟩⟩ := exists_of_mem_groupLines hl
    · exact isLine_tagLine List.not_mem_nil
    · exact isLine_tagLine (hline g hg tag htag)
  simpa using hd.lines_eq

theorem isLine_of_mem_payloadOf {l : Text} (hl : l ∈ lines (payloadOf gs)) :
    IsLine l ∧ " * ".points <+: l := by
  rw [lines_payloadOf hline] at hl
  obtain ⟨tag, rfl, hnil | ⟨g, hg, htag⟩⟩ := exists_of_mem_groupLines hl
  · subst hnil
    exact ⟨isLine_tagLine List.not_mem_nil, by decide⟩
  · exact ⟨isLine_tagLine (hline g hg tag htag), ⟨tag ++ "\n".points, by simp [tagLine]⟩⟩

/-- Groups of tags without line ends are read back, the empty ones apart. -/
theorem groupsIn_payloadOf (hempty : ∀ g ∈ gs, [] ∉ g) :
    groupsIn (payloadOf gs) = gs.filter (!·.isEmpty) := by
  have hbare : (groupLines gs).map bare = [[]].intercalate (gs.filter (!·.isEmpty)) := by
    rw [groupLines, map_intercalate, List.map_singleton, bare_tagLine, List.map_map]
    simp [Function.comp_def]
  rw [groupsIn, lines_payloadOf hline, hbare, stretches]
  cases hgs : gs.filter (!·.isEmpty) with
  | nil => rfl
  -- No tag is empty, so the empty lines are those between the groups; and a group is never empty,
  -- so there is at least one line.
  | cons g rest =>
    have hkept : ∀ k ∈ g :: rest, [] ∉ k := by
      intro k hk
      rw [← hgs] at hk
      exact hempty k (List.mem_filter.mp hk).1
    have hsplit := List.splitOn_intercalate [] hkept (List.cons_ne_nil g rest)
    have hne : [([] : Text)].intercalate (g :: rest) ≠ [] := by
      intro hnil
      rw [hnil, List.splitOn_nil] at hsplit
      have hg : g ∈ gs.filter (!·.isEmpty) := by rw [hgs]; exact List.mem_cons_self
      rw [← (List.cons.inj hsplit).1] at hg
      simp at hg
    rw [if_neg hne, hsplit]

end

private theorem eq_nil_of_join_eq_nil {sep : Text} {ts : List Text} (h : join sep ts = []) :
    ∀ t ∈ ts, t = [] := by
  induction ts with
  | nil =>
    intro t ht
    cases ht
  | cons u ts ih =>
    cases ts with
    | nil =>
      intro t ht
      rwa [List.mem_singleton.mp ht]
    | cons k ts =>
      rw [join, List.append_eq_nil_iff, List.append_eq_nil_iff] at h
      exact List.forall_mem_cons.mpr ⟨h.1.1, ih h.2⟩

theorem payloadOf_eq_nil_iff : payloadOf gs = [] ↔ ∀ g ∈ gs, g = [] := by
  constructor
  · intro hnil g hg
    cases g with
    | nil => rfl
    | cons tag g =>
      have hkept : tag :: g ∈ gs.filter (!·.isEmpty) := List.mem_filter.mpr ⟨hg, rfl⟩
      have hlines := eq_nil_of_join_eq_nil hnil _ (List.mem_map_of_mem hkept)
      rw [List.flatMap_cons, List.append_eq_nil_iff] at hlines
      cases hlines.1
  · intro hall
    have hnone : gs.filter (!·.isEmpty) = [] := by
      rw [List.filter_eq_nil_iff]
      intro g hg
      simp [hall g hg]
    rw [payloadOf, hnone]
    rfl

private theorem unworded_lineEnd : Unworded [Point.char '\n'] :=
  unworded_of_heads rfl (by decide)

private theorem unworded_of_mem (hm : m ∈ markers) : Unworded m := by
  revert m
  rw [forall_markers]
  exact ⟨unworded_of_heads rfl (by decide), unworded_of_heads rfl (by decide)⟩

/-- The payload of a class whose texts hold no line end can be read back: each line is a comment
line, the groups in it are the groups of tags of the class that are not empty, in order, with a tag
for each entry, and it is empty exactly if all groups are. -/
theorem payload_reads_back (hp : payload d = .ok p)
    (hn : ∀ v ∈ components d, ∀ t, Shows v t → Point.char '\n' ∉ t) :
    ∃ w, Words d w ∧
      (propertyTags d = .ok w.propertyTags ∧ hasOneTags d = .ok w.hasOneTags ∧
        hasManyTags d = .ok w.hasManyTags ∧ manyManyTags d = .ok w.manyManyTags ∧
        mixinTags d = .ok w.mixinTags) ∧
      (∀ l ∈ lines p, IsLine l ∧ " * ".points <+: l) ∧
      groupsIn p =
        [w.propertyTags, w.hasOneTags, w.hasManyTags, w.manyManyTags, w.mixinTags].filter
          (!·.isEmpty) ∧
      (w.propertyTags.length =
          d.db.length + (if d.isExtension && !d.owners.isEmpty then 1 else 0) ∧
        w.hasOneTags.length = 2 * d.hasOne.length ∧ w.hasManyTags.length = d.hasMany.length ∧
        w.manyManyTags.length = d.manyMany.length + d.belongsManyMany.length ∧
        w.mixinTags.length = if d.isExtension then 0 else d.extensions.length) ∧
      (p = [] ↔ w.propertyTags = [] ∧ w.hasOneTags = [] ∧ w.hasManyTags = [] ∧
        w.manyManyTags = [] ∧ w.mixinTags = []) := by
  obtain ⟨w, hw, rfl⟩ := payload_eq_ok.mp hp
  -- No wording has a line end, so one in a tag would come from a value.
  have hline : ∀ g ∈ w.groups, ∀ tag ∈ g, Point.char '\n' ∉ tag := by
    intro g hg tag htag hmem
    have htext : ∃ t ∈ w.texts, [Point.char '\n'] <:+: t :=
      (unworded_lineEnd.exists_tag_iff w).mp
        ⟨g, hg, tag, htag, (List.singleton_infix_iff _ _).mpr hmem⟩
    obtain ⟨v, hv, t, ht, hin⟩ := (hw.exists_text_iff _).mp htext
    exact hn v hv t ht ((List.singleton_infix_iff _ _).mp hin)
  have hempty : ∀ g ∈ w.groups, [] ∉ g := by
    intro g hg htag
    cases Wording.head?_of_mem hg htag
  refine ⟨w, hw, hw.made, fun l hl => isLine_of_mem_payloadOf hline hl,
    groupsIn_payloadOf hline hempty, hw.lengths, ?_⟩
  rw [payloadOf_eq_nil_iff]
  simp [Wording.groups]

/-- An extension with an owner, and one name in three kinds of relations. -/
def ownedSchema : Descriptor where
  name := "Ext".points
  kind := .extension
  db := [(.text "Title".points, .text "Varchar(255)".points)]
  hasMany := [(.text "Tags".points, .text "Tag".points)]
  manyMany := [(.text "Tags".points, .text "Tag".points)]
  belongsManyMany := [(.text "Tags".points, .text "Tag".points)]
  extensions := [.text "Other".points]
  owners := [.text "Page".points]

/-- Its three groups are read back, with two empty ones left out. -/
theorem payload_reads_back_owned :
    ∃ p, payload ownedSchema = .ok p ∧
      groupsIn p =
        [["@property string $Title".points, "@property Page|Ext $owner".points],
          ["@method DataList|Tag[] Tags()".points],
          ["@method ManyManyList|Tag[] Tags()".points,
            "@method ManyManyList|Tag[] Tags()".points]] := by
  obtain ⟨p, hp⟩ : ∃ p, payload ownedSchema = .ok p := ⟨_, rfl⟩
  obtain ⟨ts, hshown, hplain⟩ : ∃ ts, components ownedSchema = ts.map Value.text ∧
      ∀ s ∈ ts, Point.char '\n' ∉ s :=
    ⟨["Title".points, "Page".points, "Ext".points, "Tags".points, "Tag".points, "Tags".points,
      "Tag".points, "Tags".points, "Tag".points], rfl, by decide⟩
  have hn : ∀ v ∈ components ownedSchema, ∀ t, Shows v t → Point.char '\n' ∉ t := by
    intro v hv t ht
    rw [hshown] at hv
    obtain ⟨s, hs, rfl⟩ := List.mem_map.mp hv
    obtain rfl : s = t := Except.ok.inj ht
    exact hplain s hs
  obtain ⟨w, -, ⟨hproperty, hhasOne, hhasMany, hmanyMany, hmixin⟩, -, hgroups, -⟩ :=
    payload_reads_back hp hn
  refine ⟨p, hp, ?_⟩
  rw [hgroups, ← Except.ok.inj hproperty, ← Except.ok.inj hhasOne, ← Except.ok.inj hhasMany,
    ← Except.ok.inj hmanyMany, ← Except.ok.inj hmixin]
  rfl

/-! ## Markers in a payload -/

-- The comment sign and the line ends bring no marker in and complete none.
private theorem foreign_of_mem (hm : m ∈ markers) :
    Foreign m " * ".points ∧ Foreign m "\n".points ∧ Foreign m " * \n".points := by
  revert m
  rw [forall_markers]
  exact ⟨⟨foreign_of_heads rfl rfl (by decide) (by decide),
      foreign_of_heads rfl rfl (by decide) (by decide),
      foreign_of_heads rfl rfl (by decide) (by decide)⟩,
    foreign_of_heads rfl rfl (by decide) (by decide),
    foreign_of_heads rfl rfl (by decide) (by decide),
    foreign_of_heads rfl rfl (by decide) (by decide)⟩

private theorem infix_tagLines_iff (hm : m ∈ markers) (g : List Text) :
    m <:+: g.flatMap tagLine ↔ ∃ tag ∈ g, m <:+: tag := by
  obtain ⟨hsign, hend, -⟩ := foreign_of_mem hm
  induction g with
  | nil => simp [hend.1]
  | cons tag g ih =>
    rw [List.flatMap_cons, tagLine, hend.infix_around, hsign.infix_right, ih]
    simp only [List.mem_cons, exists_eq_or_imp]

/-- A marker stands in a payload exactly if it stands in a tag. -/
theorem infix_payloadOf_iff (hm : m ∈ markers) :
    m <:+: payloadOf gs ↔ ∃ g ∈ gs, ∃ tag ∈ g, m <:+: tag := by
  obtain ⟨-, -, hblank⟩ := foreign_of_mem hm
  rw [payloadOf, hblank.infix_join]
  simp only [List.mem_map, exists_exists_and_eq_and, infix_tagLines_iff hm, List.mem_filter]
  constructor
  · rintro ⟨g, ⟨hg, -⟩, htag⟩
    exact ⟨g, hg, htag⟩
  · rintro ⟨g, hg, tag, htag, hin⟩
    exact ⟨g, ⟨hg, by simp [List.ne_nil_of_mem htag]⟩, tag, htag, hin⟩

/-- A marker stands in the payload of a class exactly if a value that the tags show is written with
it. -/
theorem infix_payload_iff (hm : m ∈ markers) (hp : payload d = .ok p) :
    m <:+: p ↔ ∃ v ∈ components d, ∃ t, Shows v t ∧ m <:+: t := by
  obtain ⟨w, hw, rfl⟩ := payload_eq_ok.mp hp
  rw [infix_payloadOf_iff hm, (unworded_of_mem hm).exists_tag_iff, hw.exists_text_iff]

/-- Classes that show the same values have the same markers in their payloads. -/
theorem infix_payload_congr {c : Descriptor} {q : Text} (hm : m ∈ markers)
    (hp : payload d = .ok p) (hq : payload c = .ok q) (h : components c = components d) :
    m <:+: q ↔ m <:+: p := by
  rw [infix_payload_iff hm hp, infix_payload_iff hm hq, h]

/-- When a payload holds a marker: exactly if a key of a field, a name or a target of a relation, a
mixed-in class of an entity, or the owners or the name of an owned extension is written with it. So
the types of fields and what an extension is said to mix in bring no marker in. -/
theorem marker_in_payload_iff (hm : m ∈ markers) (hp : payload d = .ok p) :
    (m <:+: p ↔ ∃ v ∈ components d, ∃ t, Shows v t ∧ m <:+: t) ∧
    (∀ db q, db.map (·.1) = d.db.map (·.1) → payload { d with db := db } = .ok q →
      (m <:+: q ↔ m <:+: p)) ∧
    (d.isExtension = true → ∀ mixins q, payload { d with extensions := mixins } = .ok q →
      (m <:+: q ↔ m <:+: p)) := by
  refine ⟨infix_payload_iff hm hp, ?_, ?_⟩
  · intro db q hkeys hq
    apply infix_payload_congr hm hp hq
    simp only [components, hkeys]
    rfl
  · intro hext mixins q hq
    apply infix_payload_congr hm hp hq
    have hnone : mixedIn d = [] := if_pos hext
    have hnone' : mixedIn { d with extensions := mixins } = [] := if_pos hext
    simp only [components, hnone, hnone']
    rfl

/-- A class with a marker in the type of a field and the other one in the target of a relation. -/
def markedSchema : Descriptor where
  name := "Page".points
  db := [(.text "Title".points, .text startMarker)]
  hasOne := [(.text "Parent".points, .text endMarker)]

/-- Only the marker in the target comes into the payload. -/
theorem marker_in_payload_iff_target :
    ∃ p, payload markedSchema = .ok p ∧ ¬startMarker <:+: p ∧ endMarker <:+: p := by
  obtain ⟨p, hp⟩ : ∃ p, payload markedSchema = .ok p := ⟨_, rfl⟩
  have hstart := (marker_in_payload_iff start_mem_markers hp).1
  have hend := (marker_in_payload_iff end_mem_markers hp).1
  refine ⟨p, hp, ?_, ?_⟩
  · rw [hstart]
    rintro ⟨v, hv, t, ht, hin⟩
    have hzero : ∀ t ∈ ["Title".points, "Parent".points, endMarker], count startMarker t = 0 := by
      decide
    have hshown : components markedSchema =
        ["Title".points, "Parent".points, endMarker].map Value.text := rfl
    rw [hshown] at hv
    obtain ⟨s, hs, rfl⟩ := List.mem_map.mp hv
    obtain rfl : s = t := Except.ok.inj ht
    exact (count_eq_zero_iff (by decide)).mp (hzero s hs) hin
  · rw [hend]
    exact ⟨.text endMarker, by simp [components, markedSchema], endMarker, rfl, List.infix_refl _⟩

end Docblocks.Schema
