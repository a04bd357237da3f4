import Docblocks.Proofs.Result
import Docblocks.Proofs.Text.Seam
import Docblocks.Schema.Tags
import Mathlib.Data.List.Forall2

/-!
The texts that the tags of a class are made of.

Tags are made in two steps, which the functions that make them take at once: the values of the
schema are written as texts, which may fail, and the texts are set into fixed wording, which may
not. `Wording` is what lies between the steps. A pattern that is foreign to all fixed wording stands
in a tag exactly if it stands in one of the texts.
-/

set_option autoImplicit false
set_option relaxedAutoImplicit false

namespace Docblocks.Schema

open Docblocks.Text

variable {d : Descriptor} {pat : Text}

/-- The texts in the tags of a class; a relation is its name and its target. -/
structure Wording where
  fields : List (ScalarType × Text)
  owners : List Text
  hasOne : List (Text × Text)
  hasMany : List (Text × Text)
  manyMany : List (Text × Text)
  mixins : List Text

namespace Wording

def fieldTag (f : ScalarType × Text) : Text :=
  "@property ".points ++ f.1.name ++ " $".points ++ f.2

def ownerTag (types : List Text) : Text :=
  "@property ".points ++ join "|".points types ++ " $owner".points

def keyTag (e : Text × Text) : Text :=
  "@property int $".points ++ e.1 ++ "ID".points

def accessorTag (e : Text × Text) : Text :=
  "@method ".points ++ e.2 ++ " ".points ++ e.1 ++ "()".points

def listTag (listType : String) (e : Text × Text) : Text :=
  "@method ".points ++ listType.points ++ "|".points ++ e.2 ++ "[] ".points ++ e.1 ++ "()".points

def mixinTag (t : Text) : Text :=
  "@mixin ".points ++ t

variable (w : Wording)

/-- One tag for each field, and one for all owners together if there are any. -/
def propertyTags : List Text :=
  w.fields.map fieldTag ++ if w.owners = [] then [] else [ownerTag w.owners]

def hasOneTags : List Text :=
  w.hasOne.flatMap fun e => [keyTag e, accessorTag e]

def hasManyTags : List Text :=
  w.hasMany.map (listTag "DataList")

def manyManyTags : List Text :=
  w.manyMany.map (listTag "ManyManyList")

def mixinTags : List Text :=
  w.mixins.map mixinTag

def groups : List (List Text) :=
  [w.propertyTags, w.hasOneTags, w.hasManyTags, w.manyManyTags, w.mixinTags]

def texts : List Text :=
  w.fields.map (·.2) ++ w.owners ++
    (w.hasOne ++ w.hasMany ++ w.manyMany).flatMap (fun e => [e.1, e.2]) ++ w.mixins

end Wording

/-! ## The values that are written -/

/-- The types of the owner of an extension: the owners and the extension itself. -/
def ownerTypes (d : Descriptor) : List Value :=
  if d.isExtension && !d.owners.isEmpty then d.owners ++ [.text d.name] else []

/-- The extensions that an entity mixes in; an extension mixes in none. -/
def mixedIn (d : Descriptor) : List Value :=
  if d.isExtension then [] else d.extensions

/-- The values of a class that its tags show: keys of fields, types of the owner, names and targets
of relations, and what is mixed in. -/
def components (d : Descriptor) : List Value :=
  d.db.map (·.1) ++ ownerTypes d ++
    (d.hasOne ++ d.hasMany ++ (d.manyMany ++ d.belongsManyMany)).flatMap (fun e => [e.1, e.2]) ++
    mixedIn d

def Shows (v : Value) (t : Text) : Prop := v.written = .ok t

/-- A relation written as the texts of its name and its target. -/
def ShowsEntry (e : Value × Value) (t : Text × Text) : Prop := Shows e.1 t.1 ∧ Shows e.2 t.2

/-- The texts of a class, entry for entry. -/
structure Words (d : Descriptor) (w : Wording) : Prop where
  fields : List.Forall₂ (fun e f => fieldScalar e.2 = .ok f.1 ∧ Shows e.1 f.2) d.db w.fields
  owners : ownerTypes d = w.owners.map Value.text
  hasOne : List.Forall₂ ShowsEntry d.hasOne w.hasOne
  hasMany : List.Forall₂ ShowsEntry d.hasMany w.hasMany
  manyMany : List.Forall₂ ShowsEntry (d.manyMany ++ d.belongsManyMany) w.manyMany
  mixins : List.Forall₂ Shows (mixedIn d) w.mixins

theorem shows_text (t : Text) : Shows (.text t) t := rfl

theorem Words.forall₂_texts {w : Wording} (h : Words d w) :
    List.Forall₂ Shows (components d) w.texts := by
  have hfields : List.Forall₂ Shows (d.db.map (·.1)) (w.fields.map (·.2)) := by
    rw [List.forall₂_map_left_iff, List.forall₂_map_right_iff]
    exact h.fields.imp fun e f hef => hef.2
  have howners : List.Forall₂ Shows (ownerTypes d) w.owners := by
    rw [h.owners, List.forall₂_map_left_iff, List.forall₂_same]
    intro t _
    exact shows_text t
  have hrelations := List.rel_append (List.rel_append h.hasOne h.hasMany) h.manyMany
  have hboth : List.Forall₂ Shows
      ((d.hasOne ++ d.hasMany ++ (d.manyMany ++ d.belongsManyMany)).flatMap fun e => [e.1, e.2])
      ((w.hasOne ++ w.hasMany ++ w.manyMany).flatMap fun e => [e.1, e.2]) :=
    List.rel_flatMap hrelations fun e t het => .cons het.1 (.cons het.2 .nil)
  exact List.rel_append (List.rel_append (List.rel_append hfields howners) hboth) h.mixins

private theorem exists_iff_of_shows {vs : List Value} {ts : List Text}
    (h : List.Forall₂ Shows vs ts) (P : Text → Prop) :
    (∃ t ∈ ts, P t) ↔ ∃ v ∈ vs, ∃ t, Shows v t ∧ P t := by
  induction h with
  | nil => simp
  | @cons v t vs ts hv _ ih =>
    have hhead : P t ↔ ∃ u, Shows v u ∧ P u := by
      constructor
      · intro ht
        exact ⟨t, hv, ht⟩
      · rintro ⟨u, hu, hP⟩
        rwa [Except.ok.inj (hv.symm.trans hu)]
    simp only [List.mem_cons, exists_eq_or_imp, ih, hhead]

/-- Some text of a class has a property exactly if some value of it is written so. -/
theorem Words.exists_text_iff {w : Wording} (h : Words d w) (P : Text → Prop) :
    (∃ t ∈ w.texts, P t) ↔ ∃ v ∈ components d, ∃ t, Shows v t ∧ P t :=
  exists_iff_of_shows h.forall₂_texts P

/-! ## Both steps together -/

section

variable {α β : Type} {tags : α → Except TagFault (List Text)} {wordOf : α → β → Prop}
  {tagsIn : β → List Text} {as : List α} {ts : List Text}

-- The induction is on the entries; each of them is written before the tags of the next one.
private theorem tagsOf_eq_ok
    (h : ∀ a ts, tags a = .ok ts ↔ ∃ b, wordOf a b ∧ tagsIn b = ts) :
    tagsOf tags as = .ok ts ↔ ∃ bs, List.Forall₂ wordOf as bs ∧ bs.flatMap tagsIn = ts := by
  induction as generalizing ts with
  | nil => simp [tagsOf, eq_comm]
  | cons a as ih =>
    rw [tagsOf]
    constructor
    · intro hts
      cases ha : tags a with
      | error f =>
        rw [ha] at hts
        cases hts
      | ok us =>
        rw [ha] at hts
        obtain ⟨rest, hrest, rfl⟩ := Except.map_eq_ok.mp hts
        obtain ⟨b, hb, rfl⟩ := (h a us).mp ha
        obtain ⟨bs, hbs, rfl⟩ := ih.mp hrest
        exact ⟨b :: bs, .cons hb hbs, List.flatMap_cons⟩
    · rintro ⟨bs, hbs, rfl⟩
      cases hbs with
      | cons hb hbs =>
        rw [(h a _).mpr ⟨_, hb, rfl⟩, ih.mpr ⟨_, hbs, rfl⟩, List.flatMap_cons]
        rfl

end

theorem valueText_eq_ok {v : Value} {t : Text} : valueText v = .ok t ↔ Shows v t :=
  Except.mapError_eq_ok

private theorem fieldTags_eq_ok (e : Value × Value) (ts : List Text) :
    fieldTags e = .ok ts ↔
      ∃ f : ScalarType × Text, (fieldScalar e.2 = .ok f.1 ∧ Shows e.1 f.2) ∧
        [Wording.fieldTag f] = ts := by
  rw [fieldTags]
  cases fieldScalar e.2 with
  | error f => simp
  | ok s => simp [Except.map_eq_ok, valueText_eq_ok, Wording.fieldTag]

private theorem relationTags_eq_ok (e : Value × Value) (ts : List Text) :
    relationTags e = .ok ts ↔
      ∃ t : Text × Text, ShowsEntry e t ∧ [Wording.keyTag t, Wording.accessorTag t] = ts := by
  rw [relationTags]
  cases hname : valueText e.1 with
  | error f =>
    simp only [Prod.exists, ShowsEntry, ← valueText_eq_ok, hname]
    simp
  | ok name =>
    simp only [Prod.exists, ShowsEntry, ← valueText_eq_ok, hname, Except.map_eq_ok]
    simp [Wording.keyTag, Wording.accessorTag]

private theorem listTags_eq_ok (listType : String) (e : Value × Value) (ts : List Text) :
    listTags listType e = .ok ts ↔
      ∃ t : Text × Text, ShowsEntry e t ∧ [Wording.listTag listType t] = ts := by
  rw [listTags]
  cases htarget : valueText e.2 with
  | error f =>
    simp only [Prod.exists, ShowsEntry, ← valueText_eq_ok, htarget]
    simp
  | ok target =>
    simp only [Prod.exists, ShowsEntry, ← valueText_eq_ok, htarget, Except.map_eq_ok]
    simp [Wording.listTag]

private theorem mixinTag_eq_ok (v : Value) (ts : List Text) :
    mixinTag v = .ok ts ↔ ∃ t, Shows v t ∧ [Wording.mixinTag t] = ts := by
  rw [mixinTag, Except.map_eq_ok]
  simp [valueText_eq_ok, Wording.mixinTag]

private theorem ownerNames_eq_ok {vs : List Value} {ts : List Text} :
    ownerNames vs = .ok ts ↔ vs = ts.map Value.text := by
  fun_induction ownerNames vs generalizing ts with
  | case1 => simp [eq_comm]
  | case2 t rest ih =>
    rw [Except.map_eq_ok]
    simp only [ih]
    constructor
    · rintro ⟨us, rfl, rfl⟩
      rfl
    · intro h
      cases ts with
      | nil => cases h
      | cons u us =>
        obtain ⟨hu, hus⟩ := List.cons_eq_cons.mp h
        exact ⟨us, hus, by rw [Value.text.inj hu]⟩
  | case3 v rest hno =>
    constructor
    · intro h
      cases h
    · intro h
      cases ts with
      | nil => cases h
      | cons u us => exact absurd (List.cons_eq_cons.mp h).1 (hno u)

private theorem ownerTags_eq_ok {ts : List Text} :
    ownerTags d = .ok ts ↔ ∃ os, ownerTypes d = os.map Value.text ∧
      (if os = [] then [] else [Wording.ownerTag os]) = ts := by
  rw [ownerTags, ownerTypes]
  split
  · rw [Except.map_eq_ok]
    constructor
    · rintro ⟨names, hnames, rfl⟩
      rw [ownerNames_eq_ok] at hnames
      exact ⟨names ++ [d.name], by rw [hnames, List.map_append]; rfl, by simp [Wording.ownerTag]⟩
    · rintro ⟨os, hos, rfl⟩
      obtain ⟨names, last, rfl, hnames, hlast⟩ := List.map_eq_append_iff.mp hos.symm
      obtain ⟨t, rfl, ht⟩ := List.map_eq_singleton_iff.mp hlast
      obtain rfl := Value.text.inj ht
      exact ⟨names, ownerNames_eq_ok.mpr hnames.symm, by simp [Wording.ownerTag]⟩
  · simp [eq_comm]

private theorem propertyTags_eq_ok {ts : List Text} :
    propertyTags d = .ok ts ↔ ∃ fs os,
      List.Forall₂ (fun e f => fieldScalar e.2 = .ok f.1 ∧ Shows e.1 f.2) d.db fs ∧
        ownerTypes d = os.map Value.text ∧
        (fs.map Wording.fieldTag ++ if os = [] then [] else [Wording.ownerTag os]) = ts := by
  rw [propertyTags]
  cases hfields : tagsOf fieldTags d.db with
  | error f =>
    simp only [reduceCtorEq, false_iff]
    rintro ⟨fs, os, hfs, -⟩
    rw [(tagsOf_eq_ok fieldTags_eq_ok).mpr ⟨fs, hfs, rfl⟩] at hfields
    cases hfields
  -- Two lists of texts for the same fields need not be compared: they give the same tags.
  | ok fields =>
    obtain ⟨fs, hfs, rfl⟩ := (tagsOf_eq_ok fieldTags_eq_ok).mp hfields
    simp only [Except.map_eq_ok, ownerTags_eq_ok]
    constructor
    · rintro ⟨owner, ⟨os, hos, rfl⟩, rfl⟩
      exact ⟨fs, os, hfs, hos, by rw [List.map_eq_flatMap]⟩
    · rintro ⟨fs', os, hfs', hos, rfl⟩
      rw [(tagsOf_eq_ok fieldTags_eq_ok).mpr ⟨fs', hfs', rfl⟩] at hfields
      exact ⟨_, ⟨os, hos, rfl⟩, by rw [← Except.ok.inj hfields, List.map_eq_flatMap]⟩

private theorem hasOneTags_eq_ok {ts : List Text} :
    hasOneTags d = .ok ts ↔ ∃ es, List.Forall₂ ShowsEntry d.hasOne es ∧
      (es.flatMap fun e => [Wording.keyTag e, Wording.accessorTag e]) = ts :=
  tagsOf_eq_ok relationTags_eq_ok

private theorem hasManyTags_eq_ok {ts : List Text} :
    hasManyTags d = .ok ts ↔ ∃ es, List.Forall₂ ShowsEntry d.hasMany es ∧
      es.map (Wording.listTag "DataList") = ts := by
  simp only [List.map_eq_flatMap]
  exact tagsOf_eq_ok (listTags_eq_ok "DataList")

private theorem manyManyTags_eq_ok {ts : List Text} :
    manyManyTags d = .ok ts ↔ ∃ es, List.Forall₂ ShowsEntry (d.manyMany ++ d.belongsManyMany) es ∧
      es.map (Wording.listTag "ManyManyList") = ts := by
  simp only [List.map_eq_flatMap]
  exact tagsOf_eq_ok (listTags_eq_ok "ManyManyList")

private theorem mixinTags_eq_ok {ts : List Text} :
    mixinTags d = .ok ts ↔ ∃ ms, List.Forall₂ Shows (mixedIn d) ms ∧
      ms.map Wording.mixinTag = ts := by
  rw [mixinTags, mixedIn]
  split
  · simp [eq_comm]
  · simp only [List.map_eq_flatMap]
    exact tagsOf_eq_ok mixinTag_eq_ok

theorem Words.made {w : Wording} (h : Words d w) :
    propertyTags d = .ok w.propertyTags ∧ hasOneTags d = .ok w.hasOneTags ∧
      hasManyTags d = .ok w.hasManyTags ∧ manyManyTags d = .ok w.manyManyTags ∧
      mixinTags d = .ok w.mixinTags :=
  ⟨propertyTags_eq_ok.mpr ⟨_, _, h.fields, h.owners, rfl⟩,
    hasOneTags_eq_ok.mpr ⟨_, h.hasOne, rfl⟩, hasManyTags_eq_ok.mpr ⟨_, h.hasMany, rfl⟩,
    manyManyTags_eq_ok.mpr ⟨_, h.manyMany, rfl⟩, mixinTags_eq_ok.mpr ⟨_, h.mixins, rfl⟩⟩

/-- The tags of a class can be made exactly if its values can be written, and are made of these
texts. -/
theorem tagGroups_eq_ok {gs : List (List Text)} :
    tagGroups d = .ok gs ↔ ∃ w, Words d w ∧ w.groups = gs := by
  have hsteps : tagGroups d = .ok gs ↔ ∃ property, propertyTags d = .ok property ∧
      ∃ hasOne, hasOneTags d = .ok hasOne ∧ ∃ hasMany, hasManyTags d = .ok hasMany ∧
      ∃ manyMany, manyManyTags d = .ok manyMany ∧ ∃ mixin, mixinTags d = .ok mixin ∧
      [property, hasOne, hasMany, manyMany, mixin] = gs := by
    simp only [tagGroups, Except.bind_eq_ok, pure, Except.pure, Except.ok.injEq]
  rw [hsteps]
  constructor
  · rintro ⟨_, hproperty, _, hhasOne, _, hhasMany, _, hmanyMany, _, hmixin, rfl⟩
    obtain ⟨fs, os, hfs, hos, rfl⟩ := propertyTags_eq_ok.mp hproperty
    obtain ⟨ones, hones, rfl⟩ := hasOneTags_eq_ok.mp hhasOne
    obtain ⟨manies, hmanies, rfl⟩ := hasManyTags_eq_ok.mp hhasMany
    obtain ⟨pairs, hpairs, rfl⟩ := manyManyTags_eq_ok.mp hmanyMany
    obtain ⟨ms, hms, rfl⟩ := mixinTags_eq_ok.mp hmixin
    exact ⟨⟨fs, os, ones, manies, pairs, ms⟩, ⟨hfs, hos, hones, hmanies, hpairs, hms⟩, rfl⟩
  · rintro ⟨w, hw, rfl⟩
    obtain ⟨hproperty, hhasOne, hhasMany, hmanyMany, hmixin⟩ := hw.made
    exact ⟨_, hproperty, _, hhasOne, _, hhasMany, _, hmanyMany, _, hmixin, rfl⟩

theorem payload_eq_ok {p : Text} :
    payload d = .ok p ↔ ∃ w, Words d w ∧ payloadOf w.groups = p := by
  rw [payload, Except.map_eq_ok]
  constructor
  · rintro ⟨gs, hgs, rfl⟩
    obtain ⟨w, hw, rfl⟩ := tagGroups_eq_ok.mp hgs
    exact ⟨w, hw, rfl⟩
  · rintro ⟨w, hw, rfl⟩
    exact ⟨_, tagGroups_eq_ok.mpr ⟨w, hw, rfl⟩, rfl⟩

private theorem Words.owners_eq_nil_iff {w : Wording} (h : Words d w) :
    w.owners = [] ↔ ¬(d.isExtension && !d.owners.isEmpty) = true := by
  have howners := h.owners
  rw [ownerTypes] at howners
  split at howners
  · next hext =>
    have hne : w.owners ≠ [] := by
      intro hnil
      rw [hnil] at howners
      simp at howners
    exact iff_of_false hne (not_not_intro hext)
  · next hext => exact iff_of_true (List.map_eq_nil_iff.mp howners.symm) hext

/-- One tag for each field and one for the owners, two for each relation to one class, one for each
other relation and for each class that is mixed in. -/
theorem Words.lengths {w : Wording} (h : Words d w) :
    w.propertyTags.length =
        d.db.length + (if d.isExtension && !d.owners.isEmpty then 1 else 0) ∧
      w.hasOneTags.length = 2 * d.hasOne.length ∧ w.hasManyTags.length = d.hasMany.length ∧
      w.manyManyTags.length = d.manyMany.length + d.belongsManyMany.length ∧
      w.mixinTags.length = if d.isExtension then 0 else d.extensions.length := by
  refine ⟨?_, ?_, ?_, ?_, ?_⟩
  · rw [Wording.propertyTags, List.length_append, List.length_map, h.fields.length_eq]
    by_cases hext : (d.isExtension && !d.owners.isEmpty) = true
    · have hne : w.owners ≠ [] := fun hnil => h.owners_eq_nil_iff.mp hnil hext
      rw [if_neg hne, if_pos hext, List.length_singleton]
    · rw [if_pos (h.owners_eq_nil_iff.mpr hext), if_neg hext, List.length_nil]
  · rw [Wording.hasOneTags, h.hasOne.length_eq, List.length_flatMap]
    simp [Nat.mul_comm]
  · rw [Wording.hasManyTags, List.length_map, h.hasMany.length_eq]
  · rw [Wording.manyManyTags, List.length_map, ← h.manyMany.length_eq, List.length_append]
  · rw [Wording.mixinTags, List.length_map, ← h.mixins.length_eq, mixedIn]
    split
    · rfl
    · rfl

theorem Wording.head?_of_mem {w : Wording} {g : List Text} {tag : Text} (hg : g ∈ w.groups)
    (htag : tag ∈ g) : tag.head? = some (Point.char '@') := by
  simp only [Wording.groups, List.mem_cons, List.not_mem_nil, or_false] at hg
  rcases hg with rfl | rfl | rfl | rfl | rfl
  · rcases List.mem_append.mp htag with hfield | howner
    · obtain ⟨f, -, rfl⟩ := List.mem_map.mp hfield
      rfl
    · split at howner
      · cases howner
      · rw [List.mem_singleton.mp howner]
        rfl
  · obtain ⟨e, -, he⟩ := List.mem_flatMap.mp htag
    simp only [List.mem_cons, List.not_mem_nil, or_false] at he
    rcases he with rfl | rfl
    · rfl
    · rfl
  · obtain ⟨e, -, rfl⟩ := List.mem_map.mp htag
    rfl
  · obtain ⟨e, -, rfl⟩ := List.mem_map.mp htag
    rfl
  · obtain ⟨t, -, rfl⟩ := List.mem_map.mp htag
    rfl

/-! ## Patterns and wording -/

/-- The pieces that texts are set between to make a tag. -/
def fixedWording : List String :=
  ["@property boolean $", "@property float $", "@property int $", "@property string $",
    "@property ", "|", " $owner", "ID", "@method ", " ", "()", "@method DataList|",
    "@method ManyManyList|", "[] ", "@mixin "]

/-- The pattern comes from no fixed wording, not even in part. -/
def Unworded (pat : Text) : Prop := ∀ s ∈ fixedWording, Foreign pat s.points

/-- Wording does not hold what the pattern opens with, and opens with what the pattern does not
hold. -/
theorem unworded_of_heads {b : Point} (hpat : pat.head? = some b)
    (h : ∀ s ∈ fixedWording, b ∉ s.points ∧ ∃ c ∈ s.points.head?, c ∉ pat) : Unworded pat := by
  intro s hs
  obtain ⟨hb, c, hc, hcpat⟩ := h s hs
  exact foreign_of_heads hpat hc hb hcpat

namespace Unworded

variable (h : Unworded pat)
include h

private theorem infix_fieldTag (f : ScalarType × Text) :
    pat <:+: Wording.fieldTag f ↔ pat <:+: f.2 := by
  obtain ⟨s, hs, hframe⟩ :
      ∃ s ∈ fixedWording, "@property ".points ++ f.1.name ++ " $".points = s.points := by
    cases f.1 with
    | boolean => exact ⟨"@property boolean $", by simp [fixedWording], rfl⟩
    | float => exact ⟨"@property float $", by simp [fixedWording], rfl⟩
    | int => exact ⟨"@property int $", by simp [fixedWording], rfl⟩
    | string => exact ⟨"@property string $", by simp [fixedWording], rfl⟩
  rw [Wording.fieldTag, hframe, (h s hs).infix_right]

private theorem infix_ownerTag (types : List Text) :
    pat <:+: Wording.ownerTag types ↔ ∃ t ∈ types, pat <:+: t := by
  have hleft : Foreign pat "@property ".points := h _ (by simp [fixedWording])
  have hbetween : Foreign pat "|".points := h _ (by simp [fixedWording])
  have hright : Foreign pat " $owner".points := h _ (by simp [fixedWording])
  rw [Wording.ownerTag, hright.infix_left, hleft.infix_right, hbetween.infix_join]

private theorem infix_keyTag (e : Text × Text) : pat <:+: Wording.keyTag e ↔ pat <:+: e.1 := by
  have hleft : Foreign pat "@property int $".points := h _ (by simp [fixedWording])
  have hright : Foreign pat "ID".points := h _ (by simp [fixedWording])
  rw [Wording.keyTag, hright.infix_left, hleft.infix_right]

private theorem infix_accessorTag (e : Text × Text) :
    pat <:+: Wording.accessorTag e ↔ pat <:+: e.2 ∨ pat <:+: e.1 := by
  have hleft : Foreign pat "@method ".points := h _ (by simp [fixedWording])
  have hbetween : Foreign pat " ".points := h _ (by simp [fixedWording])
  have hright : Foreign pat "()".points := h _ (by simp [fixedWording])
  rw [Wording.accessorTag, hright.infix_left, hbetween.infix_around, hleft.infix_right]

private theorem infix_listTag {listType s : String} (hs : s ∈ fixedWording)
    (hframe : "@method ".points ++ listType.points ++ "|".points = s.points) (e : Text × Text) :
    pat <:+: Wording.listTag listType e ↔ pat <:+: e.2 ∨ pat <:+: e.1 := by
  have hbetween : Foreign pat "[] ".points := h _ (by simp [fixedWording])
  have hright : Foreign pat "()".points := h _ (by simp [fixedWording])
  rw [Wording.listTag, hright.infix_left, hbetween.infix_around, hframe, (h s hs).infix_right]

private theorem infix_mixinTag (t : Text) : pat <:+: Wording.mixinTag t ↔ pat <:+: t := by
  have hleft : Foreign pat "@mixin ".points := h _ (by simp [fixedWording])
  exact hleft.infix_right t

private theorem exists_propertyTag_iff (w : Wording) :
    (∃ tag ∈ w.propertyTags, pat <:+: tag) ↔
      (∃ f ∈ w.fields, pat <:+: f.2) ∨ ∃ t ∈ w.owners, pat <:+: t := by
  simp only [Wording.propertyTags, List.mem_append, or_and_right, exists_or, List.mem_map,
    exists_exists_and_eq_and, h.infix_fieldTag]
  split
  · next hnil => simp [hnil]
  · simp only [List.mem_singleton, exists_eq_left, h.infix_ownerTag]

private theorem exists_hasOneTag_iff (w : Wording) :
    (∃ tag ∈ w.hasOneTags, pat <:+: tag) ↔ ∃ e ∈ w.hasOne, pat <:+: e.2 ∨ pat <:+: e.1 := by
  have hpair : ∀ e : Text × Text, pat <:+: e.2 ∨ pat <:+: e.1 ↔
      ∃ tag ∈ [Wording.keyTag e, Wording.accessorTag e], pat <:+: tag := by
    intro e
    simp only [List.mem_cons, List.not_mem_nil, or_false, or_and_right, exists_or, exists_eq_left,
      h.infix_keyTag, h.infix_accessorTag]
    tauto
  simp only [hpair, Wording.hasOneTags, List.mem_flatMap]
  constructor
  · rintro ⟨tag, ⟨e, he, htag⟩, hpat⟩
    exact ⟨e, he, tag, htag, hpat⟩
  · rintro ⟨e, he, tag, htag, hpat⟩
    exact ⟨tag, ⟨e, he, htag⟩, hpat⟩

private theorem exists_listTag_iff {listType : String} (s : String) (hs : s ∈ fixedWording)
    (hframe : "@method ".points ++ listType.points ++ "|".points = s.points)
    (es : List (Text × Text)) :
    (∃ tag ∈ es.map (Wording.listTag listType), pat <:+: tag) ↔
      ∃ e ∈ es, pat <:+: e.2 ∨ pat <:+: e.1 := by
  simp only [List.mem_map, exists_exists_and_eq_and, h.infix_listTag hs hframe]

private theorem exists_mixinTag_iff (w : Wording) :
    (∃ tag ∈ w.mixinTags, pat <:+: tag) ↔ ∃ t ∈ w.mixins, pat <:+: t := by
  simp only [Wording.mixinTags, List.mem_map, exists_exists_and_eq_and, h.infix_mixinTag]

/-- The pattern stands in a tag exactly if it stands in one of the texts that tags are made of. -/
theorem exists_tag_iff (w : Wording) :
    (∃ g ∈ w.groups, ∃ tag ∈ g, pat <:+: tag) ↔ ∃ t ∈ w.texts, pat <:+: t := by
  have hmany : (∃ tag ∈ w.hasManyTags, pat <:+: tag) ↔
      ∃ e ∈ w.hasMany, pat <:+: e.2 ∨ pat <:+: e.1 :=
    h.exists_listTag_iff "@method DataList|" (by simp [fixedWording]) rfl w.hasMany
  have hmanyMany : (∃ tag ∈ w.manyManyTags, pat <:+: tag) ↔
      ∃ e ∈ w.manyMany, pat <:+: e.2 ∨ pat <:+: e.1 :=
    h.exists_listTag_iff "@method ManyManyList|" (by simp [fixedWording]) rfl w.manyMany
  have hsides : ∀ es : List (Text × Text),
      (∃ e ∈ es, pat <:+: e.2 ∨ pat <:+: e.1) ↔
        ∃ t ∈ es.flatMap fun e => [e.1, e.2], pat <:+: t := by
    intro es
    simp only [List.mem_flatMap, List.mem_cons, List.not_mem_nil, or_false]
    constructor
    · rintro ⟨e, he, hpat | hpat⟩
      · exact ⟨e.2, ⟨e, he, .inr rfl⟩, hpat⟩
      · exact ⟨e.1, ⟨e, he, .inl rfl⟩, hpat⟩
    · rintro ⟨_, ⟨e, he, rfl | rfl⟩, hpat⟩
      · exact ⟨e, he, .inr hpat⟩
      · exact ⟨e, he, .inl hpat⟩
  simp only [Wording.groups, List.mem_cons, List.not_mem_nil, or_false, or_and_right, exists_or,
    exists_eq_left, h.exists_propertyTag_iff, h.exists_hasOneTag_iff, hmany, hmanyMany,
    h.exists_mixinTag_iff, hsides, Wording.texts, List.mem_append, List.flatMap_append,
    List.mem_map, exists_exists_and_eq_and, or_assoc]

end Unworded

end Docblocks.Schema
