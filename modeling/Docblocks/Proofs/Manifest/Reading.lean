import Docblocks.Manifest.Document
import Docblocks.Proofs.Result
import Mathlib.Data.List.Forall2

/-!
Which documents are read as manifests, and what is read from them.

A manifest is meant to be a mapping with a list of mappings, whose fields are lists and mappings
themselves. Where a document has these shapes, it is read exactly if it is well formed, each of its
lists and mappings comes into its class as it stands, and otherwise the fault names what is wrong
with the document. Reading does not look at the shapes, though: a field of another shape that has
elements is read as these, and one without elements ends the reading with a fault of its type.
-/

set_option autoImplicit false
set_option relaxedAutoImplicit false

namespace Docblocks

/-! ## Values that stand for nothing -/

namespace Value

theorem holds_bind {l : Label} {w : Value} (v : Value) (h : v.holds = false) :
    (bind l w v).holds = false := by
  fun_induction holds v with
  | case1 => rfl
  | case7 items =>
    cases items with
    | nil => rfl
    | cons a items => cases h
  | case9 entries =>
    cases entries with
    | nil => rfl
    | cons a entries => cases h
  | case10 m body ih =>
    rw [bind]
    split
    · exact h
    · exact ih h
  | case11 => cases h
  | _ => simpa [bind, holds] using h

theorem holds_unfolded {v : Value} (h : v.holds = false) : v.unfolded.holds = false := by
  cases v with
  | knot l body => exact holds_bind body h
  | _ => exact h

end Value

namespace Manifest

open Docblocks.Schema (Descriptor Kind)

variable {v? : Option Value} {base : Disk.Path} {t : Table} {name e : Value} {d : Descriptor}
  {f : Fault}

/-- A fault that names no defect of the manifest, but an operation that the type of a value does not
have. -/
def Fault.ofType : Fault → Bool
  | .noElements => true
  | .noKey => true
  | .kindNotScalar => true
  | .fileNotText => true
  | _ => false

/-! ## Fields of the meant shapes -/

/-- The field is missing or stands for nothing, or is a list. -/
def ListField (v? : Option Value) : Prop :=
  ∀ v ∈ v?, v.holds = true → ∃ vs, v.unfolded = .list vs

/-- The field is missing or stands for nothing, or is a mapping. -/
def TableField (v? : Option Value) : Prop :=
  ∀ v ∈ v?, v.holds = true → ∃ t, v.unfolded = .map t

/-- The field is missing or names one of the kinds. -/
def KindField (v? : Option Value) : Prop :=
  ∀ v ∈ v?, ∃ k : Kind, v = .text k.name

/-- The field is missing or can be written. -/
def TextField (v? : Option Value) : Prop :=
  ∀ v ∈ v?, ∃ u, v.written = .ok u

/-- The field is missing or stands for nothing, or is a text. -/
def FileField (v? : Option Value) : Prop :=
  ∀ v ∈ v?, v.holds = true → ∃ u, v = .text u

def itemsOf (v? : Option Value) : List Value :=
  match v?.map Value.unfolded with
  | some (.list vs) => vs
  | _ => []

def tableIn (v? : Option Value) : Table :=
  match v?.map Value.unfolded with
  | some (.map t) => t
  | _ => []

/-- The fields of an entry that are mappings, and where a class has them. -/
def tableFields : List (String × (Descriptor → Table)) :=
  [("db", (·.db)), ("has_one", (·.hasOne)), ("has_many", (·.hasMany)),
    ("many_many", (·.manyMany)), ("belongs_many_many", (·.belongsManyMany))]

/-- The fields of an entry that are lists, and where a class has them. -/
def listFields : List (String × (Descriptor → List Value)) :=
  [("extensions", (·.extensions)), ("owners", (·.owners))]

theorem listField_none : ListField none := fun _ hv => nomatch hv

theorem listField_list (vs : List Value) : ListField (some (.list vs)) := by
  intro v hv _
  rw [← Option.some.inj hv]
  exact ⟨vs, rfl⟩

theorem tableField_none : TableField none := fun _ hv => nomatch hv

theorem tableField_map (t : Table) : TableField (some (.map t)) := by
  intro v hv _
  rw [← Option.some.inj hv]
  exact ⟨t, rfl⟩

private theorem elementsOf_of_not_holds {v : Value} (h : v.holds = false) :
    elementsOf (some v) = .ok [] := by
  simp [elementsOf, h]

theorem elementsOf_eq_ok_of_listField (h : ListField v?) : elementsOf v? = .ok (itemsOf v?) := by
  cases v? with
  | none => rfl
  | some v =>
    by_cases hholds : v.holds = true
    · obtain ⟨vs, hvs⟩ := h v rfl hholds
      simp [elementsOf, hholds, elements, itemsOf, hvs]
    -- What stands for nothing may still be a list, the empty one.
    · have hempty := Bool.eq_false_iff.mpr hholds
      have hunfolded := Value.holds_unfolded hempty
      rw [elementsOf_of_not_holds hempty, itemsOf, Option.map_some]
      split
      · next vs hvs =>
        rw [Option.some.inj hvs] at hunfolded
        have hnil : vs = [] := by simpa [Value.holds] using hunfolded
        rw [hnil]
      · rfl

theorem tableOf_eq_ok_of_tableField (h : TableField v?) : tableOf v? = .ok (tableIn v?) := by
  cases v? with
  | none => rfl
  | some v =>
    by_cases hmap : ∃ t, v.unfolded = .map t
    · obtain ⟨t, ht⟩ := hmap
      simp [tableOf, tableIn, ht]
    · have hempty : v.holds = false := Bool.eq_false_iff.mpr fun hholds => hmap (h v rfl hholds)
      have hnone : tableIn (some v) = [] := by
        rw [tableIn, Option.map_some]
        split
        · next t ht => exact absurd ⟨t, Option.some.inj ht⟩ hmap
        · rfl
      have helements := elementsOf_of_not_holds (Value.holds_unfolded hempty)
      rw [hnone, tableOf, Option.map_some]
      split
      · next t ht => exact absurd ⟨t, Option.some.inj ht⟩ hmap
      · rw [helements]
        rfl

/-! ## Kinds, texts and files -/

private theorem ofType_kindFault (kind name : Value) : (kindFault kind name).ofType = false := by
  rw [kindFault]
  split
  · rfl
  · rfl
  · rfl

theorem kindOf_eq_ok {k : Kind} :
    kindOf name v? = .ok k ↔ (v? = none ∧ k = .entity) ∨ v? = some (.text k.name) := by
  constructor
  · fun_cases kindOf name v? with
    | case1 => exact fun h => .inl ⟨rfl, (Except.ok.inj h).symm⟩
    | case2 | case3 => exact fun h => .inr (by rw [← Except.ok.inj h])
    | case4 | case5 | case6 =>
      intro h
      cases h
  · rintro (⟨rfl, rfl⟩ | rfl)
    · rfl
    · cases k with
      | entity => rfl
      | extension => rfl

theorem kindField_iff : KindField v? ↔ ∃ k, kindOf name v? = .ok k := by
  simp only [kindOf_eq_ok]
  constructor
  · intro h
    cases v? with
    | none => exact ⟨.entity, .inl ⟨rfl, rfl⟩⟩
    | some v =>
      obtain ⟨k, rfl⟩ := h v rfl
      exact ⟨k, .inr rfl⟩
  · rintro ⟨k, ⟨rfl, -⟩ | rfl⟩
    · intro v hv
      cases hv
    · intro v hv
      exact ⟨k, (Option.some.inj hv).symm⟩

private theorem ofType_of_kindOf (h : ∀ k ∈ v?, k.isKey = true ∨ ∃ vs, k = .setOf vs)
    (hf : kindOf name v? = .error f) : f.ofType = false := by
  revert hf
  fun_cases kindOf name v? with
  | case1 | case2 | case3 =>
    intro hf
    cases hf
  | case4 | case5 =>
    intro hf
    rw [← Except.error.inj hf]
    exact ofType_kindFault _ name
  -- Sets have had their case, so the value is a key.
  | case6 v _ hset =>
    rcases h v rfl with hkey | ⟨vs, hvs⟩
    · rw [if_pos hkey]
      intro hf
      rw [← Except.error.inj hf]
      exact ofType_kindFault v name
    · exact absurd hvs (hset vs)

private theorem ofType_of_textOf (hf : textOf v? = .error f) : f.ofType = false := by
  cases v? with
  | none => cases hf
  | some v =>
    rw [textOf] at hf
    cases hw : v.written with
    | error g =>
      rw [hw] at hf
      obtain rfl := Except.error.inj hf
      rfl
    | ok u =>
      rw [hw] at hf
      cases hf

theorem textField_iff : TextField v? ↔ ∃ u, textOf v? = .ok u := by
  cases v? with
  | none => exact iff_of_true (fun v hv => nomatch hv) ⟨[], rfl⟩
  | some v => simp [TextField, textOf, Except.mapError_eq_ok]

theorem fileField_iff : FileField v? ↔ ∃ p, fileOf base v? = .ok p := by
  fun_cases fileOf base v? with
  | case1 => exact iff_of_true (fun v hv => nomatch hv) ⟨_, rfl⟩
  | case2 u => simp [FileField]
  | case3 v hno hholds =>
    have hfile : ¬FileField (some v) := by
      intro h
      obtain ⟨u, hu⟩ := h v rfl hholds
      exact hno u hu
    simp [hfile]
  | case4 v hno hholds => simp [FileField, hholds]

/-! ## Entries -/

structure Described (base : Disk.Path) (t : Table) (name : Value) (d : Descriptor) : Prop where
  kind : kindOf name (t.field? "kind") = .ok d.kind
  name : textOf (some name) = .ok d.name
  module : textOf (t.field? "module") = .ok d.module
  file : fileOf base (t.field? "file") = .ok d.file?
  tables : ∀ s ∈ tableFields, tableOf (t.field? s.1) = .ok (s.2 d)
  lists : ∀ s ∈ listFields, elementsOf (t.field? s.1) = .ok (s.2 d)

theorem described_of_describe (h : describe base t name = .ok d) : Described base t name d := by
  simp only [describe, Except.bind_eq_ok] at h
  obtain ⟨kind, hkind, nameText, hname, module, hmodule, file?, hfile, db, hdb, hasOne, hhasOne,
    hasMany, hhasMany, manyMany, hmanyMany, belongs, hbelongs, extensions, hextensions, owners,
    howners, hd⟩ := h
  obtain rfl := Except.ok.inj hd
  refine ⟨hkind, hname, hmodule, hfile, ?_, ?_⟩
  · simp [tableFields, hdb, hhasOne, hhasMany, hmanyMany, hbelongs]
  · simp [listFields, hextensions, howners]

/-- Some field cannot be read. -/
theorem exists_of_describe_error (h : describe base t name = .error f) :
    kindOf name (t.field? "kind") = .error f ∨ textOf (some name) = .error f ∨
      textOf (t.field? "module") = .error f ∨ fileOf base (t.field? "file") = .error f ∨
      (∃ s ∈ tableFields, tableOf (t.field? s.1) = .error f) ∨
      ∃ s ∈ listFields, elementsOf (t.field? s.1) = .error f := by
  simp only [describe, Except.bind_eq_error] at h
  rcases h with h | ⟨_, -, h | ⟨_, -, h | ⟨_, -, h | ⟨_, -, h | ⟨_, -, h | ⟨_, -, h | ⟨_, -, h |
    ⟨_, -, h | ⟨_, -, h | ⟨_, -, h | ⟨_, -, ⟨⟩⟩⟩⟩⟩⟩⟩⟩⟩⟩⟩⟩
  all_goals simp [tableFields, listFields, h]

/-- The entry is a mapping with a name. -/
structure Named (e : Value) (t : Table) (name : Value) : Prop where
  table : e.unfolded = .map t
  field : t.field? "name" = some name
  holds : name.holds = true

theorem Named.unique {u : Table} {n : Value} (h : Named e t name) (h' : Named e u n) :
    u = t ∧ n = name := by
  obtain rfl := Value.map.inj (h.table.symm.trans h'.table)
  exact ⟨rfl, Option.some.inj (h'.field.symm.trans h.field)⟩

theorem Named.entry_eq (h : Named e t name) : entry base e = describe base t name := by
  simp [entry, h.table, h.field, h.holds]

private theorem ofType_namelessFault (e : Value) : (namelessFault e).ofType = false := by
  rw [namelessFault]
  split
  · rfl
  · rfl

theorem entry_of_not_named (h : ¬∃ t name, Named e t name) :
    entry base e = .error (namelessFault e) := by
  fun_cases entry base e with
  | case1 t ht name hname hholds => exact absurd ⟨t, name, ht, hname, hholds⟩ h
  | case2 => rfl
  | case3 => rfl
  | case4 => rfl

theorem entry_eq_ok :
    entry base e = .ok d ↔ ∃ t name, Named e t name ∧ describe base t name = .ok d := by
  by_cases h : ∃ t name, Named e t name
  · obtain ⟨t, name, hn⟩ := h
    rw [hn.entry_eq]
    constructor
    · intro hd
      exact ⟨t, name, hn, hd⟩
    · rintro ⟨u, n, hn', hd⟩
      obtain ⟨rfl, rfl⟩ := hn.unique hn'
      exact hd
  · rw [entry_of_not_named h]
    constructor
    · intro hd
      cases hd
    · rintro ⟨t, name, hn, -⟩
      exact absurd ⟨t, name, hn⟩ h

-- Both inductions go along the entries: the reading ends at the first one that is refused.
theorem entries_eq_ok {es : List Value} {ds : List Descriptor} :
    entries base es = .ok ds ↔ List.Forall₂ (fun e d => entry base e = .ok d) es ds := by
  induction es generalizing ds with
  | nil => simp [entries, eq_comm]
  | cons e es ih =>
    rw [entries]
    cases he : entry base e with
    | error f => simp [List.forall₂_cons_left_iff, he]
    | ok d =>
      simp only [Except.map_eq_ok, ih, List.forall₂_cons_left_iff, he, Except.ok.injEq]
      constructor
      · rintro ⟨rest, hrest, rfl⟩
        exact ⟨d, rest, rfl, hrest, rfl⟩
      · rintro ⟨_, rest, rfl, hrest, rfl⟩
        exact ⟨rest, hrest, rfl⟩

theorem exists_of_entries_error {es : List Value} (h : entries base es = .error f) :
    ∃ e ∈ es, entry base e = .error f := by
  induction es with
  | nil => cases h
  | cons e es ih =>
    rw [entries] at h
    cases he : entry base e with
    | error g =>
      rw [he] at h
      obtain rfl := Except.error.inj h
      exact ⟨e, List.mem_cons_self, he⟩
    | ok d =>
      rw [he] at h
      cases hrest : entries base es with
      | error g =>
        rw [hrest] at h
        obtain rfl := Except.error.inj h
        obtain ⟨e', he', hf⟩ := ih hrest
        exact ⟨e', List.mem_cons_of_mem e he', hf⟩
      | ok ds =>
        rw [hrest] at h
        cases h

/-! ## Documents -/

variable {path : Disk.Path} {v : Value} {ds : List Descriptor}

theorem ofValue_of_map (ht : v.unfolded = .map t) :
    ofValue path v = elementsOf (Table.field? "classes" t) >>= entries path.parent := by
  simp only [ofValue, ht]
  cases elementsOf (Table.field? "classes" t) with
  | error f => rfl
  | ok es => rfl

theorem ofValue_of_not_map (h : ¬∃ t, v.unfolded = .map t) :
    ofValue path v = .error (.notMapping path) := by
  rw [ofValue]
  split
  · next t ht => exact absurd ⟨t, ht⟩ h
  · rfl

theorem ofValue_eq_ok : ofValue path v = .ok ds ↔ ∃ t es, v.unfolded = .map t ∧
    elementsOf (Table.field? "classes" t) = .ok es ∧
    List.Forall₂ (fun e d => entry path.parent e = .ok d) es ds := by
  by_cases h : ∃ t, v.unfolded = .map t
  · obtain ⟨t, ht⟩ := h
    simp only [ofValue_of_map ht, Except.bind_eq_ok, entries_eq_ok, ht, Value.map.injEq]
    constructor
    · rintro ⟨es, hes, hds⟩
      exact ⟨t, es, rfl, hes, hds⟩
    · rintro ⟨_, es, rfl, hes, hds⟩
      exact ⟨es, hes, hds⟩
  · rw [ofValue_of_not_map h]
    constructor
    · intro hd
      cases hd
    · rintro ⟨t, -, ht, -⟩
      exact absurd ⟨t, ht⟩ h

/-- The entry has a name, one of the kinds or none, and lists and mappings where they are meant. -/
def WellFormedEntry (e : Value) : Prop :=
  ∃ t name, Named e t name ∧ KindField (t.field? "kind") ∧
    (∀ s ∈ listFields, ListField (t.field? s.1)) ∧ ∀ s ∈ tableFields, TableField (t.field? s.1)

/-- The document is a mapping, and its classes are missing, empty or a list of entries. -/
def WellFormed (v : Value) : Prop :=
  ∃ t, v.unfolded = .map t ∧ ListField (Table.field? "classes" t) ∧
    ∀ e ∈ itemsOf (Table.field? "classes" t), WellFormedEntry e

/-- The fields of an entry have the shapes that are meant: a kind is a scalar, or a set, that can be
looked up, and a file is a text. -/
structure MeantFields (t : Table) : Prop where
  kind : ∀ k ∈ t.field? "kind", k.isKey = true ∨ ∃ vs, k = .setOf vs
  file : FileField (t.field? "file")
  lists : ∀ s ∈ listFields, ListField (t.field? s.1)
  tables : ∀ s ∈ tableFields, TableField (t.field? s.1)

/-- What is looked at in the document has the shapes that are meant. -/
def Meant (v : Value) : Prop :=
  ∀ t, v.unfolded = .map t → ListField (Table.field? "classes" t) ∧
    ∀ e ∈ itemsOf (Table.field? "classes" t), ∀ u name, Named e u name → MeantFields u

/-- The files of the entries are texts, and their names and modules can be written. -/
def Legible (v : Value) : Prop :=
  ∀ t, v.unfolded = .map t → ∀ e ∈ itemsOf (Table.field? "classes" t), ∀ u name, Named e u name →
    FileField (u.field? "file") ∧ TextField (some name) ∧ TextField (u.field? "module")

/-- The lists and the mappings of an entry are those of the class, as they stand. -/
def Carries (t : Table) (d : Descriptor) : Prop :=
  (∀ s ∈ listFields, ListField (t.field? s.1) → s.2 d = itemsOf (t.field? s.1)) ∧
    ∀ s ∈ tableFields, TableField (t.field? s.1) → s.2 d = tableIn (t.field? s.1)

theorem Described.carries (h : Described base t name d) : Carries t d := by
  constructor
  · intro s hs hlist
    have hread := h.lists s hs
    rw [elementsOf_eq_ok_of_listField hlist] at hread
    exact (Except.ok.inj hread).symm
  · intro s hs htable
    have hread := h.tables s hs
    rw [tableOf_eq_ok_of_tableField htable] at hread
    exact (Except.ok.inj hread).symm

theorem MeantFields.ofType_of_describe (h : MeantFields t) (hf : describe base t name = .error f) :
    f.ofType = false := by
  rcases exists_of_describe_error hf with hf | hf | hf | hf | ⟨s, hs, hf⟩ | ⟨s, hs, hf⟩
  · exact ofType_of_kindOf h.kind hf
  · exact ofType_of_textOf hf
  · exact ofType_of_textOf hf
  · obtain ⟨p, hp⟩ := fileField_iff.mp h.file
    rw [hp] at hf
    cases hf
  · rw [tableOf_eq_ok_of_tableField (h.tables s hs)] at hf
    cases hf
  · rw [elementsOf_eq_ok_of_listField (h.lists s hs)] at hf
    cases hf

theorem Meant.ofType_of_error (h : Meant v) (hf : ofValue path v = .error f) :
    f.ofType = false := by
  by_cases hmap : ∃ t, v.unfolded = .map t
  · obtain ⟨t, ht⟩ := hmap
    obtain ⟨hclasses, hentries⟩ := h t ht
    rw [ofValue_of_map ht, elementsOf_eq_ok_of_listField hclasses] at hf
    obtain ⟨e, he, hf⟩ := exists_of_entries_error hf
    by_cases hn : ∃ u name, Named e u name
    · obtain ⟨u, name, hn⟩ := hn
      rw [hn.entry_eq] at hf
      exact (hentries e he u name hn).ofType_of_describe hf
    · rw [entry_of_not_named hn] at hf
      rw [← Except.error.inj hf]
      exact ofType_namelessFault e
  · rw [ofValue_of_not_map hmap] at hf
    rw [← Except.error.inj hf]
    rfl

private theorem exists_of_mem_left {α β : Type} {R : α → β → Prop} {as : List α} {bs : List β}
    (h : List.Forall₂ R as bs) : ∀ a ∈ as, ∃ b, R a b := by
  induction h with
  | nil => simp
  | cons hab _ ih => exact List.forall_mem_cons.mpr ⟨⟨_, hab⟩, ih⟩

theorem Meant.wellFormed (h : Meant v) (hds : ofValue path v = .ok ds) : WellFormed v := by
  obtain ⟨t, es, ht, hes, hall⟩ := ofValue_eq_ok.mp hds
  obtain ⟨hclasses, hentries⟩ := h t ht
  rw [elementsOf_eq_ok_of_listField hclasses] at hes
  obtain rfl := Except.ok.inj hes
  refine ⟨t, ht, hclasses, ?_⟩
  intro e he
  obtain ⟨d, hd⟩ := exists_of_mem_left hall e he
  obtain ⟨u, name, hn, hdescribe⟩ := entry_eq_ok.mp hd
  have hfields := hentries e he u name hn
  have hread := described_of_describe hdescribe
  exact ⟨u, name, hn, kindField_iff.mpr ⟨_, hread.kind⟩, hfields.lists, hfields.tables⟩

theorem WellFormed.legible (h : WellFormed v) (hds : ofValue path v = .ok ds) : Legible v := by
  obtain ⟨t, ht, hclasses, -⟩ := h
  obtain ⟨t', es, ht', hes, hall⟩ := ofValue_eq_ok.mp hds
  obtain rfl := Value.map.inj (ht.symm.trans ht')
  rw [elementsOf_eq_ok_of_listField hclasses] at hes
  obtain rfl := Except.ok.inj hes
  intro t' ht' e he u name hn
  obtain rfl := Value.map.inj (ht.symm.trans ht')
  obtain ⟨d, hd⟩ := exists_of_mem_left hall e he
  rw [hn.entry_eq] at hd
  have hread := described_of_describe hd
  exact ⟨fileField_iff.mpr ⟨_, hread.file⟩, textField_iff.mpr ⟨_, hread.name⟩,
    textField_iff.mpr ⟨_, hread.module⟩⟩

theorem WellFormed.exists_classes (h : WellFormed v) (hl : Legible v) :
    ∃ ds, ofValue path v = .ok ds := by
  obtain ⟨t, ht, hclasses, hentries⟩ := h
  rw [ofValue_of_map ht, elementsOf_eq_ok_of_listField hclasses]
  cases hds : entries path.parent (itemsOf (Table.field? "classes" t)) with
  | ok ds => exact ⟨ds, hds⟩
  | error f =>
    obtain ⟨e, he, hf⟩ := exists_of_entries_error hds
    obtain ⟨u, name, hn, hkind, hlists, htables⟩ := hentries e he
    obtain ⟨hfile, hname, hmodule⟩ := hl t ht e he u name hn
    rw [hn.entry_eq] at hf
    -- Each field of the entry is read, so none of them can have the fault.
    exfalso
    rcases exists_of_describe_error hf with hf | hf | hf | hf | ⟨s, hs, hf⟩ | ⟨s, hs, hf⟩
    · obtain ⟨k, hk⟩ := kindField_iff.mp hkind
      rw [hk] at hf
      cases hf
    · obtain ⟨x, hx⟩ := textField_iff.mp hname
      rw [hx] at hf
      cases hf
    · obtain ⟨x, hx⟩ := textField_iff.mp hmodule
      rw [hx] at hf
      cases hf
    · obtain ⟨p, hp⟩ := fileField_iff.mp hfile
      rw [hp] at hf
      cases hf
    · rw [tableOf_eq_ok_of_tableField (htables s hs)] at hf
      cases hf
    · rw [elementsOf_eq_ok_of_listField (hlists s hs)] at hf
      cases hf

/-- What a manifest is read as. Whatever its shapes, a document that is read is a mapping, and gives
a class for each of its entries in order, which has a name and one of the kinds, and whose lists and
mappings are those of the entry wherever the entry has some. A well-formed document is read exactly
if it is legible. A document of the meant shapes that is malformed is refused with a fault that is
not one of a type; such a fault comes from another shape only. -/
theorem reading_of_meant_shapes (path : Disk.Path) (v : Value) :
    (∀ ds, ofValue path v = .ok ds → ∃ t es, v.unfolded = .map t ∧
      elementsOf (Table.field? "classes" t) = .ok es ∧
      List.Forall₂ (fun e d => ∃ u name, Named e u name ∧ name.written = .ok d.name ∧
        (u.field? "kind" = none ∧ d.kind = .entity ∨
          u.field? "kind" = some (.text d.kind.name)) ∧ Carries u d) es ds) ∧
    (WellFormed v → ((∃ ds, ofValue path v = .ok ds) ↔ Legible v)) ∧
    (Meant v → ¬WellFormed v → ∃ f, ofValue path v = .error f ∧ f.ofType = false) ∧
    (∀ f, ofValue path v = .error f → f.ofType = true → ¬Meant v) := by
  refine ⟨?_, ?_, ?_, ?_⟩
  · intro ds hds
    obtain ⟨t, es, ht, hes, hall⟩ := ofValue_eq_ok.mp hds
    refine ⟨t, es, ht, hes, hall.imp ?_⟩
    intro e d hd
    obtain ⟨u, name, hn, hdescribe⟩ := entry_eq_ok.mp hd
    have hread := described_of_describe hdescribe
    exact ⟨u, name, hn, Except.mapError_eq_ok.mp hread.name, kindOf_eq_ok.mp hread.kind,
      hread.carries⟩
  · intro hw
    exact ⟨fun ⟨ds, hds⟩ => hw.legible hds, hw.exists_classes⟩
  · intro hm hw
    cases hread : ofValue path v with
    | ok ds => exact absurd (hm.wellFormed hread) hw
    | error f => exact ⟨f, rfl, hm.ofType_of_error hread⟩
  · intro f hf htype hm
    rw [hm.ofType_of_error hf] at htype
    cases htype

/-! ## Documents of meant and of other shapes -/

def documentOf (ts : List Table) : Value :=
  .map [(.text "classes".points, .list (ts.map .map))]

theorem meant_documentOf {ts : List Table} (h : ∀ t ∈ ts, MeantFields t) :
    Meant (documentOf ts) := by
  intro t ht
  obtain rfl := Value.map.inj ht
  refine ⟨listField_list _, ?_⟩
  intro e he u name hn
  obtain ⟨t, hmem, rfl⟩ := List.mem_map.mp he
  obtain rfl := Value.map.inj hn.table
  exact h _ hmem

def pageEntry : Table :=
  [(.text "name".points, .text "Page".points),
    (.text "db".points, .map [(.text "Title".points, .text "Varchar".points)]),
    (.text "extensions".points, .list [.text "Versioned".points])]

/-- An entry with the given value in one field besides its name. -/
def entryWith (field : String) (v : Value) : Table :=
  [(.text "name".points, .text "Base".points), (.text field.points, v)]

private theorem meant_pageEntry : MeantFields pageEntry := by
  refine ⟨(fun k hk => nomatch hk), (fun w hw => nomatch hw), ?_, ?_⟩
  · simp only [listFields, List.forall_mem_cons]
    exact ⟨listField_list _, listField_none, List.forall_mem_nil _⟩
  · simp only [tableFields, List.forall_mem_cons]
    exact ⟨tableField_map _, tableField_none, tableField_none, tableField_none,
      tableField_none, List.forall_mem_nil _⟩

private theorem meant_kindEntry {k : Value} (h : k.isKey = true) :
    MeantFields (entryWith "kind" k) := by
  refine ⟨?_, (fun w hw => nomatch hw), ?_, ?_⟩
  · intro w hw
    rw [← Option.some.inj hw]
    exact .inl h
  · simp only [listFields, List.forall_mem_cons]
    exact ⟨listField_none, listField_none, List.forall_mem_nil _⟩
  · simp only [tableFields, List.forall_mem_cons]
    exact ⟨tableField_none, tableField_none, tableField_none, tableField_none,
      tableField_none, List.forall_mem_nil _⟩

private theorem fields_of_wellFormed {ts : List Table} (h : WellFormed (documentOf ts))
    (ht : t ∈ ts) :
    KindField (t.field? "kind") ∧ (∀ s ∈ listFields, ListField (t.field? s.1)) ∧
      ∀ s ∈ tableFields, TableField (t.field? s.1) := by
  obtain ⟨u, hu, -, hentries⟩ := h
  obtain rfl := Value.map.inj hu
  obtain ⟨u, name, hn, hfields⟩ := hentries (.map t) (List.mem_map_of_mem ht)
  obtain rfl := Value.map.inj hn.table
  exact hfields

/-- A second entry of an unknown kind is told as a fault of the manifest. -/
theorem reading_of_meant_shapes_page :
    ∃ f, ofValue (Disk.Path.ofText "m.yaml".points)
        (documentOf [pageEntry, entryWith "kind" (.text "controller".points)]) = .error f ∧
      f.ofType = false := by
  apply (reading_of_meant_shapes _ _).2.2.1
  · apply meant_documentOf
    simp only [List.forall_mem_cons]
    exact ⟨meant_pageEntry, meant_kindEntry rfl, List.forall_mem_nil _⟩
  · intro hw
    have hkind := (fields_of_wellFormed hw (List.mem_cons_of_mem _ List.mem_cons_self)).1
    obtain ⟨k, hk⟩ := hkind _ rfl
    cases k with
    | entity => cases hk
    | extension => cases hk

/-- A text in the place of a list is read as a list of its letters, and a number in the place of a
mapping is a fault of its type, although both documents are malformed. -/
theorem other_shapes_are_read_or_mistyped :
    ¬WellFormed (documentOf [entryWith "extensions" (.text "Versioned".points)]) ∧
      (∃ ds, ofValue (Disk.Path.ofText "m.yaml".points)
          (documentOf [entryWith "extensions" (.text "Versioned".points)]) = .ok ds ∧
        ds.map (·.extensions) =
          [["V", "e", "r", "s", "i", "o", "n", "e", "d"].map fun s => .text s.points]) ∧
      ¬WellFormed (documentOf [entryWith "db" (.int 5)]) ∧
      ∃ f, ofValue (Disk.Path.ofText "m.yaml".points) (documentOf [entryWith "db" (.int 5)]) =
        .error f ∧ f.ofType = true := by
  refine ⟨?_, ⟨_, rfl, rfl⟩, ?_, ⟨_, rfl, rfl⟩⟩
  · intro hw
    have hlist := (fields_of_wellFormed hw List.mem_cons_self).2.1
    obtain ⟨vs, hvs⟩ := hlist ("extensions", (·.extensions)) (by simp [listFields]) _ rfl rfl
    cases hvs
  · intro hw
    have htable := (fields_of_wellFormed hw List.mem_cons_self).2.2
    obtain ⟨t, ht⟩ := htable ("db", (·.db)) (by simp [tableFields]) _ rfl rfl
    cases ht

end Manifest

end Docblocks
