import Docblocks.Proofs.Schema.Wording
import Docblocks.Proofs.Value.Written

/-!
When the tags of a class cannot be made.

A type of a field has to be a text, and so has each owner of an extension. All other values of a
class that come into its tags are written, whatever they are, which fails on whole numbers with too
many digits alone. A value that no tag shows keeps none from being made.
-/

set_option autoImplicit false
set_option relaxedAutoImplicit false

namespace Docblocks.Schema

open Docblocks.Number (Fits)

variable {d : Descriptor}

private theorem exists_forall₂_iff {α β : Type} {R : α → β → Prop} {as : List α} :
    (∃ bs, List.Forall₂ R as bs) ↔ ∀ a ∈ as, ∃ b, R a b := by
  induction as with
  | nil => simp
  | cons a as ih =>
    rw [List.forall_mem_cons, ← ih]
    constructor
    · rintro ⟨_, hbs⟩
      cases hbs with
      | cons hb hbs => exact ⟨⟨_, hb⟩, _, hbs⟩
    · rintro ⟨⟨b, hb⟩, bs, hbs⟩
      exact ⟨b :: bs, .cons hb hbs⟩

private theorem exists_fieldScalar_iff (v : Value) :
    (∃ s, fieldScalar v = .ok s) ↔ ∃ t, v = .text t := by
  cases v with
  | text t => simp [fieldScalar]
  | _ => simp [fieldScalar]

private theorem exists_texts_iff {vs : List Value} :
    (∃ ts : List Text, vs = ts.map Value.text) ↔ ∀ v ∈ vs, ∃ t, v = .text t := by
  rw [← exists_forall₂_iff]
  simp only [← List.forall₂_map_right_iff, List.forall₂_eq_eq_eq]

private theorem ownerTypes_texts_iff :
    (∀ v ∈ ownerTypes d, ∃ t, v = .text t) ↔
      (d.isExtension = true → ∀ o ∈ d.owners, ∃ t, o = .text t) := by
  rw [ownerTypes]
  split
  · next hext =>
    rw [Bool.and_eq_true] at hext
    rw [List.forall_mem_append]
    simp [hext.1]
  · next hno =>
    constructor
    · intro _ hext o ho
      simp [hext, List.ne_nil_of_mem ho] at hno
    · rintro - v hv
      cases hv

-- Relations are shown entry for entry, their names and their targets in turn.
private theorem exists_showsEntries {es : Table}
    (h : ∀ v ∈ es.flatMap (fun e => [e.1, e.2]), ∃ t, Shows v t) :
    ∃ ts, List.Forall₂ ShowsEntry es ts := by
  rw [exists_forall₂_iff]
  intro e he
  obtain ⟨name, hname⟩ := h e.1 (List.mem_flatMap.mpr ⟨e, he, List.mem_cons_self⟩)
  obtain ⟨target, htarget⟩ :=
    h e.2 (List.mem_flatMap.mpr ⟨e, he, List.mem_cons_of_mem _ List.mem_cons_self⟩)
  exact ⟨(name, target), hname, htarget⟩

private theorem exists_showsFields {es : Table} (htypes : ∀ e ∈ es, ∃ t, e.2 = .text t)
    (hkeys : ∀ e ∈ es, ∃ t, Shows e.1 t) :
    ∃ fs : List (ScalarType × Text),
      List.Forall₂ (fun e f => fieldScalar e.2 = .ok f.1 ∧ Shows e.1 f.2) es fs := by
  rw [exists_forall₂_iff]
  intro e he
  obtain ⟨s, hs⟩ := (exists_fieldScalar_iff e.2).mpr (htypes e he)
  obtain ⟨key, hkey⟩ := hkeys e he
  exact ⟨(s, key), hs, hkey⟩

/-- The texts of a class are there exactly if the types of fields and the owners are texts and what
the tags show can be written. -/
theorem exists_words_iff :
    (∃ w, Words d w) ↔ (∀ e ∈ d.db, ∃ t, e.2 = .text t) ∧
      (d.isExtension = true → ∀ o ∈ d.owners, ∃ t, o = .text t) ∧
      ∀ v ∈ components d, ∃ t, Shows v t := by
  constructor
  · rintro ⟨w, hw⟩
    refine ⟨?_, ?_, exists_forall₂_iff.mp ⟨_, hw.forall₂_texts⟩⟩
    · intro e he
      obtain ⟨f, hf, -⟩ := exists_forall₂_iff.mp ⟨_, hw.fields⟩ e he
      exact (exists_fieldScalar_iff e.2).mp ⟨_, hf⟩
    · rw [← ownerTypes_texts_iff, ← exists_texts_iff]
      exact ⟨_, hw.owners⟩
  · rintro ⟨hdb, howners, hshown⟩
    rw [← ownerTypes_texts_iff, ← exists_texts_iff] at howners
    simp only [components, List.flatMap_append, List.forall_mem_append, List.forall_mem_map]
      at hshown
    obtain ⟨⟨⟨hkeys, -⟩, ⟨hhasOne, hhasMany⟩, hmanyMany⟩, hmixins⟩ := hshown
    rw [← List.forall_mem_append, ← List.flatMap_append] at hmanyMany
    obtain ⟨fs, hfs⟩ := exists_showsFields hdb hkeys
    obtain ⟨os, hos⟩ := howners
    obtain ⟨ones, hones⟩ := exists_showsEntries hhasOne
    obtain ⟨manies, hmanies⟩ := exists_showsEntries hhasMany
    obtain ⟨pairs, hpairs⟩ := exists_showsEntries hmanyMany
    obtain ⟨ms, hms⟩ := exists_forall₂_iff.mpr hmixins
    exact ⟨⟨fs, os, ones, manies, pairs, ms⟩, hfs, hos, hones, hmanies, hpairs, hms⟩

theorem exists_payload_iff :
    (∃ p, payload d = .ok p) ↔ (∀ e ∈ d.db, ∃ t, e.2 = .text t) ∧
      (d.isExtension = true → ∀ o ∈ d.owners, ∃ t, o = .text t) ∧
      ∀ v ∈ components d, ∀ n ∈ v.wholes, Fits n := by
  have hwords : (∃ p, payload d = .ok p) ↔ ∃ w, Words d w := by
    constructor
    · rintro ⟨p, hp⟩
      obtain ⟨w, hw, -⟩ := payload_eq_ok.mp hp
      exact ⟨w, hw⟩
    · rintro ⟨w, hw⟩
      exact ⟨_, payload_eq_ok.mpr ⟨w, hw, rfl⟩⟩
  have hshown : (∀ v ∈ components d, ∃ t, Shows v t) ↔
      ∀ v ∈ components d, ∀ n ∈ v.wholes, Fits n :=
    forall₂_congr fun v _ => Value.exists_written_iff v
  rw [hwords, exists_words_iff, hshown]

/-- When the tags of a class cannot be made: exactly if the type of a field is no text, or an owner
of an extension is none, or a whole number with too many digits stands in a key of a field, a name
or a target of a relation, or what an entity mixes in. All other classes have a payload. -/
theorem payload_fails_iff (d : Descriptor) :
    ((∃ f, payload d = .error f) ↔
      (∃ e ∈ d.db, ∀ t, e.2 ≠ .text t) ∨
      (d.isExtension = true ∧ ∃ o ∈ d.owners, ∀ t, o ≠ .text t) ∨
      ∃ v ∈ components d, ∃ n ∈ v.wholes, ¬Fits n) ∧
    ((∀ e ∈ d.db, ∃ t, e.2 = .text t) →
      (d.isExtension = true → ∀ o ∈ d.owners, ∃ t, o = .text t) →
      (∀ v ∈ components d, ∀ n ∈ v.wholes, Fits n) → ∃ p, payload d = .ok p) := by
  refine ⟨?_, fun hdb howners hfit => exists_payload_iff.mpr ⟨hdb, howners, hfit⟩⟩
  rw [Except.exists_eq_error, exists_payload_iff]
  simp only [not_and_or, not_forall, not_exists, exists_prop, ne_eq]

/-- A number of 4302 digits. -/
def longNumber : Int := .ofNat (Nat.pow 16 3572)

private theorem not_fits_longNumber : ¬Fits longNumber := by
  decide +kernel

/-- Values of many kinds in an entity, with the long number among the owners that it does not use.
-/
def mixedSchema : Descriptor where
  name := "A".points
  db := [(.list [.null, .int 5], .text "Int".points)]
  hasOne := [(.bool true, .null)]
  hasMany := [(.text "Tags".points, .map [(.int 7, .setOf [])])]
  extensions := [.pair (.bytes [0]) (.int (-9))]
  owners := [.int longNumber]

/-- The entity has a payload; an extension with the same values has none. -/
theorem payload_fails_iff_mixed :
    (∃ p, payload mixedSchema = .ok p) ∧
      ∃ f, payload { mixedSchema with kind := .extension } = .error f := by
  constructor
  · apply (payload_fails_iff mixedSchema).2
    · intro e he
      obtain rfl := List.mem_singleton.mp he
      exact ⟨_, rfl⟩
    · intro hext
      cases hext
    · decide +kernel
  · refine (payload_fails_iff _).1.mpr (.inr (.inl ⟨rfl, .int longNumber, List.mem_cons_self, ?_⟩))
    intro t ht
    cases ht

/-- A class with a relation to the long number. -/
def longTarget : Descriptor where
  name := "A".points
  hasOne := [(.text "Parent".points, .int longNumber)]

/-- Texts in all fields and no owners at all do not make sure that there are tags. -/
theorem long_number_has_no_payload :
    ¬((∃ f, payload longTarget = .error f) ↔
      (∃ e ∈ longTarget.db, ∀ t, e.2 ≠ .text t) ∨
      (longTarget.isExtension = true ∧ longTarget.owners ≠ [] ∧
        ∃ o ∈ longTarget.owners, ∀ t, o ≠ .text t)) := by
  have htarget : Value.int longNumber ∈ components longTarget := by
    simp [components, longTarget]
  have hfails : ∃ f, payload longTarget = .error f := by
    rw [Except.exists_eq_error, exists_payload_iff]
    rintro ⟨-, -, hfit⟩
    exact not_fits_longNumber (hfit _ htarget _ List.mem_cons_self)
  intro hclaim
  rcases hclaim.mp hfails with ⟨e, he, -⟩ | ⟨-, hne, -⟩
  · cases he
  · exact hne rfl

end Docblocks.Schema
