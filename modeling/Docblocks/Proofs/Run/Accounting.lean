import Docblocks.Proofs.Run.Preservation

/-!
What a batch has on record.

Each class of the worklist gets one entry in one part of the report. The parts keep the order of the
worklist and together name every class as often as it is listed. An entry says that a class is
updated exactly if the step of the class has changed the bytes of its file, unless it says that the
system let the file not be written: then the file may have been cut off.
-/

set_option autoImplicit false
set_option relaxedAutoImplicit false

namespace Docblocks

open Docblocks.Schema (Descriptor)

/-! ## Records -/

namespace Report

/-- The names in all parts of a report. -/
def names (a : Report) : List Text :=
  a.updated ++ a.unchanged ++ a.skipped.map Prod.fst ++ a.errors.map Prod.fst

/-- A report with one entry for each name of a list, where every part keeps the order of the list.
-/
structure Records (a : Report) (listed : List Text) : Prop where
  once : a.names.Perm listed
  updated : a.updated.Sublist listed
  unchanged : a.unchanged.Sublist listed
  skipped : (a.skipped.map Prod.fst).Sublist listed
  errors : (a.errors.map Prod.fst).Sublist listed

variable {a b : Report} {l m : List Text}

theorem names_append_perm (a b : Report) : (a ++ b).names.Perm (a.names ++ b.names) := by
  rw [List.perm_iff_count]
  intro n
  simp only [names, updated_append, unchanged_append, skipped_append, errors_append,
    List.map_append, List.count_append]
  omega

theorem Records.append (ha : a.Records l) (hb : b.Records m) : (a ++ b).Records (l ++ m) where
  once := (names_append_perm a b).trans (ha.once.append hb.once)
  updated := ha.updated.append hb.updated
  unchanged := ha.unchanged.append hb.unchanged
  skipped := by
    rw [skipped_append, List.map_append]
    exact ha.skipped.append hb.skipped
  errors := by
    rw [errors_append, List.map_append]
    exact ha.errors.append hb.errors

end Report

namespace Run

variable {r : Run} {disk : Disk} {name : Text} {w w' : World} {d : Descriptor}
  {ds front back : List Descriptor} {b : Bool}

variable {before : Disk.Edits}

theorem place?_of_updated (h : r.verdict disk name = .updated) :
    ∃ q, r.place? disk name = some q := by
  unfold verdict at h
  split at h
  · cases h
  · cases h
  · next x hx => exact ⟨x.target.place, place?_of_target (examine_eq_ok.mp hx).1⟩

theorem Stepped.updated_iff (h : Stepped r name w (.ok b) w') (hdry : r.dryRun = false) :
    r.verdict w.disk name = .updated ↔
      ∃ q, r.place? w.disk name = some q ∧ w'.disk.entry? q ≠ w.disk.entry? q := by
  constructor
  · intro hv
    obtain ⟨q, hq⟩ := place?_of_updated hv
    exact ⟨q, hq, (h.changed_iff hdry q).mpr ⟨hv, hq⟩⟩
  · rintro ⟨q, -, hne⟩
    exact ((h.changed_iff hdry q).mp hne).1

/-- A step changes at most the file of its class. -/
theorem Stepped.place_of_changed {e : Except Fault Bool} {q : Disk.Place}
    (h : Stepped r name w e w') (hne : w'.disk.entry? q ≠ w.disk.entry? q) :
    r.place? w.disk name = some q := by
  rcases h.idle_or_saved with ⟨hdisk, -⟩ | ⟨x, u, left?, hs⟩
  · rw [hdisk] at hne
    exact absurd rfl hne
  · have hplace : q = x.target.place := by
      by_contra hq
      apply hne
      rw [hs.disk, Disk.entry?_leave_of_ne hq]
    rw [place?_of_target hs.target, hplace]

theorem Advanced.place_of_changed {q : Disk.Place} (h : Advanced r name w w')
    (hne : w'.disk.entry? q ≠ w.disk.entry? q) : r.place? w.disk name = some q := by
  obtain ⟨e, w₁, hs, rfl | ⟨f, rfl⟩⟩ := h.exists_stepped
  · exact hs.place_of_changed hne
  · exact hs.place_of_changed hne

/-- The entry of a class that a batch advances over tells whether its file has changed. -/
theorem Advanced.exists_account (h : Advanced r name w w') :
    ∃ v, w'.report = enter w.report name v ∧
      (r.dryRun = false → ¬v.Unwritten → (v = .updated ↔
        ∃ q, r.place? w.disk name = some q ∧ w'.disk.entry? q ≠ w.disk.entry? q)) ∧
      ∀ q, w'.disk.entry? q ≠ w.disk.entry? q → r.place? w.disk name = some q := by
  cases h with
  | done hs =>
    exact ⟨_, hs.report_eq, fun hdry _ => hs.updated_iff hdry, fun _ => hs.place_of_changed⟩
  | @noted f hx hf => exact ⟨.failed f, rfl, by simp [World.fail], by simp [World.fail]⟩
  | @torn f w₁ hs hf hv =>
    refine ⟨.failed f, ?_, fun _ hwritten => absurd hf hwritten, ?_⟩
    · rw [World.fail, hs.report_of_error]
      rfl
    · intro q hne
      exact hs.place_of_changed hne

/-! ## The classes of a list -/

end Run
end Docblocks
