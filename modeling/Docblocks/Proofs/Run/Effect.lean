import Docblocks.Proofs.Run.Batch

/-!
What a step adds to a world.

An effect holds entries of the report, warnings, notices and edits, and is applied to a world behind
what the world holds already. A step reads of a world nothing but the disk, and the device sees what
was written before: the effect of a step follows from what it finds on the disk and how the device
answers, and the effect of a batch is made of those of its classes.
-/

set_option autoImplicit false
set_option relaxedAutoImplicit false

namespace Docblocks

/-- The entries of a report, then those of another. -/
def Report.append (a b : Report) : Report where
  updated := a.updated ++ b.updated
  unchanged := a.unchanged ++ b.unchanged
  skipped := a.skipped ++ b.skipped
  errors := a.errors ++ b.errors

instance : Append Report := ⟨Report.append⟩

/-- What is added to a world. -/
structure Effect where
  report : Report := {}
  warnings : List Warning := []
  notices : List Notice := []
  edits : Disk.Edits := []

/-- An effect, then another. -/
def Effect.append (a b : Effect) : Effect where
  report := a.report ++ b.report
  warnings := a.warnings ++ b.warnings
  notices := a.notices ++ b.notices
  edits := a.edits ++ b.edits

instance : Append Effect := ⟨Effect.append⟩

/-- Adds an effect to a world. -/
def World.apply (w : World) (e : Effect) : World where
  disk := w.disk.leaveAll e.edits
  report := w.report ++ e.report
  warnings := w.warnings ++ e.warnings
  notices := w.notices ++ e.notices
  edits := w.edits ++ e.edits

section Append

variable (a b c : Report) (e f g : Effect)

@[simp] theorem Report.updated_append : (a ++ b).updated = a.updated ++ b.updated := rfl
@[simp] theorem Report.unchanged_append : (a ++ b).unchanged = a.unchanged ++ b.unchanged := rfl
@[simp] theorem Report.skipped_append : (a ++ b).skipped = a.skipped ++ b.skipped := rfl
@[simp] theorem Report.errors_append : (a ++ b).errors = a.errors ++ b.errors := rfl
@[simp] theorem Effect.report_append : (e ++ f).report = e.report ++ f.report := rfl
@[simp] theorem Effect.warnings_append : (e ++ f).warnings = e.warnings ++ f.warnings := rfl
@[simp] theorem Effect.notices_append : (e ++ f).notices = e.notices ++ f.notices := rfl
@[simp] theorem Effect.edits_append : (e ++ f).edits = e.edits ++ f.edits := rfl

theorem Report.append_assoc : a ++ b ++ c = a ++ (b ++ c) := by
  change Report.mk _ _ _ _ = Report.mk _ _ _ _
  simp

theorem Report.append_empty : a ++ ({} : Report) = a := by
  change Report.mk _ _ _ _ = a
  simp

theorem World.apply_append (w : World) : w.apply (e ++ f) = (w.apply e).apply f := by
  unfold World.apply
  simp [Disk.leaveAll_append, Report.append_assoc]

theorem World.apply_empty (w : World) : w.apply {} = w := by
  unfold World.apply
  simp [Disk.leaveAll, Report.append_empty]

end Append

namespace Run

open Docblocks.Schema (Descriptor)

variable {r : Run} {disk : Disk} {name n : Text} {w w' : World} {ds : List Descriptor}
  {d : Descriptor} {f : Fault}

/-- The warning of a lone marker. -/
def warningOf (name : Text) (x : Finding) : List Warning :=
  if x.outcome.lone then [⟨x.target.path, name⟩] else []

/-- The answer and the effect of a step that has found something, by what was written before. -/
def effectOf (r : Run) (before : Disk.Edits) (name : Text) :
    Except Fault (Except Skip Finding) → Except Fault Bool × Effect
  | .error f => (.error f, {})
  | .ok (.error s) => (.ok false, { report := { skipped := [(name, s)] } })
  | .ok (.ok x) =>
    let warnings := warningOf name x
    match x.outcome.content? with
    | none => (.ok true, { report := { skipped := [(name, reason x.outcome)] }, warnings })
    | some u =>
      if u = x.text then (.ok true, { report := { unchanged := [name] }, warnings })
      else if r.dryRun then (.ok true, { report := { updated := [name] }, warnings })
      else
        match r.device.save before x.target.path x.target.place u with
        | (.ok _, left?) =>
          let notices := if r.notifies then [⟨name, .annotated⟩] else []
          (.ok true, { report := { updated := [name] }, warnings, notices,
                       edits := [(x.target.place, left?)] })
        | (.error f, left?) => (.error f, { warnings, edits := [(x.target.place, left?)] })

private theorem append_eq (a b : Report) : a ++ b =
    ⟨a.updated ++ b.updated, a.unchanged ++ b.unchanged, a.skipped ++ b.skipped,
      a.errors ++ b.errors⟩ := rfl

private theorem warned_eq (name : Text) (x : Finding) (w : World) :
    warned name x w = { w with warnings := w.warnings ++ warningOf name x } := by
  unfold warned warningOf
  split
  · rfl
  · simp

/-- The answer and the effect of a step follow from what it finds on the disk and from what was
written before. -/
theorem Stepped.eq_effect {e : Except Fault Bool} (h : Stepped r name w e w') :
    e = (r.effectOf w.edits name (r.examine w.disk name)).1 ∧
      w' = w.apply (r.effectOf w.edits name (r.examine w.disk name)).2 := by
  cases h with
  | failed hx =>
    rw [hx]
    exact ⟨rfl, (World.apply_empty w).symm⟩
  | passed hx =>
    rw [hx]
    simp [effectOf, World.apply, World.skip, append_eq, Disk.leaveAll]
  | unmade hx hc =>
    simp [effectOf, hx, hc, World.apply, World.skip, warned_eq, append_eq, Disk.leaveAll]
  | kept hx hc =>
    simp [effectOf, hx, hc, World.apply, World.keep, warned_eq, append_eq, Disk.leaveAll]
  | planned hx hc hne hd =>
    simp [effectOf, hx, hc, hne, hd, World.apply, World.update, warned_eq, append_eq, Disk.leaveAll]
  | written hx hc hne hd hs =>
    unfold conclude
    split <;> rename_i hn <;>
      simp [effectOf, hx, hc, hne, hd, hs, hn, World.apply, World.update, World.notify,
        World.edit, warned_eq, append_eq, Disk.leaveAll]
  | broken hx hc hne hd hs =>
    simp [effectOf, hx, hc, hne, hd, hs, World.apply, World.edit, warned_eq, append_eq,
      Disk.leaveAll]

theorem annotateClass_eq (r : Run) (name : Text) (w : World) :
    r.annotateClass name w = ((r.effectOf w.edits name (r.examine w.disk name)).1,
      w.apply (r.effectOf w.edits name (r.examine w.disk name)).2) := by
  obtain ⟨he, hw⟩ := (stepped_annotateClass r name w).eq_effect
  rw [← he, ← hw]

/-! ## The effect of a step -/

variable {before : Disk.Edits} {x : Except Fault (Except Skip Finding)}

theorem effectOf_of_steady (h : r.device.Steady) (before : Disk.Edits) (name : Text)
    (x : Except Fault (Except Skip Finding)) :
    r.effectOf before name x = r.effectOf [] name x := by
  unfold effectOf
  simp only [h.save_eq before]

theorem effectOf_errors (r : Run) (before : Disk.Edits) (name : Text)
    (x : Except Fault (Except Skip Finding)) :
    (r.effectOf before name x).2.report.errors = [] := by
  unfold effectOf
  repeat' split
  all_goals rfl

/-- The warnings of a step that has found something. -/
def warningsOf (name : Text) : Except Fault (Except Skip Finding) → List Warning
  | .ok (.ok x) => warningOf name x
  | _ => []

theorem effectOf_warnings (r : Run) (before : Disk.Edits) (name : Text)
    (x : Except Fault (Except Skip Finding)) :
    (r.effectOf before name x).2.warnings = warningsOf name x := by
  unfold effectOf
  repeat' split
  all_goals rfl

theorem warningsOf_cases (name : Text) (x : Except Fault (Except Skip Finding)) :
    warningsOf name x = [] ∨ ∃ path, warningsOf name x = [⟨path, name⟩] := by
  unfold warningsOf warningOf
  split
  · split
    · exact .inr ⟨_, rfl⟩
    · exact .inl rfl
  · exact .inl rfl

/-- A step that fails has failed before it acts, or it has failed in the writing of its file. -/
theorem effectOf_eq_error (h : (r.effectOf before name x).1 = .error f) :
    (r.effectOf before name x).2 = {} ∨ ∃ y u left?,
      r.device.save before y.target.path y.target.place u = (.error f, left?) ∧
      (r.effectOf before name x).2 =
        { warnings := warningOf name y, edits := [(y.target.place, left?)] } := by
  cases x with
  | error g => exact .inl rfl
  | ok e =>
    cases e with
    | error s => cases h
    | ok y =>
      cases hc : y.outcome.content? with
      | none => simp [effectOf, hc] at h
      | some u =>
        by_cases hu : u = y.text
        · simp [effectOf, hc, hu] at h
        · cases hd : r.dryRun with
          | true => simp [effectOf, hc, hu, hd] at h
          | false =>
            cases hs : r.device.save before y.target.path y.target.place u with
            | mk e left? =>
              cases e with
              | ok _ => simp [effectOf, hc, hu, hd, hs] at h
              | error g =>
                obtain rfl : g = f := by simpa [effectOf, hc, hu, hd, hs] using h
                exact .inr ⟨y, u, left?, hs, by simp [effectOf, hc, hu, hd, hs]⟩

/-- A step that fails makes no entry and sends no notice. -/
theorem effectOf_of_error (h : (r.effectOf before name x).1 = .error f) :
    (r.effectOf before name x).2.report = {} ∧ (r.effectOf before name x).2.notices = [] := by
  rcases effectOf_eq_error h with he | ⟨y, u, left?, -, he⟩
  · rw [he]
    exact ⟨rfl, rfl⟩
  · rw [he]
    exact ⟨rfl, rfl⟩

/-- A step that fails in a way that a batch contains has failed before it acts, unless the system
lets the file not be written. -/
theorem effectOf_of_contained (h : (r.effectOf before name x).1 = .error f)
    (hf : contains f = true) (hwritten : f.isUnwritten = false) :
    (r.effectOf before name x).2 = {} := by
  rcases effectOf_eq_error h with he | ⟨y, u, left?, hs, -⟩
  · exact he
  · rcases Disk.Device.save_eq_error hs with ⟨e, rfl⟩ | ⟨g, -, rfl, -⟩
    · cases hwritten
    · cases hf

/-- The place of the file of a class that may be rewritten. -/
def place? (r : Run) (disk : Disk) (name : Text) : Option Disk.Place :=
  match r.target disk name with
  | .ok (.ok t) => some t.place
  | _ => none

theorem place?_of_target {t : Target} (h : r.target disk name = .ok (.ok t)) :
    r.place? disk name = some t.place := by
  rw [place?, h]

/-- A step edits at most the file of its class. -/
theorem effectOf_edits (r : Run) (before : Disk.Edits) (disk : Disk) (name : Text) :
    ((r.effectOf before name (r.examine disk name)).2.edits.map Prod.fst).Sublist
      (r.place? disk name).toList := by
  cases hx : r.examine disk name with
  | error f => exact List.nil_sublist _
  | ok e =>
    cases e with
    | error s => exact List.nil_sublist _
    | ok x =>
      rw [place?_of_target (examine_eq_ok.mp hx).1]
      simp only [effectOf]
      repeat' split
      all_goals simp

theorem effectOf_of_dry (hdry : r.dryRun = true) (before : Disk.Edits) (name : Text)
    (x : Except Fault (Except Skip Finding)) :
    (r.effectOf before name x).2.edits = [] ∧ (r.effectOf before name x).2.notices = [] := by
  unfold effectOf
  simp only [hdry, if_true]
  repeat' split
  all_goals exact ⟨rfl, rfl⟩

/-! ## What a class adds to a batch -/

/-- What a class adds to a batch when nothing was written before: the effect of its step, and its
fault if it fails. -/
def share (r : Run) (disk : Disk) (name : Text) : Effect :=
  match r.effectOf [] name (r.examine disk name) with
  | (.ok _, e) => e
  | (.error f, e) => e ++ { report := { errors := [(name, f)] } }

/-- The world after the step of a class on its own; if it fails, its fault is in the report. -/
def alone (r : Run) (disk : Disk) (name : Text) : World :=
  match r.annotateClass name { disk := disk } with
  | (.ok _, w) => w
  | (.error f, w) => w.fail name f

theorem fail_eq (w : World) (name : Text) (f : Fault) :
    w.fail name f = w.apply { report := { errors := [(name, f)] } } := by
  simp [World.fail, World.apply, append_eq, Disk.leaveAll]

theorem share_congr {disk' : Disk} (h : r.examine disk' name = r.examine disk name) :
    r.share disk' name = r.share disk name := by
  unfold share
  rw [h]

/-- The fault of the step of a class on its own, if it fails. -/
def fault? (r : Run) (disk : Disk) (name : Text) : Option Fault :=
  match (r.annotateClass name { disk := disk }).1 with
  | .ok _ => none
  | .error f => some f

theorem fault?_eq_some : r.fault? disk name = some f ↔
    (r.effectOf [] name (r.examine disk name)).1 = .error f := by
  unfold fault?
  rw [annotateClass_eq]
  dsimp only
  cases (r.effectOf [] name (r.examine disk name)).1 with
  | ok b => simp
  | error g => simp

theorem fault?_congr {disk' : Disk} (h : r.examine disk' name = r.examine disk name) :
    r.fault? disk' name = r.fault? disk name := by
  apply Option.ext
  intro f
  rw [fault?_eq_some, fault?_eq_some, h]

theorem share_of_some (h : r.fault? disk name = some f) :
    r.share disk name = (r.effectOf [] name (r.examine disk name)).2 ++
      { report := { errors := [(name, f)] } } := by
  have he := fault?_eq_some.mp h
  unfold share
  generalize r.effectOf [] name (r.examine disk name) = s at he ⊢
  obtain ⟨e, effect⟩ := s
  dsimp only at he
  subst he
  rfl

/-- A class that fails has its fault in the report and nothing else, and sends no notice. -/
theorem share_of_fault (h : r.fault? disk name = some f) :
    (r.share disk name).report = { errors := [(name, f)] } ∧ (r.share disk name).notices = [] := by
  obtain ⟨hreport, hnotices⟩ := effectOf_of_error (fault?_eq_some.mp h)
  rw [share_of_some h, Effect.report_append, Effect.notices_append, hreport, hnotices]
  exact ⟨rfl, rfl⟩

/-- A class that fails in a way that a batch contains adds its fault and nothing else, unless the
system lets its file not be written. -/
theorem share_of_contained (h : r.fault? disk name = some f) (hf : contains f = true)
    (hwritten : f.isUnwritten = false) :
    r.share disk name = { report := { errors := [(name, f)] } } := by
  rw [share_of_some h, effectOf_of_contained (fault?_eq_some.mp h) hf hwritten]
  rfl

theorem share_of_no_fault (h : r.fault? disk name = none) :
    r.share disk name = (r.effectOf [] name (r.examine disk name)).2 := by
  unfold share
  cases he : r.effectOf [] name (r.examine disk name) with
  | mk e effect =>
    cases e with
    | ok b => rfl
    | error f =>
      have hf : r.fault? disk name = some f := fault?_eq_some.mpr (by rw [he])
      rw [h] at hf
      cases hf

theorem share_warnings (r : Run) (disk : Disk) (name : Text) :
    (r.share disk name).warnings = warningsOf name (r.examine disk name) := by
  have h := effectOf_warnings r [] name (r.examine disk name)
  unfold share
  generalize r.effectOf [] name (r.examine disk name) = s at h ⊢
  obtain ⟨e, effect⟩ := s
  cases e with
  | ok b => exact h
  | error f => simpa using h

theorem className_of_share {x : Warning} (h : x ∈ (r.share disk name).warnings) :
    x.className = name := by
  rw [share_warnings] at h
  rcases warningsOf_cases name (r.examine disk name) with hnone | ⟨path, hone⟩
  · rw [hnone] at h
    cases h
  · rw [hone, List.mem_singleton] at h
    rw [h]

theorem share_edits (r : Run) (disk : Disk) (name : Text) :
    ((r.share disk name).edits.map Prod.fst).Sublist (r.place? disk name).toList := by
  have h := effectOf_edits r [] disk name
  unfold share
  generalize r.effectOf [] name (r.examine disk name) = s at h ⊢
  obtain ⟨e, effect⟩ := s
  cases e with
  | ok b => exact h
  | error f => simpa using h

/-- With a steady device, a batch that goes on adds to the world the share of the class. -/
theorem Advanced.eq_share (h : Advanced r name w w') (hsteady : r.device.Steady) :
    w' = w.apply (r.share w.disk name) := by
  rcases h.done_or_failed with ⟨b, hs⟩ | ⟨f, w₁, hs, -, rfl⟩
  · obtain ⟨he, hw⟩ := hs.eq_effect
    rw [effectOf_of_steady hsteady] at he hw
    have hnone : r.fault? w.disk name = none := by
      rw [Option.eq_none_iff_forall_ne_some]
      intro f hf
      rw [fault?_eq_some, ← he] at hf
      cases hf
    rw [share_of_no_fault hnone, hw]
  · obtain ⟨he, hw⟩ := hs.eq_effect
    rw [effectOf_of_steady hsteady] at he hw
    rw [share_of_some (fault?_eq_some.mpr he.symm), World.apply_append, ← hw, ← fail_eq]

/-- With a steady device, the fault of a class that a batch advances over is one that it contains.
-/
theorem Advanced.contains_fault (h : Advanced r name w w') (hsteady : r.device.Steady)
    (hf : r.fault? w.disk name = some f) : contains f = true := by
  rw [fault?_eq_some] at hf
  rcases h.done_or_failed with ⟨b, hs⟩ | ⟨g, w₁, hs, hg, -⟩
  · rw [← effectOf_of_steady hsteady w.edits, ← hs.eq_effect.1] at hf
    cases hf
  · rw [← effectOf_of_steady hsteady w.edits, ← hs.eq_effect.1] at hf
    cases hf
    exact hg

end Run
end Docblocks
