import Docblocks.Proofs.Run.Effect

/-!
Which files a run writes.

Every write of a call, whether it succeeds or fails, goes to the file of a class that the settings
permit, whatever calls came before: the last class of a name, which is not abstract, whose module is
enabled and whose name is not disabled. A dry run writes nothing, and a batch writes nothing while
generation is off.
-/

set_option autoImplicit false
set_option relaxedAutoImplicit false

namespace Docblocks

open Docblocks.Schema (Descriptor)

/-! ## Worlds that differ in some files -/

/-- Between two worlds nothing was written but files at places of a kind. -/
def World.Confined (P : Disk.Place → Prop) (w w' : World) : Prop :=
  ∃ edits : Disk.Edits, w'.edits = w.edits ++ edits ∧ w'.disk = w.disk.leaveAll edits ∧
    ∀ e ∈ edits, P e.1

namespace World.Confined

variable {P Q : Disk.Place → Prop} {w w' w₁ : World}

theorem of_eq (hedits : w'.edits = w.edits) (hdisk : w'.disk = w.disk) : Confined P w w' :=
  ⟨[], by simp [hedits], by simp [hdisk, Disk.leaveAll], by simp⟩

theorem of_edit {place : Disk.Place} {left? : Option Bytes}
    (hedits : w'.edits = w.edits ++ [(place, left?)]) (hdisk : w'.disk = w.disk.leave place left?)
    (hplace : P place) : Confined P w w' :=
  ⟨[(place, left?)], hedits, hdisk, by simpa using hplace⟩

theorem trans (h : Confined P w w₁) (h' : Confined P w₁ w') : Confined P w w' := by
  obtain ⟨edits, hedits, hdisk, hplaces⟩ := h
  obtain ⟨edits', hedits', hdisk', hplaces'⟩ := h'
  refine ⟨edits ++ edits', ?_, ?_, ?_⟩
  · rw [hedits', hedits, List.append_assoc]
  · rw [hdisk', hdisk, Disk.leaveAll_append]
  · rw [List.forall_mem_append]
    exact ⟨hplaces, hplaces'⟩

theorem imp (h : Confined P w w') (himp : ∀ q, P q → Q q) : Confined Q w w' := by
  obtain ⟨edits, hedits, hdisk, hplaces⟩ := h
  exact ⟨edits, hedits, hdisk, fun e he => himp e.1 (hplaces e he)⟩

theorem writes_eq (h : Confined P w w') :
    ∃ edits : Disk.Edits, w'.writes = w.writes ++ edits.map Prod.fst ∧
      w'.disk = w.disk.leaveAll edits ∧ ∀ e ∈ edits, P e.1 := by
  obtain ⟨edits, hedits, hdisk, hplaces⟩ := h
  exact ⟨edits, by rw [World.writes, hedits, List.map_append]; rfl, hdisk, hplaces⟩

theorem eq_of_false (h : Confined (fun _ => False) w w') :
    w'.writes = w.writes ∧ w'.disk = w.disk := by
  obtain ⟨edits, hwrites, hdisk, hplaces⟩ := h.writes_eq
  obtain rfl : edits = [] := List.eq_nil_iff_forall_not_mem.mpr hplaces
  exact ⟨by simpa using hwrites, hdisk⟩

theorem mode_eq (h : Confined P w w') (q : Disk.Place) : w'.disk.mode q = w.disk.mode q := by
  obtain ⟨edits, -, hdisk, -⟩ := h
  rw [hdisk, Disk.mode_leaveAll]

theorem file?_eq (h : Confined P w w') (hfile : ∀ q, P q → w.disk.HasFile q) (path : Disk.Path) :
    w'.disk.file? path = w.disk.file? path := by
  obtain ⟨edits, -, hdisk, hplaces⟩ := h
  rw [hdisk]
  exact Disk.file?_leaveAll (fun e he => hfile e.1 (hplaces e he)) path

theorem hasFile_iff (h : Confined P w w') (hfile : ∀ q, P q → w.disk.HasFile q)
    (q : Disk.Place) : w'.disk.HasFile q ↔ w.disk.HasFile q := by
  obtain ⟨edits, -, hdisk, hplaces⟩ := h
  rw [hdisk]
  exact Disk.hasFile_leaveAll fun e he => hfile e.1 (hplaces e he)

end World.Confined

namespace Run

open World (Confined)

variable {r : Run} {disk : Disk} {name n : Text} {w w' : World} {t : Target} {q : Disk.Place}

/-! ## Permission -/

/-- A class lets the file at a place be written: it is the last one of its name, it is not abstract,
its file stands at the place and may be written, its module is enabled and its name is not disabled.
-/
structure Grants (r : Run) (disk : Disk) (place : Disk.Place) (name : Text) (d : Descriptor) :
    Prop where
  last : Schema.lastNamed? r.classes name = some d
  concrete : d.abstract = false
  file : ∃ path, d.file? = some path ∧ disk.file? path = .ok (some place)
  writable : (disk.mode place).writable = true
  module : d.module ∈ r.settings.enabledModules
  named : name ∉ r.settings.disabledClasses

/-- Some class lets the file at a place be written. -/
def Permitted (r : Run) (disk : Disk) (place : Disk.Place) : Prop :=
  ∃ name d, r.Grants disk place name d

theorem permitted_of_target (h : r.target disk name = .ok (.ok t)) : r.Permitted disk t.place := by
  obtain ⟨hallowed, hlast, hconcrete, hfile, hplace, hwritable⟩ := target_eq_ok h
  unfold Settings.allowsClass at hallowed
  split at hallowed
  · cases hallowed
  · next hnamed =>
    rw [hlast] at hallowed
    refine ⟨name, t.descriptor, hlast, hconcrete, ⟨t.path, hfile, hplace⟩, hwritable, ?_, ?_⟩
    · simpa [Settings.allowsModule] using hallowed
    · simpa using hnamed

theorem Permitted.hasFile (h : r.Permitted disk q) : disk.HasFile q := by
  obtain ⟨name, d, h⟩ := h
  obtain ⟨path, -, hplace⟩ := h.file
  exact (Disk.file?_eq_some hplace).2

theorem Permitted.congr {disk' : Disk} (hfile : ∀ path, disk'.file? path = disk.file? path)
    (hmode : ∀ p, disk'.mode p = disk.mode p) (h : r.Permitted disk' q) : r.Permitted disk q := by
  obtain ⟨name, d, h⟩ := h
  obtain ⟨path, hpath, hplace⟩ := h.file
  refine ⟨name, d, h.last, h.concrete, ⟨path, hpath, ?_⟩, ?_, h.module, h.named⟩
  · rw [← hfile, hplace]
  · rw [← hmode]
    exact h.writable

/-! ## Steps and batches -/

/-- The places that a run may write on a disk. -/
def MayWrite (r : Run) (disk : Disk) (q : Disk.Place) : Prop :=
  r.dryRun = false ∧ r.Permitted disk q

theorem MayWrite.of_confined (h : Confined (r.MayWrite w.disk) w w')
    (hq : r.MayWrite w'.disk q) : r.MayWrite w.disk q :=
  ⟨hq.1, hq.2.congr (h.file?_eq fun _ hp => hp.2.hasFile) h.mode_eq⟩

-- What may be written is the same all along, since no file appears or vanishes on the way.
private theorem confined_trans {w₁ : World} (h : Confined (r.MayWrite w.disk) w w₁)
    (h' : Confined (r.MayWrite w₁.disk) w₁ w') : Confined (r.MayWrite w.disk) w w' :=
  h.trans (h'.imp fun _ => MayWrite.of_confined h)

/-- A step writes at most the file of its class, after it has read a text from it. -/
theorem Stepped.confined_of {P : Disk.Place → Prop} {e : Except Fault Bool}
    (h : Stepped r name w e w')
    (hP : ∀ t text, r.target w.disk name = .ok (.ok t) → source w.disk t = .ok text →
      r.dryRun = false → P t.place) : Confined P w w' := by
  rcases h.idle_or_saved with ⟨hdisk, hedits⟩ | ⟨x, u, left?, hs⟩
  · exact .of_eq hedits hdisk
  · obtain ⟨ht, hsource, -⟩ := examine_eq_ok.mp hs.found
    exact .of_edit hs.edits hs.disk (hP x.target x.text ht hsource hs.real)

theorem Stepped.confined {e : Except Fault Bool} (h : Stepped r name w e w') :
    Confined (r.MayWrite w.disk) w w' :=
  h.confined_of fun _ _ ht _ hdry => ⟨hdry, permitted_of_target ht⟩

/-- What a step writes is all that is written when a batch advances over its class. -/
theorem Advanced.confined_of {P : Disk.Place → Prop} (h : Advanced r name w w')
    (hP : ∀ {e w₁}, Stepped r name w e w₁ → Confined P w w₁) : Confined P w w' := by
  obtain ⟨e, w₁, hs, hw⟩ := h.exists_stepped
  have hstep : Confined P w w₁ := hP hs
  obtain rfl | ⟨f, rfl⟩ := hw
  · exact hstep
  · exact hstep

theorem Advanced.confined (h : Advanced r name w w') : Confined (r.MayWrite w.disk) w w' :=
  h.confined_of Stepped.confined

theorem annotateEach_confined (r : Run) (ds : List Descriptor) (w : World) :
    Confined (r.MayWrite w.disk) w (r.annotateEach ds w).2 := by
  induction ds generalizing w with
  | nil => exact .of_eq rfl rfl
  | cons d ds ih =>
    rcases annotateEach_cons r d ds w with ⟨w₁, ha, h⟩ | ⟨f, w₁, hs, -, h⟩
    · rw [h]
      exact confined_trans ha.confined (ih w₁)
    · rw [h]
      exact hs.confined

theorem batch_snd (r : Run) (w : World) : (r.batch w).2 = (r.annotateEach r.worklist w).2 := by
  unfold batch
  split
  · next h => rw [h]
  · next h => rw [h]

/-- Stripping writes at most the file of its class, after it has read a text from it. -/
theorem Stripped.confined_of {P : Disk.Place → Prop} {e : Except Fault Bool}
    (h : Stripped r name w e w')
    (hP : ∀ t text, r.target w.disk name = .ok (.ok t) → source w.disk t = .ok text →
      r.dryRun = false → P t.place) : Confined P w w' := by
  cases h with
  | failed => exact .of_eq rfl rfl
  | passed => exact .of_eq rfl rfl
  | @found t text _ _ ht hs hp =>
    cases hp with
    | kept hc => exact .of_eq rfl rfl
    | planned hc hd => exact .of_eq rfl rfl
    | written hc hd he =>
      exact .of_edit (conclude_edits r .stripped name _) (conclude_disk r .stripped name _)
        (hP t text ht hs hd)
    | broken hc hd he => exact .of_edit rfl rfl (hP t text ht hs hd)

/-! ## Calls -/

/-- What can be asked of a run. -/
inductive Call
  | annotateClass (name : Text)
  | annotateModule (module : Text)
  | annotateAll
  | stripClass (name : Text)
  deriving DecidableEq, Repr

/-- Does what is asked. -/
def call (r : Run) : Call → World → Except Fault Bool × World
  | .annotateClass name => r.annotateClass name
  | .annotateModule module => r.annotateModule module
  | .annotateAll => r.annotateAll
  | .stripClass name => r.stripClass name

/-- The world after some calls, whether they succeed or fail. -/
def after (r : Run) (calls : List Call) (w : World) : World :=
  calls.foldl (fun w c => (r.call c w).2) w

/-- When a call may write at all: batches need generation to be on, and the one for a module needs
this module to be enabled. -/
def Licensed (r : Run) : Call → Prop
  | .annotateAll => r.settings.enabled = true ∨ r.force = true
  | .annotateModule module =>
      (r.settings.enabled = true ∨ r.force = true) ∧ module ∈ r.settings.enabledModules
  | _ => True

theorem enabled_iff : r.enabled = true ↔ r.settings.enabled = true ∨ r.force = true := by
  rw [enabled, Bool.or_eq_true]

theorem call_confined (r : Run) (c : Call) (w : World) :
    Confined (fun q => r.MayWrite w.disk q ∧ r.Licensed c) w (r.call c w).2 := by
  have hbatch : Confined (r.MayWrite w.disk) w (r.batch w).2 := by
    rw [batch_snd]
    exact annotateEach_confined r r.worklist w
  cases c with
  | annotateClass name =>
    exact (stepped_annotateClass r name w).confined.imp fun _ hq => ⟨hq, trivial⟩
  | annotateModule module =>
    rw [call, annotateModule]
    split
    · next hon =>
      rw [Bool.and_eq_true, enabled_iff, Settings.allowsModule, List.contains_iff_mem] at hon
      exact hbatch.imp fun _ hq => ⟨hq, hon⟩
    · exact .of_eq rfl rfl
  | annotateAll =>
    rw [call, annotateAll]
    split
    · next hon => exact hbatch.imp fun _ hq => ⟨hq, enabled_iff.mp hon⟩
    · exact .of_eq rfl rfl
  | stripClass name =>
    exact (stripped_stripClass r name w).confined_of fun _ _ ht _ hdry =>
      ⟨⟨hdry, permitted_of_target ht⟩, trivial⟩

theorem after_confined (r : Run) (calls : List Call) (w : World) :
    Confined (r.MayWrite w.disk) w (r.after calls w) := by
  induction calls generalizing w with
  | nil => exact .of_eq rfl rfl
  | cons c calls ih =>
    have hcall := (call_confined r c w).imp (Q := r.MayWrite w.disk) fun _ hq => hq.1
    exact confined_trans hcall (ih _)

/-- A call that may not write leaves the disk alone. -/
theorem call_idle {c : Call} (h : r.dryRun = true ∨ ¬r.Licensed c) (w : World) :
    (r.call c w).2.writes = w.writes ∧ (r.call c w).2.disk = w.disk := by
  apply Confined.eq_of_false
  apply (call_confined r c w).imp
  rintro q ⟨⟨hdry, -⟩, hlicensed⟩
  rcases h with h | h
  · rw [hdry] at h
    cases h
  · exact h hlicensed

/-- From a world to the next a call writes only files that the settings permit on a disk; it leaves
the others alone, and the files are those of the disk. -/
def Obeys (r : Run) (disk : Disk) (c : Call) (w w' : World) : Prop :=
  ∃ written, w'.writes = w.writes ++ written ∧
    (∀ q ∈ written, r.dryRun = false ∧ r.Permitted disk q ∧ r.Licensed c) ∧
    (∀ q, q ∉ written → w'.disk.entry? q = w.disk.entry? q) ∧
    ∀ q, w'.disk.HasFile q ↔ disk.HasFile q

/-- Whatever calls came before, a call obeys the settings as they stood at the start. -/
theorem call_obeys (r : Run) (disk : Disk) (earlier : List Call) (c : Call) :
    r.Obeys disk c (r.after earlier { disk := disk })
      (r.call c (r.after earlier { disk := disk })).2 := by
  have hearlier := after_confined r earlier { disk := disk }
  generalize r.after earlier { disk := disk } = w at hearlier ⊢
  have hcall := call_confined r c w
  have hfiles := hcall.hasFile_iff fun _ hq => hq.1.2.hasFile
  obtain ⟨edits, hwrites, hdisk, hplaces⟩ := hcall.writes_eq
  refine ⟨edits.map Prod.fst, hwrites, ?_, ?_, ?_⟩
  · intro q hq
    obtain ⟨e, he, rfl⟩ := List.mem_map.mp hq
    obtain ⟨hmay, hlicensed⟩ := hplaces e he
    have hstart := MayWrite.of_confined hearlier hmay
    exact ⟨hstart.1, hstart.2, hlicensed⟩
  · intro q hq
    rw [hdisk]
    exact Disk.entry?_leaveAll_of_not_mem hq
  · intro q
    rw [hfiles]
    exact hearlier.hasFile_iff (fun _ hp => hp.2.hasFile) q

end Run
end Docblocks
