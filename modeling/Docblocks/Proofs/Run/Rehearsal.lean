import Docblocks.Proofs.Run.Accounting
import Docblocks.Proofs.Run.Rerun

/-!
What a dry batch foretells of the real one.

The two batches go through the worklist side by side. If the classes have files of their own, no
class reads what the real batch has written before, so that both find the same at each class and
warn of the same. They record the same too, unless the system lets the file of a class not be
written, which the dry batch never tries. For the same reason the dry batch does not see that a text
has no bytes, on which the real one fails.
-/

set_option autoImplicit false
set_option relaxedAutoImplicit false

namespace Docblocks

open Docblocks.Schema (Descriptor)

namespace Report

/-- The classes of a report that have failed because the system let their files not be written. -/
def unwritten (a : Report) : List Text :=
  (a.errors.filter fun e => e.2.isUnwritten).map Prod.fst

/-- A report that foretells another one: this one has the same entries, but that it may record of a
class to be updated that its file could not be written. -/
structure Foretells (dry real : Report) : Prop where
  unchanged : dry.unchanged = real.unchanged
  skipped : dry.skipped = real.skipped
  errors : dry.errors = real.errors.filter fun e => !e.2.isUnwritten
  updated : real.updated.Sublist dry.updated
  rest : dry.updated.Perm (real.updated ++ real.unwritten)

variable {dry real : Report}

theorem foretells_empty : Foretells {} {} := by
  constructor <;> simp [unwritten]

/-- Where every file is written, the reports are the same. -/
theorem Foretells.eq_of_allWritten (h : Foretells dry real) (hall : real.AllWritten) :
    dry = real := by
  have hnone : real.unwritten = [] := by
    rw [unwritten, List.map_eq_nil_iff, List.filter_eq_nil_iff]
    intro e he
    simp [hall e he]
  have herrors : dry.errors = real.errors := by
    rw [h.errors, List.filter_eq_self]
    intro e he
    simp [hall e he]
  have hupdated : real.updated = dry.updated := by
    apply h.updated.eq_of_length
    rw [h.rest.length_eq, hnone, List.append_nil]
  change Report.mk dry.updated dry.unchanged dry.skipped dry.errors = real
  rw [← hupdated, h.unchanged, h.skipped, herrors]

end Report

namespace Run

variable {r : Run} {disk : Disk} {name : Text} {w w' v v' : World} {d : Descriptor}
  {ds : List Descriptor}

/-- The same run, dry or not. -/
def setDry (r : Run) (dry : Bool) : Run := { r with dryRun := dry }

section SetDry

variable (r : Run) (dry : Bool)

@[simp] theorem setDry_enabled : (r.setDry dry).enabled = r.enabled := rfl
@[simp] theorem setDry_settings : (r.setDry dry).settings = r.settings := rfl
@[simp] theorem setDry_worklist : (r.setDry dry).worklist = r.worklist := rfl
@[simp] theorem setDry_examine : (r.setDry dry).examine = r.examine := rfl
@[simp] theorem setDry_verdict : (r.setDry dry).verdict = r.verdict := rfl

end SetDry

/-! ## Dry steps -/

theorem Stepped.of_dry {e : Except Fault Bool} (h : Stepped r name w e w')
    (hdry : r.dryRun = true) :
    w'.disk = w.disk ∧ w'.edits = w.edits ∧ w'.notices = w.notices := by
  obtain ⟨-, rfl⟩ := h.eq_effect
  obtain ⟨hedits, hnotices⟩ := effectOf_of_dry hdry w.edits name (r.examine w.disk name)
  simp [World.apply, hedits, hnotices, Disk.leaveAll]

theorem Advanced.of_dry (h : Advanced r name w w') (hdry : r.dryRun = true) :
    w'.disk = w.disk ∧ w'.edits = w.edits ∧ w'.notices = w.notices := by
  obtain ⟨e, w₁, hs, rfl | ⟨f, rfl⟩⟩ := h.exists_stepped
  · exact hs.of_dry hdry
  · exact hs.of_dry hdry

/-- A dry batch writes nothing and sends no notice, whether it returns or fails. -/
theorem annotateEach_of_dry (hdry : r.dryRun = true) (ds : List Descriptor) (w : World) :
    (r.annotateEach ds w).2.disk = w.disk ∧ (r.annotateEach ds w).2.edits = w.edits ∧
      (r.annotateEach ds w).2.notices = w.notices := by
  induction ds generalizing w with
  | nil => exact ⟨rfl, rfl, rfl⟩
  | cons d ds ih =>
    rcases annotateEach_cons r d ds w with ⟨w₁, ha, he⟩ | ⟨f, w₁, hs, -, he⟩
    · obtain ⟨hdisk, hedits, hnotices⟩ := ha.of_dry hdry
      obtain ⟨hdisk', hedits', hnotices'⟩ := ih w₁
      rw [he]
      exact ⟨hdisk'.trans hdisk, hedits'.trans hedits, hnotices'.trans hnotices⟩
    · rw [he]
      exact hs.of_dry hdry

/-- A dry batch records of each class what it finds on the disk. -/
theorem Advanced.report_of_dry (h : Advanced r name w w') (hdry : r.dryRun = true) :
    w'.report = enter w.report name (r.verdict w.disk name) := by
  cases h with
  | done hs => exact hs.report_eq
  | noted hx hf =>
    rw [verdict_of_error hx]
    rfl
  | torn hs hf hv =>
    cases hs with
    | failed hx =>
      rw [verdict_of_error hx] at hv
      cases hv
    | broken hx hu hne hd =>
      rw [hdry] at hd
      cases hd

/-! ## What a step tells -/

theorem Advanced.warnings_eq (h : Advanced r name w w') :
    w'.warnings = w.warnings ++ warningsOf name (r.examine w.disk name) := by
  have hstep : ∀ {e w₁}, Stepped r name w e w₁ →
      w₁.warnings = w.warnings ++ warningsOf name (r.examine w.disk name) := by
    intro e w₁ hs
    obtain ⟨-, rfl⟩ := hs.eq_effect
    rw [World.apply, effectOf_warnings]
  obtain ⟨e, w₁, hs, hw⟩ := h.exists_stepped
  have hwarnings := hstep hs
  obtain rfl | ⟨f, rfl⟩ := hw
  · exact hwarnings
  · exact hwarnings

theorem verdict_congr {disk' : Disk} (h : r.examine disk' name = r.examine disk name) :
    r.verdict disk' name = r.verdict disk name := by
  rw [verdict, verdict, h]

theorem OwnFiles.verdict_eq (hown : r.OwnFiles w.disk (d :: ds)) (ha : Advanced r d.name w w')
    {d' : Descriptor} (hd' : d' ∈ ds) : r.verdict w'.disk d'.name = r.verdict w.disk d'.name :=
  verdict_congr (hown.examine_eq ha hd')

/-! ## Side by side -/

/-- What is found on a disk is no file that could not be written. -/
theorem not_unwritten_verdict (r : Run) (disk : Disk) (name : Text) :
    ¬(r.verdict disk name).Unwritten := by
  cases hx : r.examine disk name with
  | error f =>
    rw [verdict_of_error hx, Verdict.Unwritten, Bool.not_eq_true]
    rcases examine_eq_error.mp hx with ht | ⟨t, -, hs | ⟨text, -, ho⟩⟩
    · obtain ⟨g, rfl, -⟩ := target_eq_error ht
      rfl
    · unfold source at hs
      split at hs
      · cases hs
        rfl
      · split at hs
        · cases hs
          rfl
        · cases hs
    · rcases upsert_eq_error.mp ho with ⟨g, -, rfl⟩ | ⟨p, g, -, -, rfl⟩
      · rfl
      · rfl
  | ok e =>
    cases e with
    | error s =>
      rw [verdict_of_skip hx]
      exact id
    | ok x =>
      simp only [verdict, hx]
      split
      · exact id
      · split
        · exact id
        · exact id

/-- One more class keeps a report foretelling another, also if only the other one records that its
file could not be written. -/
theorem foretells_enter {a b : Report} {p q : Verdict} (h : a.Foretells b)
    (hpq : q = p ∧ ¬p.Unwritten ∨ p = .updated ∧ q.Unwritten) :
    (enter a name p).Foretells (enter b name q) := by
  obtain ⟨hunchanged, hskipped, herrors, hupdated, hrest⟩ := h
  rcases hpq with ⟨rfl, hwritten⟩ | ⟨rfl, hq⟩
  · cases q with
    | updated =>
      refine ⟨hunchanged, hskipped, herrors, hupdated.append_right [name], ?_⟩
      have hcomm : (b.unwritten ++ [name]).Perm ([name] ++ b.unwritten) := List.perm_append_comm
      have hlast := hrest.append_right [name]
      rw [List.append_assoc] at hlast
      have hall := hlast.trans (hcomm.append_left b.updated)
      rwa [← List.append_assoc] at hall
    | unchanged => exact ⟨by simp [enter, hunchanged], hskipped, herrors, hupdated, hrest⟩
    | skipped s => exact ⟨hunchanged, by simp [enter, hskipped], herrors, hupdated, hrest⟩
    | failed f =>
      have hf : f.isUnwritten = false := by simpa [Verdict.Unwritten] using hwritten
      refine ⟨hunchanged, hskipped, by simp [enter, herrors, hf], hupdated, ?_⟩
      simpa [enter, Report.unwritten, hf] using hrest
  · cases q with
    | failed f =>
      have hf : f.isUnwritten = true := hq
      refine ⟨hunchanged, hskipped, by simp [enter, herrors, hf], ?_, ?_⟩
      · exact hupdated.trans (List.sublist_append_left _ _)
      · simpa [enter, Report.unwritten, hf] using hrest.append_right [name]
    | _ => exact hq.elim

/-- Two worlds of which the first foretells the report of the second, with the same warnings, and on
whose disks the classes of a list find the same. -/
structure Mirrors (r : Run) (ds : List Descriptor) (w v : World) : Prop where
  report : w.report.Foretells v.report
  warnings : w.warnings = v.warnings
  found : ∀ d ∈ ds, r.examine w.disk d.name = r.examine v.disk d.name

/-- The step of one class keeps the worlds alike for the classes after it. -/
theorem Mirrors.advance (h : Mirrors r (d :: ds) w v) (hown : r.OwnFiles v.disk (d :: ds))
    (hw : Advanced (r.setDry true) d.name w w') (hv : Advanced (r.setDry false) d.name v v') :
    Mirrors r ds w' v' := by
  have hself : r.examine w.disk d.name = r.examine v.disk d.name := h.found d List.mem_cons_self
  constructor
  · obtain ⟨q, hreport, hq⟩ := hv.exists_entry
    rw [hw.report_of_dry rfl, hreport]
    apply foretells_enter h.report
    rw [setDry_verdict] at hq
    rw [setDry_verdict, verdict_congr hself]
    exact hq.imp_left fun hsame => ⟨hsame, not_unwritten_verdict r v.disk d.name⟩
  · rw [hw.warnings_eq, hv.warnings_eq, h.warnings, setDry_examine, setDry_examine, hself]
  · intro d' hd'
    have hkept : w'.disk = w.disk := (hw.of_dry rfl).1
    have hothers : r.examine v'.disk d'.name = r.examine v.disk d'.name :=
      OwnFiles.examine_eq (r := r.setDry false) hown hv hd'
    rw [hkept, hothers]
    exact h.found d' (List.mem_cons_of_mem d hd')

/-- A step that ends a batch has failed before it acts, or the payload of its class has no bytes. -/
theorem Stepped.failed_or_broken {f : Fault} (h : Stepped r name w (.error f) w')
    (hf : contains f = false) :
    (r.examine w.disk name = .error f ∧ w' = w) ∨
      r.dryRun = false ∧ ¬r.Encodable w.disk name ∧ ∃ g, f = .unencodable g := by
  cases h with
  | failed hx => exact .inl ⟨hx, rfl⟩
  | @broken x u _ left? hx hu hne hd hs =>
    rcases Disk.Device.save_eq_error hs with ⟨e, rfl⟩ | ⟨g, hg, rfl, -⟩
    · cases hf
    · refine .inr ⟨hd, ?_, g, rfl⟩
      intro hbytes
      obtain ⟨bytes, hb⟩ := hbytes.exists_bytes hx hu
      rw [hb] at hg
      cases hg

theorem Encodable.congr {disk' : Disk} (h : r.target disk' name = r.target disk name)
    (hbytes : r.Encodable disk name) : r.Encodable disk' name := by
  rw [Encodable, h]
  exact hbytes

/-- Batches over mirrored worlds give the same answer and leave mirrored worlds, unless the real one
meets a payload without bytes. -/
theorem annotateEach_mirrors (h : Mirrors r ds w v) (hown : r.OwnFiles v.disk ds) :
    ((∃ d ∈ ds, ¬r.Encodable v.disk d.name) ∧
        ∃ g, ((r.setDry false).annotateEach ds v).1 = .error (.unencodable g)) ∨
      ((r.setDry true).annotateEach ds w).1 = ((r.setDry false).annotateEach ds v).1 ∧
        Mirrors r [] ((r.setDry true).annotateEach ds w).2
          ((r.setDry false).annotateEach ds v).2 := by
  induction ds generalizing w v with
  | nil => exact .inr ⟨rfl, h⟩
  | cons d ds ih =>
    have hself : r.examine w.disk d.name = r.examine v.disk d.name := h.found d List.mem_cons_self
    rcases annotateEach_cons (r.setDry false) d ds v with ⟨v₁, hv, hv'⟩ | ⟨f, v₁, hs, hf, hv'⟩
    · rcases annotateEach_cons (r.setDry true) d ds w with ⟨w₁, hw, hw'⟩ | ⟨g, w₁, hs, hg, -⟩
      · have hown₁ : r.OwnFiles v₁.disk ds := OwnFiles.advance (r := r.setDry false) hown hv
        rw [hv', hw']
        rcases ih (h.advance hown hw hv) hown₁ with ⟨⟨d', hd', hbytes⟩, hends⟩ | hsame
        · have hbytes' : ¬r.Encodable v.disk d'.name :=
            fun hb => hbytes (hb.congr (hv.target_eq d'.name))
          exact .inl ⟨⟨d', List.mem_cons_of_mem d hd', hbytes'⟩, hends⟩
        · exact .inr hsame
      · -- What ends the dry batch would end the real one.
        rcases hs.failed_or_broken hg with ⟨hx, -⟩ | ⟨hdry, -⟩
        · rw [setDry_examine, hself] at hx
          rw [hv.contained hx] at hg
          cases hg
        · cases hdry
    · rcases hs.failed_or_broken hf with ⟨hx, rfl⟩ | ⟨-, hbytes, g, rfl⟩
      · rcases annotateEach_cons (r.setDry true) d ds w with ⟨w₁, hw, -⟩ | ⟨g, w₁, hs', hg, hw'⟩
        · rw [setDry_examine, ← hself] at hx
          rw [hw.contained hx] at hf
          cases hf
        · rcases hs'.failed_or_broken hg with ⟨hx', rfl⟩ | ⟨hdry, -⟩
          · have hfault : g = f := by
              rw [setDry_examine, hself] at hx'
              exact Except.error.inj (hx'.symm.trans hx)
            rw [hv', hw', hfault]
            exact .inr ⟨rfl, h.report, h.warnings, by simp⟩
          · cases hdry
      · rw [hv']
        exact .inl ⟨⟨d, List.mem_cons_self, hbytes⟩, g, rfl⟩

/-! ## Files that the real batch changes -/

/-- A dry batch records the classes as updated that would be on the disk. -/
theorem mem_updated_of_dry {n : Text} (hdry : r.dryRun = true)
    (h : r.annotateEach ds w = (.ok (), w')) :
    n ∈ w'.report.updated ↔ n ∈ w.report.updated ∨
      ∃ d ∈ ds, d.name = n ∧ r.verdict w.disk d.name = .updated := by
  induction ds generalizing w with
  | nil =>
    rw [annotateEach] at h
    cases h
    simp
  | cons d ds ih =>
    obtain ⟨w₁, ha, htail⟩ := annotateEach_cons_ok h
    have hkept : w₁.disk = w.disk := (ha.of_dry hdry).1
    have hself : n = d.name ∧ r.verdict w.disk d.name = .updated ↔
        d.name = n ∧ r.verdict w.disk d.name = .updated := by
      rw [eq_comm]
    rw [ih htail, ha.report_of_dry hdry, mem_updated_enter, hkept, hself, or_assoc,
      List.exists_mem_cons_iff]

/-- A batch changes no file but those of the classes on its list. -/
theorem entry?_annotateEach_of_not_mem {q : Disk.Place} (h : r.annotateEach ds w = (.ok (), w'))
    (hq : q ∉ r.places w.disk ds) : w'.disk.entry? q = w.disk.entry? q := by
  induction ds generalizing w with
  | nil =>
    rw [annotateEach] at h
    cases h
    rfl
  | cons d ds ih =>
    obtain ⟨w₁, ha, htail⟩ := annotateEach_cons_ok h
    rw [places_cons, List.mem_append, not_or] at hq
    rw [← places_congr ha.target_eq ds] at hq
    rw [ih htail hq.2]
    by_contra hne
    apply hq.1
    rw [ha.place_of_changed hne]
    exact List.mem_singleton.mpr rfl

/-- A class whose file a batch over files of their own changes would be updated on the disk as it
was at the start. -/
theorem exists_updated_of_changed {q : Disk.Place} (hown : r.OwnFiles w.disk ds)
    (h : r.annotateEach ds w = (.ok (), w')) (hne : w'.disk.entry? q ≠ w.disk.entry? q) :
    ∃ d ∈ ds, r.verdict w.disk d.name = .updated ∧ r.place? w.disk d.name = some q := by
  induction ds generalizing w with
  | nil =>
    rw [annotateEach] at h
    cases h
    exact absurd rfl hne
  | cons d ds ih =>
    obtain ⟨w₁, ha, htail⟩ := annotateEach_cons_ok h
    by_cases hself : w₁.disk.entry? q = w.disk.entry? q
    · rw [← hself] at hne
      obtain ⟨d', hd', hv, hq⟩ := ih (hown.advance ha) htail hne
      rw [hown.verdict_eq ha hd'] at hv
      rw [place?_congr (ha.target_eq d'.name)] at hq
      exact ⟨d', List.mem_cons_of_mem d hd', hv, hq⟩
    · have hv : r.verdict w.disk d.name = .updated := by
        by_contra hv
        exact hself (by rw [(ha.idle hv).1])
      exact ⟨d, List.mem_cons_self, hv, ha.place_of_changed hself⟩

/-- A class that a batch over files of their own records as updated has a file that the batch has
changed. -/
theorem changed_of_updated {n : Text} (hdry : r.dryRun = false) (hown : r.OwnFiles w.disk ds)
    (h : r.annotateEach ds w = (.ok (), w')) (hn : n ∈ w'.report.updated) :
    n ∈ w.report.updated ∨
      ∃ q, r.place? w.disk n = some q ∧ w'.disk.entry? q ≠ w.disk.entry? q := by
  induction ds generalizing w with
  | nil =>
    rw [annotateEach] at h
    cases h
    exact .inl hn
  | cons d ds ih =>
    obtain ⟨w₁, ha, htail⟩ := annotateEach_cons_ok h
    -- The file of the first class is none of the others, so it is left as the class leaves it.
    have hkept : ∀ q, r.place? w.disk d.name = some q →
        w'.disk.entry? q = w₁.disk.entry? q := by
      intro q hq
      apply entry?_annotateEach_of_not_mem htail
      rw [places_congr ha.target_eq]
      exact hown.not_mem_tail hq
    rcases ih (hown.advance ha) htail with hfirst | ⟨q, hq, hne⟩
    · obtain ⟨p, hreport, haccount, -⟩ := ha.exists_account
      rw [hreport, mem_updated_enter] at hfirst
      rcases hfirst with hbefore | ⟨rfl, rfl⟩
      · exact .inl hbefore
      · obtain ⟨q, hq, hne⟩ := (haccount hdry id).mp rfl
        exact .inr ⟨q, hq, by rwa [hkept q hq]⟩
    · rw [place?_congr (ha.target_eq n)] at hq
      refine .inr ⟨q, hq, ?_⟩
      have hother : w₁.disk.entry? q = w.disk.entry? q := by
        by_contra hself
        exact hne (hkept q (ha.place_of_changed hself))
      rwa [← hother]

/-! ## Whole batches -/

theorem batch_fst (r : Run) (w : World) :
    (r.batch w).1 = (r.annotateEach r.worklist w).1.map fun _ => true := by
  unfold batch
  split
  · next h => rw [h]; rfl
  · next h => rw [h]; rfl

/-- What a dry batch tells of the real one: its answer and its warnings, its report as far as the
system lets the files be written, and the files that it changes if it returns. -/
structure Foretells (r : Run) (disk : Disk) (dry real : Except Fault Bool × World) : Prop where
  answer : dry.1 = real.1
  warnings : dry.2.warnings = real.2.warnings
  report : dry.2.report.Foretells real.2.report
  placed : ∀ b, real.1 = .ok b → ∀ n ∈ dry.2.report.updated, ∃ q, r.place? disk n = some q
  changed : ∀ b, real.1 = .ok b → ∀ q, real.2.disk.entry? q ≠ disk.entry? q →
    ∃ n ∈ dry.2.report.updated, r.place? disk n = some q
  updated : ∀ b, real.1 = .ok b → ∀ n ∈ real.2.report.updated, ∀ q, r.place? disk n = some q →
    real.2.disk.entry? q ≠ disk.entry? q

/-- Where the system lets every file be written, the two reports are the same, and the real batch
changes exactly the files of the classes that the dry one records as updated. -/
theorem Foretells.of_allWritten {dry real : Except Fault Bool × World}
    (h : Foretells r disk dry real) (hall : real.2.report.AllWritten) :
    dry.2.report = real.2.report ∧ ∀ b, real.1 = .ok b → ∀ q,
      real.2.disk.entry? q ≠ disk.entry? q ↔
        ∃ n ∈ dry.2.report.updated, r.place? disk n = some q := by
  have hreport := h.report.eq_of_allWritten hall
  refine ⟨hreport, fun b hb q => ⟨h.changed b hb q, ?_⟩⟩
  rw [hreport]
  rintro ⟨n, hn, hq⟩
  exact h.updated b hb n hn q hq

theorem foretells_batch (hown : r.OwnFiles disk r.worklist) :
    ((∃ d ∈ r.worklist, ¬r.Encodable disk d.name) ∧
        ∃ g, ((r.setDry false).batch { disk := disk }).1 = .error (.unencodable g)) ∨
      Foretells r disk ((r.setDry true).batch { disk := disk })
        ((r.setDry false).batch { disk := disk }) := by
  have hstart : Mirrors r r.worklist { disk := disk } { disk := disk } :=
    ⟨Report.foretells_empty, rfl, fun _ _ => rfl⟩
  rcases annotateEach_mirrors hstart hown with ⟨hbytes, g, hends⟩ | ⟨hanswer, hmirror⟩
  · refine .inl ⟨hbytes, g, ?_⟩
    rw [batch_fst, setDry_worklist, hends]
    rfl
  · have hsame : ((r.setDry true).batch { disk := disk }).1 =
        ((r.setDry false).batch { disk := disk }).1 := by
      rw [batch_fst, batch_fst, setDry_worklist, setDry_worklist, hanswer]
    have hrun : ∀ dry b, ((r.setDry dry).batch { disk := disk }).1 = .ok b →
        (r.setDry dry).annotateEach r.worklist { disk := disk } =
          (.ok (), ((r.setDry dry).batch { disk := disk }).2) :=
      fun dry b hb => (batch_eq_ok.mp (Prod.ext hb rfl)).2
    have hupdated : ∀ b, ((r.setDry false).batch { disk := disk }).1 = .ok b → ∀ n,
        n ∈ ((r.setDry true).batch { disk := disk }).2.report.updated ↔
          ∃ d ∈ r.worklist, d.name = n ∧ r.verdict disk d.name = .updated := by
      intro b hb n
      rw [mem_updated_of_dry (r := r.setDry true) rfl (hrun true b (hsame.trans hb))]
      simp
    have hreal : (r.setDry false).OwnFiles disk r.worklist := hown
    refine .inr ⟨hsame, ?_, ?_, ?_, ?_, ?_⟩
    · rw [batch_snd, batch_snd]
      exact hmirror.warnings
    · rw [batch_snd, batch_snd]
      exact hmirror.report
    · intro b hb n hn
      obtain ⟨d, -, rfl, hv⟩ := (hupdated b hb n).mp hn
      exact place?_of_updated hv
    · intro b hb q hne
      obtain ⟨d, hd, hv, hq⟩ :=
        exists_updated_of_changed (w := { disk := disk }) hreal (hrun false b hb) hne
      exact ⟨d.name, (hupdated b hb d.name).mpr ⟨d, hd, rfl, hv⟩, hq⟩
    · intro b hb n hn q hq
      rcases changed_of_updated (w := { disk := disk }) rfl hreal (hrun false b hb) hn with
        hbefore | ⟨q', hq', hne⟩
      · cases hbefore
      · have hplace : r.place? disk n = some q' := hq'
        rw [hplace] at hq
        cases hq
        exact hne

/-- A batch call runs the batch, or it does nothing when it is switched off, dry or not. -/
theorem call_batch_or_off {c : Call} (r : Run)
    (hc : c = .annotateAll ∨ ∃ module, c = .annotateModule module) :
    (∀ dry w, (r.setDry dry).call c w = (r.setDry dry).batch w) ∨
      ∀ dry w, (r.setDry dry).call c w = (.ok false, w) := by
  rcases hc with rfl | ⟨module, rfl⟩
  · by_cases hon : r.enabled = true
    · exact .inl fun dry w => by rw [call, annotateAll, setDry_enabled, if_pos hon]
    · exact .inr fun dry w => by rw [call, annotateAll, setDry_enabled, if_neg hon]
  · by_cases hon : (r.enabled && r.settings.allowsModule module) = true
    · exact .inl fun dry w => by
        rw [call, annotateModule, setDry_enabled, setDry_settings, if_pos hon]
    · exact .inr fun dry w => by
        rw [call, annotateModule, setDry_enabled, setDry_settings, if_neg hon]

/-- If the classes have files of their own, a dry batch foretells the real one on the same disk,
unless the real one fails on a payload without bytes: the reports differ in the classes at most
whose files the system lets not be written, and if it lets all be written, they are the same and the
real batch changes exactly the files of the classes that the dry one records as updated. The dry
batch itself writes nothing and sends no notice. -/
theorem dry_batch_foretells_real_batch {c : Call}
    (hc : c = .annotateAll ∨ ∃ module, c = .annotateModule module)
    (hown : r.OwnFiles disk r.worklist) :
    (((r.setDry true).call c { disk := disk }).2.disk = disk ∧
      ((r.setDry true).call c { disk := disk }).2.writes = [] ∧
      ((r.setDry true).call c { disk := disk }).2.notices = []) ∧
    (((∃ d ∈ r.worklist, ¬r.Encodable disk d.name) ∧
        ∃ g, ((r.setDry false).call c { disk := disk }).1 = .error (.unencodable g)) ∨
      Foretells r disk ((r.setDry true).call c { disk := disk })
          ((r.setDry false).call c { disk := disk }) ∧
        (((r.setDry false).call c { disk := disk }).2.report.AllWritten →
          ((r.setDry true).call c { disk := disk }).2.report =
              ((r.setDry false).call c { disk := disk }).2.report ∧
            ∀ b, ((r.setDry false).call c { disk := disk }).1 = .ok b → ∀ q,
              ((r.setDry false).call c { disk := disk }).2.disk.entry? q ≠ disk.entry? q ↔
                ∃ n ∈ ((r.setDry true).call c { disk := disk }).2.report.updated,
                  r.place? disk n = some q)) := by
  rcases call_batch_or_off r hc with hcall | hcall
  · rw [hcall true, hcall false]
    constructor
    · obtain ⟨hdisk, hedits, hnotices⟩ :=
        annotateEach_of_dry (r := r.setDry true) rfl r.worklist { disk := disk }
      rw [batch_snd, setDry_worklist, World.writes, hedits]
      exact ⟨hdisk, rfl, hnotices⟩
    · exact (foretells_batch hown).imp_right fun h => ⟨h, h.of_allWritten⟩
  · rw [hcall true, hcall false]
    have hsame : Foretells r disk (.ok false, { disk := disk }) (.ok false, { disk := disk }) := by
      constructor <;> simp [Report.foretells_empty]
    exact ⟨⟨rfl, rfl, rfl⟩, .inr ⟨hsame, hsame.of_allWritten⟩⟩

/-- The one file that the real batch changes is that of the one class that the dry one updates. -/
theorem dry_batch_foretells_real_batch_mixed :
    mixedRun.OwnFiles mixedDisk mixedRun.worklist ∧
      ((mixedRun.setDry true).call .annotateAll { disk := mixedDisk }).2.report.updated =
        ["Page".points] ∧
      ((mixedRun.setDry true).call .annotateAll { disk := mixedDisk }).2.disk = mixedDisk ∧
      Foretells mixedRun mixedDisk ((mixedRun.setDry true).call .annotateAll { disk := mixedDisk })
        ((mixedRun.setDry false).call .annotateAll { disk := mixedDisk }) := by
  have hbytes : ∀ d ∈ mixedRun.worklist, mixedRun.Encodable mixedDisk d.name := by
    have hsound : ∀ d ∈ mixedRun.worklist, mixedRun.isSound mixedDisk d.name = true := by
      decide +kernel
    intro d hd
    exact encodable_of_isSound (hsound d hd)
  have hupdated : ((mixedRun.setDry true).call .annotateAll { disk := mixedDisk }).2.report.updated
      = ["Page".points] := by
    decide +kernel
  obtain ⟨⟨hdisk, -, -⟩, hreal⟩ :=
    dry_batch_foretells_real_batch (c := .annotateAll) (.inl rfl) mixed_ownFiles
  refine ⟨mixed_ownFiles, hupdated, hdisk, ?_⟩
  rcases hreal with ⟨⟨d, hd, hno⟩, -⟩ | ⟨hforetells, -⟩
  · exact absurd (hbytes d hd) hno
  · exact hforetells

/-- A class whose one field is half of a pair. -/
def halfRun : Run where
  settings := { enabled := true, enabledModules := ["site".points] }
  classes := [{ name := "Page".points, module := "site".points
                file? := some ⟨.here, ["page".points]⟩
                db := [(.text [.half 0], .text "Text".points)] }]

/-- The dry batch returns and announces an update, but the real one fails and leaves the file empty.
-/
theorem dry_batch_misses_payload_without_bytes :
    halfRun.OwnFiles mixedDisk halfRun.worklist ∧
      ((halfRun.setDry true).call .annotateAll { disk := mixedDisk }).1.toOption = some true ∧
      ((halfRun.setDry true).call .annotateAll { disk := mixedDisk }).2.report.updated =
        ["Page".points] ∧
      ((halfRun.setDry false).call .annotateAll { disk := mixedDisk }).1.toOption = none ∧
      ((halfRun.setDry false).call .annotateAll { disk := mixedDisk }).2.disk.entry?
        ["page".points] = some (.file []) ∧
      ¬Foretells halfRun mixedDisk ((halfRun.setDry true).call .annotateAll { disk := mixedDisk })
        ((halfRun.setDry false).call .annotateAll { disk := mixedDisk }) := by
  have hreturns : ((halfRun.setDry true).call .annotateAll { disk := mixedDisk }).1.toOption =
      some true := by
    decide +kernel
  have hfails : ((halfRun.setDry false).call .annotateAll { disk := mixedDisk }).1.toOption =
      none := by
    decide +kernel
  refine ⟨by decide +kernel, hreturns, by decide +kernel, hfails, by decide +kernel, ?_⟩
  intro h
  rw [h.answer, hfails] at hreturns
  cases hreturns

end Run
end Docblocks
