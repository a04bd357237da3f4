import Docblocks.Proofs.Command.Passive
import Docblocks.Proofs.Run.Rerun

/-!
A check agrees with an annotation.

A batch returns with neither an update nor an error in its report exactly when every class on its
list is calm at the start, that is, passed over or up to date. Up to the first update no file
changes, so this does not depend on the switches of the run; and a batch that returns has set about
a write for each update in its report.
-/

set_option autoImplicit false
set_option relaxedAutoImplicit false

namespace Docblocks

open Docblocks.Schema (Descriptor)

/-- Nothing was updated and nothing failed. -/
def Report.Calm (report : Report) : Prop :=
  report.updated = [] ∧ report.errors = []

namespace Run

variable {r r' : Run} {disk : Disk} {name : Text} {w w' : World} {ds : List Descriptor}
  {v : Verdict} {report : Report}

/-! ## Calm batches -/

/-- An entry that is neither an update nor a failure. -/
def Verdict.Calm : Verdict → Prop
  | .unchanged => True
  | .skipped _ => True
  | _ => False

theorem Verdict.Calm.quiet (h : v.Calm) : v.Quiet := by
  cases v with
  | updated => exact h
  | unchanged => trivial
  | skipped s => trivial
  | failed f => exact h.elim

theorem Verdict.Calm.ne_updated (h : v.Calm) : v ≠ .updated := by
  rintro rfl
  exact h

theorem not_calm_of_unwritten (h : v.Unwritten) : ¬v.Calm := by
  cases v with
  | failed f => exact id
  | _ => exact h.elim

theorem calm_enter : (enter report name v).Calm ↔ report.Calm ∧ v.Calm := by
  cases v with
  | updated => simp [enter, Report.Calm, Verdict.Calm]
  | unchanged => simp [enter, Report.Calm, Verdict.Calm]
  | skipped s => simp [enter, Report.Calm, Verdict.Calm]
  | failed f => simp [enter, Report.Calm, Verdict.Calm]

theorem calm_enterAll {v : Text → Verdict} :
    (enterAll v report ds).Calm ↔ report.Calm ∧ ∀ d ∈ ds, (v d.name).Calm := by
  induction ds generalizing report with
  | nil => simp [enterAll]
  | cons d ds ih =>
    rw [enterAll, List.foldl_cons, ← enterAll, ih, calm_enter, List.forall_mem_cons, and_assoc]

/-- The classes of a batch with a calm report were calm on the disk that it started with. -/
theorem calm_of_annotateEach (h : r.annotateEach ds w = (.ok (), w')) (hcalm : w'.report.Calm) :
    w.report.Calm ∧ ∀ d ∈ ds, (r.verdict w.disk d.name).Calm := by
  induction ds generalizing w with
  | nil =>
    rw [annotateEach] at h
    cases h
    exact ⟨hcalm, by simp⟩
  | cons d ds ih =>
    obtain ⟨w₁, ha, htail⟩ := annotateEach_cons_ok h
    obtain ⟨hreport, hrest⟩ := ih htail
    obtain ⟨v, hentry, hv⟩ := ha.exists_entry
    rw [hentry, calm_enter] at hreport
    obtain ⟨hw, hcalm⟩ := hreport
    have hd : (r.verdict w.disk d.name).Calm := by
      rcases hv with rfl | ⟨-, hunwritten⟩
      · exact hcalm
      · exact absurd hcalm (not_calm_of_unwritten hunwritten)
    -- The first class was calm, so the others have found the disk as it was.
    have hdisk : w₁.disk = w.disk := (ha.idle hd.ne_updated).1
    rw [hdisk] at hrest
    exact ⟨hw, List.forall_mem_cons.mpr ⟨hd, hrest⟩⟩

/-- Every class on the worklist is calm on the disk. -/
def Calm (r : Run) (disk : Disk) : Prop :=
  ∀ d ∈ r.worklist, (r.verdict disk d.name).Calm

theorem batch_calm_iff :
    (∃ w', r.batch { disk := disk } = (.ok true, w') ∧ w'.report.Calm) ↔ r.Calm disk := by
  constructor
  · rintro ⟨w', h, hcalm⟩
    exact (calm_of_annotateEach (batch_eq_ok.mp h).2 hcalm).2
  · intro h
    obtain ⟨w', hrun, -, -, -, hreport⟩ :=
      annotateEach_of_quiet (w := { disk := disk }) fun d hd => (h d hd).quiet
    refine ⟨w', batch_eq_ok.mpr ⟨rfl, hrun⟩, ?_⟩
    rw [hreport, calm_enterAll]
    exact ⟨⟨rfl, rfl⟩, h⟩

theorem Alike.calm_iff (h : Alike r r') : r'.Calm disk ↔ r.Calm disk := by
  unfold Calm
  rw [h.worklist_eq, h.verdict_eq]

/-! ## Writes and updates -/

theorem Stepped.updated_length_le {e : Except Fault Bool} (hdry : r.dryRun = false)
    (h : Stepped r name w e w') (hw : w.report.updated.length ≤ w.edits.length) :
    w'.report.updated.length ≤ w'.edits.length := by
  cases h with
  | failed hx => exact hw
  | passed hx => exact hw
  | unmade hx hc => simpa [World.skip] using hw
  | kept hx hc => simpa [World.keep] using hw
  | planned hx hc hne hd =>
    rw [hdry] at hd
    cases hd
  | written hx hc hne hd hs => simpa [World.edit, enter] using hw
  | broken hx hc hne hd hs =>
    have hlonger := Nat.le_succ_of_le hw
    simpa [World.edit] using hlonger

/-- A batch that returns has set about a write for each update that it records. -/
theorem annotateEach_updated_length_le (hdry : r.dryRun = false)
    (h : r.annotateEach ds w = (.ok (), w')) (hw : w.report.updated.length ≤ w.edits.length) :
    w'.report.updated.length ≤ w'.edits.length := by
  induction ds generalizing w with
  | nil =>
    rw [annotateEach] at h
    cases h
    exact hw
  | cons d ds ih =>
    obtain ⟨w₁, ha, htail⟩ := annotateEach_cons_ok h
    obtain ⟨e, w₂, hs, hw₂⟩ := ha.exists_stepped
    have hstep := hs.updated_length_le hdry hw
    obtain rfl | ⟨f, rfl⟩ := hw₂
    · exact ih htail hstep
    · exact ih htail hstep

/-- A batch that returns has a calm report if and only if it fails on no class and writes nothing.
-/
theorem calm_iff_writes_eq_nil (hdry : r.dryRun = false)
    (h : r.batch { disk := disk } = (.ok true, w')) :
    w'.report.Calm ↔ w'.report.errors = [] ∧ w'.writes = [] := by
  have hrun := (batch_eq_ok.mp h).2
  constructor
  · intro hcalm
    have hquiet := (calm_of_annotateEach hrun hcalm).2
    obtain ⟨w₁, hrun₁, -, hedits, -⟩ :=
      annotateEach_of_quiet (w := { disk := disk }) fun d hd => (hquiet d hd).quiet
    rw [hrun] at hrun₁
    cases hrun₁
    exact ⟨hcalm.2, by rw [World.writes, hedits]; rfl⟩
  · rintro ⟨herrors, hwrites⟩
    have hlength := annotateEach_updated_length_le hdry hrun (Nat.le_refl 0)
    have hedits : w'.edits = [] := List.map_eq_nil_iff.mp hwrites
    rw [hedits, List.length_nil, Nat.le_zero, List.length_eq_zero_iff] at hlength
    exact ⟨hlength, herrors⟩

end Run

namespace Command

variable {r : Run} {w w' : World} {module? : Option Text}

/-! ## Exit codes -/

theorem checked_exit : (checked w).exit = .ok 0 ↔ w.report.Calm := by
  simp [checked, ended, Report.Calm]

theorem reported_exit : (reported r w).exit = .ok 0 ↔ w.report.errors = [] := by
  simp [reported, ended, Report.passed]

@[simp] theorem reported_world (r : Run) (w : World) : (reported r w).world = w := rfl

theorem reportMissing_exit {e : Ended} : e.reportMissing.exit = .ok 0 ↔ e.exit = .ok 0 := by
  unfold Ended.reportMissing
  split
  · next f he =>
    split
    · simp [he]
    · rfl
  · rfl

/-- The batch of a command line that may name a module. -/
def batchIn (r : Run) (module? : Option Text) (w : World) : Except Fault Bool × World :=
  match given? module? with
  | some module => r.annotateModule module w
  | none => r.annotateAll w

/-- The module that is named, if any, is allowed. -/
def Admits (settings : Settings) (module? : Option Text) : Prop :=
  ∀ module, given? module? = some module → settings.allowsModule module = true

theorem batchIn_eq_ok (hon : r.enabled = true) : batchIn r module? w = (.ok true, w') ↔
    Admits r.settings module? ∧ r.batch w = (.ok true, w') := by
  unfold batchIn Admits
  cases given? module? with
  | none => simp [Run.annotateAll_eq hon]
  | some module =>
    cases ha : r.settings.allowsModule module with
    | true => simp [Run.annotateModule, hon, ha]
    | false => simp [Run.annotateModule, ha]

theorem performCheck_exit (hon : r.enabled = true) : (performCheck r module? w).exit = .ok 0 ↔
    ∃ w', batchIn r module? w = (.ok true, w') ∧ w'.report.Calm := by
  unfold performCheck batchIn
  cases given? module? with
  | none =>
    -- Without a module the check does not ask whether the batch has run: it always has.
    dsimp only
    rw [Run.annotateAll_eq hon, Run.batch]
    rcases r.annotateEach r.worklist w with ⟨f | u, w'⟩
    · simp [ended]
    · simp [checked_exit]
  | some module =>
    dsimp only
    rcases r.annotateModule module w with ⟨f | _ | _, w'⟩
    · simp [ended]
    · simp [ended]
    · simp [checked_exit]

theorem performAnnotate_exit : (performAnnotate r module? none w).exit = .ok 0 ∧
      (performAnnotate r module? none w).world.writes = [] ↔
    ∃ w', batchIn r module? w = (.ok true, w') ∧ w'.report.errors = [] ∧ w'.writes = [] := by
  unfold performAnnotate batchIn
  rw [show given? none = none from rfl]
  cases given? module? with
  | none =>
    dsimp only
    unfold annotateEverything
    rcases r.annotateAll w with ⟨f | _ | _, w'⟩
    · simp [ended]
    · simp [ended]
    · simp [reported_exit, reported_world]
  | some module =>
    dsimp only
    unfold annotateIn
    rcases r.annotateModule module w with ⟨f | _ | _, w'⟩
    · simp [ended]
    · simp [ended]
    · simp [reported_exit, reported_world]

/-! ## Checks and annotations -/

variable {disk : Disk}

theorem performCheck_iff (hon : r.enabled = true) :
    (performCheck r module? { disk := disk }).exit = .ok 0 ↔
      Admits r.settings module? ∧ r.Calm disk := by
  rw [performCheck_exit hon, ← Run.batch_calm_iff]
  simp only [batchIn_eq_ok hon, and_assoc, exists_and_left]

theorem performAnnotate_iff (hon : r.enabled = true) (hdry : r.dryRun = false) :
    (performAnnotate r module? none { disk := disk }).exit = .ok 0 ∧
        (performAnnotate r module? none { disk := disk }).world.writes = [] ↔
      Admits r.settings module? ∧ r.Calm disk := by
  rw [performAnnotate_exit, ← Run.batch_calm_iff]
  simp only [batchIn_eq_ok hon, and_assoc, exists_and_left]
  exact and_congr_right fun _ => exists_congr fun w' => and_congr_right fun h =>
    (Run.calm_iff_writes_eq_nil hdry h).symm

/-- A check ends with exit code 0 if and only if a forced annotation with the same sources and the
same module would, on the same disk, end with exit code 0 and write nothing. -/
theorem check_agrees_with_forced_annotate {words words' : List Text} {sources : Sources}
    (hcheck : Invocation.read words = .ok ⟨sources, .check module?⟩)
    (hannotate : Invocation.read words' = .ok ⟨sources, .annotate module? none false true⟩)
    (env : Environment) (disk : Disk) (device device' : Disk.Device) :
    (execute words env disk device).exit = .ok 0 ↔
      (execute words' env disk device').exit = .ok 0 ∧
        (execute words' env disk device').world.writes = [] := by
  unfold execute
  rw [hcheck, hannotate]
  dsimp only
  rw [reportMissing_exit, reportMissing_exit, reportMissing_world]
  unfold Invocation.perform
  dsimp only
  cases loadSettings env disk sources.settings? with
  | error f => simp [ended]
  | ok settings =>
    dsimp only
    cases loadManifest env disk sources.manifest? with
    | error f => simp [ended]
    | ok classes =>
      have alike : Run.Alike (Task.run settings classes device (.check module?))
          (Task.run settings classes device' (.annotate module? none false true)) :=
        ⟨rfl, rfl, rfl⟩
      have hon : (Task.run settings classes device (.check module?)).enabled = true :=
        Run.enabled_iff.mpr (.inr rfl)
      have hon' :
          (Task.run settings classes device' (.annotate module? none false true)).enabled = true :=
        Run.enabled_iff.mpr (.inr rfl)
      dsimp only [Task.perform]
      rw [performCheck_iff hon, performAnnotate_iff hon' rfl, alike.calm_iff, alike.settings]

/-- The small project after its forced annotation. -/
def settledProject : Disk :=
  (smallRun.annotateAll { disk := smallProject }).2.disk

/-- The check of the small project fails; when the block is there it passes, and the annotation has
nothing to write any more. -/
theorem check_agrees_with_forced_annotate_project :
    (execute ["check".points] {} smallProject).exit = .ok 1 ∧
      (execute ["check".points] {} settledProject).exit = .ok 0 ∧
      (execute ["annotate".points, "--force".points] {} settledProject).exit = .ok 0 ∧
      (execute ["annotate".points, "--force".points] {} settledProject).world.writes = [] := by
  have hcheck : Invocation.read ["check".points] = .ok ⟨{}, .check none⟩ := rfl
  have hannotate : Invocation.read ["annotate".points, "--force".points] =
      .ok ⟨{}, .annotate none none false true⟩ := rfl
  have hstale : (execute ["check".points] {} smallProject).exit = .ok 1 := by
    decide +kernel
  have hsettled : (execute ["check".points] {} settledProject).exit = .ok 0 := by
    decide +kernel
  exact ⟨hstale, hsettled,
    (check_agrees_with_forced_annotate hcheck hannotate {} settledProject {} {}).mp hsettled⟩

end Command
end Docblocks
