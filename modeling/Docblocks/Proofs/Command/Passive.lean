import Docblocks.Command.Execute
import Docblocks.Proofs.Run.Permitted

/-!
What command lines write.

A task makes at most one call of its run, so a command line writes what this call writes. Tasks that
only look, those that are dry, and annotations while generation is off write nothing.
-/

set_option autoImplicit false
set_option relaxedAutoImplicit false

namespace Docblocks.Command

open Docblocks.Run (Call)

variable {r : Run} {w : World} {settings : Settings} {classes : List Schema.Descriptor}
  {device : Disk.Device}

/-! ## The call of a task -/

theorem reportMissing_world (e : Ended) : e.reportMissing.world = e.world := by
  unfold Ended.reportMissing
  split
  · split
    · rfl
    · rfl
  · rfl

theorem annotateIn_world (r : Run) (module : Text) (w : World) :
    (annotateIn r module w).world = (r.call (.annotateModule module) w).2 := by
  rw [annotateIn, Run.call]
  rcases r.annotateModule module w with ⟨f | _ | _, w'⟩ <;> rfl

theorem annotateEverything_world (r : Run) (w : World) :
    (annotateEverything r w).world = (r.call .annotateAll w).2 := by
  rw [annotateEverything, Run.call]
  rcases r.annotateAll w with ⟨f | _ | _, w'⟩ <;> rfl

theorem stripOne_world (r : Run) (name : Text) (w : World) :
    (stripOne r name w).world = (r.call (.stripClass name) w).2 := by
  rw [stripOne, Run.call]
  rcases r.stripClass name w with ⟨f | _ | _, w'⟩ <;> rfl

/-- A class is not touched while generation is off. -/
theorem annotateOne_world (r : Run) (name : Text) (w : World) :
    (annotateOne r name w).world =
      if r.enabled then (r.call (.annotateClass name) w).2 else w := by
  unfold annotateOne
  split
  · rw [Run.call]
    rcases r.annotateClass name w with ⟨f | _ | _, w'⟩
    · dsimp only
      split
      · rfl
      · rfl
    · rfl
    · rfl
  · rfl

theorem performCheck_world (r : Run) (module? : Option Text) (w : World) :
    ∃ c, (performCheck r module? w).world = (r.call c w).2 := by
  unfold performCheck
  split
  · next module _ =>
    refine ⟨.annotateModule module, ?_⟩
    rw [Run.call]
    rcases r.annotateModule module w with ⟨f | _ | _, w'⟩ <;> rfl
  · refine ⟨.annotateAll, ?_⟩
    rw [Run.call]
    rcases r.annotateAll w with ⟨f | _, w'⟩ <;> rfl

theorem performClasses_world (r : Run) (module? : Option Text) (w : World) :
    (performClasses r module? w).world = w := by
  unfold performClasses
  dsimp only
  split
  · rfl
  · rfl

/-! ## Tasks that write nothing -/

/-- A task that is not to write under the settings. -/
def Task.Passive (settings : Settings) : Task → Prop
  | .annotate _ _ dryRun force => dryRun = true ∨ force = false ∧ settings.enabled = false
  | .check _ => True
  | .classes _ => True
  | .strip _ dryRun => dryRun = true

theorem performAnnotate_idle {module? className? : Option Text}
    (h : r.dryRun = true ∨ r.enabled = false) (w : World) :
    (performAnnotate r module? className? w).world.writes = w.writes ∧
      (performAnnotate r module? className? w).world.disk = w.disk := by
  have unlicensed : r.enabled = false → ¬(r.settings.enabled = true ∨ r.force = true) := by
    intro hoff hon
    rw [Run.enabled_iff.mpr hon] at hoff
    cases hoff
  unfold performAnnotate
  split
  · -- The call for one class needs no licence: the command itself asks whether generation is on.
    rw [annotateOne_world]
    split
    · next hon =>
      have hdry : r.dryRun = true := h.resolve_right (by simp [hon])
      exact Run.call_idle (.inl hdry) w
    · exact ⟨rfl, rfl⟩
  · rw [annotateIn_world]
    apply Run.call_idle
    exact h.imp_right fun hoff hon => unlicensed hoff hon.1
  · rw [annotateEverything_world]
    apply Run.call_idle
    exact h.imp_right fun hoff hon => unlicensed hoff hon

theorem perform_idle {t : Task} (h : t.Passive settings) (w : World) :
    (t.perform (t.run settings classes device) w).world.writes = w.writes ∧
      (t.perform (t.run settings classes device) w).world.disk = w.disk := by
  cases t with
  | annotate module? className? dryRun force =>
    apply performAnnotate_idle
    rcases h with h | ⟨hforce, hoff⟩
    · exact .inl h
    · exact .inr (by simp [Task.run, Run.enabled, hforce, hoff])
  | check module? =>
    obtain ⟨c, hc⟩ :=
      performCheck_world (Task.run settings classes device (.check module?)) module? w
    rw [Task.perform, hc]
    exact Run.call_idle (.inl rfl) w
  | classes module? =>
    rw [Task.perform, performClasses_world]
    exact ⟨rfl, rfl⟩
  | strip className? dryRun =>
    cases className? with
    | none => exact ⟨rfl, rfl⟩
    | some name =>
      have hdry : (Task.run settings classes device (.strip (some name) dryRun)).dryRun = true := h
      rw [Task.perform, performStrip, stripOne_world]
      exact Run.call_idle (.inl hdry) w

theorem invocation_idle {i : Invocation} {env : Environment} {disk : Disk}
    (h : ∀ s, loadSettings env disk i.sources.settings? = .ok s → i.task.Passive s) :
    (i.perform env disk device).world.writes = [] ∧
      (i.perform env disk device).world.disk = disk := by
  unfold Invocation.perform
  dsimp only
  split
  · exact ⟨rfl, rfl⟩
  · next settings hs =>
    split
    · exact ⟨rfl, rfl⟩
    · exact perform_idle (h settings hs) { disk := disk }

/-- Only permitted files are ever written: in any sequence of calls each one obeys the settings, and
a command line whose task is passive leaves the disk as it is. -/
theorem only_permitted_files_are_written :
    (∀ (r : Run) (disk : Disk) (earlier : List Call) (c : Call),
      r.Obeys disk c (r.after earlier { disk := disk })
        (r.call c (r.after earlier { disk := disk })).2) ∧
    ∀ (words : List Text) (env : Environment) (disk : Disk) (device : Disk.Device),
      (∀ i s, Invocation.read words = .ok i →
        loadSettings env disk i.sources.settings? = .ok s → i.task.Passive s) →
      (execute words env disk device).world.writes = [] ∧
        (execute words env disk device).world.disk = disk := by
  refine ⟨Run.call_obeys, ?_⟩
  intro words env disk device hpassive
  unfold execute
  split
  · next refusal _ =>
    unfold Refusal.answer
    split
    · exact ⟨rfl, rfl⟩
    · exact ⟨rfl, rfl⟩
  · next i hi =>
    rw [reportMissing_world]
    exact invocation_idle fun s hs => hpassive i s hi hs

/-- A project without settings, with one class whose file holds no block yet. -/
def smallProject : Disk where
  entries := [(["annotator-manifest.yaml".points], .file (Disk.textBytes
      ("classes: [\x7bname: Page, module: mysite, file: page.php, ".points ++
        "db: \x7bTitle: Text\x7d\x7d]".points))),
    (["page.php".points], .file (Disk.textBytes "class Page extends DataObject".points))]
  here := []

private def smallPage : Schema.Descriptor where
  name := "Page".points
  module := "mysite".points
  file? := some ⟨.root, ["page.php".points]⟩
  db := [(.text "Title".points, .text "Text".points)]

/-- The run of a forced annotation of the project. -/
def smallRun : Run where
  settings := {}
  classes := [smallPage]
  force := true

/-- A batch after a strip writes the one file, which is permitted; an annotation that is not forced
writes nothing, since generation is off. -/
theorem only_permitted_files_are_written_project :
    (smallRun.call .annotateAll
        (smallRun.after [.stripClass "Page".points] { disk := smallProject })).2.writes =
      [["page.php".points]] ∧
    smallRun.Permitted smallProject ["page.php".points] ∧
    (execute ["annotate".points] {} smallProject).world.disk = smallProject := by
  obtain ⟨hcalls, hlines⟩ := only_permitted_files_are_written
  have hwrites : (smallRun.call .annotateAll
      (smallRun.after [.stripClass "Page".points] { disk := smallProject })).2.writes =
        [["page.php".points]] := by
    decide +kernel
  have hbefore :
      (smallRun.after [.stripClass "Page".points] { disk := smallProject }).writes = [] := by
    decide +kernel
  obtain ⟨written, happend, hpermitted, -⟩ :=
    hcalls smallRun smallProject [.stripClass "Page".points] .annotateAll
  have hmem : ["page.php".points] ∈ written := by
    rw [hwrites, hbefore, List.nil_append] at happend
    rw [← happend]
    exact List.mem_cons_self
  have hread : Invocation.read ["annotate".points] =
      .ok ⟨{}, .annotate none none false false⟩ := rfl
  have hsettings : loadSettings {} smallProject none = .ok {} := rfl
  have hpassive : ∀ i s, Invocation.read ["annotate".points] = .ok i →
      loadSettings {} smallProject i.sources.settings? = .ok s → i.task.Passive s := by
    intro i s hi hs
    rw [hread] at hi
    cases hi
    rw [hsettings] at hs
    cases hs
    exact .inr ⟨rfl, rfl⟩
  exact ⟨hwrites, (hpermitted _ hmem).2.1, (hlines _ {} smallProject {} hpassive).2⟩

end Docblocks.Command
