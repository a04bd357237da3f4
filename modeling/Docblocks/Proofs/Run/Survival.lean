import Docblocks.Proofs.Run.Independence

/-!
Batches and the faults of their classes.

A batch goes on after a fault of markers, of a path, or of the system while a file is opened, read
or written. It ends when the file of a class holds bytes that are no text, when no tags can be made
of a schema, or when the tags have no bytes. Where none of this happens the batch returns, also when
classes share files, unless a file was cut off within a character. Where the classes have files of
their own, a class that fails leaves no trace but its fault, or, if its file could not be written,
what it has warned of and what is left of the file.
-/

set_option autoImplicit false
set_option relaxedAutoImplicit false

namespace Docblocks

open Docblocks.Schema (Descriptor)
open Docblocks.Text.Utf8 (Whole whole_append)

/-! ## Texts with bytes -/

theorem Block.whole_content {t c p u : Text} {o : Block.Outcome} (h : Block.upsert t c p = .ok o)
    (hu : o.content? = some u) (ht : Whole t) (hp : Whole p) : Whole u := by
  have hline : Whole (Block.closeLine p) := by
    unfold Block.closeLine
    split
    · exact hp
    · simpa using hp
  have hbody : Whole (Block.body p) := by
    simp [Block.body, Block.startMarker, Block.endMarker, hline]
  obtain ⟨-, rfl⟩ | ⟨-, a, x, d, rfl, -, -, -, rfl⟩ | ⟨-, -, -, rfl⟩ | ⟨-, -, a, d, hcut, rfl⟩ :=
    Block.upsert_cases h
  · cases hu
  · cases hu
    simp only [whole_append] at ht ⊢
    exact ⟨⟨ht.1.1.1.1, hbody⟩, ht.2⟩
  · cases hu
  · cases hu
    rw [Text.eq_append_of_cut? hcut] at ht
    simp only [whole_append] at ht
    simp [Block.fill_commentFrame, Block.comment, hbody, ht]

namespace Run

variable {r : Run} {disk : Disk} {name n : Text} {w w' : World} {t : Target} {d : Descriptor}
  {ds : List Descriptor} {f : Fault}

theorem whole_source {text : Text} (h : source disk t = .ok text) : Whole text := by
  unfold source at h
  split at h
  · cases h
  · split at h
    · cases h
    · cases h
      exact Text.Utf8.whole_ofChars _

/-- What a class makes of a text with a payload that has bytes has bytes itself. -/
theorem exists_bytes {x : Finding} {u : Text} (hx : r.examine disk name = .ok (.ok x))
    (hu : x.outcome.content? = some u)
    (hp : ∀ p, r.payload x.target.descriptor = .ok p → Whole p) :
    ∃ bytes, Text.Utf8.encode u = .ok bytes := by
  obtain ⟨-, hs, ho⟩ := examine_eq_ok.mp hx
  obtain ⟨p, hpayload, hup⟩ := upsert_eq_ok.mp ho
  have hwhole : Whole u := Block.whole_content hup hu (whole_source hs) (hp p hpayload)
  exact Text.Utf8.exists_encode_iff.mpr hwhole

/-! ## Sound classes -/

/-- Whether nothing can happen to a class that ends a batch: its file, if it has one, holds a text
or cannot be read, and its tags have bytes or cannot be made in a way that a batch contains. -/
def isSound (r : Run) (disk : Disk) (name : Text) : Bool :=
  match r.target disk name with
  | .ok (.ok t) =>
    (match source disk t with
      | .ok _ => true
      | .error f => contains f) &&
    match r.payload t.descriptor with
    | .ok p => (Text.Utf8.encode p).isOk
    | .error g => contains (.tags g)
  | _ => true

theorem isOk_encode_iff {p : Text} : (Text.Utf8.encode p).isOk = true ↔ Whole p := by
  rw [← Text.Utf8.exists_encode_iff]
  cases Text.Utf8.encode p with
  | error g => simp [Except.isOk, Except.toBool]
  | ok bytes => simp [Except.isOk, Except.toBool]

theorem isSound_iff (ht : r.target disk name = .ok (.ok t)) : r.isSound disk name = true ↔
    (∀ f, source disk t = .error f → contains f = true) ∧
      (∀ g, r.payload t.descriptor = .error g → contains (.tags g) = true) ∧
      ∀ p, r.payload t.descriptor = .ok p → Whole p := by
  unfold isSound
  rw [ht]
  dsimp only
  rw [Bool.and_eq_true]
  apply and_congr
  · cases source disk t with
    | error f => simp
    | ok text => simp
  · cases r.payload t.descriptor with
    | error g => simp
    | ok p => simp [isOk_encode_iff]

/-- What a sound class fails on is contained by a batch. -/
theorem Stepped.contains_of_sound (h : Stepped r name w (.error f) w')
    (hsound : r.isSound w.disk name = true) : contains f = true := by
  cases h with
  | failed hx =>
    rcases examine_eq_error.mp hx with ht | ⟨t, ht, hs⟩
    · obtain ⟨g, rfl, hg⟩ := target_eq_error ht
      exact hg
    · obtain ⟨hsource, htags, -⟩ := (isSound_iff ht).mp hsound
      rcases hs with hs | ⟨text, -, ho⟩
      · exact hsource f hs
      · rcases upsert_eq_error.mp ho with ⟨g, hg, rfl⟩ | ⟨p, g, -, -, rfl⟩
        · exact htags g hg
        · rfl
  | @broken x u _ left? hx hu hne hd hs =>
    rcases Disk.Device.save_eq_error hs with ⟨e, rfl⟩ | ⟨g, hg, -, -⟩
    · rfl
    · obtain ⟨-, -, hwhole⟩ := (isSound_iff (examine_eq_ok.mp hx).1).mp hsound
      obtain ⟨bytes, hb⟩ := exists_bytes hx hu hwhole
      rw [hb] at hg
      cases hg

/-! ## Files that classes share -/

/-- Where a text is put into the file of a class, it can be read or the system refuses it. -/
theorem contains_of_source_write {bytes : Bytes} {u : Text} (ht : r.target disk n = .ok (.ok t))
    (he : Text.Utf8.encode u = .ok bytes) (h : source (disk.write t.place bytes) t = .error f) :
    contains f = true := by
  have hfile : (disk.write t.place bytes).file? t.path = .ok (some t.place) := by
    rw [Disk.file?_write (hasFile_of_target ht), file?_of_target ht]
  unfold source at h
  split at h
  · next g hg =>
    cases h
    exact Disk.read_eq_error hfile hg
  · next b hb =>
    obtain ⟨-, hentry⟩ := (Disk.read_eq_ok hfile).mp hb
    rw [Disk.entry?_write (hasFile_of_target ht), if_pos rfl] at hentry
    cases hentry
    obtain ⟨cs, hcs, -⟩ := Text.Utf8.decode_of_encode he
    rw [hcs] at h
    cases h

/-- A class that a step leaves with another text finds a text, also in a file that classes share. -/
theorem contains_of_source_leave {left? : Option Bytes} {place : Disk.Place}
    (ht : r.target disk n = .ok (.ok t)) (hf : disk.HasFile place)
    (hleft : ∀ bytes, left? = some bytes → t.place = place →
      ∃ u, Text.Utf8.encode u = .ok bytes)
    (hs : ∀ f, source disk t = .error f → contains f = true)
    (h : source (disk.leave place left?) t = .error f) : contains f = true := by
  by_cases hp : t.place = place
  · subst hp
    cases left? with
    | none => exact hs f h
    | some bytes =>
      obtain ⟨u, hu⟩ := hleft bytes rfl rfl
      exact contains_of_source_write ht hu h
  · rw [source_leave_of_ne hf ht hp] at h
    exact hs f h

/-- No two classes have the file at a place, or no file is cut off within a character. -/
def Spares (r : Run) (disk : Disk) (n name : Text) : Prop :=
  r.device.LeavesText ∨ ∀ t t', r.target disk n = .ok (.ok t) →
    r.target disk name = .ok (.ok t') → t.place ≠ t'.place

theorem Stepped.source_sound {e : Except Fault Bool} (h : Stepped r name w e w')
    (hspares : r.Spares w.disk n name) (ht : r.target w.disk n = .ok (.ok t))
    (hs : ∀ f, source w.disk t = .error f → contains f = true) (hf : source w'.disk t = .error f) :
    contains f = true := by
  rcases h.idle_or_saved with ⟨hdisk, -⟩ | ⟨x, u, left?, hsaved⟩
  · rw [hdisk] at hf
    exact hs f hf
  · rw [hsaved.disk] at hf
    apply contains_of_source_leave ht (hasFile_of_target hsaved.target) ?_ hs hf
    rintro bytes rfl hp
    rcases hspares with hleaves | hne
    · obtain ⟨a, hsave, -⟩ := hsaved.answer
      exact hleaves.exists_encode hsave
    · exact absurd hp (hne t x.target ht hsaved.target)

theorem Advanced.isSound (h : Advanced r name w w') (hspares : r.Spares w.disk n name)
    (hn : r.isSound w.disk n = true) : r.isSound w'.disk n = true := by
  cases ht' : r.target w'.disk n with
  | error f => rw [Run.isSound, ht']
  | ok e =>
    cases e with
    | error s => rw [Run.isSound, ht']
    | ok t =>
      have ht : r.target w.disk n = .ok (.ok t) := by rw [← h.target_eq, ht']
      obtain ⟨hsource, hpayload⟩ := (isSound_iff ht).mp hn
      refine (isSound_iff ht').mpr ⟨?_, hpayload⟩
      intro f hf
      obtain ⟨e, w₁, hs, rfl | ⟨g, rfl⟩⟩ := h.exists_stepped
      · exact hs.source_sound hspares ht hsource hf
      · exact hs.source_sound hspares ht hsource hf

/-- A batch of sound classes returns if they have files of their own, and also when they share files
if none is cut off within a character. -/
theorem annotateEach_of_sound (h : ∀ d ∈ ds, r.isSound w.disk d.name = true)
    (hspares : r.device.LeavesText ∨ r.OwnFiles w.disk ds) :
    ∃ w', r.annotateEach ds w = (.ok (), w') := by
  induction ds generalizing w with
  | nil => exact ⟨w, rfl⟩
  | cons d ds ih =>
    have hd := h d List.mem_cons_self
    rcases annotateEach_cons r d ds w with ⟨w₁, ha, he⟩ | ⟨f, w₁, hs, hf, -⟩
    · rw [he]
      apply ih
      · intro d' hd'
        refine ha.isSound (hspares.imp_right fun hown => ?_) (h d' (List.mem_cons_of_mem d hd'))
        exact hown.place_ne hd'
      · exact hspares.imp_right fun hown => hown.advance ha
    · rw [hs.contains_of_sound hd] at hf
      cases hf

/-! ## Classes that fail -/

/-- The classes of a list that do not fail on their own. -/
def succeeding (r : Run) (disk : Disk) (ds : List Descriptor) : List Descriptor :=
  ds.filter fun d => (r.fault? disk d.name).isNone

/-- The entries of the classes of a list that fail on their own. -/
def failures (r : Run) (disk : Disk) (ds : List Descriptor) : List (Text × Fault) :=
  ds.filterMap fun d => (r.fault? disk d.name).map fun f => (d.name, f)

/-- Whether a class fails on its own because the system lets its file not be written. -/
def isRefused (r : Run) (disk : Disk) (name : Text) : Bool :=
  (r.fault? disk name).any Fault.isUnwritten

/-- The effect of the classes on a list, and of those of them that do not fail: the faults of the
others are in the report, and all else that they do comes of files that the system lets not be
written. -/
structure Outlasts (r : Run) (disk : Disk) (ds : List Descriptor) (e rest : Effect) : Prop where
  errors : rest.report.errors = []
  report : e.report = { rest.report with errors := r.failures disk ds }
  notices : e.notices = rest.notices
  warnings : rest.warnings = e.warnings.filter fun x => !r.isRefused disk x.className
  files : ∀ {q}, (∀ d ∈ ds, r.isRefused disk d.name = true → r.place? disk d.name ≠ some q) →
    ∀ start : Disk, Disk.entry? (start.leaveAll e.edits) q =
      Disk.entry? (start.leaveAll rest.edits) q

/-- A class that does not fail does the same beside the classes that fail. -/
theorem Outlasts.keep {e rest : Effect} (h : r.Outlasts disk ds e rest)
    (hf : r.fault? disk d.name = none) :
    r.Outlasts disk (d :: ds) (r.share disk d.name ++ e) (r.share disk d.name ++ rest) := by
  have hself : (r.share disk d.name).report.errors = [] := by
    rw [share_of_no_fault hf, effectOf_errors]
  have hfail : r.failures disk (d :: ds) = r.failures disk ds := by simp [failures, hf]
  have hheard : ∀ x ∈ (r.share disk d.name).warnings, (!r.isRefused disk x.className) = true := by
    intro x hx
    rw [className_of_share hx, isRefused, hf]
    rfl
  constructor
  · rw [Effect.report_append, Report.errors_append, hself, h.errors]
    rfl
  · rw [hfail, Effect.report_append, Effect.report_append, h.report]
    change Report.mk _ _ _ (_ ++ _) = _
    rw [hself]
    rfl
  · rw [Effect.notices_append, Effect.notices_append, h.notices]
  · rw [Effect.warnings_append, Effect.warnings_append, List.filter_append,
      List.filter_eq_self.mpr hheard, h.warnings]
  · intro q hq start
    rw [Effect.edits_append, Effect.edits_append, Disk.leaveAll_append, Disk.leaveAll_append]
    exact h.files (fun d' hd' => hq d' (List.mem_cons_of_mem d hd')) _

/-- A class that fails in a way that a batch contains does nothing to what the others do. -/
theorem Outlasts.drop {e rest : Effect} (h : r.Outlasts disk ds e rest)
    (hf : r.fault? disk d.name = some f) (hcontained : contains f = true) :
    r.Outlasts disk (d :: ds) (r.share disk d.name ++ e) rest := by
  have hfail : r.failures disk (d :: ds) = (d.name, f) :: r.failures disk ds := by
    simp [failures, hf]
  obtain ⟨hreport, hnotices⟩ := share_of_fault hf
  have idle : r.isRefused disk d.name = false →
      r.share disk d.name = { report := { errors := [(d.name, f)] } } := by
    intro hrefused
    rw [isRefused, hf] at hrefused
    exact share_of_contained hf hcontained hrefused
  constructor
  · exact h.errors
  · rw [hfail, Effect.report_append, hreport, h.report]
    rfl
  · rw [Effect.notices_append, hnotices, h.notices]
    rfl
  · have hsilent : (r.share disk d.name).warnings.filter
        (fun x => !r.isRefused disk x.className) = [] := by
      cases hrefused : r.isRefused disk d.name with
      | false =>
        rw [idle hrefused]
        rfl
      | true =>
        rw [List.filter_eq_nil_iff]
        intro x hx
        rw [className_of_share hx, hrefused]
        decide
    rw [Effect.warnings_append, List.filter_append, hsilent, h.warnings]
    rfl
  · intro q hq start
    have hsame : Disk.entry? (start.leaveAll (r.share disk d.name).edits) q = start.entry? q := by
      cases hrefused : r.isRefused disk d.name with
      | false =>
        rw [idle hrefused]
        rfl
      | true =>
        apply Disk.entry?_leaveAll_of_not_mem
        intro hmem
        have hplace := (share_edits r disk d.name).subset hmem
        exact hq d List.mem_cons_self hrefused (by simpa using hplace)
    rw [Effect.edits_append, Disk.leaveAll_append,
      h.files fun d' hd' => hq d' (List.mem_cons_of_mem d hd')]
    exact Disk.entry?_leaveAll_congr hsame rest.edits

theorem outlasts_shares (h : ∀ d ∈ ds, r.Bearable disk d.name) :
    r.Outlasts disk ds (r.shares disk ds) (r.shares disk (r.succeeding disk ds)) := by
  induction ds with
  | nil => exact ⟨rfl, rfl, rfl, rfl, fun _ _ => rfl⟩
  | cons d ds ih =>
    have hrest := ih fun d' hd' => h d' (List.mem_cons_of_mem d hd')
    cases hf : r.fault? disk d.name with
    | some f =>
      have hlist : r.succeeding disk (d :: ds) = r.succeeding disk ds := by simp [succeeding, hf]
      rw [hlist]
      exact hrest.drop hf (h d List.mem_cons_self f hf)
    | none =>
      have hlist : r.succeeding disk (d :: ds) = d :: r.succeeding disk ds := by
        simp [succeeding, hf]
      rw [hlist]
      exact hrest.keep hf

/-! ## The whole batch -/

/-- A batch of sound classes returns if they have files of their own, and also when they share files
if none is cut off within a character. If the classes have files of their own and the device is
steady, the batch returns exactly when each class that fails on its own does so in a way that a
batch contains. Each of these has one entry among the faults, and the others do and record what they
would if the list did not hold these; what they do not do themselves are the warnings of the classes
whose files could not be written, and what is left of these files. -/
theorem batch_goes_on_after_contained_faults (r : Run) (disk : Disk) (hon : r.enabled = true) :
    ((∀ d ∈ r.worklist, r.isSound disk d.name = true) →
      r.device.LeavesText ∨ r.OwnFiles disk r.worklist →
      ∃ w, r.annotateAll { disk := disk } = (.ok true, w)) ∧
    (r.device.Steady → r.OwnFiles disk r.worklist →
      ((∃ w, r.annotateAll { disk := disk } = (.ok true, w)) ↔
        ∀ d ∈ r.worklist, r.Bearable disk d.name) ∧
      ∀ w, r.annotateAll { disk := disk } = (.ok true, w) →
        w.report.errors = r.failures disk r.worklist ∧
        ∃ v, r.annotateEach (r.succeeding disk r.worklist) { disk := disk } = (.ok (), v) ∧
          v.report.errors = [] ∧
          w.report = { v.report with errors := w.report.errors } ∧ w.notices = v.notices ∧
          v.warnings = w.warnings.filter (fun x => !r.isRefused disk x.className) ∧
          ∀ q, (∀ d ∈ r.worklist, r.isRefused disk d.name = true →
              r.place? disk d.name ≠ some q) →
            w.disk.entry? q = v.disk.entry? q) := by
  have hreturns : ∀ w, r.annotateAll { disk := disk } = (.ok true, w) ↔
      r.annotateEach r.worklist { disk := disk } = (.ok (), w) := by
    intro w
    rw [annotateAll_eq hon, batch_eq_ok]
    simp only [true_and]
  constructor
  · intro hsound hspares
    obtain ⟨w, hw⟩ := annotateEach_of_sound (w := { disk := disk }) hsound hspares
    exact ⟨w, (hreturns w).mpr hw⟩
  · intro hsteady hown
    have hbatch : ∀ w', r.annotateEach r.worklist { disk := disk } = (.ok (), w') ↔
        (∀ d ∈ r.worklist, r.Bearable disk d.name) ∧
          w' = World.apply { disk := disk } (r.shares disk r.worklist) :=
      fun _ => annotateEach_eq_ok_iff hsteady hown
    refine ⟨⟨?_, ?_⟩, ?_⟩
    · rintro ⟨w, hw⟩
      exact ((hbatch w).mp ((hreturns w).mp hw)).1
    · intro hbear
      exact ⟨_, (hreturns _).mpr ((hbatch _).mpr ⟨hbear, rfl⟩)⟩
    · intro w hw
      obtain ⟨hbear, rfl⟩ := (hbatch w).mp ((hreturns w).mp hw)
      have houtlasts := outlasts_shares hbear
      have hkept : r.OwnFiles disk (r.succeeding disk r.worklist) :=
        hown.sublist List.filter_sublist
      have hrun := (annotateEach_eq_ok_iff (w := { disk := disk }) hsteady hkept).mpr
        ⟨fun d hd => hbear d (List.mem_of_mem_filter hd), rfl⟩
      have herrors : (r.shares disk r.worklist).report.errors = r.failures disk r.worklist := by
        rw [houtlasts.report]
      refine ⟨herrors, _, hrun, houtlasts.errors, ?_, houtlasts.notices, houtlasts.warnings, ?_⟩
      · change (r.shares disk r.worklist).report = { (r.shares disk _).report with
          errors := (r.shares disk r.worklist).report.errors }
        rw [herrors]
        exact houtlasts.report
      · intro q hq
        exact houtlasts.files hq disk

/-- All classes are sound, so that the batch goes on after the one with inverted markers. -/
theorem batch_goes_on_after_contained_faults_mixed :
    (∀ d ∈ mixedRun.worklist, mixedRun.isSound mixedDisk d.name = true) ∧
      ∃ w, mixedRun.annotateAll { disk := mixedDisk } = (.ok true, w) ∧
        w.report.errors = mixedRun.failures mixedDisk mixedRun.worklist ∧
        (mixedRun.failures mixedDisk mixedRun.worklist).map Prod.fst = ["Tag".points] := by
  have hsound : ∀ d ∈ mixedRun.worklist, mixedRun.isSound mixedDisk d.name = true := by
    decide +kernel
  obtain ⟨hreturns, hown⟩ := batch_goes_on_after_contained_faults mixedRun mixedDisk rfl
  obtain ⟨w, hw⟩ := hreturns hsound (.inr mixed_ownFiles)
  exact ⟨hsound, w, hw, ((hown mixed_steady mixed_ownFiles).2 w hw).1, by decide +kernel⟩

/-- The classes of the mixed run, in the other order. -/
def brokenRun : Run := { mixedRun with classes := mixedRun.classes.reverse }

/-- The files of the mixed run, of which one holds a byte that begins no character. -/
def brokenDisk : Disk := mixedDisk.write ["tag".points] [0xFF]

/-- A file that holds no text ends the batch: its class has no entry among the faults, and the next
class is not written, although alone it would be. -/
theorem undecodable_file_ends_batch :
    brokenRun.enabled = true ∧ brokenRun.OwnFiles brokenDisk brokenRun.worklist ∧
      (¬∃ w, brokenRun.annotateAll { disk := brokenDisk } = (.ok true, w)) ∧
      (brokenRun.annotateAll { disk := brokenDisk }).2.report.errors = [] ∧
      (brokenRun.annotateAll { disk := brokenDisk }).2.report.updated = [] ∧
      (brokenRun.alone brokenDisk "Page".points).report.updated = ["Page".points] := by
  have hends : (brokenRun.annotateAll { disk := brokenDisk }).1.toOption = none := by
    decide +kernel
  refine ⟨rfl, by decide +kernel, ?_, by decide +kernel, by decide +kernel, by decide +kernel⟩
  rintro ⟨w, hw⟩
  rw [hw] at hends
  cases hends

end Run
end Docblocks
