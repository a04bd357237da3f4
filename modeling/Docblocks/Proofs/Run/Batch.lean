import Docblocks.Proofs.Block.Repetition
import Docblocks.Proofs.Run.Step

/-!
What a batch does to the files of its classes.

A batch that goes on advances class by class, either through a step that succeeds or over a fault
that concerns the class alone. When classes of different names have different files and every file
can be written, the file of a class is rewritten once, however often its name stands on the list.
-/

set_option autoImplicit false
set_option relaxedAutoImplicit false

namespace Docblocks

/-- No class has failed because the system let its file not be written. -/
def Report.AllWritten (report : Report) : Prop :=
  ∀ e ∈ report.errors, e.2.isUnwritten = false

namespace Run

open Docblocks.Schema (Descriptor)

variable {r : Run} {disk : Disk} {name n text u : Text} {w w' : World} {t : Target}
  {d : Descriptor} {ds : List Descriptor} {o : Block.Outcome} {f : Fault}

/-! ## Rewriting twice -/

theorem upsert_eq_ok : r.upsert name d text = .ok o ↔
    ∃ p, r.payload d = .ok p ∧ Block.upsert text name p = .ok o := by
  unfold upsert
  cases r.payload d with
  | error f => simp
  | ok p =>
    cases hp : Block.upsert text name p with
    | error f => simp [hp]
    | ok o => simp [hp]

theorem upsert_eq_error : r.upsert name d text = .error f ↔
    (∃ g, r.payload d = .error g ∧ f = .tags g) ∨
      ∃ p g, r.payload d = .ok p ∧ Block.upsert text name p = .error g ∧ f = .block g := by
  unfold upsert
  cases r.payload d with
  | error g => simp [eq_comm]
  | ok p =>
    cases hp : Block.upsert text name p with
    | error g => simp [hp, eq_comm]
    | ok o => simp [hp]

/-- What a batch that goes on does for a class. In the last way the system lets the file not be
written, which leaves it as it is or cut off. -/
inductive Advanced (r : Run) (name : Text) (w : World) : World → Prop
  | done {b : Bool} {w' : World} : Stepped r name w (.ok b) w' → Advanced r name w w'
  | noted {f : Fault} : r.examine w.disk name = .error f → contains f = true →
      Advanced r name w (w.fail name f)
  | torn {f : Fault} {w' : World} : Stepped r name w (.error f) w' → f.isUnwritten = true →
      r.verdict w.disk name = .updated → Advanced r name w (w'.fail name f)

theorem contains_of_isUnwritten (h : f.isUnwritten = true) : contains f = true := by
  cases f with
  | unwritten path e => rfl
  | _ => cases h

/-- A batch goes on after a class, or ends there with a fault that it does not contain. -/
theorem annotateEach_cons (r : Run) (d : Descriptor) (ds : List Descriptor) (w : World) :
    (∃ w₁, Advanced r d.name w w₁ ∧ r.annotateEach (d :: ds) w = r.annotateEach ds w₁) ∨
      ∃ f w₁, Stepped r d.name w (.error f) w₁ ∧ contains f = false ∧
        r.annotateEach (d :: ds) w = (.error f, w₁) := by
  have hstep := stepped_annotateClass r d.name w
  rw [annotateEach]
  generalize r.annotateClass d.name w = s at hstep ⊢
  obtain ⟨e, w₁⟩ := s
  cases e with
  | ok b => exact .inl ⟨w₁, .done hstep, rfl⟩
  | error f =>
    cases hf : contains f with
    | false => exact .inr ⟨f, w₁, hstep, hf, by simp [hf]⟩
    | true =>
      refine .inl ⟨w₁.fail d.name f, ?_, by simp [hf]⟩
      cases hstep with
      | failed hx => exact .noted hx hf
      | broken hx hu hne hd hs =>
        -- A text without bytes is no fault of the class alone, so the system has let it fail.
        rcases Disk.Device.save_eq_error hs with ⟨e, rfl⟩ | ⟨g, -, rfl, -⟩
        · exact .torn (.broken hx hu hne hd hs) rfl (verdict_of_ne hx hu hne)
        · cases hf

/-- A batch that returns has gone on after its first class. -/
theorem annotateEach_cons_ok (h : r.annotateEach (d :: ds) w = (.ok (), w')) :
    ∃ w₁, Advanced r d.name w w₁ ∧ r.annotateEach ds w₁ = (.ok (), w') := by
  rcases annotateEach_cons r d ds w with ⟨w₁, ha, he⟩ | ⟨f, w₁, -, -, he⟩
  · exact ⟨w₁, ha, he.symm.trans h⟩
  · rw [he] at h
    cases h

/-- A batch goes on after a step that succeeds, or it puts the fault of the step on record. -/
theorem Advanced.done_or_failed (h : Advanced r name w w') :
    (∃ b, Stepped r name w (.ok b) w') ∨
      ∃ f w₁, Stepped r name w (.error f) w₁ ∧ contains f = true ∧ w' = w₁.fail name f := by
  cases h with
  | done hs => exact .inl ⟨_, hs⟩
  | noted hx hf => exact .inr ⟨_, _, .failed hx, hf, rfl⟩
  | torn hs hf hv => exact .inr ⟨_, _, hs, contains_of_isUnwritten hf, rfl⟩

theorem Advanced.exists_stepped (h : Advanced r name w w') :
    ∃ e w₁, Stepped r name w e w₁ ∧ (w' = w₁ ∨ ∃ f, w' = w₁.fail name f) := by
  rcases h.done_or_failed with ⟨b, hs⟩ | ⟨f, w₁, hs, -, hw⟩
  · exact ⟨_, _, hs, .inl rfl⟩
  · exact ⟨_, _, hs, .inr ⟨f, hw⟩⟩

theorem Advanced.target_eq (h : Advanced r name w w') (n : Text) :
    r.target w'.disk n = r.target w.disk n := by
  obtain ⟨e, w₁, hs, rfl | ⟨f, rfl⟩⟩ := h.exists_stepped
  · exact hs.target_eq n
  · exact hs.target_eq n

theorem Advanced.source_eq_of_ne (h : Advanced r name w w') (hn : r.target w.disk n = .ok (.ok t))
    (hne : ∀ u, r.target w.disk name = .ok (.ok u) → t.place ≠ u.place) :
    source w'.disk t = source w.disk t := by
  obtain ⟨e, w₁, hs, rfl | ⟨f, rfl⟩⟩ := h.exists_stepped
  · exact hs.source_eq_of_ne hn hne
  · exact hs.source_eq_of_ne hn hne

theorem Advanced.examine_eq (h : Advanced r name w w')
    (hne : ∀ t t', r.target w.disk n = .ok (.ok t) → r.target w.disk name = .ok (.ok t') →
      t.place ≠ t'.place) : r.examine w'.disk n = r.examine w.disk n := by
  apply examine_congr (h.target_eq n)
  intro t ht
  exact h.source_eq_of_ne ht fun t' ht' => hne t t' ht ht'

theorem Advanced.source_self (h : Advanced r name w w') (hdry : r.dryRun = false)
    (hall : w'.report.AllWritten) (ht : r.target w.disk name = .ok (.ok t)) :
    source w'.disk t = (source w.disk t).map (r.rewritten name t.descriptor) := by
  cases h with
  | done hs => exact hs.source_self hdry ht
  | noted hx hf =>
    rw [World.fail]
    rcases examine_eq_error.mp hx with he | ⟨t', ht', hs⟩
    · rw [ht] at he
      cases he
    · rw [ht] at ht'
      cases ht'
      rcases hs with hs | ⟨text, hs, ho⟩
      · rw [hs]
        rfl
      · rw [hs, Except.map, rewritten_of_error ho]
  | torn hs hf hv =>
    rw [hall _ List.mem_concat_self] at hf
    cases hf

/-- An entry of a class whose file the system lets not be written. -/
def Verdict.Unwritten : Verdict → Prop
  | .failed f => f.isUnwritten = true
  | _ => False

theorem Stepped.report_of_error (h : Stepped r name w (.error f) w') : w'.report = w.report := by
  cases h with
  | failed hx => rfl
  | broken hx hu hne hd hs => rw [World.edit, warned_report]

/-- A class that a batch advances over gets exactly one entry, which is that of the class on the
disk unless its file cannot be written. -/
theorem Advanced.exists_entry (h : Advanced r name w w') :
    ∃ v, w'.report = enter w.report name v ∧
      (v = r.verdict w.disk name ∨ r.verdict w.disk name = .updated ∧ v.Unwritten) := by
  cases h with
  | done hs => exact ⟨_, hs.report_eq, .inl rfl⟩
  | @noted f hx hf => exact ⟨.failed f, rfl, .inl (verdict_of_error hx).symm⟩
  | @torn f w₁ hs hf hv =>
    refine ⟨.failed f, ?_, .inr ⟨hv, hf⟩⟩
    rw [World.fail, hs.report_of_error]
    rfl

theorem not_allWritten_enter {report : Report} {v : Verdict} (hv : v.Unwritten) :
    ¬(enter report name v).AllWritten := by
  intro hall
  cases v with
  | failed f =>
    rw [Verdict.Unwritten, hall (name, f) List.mem_concat_self] at hv
    cases hv
  | _ => exact hv

theorem Advanced.report_eq (h : Advanced r name w w')
    (hall : r.verdict w.disk name = .updated → w'.report.AllWritten) :
    w'.report = enter w.report name (r.verdict w.disk name) := by
  obtain ⟨v, hreport, rfl | ⟨hupdated, hv⟩⟩ := h.exists_entry
  · exact hreport
  · have hwritten := hall hupdated
    rw [hreport] at hwritten
    exact absurd hwritten (not_allWritten_enter hv)

theorem Advanced.idle (h : Advanced r name w w') (hv : r.verdict w.disk name ≠ .updated) :
    w'.disk = w.disk ∧ w'.edits = w.edits ∧ w'.notices = w.notices := by
  obtain ⟨e, w₁, hs, rfl | ⟨f, rfl⟩⟩ := h.exists_stepped
  · exact hs.idle hv
  · exact hs.idle hv

/-- No two classes of different names on the list have the same file. -/
def Separate (r : Run) (disk : Disk) (ds : List Descriptor) : Prop :=
  ∀ d ∈ ds, ∀ d' ∈ ds, d.name ≠ d'.name → ∀ t t', r.target disk d.name = .ok (.ok t) →
    r.target disk d'.name = .ok (.ok t') → t.place ≠ t'.place

/-- The classes of other names on the list have other files. -/
def Apart (r : Run) (disk : Disk) (ds : List Descriptor) (n : Text) (t : Target) : Prop :=
  ∀ d ∈ ds, d.name ≠ n → ∀ t', r.target disk d.name = .ok (.ok t') → t.place ≠ t'.place

theorem Apart.advance (h : r.Apart w.disk (d :: ds) n t) (hw : Advanced r name w w') :
    r.Apart w'.disk ds n t := by
  intro d' hd' hne t' ht'
  rw [hw.target_eq] at ht'
  exact h d' (List.mem_cons_of_mem d hd') hne t' ht'

/-- An entry after which a batch goes on without having written anything. -/
def Verdict.Quiet : Verdict → Prop
  | .updated => False
  | .failed f => contains f = true
  | _ => True

/-- The report with the entries of all classes on a list. -/
def enterAll (v : Text → Verdict) (report : Report) (ds : List Descriptor) : Report :=
  ds.foldl (fun report d => enter report d.name (v d.name)) report

theorem mem_updated_enter (report : Report) (name : Text) (v : Verdict) :
    n ∈ (enter report name v).updated ↔ n ∈ report.updated ∨ n = name ∧ v = .updated := by
  cases v with
  | updated => simp [enter]
  | unchanged => simp [enter]
  | skipped s => simp [enter]
  | failed f => simp [enter]

/-- A batch in which no class has anything to write returns, and only its report and its warnings
grow. -/
theorem annotateEach_of_quiet (hq : ∀ d ∈ ds, (r.verdict w.disk d.name).Quiet) :
    ∃ w', r.annotateEach ds w = (.ok (), w') ∧
      w'.disk = w.disk ∧ w'.edits = w.edits ∧ w'.notices = w.notices ∧
      w'.report = enterAll (r.verdict w.disk) w.report ds := by
  induction ds generalizing w with
  | nil => exact ⟨w, rfl, rfl, rfl, rfl, rfl⟩
  | cons d ds ih =>
    have hd := hq d List.mem_cons_self
    have hv : r.verdict w.disk d.name ≠ .updated := by
      intro hv
      rw [hv] at hd
      exact hd
    rcases annotateEach_cons r d ds w with ⟨w₁, ha, he⟩ | ⟨f, w₁, hs, hf, -⟩
    · obtain ⟨hdisk, hedits, hnotices⟩ := ha.idle hv
      obtain ⟨w', hr, hdisk', hedits', hnotices', hreport⟩ :=
        ih (w := w₁) fun d' hd' => by rw [hdisk]; exact hq d' (List.mem_cons_of_mem d hd')
      refine ⟨w', by rw [he, hr], hdisk'.trans hdisk, hedits'.trans hedits,
        hnotices'.trans hnotices, ?_⟩
      rw [hreport, ha.report_eq fun hup => absurd hup hv, hdisk]
      rfl
    · -- The fault that would end the batch is none that a quiet class can have.
      cases hs with
      | failed hx =>
        rw [verdict_of_error hx, Verdict.Quiet, hf] at hd
        cases hd
      | broken hx hc hne => exact absurd (verdict_of_ne hx hc hne) hv

/-! ## Whole batches -/

theorem annotateAll_eq (hon : r.enabled = true) : r.annotateAll w = r.batch w := by
  rw [annotateAll, if_pos hon]

theorem eq_of_fst {s : Except Fault Bool × World} {e : Except Fault Bool} (h : s.1 = e) :
    s = (e, s.2) := by
  rw [← h]

theorem batch_eq_ok {b : Bool} : r.batch w = (.ok b, w') ↔
    b = true ∧ r.annotateEach r.worklist w = (.ok (), w') := by
  unfold batch
  generalize r.annotateEach r.worklist w = s
  obtain ⟨e, w₁⟩ := s
  cases e with
  | ok u => simp [eq_comm]
  | error f => simp

end Run
end Docblocks
