import Docblocks.Proofs.Disk.Writing
import Docblocks.Proofs.Result
import Docblocks.Proofs.Text.Utf8
import Docblocks.Run.Basic

/-!
What one step of a run can do.

`examine` is everything that a step reads before it acts, and `Stepped` lists what it can do then,
one constructor for each way. Of the disk a step changes at most the file of its class. How the
system answers when the file is written is left to the device of the run.
-/

set_option autoImplicit false
set_option relaxedAutoImplicit false

namespace Docblocks.Run

variable {r : Run} {disk : Disk} {name n : Text} {w w' : World} {t : Target}

/-! ## Before a step acts -/

/-- What a step finds: the file of the class, its text, and what the payload does to it. -/
structure Finding where
  target : Target
  text : Text
  outcome : Block.Outcome

/-- What a step for a class finds on a disk, or why it is passed over or fails. -/
def examine (r : Run) (disk : Disk) (name : Text) : Except Fault (Except Skip Finding) :=
  match r.target disk name with
  | .error f => .error f
  | .ok (.error s) => .ok (.error s)
  | .ok (.ok t) =>
    match source disk t with
    | .error f => .error f
    | .ok text =>
      match r.upsert name t.descriptor text with
      | .error f => .error f
      | .ok o => .ok (.ok ⟨t, text, o⟩)

/-- The text that a step leaves in the file of a class. -/
def rewritten (r : Run) (name : Text) (d : Schema.Descriptor) (text : Text) : Text :=
  match r.upsert name d text with
  | .error _ => text
  | .ok o => o.content?.getD text

theorem rewritten_of_ok {d : Schema.Descriptor} {text : Text} {o : Block.Outcome}
    (h : r.upsert name d text = .ok o) : r.rewritten name d text = o.content?.getD text := by
  rw [rewritten, h]

theorem rewritten_of_error {d : Schema.Descriptor} {text : Text} {f : Fault}
    (h : r.upsert name d text = .error f) : r.rewritten name d text = text := by
  rw [rewritten, h]

theorem examine_eq_ok {x : Finding} : r.examine disk name = .ok (.ok x) ↔
    r.target disk name = .ok (.ok x.target) ∧ source disk x.target = .ok x.text ∧
      r.upsert name x.target.descriptor x.text = .ok x.outcome := by
  constructor
  · intro h
    unfold examine at h
    split at h
    · cases h
    · cases h
    · next t ht =>
      split at h
      · cases h
      · next text hs =>
        split at h
        · cases h
        · next o ho =>
          cases h
          exact ⟨ht, hs, ho⟩
  · rintro ⟨ht, hs, ho⟩
    unfold examine
    simp only [ht, hs, ho]

theorem examine_eq_error {f : Fault} : r.examine disk name = .error f ↔
    r.target disk name = .error f ∨ ∃ t, r.target disk name = .ok (.ok t) ∧
      (source disk t = .error f ∨ ∃ text, source disk t = .ok text ∧
        r.upsert name t.descriptor text = .error f) := by
  constructor
  · intro h
    unfold examine at h
    split at h
    · next ht => exact .inl (by rw [ht]; cases h; rfl)
    · cases h
    · next t ht =>
      refine .inr ⟨t, ht, ?_⟩
      split at h
      · next hs => exact .inl (by rw [hs]; cases h; rfl)
      · next text hs =>
        refine .inr ⟨text, hs, ?_⟩
        split at h
        · next ho => rw [ho]; cases h; rfl
        · cases h
  · rintro (ht | ⟨t, ht, hs | ⟨text, hs, ho⟩⟩)
    · simp only [examine, ht]
    · simp only [examine, ht, hs]
    · simp only [examine, ht, hs, ho]

/-- A step sees of a disk only the file of its class. -/
theorem examine_congr {disk' : Disk} (ht : r.target disk' name = r.target disk name)
    (hs : ∀ t, r.target disk name = .ok (.ok t) → source disk' t = source disk t) :
    r.examine disk' name = r.examine disk name := by
  unfold examine
  rw [ht]
  split
  · rfl
  · rfl
  · next t h => rw [hs t h]

/-! ## What a step can do -/

/-- The ways of keeping a candidate for the text of a file. -/
inductive Persisted (r : Run) (deed : Deed) (name : Text) (t : Target) (current candidate : Text)
    (w : World) : Except Fault Bool → World → Prop
  | kept : candidate = current →
      Persisted r deed name t current candidate w (.ok true) (w.keep name)
  | planned : candidate ≠ current → r.dryRun = true →
      Persisted r deed name t current candidate w (.ok true) (w.update name)
  | written {bytes : Bytes} : candidate ≠ current → r.dryRun = false →
      r.device.save w.edits t.path t.place candidate = (.ok (), some bytes) →
      Persisted r deed name t current candidate w (.ok true)
        (r.conclude deed name (w.edit t.place (some bytes)))
  | broken {f : Fault} {left? : Option Bytes} : candidate ≠ current → r.dryRun = false →
      r.device.save w.edits t.path t.place candidate = (.error f, left?) →
      Persisted r deed name t current candidate w (.error f) (w.edit t.place left?)

theorem persisted_persist (r : Run) (deed : Deed) (name : Text) (t : Target)
    (current candidate : Text) (w : World) :
    Persisted r deed name t current candidate w (r.persist deed name t current candidate w).1
      (r.persist deed name t current candidate w).2 := by
  unfold persist Block.change?
  by_cases hc : candidate = current
  · simp only [hc, if_true]
    exact .kept rfl
  · simp only [hc, if_false]
    cases hd : r.dryRun with
    | true => exact .planned hc hd
    | false =>
      unfold World.write
      cases hs : r.device.save w.edits t.path t.place candidate with
      | mk e left? =>
        cases e with
        | ok u =>
          obtain ⟨bytes, -, rfl⟩ := Disk.Device.save_eq_ok hs
          exact .written hc hd hs
        | error f => exact .broken hc hd hs

/-- The world after the warning of a lone marker. -/
def warned (name : Text) (x : Finding) (w : World) : World :=
  if x.outcome.lone then w.warn ⟨x.target.path, name⟩ else w

/-- Why a class is passed over when no text is made for it. -/
def reason : Block.Outcome → Skip
  | .anchorMissing _ => .anchorMissing
  | _ => .noPayload

/-- The ways of a step. In the last one the file could not be opened, or it was left with a part of
the text or, if that has no bytes, empty. -/
inductive Stepped (r : Run) (name : Text) (w : World) : Except Fault Bool → World → Prop
  | failed {f : Fault} : r.examine w.disk name = .error f → Stepped r name w (.error f) w
  | passed {s : Skip} : r.examine w.disk name = .ok (.error s) →
      Stepped r name w (.ok false) (w.skip name s)
  | unmade {x : Finding} : r.examine w.disk name = .ok (.ok x) → x.outcome.content? = none →
      Stepped r name w (.ok true) ((warned name x w).skip name (reason x.outcome))
  | kept {x : Finding} : r.examine w.disk name = .ok (.ok x) → x.outcome.content? = some x.text →
      Stepped r name w (.ok true) ((warned name x w).keep name)
  | planned {x : Finding} {u : Text} : r.examine w.disk name = .ok (.ok x) →
      x.outcome.content? = some u → u ≠ x.text → r.dryRun = true →
      Stepped r name w (.ok true) ((warned name x w).update name)
  | written {x : Finding} {u : Text} {bytes : Bytes} : r.examine w.disk name = .ok (.ok x) →
      x.outcome.content? = some u → u ≠ x.text → r.dryRun = false →
      r.device.save w.edits x.target.path x.target.place u = (.ok (), some bytes) →
      Stepped r name w (.ok true)
        (r.conclude .annotated name ((warned name x w).edit x.target.place (some bytes)))
  | broken {x : Finding} {u : Text} {f : Fault} {left? : Option Bytes} :
      r.examine w.disk name = .ok (.ok x) → x.outcome.content? = some u → u ≠ x.text →
      r.dryRun = false →
      r.device.save w.edits x.target.path x.target.place u = (.error f, left?) →
      Stepped r name w (.error f) ((warned name x w).edit x.target.place left?)

@[simp] theorem warned_edits (name : Text) (x : Finding) (w : World) :
    (warned name x w).edits = w.edits := by
  unfold warned
  split
  · rfl
  · rfl

private theorem stepped_persist {x : Finding} {u : Text}
    (hx : r.examine w.disk name = .ok (.ok x)) (hu : x.outcome.content? = some u) :
    Stepped r name w (r.persist .annotated name x.target x.text u (warned name x w)).1
      (r.persist .annotated name x.target x.text u (warned name x w)).2 := by
  have h := persisted_persist r .annotated name x.target x.text u (warned name x w)
  generalize r.persist .annotated name x.target x.text u (warned name x w) = s at h ⊢
  obtain ⟨e, w'⟩ := s
  cases h with
  | kept hc => exact .kept hx (hc ▸ hu)
  | planned hc hd => exact .planned hx hu hc hd
  | written hc hd hs => exact .written hx hu hc hd (by rwa [warned_edits] at hs)
  | broken hc hd hs => exact .broken hx hu hc hd (by rwa [warned_edits] at hs)

/-- A step goes one of its ways. -/
theorem stepped_annotateClass (r : Run) (name : Text) (w : World) :
    Stepped r name w (r.annotateClass name w).1 (r.annotateClass name w).2 := by
  unfold annotateClass
  cases ht : r.target w.disk name with
  | error f => exact .failed (by rw [examine, ht])
  | ok e =>
    cases e with
    | error s => exact .passed (by rw [examine, ht])
    | ok t =>
      dsimp only
      cases hs : source w.disk t with
      | error f => exact .failed (by rw [examine, ht]; dsimp only; rw [hs])
      | ok text =>
        dsimp only
        cases ho : r.upsert name t.descriptor text with
        | error f => exact .failed (by rw [examine, ht]; dsimp only; rw [hs]; dsimp only; rw [ho])
        | ok o =>
          have hx : r.examine w.disk name = .ok (.ok ⟨t, text, o⟩) := by
            rw [examine, ht]
            dsimp only
            rw [hs]
            dsimp only
            rw [ho]
          cases o with
          | replaced u => exact stepped_persist hx rfl
          | inserted u b => exact stepped_persist hx rfl
          | noPayload => exact .unmade hx rfl
          | anchorMissing b => exact .unmade hx rfl

/-- The ways of stripping a class. -/
inductive Stripped (r : Run) (name : Text) (w : World) : Except Fault Bool → World → Prop
  | failed {f : Fault} : Stripped r name w (.error f) w
  | passed {s : Skip} : Stripped r name w (.ok false) (w.skip name s)
  | found {t : Target} {text : Text} {e : Except Fault Bool} {w' : World} :
      r.target w.disk name = .ok (.ok t) → source w.disk t = .ok text →
      Persisted r .stripped name t text (Block.strip text) w e w' → Stripped r name w e w'

theorem stripped_stripClass (r : Run) (name : Text) (w : World) :
    Stripped r name w (r.stripClass name w).1 (r.stripClass name w).2 := by
  unfold stripClass
  split
  · exact .failed
  · exact .passed
  · next t ht =>
    split
    · exact .failed
    · next text hs =>
      exact .found ht hs (persisted_persist r .stripped name t text (Block.strip text) w)

/-! ## What a step leaves on the disk -/

@[simp] theorem warned_disk (name : Text) (x : Finding) (w : World) :
    (warned name x w).disk = w.disk := by
  unfold warned
  split
  · rfl
  · rfl

@[simp] theorem conclude_edits (r : Run) (deed : Deed) (name : Text) (w : World) :
    (r.conclude deed name w).edits = w.edits := by
  unfold conclude
  split
  · rfl
  · rfl

@[simp] theorem conclude_disk (r : Run) (deed : Deed) (name : Text) (w : World) :
    (r.conclude deed name w).disk = w.disk := by
  unfold conclude
  split
  · rfl
  · rfl

theorem classFile?_eq_some {d : Schema.Descriptor} {path : Disk.Path} {place : Disk.Place}
    (h : disk.classFile? d = .ok (some (path, place))) :
    d.abstract = false ∧ d.file? = some path ∧ disk.file? path = .ok (some place) ∧
      (disk.mode place).writable = true := by
  unfold Disk.classFile? at h
  split at h
  · next p ha hp =>
    obtain ⟨place?, hf, hplace⟩ := Except.map_eq_ok.mp h
    obtain ⟨q, hq, heq⟩ := Option.map_eq_some_iff.mp hplace
    obtain ⟨rfl, hw⟩ := Option.filter_eq_some_iff.mp hq
    cases heq
    exact ⟨ha, hp, hf, hw⟩
  · cases h

theorem classFile?_eq_error {d : Schema.Descriptor} {f : Disk.Fault}
    (h : disk.classFile? d = .error f) : ∃ path, disk.file? path = .error f := by
  unfold Disk.classFile? at h
  split at h
  · next p _ _ => exact ⟨p, Except.map_eq_error.mp h⟩
  · cases h

/-- A class that may be rewritten is allowed, and the last one of its name is not abstract and has
a file that may be written. -/
theorem target_eq_ok (h : r.target disk n = .ok (.ok t)) :
    r.settings.allowsClass r.classes n = true ∧
      Schema.lastNamed? r.classes n = some t.descriptor ∧ t.descriptor.abstract = false ∧
      t.descriptor.file? = some t.path ∧ disk.file? t.path = .ok (some t.place) ∧
      (disk.mode t.place).writable = true := by
  unfold target at h
  split at h
  · next ha =>
    split at h
    · cases h
    · next d hd =>
      split at h
      · cases h
      · cases h
      · next path place hc =>
        cases h
        exact ⟨ha, hd, classFile?_eq_some hc⟩
  · cases h

/-- The file of a class is looked up in vain only if the system refuses its path. -/
theorem target_eq_error {f : Fault} (h : r.target disk n = .error f) :
    ∃ g, f = .disk g ∧ g.cause.isOfSystem = true := by
  unfold target at h
  split at h
  · split at h
    · cases h
    · split at h
      · next g hc =>
        cases h
        obtain ⟨path, hf⟩ := classFile?_eq_error hc
        exact ⟨g, rfl, Disk.file?_eq_error hf⟩
      · cases h
      · cases h
  · cases h

theorem file?_of_target (h : r.target disk n = .ok (.ok t)) :
    disk.file? t.path = .ok (some t.place) :=
  (target_eq_ok h).2.2.2.2.1

theorem hasFile_of_target (h : r.target disk n = .ok (.ok t)) : disk.HasFile t.place :=
  (Disk.file?_eq_some (file?_of_target h)).2

theorem target_leave {place : Disk.Place} {left? : Option Bytes} (h : disk.HasFile place)
    (n : Text) : r.target (disk.leave place left?) n = r.target disk n := by
  have hc : ∀ d, (disk.leave place left?).classFile? d = disk.classFile? d := by
    intro d
    unfold Disk.classFile?
    simp only [Disk.file?_leave h, Disk.mode_leave]
  unfold target
  simp only [hc]

theorem read_of_source {text : Text} (h : source disk t = .ok text) :
    ∃ bytes, disk.read t.path = .ok bytes := by
  unfold source at h
  split at h
  · cases h
  · next bytes hb => exact ⟨bytes, hb⟩

theorem source_write_self {bytes : Bytes} {text u : Text} (h : r.target disk n = .ok (.ok t))
    (hs : source disk t = .ok text) (he : Text.Utf8.encode u = .ok bytes) :
    source (disk.write t.place bytes) t = .ok u := by
  obtain ⟨old, hold⟩ := read_of_source hs
  obtain ⟨cs, hd, hu⟩ := Text.Utf8.decode_of_encode he
  unfold source
  rw [Disk.read_write_self (file?_of_target h) hold]
  dsimp only
  rw [hd]
  dsimp only
  rw [hu]

theorem source_leave_of_ne {place : Disk.Place} {left? : Option Bytes} (hf : disk.HasFile place)
    (h : r.target disk n = .ok (.ok t)) (hne : t.place ≠ place) :
    source (disk.leave place left?) t = source disk t := by
  unfold source
  rw [Disk.read_leave_of_ne hf (file?_of_target h) hne]

/-- A step sets about to write the text that it has made, and the device tells what comes of it. -/
structure Saved (r : Run) (name : Text) (w : World) (e : Except Fault Bool) (w' : World)
    (x : Finding) (u : Text) (left? : Option Bytes) : Prop where
  found : r.examine w.disk name = .ok (.ok x)
  made : x.outcome.content? = some u
  changed : u ≠ x.text
  real : r.dryRun = false
  answer : ∃ a, r.device.save w.edits x.target.path x.target.place u = (a, left?) ∧
    e = a.map fun _ => true
  disk : w'.disk = w.disk.leave x.target.place left?
  edits : w'.edits = w.edits ++ [(x.target.place, left?)]

theorem Saved.target {e : Except Fault Bool} {x : Finding} {u : Text} {left? : Option Bytes}
    (h : Saved r name w e w' x u left?) : r.target w.disk name = .ok (.ok x.target) :=
  (examine_eq_ok.mp h.found).1

/-- Of the disk a step writes at most the file of its class. -/
theorem Stepped.idle_or_saved {e : Except Fault Bool} (h : Stepped r name w e w') :
    w'.disk = w.disk ∧ w'.edits = w.edits ∨ ∃ x u left?, Saved r name w e w' x u left? := by
  cases h with
  | failed hx => exact .inl ⟨rfl, rfl⟩
  | passed hx => exact .inl ⟨rfl, rfl⟩
  | unmade hx hc => exact .inl ⟨warned_disk name _ w, warned_edits name _ w⟩
  | kept hx hc => exact .inl ⟨warned_disk name _ w, warned_edits name _ w⟩
  | planned hx hu hne hd => exact .inl ⟨warned_disk name _ w, warned_edits name _ w⟩
  | @written x u bytes hx hu hne hd hs =>
    refine .inr ⟨x, u, some bytes, hx, hu, hne, hd, ⟨_, hs, rfl⟩, ?_, ?_⟩
    · rw [conclude_disk, World.edit, warned_disk]
    · rw [conclude_edits, World.edit, warned_edits]
  | @broken x u f left? hx hu hne hd hs =>
    refine .inr ⟨x, u, left?, hx, hu, hne, hd, ⟨_, hs, rfl⟩, ?_, ?_⟩
    · rw [World.edit, warned_disk]
    · rw [World.edit, warned_edits]

/-- A step makes no class lose its file or find another. -/
theorem Stepped.target_eq {e : Except Fault Bool} (h : Stepped r name w e w') (n : Text) :
    r.target w'.disk n = r.target w.disk n := by
  rcases h.idle_or_saved with ⟨hd, -⟩ | ⟨x, u, left?, hs⟩
  · rw [hd]
  · rw [hs.disk, target_leave (hasFile_of_target hs.target)]

/-- A step leaves the files of the classes alone that do not share its file. -/
theorem Stepped.source_eq_of_ne {e : Except Fault Bool} (h : Stepped r name w e w')
    (hn : r.target w.disk n = .ok (.ok t))
    (hne : ∀ u, r.target w.disk name = .ok (.ok u) → t.place ≠ u.place) :
    source w'.disk t = source w.disk t := by
  rcases h.idle_or_saved with ⟨hd, -⟩ | ⟨x, u, left?, hs⟩
  · rw [hd]
  · rw [hs.disk, source_leave_of_ne (hasFile_of_target hs.target) hn (hne x.target hs.target)]

/-- A step that succeeds leaves the rewritten text in the file of its class. -/
theorem Stepped.source_self {b : Bool} (h : Stepped r name w (.ok b) w') (hdry : r.dryRun = false)
    (ht : r.target w.disk name = .ok (.ok t)) :
    source w'.disk t = (source w.disk t).map (r.rewritten name t.descriptor) := by
  -- Where nothing is written, the rewritten text is the one that stands in the file.
  have same : ∀ {x : Finding}, r.examine w.disk name = .ok (.ok x) →
      x.outcome.content?.getD x.text = x.text →
      source w.disk t = (source w.disk t).map (r.rewritten name t.descriptor) := by
    intro x hx hc
    obtain ⟨htx, hs, ho⟩ := examine_eq_ok.mp hx
    obtain rfl : x.target = t := by
      rw [htx] at ht
      cases ht
      rfl
    rw [hs, Except.map, rewritten_of_ok ho, hc]
  cases h with
  | passed hx =>
    unfold examine at hx
    rw [ht] at hx
    dsimp only at hx
    split at hx
    · cases hx
    · split at hx
      · cases hx
      · cases hx
  | @unmade x hx hc =>
    rw [World.skip, warned_disk]
    exact same hx (by rw [hc]; rfl)
  | @kept x hx hc =>
    rw [World.keep, warned_disk]
    exact same hx (by rw [hc]; rfl)
  | planned hx hu hne hd =>
    rw [hdry] at hd
    cases hd
  | @written x u bytes hx hu hne hd hsave =>
    obtain ⟨htx, hs, ho⟩ := examine_eq_ok.mp hx
    obtain rfl : x.target = t := by
      rw [htx] at ht
      cases ht
      rfl
    have hleft : source (w.disk.leave x.target.place (some bytes)) x.target = .ok u :=
      source_write_self ht hs (Disk.Device.encode_of_save hsave)
    rw [conclude_disk, World.edit, warned_disk, hleft, hs, Except.map, rewritten_of_ok ho, hu]
    rfl

/-! ## What a step records -/

/-- The entry of a class in a report. -/
inductive Verdict
  | updated
  | unchanged
  | skipped (s : Skip)
  | failed (f : Fault)

/-- The entry that a class gets on a disk, unless its file cannot be written. -/
def verdict (r : Run) (disk : Disk) (name : Text) : Verdict :=
  match r.examine disk name with
  | .error f => .failed f
  | .ok (.error s) => .skipped s
  | .ok (.ok x) =>
    match x.outcome.content? with
    | none => .skipped (reason x.outcome)
    | some u => if u = x.text then .unchanged else .updated

/-- The report with one more entry. -/
def enter (report : Report) (name : Text) : Verdict → Report
  | .updated => { report with updated := report.updated ++ [name] }
  | .unchanged => { report with unchanged := report.unchanged ++ [name] }
  | .skipped s => { report with skipped := report.skipped ++ [(name, s)] }
  | .failed f => { report with errors := report.errors ++ [(name, f)] }

@[simp] theorem warned_report (name : Text) (x : Finding) (w : World) :
    (warned name x w).report = w.report := by
  unfold warned
  split
  · rfl
  · rfl

@[simp] theorem conclude_report (r : Run) (deed : Deed) (name : Text) (w : World) :
    (r.conclude deed name w).report = enter w.report name .updated := by
  unfold conclude
  split
  · rfl
  · rfl

theorem verdict_of_error {f : Fault} (h : r.examine disk name = .error f) :
    r.verdict disk name = .failed f := by
  rw [verdict, h]

theorem verdict_of_skip {s : Skip} (h : r.examine disk name = .ok (.error s)) :
    r.verdict disk name = .skipped s := by
  rw [verdict, h]

theorem verdict_of_none {x : Finding} (h : r.examine disk name = .ok (.ok x))
    (hc : x.outcome.content? = none) : r.verdict disk name = .skipped (reason x.outcome) := by
  simp only [verdict, h, hc]

theorem verdict_of_eq {x : Finding} (h : r.examine disk name = .ok (.ok x))
    (hc : x.outcome.content? = some x.text) : r.verdict disk name = .unchanged := by
  simp only [verdict, h, hc, if_true]

theorem verdict_of_ne {x : Finding} {u : Text} (h : r.examine disk name = .ok (.ok x))
    (hc : x.outcome.content? = some u) (hne : u ≠ x.text) : r.verdict disk name = .updated := by
  simp only [verdict, h, hc, if_neg hne]

/-- A step that succeeds makes exactly one entry. -/
theorem Stepped.report_eq {b : Bool} (h : Stepped r name w (.ok b) w') :
    w'.report = enter w.report name (r.verdict w.disk name) := by
  cases h with
  | passed hx =>
    rw [verdict_of_skip hx]
    rfl
  | unmade hx hc =>
    rw [verdict_of_none hx hc, World.skip, warned_report]
    rfl
  | kept hx hc =>
    rw [verdict_of_eq hx hc, World.keep, warned_report]
    rfl
  | planned hx hc hne hd =>
    rw [verdict_of_ne hx hc hne, World.update, warned_report]
    rfl
  | written hx hc hne hd he =>
    rw [verdict_of_ne hx hc hne, conclude_report, World.edit, warned_report]

/-- A step that has no update to make touches no file and sends no notice. -/
theorem Stepped.idle {e : Except Fault Bool} (h : Stepped r name w e w')
    (hv : r.verdict w.disk name ≠ .updated) :
    w'.disk = w.disk ∧ w'.edits = w.edits ∧ w'.notices = w.notices := by
  have warned_idle : ∀ x, (warned name x w).disk = w.disk ∧ (warned name x w).edits = w.edits ∧
      (warned name x w).notices = w.notices := by
    intro x
    unfold warned
    split
    · exact ⟨rfl, rfl, rfl⟩
    · exact ⟨rfl, rfl, rfl⟩
  cases h with
  | failed hx => exact ⟨rfl, rfl, rfl⟩
  | passed hx => exact ⟨rfl, rfl, rfl⟩
  | unmade hx hc => exact warned_idle _
  | kept hx hc => exact warned_idle _
  | planned hx hc hne hd => exact absurd (verdict_of_ne hx hc hne) hv
  | written hx hc hne hd he => exact absurd (verdict_of_ne hx hc hne) hv
  | broken hx hc hne hd he => exact absurd (verdict_of_ne hx hc hne) hv

end Docblocks.Run
