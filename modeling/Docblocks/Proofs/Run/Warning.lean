import Docblocks.Proofs.Block.Outcomes
import Docblocks.Proofs.Run.Rehearsal

/-!
The warning of a lone marker.

A step warns exactly if its class has a payload and finds a file with one kind of marker. The
warning says that a block was put above the declaration of the class. So it was where the file has
such a declaration; where it has none the warning is issued all the same, and the file stays as it
is.
-/

set_option autoImplicit false
set_option relaxedAutoImplicit false

namespace Docblocks.Run

variable {r : Run} {disk : Disk} {name text payload : Text} {w w' : World} {t : Target} {b : Bool}
  {path : Disk.Path}

/-- A class with a payload finds a file whose text holds exactly one kind of marker. -/
structure LoneFile (r : Run) (disk : Disk) (name : Text) (t : Target) (text payload : Text) :
    Prop where
  target_eq : r.target disk name = .ok (.ok t)
  source_eq : source disk t = .ok text
  lone : Block.Lone text
  payload_eq : r.payload t.descriptor = .ok payload
  payload_ne : payload ≠ []

/-- The file at a path, which held exactly one kind of marker, was written with the comment of the
payload put before the first declaration of the class. -/
def InsertsAbove (r : Run) (name : Text) (path : Disk.Path) (w w' : World) : Prop :=
  ∃ t text payload, r.LoneFile w.disk name t text payload ∧ t.path = path ∧
    ∃ a d, text = a ++ d ∧ (Text.places (Block.anchor name) text).head? = some a.length ∧
      w'.writes = w.writes ++ [t.place] ∧
      source w'.disk t = .ok (a ++ Block.comment payload ++ d)

/-- The file at a path holds exactly one kind of marker and no declaration of the class. -/
def LacksAnchor (r : Run) (name : Text) (path : Disk.Path) (disk : Disk) : Prop :=
  ∃ t text payload, r.LoneFile disk name t text payload ∧ t.path = path ∧
    ¬Block.anchor name <:+: text

/-! ## When a step warns -/

theorem LoneFile.no_pair (h : r.LoneFile disk name t text payload) :
    ¬(Block.startMarker <:+: text ∧ Block.endMarker <:+: text) :=
  fun hpair => h.lone.not_present (Block.locate_present_iff.mpr hpair)

theorem LoneFile.examine_eq {o : Block.Outcome} (h : r.LoneFile disk name t text payload)
    (ho : Block.upsert text name payload = .ok o) :
    r.examine disk name = .ok (.ok ⟨t, text, o⟩) :=
  examine_eq_ok.mpr ⟨h.target_eq, h.source_eq, upsert_eq_ok.mpr ⟨payload, h.payload_eq, ho⟩⟩

theorem warningsOf_examine_iff :
    warningsOf name (r.examine disk name) = [⟨path, name⟩] ↔
      ∃ t text payload, r.LoneFile disk name t text payload ∧ t.path = path := by
  constructor
  · intro hw
    cases hx : r.examine disk name with
    | error f =>
      rw [hx] at hw
      cases hw
    | ok e =>
      rw [hx] at hw
      cases e with
      | error s => cases hw
      | ok x =>
        obtain ⟨ht, hs, ho⟩ := examine_eq_ok.mp hx
        obtain ⟨p, hp, hup⟩ := upsert_eq_ok.mp ho
        by_cases hlone : x.outcome.lone = true
        · obtain ⟨hne, hl⟩ := (Block.lone_iff_of_upsert hup).mp hlone
          rw [warningsOf, warningOf, if_pos hlone] at hw
          cases hw
          exact ⟨x.target, x.text, p, ⟨ht, hs, hl, hp, hne⟩, rfl⟩
        · rw [warningsOf, warningOf, if_neg hlone] at hw
          cases hw
  · rintro ⟨t, text, p, h, rfl⟩
    obtain ⟨o, ho, hreports⟩ := Block.exists_upsert_lone (.inr (.inr h.lone)) name h.payload_ne
    rw [h.examine_eq ho, warningsOf, warningOf, if_pos (hreports.mpr h.lone)]

/-! ## What a step that warns does -/

theorem LoneFile.inserts (h : r.LoneFile w.disk name t text payload)
    (hs : Stepped r name w (.ok b) w') (hdry : r.dryRun = false)
    (hanchor : Block.anchor name <:+: text) : r.InsertsAbove name t.path w w' := by
  obtain ⟨a, d, hsplit, hfirst, ho⟩ :=
    (Block.upsert_of_no_pair h.no_pair name h.payload_ne).2 hanchor
  have hx := h.examine_eq ho
  -- The comment makes the text longer, so that the step writes it.
  have hne : a ++ Block.comment payload ++ d ≠ text := by
    intro hsame
    have hlen := congrArg List.length (hsame.trans hsplit)
    have hpos : 0 < (Block.comment payload).length := by
      simp [Block.comment, String.points, Text.ofChars]
    simp only [List.length_append] at hlen
    omega
  have hv : r.verdict w.disk name = .updated := verdict_of_ne hx rfl hne
  obtain ⟨x, u, bytes, hx', -, -, -, hedits⟩ := hs.written_of_updated hdry hv
  have htarget : x.target = t := by
    rw [hx] at hx'
    cases hx'
    rfl
  have hsource := hs.source_self hdry h.target_eq
  rw [h.source_eq, Except.map, rewritten_of_ok (examine_eq_ok.mp hx).2.2] at hsource
  refine ⟨t, text, payload, h, rfl, a, d, hsplit, hfirst, ?_, hsource⟩
  rw [World.writes, hedits, List.map_append, htarget]
  rfl

theorem LoneFile.left (h : r.LoneFile w.disk name t text payload)
    (hs : Stepped r name w (.ok b) w') (hno : ¬Block.anchor name <:+: text) :
    w' = (w.warn ⟨t.path, name⟩).skip name .anchorMissing := by
  have ho := (Block.upsert_of_no_pair h.no_pair name h.payload_ne).1 hno
  rw [decide_eq_true h.lone] at ho
  have hx := h.examine_eq ho
  cases hs with
  | passed hx' =>
    rw [hx] at hx'
    cases hx'
  | unmade hx' hc =>
    rw [hx] at hx'
    cases hx'
    rfl
  | kept hx' hc =>
    rw [hx] at hx'
    cases hx'
    cases hc
  | planned hx' hu hne hd =>
    rw [hx] at hx'
    cases hx'
    cases hu
  | written hx' hu hne hd he =>
    rw [hx] at hx'
    cases hx'
    cases hu

/-- A step for a class that is not dry and returns issues at most one warning, which names the class
and a path. It does so exactly if the file at the path held exactly one kind of marker and was
written with a block put above the declaration of the class, or if it holds one kind of marker and
no such declaration. In that case nothing is written: the class is passed over. -/
theorem lone_marker_warning_law (hdry : r.dryRun = false)
    (h : r.annotateClass name w = (.ok b, w')) :
    (∀ path, (⟨path, name⟩ : Warning).message = path.written ++
      " has only one generated-block marker; inserted a new block above ".points ++ name) ∧
    (∀ path, w'.warnings = w.warnings ++ [⟨path, name⟩] ↔
      r.InsertsAbove name path w w' ∨ r.LacksAnchor name path w.disk) ∧
    (w'.warnings = w.warnings ∨ ∃ path, w'.warnings = w.warnings ++ [⟨path, name⟩]) ∧
    ∀ path, r.LacksAnchor name path w.disk →
      w' = (w.warn ⟨path, name⟩).skip name .anchorMissing ∧ ¬r.InsertsAbove name path w w' := by
  have hs : Stepped r name w (.ok b) w' := by
    have hstep := stepped_annotateClass r name w
    rwa [h] at hstep
  have hwarnings : w'.warnings = w.warnings ++ warningsOf name (r.examine w.disk name) :=
    (Advanced.done hs).warnings_eq
  refine ⟨fun path => rfl, ?_, ?_, ?_⟩
  · intro path
    rw [hwarnings, List.append_cancel_left_eq, warningsOf_examine_iff]
    constructor
    · rintro ⟨t, text, payload, hfile, rfl⟩
      by_cases hanchor : Block.anchor name <:+: text
      · exact .inl (hfile.inserts hs hdry hanchor)
      · exact .inr ⟨t, text, payload, hfile, rfl, hanchor⟩
    · rintro (⟨t, text, payload, hfile, hpath, -⟩ | ⟨t, text, payload, hfile, hpath, -⟩)
      · exact ⟨t, text, payload, hfile, hpath⟩
      · exact ⟨t, text, payload, hfile, hpath⟩
  · rw [hwarnings]
    rcases warningsOf_cases name (r.examine w.disk name) with hnone | ⟨path, hone⟩
    · exact .inl (by rw [hnone, List.append_nil])
    · exact .inr ⟨path, by rw [hone]⟩
  · rintro path ⟨t, text, payload, hfile, rfl, hno⟩
    have hleft := hfile.left hs hno
    refine ⟨hleft, ?_⟩
    rintro ⟨t', -, -, -, -, -, -, -, -, hwrites, -⟩
    rw [hleft] at hwrites
    exact absurd hwrites (by simp [World.writes, World.skip, World.warn])

/-- Two files with one kind of marker each, of which the second one declares nothing. -/
def loneDisk : Disk where
  entries := [(["page".points],
      .file (Disk.textBytes (Block.endMarker ++ "class Page extends Base".points))),
    (["tag".points], .file (Disk.textBytes Block.startMarker))]
  here := []

/-- The file with a declaration gets its block and the warning. -/
theorem lone_marker_warning_law_page :
    ∃ w, mixedRun.annotateClass "Page".points { disk := loneDisk } = (.ok true, w) ∧
      w.warnings = [⟨⟨.here, ["page".points]⟩, "Page".points⟩] ∧
      mixedRun.InsertsAbove "Page".points ⟨.here, ["page".points]⟩ { disk := loneDisk } w := by
  have hreturns := eq_of_fst (e := .ok true)
    (s := mixedRun.annotateClass "Page".points { disk := loneDisk }) (by decide +kernel)
  have hwarnings : (mixedRun.annotateClass "Page".points { disk := loneDisk }).2.warnings =
      [⟨⟨.here, ["page".points]⟩, "Page".points⟩] := by
    decide +kernel
  have hwrites : (mixedRun.annotateClass "Page".points { disk := loneDisk }).2.writes =
      [["page".points]] := by
    decide +kernel
  obtain ⟨-, hiff, -, hlacks⟩ := lone_marker_warning_law rfl hreturns
  refine ⟨_, hreturns, hwarnings, ?_⟩
  rcases (hiff _).mp hwarnings with hinserts | hno
  · exact hinserts
  · rw [(hlacks _ hno).1] at hwrites
    cases hwrites

/-- The file without a declaration gets the warning of an insertion, and stays as it is. -/
theorem warning_without_insertion :
    mixedRun.dryRun = false ∧
    ∃ w, mixedRun.annotateClass "Tag".points { disk := loneDisk } = (.ok true, w) ∧
      w.warnings = [⟨⟨.here, ["tag".points]⟩, "Tag".points⟩] ∧
      w.warnings.map Warning.message =
        ["tag has only one generated-block marker; inserted a new block above Tag".points] ∧
      w.disk = loneDisk ∧ w.writes = [] ∧
      w.report.skipped = [("Tag".points, .anchorMissing)] ∧
      ¬mixedRun.InsertsAbove "Tag".points ⟨.here, ["tag".points]⟩ { disk := loneDisk } w := by
  have hreturns := eq_of_fst (e := .ok true)
    (s := mixedRun.annotateClass "Tag".points { disk := loneDisk }) (by decide +kernel)
  have hwrites : (mixedRun.annotateClass "Tag".points { disk := loneDisk }).2.writes = [] := by
    decide +kernel
  refine ⟨rfl, _, hreturns, by decide +kernel, by decide +kernel, by decide +kernel, hwrites,
    by decide +kernel, ?_⟩
  rintro ⟨t, -, -, -, -, -, -, -, -, hwritten, -⟩
  rw [hwrites] at hwritten
  cases hwritten

end Docblocks.Run
