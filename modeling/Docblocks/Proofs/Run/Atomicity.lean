import Docblocks.Proofs.Run.Permitted
import Docblocks.Proofs.Run.Survival

/-!
Calls for one class that fail.

Everything that can fail, but for the writing of the file, is done before a call acts. So a call
that fails leaves the world as it was, unless the text has no bytes or the system lets the file not
be written; and a call that succeeds without an update leaves the disk.
-/

set_option autoImplicit false
set_option relaxedAutoImplicit false

namespace Docblocks

open Docblocks.Text.Utf8 (Whole)

theorem Block.whole_strip {t : Text} (h : Whole t) : Whole (Block.strip t) := by
  unfold Block.strip
  split
  · have hstart := Text.eraseAll_sublist (markerLine startMarker) t
    have hend := Text.eraseAll_sublist (markerLine endMarker)
      (Text.eraseAll (markerLine startMarker) t)
    exact h.mono (hend.trans hstart).subset
  · exact h

namespace Run

variable {r : Run} {name : Text} {w w' : World} {f : Fault} {b : Bool}

/-- The payload that a class with a file has, if it has one, has bytes. -/
def Encodable (r : Run) (disk : Disk) (name : Text) : Prop :=
  ∀ t p, r.target disk name = .ok (.ok t) → r.payload t.descriptor = .ok p → Whole p

theorem Encodable.exists_bytes {disk : Disk} {x : Finding} {u : Text} (h : r.Encodable disk name)
    (hx : r.examine disk name = .ok (.ok x)) (hu : x.outcome.content? = some u) :
    ∃ bytes, Text.Utf8.encode u = .ok bytes := by
  have ht : r.target disk name = .ok (.ok x.target) := (examine_eq_ok.mp hx).1
  exact Run.exists_bytes hx hu fun p hp => h x.target p ht hp

theorem encodable_of_isSound {disk : Disk} (h : r.isSound disk name = true) :
    r.Encodable disk name := by
  intro t p ht hp
  obtain ⟨-, -, hwhole⟩ := (isSound_iff ht).mp h
  exact hwhole p hp

/-! ## Steps -/

theorem Stepped.eq_of_error (h : Stepped r name w (.error f) w')
    (hbytes : r.Encodable w.disk name) (hwritten : f.isUnwritten = false) : w' = w := by
  cases h with
  | failed hx => rfl
  | broken hx hu hne hd hs =>
    obtain ⟨bytes, hb⟩ := hbytes.exists_bytes hx hu
    rcases Disk.Device.save_eq_error hs with ⟨e, rfl⟩ | ⟨g, hg, -, -⟩
    · cases hwritten
    · rw [hb] at hg
      cases hg

theorem Stepped.disk_of_not_updated (h : Stepped r name w (.ok b) w')
    (hnot : w'.report.updated ≠ w.report.updated ++ [name]) :
    w'.disk = w.disk ∧ w'.edits = w.edits := by
  have hv : r.verdict w.disk name ≠ .updated := by
    intro hv
    apply hnot
    rw [h.report_eq, hv]
    rfl
  obtain ⟨hdisk, hedits, -⟩ := h.idle hv
  exact ⟨hdisk, hedits⟩

/-! ## Stripping -/

-- A stripped text is a part of the text that was read, so it has bytes.
theorem Stripped.eq_of_error (h : Stripped r name w (.error f) w')
    (hwritten : f.isUnwritten = false) : w' = w := by
  cases h with
  | failed => rfl
  | @found t text _ _ ht hs hp =>
    cases hp with
    | broken hc hd hsave =>
      have hwhole : Whole (Block.strip text) := Block.whole_strip (whole_source hs)
      obtain ⟨bytes, hb⟩ := Text.Utf8.exists_encode_iff.mpr hwhole
      rcases Disk.Device.save_eq_error hsave with ⟨e, rfl⟩ | ⟨g, hg, -, -⟩
      · cases hwritten
      · rw [hb] at hg
        cases hg

theorem Stripped.disk_of_not_updated (h : Stripped r name w (.ok b) w')
    (hnot : w'.report.updated ≠ w.report.updated ++ [name]) :
    w'.disk = w.disk ∧ w'.edits = w.edits := by
  cases h with
  | passed => exact ⟨rfl, rfl⟩
  | found ht hs hp =>
    cases hp with
    | kept hc => exact ⟨rfl, rfl⟩
    | planned hc hd => exact absurd rfl hnot
    | written hc hd he =>
      rw [conclude_report] at hnot
      exact absurd rfl hnot

/-! ## Calls -/

/-- A call for one class that fails leaves the world as it was, the disk, the report, the warnings
and the notices, unless the system lets the file not be written. A call that succeeds and does not
record an update of the class leaves the disk. -/
theorem failed_calls_leave_no_trace {c : Call}
    (hc : c = .annotateClass name ∨ c = .stripClass name) (hbytes : r.Encodable w.disk name) :
    (∀ f, (r.call c w).1 = .error f → f.isUnwritten = false → (r.call c w).2 = w) ∧
    ∀ b, (r.call c w).1 = .ok b →
      (r.call c w).2.report.updated ≠ w.report.updated ++ [name] →
      (r.call c w).2.disk = w.disk ∧ (r.call c w).2.edits = w.edits := by
  rcases hc with rfl | rfl
  · have h := stepped_annotateClass r name w
    rw [call]
    constructor
    · intro f hf
      rw [hf] at h
      exact h.eq_of_error hbytes
    · intro b hb
      rw [hb] at h
      exact h.disk_of_not_updated
  · have h := stripped_stripClass r name w
    rw [call]
    constructor
    · intro f hf
      rw [hf] at h
      exact h.eq_of_error
    · intro b hb
      rw [hb] at h
      exact h.disk_of_not_updated

private def mixedWorld : World :=
  { disk := mixedDisk, report := { updated := ["Old".points] } }

/-- The class with inverted markers fails, and the one that is not allowed is passed over. -/
theorem failed_calls_leave_no_trace_mixed :
    (mixedRun.call (.annotateClass "Tag".points) mixedWorld).1 =
        .error (.block ⟨.inverted, "Tag".points, 1, 1⟩) ∧
      (mixedRun.call (.annotateClass "Tag".points) mixedWorld).2 = mixedWorld ∧
      (mixedRun.call (.stripClass "Note".points) mixedWorld).1 = .ok false ∧
      (mixedRun.call (.stripClass "Note".points) mixedWorld).2.disk = mixedDisk := by
  have hfails : (mixedRun.call (.annotateClass "Tag".points) mixedWorld).1 =
      .error (.block ⟨.inverted, "Tag".points, 1, 1⟩) := by
    decide +kernel
  have hpasses : (mixedRun.call (.stripClass "Note".points) mixedWorld).1 = .ok false ∧
      (mixedRun.call (.stripClass "Note".points) mixedWorld).2.report.updated ≠
        mixedWorld.report.updated ++ ["Note".points] := by
    decide +kernel
  have htag : mixedRun.Encodable mixedWorld.disk "Tag".points :=
    encodable_of_isSound (by decide +kernel)
  have hnote : mixedRun.Encodable mixedWorld.disk "Note".points :=
    encodable_of_isSound (by decide +kernel)
  have hleft := (failed_calls_leave_no_trace (.inl rfl) htag).1 _ hfails rfl
  have hkept := (failed_calls_leave_no_trace (.inr rfl) hnote).2 _ hpasses.1 hpasses.2
  exact ⟨hfails, hleft, hpasses.1, hkept.1⟩

end Run
end Docblocks
