import Docblocks.Disk.Device
import Mathlib.Data.List.Nodup

/-!
What writing a file leaves alone.

A write to the place of a file changes the bytes of this file and nothing else: paths lead where
they led before, what the system permits stays, and every other file reads as before. So does an
edit, which is a write or, where the file could not be opened, nothing.
-/

set_option autoImplicit false
set_option relaxedAutoImplicit false

namespace Docblocks

/-- Whether a file is not written because the system refuses it or breaks off. -/
def Fault.isUnwritten : Fault → Bool
  | .unwritten _ _ => true
  | _ => false

namespace Disk

variable {disk : Disk} {place q : Place} {old bytes : Bytes} {left? : Option Bytes} {path : Path}

/-- The bytes of a text, or none if it has no bytes. -/
def textBytes (t : Text) : Bytes :=
  (Text.Utf8.encode t).toOption.getD []

/-- A file stands at the place. -/
def HasFile (disk : Disk) (place : Place) : Prop := ∃ bytes, disk.entry? place = some (.file bytes)

private theorem lookup_write (entries : List (Place × Entry)) (e : Entry) (q : Place) :
    (entries.map fun x => if x.1 = place then (x.1, e) else x).lookup q =
      if q = place then (entries.lookup q).map fun _ => e else entries.lookup q := by
  induction entries with
  | nil => simp
  | cons x entries ih =>
    obtain ⟨k, v⟩ := x
    rw [List.map_cons]
    by_cases hq : q = k
    · subst hq
      by_cases hk : q = place
      · simp [hk]
      · simp [hk]
    · have hb : (q == k) = false := beq_eq_false_iff_ne.mpr hq
      by_cases hk : k = place
      · simp only [hk, if_true, List.lookup_cons, hk ▸ hb, ih]
      · simp only [hk, if_false, List.lookup_cons, hb, ih]

@[simp] theorem mode_write (disk : Disk) (place : Place) (bytes : Bytes) (q : Place) :
    (disk.write place bytes).mode q = disk.mode q := rfl

theorem entry?_write_of_ne (hq : q ≠ place) :
    Disk.entry? (disk.write place bytes) q = disk.entry? q := by
  unfold entry? write
  rw [lookup_write, if_neg hq]

/-- A write changes what stands at its place. -/
theorem entry?_write (h : disk.HasFile place) (bytes : Bytes) (q : Place) :
    Disk.entry? (disk.write place bytes) q =
      if q = place then some (.file bytes) else disk.entry? q := by
  obtain ⟨old, h⟩ := h
  have hne : ¬place.isEmpty = true := by
    intro he
    simp [ entry?, he] at h
  rw [ entry?, if_neg hne] at h
  by_cases hq : q = place
  · subst hq
    rw [ entry?, if_neg hne, write, lookup_write, h]
    simp
  · rw [if_neg hq, entry?_write_of_ne hq]

-- The way of a path asks only which places there are and which of them are folders.
private theorem follow_write (h : disk.HasFile place) (q : Place) (names : List Text) :
    (disk.write place bytes).follow q names = disk.follow q names := by
  have hsome : ∀ q, (Disk.entry? (disk.write place bytes) q).isSome = (disk.entry? q).isSome := by
    intro q
    obtain ⟨old, hold⟩ := h
    rw [entry?_write ⟨old, hold⟩]
    split
    · next hq => rw [hq, hold]; rfl
    · rfl
  induction names generalizing q with
  | nil => rfl
  | cons name names ih =>
    by_cases hq : q = place
    · subst hq
      have hnew := entry?_write h bytes q
      obtain ⟨old, hold⟩ := h
      rw [if_pos rfl] at hnew
      rw [follow, follow, hnew, hold]
    · have hnew := entry?_write h bytes q
      rw [if_neg hq] at hnew
      rw [follow, follow, hnew]
      simp only [hsome, ih, mode_write]

theorem resolve_write (h : disk.HasFile place) (path : Path) :
    (disk.write place bytes).resolve path = disk.resolve path := by
  unfold resolve
  simp only [follow_write h]
  rfl

/-- A write makes no path lead to another file, or to none. -/
theorem file?_write (h : disk.HasFile place) (path : Path) :
    (disk.write place bytes).file? path = disk.file? path := by
  unfold file?
  rw [resolve_write h]
  cases disk.resolve path with
  | error c => cases c <;> rfl
  | ok q =>
    dsimp only
    rw [entry?_write h]
    by_cases hq : q = place
    · obtain ⟨old, hold⟩ := h
      simp [hq, hold]
    · rw [if_neg hq]

theorem file?_eq_some (h : disk.file? path = .ok (some place)) :
    disk.resolve path = .ok place ∧ disk.HasFile place := by
  unfold file? at h
  split at h
  · cases h
  · cases h
  · cases h
  · next q hq =>
    split at h
    · next bytes hb =>
      obtain rfl : q = place := by simpa using h
      exact ⟨hq, bytes, hb⟩
    · cases h

/-- A file is looked up in vain only if the system refuses the path. -/
theorem file?_eq_error {f : Fault} (h : disk.file? path = .error f) :
    f.cause.isOfSystem = true := by
  unfold file? at h
  split at h
  · cases h
    rfl
  · cases h
    rfl
  · cases h
  · split at h
    · cases h
    · cases h

/-- The bytes of a file are read unless the system answers with an error. -/
theorem read_eq_ok (h : disk.file? path = .ok (some place)) : disk.read path = .ok bytes ↔
    (disk.mode place).unreadable? = none ∧ disk.entry? place = some (.file bytes) := by
  obtain ⟨hr, old, hold⟩ := file?_eq_some h
  rw [Disk.read, hr]
  dsimp only
  rw [hold]
  cases (disk.mode place).unreadable? with
  | none => simp
  | some e => simp

/-- A file that stands is not read only if the system refuses it. -/
theorem read_eq_error {f : Fault} (h : disk.file? path = .ok (some place))
    (he : disk.read path = .error f) : f.cause.isOfSystem = true := by
  obtain ⟨hr, old, hold⟩ := file?_eq_some h
  rw [Disk.read, hr] at he
  dsimp only at he
  rw [hold] at he
  dsimp only at he
  split at he
  · cases he
  · cases he
    rfl

/-- The bytes that are written are read back where the file could be read before. -/
theorem read_write_self (h : disk.file? path = .ok (some place)) (hold : disk.read path = .ok old) :
    (disk.write place bytes).read path = .ok bytes := by
  have hf := (file?_eq_some h).2
  have h' : (disk.write place bytes).file? path = .ok (some place) := by rw [file?_write hf, h]
  rw [read_eq_ok h', mode_write, entry?_write hf, if_pos rfl]
  exact ⟨((read_eq_ok h).mp hold).1, rfl⟩

theorem read_write_of_ne (hf : disk.HasFile place) (h : disk.file? path = .ok (some q))
    (hq : q ≠ place) : (disk.write place bytes).read path = disk.read path := by
  obtain ⟨hr, -⟩ := file?_eq_some h
  rw [read, read, resolve_write hf, hr]
  dsimp only
  rw [entry?_write hf, if_neg hq, mode_write]

theorem hasFile_write (h : disk.HasFile place) :
    (disk.write place bytes).HasFile q ↔ disk.HasFile q := by
  unfold HasFile
  rw [entry?_write h]
  by_cases hq : q = place
  · subst hq
    rw [if_pos rfl]
    exact ⟨fun _ => h, fun _ => ⟨bytes, rfl⟩⟩
  · rw [if_neg hq]

/-! ## Edits -/

@[simp] theorem mode_leave (disk : Disk) (place : Place) (left? : Option Bytes) (q : Place) :
    (disk.leave place left?).mode q = disk.mode q := by
  cases left? with
  | none => rfl
  | some bytes => rfl

theorem entry?_leave_of_ne (hq : q ≠ place) :
    Disk.entry? (disk.leave place left?) q = disk.entry? q := by
  cases left? with
  | none => rfl
  | some bytes => exact entry?_write_of_ne hq

theorem entry?_leave_congr {disk' : Disk} (h : disk.entry? q = disk'.entry? q) :
    Disk.entry? (disk.leave place left?) q = Disk.entry? (disk'.leave place left?) q := by
  cases left? with
  | none => exact h
  | some bytes =>
    by_cases hq : q.isEmpty = true
    · simp [ entry?, hq]
    · rw [ entry?, entry?, if_neg hq, if_neg hq] at h
      rw [ entry?, entry?, if_neg hq, if_neg hq, leave, leave, write, write, lookup_write,
        lookup_write, h]

theorem file?_leave (h : disk.HasFile place) (path : Path) :
    (disk.leave place left?).file? path = disk.file? path := by
  cases left? with
  | none => rfl
  | some bytes => exact file?_write h path

theorem read_leave_of_ne (hf : disk.HasFile place) (h : disk.file? path = .ok (some q))
    (hq : q ≠ place) : (disk.leave place left?).read path = disk.read path := by
  cases left? with
  | none => rfl
  | some bytes => exact read_write_of_ne hf h hq

theorem hasFile_leave (h : disk.HasFile place) :
    (disk.leave place left?).HasFile q ↔ disk.HasFile q := by
  cases left? with
  | none => rfl
  | some bytes => exact hasFile_write h

/-- Makes one edit after another. -/
def leaveAll (disk : Disk) (edits : Edits) : Disk :=
  edits.foldl (fun d e => d.leave e.1 e.2) disk

variable {edits edits' : Edits}

theorem leaveAll_append (disk : Disk) (a b : Edits) :
    disk.leaveAll (a ++ b) = (disk.leaveAll a).leaveAll b :=
  List.foldl_append

theorem entry?_leaveAll_of_not_mem (hq : q ∉ edits.map Prod.fst) :
    Disk.entry? (disk.leaveAll edits) q = disk.entry? q := by
  induction edits generalizing disk with
  | nil => rfl
  | cons e edits ih =>
    rw [List.map_cons, List.mem_cons, not_or] at hq
    rw [leaveAll, List.foldl_cons, ← leaveAll, ih hq.2, entry?_leave_of_ne hq.1]

theorem entry?_leaveAll_congr {disk' : Disk} (h : disk.entry? q = disk'.entry? q)
    (edits : Edits) :
    Disk.entry? (disk.leaveAll edits) q = Disk.entry? (disk'.leaveAll edits) q := by
  induction edits generalizing disk disk' with
  | nil => exact h
  | cons e edits ih =>
    rw [leaveAll, leaveAll, List.foldl_cons, List.foldl_cons]
    exact ih (entry?_leave_congr h)

/-- Edits of files make no file appear or vanish. -/
theorem hasFile_leaveAll (h : ∀ e ∈ edits, disk.HasFile e.1) :
    (disk.leaveAll edits).HasFile q ↔ disk.HasFile q := by
  induction edits generalizing disk with
  | nil => rfl
  | cons e edits ih =>
    have he : disk.HasFile e.1 := h e List.mem_cons_self
    rw [leaveAll, List.foldl_cons, ← leaveAll, ih, hasFile_leave he]
    intro e' he'
    exact (hasFile_leave he).mpr (h e' (List.mem_cons_of_mem e he'))

theorem file?_leaveAll (h : ∀ e ∈ edits, disk.HasFile e.1) (path : Path) :
    (disk.leaveAll edits).file? path = disk.file? path := by
  induction edits generalizing disk with
  | nil => rfl
  | cons e edits ih =>
    have he : disk.HasFile e.1 := h e List.mem_cons_self
    rw [leaveAll, List.foldl_cons, ← leaveAll, ih, file?_leave he]
    intro e' he'
    exact (hasFile_leave he).mpr (h e' (List.mem_cons_of_mem e he'))

theorem mode_leaveAll (edits : Edits) (disk : Disk) (q : Place) :
    (disk.leaveAll edits).mode q = disk.mode q := by
  induction edits generalizing disk with
  | nil => rfl
  | cons e edits ih => rw [leaveAll, List.foldl_cons, ← leaveAll, ih, mode_leave]

/-! ## What comes of writing a text -/

namespace Device

variable {v : Device} {before : Edits} {t : Text} {f : Docblocks.Fault}

/-- A text that is written leaves its bytes. -/
theorem save_eq_ok (h : v.save before path place t = (.ok (), left?)) :
    ∃ bytes, Text.Utf8.encode t = .ok bytes ∧ left? = some bytes := by
  unfold save at h
  split at h
  · cases h
  · split at h
    · cases h
    · next bytes hb =>
      split at h
      · cases h
      · cases h
        exact ⟨bytes, hb, rfl⟩

theorem encode_of_save (h : v.save before path place t = (.ok (), some bytes)) :
    Text.Utf8.encode t = .ok bytes := by
  obtain ⟨bytes', he, hb⟩ := save_eq_ok h
  rwa [Option.some.inj hb]

/-- A text is not written if the system refuses it, or if it has no bytes; then the file is left
empty. -/
theorem save_eq_error (h : v.save before path place t = (.error f, left?)) :
    (∃ e, f = .unwritten path e) ∨
      ∃ g, Text.Utf8.encode t = .error g ∧ f = .unencodable g ∧ left? = some [] := by
  unfold save at h
  split at h
  · next e _ =>
    cases h
    exact .inl ⟨e, rfl⟩
  · split at h
    · next g hg =>
      cases h
      exact .inr ⟨g, hg, rfl, rfl⟩
    · split at h
      · next e _ _ =>
        cases h
        exact .inl ⟨e, rfl⟩
      · cases h

/-- A file that is written is left with its new bytes, or with the first of them. -/
theorem prefix_of_save {a : Except Docblocks.Fault Unit} {left : Bytes}
    (he : Text.Utf8.encode t = .ok bytes) (h : v.save before path place t = (a, some left)) :
    left <+: bytes := by
  unfold save at h
  rw [he] at h
  split at h
  · cases h
  · dsimp only at h
    split at h
    · cases h
      exact List.take_prefix _ bytes
    · cases h
      exact List.prefix_refl bytes

/-- What becomes of a file that is written does not depend on what was written before. On a disk
that fills up it does. -/
def Steady (v : Device) : Prop :=
  ∀ before, v.opening before = v.opening [] ∧ v.storing before = v.storing []

theorem Steady.save_eq (h : v.Steady) (before : Edits) (path : Path) (place : Place) (t : Text) :
    v.save before path place t = v.save [] path place t := by
  obtain ⟨hopening, hstoring⟩ := h before
  rw [save, save, hopening, hstoring]

/-- A file that is not written to the end is left with whole characters. -/
def LeavesText (v : Device) : Prop :=
  ∀ before place t bytes e kept, Text.Utf8.encode t = .ok bytes →
    v.storing before place bytes = some (e, kept) →
    ∃ u, Text.Utf8.encode u = .ok (bytes.take kept)

theorem LeavesText.exists_encode {a : Except Docblocks.Fault Unit} (h : v.LeavesText)
    (hs : v.save before path place t = (a, some bytes)) :
    ∃ u, Text.Utf8.encode u = .ok bytes := by
  unfold save at hs
  split at hs
  · cases hs
  · split at hs
    · cases hs
      exact ⟨[], rfl⟩
    · next all hall =>
      split at hs
      · next e kept hstore =>
        cases hs
        exact h before place t all e kept hall hstore
      · cases hs
        exact ⟨t, hall⟩

end Device
end Disk
end Docblocks
