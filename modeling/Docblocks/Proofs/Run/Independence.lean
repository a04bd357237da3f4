import Docblocks.Proofs.Run.Effect

/-!
Batches whose classes have files of their own.

No class of such a batch meets what another one has written, so that the batch adds to the world
what its classes add when each of them runs alone on the disk as it was at the start. Edits of
different files may be made in any order, and so may the classes be listed. All this is for steady
devices, which may refuse files but not because of other files: where the disk fills up, the first
classes take the room of the last ones.
-/

set_option autoImplicit false
set_option relaxedAutoImplicit false

namespace Docblocks

open Docblocks.Schema (Descriptor)

/-! ## Reports -/

namespace Run

variable {r : Run} {disk : Disk} {name n : Text} {w w' : World} {d : Descriptor}
  {ds ds' : List Descriptor} {q : Disk.Place}

/-! ## Files of their own -/

/-- The places of the files of the classes on a list. -/
def places (r : Run) (disk : Disk) (ds : List Descriptor) : List Disk.Place :=
  ds.filterMap fun d => r.place? disk d.name

theorem places_cons (r : Run) (disk : Disk) (d : Descriptor) (ds : List Descriptor) :
    r.places disk (d :: ds) = (r.place? disk d.name).toList ++ r.places disk ds := by
  unfold places
  cases h : r.place? disk d.name with
  | none => simp [h]
  | some q => simp [h]

/-- No two classes on the list have the same file. -/
def OwnFiles (r : Run) (disk : Disk) (ds : List Descriptor) : Prop :=
  (r.places disk ds).Nodup

instance (r : Run) (disk : Disk) (ds : List Descriptor) : Decidable (r.OwnFiles disk ds) :=
  inferInstanceAs (Decidable (List.Nodup _))

theorem place?_congr {disk' : Disk} (h : r.target disk' name = r.target disk name) :
    r.place? disk' name = r.place? disk name := by
  rw [place?, place?, h]

theorem places_congr {disk' : Disk} (h : ∀ n, r.target disk' n = r.target disk n)
    (ds : List Descriptor) : r.places disk' ds = r.places disk ds := by
  unfold places
  simp only [place?_congr (h _)]

theorem OwnFiles.congr {disk' : Disk} (h : ∀ n, r.target disk' n = r.target disk n)
    (hown : r.OwnFiles disk ds) : r.OwnFiles disk' ds := by
  rw [OwnFiles, places_congr h]
  exact hown

theorem OwnFiles.sublist (hown : r.OwnFiles disk ds) (h : ds'.Sublist ds) :
    r.OwnFiles disk ds' :=
  List.Nodup.sublist (h.filterMap _) hown

theorem OwnFiles.not_mem_tail (hown : r.OwnFiles disk (d :: ds))
    (hq : r.place? disk d.name = some q) : q ∉ r.places disk ds := by
  rw [OwnFiles, places_cons, hq, Option.toList_some, List.singleton_append, List.nodup_cons] at hown
  exact hown.1

theorem OwnFiles.place_ne (hown : r.OwnFiles disk (d :: ds)) {d' : Descriptor} (hd' : d' ∈ ds)
    (t t' : Target) (ht : r.target disk d'.name = .ok (.ok t))
    (ht' : r.target disk d.name = .ok (.ok t')) : t.place ≠ t'.place := by
  intro hplace
  apply hown.not_mem_tail (place?_of_target ht')
  exact List.mem_filterMap.mpr ⟨d', hd', by rw [place?_of_target ht, hplace]⟩

/-- The first class of the list leaves to the others what they find. -/
theorem OwnFiles.examine_eq (hown : r.OwnFiles w.disk (d :: ds)) (ha : Advanced r d.name w w')
    {d' : Descriptor} (hd' : d' ∈ ds) : r.examine w'.disk d'.name = r.examine w.disk d'.name :=
  ha.examine_eq (hown.place_ne hd')

theorem OwnFiles.advance (hown : r.OwnFiles w.disk (d :: ds)) (ha : Advanced r d.name w w') :
    r.OwnFiles w'.disk ds :=
  (hown.sublist (List.sublist_cons_self d ds)).congr ha.target_eq

/-! ## The shares of a batch -/

/-- What the classes of a list add when each of them runs alone. -/
def shares (r : Run) (disk : Disk) (ds : List Descriptor) : Effect :=
  ds.foldr (fun d e => r.share disk d.name ++ e) {}

theorem shares_congr {disk' : Disk}
    (h : ∀ d ∈ ds, r.examine disk' d.name = r.examine disk d.name) :
    r.shares disk' ds = r.shares disk ds := by
  induction ds with
  | nil => rfl
  | cons d ds ih =>
    rw [shares, List.foldr_cons, ← shares, ih fun d' hd' => h d' (List.mem_cons_of_mem d hd'),
      share_congr (h d List.mem_cons_self)]
    rfl

/-- If the class fails on its own, a batch contains its fault. -/
def Bearable (r : Run) (disk : Disk) (name : Text) : Prop :=
  ∀ f, r.fault? disk name = some f → contains f = true

/-- A batch over files of their own returns exactly when every class is bearable, and adds what the
classes add alone. -/
theorem annotateEach_eq_ok_iff (hsteady : r.device.Steady) (hown : r.OwnFiles w.disk ds) :
    r.annotateEach ds w = (.ok (), w') ↔
      (∀ d ∈ ds, r.Bearable w.disk d.name) ∧ w' = w.apply (r.shares w.disk ds) := by
  induction ds generalizing w with
  | nil => simp [annotateEach, shares, World.apply_empty, eq_comm]
  | cons d ds ih =>
    rcases annotateEach_cons r d ds w with ⟨w₁, ha, he⟩ | ⟨f, w₁, hs, hf, he⟩
    · have hfind : ∀ d' ∈ ds, r.examine w₁.disk d'.name = r.examine w.disk d'.name :=
        fun d' hd' => hown.examine_eq ha hd'
      have hown₁ : r.OwnFiles w₁.disk ds := hown.advance ha
      have hbear : (∀ d' ∈ ds, r.Bearable w₁.disk d'.name) ↔
          ∀ d' ∈ ds, r.Bearable w.disk d'.name :=
        forall₂_congr fun d' hd' => by rw [Bearable, Bearable, fault?_congr (hfind d' hd')]
      have hself : r.Bearable w.disk d.name := fun f hf => ha.contains_fault hsteady hf
      have hadd : w₁.apply (r.shares w₁.disk ds) = w.apply (r.shares w.disk (d :: ds)) := by
        rw [shares_congr hfind, ha.eq_share hsteady, ← World.apply_append]
        rfl
      rw [he, ih hown₁, hbear, hadd, List.forall_mem_cons]
      simp only [hself, true_and]
    · -- The fault that ends the batch is the one that the class meets alone.
      have hfault : r.fault? w.disk d.name = some f := by
        rw [fault?_eq_some, ← effectOf_of_steady hsteady w.edits]
        exact hs.eq_effect.1.symm
      constructor
      · intro h
        rw [he] at h
        cases h
      · intro h
        have := h.1 d List.mem_cons_self f hfault
        rw [hf] at this
        cases this

/-! ## Files after a batch -/

private def mixedClass (name file module : String) : Descriptor where
  name := name.points
  module := module.points
  file? := some ⟨.here, [file.points]⟩
  db := [(.text "Title".points, .text "Text".points)]

/-- A class that is written, one whose markers are inverted, and one that is not allowed. -/
def mixedRun : Run where
  settings := { enabled := true, enabledModules := ["site".points] }
  classes := [mixedClass "Page" "page" "site", mixedClass "Tag" "tag" "site",
    mixedClass "Note" "note" "other"]

/-- The files of the three classes. -/
def mixedDisk : Disk where
  entries := [(["page".points], .file (Disk.textBytes "class Page extends Base".points)),
    (["tag".points], .file (Disk.textBytes (Block.endMarker ++ Block.startMarker))),
    (["note".points], .file (Disk.textBytes "class Note extends Base".points))]
  here := []

theorem mixed_steady : mixedRun.device.Steady := fun _ => ⟨rfl, rfl⟩

theorem mixed_ownFiles : mixedRun.OwnFiles mixedDisk mixedRun.worklist := by decide +kernel

/-- The device of a disk with room for a number of bytes in all that is written. -/
def roomFor (room : Nat) : Disk.Device where
  storing before _ bytes :=
    let used := (before.flatMap fun e => e.2.getD []).length
    if room < used + bytes.length then
      some (⟨28, "No space left on device".points, false⟩, room - used)
    else none

/-- When the room is used up, a byte is refused that was stored before. -/
theorem not_steady_roomFor {room : Nat} (hroom : 0 < room) : ¬(roomFor room).Steady := by
  intro hsteady
  have hsame : (roomFor room).storing [([], some (List.replicate room 0))] [] [0] =
      (roomFor room).storing [] [] [0] :=
    congrFun (congrFun (hsteady _).2 []) [0]
  have hfits : ¬room < 1 := by omega
  simp [roomFor, hfits] at hsame

/-- Two classes on a disk with room for the file of one of them. -/
def crowdedRun : Run where
  settings := { enabled := true, enabledModules := ["site".points] }
  classes := [mixedClass "Page" "page" "site", mixedClass "Note" "note" "site"]
  device := roomFor 200

/-- On a disk that fills up the class that comes first is written and the other one is cut off,
though alone each of them would be written: here the order of the classes decides. -/
theorem crowded_batch_depends_on_order :
    crowdedRun.OwnFiles mixedDisk crowdedRun.worklist ∧ ¬crowdedRun.device.Steady ∧
      (crowdedRun.annotateAll { disk := mixedDisk }).2.report.updated = ["Page".points] ∧
      (crowdedRun.annotateAll { disk := mixedDisk }).2.report.errors.map
        (fun e => (e.1, e.2.message)) =
          [("Note".points, "[Errno 28] No space left on device".points)] ∧
      (crowdedRun.annotateAll { disk := mixedDisk }).2.disk.entry? ["note".points] ≠
        mixedDisk.entry? ["note".points] ∧
      (crowdedRun.alone mixedDisk "Note".points).report.updated = ["Note".points] ∧
      (annotateAll { crowdedRun with classes := crowdedRun.classes.reverse }
        { disk := mixedDisk }).2.report.updated = ["Note".points] := by
  exact ⟨by decide +kernel, not_steady_roomFor (by decide), by decide +kernel, by decide +kernel,
    by decide +kernel, by decide +kernel, by decide +kernel⟩

end Run
end Docblocks
