import Docblocks.Proofs.Run.Atomicity

/-!
What annotating a class keeps of the bytes of a file.

An edit is made on a text, but its text falls apart at the edges of the block, and so do the bytes.
The bytes before and after the block stand in the new file as they stood in the old one. A file
whose bytes are no text is never read as one, and so it is never written.
-/

set_option autoImplicit false
set_option relaxedAutoImplicit false

namespace Docblocks

open Docblocks.Text.Utf8 (encode encode_append)

/-! ## Bytes of a text with a block -/

namespace Block

variable {t c p u : Text} {o : Outcome} {old new : Bytes}

/-- A stretch of bytes from a start marker to an end marker makes place for the body of a payload.
-/
def ReplacesBlock (p : Text) (old new : Bytes) : Prop :=
  ∃ opening closing block, encode startMarker = .ok opening ∧ encode endMarker = .ok closing ∧
    encode (body p) = .ok block ∧
    ∃ a x d, old = a ++ opening ++ x ++ closing ++ d ∧ new = a ++ block ++ d

/-- A comment with the body of a payload is put before the bytes of the declaration of a class. -/
def InsertsComment (className p : Text) (old new : Bytes) : Prop :=
  ∃ declaration block, encode (anchor className) = .ok declaration ∧
    encode (comment p) = .ok block ∧
    ∃ a d, declaration <+: d ∧ old = a ++ d ∧ new = a ++ block ++ d

private theorem replacesBlock_of_text {a x d : Text}
    (hold : encode (a ++ startMarker ++ x ++ endMarker ++ d) = .ok old)
    (hnew : encode (a ++ body p ++ d) = .ok new) : ReplacesBlock p old new := by
  obtain ⟨_, bd, hfront, hd, rfl⟩ := encode_append.mp hold
  obtain ⟨_, closing, hinside, hclosing, rfl⟩ := encode_append.mp hfront
  obtain ⟨_, bx, hstart, -, rfl⟩ := encode_append.mp hinside
  obtain ⟨ba, opening, ha, hopening, rfl⟩ := encode_append.mp hstart
  obtain ⟨_, bd', hfront', hd', rfl⟩ := encode_append.mp hnew
  obtain ⟨ba', block, ha', hblock, rfl⟩ := encode_append.mp hfront'
  have hea : ba' = ba := Except.ok.inj (ha'.symm.trans ha)
  have hed : bd' = bd := Except.ok.inj (hd'.symm.trans hd)
  rw [hea, hed]
  exact ⟨opening, closing, block, hopening, hclosing, hblock, ba, bx, bd, rfl, rfl⟩

private theorem insertsComment_of_text {a d : Text} (hold : encode (a ++ anchor c ++ d) = .ok old)
    (hnew : encode (a ++ comment p ++ anchor c ++ d) = .ok new) : InsertsComment c p old new := by
  obtain ⟨_, bd, hfront, hd, rfl⟩ := encode_append.mp hold
  obtain ⟨ba, declaration, ha, hdeclaration, rfl⟩ := encode_append.mp hfront
  obtain ⟨_, bd', hfront', hd', rfl⟩ := encode_append.mp hnew
  obtain ⟨_, declaration', hcomment, hdeclaration', rfl⟩ := encode_append.mp hfront'
  obtain ⟨ba', block, ha', hblock, rfl⟩ := encode_append.mp hcomment
  have hea : ba' = ba := Except.ok.inj (ha'.symm.trans ha)
  have hec : declaration' = declaration := Except.ok.inj (hdeclaration'.symm.trans hdeclaration)
  have hed : bd' = bd := Except.ok.inj (hd'.symm.trans hd)
  rw [hea, hec, hed]
  refine ⟨declaration, block, hdeclaration, hblock, ba, declaration ++ bd, ?_, ?_, ?_⟩
  · exact List.prefix_append declaration bd
  · rw [List.append_assoc]
  · rw [List.append_assoc (ba ++ block)]

/-- An upsert changes the bytes of the block, or it adds the bytes of a comment. -/
theorem bytes_of_upsert (h : upsert t c p = .ok o) (hu : o.content? = some u)
    (hold : encode t = .ok old) (hnew : encode u = .ok new) :
    ReplacesBlock p old new ∨ InsertsComment c p old new := by
  obtain ⟨-, rfl⟩ | ⟨-, a, x, d, rfl, -, -, -, rfl⟩ | ⟨-, -, -, rfl⟩ | ⟨-, -, a, d, hcut, rfl⟩ :=
    upsert_cases h
  · cases hu
  · cases hu
    exact .inl (replacesBlock_of_text hold hnew)
  · cases hu
  · cases hu
    rw [Text.eq_append_of_cut? hcut] at hold
    rw [fill_commentFrame] at hnew
    exact .inr (insertsComment_of_text hold hnew)

end Block

/-! ## Files that hold a text -/

namespace Run

open World (Confined)

variable {r : Run} {disk : Disk} {name : Text} {w w' : World} {t : Target} {b : Bool}
  {q : Disk.Place}

/-- The text of a file is the one whose bytes stand in it. -/
theorem bytes_of_source {text : Text} (ht : r.target disk name = .ok (.ok t))
    (h : source disk t = .ok text) :
    ∃ bytes, disk.entry? t.place = some (.file bytes) ∧ encode text = .ok bytes := by
  unfold source at h
  split at h
  · cases h
  · next bytes hb =>
    split at h
    · cases h
    · next cs hcs =>
      cases h
      obtain ⟨-, hentry⟩ := (Disk.read_eq_ok (file?_of_target ht)).mp hb
      exact ⟨bytes, hentry, Text.Utf8.decode_eq_ok.mp hcs⟩

/-- The bytes at a place are those of a text. -/
def HoldsText (disk : Disk) (q : Disk.Place) : Prop :=
  ∃ text bytes, disk.entry? q = some (.file bytes) ∧ encode text = .ok bytes

theorem holdsText_of_source {text : Text} (ht : r.target disk name = .ok (.ok t))
    (hs : source disk t = .ok text) : HoldsText disk t.place := by
  obtain ⟨bytes, hb, he⟩ := bytes_of_source ht hs
  exact ⟨text, bytes, hb, he⟩

/-! ## Files that a step changes -/

theorem Stepped.written_of_updated (h : Stepped r name w (.ok b) w') (hdry : r.dryRun = false)
    (hv : r.verdict w.disk name = .updated) :
    ∃ x u bytes, r.examine w.disk name = .ok (.ok x) ∧ u ≠ x.text ∧ encode u = .ok bytes ∧
      w'.disk = w.disk.write x.target.place bytes ∧
      w'.edits = w.edits ++ [(x.target.place, some bytes)] := by
  cases h with
  | passed hx =>
    rw [verdict_of_skip hx] at hv
    cases hv
  | unmade hx hc =>
    rw [verdict_of_none hx hc] at hv
    cases hv
  | kept hx hc =>
    rw [verdict_of_eq hx hc] at hv
    cases hv
  | planned hx hu hne hd =>
    rw [hdry] at hd
    cases hd
  | @written x u bytes hx hu hne hd hs =>
    refine ⟨x, u, bytes, hx, hne, Disk.Device.encode_of_save hs, ?_, ?_⟩
    · rw [conclude_disk, World.edit, warned_disk]
      rfl
    · rw [conclude_edits, World.edit, warned_edits]

/-- A step that succeeds changes the bytes of a file exactly if it records an update of its class
and the file is the one of the class. -/
theorem Stepped.changed_iff (h : Stepped r name w (.ok b) w') (hdry : r.dryRun = false)
    (q : Disk.Place) : w'.disk.entry? q ≠ w.disk.entry? q ↔
      r.verdict w.disk name = .updated ∧ r.place? w.disk name = some q := by
  by_cases hv : r.verdict w.disk name = .updated
  · obtain ⟨x, u, bytes, hx, hne, he, hdisk, -⟩ := h.written_of_updated hdry hv
    obtain ⟨ht, hs, -⟩ := examine_eq_ok.mp hx
    obtain ⟨old, hold, hencode⟩ := bytes_of_source ht hs
    have hbytes : bytes ≠ old := by
      rintro rfl
      exact hne (Text.Utf8.encode_injective he hencode)
    have hentry := Disk.entry?_write ⟨old, hold⟩ bytes q
    rw [hdisk, hentry, place?_of_target ht, Option.some.injEq]
    by_cases hq : q = x.target.place
    · simp [hq, hold, hbytes, hv]
    · simp [hq, Ne.symm hq]
  · have hdisk : w'.disk = w.disk := (h.idle hv).1
    simp [hdisk, hv]

/-- A step that succeeds writes a file exactly if it changes its bytes. -/
theorem Stepped.writes_iff (h : Stepped r name w (.ok b) w') (hdry : r.dryRun = false)
    (q : Disk.Place) :
    w'.writes = w.writes ++ [q] ↔ w'.disk.entry? q ≠ w.disk.entry? q := by
  rw [h.changed_iff hdry, World.writes, World.writes]
  by_cases hv : r.verdict w.disk name = .updated
  · obtain ⟨x, u, bytes, hx, -, -, -, hedits⟩ := h.written_of_updated hdry hv
    have ht : r.target w.disk name = .ok (.ok x.target) := (examine_eq_ok.mp hx).1
    rw [hedits, place?_of_target ht]
    simp [hv]
  · have hedits : w'.edits = w.edits := (h.idle hv).2.1
    simp [hedits, hv]

/-- A file whose bytes a step changes has the bytes of an upsert, unless the system lets it not be
written: then it may have been cut off. -/
theorem Stepped.bytes_of_changed {e : Except Fault Bool} {old new : Bytes}
    (h : Stepped r name w e w') (hbytes : r.Encodable w.disk name)
    (hold : w.disk.entry? q = some (.file old)) (hnew : w'.disk.entry? q = some (.file new))
    (hne : new ≠ old) :
    ∃ d p whole, Schema.lastNamed? r.classes name = some d ∧ r.payload d = .ok p ∧
      (Block.ReplacesBlock p old whole ∨ Block.InsertsComment name p old whole) ∧
      new <+: whole ∧ ((∀ f, e = .error f → f.isUnwritten = false) → new = whole) := by
  rcases h.idle_or_saved with ⟨hdisk, -⟩ | ⟨x, u, left?, hs⟩
  · rw [hdisk, hold] at hnew
    cases hnew
    exact absurd rfl hne
  · have hplace : x.target.place = q := by
      by_contra hq
      rw [hs.disk, Disk.entry?_leave_of_ne (Ne.symm hq), hold] at hnew
      cases hnew
      exact hne rfl
    subst hplace
    have hleft : left? = some new := by
      rw [hs.disk] at hnew
      cases left? with
      | none =>
        rw [Disk.leave, hold] at hnew
        cases hnew
        exact absurd rfl hne
      | some bytes =>
        rw [Disk.leave, Disk.entry?_write ⟨old, hold⟩, if_pos rfl] at hnew
        cases hnew
        rfl
    subst hleft
    obtain ⟨ht, hsource, ho⟩ := examine_eq_ok.mp hs.found
    obtain ⟨p, hp, hup⟩ := upsert_eq_ok.mp ho
    obtain ⟨before, hbefore, hencode⟩ := bytes_of_source ht hsource
    obtain rfl : before = old := by
      rw [hold] at hbefore
      cases hbefore
      rfl
    obtain ⟨whole, hwhole⟩ := hbytes.exists_bytes hs.found hs.made
    obtain ⟨a, hsave, rfl⟩ := hs.answer
    have hlast : Schema.lastNamed? r.classes name = some x.target.descriptor :=
      (target_eq_ok ht).2.1
    refine ⟨x.target.descriptor, p, whole, hlast, hp,
      Block.bytes_of_upsert hup hs.made hencode hwhole, ?_, ?_⟩
    · exact Disk.Device.prefix_of_save hwhole hsave
    · intro hwritten
      cases a with
      | ok _ => exact Except.ok.inj ((Disk.Device.encode_of_save hsave).symm.trans hwhole)
      | error f =>
        rcases Disk.Device.save_eq_error hsave with ⟨g, rfl⟩ | ⟨g, hg, -, -⟩
        · cases hwritten _ rfl
        · rw [hwhole] at hg
          cases hg

/-! ## Files that hold no text -/

theorem Stepped.spares {e : Except Fault Bool} (h : Stepped r name w e w')
    (hq : ¬HoldsText w.disk q) : Confined (· ≠ q) w w' := by
  apply h.confined_of
  rintro t text ht hs - rfl
  exact hq (holdsText_of_source ht hs)

theorem Stripped.spares {e : Except Fault Bool} (h : Stripped r name w e w')
    (hq : ¬HoldsText w.disk q) : Confined (· ≠ q) w w' := by
  apply h.confined_of
  rintro t text ht hs - rfl
  exact hq (holdsText_of_source ht hs)

theorem writes_of_spared (h : Confined (· ≠ q) w w') :
    ∃ written, w'.writes = w.writes ++ written ∧ q ∉ written ∧
      w'.disk.entry? q = w.disk.entry? q := by
  obtain ⟨edits, hwrites, hdisk, hplaces⟩ := h.writes_eq
  have hq : q ∉ edits.map Prod.fst := by
    intro hmem
    obtain ⟨e, he, rfl⟩ := List.mem_map.mp hmem
    exact hplaces e he rfl
  refine ⟨edits.map Prod.fst, hwrites, hq, ?_⟩
  rw [hdisk]
  exact Disk.entry?_leaveAll_of_not_mem hq

theorem holdsText_of_spared (h : Confined (· ≠ q) w w') (hq : ¬HoldsText w.disk q) :
    ¬HoldsText w'.disk q := by
  obtain ⟨-, -, -, hentry⟩ := writes_of_spared h
  unfold HoldsText
  rw [hentry]
  exact hq

theorem annotateEach_spares (r : Run) (ds : List Schema.Descriptor) (hq : ¬HoldsText w.disk q) :
    Confined (· ≠ q) w (r.annotateEach ds w).2 := by
  induction ds generalizing w with
  | nil => exact .of_eq rfl rfl
  | cons d ds ih =>
    rcases annotateEach_cons r d ds w with ⟨w₁, ha, h⟩ | ⟨f, w₁, hs, -, h⟩
    · have hfirst : Confined (· ≠ q) w w₁ := ha.confined_of fun hs => hs.spares hq
      rw [h]
      exact hfirst.trans (ih (holdsText_of_spared hfirst hq))
    · rw [h]
      exact hs.spares hq

theorem call_spares (r : Run) (c : Call) (hq : ¬HoldsText w.disk q) :
    Confined (· ≠ q) w (r.call c w).2 := by
  have hbatch : Confined (· ≠ q) w (r.batch w).2 := by
    rw [batch_snd]
    exact annotateEach_spares r r.worklist hq
  cases c with
  | annotateClass name => exact (stepped_annotateClass r name w).spares hq
  | annotateModule module =>
    rw [call, annotateModule]
    split
    · exact hbatch
    · exact .of_eq rfl rfl
  | annotateAll =>
    rw [call, annotateAll]
    split
    · exact hbatch
    · exact .of_eq rfl rfl
  | stripClass name => exact (stripped_stripClass r name w).spares hq

theorem after_spares (r : Run) (calls : List Call) (hq : ¬HoldsText w.disk q) :
    Confined (· ≠ q) w (r.after calls w) := by
  induction calls generalizing w with
  | nil => exact .of_eq rfl rfl
  | cons c calls ih =>
    have hcall := call_spares r c hq
    exact hcall.trans (ih (holdsText_of_spared hcall hq))

/-! ## Bytes that are kept -/

theorem Stepped.writes_iff_of_encodable {e : Except Fault Bool} (h : Stepped r name w e w')
    (hbytes : r.Encodable w.disk name) (hwritten : ∀ f, e = .error f → f.isUnwritten = false)
    (q : Disk.Place) :
    w'.writes = w.writes ++ [q] ↔ w'.disk.entry? q ≠ w.disk.entry? q := by
  cases e with
  | error f =>
    obtain rfl := h.eq_of_error hbytes (hwritten f rfl)
    simp
  | ok b =>
    cases hdry : r.dryRun with
    | false => exact h.writes_iff hdry q
    | true =>
      obtain ⟨hwrites, hdisk⟩ : w'.writes = w.writes ∧ w'.disk = w.disk := by
        apply Confined.eq_of_false
        apply h.confined_of
        intro t text _ _ hreal
        rw [hdry] at hreal
        cases hreal
      simp [hwrites, hdisk]

/-- A step for a class writes a file exactly if its bytes change, and then the bytes before and
after the block, or before and after the new comment, are kept, unless the system lets the file not
be written: then it may be cut off. A file whose bytes are those of no text is written by no call.
-/
theorem bytes_outside_block_are_kept (r : Run) (name : Text) (w : World) :
    (r.Encodable w.disk name → ∀ q old new, w.disk.entry? q = some (.file old) →
      (r.annotateClass name w).2.disk.entry? q = some (.file new) →
      ((∀ f, (r.annotateClass name w).1 = .error f → f.isUnwritten = false) →
        ((r.annotateClass name w).2.writes = w.writes ++ [q] ↔ new ≠ old)) ∧
      (new ≠ old → ∃ d p whole, Schema.lastNamed? r.classes name = some d ∧ r.payload d = .ok p ∧
        (Block.ReplacesBlock p old whole ∨ Block.InsertsComment name p old whole) ∧
        new <+: whole ∧
        ((∀ f, (r.annotateClass name w).1 = .error f → f.isUnwritten = false) → new = whole))) ∧
    ∀ q old, w.disk.entry? q = some (.file old) → (∀ text, encode text ≠ .ok old) →
      ∀ calls, (r.after calls w).disk.entry? q = some (.file old) ∧
        ∃ written, (r.after calls w).writes = w.writes ++ written ∧ q ∉ written := by
  constructor
  · intro hbytes q old new hold hnew
    have hstep := stepped_annotateClass r name w
    have hdiff : new ≠ old ↔
        (r.annotateClass name w).2.disk.entry? q ≠ w.disk.entry? q := by
      rw [hold, hnew]
      simp
    constructor
    · intro hwritten
      rw [hdiff]
      exact hstep.writes_iff_of_encodable hbytes hwritten q
    · exact hstep.bytes_of_changed hbytes hold hnew
  · intro q old hold hno calls
    have hq : ¬HoldsText w.disk q := by
      rintro ⟨text, bytes, hb, he⟩
      rw [hold] at hb
      cases hb
      exact hno text he
    obtain ⟨written, hwrites, hmem, hentry⟩ := writes_of_spared (after_spares r calls hq)
    exact ⟨hentry.trans hold, written, hwrites, hmem⟩

-- A byte order mark, line ends of two characters, a letter of two bytes and a zero byte.
private def pageHead : Text := "\uFEFF<?php\r\n// \u00e9\x00\r\n".points

private def pageTail : Text := "class Page extends Base\r\n".points

/-- A file with a byte order mark, and one that holds no text. -/
def markedDisk : Disk := brokenDisk.write ["page".points] (Disk.textBytes (pageHead ++ pageTail))

/-- The comment is put between the head and the tail of the file, and the other file is left alone.
-/
theorem bytes_outside_block_are_kept_marked :
    (∃ old new, old ≠ new ∧ markedDisk.entry? ["page".points] = some (.file old) ∧
      (mixedRun.annotateClass "Page".points { disk := markedDisk }).2.disk.entry?
        ["page".points] = some (.file new) ∧
      ∃ d p, Schema.lastNamed? mixedRun.classes "Page".points = some d ∧
        mixedRun.payload d = .ok p ∧
        (Block.ReplacesBlock p old new ∨ Block.InsertsComment "Page".points p old new)) ∧
    (mixedRun.after [.annotateClass "Tag".points, .stripClass "Tag".points, .annotateAll]
      { disk := markedDisk }).disk.entry? ["tag".points] = some (.file [0xFF]) := by
  have hbytes : mixedRun.Encodable markedDisk "Page".points :=
    encodable_of_isSound (by decide +kernel)
  have hold : markedDisk.entry? ["page".points] =
      some (.file (Disk.textBytes (pageHead ++ pageTail))) := by
    decide +kernel
  have hnew : (mixedRun.annotateClass "Page".points { disk := markedDisk }).2.disk.entry?
      ["page".points] = some (.file (Disk.textBytes
        (pageHead ++ Block.comment " * @property string $Title\n".points ++ pageTail))) := by
    decide +kernel
  have hne : Disk.textBytes (pageHead ++ Block.comment " * @property string $Title\n".points ++
      pageTail) ≠ Disk.textBytes (pageHead ++ pageTail) := by
    decide +kernel
  have hraw : markedDisk.entry? ["tag".points] = some (.file [0xFF]) := by decide +kernel
  have hno : ∀ text, encode text ≠ .ok [0xFF] := by
    intro text he
    obtain ⟨cs, hcs, -⟩ := Text.Utf8.decode_of_encode he
    cases hcs
  obtain ⟨hkept, hspared⟩ :=
    bytes_outside_block_are_kept mixedRun "Page".points { disk := markedDisk }
  have hreturns : (mixedRun.annotateClass "Page".points { disk := markedDisk }).1 = .ok true := by
    decide +kernel
  obtain ⟨d, p, whole, hd, hp, hform, -, hwhole⟩ := (hkept hbytes _ _ _ hold hnew).2 hne
  obtain rfl := hwhole (by simp [hreturns])
  exact ⟨⟨_, _, hne.symm, hold, hnew, d, p, hd, hp, hform⟩, (hspared _ _ hraw hno _).1⟩

end Run
end Docblocks
