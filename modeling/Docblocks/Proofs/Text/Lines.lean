import Docblocks.Proofs.Text.Places

/-!
Texts line by line.

A pattern with a line end nowhere but at its own end crosses no line end of a text, so that it is
found, counted and erased in each line apart. If it is a line itself, and begins a line wherever it
stands, then erasing it is leaving out the lines that are equal to it. A text is a list of whole
lines and a rest in one way only, which `Divides` says without a recursion on the text.
-/

set_option autoImplicit false
set_option relaxedAutoImplicit false

namespace Docblocks.Text

variable {pat t k u : Text}

/-- The lines of a text, each with its line end; only the last one may be without. -/
def lines : Text → List Text
  | [] => []
  | c :: t =>
    if c = '\n' then [c] :: lines t
    else
      match lines t with
      | [] => [[c]]
      | l :: ls => (c :: l) :: ls

theorem lines_of_not_mem (hne : t ≠ []) (h : Point.char '\n' ∉ t) : lines t = [t] := by
  induction t with
  | nil => exact absurd rfl hne
  | cons c t ih =>
    rw [List.mem_cons, not_or] at h
    rw [lines, if_neg (Ne.symm h.1)]
    cases t with
    | nil => rfl
    | cons b t => rw [ih (List.cons_ne_nil b t) h.2]

theorem lines_append (h : Point.char '\n' ∉ k) (u : Text) :
    lines (k ++ [Point.char '\n'] ++ u) = (k ++ [Point.char '\n']) :: lines u := by
  induction k with
  | nil => simp [lines]
  | cons c k ih =>
    rw [List.mem_cons, not_or] at h
    rw [List.cons_append, List.cons_append, lines, if_neg (Ne.symm h.1), ih h.2]

/-- A text is empty, or a line without an end, or a line followed by a text. -/
@[elab_as_elim] theorem line_induction {P : Text → Prop} (nil : P [])
    (rest : ∀ t, t ≠ [] → Point.char '\n' ∉ t → P t)
    (line : ∀ k u, Point.char '\n' ∉ k → P u → P (k ++ [Point.char '\n'] ++ u)) (t : Text) :
    P t := by
  -- A line is taken off, so the induction is on the length.
  generalize hn : t.length = n
  induction n using Nat.strongRecOn generalizing t with
  | ind n ih =>
    by_cases hmem : Point.char '\n' ∈ t
    · obtain ⟨k, u, rfl, hk⟩ := List.eq_append_cons_of_mem hmem
      have hlt : u.length < n := by
        rw [← hn, List.length_append, List.length_cons]
        omega
      have hu := line k u hk (ih u.length hlt u rfl)
      simpa using hu
    · cases t with
      | nil => exact nil
      | cons c t => exact rest (c :: t) (List.cons_ne_nil c t) hmem

theorem flatten_lines (t : Text) : (lines t).flatten = t := by
  induction t using line_induction with
  | nil => rfl
  | rest t hne h => rw [lines_of_not_mem hne h, List.flatten_singleton]
  | line k u hk ih => rw [lines_append hk, List.flatten_cons, ih]

/-- Leaving lines out keeps the others as lines. -/
theorem lines_flatten_filter (f : Text → Bool) (t : Text) :
    lines ((lines t).filter f).flatten = (lines t).filter f := by
  induction t using line_induction with
  | nil => rfl
  | rest t hne h =>
    rw [lines_of_not_mem hne h, List.filter_cons]
    split
    · rw [List.filter_nil, List.flatten_singleton, lines_of_not_mem hne h]
    · rfl
  | line k u hk ih =>
    rw [lines_append hk, List.filter_cons]
    split
    · rw [List.flatten_cons, lines_append hk, ih]
    · exact ih

/-! ## Patterns that cross no line end -/

/-- The pattern is not empty and has a line end nowhere but at its own end. -/
def Short (pat : Text) : Prop := pat ≠ [] ∧ Point.char '\n' ∉ pat.dropLast

instance (pat : Text) : Decidable (Short pat) :=
  inferInstanceAs (Decidable (pat ≠ [] ∧ Point.char '\n' ∉ pat.dropLast))

theorem Short.tight (h : Short pat) (k u : Text) : Tight pat (k ++ [Point.char '\n']) u := by
  intro p q hp hq he hpk _
  obtain ⟨l, c, rfl⟩ : ∃ l c, p = l ++ [c] := by
    rcases List.eq_nil_or_concat p with hnil | ⟨l, c, hl⟩
    · exact absurd hnil hp
    · exact ⟨l, c, by simpa using hl⟩
  obtain ⟨s, hs⟩ := hpk
  rw [← List.append_assoc] at hs
  obtain ⟨-, hc⟩ := List.append_inj' hs rfl
  apply h.2
  rw [he, List.dropLast_append_of_ne_nil hq, List.singleton_inj.mp hc]
  simp

theorem Short.count_line (h : Short pat) (k u : Text) :
    count pat (k ++ [Point.char '\n'] ++ u) = count pat (k ++ [Point.char '\n']) + count pat u :=
  (h.tight k u).count_append h.1

theorem Short.infix_iff (h : Short pat) : pat <:+: t ↔ ∃ l ∈ lines t, pat <:+: l := by
  induction t using line_induction with
  | nil => simp [lines, h.1]
  | rest t hne hmem => simp [lines_of_not_mem hne hmem]
  | line k u hk ih =>
    have hcount := h.count_line k u
    have hseam : pat <:+: k ++ [Point.char '\n'] ++ u ↔
        pat <:+: k ++ [Point.char '\n'] ∨ pat <:+: u := by
      rw [← count_pos_iff h.1, ← count_pos_iff h.1, ← count_pos_iff h.1]
      omega
    rw [hseam, ih, lines_append hk]
    simp only [List.mem_cons, exists_eq_or_imp]

/-! ## Patterns that are lines -/

/-- Wherever the pattern stands in the text, it begins a line. -/
def BeginsLines (pat t : Text) : Prop :=
  ∀ i ∈ places pat t, ∀ c ∈ (t.take i).getLast?, c = '\n'

instance (pat t : Text) : Decidable (BeginsLines pat t) :=
  inferInstanceAs (Decidable (∀ i ∈ places pat t, ∀ c ∈ (t.take i).getLast?, c = '\n'))

theorem beginsLines_iff : BeginsLines pat t ↔
    ∀ a d, t = a ++ pat ++ d → ∀ c ∈ a.getLast?, c = '\n' := by
  constructor
  · rintro h a d rfl
    have ha := h a.length (mem_places.mpr ⟨a, d, rfl, rfl⟩)
    rwa [List.append_assoc, List.take_left] at ha
  · intro h i hi
    obtain ⟨a, d, rfl, rfl⟩ := mem_places.mp hi
    rw [List.append_assoc, List.take_left]
    exact h a d rfl

/-- The pattern is a line with its end. -/
def IsLine (pat : Text) : Prop := ∃ k, pat = k ++ [Point.char '\n'] ∧ Point.char '\n' ∉ k

theorem IsLine.short (h : IsLine pat) : Short pat := by
  obtain ⟨k, rfl, hk⟩ := h
  exact ⟨by simp, by simpa using hk⟩

private theorem IsLine.not_infix_of_not_mem (h : IsLine pat) (ht : Point.char '\n' ∉ t) :
    ¬pat <:+: t := by
  obtain ⟨k, rfl, -⟩ := h
  intro hin
  exact ht (hin.subset (by simp))

-- The line end of the pattern can only be the one at the end of the line.
private theorem IsLine.exists_front (h : IsLine pat) (hk : Point.char '\n' ∉ k)
    (hin : pat <:+: k ++ [Point.char '\n']) : ∃ a, k ++ [Point.char '\n'] = a ++ pat := by
  obtain ⟨a, d, had⟩ := hin
  rcases List.eq_nil_or_concat d with rfl | ⟨d', c, rfl⟩
  · exact ⟨a, by simpa using had.symm⟩
  · rw [List.concat_eq_append, ← List.append_assoc] at had
    obtain ⟨hfront, -⟩ := List.append_inj' had rfl
    have hpat : pat <:+: k := ⟨a, d', hfront⟩
    exact absurd hpat (h.not_infix_of_not_mem hk)

/-- A line that begins lines wherever it stands is a whole line there. -/
theorem BeginsLines.line_eq (hb : BeginsLines pat t) (h : IsLine pat) :
    ∀ l ∈ lines t, pat <:+: l → l = pat := by
  rw [beginsLines_iff] at hb
  induction t using line_induction with
  | nil =>
    intro l hl
    cases hl
  | rest t hne hmem =>
    intro l hl hin
    rw [lines_of_not_mem hne hmem, List.mem_singleton] at hl
    rw [hl] at hin
    exact absurd hin (h.not_infix_of_not_mem hmem)
  | line k u hk ih =>
    intro l hl hin
    rw [lines_append hk, List.mem_cons] at hl
    rcases hl with rfl | hl
    · obtain ⟨a, ha⟩ := h.exists_front hk hin
      rcases List.eq_nil_or_concat a with rfl | ⟨a', c, rfl⟩
      · simpa using ha
      · rw [List.concat_eq_append] at ha
        have hc : c = '\n' := hb (a' ++ [c]) u (by rw [ha]) c (by simp)
        obtain ⟨k₀, rfl, -⟩ := h
        rw [← List.append_assoc] at ha
        obtain ⟨rfl, -⟩ := List.append_inj' ha rfl
        exact absurd (by simp [hc]) hk
    · refine ih ?_ l hl hin
      intro a d hd c hc
      apply hb (k ++ [Point.char '\n'] ++ a) d (by rw [hd]; simp) c
      rw [List.getLast?_append, hc]
      rfl

/-- Erasing a line that is whole wherever it stands leaves out the lines equal to it. -/
theorem IsLine.eraseAll_eq (h : IsLine pat) (hl : ∀ l ∈ lines t, pat <:+: l → l = pat) :
    eraseAll pat t = ((lines t).filter (· ≠ pat)).flatten := by
  induction t using line_induction with
  | nil => rfl
  | rest t hne hmem =>
    have hno : ¬pat <:+: t := h.not_infix_of_not_mem hmem
    have hkeep : t ≠ pat := by
      rintro rfl
      exact hno (List.infix_refl t)
    rw [eraseAll_eq_self hno, lines_of_not_mem hne hmem]
    simp [hkeep]
  | line k u hk ih =>
    rw [lines_append hk, List.forall_mem_cons] at hl
    rw [(h.short.tight k u).eraseAll_append, ih hl.2, lines_append hk, List.filter_cons]
    by_cases hline : k ++ [Point.char '\n'] = pat
    · simp [hline, eraseAll_self h.short.1]
    · have hno : ¬pat <:+: k ++ [Point.char '\n'] := fun hin => hline (hl.1 hin)
      rw [eraseAll_eq_self hno]
      simp [hline]

/-! ## Whole lines and a rest -/

/-- The text is made of these lines, each with its end, and a rest without a line end. -/
structure Divides (ls : List Text) (rest t : Text) : Prop where
  eq : t = ls.flatten ++ rest
  whole : ∀ l ∈ ls, IsLine l
  unended : Point.char '\n' ∉ rest

theorem Divides.cons {ls : List Text} {rest l : Text} (hl : IsLine l) (h : Divides ls rest t) :
    Divides (l :: ls) rest (l ++ t) :=
  ⟨by rw [h.eq, List.flatten_cons, List.append_assoc], List.forall_mem_cons.mpr ⟨hl, h.whole⟩,
    h.unended⟩

theorem exists_divides (t : Text) : ∃ ls rest, Divides ls rest t := by
  induction t using line_induction with
  | nil => exact ⟨[], [], rfl, by simp, by simp⟩
  | rest t _ h => exact ⟨[], t, rfl, by simp, h⟩
  | line k u hk ih =>
    obtain ⟨ls, rest, h⟩ := ih
    exact ⟨_, rest, h.cons ⟨k, rfl, hk⟩⟩

/-- A text has its lines and its rest in one way only. -/
theorem Divides.lines_eq {ls : List Text} {rest : Text} (h : Divides ls rest t) :
    lines t = ls ++ if rest = [] then [] else [rest] := by
  obtain ⟨rfl, hls, hrest⟩ := h
  induction ls with
  | nil =>
    by_cases hnil : rest = []
    · simp [hnil, lines]
    · simp [hnil, lines_of_not_mem hnil hrest]
  | cons l ls ih =>
    rw [List.forall_mem_cons] at hls
    obtain ⟨⟨k, rfl, hk⟩, hls⟩ := hls
    rw [List.flatten_cons, List.append_assoc, lines_append hk, ih hls]
    rfl

/-- Leaving lines out keeps the rest and the other lines whole. -/
theorem Divides.filter {ls : List Text} {rest : Text} (h : Divides ls rest t) (f : Text → Bool)
    (hf : f rest = true) : Divides (ls.filter f) rest ((lines t).filter f).flatten := by
  refine ⟨?_, fun l hl => h.whole l (List.mem_filter.mp hl).1, h.unended⟩
  rw [h.lines_eq, List.filter_append, List.flatten_append]
  split
  · next hnil => simp [hnil]
  · simp [hf]

end Docblocks.Text
