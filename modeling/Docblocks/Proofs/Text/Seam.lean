import Docblocks.Text.Layout

/-!
Searching a text that is put together from pieces.

A seam between two texts is tight for a pattern when no place of the pattern begins before it and
ends after it. Over a tight seam places are found, counted and erased on both sides apart. Whether
a seam is tight can often be told from the pieces next to it, whatever stands further away; this
is `Seals`, which can be evaluated for fixed pieces. A text that is woven from given texts and fixed
pieces holds a pattern exactly if one of the given texts does, as long as the pattern is foreign to
each of the pieces.
-/

set_option autoImplicit false
set_option relaxedAutoImplicit false

namespace Docblocks.Text

variable {pat t u v a d m n : Text}

/-! ## Places -/

theorem cut?_eq_none_iff : cut? pat t = none ↔ ¬pat <:+: t := by
  induction t with
  | nil =>
    cases pat with
    | nil => simp [cut?]
    | cons c p => simp [cut?]
  | cons c t ih =>
    rw [cut?, List.infix_cons_iff, not_or, ← ih, ← List.isPrefixOf_iff_prefix]
    split
    · next hp => simp [hp]
    · next hp => simp [hp]

theorem exists_cut?_of_infix (h : pat <:+: t) : ∃ a d, cut? pat t = some (a, d) := by
  cases hc : cut? pat t with
  | none => exact absurd h (cut?_eq_none_iff.mp hc)
  | some p => exact ⟨p.1, p.2, rfl⟩

theorem infix_of_cut? (h : cut? pat t = some (a, d)) : pat <:+: t :=
  ⟨a, d, (eq_append_of_cut? h).symm⟩

private theorem countFrom_eq_zero_iff (hne : pat ≠ []) :
    countFrom pat 0 t = 0 ↔ ¬pat <:+: t := by
  induction t with
  | nil => simp [countFrom, hne]
  | cons c t ih =>
    rw [countFrom, List.infix_cons_iff, not_or, ← ih, ← List.isPrefixOf_iff_prefix]
    split
    · next hp => simp [hp]
    · next hp => simp [hp]

/-- Nothing is counted exactly when there is nothing to be found. -/
theorem count_eq_zero_iff (hne : pat ≠ []) : count pat t = 0 ↔ ¬pat <:+: t := by
  rw [count, if_neg (by simpa using hne)]
  exact countFrom_eq_zero_iff hne

theorem count_pos_iff (hne : pat ≠ []) : 0 < count pat t ↔ pat <:+: t := by
  rw [Nat.pos_iff_ne_zero, ne_eq, count_eq_zero_iff hne, Decidable.not_not]

theorem eraseAll_eq_self (h : ¬pat <:+: t) : eraseAll pat t = t := by
  unfold eraseAll
  induction t with
  | nil => rfl
  | cons c t ih =>
    rw [List.infix_cons_iff, not_or, ← List.isPrefixOf_iff_prefix] at h
    rw [eraseFrom, if_neg h.1, ih h.2]

/-! ## Tight seams -/

/-- No place of the pattern begins in the first text and ends in the second. -/
def Tight (pat u v : Text) : Prop :=
  ∀ p q, p ≠ [] → q ≠ [] → pat = p ++ q → p <:+ u → ¬q <+: v

/-- The pieces next to a seam make it tight: wherever the pattern is divided, its first part does
not go together with the piece on the left, or its second part with the piece on the right. -/
def Seals (pat m n : Text) : Prop :=
  ∀ i < pat.length, 0 < i →
    ¬(pat.take i <:+ m ∨ m <:+ pat.take i) ∨ ¬(pat.drop i <+: n ∨ n <+: pat.drop i)

instance (pat m n : Text) : Decidable (Seals pat m n) :=
  inferInstanceAs (Decidable (∀ i < pat.length, _))

theorem Seals.tight (h : Seals pat m n) (a d : Text) : Tight pat (a ++ m) (n ++ d) := by
  intro p q hp hq he hpu hqv
  have hi : 0 < p.length := List.length_pos_iff.mpr hp
  have hj : 0 < q.length := List.length_pos_iff.mpr hq
  have hl : p.length < pat.length := by
    rw [he, List.length_append]
    omega
  have ht : pat.take p.length = p := by rw [he, List.take_left]
  have hd : pat.drop p.length = q := by rw [he, List.drop_left]
  have hs := h p.length hl hi
  rw [ht, hd] at hs
  rcases hs with hm | hn
  · exact hm (List.suffix_or_suffix_of_suffix hpu (List.suffix_append a m))
  · exact hn (List.prefix_or_prefix_of_prefix hqv (List.prefix_append n d))

theorem Seals.tight_left (h : Seals pat m []) (a v : Text) : Tight pat (a ++ m) v := by
  simpa using h.tight a v

theorem Seals.tight_right (h : Seals pat [] n) (u d : Text) : Tight pat u (n ++ d) := by
  simpa using h.tight u d

/-- A code point that the pattern does not have seals the seam before it. -/
theorem seals_of_head {c : Point} (hc : c ∉ pat) (n : Text) : Seals pat [] (c :: n) := by
  intro i hi _
  right
  have hmem : ∀ b ∈ pat.drop i, b ∈ pat := fun b => List.mem_of_mem_drop
  cases hd : pat.drop i with
  | nil =>
    have hl := List.drop_eq_nil_iff.mp hd
    omega
  | cons b e =>
    rw [hd] at hmem
    rintro (h | h)
    · exact hc ((List.cons_prefix_cons.mp h).1 ▸ hmem b List.mem_cons_self)
    · exact hc (hmem c (h.subset List.mem_cons_self))

/-- A code point that the pattern does not have seals the seam after it. -/
theorem seals_of_last {c : Point} (hc : c ∉ pat) (m : Text) : Seals pat (m ++ [c]) [] := by
  intro i hi hpos
  left
  have hmem : ∀ b ∈ pat.take i, b ∈ pat := fun b => List.mem_of_mem_take
  rcases List.eq_nil_or_concat (pat.take i) with ht | ⟨l, b, ht⟩
  · have hl := congrArg List.length ht
    simp only [List.length_take, List.length_nil] at hl
    omega
  · rw [ht, List.concat_eq_append] at hmem ⊢
    rintro (⟨s, hs⟩ | h)
    · rw [← List.append_assoc] at hs
      obtain ⟨-, hb⟩ := List.append_inj' hs rfl
      exact hc (List.singleton_inj.mp hb ▸ hmem b (by simp))
    · exact hc (hmem c (h.subset (by simp)))

private theorem Tight.tail {c : Point} (h : Tight pat (c :: u) v) : Tight pat u v := by
  intro p q hp hq he hpu
  exact h p q hp hq he (hpu.trans (List.suffix_cons c u))

-- A place at the front of `c :: u ++ v` would cross the seam if it did not end in `c :: u`.
private theorem Tight.prefix_iff {c : Point} (h : Tight pat (c :: u) v) :
    pat <+: c :: (u ++ v) ↔ pat <+: c :: u := by
  constructor
  · intro hp
    have hu : c :: u <+: c :: (u ++ v) := ⟨v, rfl⟩
    rcases List.prefix_or_prefix_of_prefix hp hu with hpu | ⟨q, hq⟩
    · exact hpu
    · cases q with
      | nil => exact ⟨[], by simpa using hq.symm⟩
      | cons b q =>
        obtain ⟨d, hd⟩ := hp
        have hv : b :: q <+: v := by
          refine ⟨d, ?_⟩
          rw [← hq] at hd
          simpa using hd
        exact absurd hv (h _ _ (by simp) (by simp) hq.symm (List.suffix_refl _))
  · rintro ⟨e, he⟩
    exact ⟨e ++ v, by rw [← List.append_assoc, he]; rfl⟩

private theorem countFrom_append (h : Tight pat u v) (k : Nat) (hk : k ≤ u.length) :
    countFrom pat k (u ++ v) = countFrom pat k u + countFrom pat 0 v := by
  induction u generalizing k with
  | nil =>
    have hz : k = 0 := by simpa using hk
    subst hz
    simp [countFrom]
  | cons c u ih =>
    cases k with
    | succ k =>
      simp only [List.cons_append, countFrom]
      exact ih h.tail k (by simpa using hk)
    | zero =>
      simp only [List.cons_append, countFrom, List.isPrefixOf_iff_prefix, h.prefix_iff]
      split
      · next hp =>
        have hl := hp.length_le
        simp only [List.length_cons] at hl
        rw [ih h.tail (pat.length - 1) (by omega)]
        omega
      · exact ih h.tail 0 (Nat.zero_le _)

/-- Over a tight seam the places of both sides are counted apart. -/
theorem Tight.count_append (hne : pat ≠ []) (h : Tight pat u v) :
    count pat (u ++ v) = count pat u + count pat v := by
  have he : ¬pat.isEmpty = true := by simpa using hne
  simp only [count, if_neg he]
  exact countFrom_append h 0 (Nat.zero_le _)

private theorem eraseFrom_append (h : Tight pat u v) (k : Nat) (hk : k ≤ u.length) :
    eraseFrom pat k (u ++ v) = eraseFrom pat k u ++ eraseFrom pat 0 v := by
  induction u generalizing k with
  | nil =>
    have hz : k = 0 := by simpa using hk
    subst hz
    simp [eraseFrom]
  | cons c u ih =>
    cases k with
    | succ k =>
      simp only [List.cons_append, eraseFrom]
      exact ih h.tail k (by simpa using hk)
    | zero =>
      simp only [List.cons_append, eraseFrom, List.isPrefixOf_iff_prefix, h.prefix_iff]
      split
      · next hp =>
        have hl := hp.length_le
        simp only [List.length_cons] at hl
        exact ih h.tail (pat.length - 1) (by omega)
      · rw [ih h.tail 0 (Nat.zero_le _)]
        rfl

/-- Over a tight seam the places of both sides are erased apart. -/
theorem Tight.eraseAll_append (h : Tight pat u v) :
    eraseAll pat (u ++ v) = eraseAll pat u ++ eraseAll pat v :=
  eraseFrom_append h 0 (Nat.zero_le _)

private theorem eraseFrom_sublist (pat : Text) (k : Nat) (t : Text) :
    (eraseFrom pat k t).Sublist t := by
  induction t generalizing k with
  | nil => simp [eraseFrom]
  | cons c t ih =>
    cases k with
    | succ k => exact (ih k).cons c
    | zero =>
      rw [eraseFrom]
      split
      · exact (ih _).cons c
      · exact (ih 0).cons_cons c

/-- What is left of a text stands in the text, in the same order. -/
theorem eraseAll_sublist (pat t : Text) : (eraseAll pat t).Sublist t :=
  eraseFrom_sublist pat 0 t

/-- What is erased makes the text shorter. -/
theorem length_eraseAll_lt (hne : pat ≠ []) (h : pat <:+: t) :
    (eraseAll pat t).length < t.length := by
  unfold eraseAll
  induction t with
  | nil => exact absurd (List.infix_nil.mp h) hne
  | cons c t ih =>
    rw [List.infix_cons_iff, ← List.isPrefixOf_iff_prefix] at h
    rw [eraseFrom, List.length_cons]
    split
    · have hle := (eraseFrom_sublist pat (pat.length - 1) t).length_le
      omega
    · next hp =>
      have hlt := ih (h.resolve_left hp)
      rw [List.length_cons]
      omega

private theorem eraseFrom_eq_nil (k : Nat) (hk : t.length ≤ k) : eraseFrom pat k t = [] := by
  induction t generalizing k with
  | nil => simp [eraseFrom]
  | cons c t ih =>
    cases k with
    | zero => simp at hk
    | succ k => exact ih k (by simpa using hk)

theorem eraseAll_self (hne : pat ≠ []) : eraseAll pat pat = [] := by
  obtain ⟨c, p, rfl⟩ := List.exists_cons_of_ne_nil hne
  have hp : (c :: p).isPrefixOf (c :: p) = true :=
    List.isPrefixOf_iff_prefix.mpr (List.prefix_refl _)
  rw [eraseAll, eraseFrom, if_pos hp]
  exact eraseFrom_eq_nil _ (by simp)

/-- A place that nothing crosses is the only one erased if there is none on either side. -/
theorem eraseAll_around (hne : pat ≠ []) (hl : Seals pat [] pat) (hr : Seals pat pat [])
    (ha : ¬pat <:+: a) (hd : ¬pat <:+: d) : eraseAll pat (a ++ pat ++ d) = a ++ d := by
  have hleft : Tight pat a (pat ++ []) := hl.tight_right a []
  rw [List.append_nil] at hleft
  rw [(hr.tight_left a d).eraseAll_append, hleft.eraseAll_append, eraseAll_self hne,
    eraseAll_eq_self ha, eraseAll_eq_self hd, List.append_nil]

/-- A place on the left of a seam is met first. -/
theorem cut?_append_left (h : cut? pat u = some (a, d)) (v : Text) :
    cut? pat (u ++ v) = some (a, d ++ v) := by
  induction u generalizing a with
  | nil =>
    cases pat with
    | nil =>
      obtain ⟨rfl, rfl⟩ : a = [] ∧ d = [] := by simpa [cut?, eq_comm] using h
      cases v <;> simp [cut?]
    | cons c p => simp [cut?] at h
  | cons c u ih =>
    rw [cut?] at h
    rw [List.cons_append, cut?]
    split at h
    · next hp =>
      rw [List.isPrefixOf_iff_prefix] at hp
      obtain ⟨rfl, rfl⟩ := Prod.mk.inj (Option.some.inj h)
      have hpv : pat.isPrefixOf (c :: (u ++ v)) = true :=
        List.isPrefixOf_iff_prefix.mpr (hp.trans ⟨v, rfl⟩)
      rw [if_pos hpv, ← List.cons_append, List.drop_append_of_le_length hp.length_le]
    · next hp =>
      obtain ⟨⟨b, e⟩, hb, he⟩ := Option.map_eq_some_iff.mp h
      obtain ⟨rfl, rfl⟩ := Prod.mk.inj he
      -- The pattern fits into `u`, so at the front it does not reach over the seam.
      have hl : pat.length ≤ (c :: u).length :=
        Nat.le_succ_of_le (infix_of_cut? hb).length_le
      have hpv : ¬pat.isPrefixOf (c :: (u ++ v)) = true := by
        rw [List.isPrefixOf_iff_prefix]
        intro hq
        have hu : c :: u <+: c :: (u ++ v) := ⟨v, rfl⟩
        exact hp (List.isPrefixOf_iff_prefix.mpr (List.prefix_of_prefix_length_le hq hu hl))
      rw [if_neg hpv, ih hb]
      rfl

/-- Without a place on the left of a tight seam, the first place on the right is met first. -/
theorem Tight.cut?_append_right (h : Tight pat u v) (hu : ¬pat <:+: u) :
    cut? pat (u ++ v) = (cut? pat v).map fun p => (u ++ p.1, p.2) := by
  induction u with
  | nil => simp
  | cons c u ih =>
    rw [List.infix_cons_iff, not_or] at hu
    have hp : ¬pat.isPrefixOf (c :: (u ++ v)) = true := by
      rw [List.isPrefixOf_iff_prefix, h.prefix_iff]
      exact hu.1
    rw [List.cons_append, cut?, if_neg hp, ih h.tail hu.2, Option.map_map]
    rfl

theorem cut?_self_append (pat v : Text) : cut? pat (pat ++ v) = some ([], v) := by
  cases pat with
  | nil => cases v <;> simp [cut?]
  | cons c p => simp [cut?]

/-- A text is cut at a place that nothing comes before. -/
theorem Tight.cut?_append_self (h : Tight pat u (pat ++ v)) (hu : ¬pat <:+: u) :
    cut? pat (u ++ (pat ++ v)) = some (u, v) := by
  rw [h.cut?_append_right hu, cut?_self_append]
  simp

/-! ## Pieces that a pattern is foreign to -/

/-- The pattern does not stand in the piece and crosses neither end of it, whatever is around it. -/
def Foreign (pat k : Text) : Prop :=
  pat ≠ [] ∧ count pat k = 0 ∧ Seals pat [] k ∧ Seals pat k []

instance (pat k : Text) : Decidable (Foreign pat k) :=
  inferInstanceAs (Decidable (pat ≠ [] ∧ count pat k = 0 ∧ Seals pat [] k ∧ Seals pat k []))

/-- A pattern is foreign to a piece that opens with a code point which the pattern does not have,
and that does not have the code point which the pattern opens with. -/
theorem foreign_of_heads {b c : Point} (hpat : pat.head? = some b) (hk : m.head? = some c)
    (hb : b ∉ m) (hc : c ∉ pat) : Foreign pat m := by
  obtain ⟨p, rfl⟩ := List.head?_eq_some_iff.mp hpat
  obtain ⟨k, rfl⟩ := List.head?_eq_some_iff.mp hk
  have hno : ¬b :: p <:+: c :: k := fun hin => hb (hin.subset List.mem_cons_self)
  refine ⟨List.cons_ne_nil b p, (count_eq_zero_iff (List.cons_ne_nil b p)).mpr hno,
    seals_of_head hc k, ?_⟩
  intro i _ hi
  obtain ⟨j, rfl⟩ := Nat.exists_eq_succ_of_ne_zero (Nat.ne_of_gt hi)
  left
  rw [List.take_succ_cons]
  rintro (h | h)
  · exact hb (h.subset List.mem_cons_self)
  · have hmem : c ∈ b :: p.take j := h.subset List.mem_cons_self
    rw [← List.take_succ_cons] at hmem
    exact hc (List.mem_of_mem_take hmem)

/-- Around a piece that it is foreign to, a pattern stands on either side apart. -/
theorem Foreign.infix_around (h : Foreign pat m) (a d : Text) :
    pat <:+: a ++ m ++ d ↔ pat <:+: a ∨ pat <:+: d := by
  obtain ⟨hne, hzero, hl, hr⟩ := h
  have hleft : Tight pat a (m ++ []) := hl.tight_right a []
  rw [List.append_nil] at hleft
  rw [← count_pos_iff hne, ← count_pos_iff hne, ← count_pos_iff hne,
    (hr.tight_left a d).count_append hne, hleft.count_append hne]
  omega

theorem Foreign.infix_left (h : Foreign pat m) (a : Text) : pat <:+: a ++ m ↔ pat <:+: a := by
  have haround := h.infix_around a []
  rwa [List.append_nil, List.infix_nil, or_iff_left h.1] at haround

theorem Foreign.infix_right (h : Foreign pat m) (d : Text) : pat <:+: m ++ d ↔ pat <:+: d := by
  have haround := h.infix_around [] d
  rwa [List.nil_append, List.infix_nil, or_iff_right h.1] at haround

/-- A pattern stands in a joined text exactly if it stands in one of the texts. -/
theorem Foreign.infix_join (h : Foreign pat m) (ts : List Text) :
    pat <:+: join m ts ↔ ∃ t ∈ ts, pat <:+: t := by
  induction ts with
  | nil => simp [join, h.1]
  | cons t ts ih =>
    cases ts with
    | nil => simp [join]
    | cons u ts =>
      rw [join, h.infix_around, ih]
      simp only [List.mem_cons, exists_eq_or_imp]

end Docblocks.Text
