import Docblocks.Text.Utf8

/-!
Reading back the bytes of a text.

One lemma for each width says when bytes are read as a character; the bytes of a character meet the
condition of their width. So the bytes of a text decode to the text; and bytes that decode to a text
are the bytes of this text, piece by piece.
-/

set_option autoImplicit false
set_option relaxedAutoImplicit false

namespace Docblocks.Text.Utf8

variable {a b c d : UInt8} {r : List UInt8} {pos : Nat}

/-! ## Reading one character -/

theorem isTail_iff : isTail b = true ↔ 0x80 ≤ b.toNat ∧ b.toNat < 0xC0 := by
  simp [isTail, UInt8.le_iff_toNat_le, UInt8.lt_iff_toNat_lt]

theorem isSecond_iff : isSecond a b = true ↔
    isTail b = true ∧ (a.toNat = 0xE0 → 0xA0 ≤ b.toNat) ∧ (a.toNat = 0xED → b.toNat < 0xA0) ∧
      (a.toNat = 0xF0 → 0x90 ≤ b.toNat) ∧ (a.toNat = 0xF4 → b.toNat < 0x90) := by
  simp [isSecond, UInt8.le_iff_toNat_le, UInt8.lt_iff_toNat_lt, ← UInt8.toNat_inj,
    ← Decidable.imp_iff_not_or, and_assoc]

private theorem not_lt_of_lead (ha : 0xC2 ≤ a.toNat) : ¬a < 0x80 := by
  rw [UInt8.lt_iff_toNat_lt]
  exact Nat.not_lt.mpr (Nat.le_trans (by decide) ha)

private theorem not_outside_of_lead (ha : 0xC2 ≤ a.toNat) (ha' : a.toNat ≤ 0xF4) :
    ¬(a < 0xC2 ∨ 0xF4 < a) := by
  rw [UInt8.lt_iff_toNat_lt, UInt8.lt_iff_toNat_lt]
  exact not_or.mpr ⟨Nat.not_lt.mpr ha, Nat.not_lt.mpr ha'⟩

theorem decodeAt_one (ha : a.toNat < 0x80) :
    decodeAt pos (a :: r) = (decodeAt (pos + 1) r).map (Char.ofNat a.toNat :: ·) := by
  have h : a < 0x80 := UInt8.lt_iff_toNat_lt.mpr ha
  rw [decodeAt.eq_def]
  simp [h]

theorem decodeAt_two (ha : 0xC2 ≤ a.toNat) (ha' : a.toNat < 0xE0) (hb : isSecond a b = true) :
    decodeAt pos (a :: b :: r) =
      (decodeAt (pos + 2) r).map (Char.ofNat ((a.toNat - 0xC0) * 64 + tailBits b) :: ·) := by
  have h : a < 0xE0 := UInt8.lt_iff_toNat_lt.mpr ha'
  rw [decodeAt.eq_def]
  simp [not_lt_of_lead ha, not_outside_of_lead ha (by omega), hb, h]

theorem decodeAt_three (ha : 0xE0 ≤ a.toNat) (ha' : a.toNat < 0xF0) (hb : isSecond a b = true)
    (hc : isTail c = true) :
    decodeAt pos (a :: b :: c :: r) =
      (decodeAt (pos + 3) r).map
        (Char.ofNat (((a.toNat - 0xE0) * 64 + tailBits b) * 64 + tailBits c) :: ·) := by
  have hn : ¬a < 0xE0 := by
    rw [UInt8.lt_iff_toNat_lt]
    exact Nat.not_lt.mpr ha
  have h : a < 0xF0 := UInt8.lt_iff_toNat_lt.mpr ha'
  rw [decodeAt.eq_def]
  simp [not_lt_of_lead (a := a) (by omega), not_outside_of_lead (a := a) (by omega) (by omega), hb,
    hc, hn, h]

theorem decodeAt_four (ha : 0xF0 ≤ a.toNat) (ha' : a.toNat ≤ 0xF4) (hb : isSecond a b = true)
    (hc : isTail c = true) (hd : isTail d = true) :
    decodeAt pos (a :: b :: c :: d :: r) =
      (decodeAt (pos + 4) r).map
        (Char.ofNat ((((a.toNat - 0xF0) * 64 + tailBits b) * 64 + tailBits c) * 64 +
          tailBits d) :: ·) := by
  have hn : ¬a < 0xE0 := by
    rw [UInt8.lt_iff_toNat_lt]
    exact Nat.not_lt.mpr (Nat.le_trans (by decide) ha)
  have hn' : ¬a < 0xF0 := by
    rw [UInt8.lt_iff_toNat_lt]
    exact Nat.not_lt.mpr ha
  rw [decodeAt.eq_def]
  simp [not_lt_of_lead (a := a) (by omega), not_outside_of_lead (a := a) (by omega) ha', hb, hc, hd,
    hn, hn']

/-! ## Reading back the bytes of one character -/

private theorem toNat_ofNat {n : Nat} (h : n < 256) : (UInt8.ofNat n).toNat = n := by
  simp [Nat.mod_eq_of_lt h]

private theorem isTail_ofNat (n : Nat) : isTail (UInt8.ofNat (n % 0x40 + 0x80)) = true := by
  rw [isTail_iff, toNat_ofNat (by omega)]
  omega

private theorem tailBits_ofNat (n : Nat) : tailBits (UInt8.ofNat (n % 0x40 + 0x80)) = n % 0x40 := by
  have h := toNat_ofNat (n := n % 0x40 + 0x80) (by omega)
  unfold tailBits
  omega

private theorem decodeAt_bytes_two {v : Nat} (hv : 0x7f < v) (hv' : v ≤ 0x7ff) :
    decodeAt pos (UInt8.ofNat (v / 64 % 0x20 + 0xc0) :: UInt8.ofNat (v % 0x40 + 0x80) :: r) =
      (decodeAt (pos + 2) r).map (Char.ofNat v :: ·) := by
  have h := toNat_ofNat (n := v / 64 % 0x20 + 0xc0) (by omega)
  have hb : isSecond (UInt8.ofNat (v / 64 % 0x20 + 0xc0))
      (UInt8.ofNat (v % 0x40 + 0x80)) = true := by
    rw [isSecond_iff, h]
    exact ⟨isTail_ofNat v, by omega, by omega, by omega, by omega⟩
  have he : (v / 64 % 0x20 + 0xc0 - 0xC0) * 64 + v % 0x40 = v := by omega
  rw [decodeAt_two (by omega) (by omega) hb, h, tailBits_ofNat, he]

-- Surrogates are left out of the characters, so a leading `0xED` is not followed by too much.
private theorem decodeAt_bytes_three {v : Nat} (hv : 0x7ff < v) (hv' : v ≤ 0xffff)
    (hs : v < 0xd800 ∨ 0xdfff < v) :
    decodeAt pos (UInt8.ofNat (v / 4096 % 0x10 + 0xe0) :: UInt8.ofNat (v / 64 % 0x40 + 0x80) ::
        UInt8.ofNat (v % 0x40 + 0x80) :: r) =
      (decodeAt (pos + 3) r).map (Char.ofNat v :: ·) := by
  have h := toNat_ofNat (n := v / 4096 % 0x10 + 0xe0) (by omega)
  have h' := toNat_ofNat (n := v / 64 % 0x40 + 0x80) (by omega)
  have hb : isSecond (UInt8.ofNat (v / 4096 % 0x10 + 0xe0))
      (UInt8.ofNat (v / 64 % 0x40 + 0x80)) = true := by
    rw [isSecond_iff, h, h']
    exact ⟨isTail_ofNat (v / 64), by omega, by omega, by omega, by omega⟩
  have he : ((v / 4096 % 0x10 + 0xe0 - 0xE0) * 64 + v / 64 % 0x40) * 64 + v % 0x40 = v := by omega
  rw [decodeAt_three (by omega) (by omega) hb (isTail_ofNat v), h, tailBits_ofNat, tailBits_ofNat,
    he]

private theorem decodeAt_bytes_four {v : Nat} (hv : 0xffff < v) (hv' : v < 0x110000) :
    decodeAt pos (UInt8.ofNat (v / 262144 % 0x08 + 0xf0) :: UInt8.ofNat (v / 4096 % 0x40 + 0x80) ::
        UInt8.ofNat (v / 64 % 0x40 + 0x80) :: UInt8.ofNat (v % 0x40 + 0x80) :: r) =
      (decodeAt (pos + 4) r).map (Char.ofNat v :: ·) := by
  have h := toNat_ofNat (n := v / 262144 % 0x08 + 0xf0) (by omega)
  have h' := toNat_ofNat (n := v / 4096 % 0x40 + 0x80) (by omega)
  have hb : isSecond (UInt8.ofNat (v / 262144 % 0x08 + 0xf0))
      (UInt8.ofNat (v / 4096 % 0x40 + 0x80)) = true := by
    rw [isSecond_iff, h, h']
    exact ⟨isTail_ofNat (v / 4096), by omega, by omega, by omega, by omega⟩
  have he : (((v / 262144 % 0x08 + 0xf0 - 0xF0) * 64 + v / 4096 % 0x40) * 64 + v / 64 % 0x40) * 64 +
      v % 0x40 = v := by omega
  rw [decodeAt_four (by omega) (by omega) hb (isTail_ofNat (v / 64)) (isTail_ofNat v), h,
    tailBits_ofNat, tailBits_ofNat, tailBits_ofNat, he]

/-- The bytes of a character are read as the character, whatever follows them. -/
theorem decodeAt_utf8EncodeChar_append (x : Char) :
    decodeAt pos (String.utf8EncodeChar x ++ r) =
      (decodeAt (pos + (String.utf8EncodeChar x).length) r).map (x :: ·) := by
  have hval : x.val.toNat.isValidChar := x.valid
  have hx : Char.ofNat x.val.toNat = x := Char.ofNat_toNat x
  unfold String.utf8EncodeChar
  generalize x.val.toNat = v at hval hx
  simp only [Nat.isValidChar] at hval
  subst hx
  dsimp only
  split
  · have h := toNat_ofNat (n := v) (by omega)
    rw [List.singleton_append, decodeAt_one (by omega), h]
    rfl
  · split
    · exact decodeAt_bytes_two (by omega) (by omega)
    · split
      · exact decodeAt_bytes_three (by omega) (by omega) (by omega)
      · exact decodeAt_bytes_four (by omega) (by omega)

/-! ## Reading back the bytes of a text -/

theorem decodeAt_flatMap (cs : List Char) (pos : Nat) :
    decodeAt pos (cs.flatMap String.utf8EncodeChar) = .ok cs := by
  induction cs generalizing pos with
  | nil => rfl
  | cons x cs ih =>
    rw [List.flatMap_cons, decodeAt_utf8EncodeChar_append, ih]
    rfl

theorem encodeAt_eq_ok {t : Text} {bytes : List UInt8} (h : encodeAt pos t = .ok bytes) :
    ∃ cs, t = ofChars cs ∧ bytes = cs.flatMap String.utf8EncodeChar := by
  induction t generalizing pos bytes with
  | nil => exact ⟨[], rfl, (Except.ok.inj h).symm⟩
  | cons p t ih =>
    cases p with
    | half n => cases h
    | char x =>
      rw [encodeAt] at h
      cases ht : encodeAt (pos + 1) t with
      | error f =>
        rw [ht] at h
        cases h
      | ok rest =>
        rw [ht] at h
        obtain ⟨cs, rfl, rfl⟩ := ih ht
        exact ⟨x :: cs, rfl, (Except.ok.inj h).symm⟩

/-- The bytes of a text decode to its characters. -/
theorem decode_of_encode {t : Text} {bytes : List UInt8} (h : encode t = .ok bytes) :
    ∃ cs, decode bytes = .ok cs ∧ ofChars cs = t := by
  obtain ⟨cs, rfl, rfl⟩ := encodeAt_eq_ok h
  exact ⟨cs, decodeAt_flatMap cs 0, rfl⟩

/-! ## Bytes that are read -/

private theorem toNat_of_isTail (h : isTail b = true) :
    b.toNat = tailBits b + 0x80 ∧ tailBits b < 0x40 := by
  rw [isTail_iff] at h
  unfold tailBits
  omega

private theorem ofNat_eq {n : Nat} (h : n = a.toNat) : UInt8.ofNat n = a := by
  rw [h]
  exact UInt8.ofNat_toNat

private theorem utf8EncodeChar_ofNat {v : Nat} (hv : v < 0xd800 ∨ 0xdfff < v ∧ v < 0x110000) :
    String.utf8EncodeChar (Char.ofNat v) =
      if v ≤ 0x7f then [UInt8.ofNat v]
      else if v ≤ 0x7ff then [UInt8.ofNat (v / 64 % 0x20 + 0xc0), UInt8.ofNat (v % 0x40 + 0x80)]
      else if v ≤ 0xffff then
        [UInt8.ofNat (v / 4096 % 0x10 + 0xe0), UInt8.ofNat (v / 64 % 0x40 + 0x80),
          UInt8.ofNat (v % 0x40 + 0x80)]
      else
        [UInt8.ofNat (v / 262144 % 0x08 + 0xf0), UInt8.ofNat (v / 4096 % 0x40 + 0x80),
          UInt8.ofNat (v / 64 % 0x40 + 0x80), UInt8.ofNat (v % 0x40 + 0x80)] := by
  have hvalid : v.isValidChar := by
    simp only [Nat.isValidChar]
    omega
  have hval : (Char.ofNat v).val.toNat = v := by
    rw [Char.ofNat, dif_pos hvalid]
    rfl
  rw [String.utf8EncodeChar, hval]

private theorem utf8EncodeChar_one (ha : a.toNat < 0x80) :
    String.utf8EncodeChar (Char.ofNat a.toNat) = [a] := by
  rw [utf8EncodeChar_ofNat (by omega), if_pos (by omega), ofNat_eq rfl]

private theorem utf8EncodeChar_two (ha : 0xC2 ≤ a.toNat) (ha' : a.toNat < 0xE0)
    (hb : isSecond a b = true) :
    String.utf8EncodeChar (Char.ofNat ((a.toNat - 0xC0) * 64 + tailBits b)) = [a, b] := by
  obtain ⟨hbits, hlt⟩ := toNat_of_isTail (isSecond_iff.mp hb).1
  generalize tailBits b = y at hbits hlt
  rw [utf8EncodeChar_ofNat (by omega), if_neg (by omega), if_pos (by omega),
    ofNat_eq (a := a) (by omega), ofNat_eq (a := b) (by omega)]

-- The bounds on the second byte keep overlong forms, surrogates and too large numbers away.
private theorem utf8EncodeChar_three (ha : 0xE0 ≤ a.toNat) (ha' : a.toNat < 0xF0)
    (hb : isSecond a b = true) (hc : isTail c = true) :
    String.utf8EncodeChar
      (Char.ofNat (((a.toNat - 0xE0) * 64 + tailBits b) * 64 + tailBits c)) = [a, b, c] := by
  obtain ⟨htail, hlow, hhigh, -, -⟩ := isSecond_iff.mp hb
  obtain ⟨hbits, hlt⟩ := toNat_of_isTail htail
  obtain ⟨hbits', hlt'⟩ := toNat_of_isTail hc
  generalize tailBits b = y at hbits hlt
  generalize tailBits c = z at hbits' hlt'
  rw [utf8EncodeChar_ofNat (by omega), if_neg (by omega), if_neg (by omega), if_pos (by omega),
    ofNat_eq (a := a) (by omega), ofNat_eq (a := b) (by omega), ofNat_eq (a := c) (by omega)]

private theorem utf8EncodeChar_four (ha : 0xF0 ≤ a.toNat) (ha' : a.toNat ≤ 0xF4)
    (hb : isSecond a b = true) (hc : isTail c = true) (hd : isTail d = true) :
    String.utf8EncodeChar
      (Char.ofNat ((((a.toNat - 0xF0) * 64 + tailBits b) * 64 + tailBits c) * 64 + tailBits d)) =
        [a, b, c, d] := by
  obtain ⟨htail, -, -, hlow, hhigh⟩ := isSecond_iff.mp hb
  obtain ⟨hbits, hlt⟩ := toNat_of_isTail htail
  obtain ⟨hbits', hlt'⟩ := toNat_of_isTail hc
  obtain ⟨hbits'', hlt''⟩ := toNat_of_isTail hd
  generalize tailBits b = y at hbits hlt
  generalize tailBits c = z at hbits' hlt'
  generalize tailBits d = u at hbits'' hlt''
  rw [utf8EncodeChar_ofNat (by omega), if_neg (by omega), if_neg (by omega), if_neg (by omega),
    ofNat_eq (a := a) (by omega), ofNat_eq (a := b) (by omega), ofNat_eq (a := c) (by omega),
    ofNat_eq (a := d) (by omega)]

private theorem map_cons_eq_ok {e : Except Fault (List Char)} {x : Char} {cs : List Char}
    (h : e.map (x :: ·) = .ok cs) : ∃ rest, e = .ok rest ∧ cs = x :: rest := by
  cases e with
  | error f => cases h
  | ok rest => exact ⟨rest, rfl, (Except.ok.inj h).symm⟩

private theorem lead_bounds (h : ¬(decide (a < 0xC2) || decide (0xF4 < a)) = true) :
    0xC2 ≤ a.toNat ∧ a.toNat ≤ 0xF4 := by
  rw [Bool.or_eq_true, decide_eq_true_iff, decide_eq_true_iff, not_or, UInt8.lt_iff_toNat_lt,
    UInt8.lt_iff_toNat_lt] at h
  exact ⟨Nat.not_lt.mp h.1, Nat.not_lt.mp h.2⟩

/-- Bytes that are read as some characters are the bytes of these characters. -/
theorem eq_flatMap_of_decodeAt {bytes : List UInt8} {cs : List Char}
    (h : decodeAt pos bytes = .ok cs) : bytes = cs.flatMap String.utf8EncodeChar := by
  fun_induction decodeAt pos bytes generalizing cs with
  | case1 =>
    cases h
    rfl
  | case2 pos a r ha ih =>
    obtain ⟨rest, hr, rfl⟩ := map_cons_eq_ok h
    rw [List.flatMap_cons, utf8EncodeChar_one (UInt8.lt_iff_toNat_lt.mp ha), ← ih hr]
    rfl
  | case6 pos a _ hlead b r hb ha ih =>
    obtain ⟨hlow, -⟩ := lead_bounds hlead
    obtain ⟨rest, hr, rfl⟩ := map_cons_eq_ok h
    rw [List.flatMap_cons, utf8EncodeChar_two hlow (UInt8.lt_iff_toNat_lt.mp ha)
      (by simpa using hb), ← ih hr]
    rfl
  | case9 pos a _ hlead b hb ha c r hc ha' ih =>
    rw [UInt8.lt_iff_toNat_lt, Nat.not_lt] at ha
    obtain ⟨rest, hr, rfl⟩ := map_cons_eq_ok h
    rw [List.flatMap_cons, utf8EncodeChar_three ha (UInt8.lt_iff_toNat_lt.mp ha')
      (by simpa using hb) (by simpa using hc), ← ih hr]
    rfl
  | case12 pos a _ hlead b hb _ c hc ha d r hd ih =>
    rw [UInt8.lt_iff_toNat_lt, Nat.not_lt] at ha
    obtain ⟨-, hhigh⟩ := lead_bounds hlead
    obtain ⟨rest, hr, rfl⟩ := map_cons_eq_ok h
    rw [List.flatMap_cons, utf8EncodeChar_four ha hhigh (by simpa using hb) (by simpa using hc)
      (by simpa using hd), ← ih hr]
    rfl
  | _ => cases h

private theorem encodeAt_ofChars (cs : List Char) (pos : Nat) :
    encodeAt pos (ofChars cs) = .ok (cs.flatMap String.utf8EncodeChar) := by
  induction cs generalizing pos with
  | nil => rfl
  | cons x cs ih =>
    have hcons : ofChars (x :: cs) = .char x :: ofChars cs := rfl
    rw [hcons, encodeAt, ih]
    rfl

theorem encode_eq_ok {t : Text} {bytes : List UInt8} : encode t = .ok bytes ↔
    ∃ cs, t = ofChars cs ∧ bytes = cs.flatMap String.utf8EncodeChar := by
  constructor
  · exact encodeAt_eq_ok
  · rintro ⟨cs, rfl, rfl⟩
    exact encodeAt_ofChars cs 0

/-- Bytes that decode to some characters are the bytes of their text, so that decoding and encoding
are inverse to each other. -/
theorem decode_eq_ok {bytes : List UInt8} {cs : List Char} :
    decode bytes = .ok cs ↔ encode (ofChars cs) = .ok bytes := by
  constructor
  · intro h
    exact encode_eq_ok.mpr ⟨cs, rfl, eq_flatMap_of_decodeAt h⟩
  · intro h
    have hbytes : bytes = cs.flatMap String.utf8EncodeChar :=
      Except.ok.inj (h.symm.trans (encodeAt_ofChars cs 0))
    rw [hbytes]
    exact decodeAt_flatMap cs 0

theorem encode_injective {t u : Text} {bytes : List UInt8} (ht : encode t = .ok bytes)
    (hu : encode u = .ok bytes) : t = u := by
  obtain ⟨cs, hcs, rfl⟩ := decode_of_encode ht
  obtain ⟨cs', hcs', rfl⟩ := decode_of_encode hu
  rw [Except.ok.inj (hcs.symm.trans hcs')]

/-- The bytes of a text fall apart where the text does. -/
theorem encode_append {a b : Text} {bytes : List UInt8} : encode (a ++ b) = .ok bytes ↔
    ∃ x y, encode a = .ok x ∧ encode b = .ok y ∧ bytes = x ++ y := by
  constructor
  · intro h
    obtain ⟨cs, hcs, rfl⟩ := encode_eq_ok.mp h
    obtain ⟨ca, cb, rfl, rfl, rfl⟩ := List.map_eq_append_iff.mp hcs.symm
    exact ⟨_, _, encodeAt_ofChars ca 0, encodeAt_ofChars cb 0, List.flatMap_append⟩
  · rintro ⟨x, y, ha, hb, rfl⟩
    obtain ⟨ca, rfl, rfl⟩ := encode_eq_ok.mp ha
    obtain ⟨cb, rfl, rfl⟩ := encode_eq_ok.mp hb
    exact encode_eq_ok.mpr ⟨ca ++ cb, List.map_append.symm, List.flatMap_append.symm⟩

/-! ## Texts that have bytes -/

/-- A text without halves of surrogate pairs. -/
def Whole (t : Text) : Prop := ∀ p ∈ t, p.isHalf = false

@[simp] theorem whole_append {a b : Text} : Whole (a ++ b) ↔ Whole a ∧ Whole b :=
  List.forall_mem_append

theorem Whole.mono {t u : Text} (h : Whole t) (hu : u ⊆ t) : Whole u :=
  fun p hp => h p (hu hp)

@[simp] theorem whole_ofChars (cs : List Char) : Whole (ofChars cs) := by
  intro p hp
  obtain ⟨x, -, rfl⟩ := List.mem_map.mp hp
  rfl

@[simp] theorem whole_points (s : String) : Whole s.points := whole_ofChars s.toList

private theorem exists_encodeAt_iff {t : Text} :
    (∃ bytes, encodeAt pos t = .ok bytes) ↔ Whole t := by
  constructor
  · rintro ⟨bytes, h⟩
    obtain ⟨cs, rfl, -⟩ := encodeAt_eq_ok h
    exact whole_ofChars cs
  · intro h
    induction t generalizing pos with
    | nil => exact ⟨[], rfl⟩
    | cons p t ih =>
      cases p with
      | half n => exact absurd (h _ List.mem_cons_self) (by simp [Point.isHalf])
      | char x =>
        obtain ⟨bytes, hb⟩ : ∃ bytes, encodeAt (pos + 1) t = .ok bytes :=
          ih fun p hp => h p (List.mem_cons_of_mem _ hp)
        exact ⟨String.utf8EncodeChar x ++ bytes, by rw [encodeAt, hb]; rfl⟩

/-- Exactly the texts without halves have bytes. -/
theorem exists_encode_iff {t : Text} : (∃ bytes, encode t = .ok bytes) ↔ Whole t :=
  exists_encodeAt_iff

end Docblocks.Text.Utf8
