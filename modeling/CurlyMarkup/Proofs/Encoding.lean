import CurlyMarkup.Text.Utf8
set_option autoImplicit false

namespace CurlyMarkup

/-- The bytes of a text, one to four for each character. -/
def encodeUtf8 (t : Text) : Bytes := t.flatMap String.utf8EncodeChar

namespace PartialChar

theorem begin?_two {a : Nat} (h : 2 ≤ a) (h' : a < 32) :
    begin? (a+0xc0) = some ⟨a, a+0xc0, 1, 0x80, 0xbf, 0⟩ := by
  have ha : (a+0xc0) % 0x20 = a := by omega
  rw [begin?, if_neg (by omega), if_pos (by omega), ha]

theorem begin?_three {a : Nat} (h : a < 16) :
    begin? (a+0xe0) = some ⟨a, a+0xe0, 1, if a = 0 then 0xa0 else 0x80,
      if a = 13 then 0x9f else 0xbf, 1⟩ := by
  have ha : (a+0xe0) % 0x10 = a := by omega
  rw [begin?, if_neg (by omega), if_neg (by omega), ha]
  grind

theorem begin?_four {a : Nat} (h : a < 5) :
    begin? (a+0xf0) = some ⟨a, a+0xf0, 1, if a = 0 then 0x90 else 0x80,
      if a = 4 then 0x8f else 0xbf, 2⟩ := by
  have ha : (a+0xf0) % 8 = a := by omega
  rw [begin?, if_neg (by omega), if_neg (by omega), ha]
  grind

end PartialChar

theorem toNat_byte {n : Nat} (h : n < 256) : (UInt8.ofNat n).toNat = n := by
  rw [UInt8.toNat_ofNat', Nat.mod_eq_of_lt h]

section Steps

variable (k : Nat) (bs : Bytes)

theorem decodeFrom_single {v : Nat} (h : v < 0x80) :
    decodeFrom k none (UInt8.ofNat v :: bs) =
      (decodeFrom (k+1) none bs).map (Char.ofNat v :: ·) := by
  rw [decodeFrom]
  simp only [toNat_byte (Nat.lt_trans h (by decide)), h, ↓reduceIte]

theorem decodeFrom_begin {b : Nat} {p : PartialChar} (h : b < 256)
    (hp : PartialChar.begin? b = some p) :
    decodeFrom k none (UInt8.ofNat b :: bs) = decodeFrom (k+1) (some p) bs := by
  have hb : ¬ b < 0x80 := by
    intro hb
    rw [PartialChar.begin?, if_pos (by omega)] at hp
    cases hp
  rw [decodeFrom]
  simp only [toNat_byte h, hb, ↓reduceIte, hp]

variable {p : PartialChar} {d : Nat}

theorem PartialChar.next_eq (hd : d < 64) (p : PartialChar) :
    p.next (d+0x80) = 0x40*p.value+d := by
  rw [next]
  omega

/-- The last byte of a character. -/
theorem decodeFrom_last (hm : p.more = 0) (hd : d < 64) (hl : p.low ≤ d+0x80)
    (hh : d+0x80 ≤ p.high) : decodeFrom k (some p) (UInt8.ofNat (d+0x80) :: bs) =
      (decodeFrom (k+1) none bs).map (Char.ofNat (0x40*p.value+d) :: ·) := by
  rw [decodeFrom]
  simp only [toNat_byte (n := d+0x80) (by omega), Nat.not_lt.2 hl, Nat.not_lt.2 hh, decide_false,
    Bool.or_self, Bool.false_eq_true, ↓reduceIte, PartialChar.next_eq hd, hm]

theorem decodeFrom_next {more : Nat} (hm : p.more = more+1) (hd : d < 64) (hl : p.low ≤ d+0x80)
    (hh : d+0x80 ≤ p.high) : decodeFrom k (some p) (UInt8.ofNat (d+0x80) :: bs) =
      decodeFrom (k+1) (some ⟨0x40*p.value+d, p.first, p.length+1, 0x80, 0xbf, more⟩) bs := by
  rw [decodeFrom]
  simp only [toNat_byte (n := d+0x80) (by omega), Nat.not_lt.2 hl, Nat.not_lt.2 hh, decide_false,
    Bool.or_self, Bool.false_eq_true, ↓reduceIte, PartialChar.next_eq hd, hm]

end Steps

/-- The bytes of a character are read as that character. -/
theorem decodeFrom_char (c : Char) (k : Nat) (bs : Bytes) :
    decodeFrom k none (String.utf8EncodeChar c ++ bs) =
      (decodeFrom (k+(String.utf8EncodeChar c).length) none bs).map (c :: ·) := by
  have valid : c.val.toNat < 0xd800 ∨ 0xdfff < c.val.toNat ∧ c.val.toNat < 0x110000 := c.valid
  have hc : Char.ofNat c.val.toNat = c := Char.ofNat_toNat c
  rw [String.utf8EncodeChar]
  generalize c.val.toNat = v at valid hc ⊢
  subst hc
  split
  · next h => exact decodeFrom_single k bs (by omega)
  split
  · next h =>
    have hv : 0x40*(v/64%32)+v%64 = v := by omega
    rw [List.cons_append, List.singleton_append,
      decodeFrom_begin _ _ (by omega) (PartialChar.begin?_two (by omega) (by omega)),
      decodeFrom_last _ _ rfl (by omega) (by simp only; omega) (by simp only; omega)]
    simp only [hv]
    rfl
  split
  · next h =>
    have hv : 0x40*(0x40*(v/4096%16)+v/64%64)+v%64 = v := by omega
    rw [List.cons_append, List.cons_append, List.singleton_append,
      decodeFrom_begin _ _ (by omega) (PartialChar.begin?_three (by omega)),
      decodeFrom_next _ _ rfl (by omega) (by simp only; split <;> omega)
        (by simp only; split <;> omega),
      decodeFrom_last _ _ rfl (by omega) (by simp only; omega) (by simp only; omega)]
    simp only [hv]
    rfl
  · have hv : 0x40*(0x40*(0x40*(v/262144%8)+v/4096%64)+v/64%64)+v%64 = v := by omega
    rw [List.cons_append, List.cons_append, List.cons_append, List.singleton_append,
      decodeFrom_begin _ _ (by omega) (PartialChar.begin?_four (by omega)),
      decodeFrom_next _ _ rfl (by omega) (by simp only; split <;> omega)
        (by simp only; split <;> omega),
      decodeFrom_next _ _ rfl (by omega) (by simp only; omega) (by simp only; omega),
      decodeFrom_last _ _ rfl (by omega) (by simp only; omega) (by simp only; omega)]
    simp only [hv]
    rfl

theorem utf8EncodeChar_ofNat {v : Nat} (h : v.isValidChar) : String.utf8EncodeChar (Char.ofNat v) =
    if v ≤ 0x7f then [UInt8.ofNat v]
    else if v ≤ 0x7ff then [UInt8.ofNat (v/64%32+0xc0), UInt8.ofNat (v%64+0x80)]
    else if v ≤ 0xffff then
      [UInt8.ofNat (v/4096%16+0xe0), UInt8.ofNat (v/64%64+0x80), UInt8.ofNat (v%64+0x80)]
    else [UInt8.ofNat (v/262144%8+0xf0), UInt8.ofNat (v/4096%64+0x80), UInt8.ofNat (v/64%64+0x80),
      UInt8.ofNat (v%64+0x80)] := by
  have hv : (Char.ofNat v).val.toNat = v := by
    rw [Char.ofNat, dif_pos h]
    rfl
  rw [String.utf8EncodeChar, hv]

theorem utf8EncodeChar_one {v : Nat} (h : v < 0x80) :
    String.utf8EncodeChar (Char.ofNat v) = [UInt8.ofNat v] := by
  rw [utf8EncodeChar_ofNat (.inl (by omega)), if_pos (by omega)]

theorem utf8EncodeChar_two {a d : Nat} (ha : 2 ≤ a) (ha' : a < 32) (hd : d < 64) :
    String.utf8EncodeChar (Char.ofNat (0x40*a+d)) =
      [UInt8.ofNat (a+0xc0), UInt8.ofNat (d+0x80)] := by
  have h₁ : (0x40*a+d)/64%32 = a := by omega
  have h₀ : (0x40*a+d)%64 = d := by omega
  rw [utf8EncodeChar_ofNat (.inl (by omega)), if_neg (by omega), if_pos (by omega), h₁, h₀]

theorem utf8EncodeChar_three {a d e : Nat} (ha : a < 16) (hd : d < 64) (he : e < 64)
    (hl : a = 0 → 0x20 ≤ d) (hs : a = 13 → d < 0x20) :
    String.utf8EncodeChar (Char.ofNat (0x40*(0x40*a+d)+e)) =
      [UInt8.ofNat (a+0xe0), UInt8.ofNat (d+0x80), UInt8.ofNat (e+0x80)] := by
  have valid : (0x40*(0x40*a+d)+e).isValidChar := by
    rw [Nat.isValidChar]
    omega
  have h₂ : (0x40*(0x40*a+d)+e)/4096%16 = a := by omega
  have h₁ : (0x40*(0x40*a+d)+e)/64%64 = d := by omega
  have h₀ : (0x40*(0x40*a+d)+e)%64 = e := by omega
  rw [utf8EncodeChar_ofNat valid, if_neg (by omega), if_neg (by omega), if_pos (by omega), h₂, h₁, h₀]

theorem utf8EncodeChar_four {a d e f : Nat} (ha : a < 5) (hd : d < 64) (he : e < 64) (hf : f < 64)
    (hl : a = 0 → 0x10 ≤ d) (hs : a = 4 → d < 0x10) :
    String.utf8EncodeChar (Char.ofNat (0x40*(0x40*(0x40*a+d)+e)+f)) =
      [UInt8.ofNat (a+0xf0), UInt8.ofNat (d+0x80), UInt8.ofNat (e+0x80), UInt8.ofNat (f+0x80)] := by
  have valid : (0x40*(0x40*(0x40*a+d)+e)+f).isValidChar := by
    rw [Nat.isValidChar]
    omega
  have h₃ : (0x40*(0x40*(0x40*a+d)+e)+f)/262144%8 = a := by omega
  have h₂ : (0x40*(0x40*(0x40*a+d)+e)+f)/4096%64 = d := by omega
  have h₁ : (0x40*(0x40*(0x40*a+d)+e)+f)/64%64 = e := by omega
  have h₀ : (0x40*(0x40*(0x40*a+d)+e)+f)%64 = f := by omega
  rw [utf8EncodeChar_ofNat valid, if_neg (by omega), if_neg (by omega), if_neg (by omega), h₃, h₂, h₁, h₀]

/-- A first byte of several tells how many. -/
theorem PartialChar.of_begin? {b : Nat} {p : PartialChar} (h : begin? b = some p) :
    (∃ a, 2 ≤ a ∧ a < 32 ∧ b = a+0xc0) ∨ (∃ a, a < 16 ∧ b = a+0xe0) ∨ ∃ a, a < 5 ∧ b = a+0xf0 := by
  have hb : 0xc2 ≤ b ∧ b < 0xf5 := by
    rw [begin?] at h
    split at h
    · cases h
    · grind
  have two : 0xc2 ≤ b → b < 0xe0 → ∃ a, 2 ≤ a ∧ a < 32 ∧ b = a+0xc0 := fun _ _ =>
    ⟨b-0xc0, by omega, by omega, by omega⟩
  have three : 0xe0 ≤ b → b < 0xf0 → ∃ a, a < 16 ∧ b = a+0xe0 := fun _ _ =>
    ⟨b-0xe0, by omega, by omega⟩
  have four : 0xf0 ≤ b → b < 0xf5 → ∃ a, a < 5 ∧ b = a+0xf0 := fun _ _ =>
    ⟨b-0xf0, by omega, by omega⟩
  by_cases h₁ : b < 0xe0
  · exact .inl (two hb.1 h₁)
  by_cases h₂ : b < 0xf0
  · exact .inr (.inl (three (Nat.le_of_not_lt h₁) h₂))
  · exact .inr (.inr (four (Nat.le_of_not_lt h₂) hb.2))

/-- A character that has begun goes on with a byte in its range. -/
theorem exists_next_of_ok {p : PartialChar} (hl : 0x80 ≤ p.low) (hh : p.high ≤ 0xbf) {k : Nat}
    {bs : Bytes} {t : Text} (h : decodeFrom k (some p) bs = .ok t) :
    ∃ d rest, d < 64 ∧ p.low ≤ d+0x80 ∧ d+0x80 ≤ p.high ∧ bs = UInt8.ofNat (d+0x80) :: rest := by
  cases bs with
  | nil => cases h
  | cons x rest =>
    rw [decodeFrom] at h
    split at h
    · cases h
    · next hx =>
      simp only [Bool.or_eq_true, decide_eq_true_eq, not_or, Nat.not_lt] at hx
      refine ⟨x.toNat-0x80, rest, by omega, by omega, by omega, ?_⟩
      have hx' : x.toNat-0x80+0x80 = x.toNat := by omega
      rw [hx', UInt8.ofNat_toNat]

section Lengths

variable {k a : Nat} {bs : Bytes} {t : Text}

theorem exists_char_of_ok_two (ha : 2 ≤ a) (ha' : a < 32)
    (h : decodeFrom k none (UInt8.ofNat (a+0xc0) :: bs) = .ok t) :
    ∃ c rest, UInt8.ofNat (a+0xc0) :: bs = String.utf8EncodeChar c ++ rest := by
  rw [decodeFrom_begin _ _ (by omega) (PartialChar.begin?_two ha ha')] at h
  obtain ⟨d, rest, hd, -, -, rfl⟩ := exists_next_of_ok (Nat.le_refl _) (Nat.le_refl _) h
  exact ⟨Char.ofNat (0x40*a+d), rest, by rw [utf8EncodeChar_two ha ha' hd]; rfl⟩

theorem exists_char_of_ok_three (ha : a < 16)
    (h : decodeFrom k none (UInt8.ofNat (a+0xe0) :: bs) = .ok t) :
    ∃ c rest, UInt8.ofNat (a+0xe0) :: bs = String.utf8EncodeChar c ++ rest := by
  rw [decodeFrom_begin _ _ (by omega) (PartialChar.begin?_three ha)] at h
  obtain ⟨d, rest, hd, hl, hh, rfl⟩ :=
    exists_next_of_ok (by simp only; split <;> omega) (by simp only; split <;> omega) h
  rw [decodeFrom_next _ _ rfl hd hl hh] at h
  obtain ⟨e, rest, he, -, -, rfl⟩ := exists_next_of_ok (Nat.le_refl _) (Nat.le_refl _) h
  simp only at hl hh
  refine ⟨Char.ofNat (0x40*(0x40*a+d)+e), rest, ?_⟩
  rw [utf8EncodeChar_three ha hd he (fun h0 => by rw [if_pos h0] at hl; omega)
    (fun h13 => by rw [if_pos h13] at hh; omega)]
  rfl

theorem exists_char_of_ok_four (ha : a < 5)
    (h : decodeFrom k none (UInt8.ofNat (a+0xf0) :: bs) = .ok t) :
    ∃ c rest, UInt8.ofNat (a+0xf0) :: bs = String.utf8EncodeChar c ++ rest := by
  rw [decodeFrom_begin _ _ (by omega) (PartialChar.begin?_four ha)] at h
  obtain ⟨d, rest, hd, hl, hh, rfl⟩ :=
    exists_next_of_ok (by simp only; split <;> omega) (by simp only; split <;> omega) h
  rw [decodeFrom_next _ _ rfl hd hl hh] at h
  obtain ⟨e, rest, he, hl', hh', rfl⟩ := exists_next_of_ok (Nat.le_refl _) (Nat.le_refl _) h
  rw [decodeFrom_next _ _ rfl he hl' hh'] at h
  obtain ⟨f, rest, hf, -, -, rfl⟩ := exists_next_of_ok (Nat.le_refl _) (Nat.le_refl _) h
  simp only at hl hh
  refine ⟨Char.ofNat (0x40*(0x40*(0x40*a+d)+e)+f), rest, ?_⟩
  rw [utf8EncodeChar_four ha hd he hf (fun h0 => by rw [if_pos h0] at hl; omega)
    (fun h4 => by rw [if_pos h4] at hh; omega)]
  rfl

/-- What is read without an error begins with the bytes of a character. -/
theorem exists_char_of_ok {x : UInt8} (h : decodeFrom k none (x :: bs) = .ok t) :
    ∃ c rest, x :: bs = String.utf8EncodeChar c ++ rest := by
  have hx : x = UInt8.ofNat x.toNat := UInt8.ofNat_toNat.symm
  by_cases hs : x.toNat < 0x80
  · exact ⟨Char.ofNat x.toNat, bs, by rw [utf8EncodeChar_one hs, ← hx]; rfl⟩
  cases hp : PartialChar.begin? x.toNat with
  | none =>
    rw [decodeFrom] at h
    simp only [hs, ↓reduceIte, hp] at h
    cases h
  | some p =>
    rw [hx] at h ⊢
    rcases PartialChar.of_begin? hp with ⟨a, ha, ha', he⟩ | ⟨a, ha, he⟩ | ⟨a, ha, he⟩
    · rw [he] at h ⊢
      exact exists_char_of_ok_two ha ha' h
    · rw [he] at h ⊢
      exact exists_char_of_ok_three ha h
    · rw [he] at h ⊢
      exact exists_char_of_ok_four ha h

end Lengths

theorem decodeFrom_encodeUtf8 (k : Nat) (t : Text) :
    decodeFrom k none (encodeUtf8 t) = .ok t := by
  rw [encodeUtf8]
  induction t generalizing k with
  | nil => rfl
  | cons c t ih =>
    rw [List.flatMap_cons, decodeFrom_char, ih]
    rfl

theorem eq_encodeUtf8_of_decodeFrom {k : Nat} {bs : Bytes} {t : Text} (h : decodeFrom k none bs = .ok t) :
    bs = encodeUtf8 t := by
  obtain ⟨n, hn⟩ : ∃ n, bs.length ≤ n := ⟨_, Nat.le_refl _⟩
  induction n generalizing k bs t with
  | zero =>
    cases List.length_eq_zero_iff.1 (Nat.le_zero.1 hn)
    cases h
    rfl
  | succ n ih =>
    cases bs with
    | nil =>
      cases h
      rfl
    | cons x bs =>
      obtain ⟨c, rest, hc⟩ := exists_char_of_ok h
      rw [hc, decodeFrom_char] at h
      cases hr : decodeFrom (k+(String.utf8EncodeChar c).length) none rest with
      | error e =>
        rw [hr] at h
        cases h
      | ok u =>
        rw [hr] at h
        cases h
        have hlen : rest.length ≤ n := by
          have := congrArg List.length hc
          have := String.length_utf8EncodeChar c
          have := c.utf8Size_pos
          simp only [List.length_cons, List.length_append] at *
          omega
        rw [hc, encodeUtf8, List.flatMap_cons, ← encodeUtf8, ← ih hr hlen]

/-- Bytes are decoded as the text that they are the bytes of, and not at all if there is none. -/
theorem decodeUtf8_eq_ok {bs : Bytes} {t : Text} : decodeUtf8 bs = .ok t ↔ bs = encodeUtf8 t :=
  ⟨eq_encodeUtf8_of_decodeFrom, fun h => h ▸ decodeFrom_encodeUtf8 0 t⟩

end CurlyMarkup
