import CurlyMarkup.Rule.Ends
set_option autoImplicit false

namespace CurlyMarkup

/-- The text `s` stands between the two cursors. -/
structure Cursor.Reads (c : Cursor) (s : Text) (d : Cursor) : Prop where
  rest_eq : c.rest = s ++ d.rest
  eq_skip : d = c.skip s.length

namespace Cursor

@[simp] theorem rest_skip (c : Cursor) (n : Nat) : (c.skip n).rest = c.rest.drop n := rfl

@[simp] theorem offset_skip (c : Cursor) (n : Nat) : (c.skip n).offset = c.offset+n := rfl

@[simp] theorem skip_zero (c : Cursor) : c.skip 0 = c := eq_of_offset_eq rfl rfl

theorem skip_skip (c : Cursor) (m n : Nat) : (c.skip m).skip n = c.skip (m+n) :=
  eq_of_offset_eq rfl (Nat.add_assoc ..)

theorem peek_eq_none {c : Cursor} : c.peek = none ↔ c.rest = [] := by
  simp [peek]

theorem peek_eq_some {c : Cursor} {x : Char} : c.peek = some x ↔ ∃ t, c.rest = x :: t := by
  simp [peek, List.head?_eq_some_iff]

namespace Reads

theorem refl (c : Cursor) : c.Reads [] c := ⟨rfl, by simp⟩

theorem of_rest {c : Cursor} {s t : Text} (h : c.rest = s ++ t) : c.Reads s (c.skip s.length) :=
  ⟨by simp [h], rfl⟩

theorem rest_skip {c : Cursor} {s t : Text} (h : c.rest = s ++ t) : (c.skip s.length).rest = t := by
  simp [h]

theorem trans {c d e : Cursor} {s t : Text} (h : c.Reads s d) (k : d.Reads t e) :
    c.Reads (s ++ t) e := by
  obtain ⟨hs, rfl⟩ := h
  obtain ⟨ht, rfl⟩ := k
  exact ⟨by rw [hs, ht, List.append_assoc], by simp [skip_skip]⟩

theorem split {c e : Cursor} {s t : Text} (h : c.Reads (s ++ t) e) :
    ∃ d, c.Reads s d ∧ d.Reads t e := by
  obtain ⟨hs, rfl⟩ := h
  rw [List.append_assoc] at hs
  exact ⟨_, of_rest hs, rest_skip hs, by simp [skip_skip]⟩

theorem unique {c d e : Cursor} {s : Text} (h : c.Reads s d) (k : c.Reads s e) : d = e :=
  h.eq_skip.trans k.eq_skip.symm

theorem eq_of_nil {c d : Cursor} (h : c.Reads [] d) : d = c := h.unique (refl c)

theorem offset {c d : Cursor} {s : Text} (h : c.Reads s d) : d.offset = c.offset+s.length := by
  rw [h.eq_skip, offset_skip]

theorem length {c d : Cursor} {s : Text} (h : c.Reads s d) :
    c.rest.length = s.length+d.rest.length := by
  rw [h.rest_eq, List.length_append]

/-- Two cursors before the same word see the same character if they do so behind it. -/
theorem peek_congr {c c' d d' : Cursor} {s : Text} (h : c.Reads s d) (h' : c'.Reads s d')
    (hp : d'.peek = d.peek) : c'.peek = c.peek := by
  cases s with
  | nil => rwa [← h.eq_of_nil, ← h'.eq_of_nil]
  | cons x s => simp [peek, h.rest_eq, h'.rest_eq]

end Reads

/-- No character in `p` follows. -/
def Stops (p : Char → Bool) (c : Cursor) : Prop := ∀ x, c.peek = some x → p x = false

theorem Stops.of_cons {p : Char → Bool} {c : Cursor} {x : Char} {t : Text} (h : c.rest = x :: t)
    (hx : p x = false) : c.Stops p := by
  intro y hy
  obtain ⟨u, hu⟩ := peek_eq_some.1 hy
  rw [h] at hu
  cases hu
  exact hx

theorem Stops.congr {p : Char → Bool} {c d : Cursor} (h : c.Stops p) (hp : d.peek = c.peek) :
    d.Stops p := fun x hx => h x (hp ▸ hx)

/-- A run of characters in `p` goes exactly as far as a word of such characters that is not
followed by another one. -/
theorem takeWhile_rest {p : Char → Bool} {c d : Cursor} {s : Text} (h : c.Reads s d)
    (hs : ∀ x ∈ s, p x = true) (hd : d.Stops p) : c.rest.takeWhile p = s := by
  rw [h.rest_eq, List.takeWhile_append_of_pos hs]
  cases ht : d.rest with
  | nil => simp
  | cons x t =>
    have hx := hd x (peek_eq_some.2 ⟨t, ht⟩)
    simp [hx]

theorem reads_takeWhile (p : Char → Bool) (c : Cursor) :
    c.Reads (c.rest.takeWhile p) (c.skip (c.rest.takeWhile p).length) :=
  .of_rest (List.takeWhile_append_dropWhile).symm

theorem stops_takeWhile (p : Char → Bool) (c : Cursor) :
    (c.skip (c.rest.takeWhile p).length).Stops p := by
  intro x hx
  have hd : (c.skip (c.rest.takeWhile p).length).rest = c.rest.dropWhile p :=
    Reads.rest_skip List.takeWhile_append_dropWhile.symm
  obtain ⟨t, ht⟩ := peek_eq_some.1 hx
  have := List.head?_dropWhile_not p c.rest
  rw [← hd, ht] at this
  simpa using this

end Cursor

end CurlyMarkup
