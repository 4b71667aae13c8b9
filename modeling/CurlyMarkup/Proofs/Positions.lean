import CurlyMarkup.Cursor
import Mathlib.Algebra.GroupWithZero.Nat
set_option autoImplicit false

namespace CurlyMarkup

namespace Text

/-- The length of the first `n` lines, each with its line feed. -/
def linesLength (n : Nat) (t : Text) : Nat :=
  (((Text.split '\n' t).take n).map (·.length+1)).sum

theorem split_ne_nil (x : Char) : ∀ t : Text, split x t ≠ []
  | [] => by simp [split]
  | y :: t => by
    rw [split]
    split
    · simp
    · split <;> simp

theorem linesLength_feed (n : Nat) (t : Text) :
    Text.linesLength (n+1) ('\n' :: t) = t.linesLength n+1 := by
  simp only [linesLength, split, ↓reduceIte, List.take_succ_cons, List.map_cons, List.sum_cons,
    List.length_nil]
  omega

theorem linesLength_cons {x : Char} (hx : x ≠ '\n') (n : Nat) (t : Text) :
    Text.linesLength (n+1) (x :: t) = t.linesLength (n+1)+1 := by
  obtain ⟨l, ls, hl⟩ := List.exists_cons_of_ne_nil (split_ne_nil '\n' t)
  simp only [linesLength, split, hx, ↓reduceIte, hl, List.take_succ_cons, List.map_cons,
    List.sum_cons, List.length_cons]
  omega

/-- The lines up to a line feed are as long as the text up to there. -/
theorem linesLength_append (s t : Text) :
    Text.linesLength (s.count '\n'+1) (s ++ '\n' :: t) = s.length+1 := by
  induction s with
  | nil => exact linesLength_feed 0 t
  | cons x s ih =>
    rw [List.cons_append, List.length_cons]
    by_cases hx : x = '\n'
    · subst hx
      rw [List.count_cons_self, linesLength_feed, ih]
    · rw [List.count_cons_of_ne hx, linesLength_cons hx, ih]

/-- A text is without line feeds, or it has one that is the last. -/
theorem last_feed_cases (t : Text) :
    '\n' ∉ t ∨ ∃ s u, t = s ++ '\n' :: u ∧ '\n' ∉ u := by
  by_cases h : '\n' ∈ t
  · obtain ⟨u, s, hr, hu⟩ := List.eq_append_cons_of_mem (List.mem_reverse.2 h)
    refine .inr ⟨s.reverse, u.reverse, ?_, by simpa using hu⟩
    rw [← List.reverse_reverse t, hr, List.reverse_append, List.reverse_cons, List.append_assoc]
    rfl
  · exact .inl h

theorem takeWhile_reverse_append {u : Text} (h : '\n' ∉ u) (t : Text) :
    (u.reverse ++ t).takeWhile (· ≠ '\n') = u.reverse ++ t.takeWhile (· ≠ '\n') := by
  refine List.takeWhile_append_of_pos fun x hx => decide_eq_true fun hn => h ?_
  exact hn ▸ List.mem_reverse.1 hx

end Text

namespace Cursor

theorem lineStart_eq (c : Cursor) : c.lineStart = c.text.linesLength (c.line-1) := by
  have ht : c.before ++ c.text.drop c.offset = c.text := List.take_append_drop c.offset c.text
  rw [lineStart, line, Nat.add_sub_cancel]
  rcases Text.last_feed_cases c.before with h | ⟨s, u, hb, hu⟩
  · have hall := Text.takeWhile_reverse_append h []
    rw [List.append_nil, List.takeWhile_nil, List.append_nil] at hall
    rw [hall, List.count_eq_zero.2 h, List.length_reverse, Nat.sub_self]
    rfl
  · have hcount : c.before.count '\n' = s.count '\n'+1 := by
      rw [hb, List.count_append, List.count_cons_self, List.count_eq_zero.2 hu]
    have htext : c.text = s ++ '\n' :: (u ++ c.text.drop c.offset) := by
      rw [hb, List.append_assoc, List.cons_append] at ht
      exact ht.symm
    have hlast : c.before.reverse.takeWhile (· ≠ '\n') = u.reverse := by
      rw [hb, List.reverse_append, List.reverse_cons, List.append_assoc,
        Text.takeWhile_reverse_append hu]
      simp
    rw [hlast, hcount, htext, Text.linesLength_append, hb]
    simp only [List.length_append, List.length_cons, List.length_reverse]
    omega

theorem lineStart_le (c : Cursor) : c.lineStart ≤ c.offset := by
  have h := List.length_take_le c.offset c.text
  rw [lineStart, before]
  omega

/-- The lines before the place, and what stands before it in its own line. -/
theorem offset_eq_lines (c : Cursor) :
    c.offset = c.text.linesLength (c.line-1)+(c.column-1) := by
  have h := c.lineStart_le
  rw [column, Nat.add_sub_cancel, ← c.lineStart_eq]
  omega

theorem line_le {c d : Cursor} (ht : c.text = d.text) (h : c.offset ≤ d.offset) :
    c.line ≤ d.line := by
  have hp : (c.text.take c.offset).Sublist (d.text.take d.offset) :=
    ht ▸ (List.take_prefix_take_left h).sublist
  exact Nat.succ_le_succ (hp.count_le '\n')

/-- Later places are in later lines, or further on in the same one. -/
theorem line_column_lt {c d : Cursor} (ht : c.text = d.text) (h : c.offset < d.offset) :
    c.line < d.line ∨ c.line = d.line ∧ c.column < d.column := by
  rcases Nat.lt_or_eq_of_le (line_le ht (Nat.le_of_lt h)) with hl | hl
  · exact .inl hl
  · have hc := c.lineStart_le
    have hs : c.lineStart = d.lineStart := by rw [c.lineStart_eq, d.lineStart_eq, hl, ht]
    refine .inr ⟨hl, ?_⟩
    rw [column, column]
    omega

end Cursor

end CurlyMarkup
