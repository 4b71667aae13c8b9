import CurlyMarkup.Proofs.Locality
import CurlyMarkup.Proofs.Soundness
set_option autoImplicit false

namespace CurlyMarkup

/-- What stands between two places is the same in texts that begin alike. -/
theorem Text.take_drop_congr {s t : Text} {i n : Nat} (h : t.take (i+n) = s.take (i+n)) :
    (t.drop i).take n = (s.drop i).take n := by
  rw [List.take_drop, h, ← List.take_drop]

theorem Text.take_congr {s t : Text} {m n : Nat} (hmn : m ≤ n) (h : t.take n = s.take n) :
    t.take m = s.take m := by
  rw [← Nat.min_eq_left hmn, ← List.take_take, h, List.take_take]

namespace Cursor

variable {s t w : Text} {i : Nat} {d : Cursor}

theorem Reads.eq_place (h : (place s i).Reads w d) : d = place s d.offset := by
  rw [h.eq_skip]
  exact eq_of_offset_eq rfl rfl

/-- A word stands in every text that is the same up to its end. -/
theorem Reads.of_take (h : (place s i).Reads w d) (ht : t.take d.offset = s.take d.offset) :
    (place t i).Reads w (place t d.offset) := by
  have ho : d.offset = i+w.length := h.offset
  have hs : s.drop i = w ++ d.rest := h.rest_eq
  have hw : (t.drop i).take w.length = w := by
    rw [ho] at ht
    rw [Text.take_drop_congr ht, hs, List.take_left]
  have hrest : (place t i).rest = w ++ (t.drop i).drop w.length := by
    have hsplit := List.take_append_drop w.length (t.drop i)
    rw [hw] at hsplit
    exact hsplit.symm
  have hd : place t d.offset = (place t i).skip w.length := eq_of_offset_eq rfl ho
  rw [hd]
  exact .of_rest hrest

end Cursor

/-- What the rule reads, it reads from every text that is the same up to where it ends. -/
def Rule.SelfDelimiting {α : Type} (r : Rule α) : Prop :=
  ∀ (s t : Text) (i : Nat) (a : α) (d : Cursor), r.run (.place s i) = .ok a d →
    t.take d.offset = s.take d.offset → r.run (.place t i) = .ok a (.place t d.offset)

/-- Where the words of a language are read whatever comes behind them. -/
theorem Rule.Follows.selfDelimiting {α : Type} {r : Rule α} {L : Text → α → Prop}
    (h : r.Follows L) (k : ∀ {w a c d}, L w a → c.Reads w d → r.run c = .ok a d) :
    r.SelfDelimiting := by
  intro s t i a d hr ht
  obtain ⟨w, hw, -, hl⟩ := h.of_run hr
  exact k hl (hw.of_take ht)

theorem Failure.reach_le (f : Failure) : f.reach ≤ 2 := by
  rw [reach]
  split <;> omega

/-- A failure of the rule comes again from every text that is the same for `n` more characters. -/
def Rule.FailsWithin {α : Type} (r : Rule α) (n : Nat) : Prop :=
  ∀ (s t : Text) (i : Nat) (f : Failure), r.run (.place s i) = .fail f →
    t.take (f.cursor.offset+n) = s.take (f.cursor.offset+n) →
      r.run (.place t i) = .fail (f.moved (.place t f.cursor.offset))

theorem Rule.Decided.failsWithin {α : Type} {r : Rule α} (h : r.Decided) : r.FailsWithin 2 := by
  intro s t i f hr ht
  obtain ⟨w, hw, again⟩ := (h _).fail hr
  have hle : f.cursor.offset+f.reach ≤ f.cursor.offset+2 := Nat.add_le_add_left f.reach_le _
  refine again (hw.of_take (Text.take_congr (Nat.le_add_right _ _) ht)) ?_
  rw [hw.eq_place]
  exact Text.take_drop_congr (Text.take_congr hle ht)

namespace Grammar

open Rule

theorem element_selfDelimiting : element.SelfDelimiting :=
  element_follows.selfDelimiting fun hw hr => run_element_word hw hr

/-- An element that makes up a text does not make up any text that goes on behind it. -/
theorem eq_nil_of_run_element {s t : Text} {e e' : Element} {c d : Cursor}
    (hs : element.run (.ofText s) = .ok e c) (hc : c.offset = s.length)
    (ht : element.run (.ofText (s ++ t)) = .ok e' d) (hd : d.offset = (s ++ t).length) :
    t = [] := by
  have again : element.run (.ofText (s ++ t)) = .ok e (.place (s ++ t) c.offset) :=
    element_selfDelimiting s (s ++ t) 0 e c hs (by rw [hc, List.take_left, List.take_length])
  rw [ht] at again
  have hend : d = .place (s ++ t) c.offset := (Result.ok.inj again).2
  have hlength : (s ++ t).length = s.length := by
    rw [← hd, hend, ← hc]
    rfl
  rw [List.length_append] at hlength
  exact List.eq_nil_of_length_eq_zero (by omega)

/-- What an element is depends on the text that it takes up, and how it fails on two characters
more. No element begins another one. -/
theorem element_decided_by_beginning :
    element.SelfDelimiting ∧ string.SelfDelimiting ∧ attributes.SelfDelimiting ∧
    doctype.SelfDelimiting ∧ element.FailsWithin 2 ∧
    ∀ (s t : Text) (e e' : Element) (c d : Cursor), element.run (.ofText s) = .ok e c →
      c.offset = s.length → element.run (.ofText (s ++ t)) = .ok e' d →
        d.offset = (s ++ t).length → t = [] :=
  ⟨element_selfDelimiting,
    string_follows.selfDelimiting fun hw hr => run_string_word hw hr,
    attributes_follows.selfDelimiting fun hw hr => run_attributes hw hr,
    doctype_follows.selfDelimiting fun hw hr => run_doctype_word hw hr,
    element_decided.failsWithin,
    fun _ _ _ _ _ _ hs hc ht hd => eq_nil_of_run_element hs hc ht hd⟩

/-- What stands behind a complete element does not matter at all, and where a brace is missing
only two more characters do. -/
theorem element_decided_by_beginning_examples :
    element.run (.ofText "b\x7b\x7d\"") =
      .ok ⟨⟨"b", none, none, none⟩, []⟩ (.place "b\x7b\x7d\"" 3) ∧
    element.run (.ofText "a b]\x7b") =
      .fail ⟨.place "a b]\x7b" 2, "opening brace '\x7b'", some .element, true⟩ := by
  obtain ⟨ok, -, -, -, fail, -⟩ := element_decided_by_beginning
  exact ⟨ok "b\x7b\x7d" _ 0 _ _ rfl rfl, fail "a b]" _ 0 _ rfl rfl⟩

end Grammar

end CurlyMarkup
