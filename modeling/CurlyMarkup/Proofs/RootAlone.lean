import CurlyMarkup.Proofs.Agreement
import CurlyMarkup.Proofs.Diagnostics
import CurlyMarkup.Proofs.Shift
set_option autoImplicit false

namespace CurlyMarkup

namespace Text

/-- The text begins with a complete element, blanks around it left aside. -/
def BeginsElement (s : Text) : Prop := ∃ t e, RootWord t e ∧ t <+: s

end Text

/-- The error `later` is the error `e` in `s`, behind `n` more characters. -/
structure SyntaxError.Behind (n : Nat) (s : Text) (e later : SyntaxError) : Prop where
  construct : later.construct = e.construct
  remaining : later.remaining = e.remaining
  offset : later.offset = n+e.offset
  expected : ¬ s.BeginsElement → later.expected = e.expected
  /-- What comes behind a complete element is refused under two names. -/
  trailing : s.BeginsElement → e.expected = "end of input" ∧
    later.expected = "end of input after the root element"

namespace Grammar

open Rule

/-- What is said of anything but blanks behind the element. -/
def trailingAt (c : Cursor) (expected : Text) : Failure := ⟨c, expected, some .element, false⟩

theorem run_rootOnly (expected : Text) (c : Cursor) :
    (rootOnly expected).run c = (root.run c.skipBlanks).bind fun e d =>
      if d.skipBlanks.atEnd then .ok e d.skipBlanks
      else .fail (trailingAt d.skipBlanks expected) := by
  rw [rootOnly, delimited, run_preceded_blanks, terminated, run_map, run_pair]
  cases root.run c.skipBlanks with
  | ok e d =>
    have hafter : (pair blanks (blame .element (endOfText expected))).run d =
        ((blame .element (endOfText expected)).run d.skipBlanks).map (d.rest.takeWhile isBlank, ·) :=
      rfl
    rw [Result.bind_ok, Result.bind_ok, hafter, run_blame, run_endOfText]
    cases d.skipBlanks.atEnd <;> rfl
  | fail f => rfl
  | endless => rfl

theorem root_run_eq_ok {e : Element} {c d : Cursor} :
    root.run c = .ok e d ↔ element.run c = .ok e d := by
  refine ⟨fun h => ?_, fun h => run_blame_ok _ (run_relabel_ok _ h)⟩
  rw [root, run_blame, run_relabel] at h
  cases he : element.run c with
  | ok e' d' => simpa [he] using h
  | fail f => cases hf : f.committed <;> simp [he, hf] at h
  | endless => simp [he] at h

/-- The root is read if and only if the text begins with an element. -/
theorem beginsElement_iff (s : Text) :
    s.BeginsElement ↔ ∃ e d, root.run (Cursor.ofText s).skipBlanks = .ok e d := by
  constructor
  · rintro ⟨_, e, ⟨hw, ht, _⟩, q, rfl⟩
    obtain ⟨k, hk, -⟩ := (Cursor.Reads.of_rest (c := .ofText _) rfl).split
    obtain ⟨g, hg, hgk⟩ := hk.split
    have hs : g.Stops isBlank := elementWord_stops (t := []) ht (by simpa using hgk)
    rw [Cursor.skipBlanks_eq hg hw hs]
    exact ⟨e, k, root_run_eq_ok.2 (run_element_word ht hgk)⟩
  · rintro ⟨e, d, h⟩
    obtain ⟨t, ht, -, hword⟩ := element_follows.of_run (root_run_eq_ok.1 h)
    have hb : BlankWord ((Cursor.ofText s).rest.takeWhile isBlank) := .takeWhile _ _
    have hr := ((Cursor.ofText s).reads_takeWhile isBlank).trans ht
    exact ⟨_, e, .mk hb hword (by decide : BlankWord []), d.rest, by
      rw [List.append_nil]
      exact hr.rest_eq.symm⟩

/-- A complete document type is followed by the element as it stands alone. -/
theorem run_document_behind {t v : Text} (h : doctype.run (.ofText t) = .ok v (.place t t.length))
    (s : Text) :
    document.run (.ofText (t ++ s)) =
      (((rootOnly "end of input after the root element").run (.ofText s)).shift (t ++ s)
        t.length).map fun e => ⟨v, e⟩ := by
  obtain ⟨w, hw, -, hword⟩ := doctype_follows.of_run h
  obtain rfl : w = t := hw.eq_of_end List.drop_length
  have hreads : (Cursor.ofText (w ++ s)).Reads ([] ++ w) (.place (w ++ s) w.length) :=
    ⟨by simp [Cursor.ofText, Cursor.place],
      Cursor.eq_of_offset_eq rfl (by simp [Cursor.ofText, Cursor.place])⟩
  have hprolog := run_prolog_word (.mk (by decide : BlankWord []) hword) hreads
  have hroot := (rootOnly "end of input after the root element").shiftsAt w (.ofText s)
  rw [document, run_map, run_pair, hprolog, Result.bind_ok, Result.map_map]
  exact congrArg (Result.map _) hroot

theorem root_ends : root.Ends := .blame _ (.relabel _ element_ends)

/-- Whatever name the end of the text has, the root is read alike, or fails alike, or is read with
the same text left behind it. -/
theorem rootOnly_cases (s : Text) :
    (∃ e d, ∀ x, (rootOnly x).run (.ofText s) = .ok e d) ∨
    (¬ s.BeginsElement ∧ ∃ f, f.cursor.text = s ∧ ∀ x, (rootOnly x).run (.ofText s) = .fail f) ∨
    (s.BeginsElement ∧ ∃ d : Cursor, d.text = s ∧
      ∀ x, (rootOnly x).run (.ofText s) = .fail (trailingAt d x)) := by
  simp only [run_rootOnly, beginsElement_iff]
  cases hr : root.run (Cursor.ofText s).skipBlanks with
  | ok e d =>
    by_cases hd : d.skipBlanks.atEnd = true
    · exact .inl ⟨e, d.skipBlanks, fun x => by rw [Result.bind_ok, if_pos hd]⟩
    · have ht : d.skipBlanks.text = s := (root.leadsFrom _ e d hr).text_eq
      exact .inr (.inr ⟨⟨e, d, rfl⟩, d.skipBlanks, ht, fun x => by rw [Result.bind_ok, if_neg hd]⟩)
  | fail f =>
    have ht : f.cursor.text = s := (root.fails_of_run hr).leadsTo.text_eq
    exact .inr (.inl ⟨by simp, f, ht, fun _ => rfl⟩)
  | endless => exact absurd hr (root_ends _)

end Grammar

section

variable {s t v : Text}

/-- With its place a failure moves what is said of it, and nothing else changes. -/
theorem Failure.remaining_shift {f : Failure} (t : Text) (h : f.cursor.text = s) :
    (f.shift (t ++ s) t.length).toError.remaining = f.toError.remaining := Cursor.shift_rest t h

theorem Failure.offset_shift (f : Failure) (t : Text) (n : Nat) :
    (f.shift t n).toError.offset = n+f.toError.offset := Int.natCast_add n f.cursor.offset

/-- The outcomes of the two readings, side by side. -/
theorem readDocument_behind_cases
    (h : Grammar.doctype.run (.ofText t) = .ok v (.place t t.length)) (s : Text) :
    (∃ e, readElement s = .ok e ∧ readDocument (t ++ s) = .ok ⟨v, e⟩) ∨
      ∃ e later, readElement s = .error e ∧ readDocument (t ++ s) = .error later ∧
        e.Behind t.length s later := by
  have hdocument := Grammar.run_document_behind h s
  rcases Grammar.rootOnly_cases s with ⟨e, d, hr⟩ | ⟨hb, f, hf, hr⟩ | ⟨hb, d, hd, hr⟩
  · rw [hr] at hdocument
    exact .inl ⟨e, readElement_eq_ok.2 ⟨d, hr _⟩, readDocument_eq_ok.2 ⟨_, hdocument⟩⟩
  · rw [hr] at hdocument
    exact .inr ⟨_, _, readElement_eq_error.2 ⟨f, hr _, rfl⟩,
      readDocument_eq_error.2 ⟨_, hdocument, rfl⟩,
      ⟨rfl, f.remaining_shift t hf, f.offset_shift _ _, fun _ => rfl, fun h => absurd h hb⟩⟩
  · rw [hr] at hdocument
    exact .inr ⟨_, _, readElement_eq_error.2 ⟨_, hr _, rfl⟩,
      readDocument_eq_error.2 ⟨_, hdocument, rfl⟩,
      ⟨rfl, Cursor.shift_rest t hd, Failure.offset_shift _ _ _, fun h => absurd hb h,
        fun _ => ⟨rfl, rfl⟩⟩⟩

/-- Behind a complete document type a text is read as an element if and only if it is so read
alone. If it is not, the two errors are the same, apart from the length of what precedes and from
the name of the end of the text. -/
theorem readDocument_behind_doctype
    (h : Grammar.doctype.run (.ofText t) = .ok v (.place t t.length)) (s : Text) :
    (∀ d, readDocument (t ++ s) = .ok d ↔ d.doctype = v ∧ readElement s = .ok d.root) ∧
    (∀ e, readElement s = .error e →
      ∃ later, readDocument (t ++ s) = .error later ∧ e.Behind t.length s later) ∧
    (∀ later, readDocument (t ++ s) = .error later →
      ∃ e, readElement s = .error e ∧ e.Behind t.length s later) := by
  rcases readDocument_behind_cases h s with ⟨e, he, hd⟩ | ⟨e, later, he, hd, hb⟩
  · simp only [he, hd, Except.ok.injEq, reduceCtorEq, false_implies, implies_true, and_true]
    rintro ⟨doctype, root⟩
    simp [eq_comm]
  · simp only [he, hd, Except.error.injEq, reduceCtorEq, and_false, forall_eq', implies_true,
      true_and]
    exact ⟨⟨later, rfl, hb⟩, e, rfl, hb⟩

end

/-- A second element is refused at the same place under either name. -/
theorem readDocument_behind_doctype_refused :
    let t : Text := "!doctype \x7b\"html\"\x7d"
    let s : Text := "a\x7b\x7d b"
    ∃ e later, readElement s = .error e ∧ e.offset = 4 ∧ e.expected = "end of input" ∧
      readDocument (t ++ s) = .error later ∧ e.Behind t.length s later := by
  intro t s
  have hroot : Grammar.root.run (.ofText s) =
      .ok ⟨⟨"a", none, none, none⟩, []⟩ (.place s 3) := rfl
  have hrefused : (Grammar.rootOnly "end of input").run (.ofText s) =
      .fail (Grammar.trailingAt (.place s 4) "end of input") := by
    rw [Grammar.run_rootOnly, show (Cursor.ofText s).skipBlanks = .ofText s from rfl, hroot]
    rfl
  have hs := readElement_eq_error.2 ⟨_, hrefused, rfl⟩
  have hdoctype : Grammar.doctype.run (.ofText t) =
      .ok "<!DOCTYPE html>\n" (.place t t.length) := rfl
  obtain ⟨-, h, -⟩ := readDocument_behind_doctype hdoctype s
  obtain ⟨later, hlater, hb⟩ := h _ hs
  exact ⟨_, later, hs, rfl, rfl, hlater, hb⟩

end CurlyMarkup
