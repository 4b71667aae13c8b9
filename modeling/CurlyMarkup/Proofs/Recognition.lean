import CurlyMarkup.Proofs.Completeness
import CurlyMarkup.Proofs.Soundness
set_option autoImplicit false

namespace CurlyMarkup

namespace Result

variable {α : Type} {r : Result α} {h : r ≠ .endless} {a : α}

theorem toExcept_eq_ok : (r.toExcept h).map Prod.snd = .ok a ↔ ∃ d, r = .ok a d := by
  cases r with
  | ok b d => simp [toExcept, Except.map]
  | fail f => simp [toExcept, Except.map]
  | endless => exact absurd rfl h

theorem toExcept_eq_error {e : SyntaxError} :
    (r.toExcept h).map Prod.snd = .error e ↔ ∃ f, r = .fail f ∧ f.toError = e := by
  cases r with
  | ok b d => simp [toExcept, Except.map]
  | fail f => simp [toExcept, Except.map]
  | endless => exact absurd rfl h

end Result

theorem readDocument_eq_ok {s : Text} {d : Document} :
    readDocument s = .ok d ↔ ∃ c, Grammar.document.run (.ofText s) = .ok d c :=
  Result.toExcept_eq_ok

theorem readDocument_eq_error {s : Text} {e : SyntaxError} :
    readDocument s = .error e ↔
      ∃ f, Grammar.document.run (.ofText s) = .fail f ∧ f.toError = e := Result.toExcept_eq_error

theorem readElement_eq_ok {s : Text} {e : Element} :
    readElement s = .ok e ↔
      ∃ c, (Grammar.rootOnly "end of input").run (.ofText s) = .ok e c := Result.toExcept_eq_ok

namespace Cursor

/-- A text is read up to its end. -/
theorem Reads.eq_of_end {s t : Text} {d : Cursor} (h : (ofText s).Reads t d) (hd : d.rest = []) :
    t = s := by
  have hs : s = t ++ d.rest := h.rest_eq
  rw [hs, hd, List.append_nil]

theorem reads_all (s : Text) : ∃ d, (ofText s).Reads s d ∧ d.rest = [] := by
  have hs : (ofText s).rest = s ++ [] := (List.append_nil s).symm
  exact ⟨_, .of_rest hs, Reads.rest_skip hs⟩

end Cursor

/-- Where the rule succeeds, the text has been read to its end. -/
def Rule.ReadsAll {α : Type} (r : Rule α) : Prop := ∀ c a d, r.run c = .ok a d → d.rest = []

namespace Rule.ReadsAll

variable {α β : Type} {r : Rule α} {s : Rule β}

theorem endOfText (expected : Text) : (endOfText expected).ReadsAll := by
  intro c a d h
  rw [run_endOfText] at h
  split at h
  case isTrue he =>
    cases h
    simpa [Cursor.atEnd] using he
  case isFalse => simp at h

theorem map (f : α → β) (h : r.ReadsAll) : (r.map f).ReadsAll := by
  intro c b d e
  rw [run_map] at e
  cases hr : r.run c <;> simp only [hr, Result.map, Result.ok.injEq, reduceCtorEq] at e
  exact h c _ d (by rw [hr, e.2])

theorem pair_right (h : s.ReadsAll) : (pair r s).ReadsAll := by
  intro c p d e
  obtain ⟨_, -, hs⟩ := pair_eq_ok e
  exact h _ _ d hs

theorem blame (k : Construct) (h : r.ReadsAll) : (r.blame k).ReadsAll :=
  fun c a d e => h c a d (mapFailure_eq_ok e)

end Rule.ReadsAll

namespace Grammar

open Rule

theorem rootOnly_readsAll (expected : Text) : (rootOnly expected).ReadsAll :=
  .map _ (.pair_right (.map _ (.pair_right (.pair_right (.blame _ (.endOfText _))))))

theorem document_readsAll : document.ReadsAll := .map _ (.pair_right (rootOnly_readsAll _))

end Grammar

/-- What a rule reads to the end of a text makes up all of that text. -/
theorem Rule.Follows.word_of_run {α : Type} {r : Rule α} {L : Text → α → Prop} (h : r.Follows L)
    (k : r.ReadsAll) {s : Text} {a : α} {c : Cursor} (hr : r.run (.ofText s) = .ok a c) :
    L s a := by
  obtain ⟨t, ht, -, hw⟩ := h.of_run hr
  rwa [← ht.eq_of_end (k _ _ _ hr)]

theorem documentWord_of_read {s : Text} {d : Document} (h : readDocument s = .ok d) :
    DocumentWord s d := by
  obtain ⟨c, hc⟩ := readDocument_eq_ok.1 h
  exact Grammar.document_follows.word_of_run Grammar.document_readsAll hc

theorem read_of_documentWord {s : Text} {d : Document} (h : DocumentWord s d) :
    readDocument s = .ok d := by
  obtain ⟨c, hc, hend⟩ := Cursor.reads_all s
  exact readDocument_eq_ok.2 ⟨c, Grammar.run_document_word h hc hend⟩

theorem rootWord_of_read {s : Text} {e : Element} (h : readElement s = .ok e) : RootWord s e := by
  obtain ⟨c, hc⟩ := readElement_eq_ok.1 h
  have he : ("end of input" : Text) ≠ unknownEscape := by decide
  exact (Grammar.rootOnly_follows he).word_of_run (Grammar.rootOnly_readsAll _) hc

theorem read_of_rootWord {s : Text} {e : Element} (h : RootWord s e) : readElement s = .ok e := by
  obtain ⟨c, hc, hend⟩ := Cursor.reads_all s
  exact readElement_eq_ok.2 ⟨c, Grammar.run_rootOnly_word _ h hc hend⟩

/-- A document is read from a text if and only if the grammar derives it. -/
theorem readDocument_eq_ok_iff_documentWord (s : Text) (d : Document) :
    readDocument s = .ok d ↔ DocumentWord s d := ⟨documentWord_of_read, read_of_documentWord⟩

/-- The grammar is unambiguous. -/
theorem DocumentWord.unique {s : Text} {d e : Document} (h : DocumentWord s d)
    (k : DocumentWord s e) : d = e :=
  Except.ok.inj ((read_of_documentWord h).symm.trans (read_of_documentWord k))

end CurlyMarkup
