import CurlyMarkup.Proofs.GuardedReading
import CurlyMarkup.Results
set_option autoImplicit false

namespace CurlyMarkup

namespace Report

/-- The fields that a result is made of. Beside a document the errors are left out. -/
def fields (time : Option Seconds) : Report → Fields
  | .document d => [("success", .bool true), ("document", d.datum), timeField time]
  | .errors messages => [("success", .bool false), ("document", .null),
      ("errors", .list (messages.map .string)), timeField time]

theorem readReadingResult_fields {r : Report} (h : ∀ d, r = .document d → d.root.Named)
    (time : Option Seconds) :
    readReadingResult (.object (r.fields time)) = .ok (r.result time) := by
  have htime : readNullable readSeconds (.ofOption Seconds.datum time) = .ok time :=
    readNullable_ofOption (fun _ h => by cases h) fun _ _ => rfl
  have success : (r.fields time).required "success" readBool = .ok r.succeeded := by
    cases r <;> exact Fields.required_of_lookup rfl rfl
  have readTime : readTime (r.fields time) = .ok time := by
    cases r <;> exact Fields.optional_of_lookup rfl htime
  rw [readReadingResult, readModel, success, readTime]
  cases r with
  | document d =>
    have hread : readNullable readDocumentDatum (.ofOption Document.datum (some d)) =
        .ok (some d) := by
      refine readNullable_ofOption (fun _ h => by cases h) fun b hb => ?_
      cases hb
      exact Document.readDocumentDatum_datum (h d rfl)
    have document : ((Report.document d).fields time).optional "document" none
        (readNullable readDocumentDatum) = .ok (some d) := Fields.optional_of_lookup rfl hread
    have errors : ((Report.document d).fields time).optional "errors" [] (readList readText) =
        .ok [] := Fields.optional_of_absent rfl
    rw [document, errors]
    rfl
  | errors messages =>
    have document : ((Report.errors messages).fields time).optional "document" none
        (readNullable readDocumentDatum) = .ok none := Fields.optional_of_lookup rfl rfl
    have errors : ((Report.errors messages).fields time).optional "errors" [] (readList readText) =
        .ok messages := Fields.optional_of_lookup rfl (readList_map fun _ _ => rfl)
    rw [document, errors]
    rfl

end Report

/-- Where the text ends a document type is missed, whatever comes before. -/
theorem Grammar.run_doctype_end {c : Cursor} (h : c.rest = []) :
    doctype.run c = .fail ((c.missing "'!doctype' declaration").blame .doctype) := by
  obtain ⟨text, offset, rest, rest_eq⟩ := c
  subst h
  rfl

/-- Blanks alone lack a document type, and nothing is left where it is missed. -/
theorem readDocument_blank {s : Text} (h : s.all isBlank = true) :
    ∃ e, readDocument s = .error e ∧ e.construct = .doctype ∧ e.remaining = [] := by
  obtain ⟨d, hd, hend⟩ := Cursor.reads_all s
  have hs : BlankWord s := List.all_eq_true.1 h
  have hstop : d.Stops isBlank := by simp [Cursor.Stops, Cursor.peek_eq_none.2 hend]
  have hskip : (Cursor.ofText s).skipBlanks = d := Cursor.skipBlanks_eq hd hs hstop
  have hrun : Grammar.document.run (.ofText s) =
      .fail ((d.missing "'!doctype' declaration").blame .doctype) := by
    rw [Grammar.document, Rule.run_map, Rule.run_pair, Rule.run_preceded_blanks, hskip,
      Grammar.run_doctype_end hend]
    rfl
  exact ⟨_, readDocument_eq_error.2 ⟨_, hrun, rfl⟩, rfl, hend⟩

theorem report_blank {s : Text} (h : s.all isBlank = true) :
    report s = .errors [emptySourceMessage] := by
  rw [report, Text.strip_isEmpty, if_pos h]

/-- A report holds what the reading comes to. -/
theorem report_of_ok {s : Text} {d : Document} (h : readDocument s = .ok d) :
    report s = .document d := by
  have hs : s.all isBlank = false := by
    refine Bool.eq_false_iff.2 fun hs => ?_
    obtain ⟨e, he, -⟩ := readDocument_blank hs
    rw [h] at he
    cases he
  rw [report, Text.strip_isEmpty, hs, h]
  rfl

theorem report_of_error {s : Text} {e : SyntaxError} (h : readDocument s = .error e) :
    report s = .errors [if s.all isBlank then emptySourceMessage else e.message] := by
  cases hs : s.all isBlank with
  | true => rw [report_blank hs, if_pos rfl]
  | false =>
    rw [report, Text.strip_isEmpty, hs, h]
    rfl

/-- What is read as a document is what the models make of the text when every value is handed to
them, and so is what is not. -/
theorem readDocument_eq_ok_iff_guarded {s : Text} {d : Document} : readDocument s = .ok d ↔
    ∃ c, Guarded.document (.ofText s) = .ok (.ok d c) := by
  simp [readDocument_eq_ok, Guarded.document_agrees (.ofText s)]

theorem readDocument_eq_error_iff_guarded {s : Text} {e : SyntaxError} :
    readDocument s = .error e ↔
      ∃ f, Guarded.document (.ofText s) = .ok (.fail f) ∧ f.toError = e := by
  simp [readDocument_eq_error, Guarded.document_agrees (.ofText s)]

/-- A text is reported as the document or the error that it is read as, except that the message for
blanks alone is a fixed one. No value that is made on the way, nor the report, is refused by its
model: with every model asked, the same document or error comes out. -/
theorem report_agrees (s : Text) (time : Option Seconds) :
    (∀ d, readDocument s = .ok d → (report s).result time = ⟨true, some d, [], time⟩) ∧
    (∀ e, readDocument s = .error e → (report s).result time =
      ⟨false, none, [if s.all isBlank then emptySourceMessage else e.message], time⟩) ∧
    (s.all isBlank = true →
      ∃ e, readDocument s = .error e ∧ e.construct = .doctype ∧ e.remaining = []) ∧
    (isDocument s = true ↔ ∃ d, readDocument s = .ok d) ∧
    Guarded.document.Agrees Grammar.document ∧
    (∀ d, readDocument s = .ok d ↔ ∃ c, Guarded.document (.ofText s) = .ok (.ok d c)) ∧
    (∀ e, readDocument s = .error e ↔
      ∃ f, Guarded.document (.ofText s) = .ok (.fail f) ∧ f.toError = e) ∧
    readReadingResult (.object ((report s).fields time)) = .ok ((report s).result time) := by
  refine ⟨fun d h => ?_, fun e h => ?_, readDocument_blank, ?_, Guarded.document_agrees,
    fun _ => readDocument_eq_ok_iff_guarded, fun _ => readDocument_eq_error_iff_guarded, ?_⟩
  · rw [report_of_ok h]
    rfl
  · rw [report_of_error h]
    rfl
  · cases h : readDocument s with
    | ok d => simp [isDocument, report_of_ok h, Report.succeeded]
    | error e => simp [isDocument, report_of_error h, Report.succeeded]
  · refine Report.readReadingResult_fields (fun d hd => ?_) time
    cases h : readDocument s with
    | ok d' =>
      rw [report_of_ok h] at hd
      cases hd
      exact Node.WellFormed.named (wellFormed_of_readDocument h)
    | error e =>
      rw [report_of_error h] at hd
      cases hd

end CurlyMarkup
