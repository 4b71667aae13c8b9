import CurlyMarkup.Grammar
import CurlyMarkup.Rule.Ends
set_option autoImplicit false

namespace CurlyMarkup

/-- The value of a reading that has come to an end. -/
def Result.toExcept {α : Type} : (r : Result α) → r ≠ .endless → Except SyntaxError (Cursor × α)
  | .ok a c, _ => .ok (c, a)
  | .fail e, _ => .error e.toError
  | .endless, h => absurd rfl h

def Rule.read {α : Type} (r : Rule α) (h : r.Ends) (t : Text) : Except SyntaxError (Cursor × α) :=
  (r.run (.ofText t)).toExcept (h _)

namespace Grammar

open Rule

theorem blanks_ends : blanks.Ends := .takeWhile _

theorem blanks1_ends (t : Text) : (blanks1 t).Ends := .takeWhile1 _ _

theorem identifier_ends : identifier.Ends := .takeWhile1 _ _

theorem string_ends : string.Ends :=
  .preceded (.literal _ _) (.commit (.terminated (.unescape _ _ _ _) (.blame _ (.literal _ _))))

theorem id_ends : id.Ends := .preceded (.literal _ _) (.commit identifier_ends)

theorem classes_ends : classes.Ends := .many (.preceded (.literal _ _) (.commit identifier_ends))

theorem attributePair_ends : attributePair.Ends :=
  .map _ (.pair (.takeWhile1 _ _) (.commit (.preceded (.literal _ _) (.relabel _ string_ends))))

theorem attributePair_consumes : attributePair.Consumes := .map _ (.pair_left (.takeWhile1 _ _))

theorem attributes_ends : attributes.Ends :=
  .preceded (.literal _ _) <| .commit <| .delimited blanks_ends
    (.separated attributePair_ends attributePair_consumes (blanks1_ends _))
    (.pair blanks_ends (.literal _ _))

theorem selectors_ends : selectors.Ends :=
  .terminated
    (.pair (.optional id_ends)
      (.pair classes_ends (.preceded blanks_ends (.optional attributes_ends))))
    (.pair blanks_ends (.literal _ _))

theorem head_ends : head.Ends :=
  .map _ (.pair (.takeWhile1 _ _) (.blame _ (.commit selectors_ends)))

theorem turn_ends : turn.Ends :=
  .preceded blanks_ends <| .orElse (.map _ head_ends) <| .orElse (.map _ string_ends) <|
    .map _ (.commit (.blame _ (.literal _ _)))

theorem turn_consumes : turn.Consumes :=
  .preceded_right <| .orElse (.map _ (.map _ (.pair_left (.takeWhile1 _ _)))) <|
    .orElse (.map _ (.preceded_left (.literal _ _ _))) <|
    .map _ (.commit (.blame _ (.literal _ _ _)))

theorem element_ends : element.Ends := .map _ (.nested _ head_ends turn_ends turn_consumes)

theorem rootOnly_ends (t : Text) : (rootOnly t).Ends :=
  .delimited blanks_ends (.blame _ (.relabel _ element_ends))
    (.pair blanks_ends (.blame _ (.endOfText _)))

theorem doctype_ends : doctype.Ends :=
  .map _ <| .preceded
    (.blame _ (.relabel _ (.orElse (.literal _ _) (.literal _ _))))
    (.blame _ <| .commit <| .delimited
      (.pair (blanks1_ends _) (.pair (.literal _ _) blanks_ends))
      (.relabel _ string_ends)
      (.pair blanks_ends (.literal _ _)))

theorem document_ends : document.Ends :=
  .map _ (.pair (.preceded blanks_ends doctype_ends) (rootOnly_ends _))

end Grammar

def readDocument (source : Text) : Except SyntaxError Document :=
  (Grammar.document.read Grammar.document_ends source).map Prod.snd

/-- Reads one element that stands alone, without a document type. -/
def readElement (source : Text) : Except SyntaxError Element :=
  ((Grammar.rootOnly "end of input").read (Grammar.rootOnly_ends _) source).map Prod.snd

/-- Either the document or the messages of the errors, of which there is at least one. -/
inductive Report where
  | document (d : Document)
  | errors (messages : List Text)

def emptySourceMessage : Text := "Empty DSL content provided"

def report (source : Text) : Report :=
  if source.strip.isEmpty then .errors [emptySourceMessage]
  else match readDocument source with
    | .ok d => .document d
    | .error e => .errors [e.message]

def Report.succeeded : Report → Bool
  | .document _ => true
  | .errors _ => false

def isDocument (source : Text) : Bool := (report source).succeeded

end CurlyMarkup
