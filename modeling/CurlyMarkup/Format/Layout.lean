import CurlyMarkup.Format.Formatter
import CurlyMarkup.Markup.Scanner
import CurlyMarkup.Markup.Layout
set_option autoImplicit false

/-!
The formatter that lays HTML out anew. It refuses the one option that it does not know, and what
its printer cannot do; the printer here parses the HTML into a tree and writes that in lines.
-/

namespace CurlyMarkup

namespace Layout

open Markup

/-- The elements whose space stays as it is. -/
def preservedNames (indentCdata : Bool) : List Text :=
  if indentCdata then ["pre", "textarea"] else ["pre", "textarea", "script", "style"]

def pieces (indentCdata stripComments : Bool) (html : Text) : Except Rejection (List Piece) :=
  (scan html).map fun tokens =>
    let nodes := build (preservedNames indentCdata) tokens
    Node.piecesOf (preservedNames indentCdata) false 0 []
      (if stripComments then Node.dropCommentsOf nodes else nodes)

def logger : Text := "braceml.core.rendering.formatter"

def record (level : Level) (event : Text) (fields : List (Text × FieldValue)) : Record :=
  ⟨level, logger, event, ("formatter", .text (Backend.name .layout)) :: fields⟩

def indentAttributesMessage : Text := "Per-line attribute indentation is not supported"

/-- What parses HTML and prints it anew, or says why it cannot. -/
abbrev Printer := Text → FormatOptions → Except Text Text

def failureMessage (cause : Text) : Text := ("HTML formatting failed: " : Text) ++ cause

/-- The formatter that leaves the work to a printer. -/
def formatWith (print : Printer) : Formatter := fun html o =>
  if o.indentAttributes then .quiet (.refused indentAttributesMessage)
  else match print html o with
    | .ok t =>
      ⟨.formatted (Text.trimEnd (· = '\n') t),
        [record .debug "HTML formatted"
          [("input_length", .count html.length), ("output_length", .count t.length)]]⟩
    | .error cause =>
      ⟨.refused (failureMessage cause),
        [record .error "Formatting failed" [("error", .text (failureMessage cause))]]⟩

/-- What is said of HTML that is not accepted. A number that is too long is no fault of the
parser. -/
def rejectionText (r : Rejection) : Text :=
  match r with
  | .tooManyDigits _ => r.message
  | .nameExpected _ | .unknownKeyword _ =>
    ([ "The markup you provided was rejected by the parser. ",
      "Trying a different parser or a different encoding may help.\n\n",
      "Original exception(s) from parser:\n AssertionError: ", r.message ] : List Text).flatten

def print : Printer := fun html o =>
  match pieces o.indentCdata o.stripComments html with
  | .ok ps => .ok (ps.flatMap (·.render o.unit))
  | .error r => .error (rejectionText r)

def format : Formatter := formatWith print

def rejectionMessage (r : Rejection) : Text := failureMessage (rejectionText r)

theorem format_of_pieces {html : Text} {o : FormatOptions} {ps : List Piece}
    (ha : o.indentAttributes = false) (h : pieces o.indentCdata o.stripComments html = .ok ps) :
    (format html o).value = .formatted (Text.trimEnd (· = '\n') (ps.flatMap (·.render o.unit))) := by
  rw [format, formatWith, ha, if_neg (by decide), print, h]

theorem format_of_rejection {html : Text} {o : FormatOptions} {r : Rejection}
    (ha : o.indentAttributes = false) (h : pieces o.indentCdata o.stripComments html = .error r) :
    (format html o).value = .refused (rejectionMessage r) := by
  rw [format, formatWith, ha, if_neg (by decide), print, h]
  rfl

end Layout

open Layout

def Backend.formatterWith (print : Printer) : Backend → Formatter
  | .layout => formatWith print
  | .asIs => leaveAsIs

def Backend.formatter (b : Backend) : Formatter := b.formatterWith print

/-- The formatters that can be made, by their names. -/
def formatters (print : Printer) : List (Text × Formatter) := [
  ("soup", formatWith print), ("none", leaveAsIs)]

/-- Makes the formatter of a name, or says that there is none. -/
def createFormatter (print : Printer) (name : Text) : Except Text Formatter :=
  match (formatters print).lookup name with
  | some f => .ok f
  | none => .error (("Unsupported formatter type: " : Text) ++ name)

/-- Whatever settings and flags can name, there is a formatter for. -/
theorem createFormatter_name (print : Printer) (b : Backend) :
    createFormatter print b.name = .ok (b.formatterWith print) := by
  cases b <;> rfl

end CurlyMarkup
