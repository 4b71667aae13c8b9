import CurlyMarkup.Cursor
import CurlyMarkup.Text.Printable
set_option autoImplicit false

namespace CurlyMarkup

/-- The constructs that a syntax error can be blamed on. -/
inductive Construct where
  | document | doctype | element | string
  deriving DecidableEq, Repr

def Construct.label : Construct → Text
  | .document => "document"
  | .doctype => "doctype declaration"
  | .element => "element"
  | .string => "quoted string"

/-- The name that errors in this construct have in the log. -/
def Construct.errorName : Construct → Text
  | .document => "DSLParseError"
  | .doctype => "DoctypeSyntaxError"
  | .element => "ElementSyntaxError"
  | .string => "StringSyntaxError"

structure SyntaxError where
  construct : Construct
  expected : Text
  remaining : Text
  line : Int
  column : Int
  offset : Int
  /-- Replaces the description unless empty. -/
  note : Text
  deriving DecidableEq, Repr

/-- A description shows this much of what remains. -/
def previewLength : Nat := 40

def preview (remaining : Text) : Text :=
  if remaining.isEmpty then "end of input"
  else if previewLength < remaining.length then
    Text.quoted (remaining.take previewLength) ++ ("..." : Text)
  else remaining.quoted

def SyntaxError.description (e : SyntaxError) : Text :=
  ([ "Invalid ", e.construct.label, ": expected ", e.expected, " at line ", .ofInt e.line,
    ", column ", .ofInt e.column, "; remaining input: ", preview e.remaining ] : List Text).flatten

def SyntaxError.message (e : SyntaxError) : Text :=
  if e.note.isEmpty then e.description else e.note

/-- The error that names `expected` as missing at a place in the source. -/
def SyntaxError.at (c : Cursor) (construct : Construct) (expected : Text) : SyntaxError where
  construct := construct
  expected := expected
  remaining := c.rest
  line := c.line
  column := c.column
  offset := c.offset
  note := []

end CurlyMarkup
