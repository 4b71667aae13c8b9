import CurlyMarkup.Datum.Reader
import CurlyMarkup.Log.Record
set_option autoImplicit false

namespace CurlyMarkup

def maxIndent : Nat := 16

def defaultIndent : Fin (maxIndent+1) := 2

structure FormatOptions where
  useTabs : Bool := false
  indentSize : Fin (maxIndent+1) := defaultIndent
  indentAttributes : Bool := false
  indentCdata : Bool := false
  stripComments : Bool := false
  deriving DecidableEq, Repr

def readFormatOptions (fields : Fields) : Checked FormatOptions :=
  let o : FormatOptions := {}
  (Checked.both (fields.optional "use_tabs" o.useTabs readBool) <|
    Checked.both (fields.optional "indent_size" o.indentSize (readUpTo maxIndent)) <|
    Checked.both (fields.optional "indent_attributes" o.indentAttributes readBool) <|
    Checked.both (fields.optional "indent_cdata" o.indentCdata readBool)
      (fields.optional "strip_comments" o.stripComments readBool)).map
    fun (useTabs, indentSize, indentAttributes, indentCdata, stripComments) =>
      { useTabs, indentSize, indentAttributes, indentCdata, stripComments }

def FormatOptions.fields (o : FormatOptions) : Fields := [
  ("use_tabs", .bool o.useTabs),
  ("indent_size", .int o.indentSize.val),
  ("indent_attributes", .bool o.indentAttributes),
  ("indent_cdata", .bool o.indentCdata),
  ("strip_comments", .bool o.stripComments)]

/-- What one level of depth puts in front of a line. -/
def FormatOptions.unit (o : FormatOptions) : Text :=
  if o.useTabs then ['\t'] else List.replicate o.indentSize.val ' '

inductive FormatResult where
  | formatted (html : Text)
  /-- The formatter cannot do it and says why. -/
  | refused (message : Text)
  /-- The formatter broke down. -/
  | crashed (message : Text)
  deriving DecidableEq, Repr

abbrev Formatter := Text → FormatOptions → Logged FormatResult

/-- A formatter that leaves HTML as it is. -/
def leaveAsIs : Formatter := fun html _ => .quiet (.formatted html)

/-- The formatters that can be asked for by name. -/
inductive Backend where
  | layout
  | asIs
  deriving DecidableEq, Repr

def Backend.all : List Backend := [.layout, .asIs]

def Backend.name : Backend → Text
  | .layout => "soup"
  | .asIs => "none"

def Backend.ofName? (t : Text) : Option Backend := Backend.all.find? (·.name = t)

end CurlyMarkup
