import CurlyMarkup.Rule.Run
import CurlyMarkup.Text.Alphanumeric
import CurlyMarkup.Tree.Basic
set_option autoImplicit false

/-!
The grammar of documents. Blanks between tokens mean nothing, except inside strings.

    document     := doctype element
    doctype      := ("!doctype" | "!DOCTYPE") blank+ "{" string "}"
    element      := name id? class* attributes? "{" (element | string)* "}"
    id           := "#" name
    class        := "." name
    attributes   := "[" (attribute (blank+ attribute)*)? "]"
    attribute    := attribute-name "=" string

A rule whose leading token has been read is committed: the rest of it is mandatory.
-/

namespace CurlyMarkup

def isNameChar (c : Char) : Bool := isAlphanumeric c || c = '_'

def isAttributeNameChar (c : Char) : Bool := isAlphanumeric c || c = '_' || c = '-'

def isStringChar (c : Char) : Bool := c ≠ '"' && c ≠ '\\'

/-- The escapes of strings. -/
def stringEscapes : EscapeTable := [("\\", "\\"), ("\"", "\""), ("n", "\n")]

namespace Grammar

open Rule

def identifier : Rule Text := takeWhile1 isNameChar "identifier"

def tagName : Rule Text := takeWhile1 isNameChar "tag name"

def attributeName : Rule Text := takeWhile1 isAttributeNameChar "attribute name"

def stringBody : Rule Text := unescape isStringChar '\\' stringEscapes .string

def closingQuote : Rule Text := blame .string (literal "\"" "closing quote '\"'")

def string : Rule Text :=
  preceded (literal "\"" "opening quote '\"'") (commit (terminated stringBody closingQuote))

def id : Rule Text := preceded (token "#") (commit identifier)

def cssClass : Rule Text := preceded (token ".") (commit identifier)

def classes : Rule (List Text) := many cssClass

def attributeValue : Rule Text :=
  preceded (literal "=" "'=' after attribute name") (relabel "quoted attribute value" string)

def attributePair : Rule Attribute :=
  (pair attributeName (commit attributeValue)).map fun (name, value) => ⟨name, value⟩

def attributeList : Rule (List Attribute) :=
  delimited blanks (separated attributePair (blanks1 "whitespace"))
    (pair blanks (literal "]" "attribute or closing bracket ']'"))

def attributes : Rule (List Attribute) := preceded (token "[") (commit attributeList)

def openingBrace : Rule Text := literal "\x7b" "opening brace '\x7b'"

def closingBrace : Rule Text := literal "\x7d" "element or closing brace '\x7d'"

/-- What stands between the name of an element and its content. -/
def selectors : Rule (Option Text × List Text × Option (List Attribute)) :=
  terminated
    (pair (optional id) (pair classes (preceded blanks (optional attributes))))
    (pair blanks openingBrace)

def head : Rule Head :=
  (pair tagName (blame .element (commit selectors))).map fun (name, id, classes, attributes) =>
    ⟨name, id, if classes.isEmpty then none else some classes, attributes⟩

/-- Inside an element comes another element, a string or the closing brace, tried in this order. -/
def turn : Rule (Turn Head Node) :=
  preceded blanks <|
    orElse (head.map .opened) <|
    orElse (string.map fun t => .leaf (.text t)) <|
    (commit (blame .element closingBrace)).map fun _ => .closed

def element : Rule Element := (nested head turn .element).map fun (h, content) => ⟨h, content⟩

def stringNode : Rule Node := string.map .text

def item : Rule Node :=
  preceded blanks <|
    relabel "element or quoted string" (orElse (element.map Element.toNode) stringNode)

def items : Rule (List Node) := many item

def doctypeKeyword : Rule Text :=
  relabel "'!doctype' declaration" (orElse (token "!doctype") (token "!DOCTYPE"))

def doctypeBody : Rule Text :=
  delimited
    (pair (blanks1 "whitespace after '!doctype'") (pair openingBrace blanks))
    (relabel "quoted doctype string" string)
    (pair blanks (literal "\x7d" "closing brace '\x7d'"))

/-- The declaration in the form in which the output has it. -/
def declaration (value : Text) : Text := ("<!DOCTYPE " : Text) ++ value ++ (">\n" : Text)

def doctype : Rule Text :=
  (preceded (blame .doctype doctypeKeyword) (blame .doctype (commit doctypeBody))).map declaration

def root : Rule Element := blame .element (relabel "root element" element)

/-- One element up to the end of the text, announced as `expected`. -/
def rootOnly (expected : Text) : Rule Element :=
  delimited blanks root (pair blanks (blame .element (endOfText expected)))

def document : Rule Document :=
  (pair (preceded blanks doctype) (rootOnly "end of input after the root element")).map
    fun (doctype, root) => ⟨doctype, root⟩

end Grammar

end CurlyMarkup
