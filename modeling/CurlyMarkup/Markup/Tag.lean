import CurlyMarkup.Markup.Reference
import CurlyMarkup.Text.Case
import CurlyMarkup.Tree.Basic
set_option autoImplicit false

/-!
Start tags, read leniently. Attributes are set off by blanks, slashes and quotation marks; a
value may be quoted or bare, and a quotation mark that is never closed does not begin a value.
-/

namespace CurlyMarkup.Markup

/-- The kinds of text between tags. -/
inductive StringKind where
  | data | comment | doctype | instruction | section | declaration
  deriving DecidableEq, Repr

structure StartTag where
  name : Text
  attributes : List Attribute
  /-- Written with a slash at its end. -/
  selfClosing : Bool
  deriving DecidableEq, Repr

inductive Token where
  | string (kind : StringKind) (content : Text)
  | start (tag : StartTag)
  | finish (name : Text)
  deriving DecidableEq, Repr

def Token.data (t : Text) : List Token := if t.isEmpty then [] else [.string .data t]

def endsTagName (c : Char) : Bool :=
  ['\t', '\n', '\r', '\x0c', ' ', '/', '>', '\x00'].contains c

/-- An attribute may come right after such a character only. -/
def precedesAttribute (c : Char) : Bool := c = '\'' || c = '"' || c = '/' || isBlank c

def isBareValueChar (c : Char) : Bool := c ≠ '>' && !isBlank c

def isAttributeNameRest (c : Char) : Bool := c ≠ '/' && c ≠ '=' && c ≠ '>' && !isBlank c

/-- What is left of a tag, and the last character before it. -/
structure TagRest where
  previous : Char
  rest : Text

/-- Skips blanks and slashes up to the end of the tag. -/
def skipGaps (previous : Char) : Text → TagRest
  | [] => ⟨previous, []⟩
  | '/' :: '>' :: t => ⟨previous, '/' :: '>' :: t⟩
  | c :: t => if c = '/' || isBlank c then skipGaps c t else ⟨previous, c :: t⟩

def bareValue (previous : Char) (t : Text) : Text × TagRest :=
  let v := t.takeWhile isBareValueChar
  (v, ⟨v.getLastD previous, t.dropWhile isBareValueChar⟩)

/-- The equals signs after the name of an attribute and the value after them, if there is one.
Of several equals signs before a mark that is never closed, the last is part of the value. -/
def readValue? (t : Text) : Option (Text × TagRest) :=
  let t := t.dropWhile isBlank
  let signs := t.takeWhile (· = '=')
  let gap := (t.dropWhile (· = '=')).takeWhile isBlank
  let r := (t.dropWhile (· = '=')).dropWhile isBlank
  if signs.isEmpty then none
  else match r with
    | [] => some ([], ⟨gap.getLastD '=', []⟩)
    | q :: u =>
      if q = '\'' || q = '"' then
        match Text.cut? q u, gap, signs with
        | some (v, w), _, _ => some (v, ⟨q, w⟩)
        | none, b :: gap, _ => some ([], ⟨(b :: gap).getLastD b, r⟩)
        | none, [], _ :: _ :: _ => some (bareValue '=' ('=' :: r))
        | none, [], _ => none
      else some (bareValue (gap.getLastD '=') r)

/-- An attribute with its value as it is written. -/
def readAttribute? (s : TagRest) : Option (Attribute × TagRest) :=
  match s.rest with
  | [] => none
  | c :: t =>
    if !precedesAttribute s.previous || c = '/' || c = '>' || isBlank c then none
    else
      let name := c :: t.takeWhile isAttributeNameRest
      let r := t.dropWhile isAttributeNameRest
      let (value, next) := (readValue? r).getD ([], ⟨name.getLastD c, r⟩)
      some (⟨Text.lower name, value⟩, skipGaps next.previous next.rest)

/-- Attributes up to the first thing that is none; each takes up one step of `bound` at least. -/
def readAttributes (bound : Text) (s : TagRest) : List Attribute × Text :=
  match bound, readAttribute? s with
  | _ :: bound, some (a, next) =>
    let (as, r) := readAttributes bound next
    (a :: as, r)
  | _, _ => ([], s.rest)

/-- Replaces the references in every value. -/
def unescapeAttributes (as : List Attribute) : Except Rejection (List Attribute) :=
  as.mapM fun a => (unescapeValue a.value).map (Attribute.mk a.name)

inductive TagReading where
  | whole (tag : StartTag) (rest : Text)
  /-- What precedes `rest` is not a tag. -/
  | broken (rest : Text)
  /-- The text ends inside the tag. -/
  | unfinished
  | rejected (reason : Rejection)

/-- What comes after the attributes of a start tag tells how the tag ends. -/
def endStartTag (name : Text) (attributes : List Attribute) (r : Text) : TagReading :=
  match r with
  | '>' :: t => .whole ⟨name, attributes, false⟩ t
  | '/' :: '>' :: t => .whole ⟨name, attributes, true⟩ t
  | r => .broken r

/-- Whether a start tag may still go on where its attributes end. -/
def isCutShort : Text → Bool
  | [] => true
  | ['/'] => true
  | '/' :: c :: _ => c ≠ '>'
  | c :: _ => isLetter c || c = '='

/-- Reads a start tag from after its `<`. The values of a tag that is cut short are not looked
into. -/
def readStartTag (s : Text) : TagReading :=
  let name := s.takeWhile (!endsTagName ·)
  let gaps := skipGaps (name.getLastD '<') (s.dropWhile (!endsTagName ·))
  let (attributes, r) := readAttributes gaps.rest gaps
  if isCutShort r then .unfinished
  else match unescapeAttributes attributes with
    | .error reason => .rejected reason
    | .ok attributes => endStartTag (Text.lower name) attributes r

end CurlyMarkup.Markup
