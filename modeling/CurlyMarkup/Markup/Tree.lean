import CurlyMarkup.Markup.Tag
set_option autoImplicit false

/-!
The tree that tokens describe. End tags close the nearest open element of their name and all
within it; void elements close at once; what is open at the end closes there.
-/

namespace CurlyMarkup.Markup

inductive Node where
  | string (kind : StringKind) (content : Text)
  | element (name : Text) (attributes : List Attribute) (content : List Node)
  deriving Repr

/-- Elements that hold nothing. -/
def voidNames : List Text := [
  "area", "base", "br", "col", "embed", "hr", "img", "input", "keygen", "link", "menuitem",
  "meta", "param", "source", "track", "wbr", "basefont", "bgsound", "command", "frame", "image",
  "isindex", "nextid", "spacer"]

/-- An open element, with the nodes before it in reverse order. -/
structure OpenElement where
  name : Text
  attributes : List Attribute
  before : List Node

/-- A tree under construction. The open elements come innermost first. -/
structure Builder where
  /-- The content of the innermost open element so far, in reverse order. -/
  content : List Node
  outer : List OpenElement
  /-- Data that has not become a node yet, in reverse order. -/
  data : List Text
  /-- Void elements that have been closed and whose end tags may still come. -/
  closedVoids : List Text

def Builder.empty : Builder := ⟨[], [], [], []⟩

/-- A repeated attribute takes the later value at the earlier place. -/
def putAttribute (a : Attribute) : List Attribute → List Attribute
  | [] => [a]
  | b :: bs => if b.name = a.name then ⟨b.name, a.value⟩ :: bs else b :: putAttribute a bs

def mergeAttributes (as : List Attribute) : List Attribute :=
  as.foldl (fun bs a => putAttribute a bs) []

def isAsciiSpace (c : Char) : Bool := ['\t', '\n', '\x0c', '\r', ' '].contains c

/-- Space alone, or nothing, comes down to one character. -/
def collapse (t : Text) : Text :=
  if t.all isAsciiSpace then (if t.contains '\n' then ['\n'] else [' ']) else t

namespace Builder

/-- Whether an open element keeps its space as it is. -/
def preserves (preserved : List Text) (b : Builder) : Bool :=
  b.outer.any fun o => preserved.contains o.name

def addString (preserved : List Text) (kind : StringKind) (t : Text) (b : Builder) : Builder :=
  let t := if b.preserves preserved then t else collapse t
  { b with content := .string kind t :: b.content }

def flush (preserved : List Text) (b : Builder) : Builder :=
  if b.data.isEmpty then b
  else { b.addString preserved .data b.data.reverse.flatten with data := [] }

/-- Closes open elements up to and including the nearest `name`. -/
def closeThrough (name : Text) : List Node → List OpenElement → List Node × List OpenElement
  | content, [] => (content, [])
  | content, o :: outer =>
    let content := .element o.name o.attributes content.reverse :: o.before
    if o.name = name then (content, outer) else closeThrough name content outer

def closeAll : List Node → List OpenElement → List Node
  | content, [] => content
  | content, o :: outer =>
    closeAll (.element o.name o.attributes content.reverse :: o.before) outer

def openElement (preserved : List Text) (tag : StartTag) (b : Builder) : Builder :=
  let b := b.flush preserved
  { b with
    content := []
    outer := ⟨tag.name, mergeAttributes tag.attributes, b.content⟩ :: b.outer }

def closeElement (preserved : List Text) (name : Text) (b : Builder) : Builder :=
  let b := b.flush preserved
  if b.outer.any (·.name = name) then
    let (content, outer) := closeThrough name b.content b.outer
    { b with content := content, outer := outer }
  else b

/-- An end tag for a void element that has been closed already does nothing, once. -/
def finishElement (preserved : List Text) (name : Text) (b : Builder) : Builder :=
  if b.closedVoids.contains name then { b with closedVoids := b.closedVoids.erase name }
  else b.closeElement preserved name

def add (preserved : List Text) (b : Builder) : Token → Builder
  | .string .data t => { b with data := t :: b.data }
  | .string kind t => (b.flush preserved).addString preserved kind t
  | .finish name => b.finishElement preserved name
  | .start tag =>
    let b := b.openElement preserved tag
    if tag.selfClosing then b.finishElement preserved tag.name
    else if voidNames.contains tag.name then
      let b := b.closeElement preserved tag.name
      { b with closedVoids := tag.name :: b.closedVoids }
    else b

end Builder

/-- The nodes at the top. In the elements named in `preserved`, space is kept as it is. -/
def build (preserved : List Text) (tokens : List Token) : List Node :=
  let b := (tokens.foldl (Builder.add preserved) .empty).flush preserved
  (Builder.closeAll b.content b.outer).reverse

def Node.isComment : Node → Bool
  | .string .comment _ => true
  | _ => false

mutual

def Node.dropComments : Node → Node
  | .string k t => .string k t
  | .element name attributes content => .element name attributes (dropCommentsOf content)

def Node.dropCommentsOf : List Node → List Node
  | [] => []
  | n :: ns => if n.isComment then dropCommentsOf ns else n.dropComments :: dropCommentsOf ns

end

end CurlyMarkup.Markup
