import CurlyMarkup.Markup.Tree
set_option autoImplicit false

namespace CurlyMarkup.Markup

structure Piece where
  depth : Nat
  text : Text
  isComment : Bool
  indented : Bool
  endsLine : Bool
  deriving DecidableEq, Repr

/-- The elements whose strings hold no references. -/
def verbatimNames : List Text := ["script", "style"]

def escapeChar : Char → Text
  | '&' => "&amp;"
  | '<' => "&lt;"
  | '>' => "&gt;"
  | c => [c]

def escape (t : Text) : Text := t.flatMap escapeChar

/-- Quotation marks enclose a value, unless it has some and no apostrophes. -/
def quotedValue (value : Text) : Text :=
  let t := escape value
  if t.contains '"' then
    if t.contains '\'' then
      '"' :: t.flatMap (fun c => if c = '"' then "&quot;" else [c]) ++ ['"']
    else '\'' :: t ++ ['\'']
  else '"' :: t ++ ['"']

/-- The encoding that a document claims for itself is the one in which it is written. -/
def attributeValue (element : Text) (a : Attribute) : Text :=
  if element = ("meta" : Text) ∧ a.name = ("charset" : Text) then "utf-8" else a.value

def openingTag (name : Text) (attributes : List Attribute) : Text :=
  '<' :: name ++
    attributes.flatMap (fun a => ' ' :: a.name ++ '=' :: quotedValue (attributeValue name a)) ++
    ['>']

def closingTag (name : Text) : Text := '<' :: '/' :: name ++ ['>']

def StringKind.enclose : StringKind → Text → Text
  | .data, t => t
  | .comment, t => ("<!--" : Text) ++ t ++ ("-->" : Text)
  | .doctype, t => ("<!DOCTYPE " : Text) ++ t ++ (">\n" : Text)
  | .instruction, t => ("<?" : Text) ++ t ++ (">" : Text)
  | .section, t => ("<![CDATA[" : Text) ++ t ++ ("]]>" : Text)
  | .declaration, t => ("<?" : Text) ++ t ++ ("?>" : Text)

def stringText (parent : Text) (kind : StringKind) (t : Text) : Text :=
  if kind = .data && !verbatimNames.contains parent then escape t else kind.enclose t

/-- A string that is empty or blank has no piece, except where space is kept. -/
def stringPieces (literal : Bool) (depth : Nat) (isComment : Bool) (t : Text) : List Piece :=
  if literal then [⟨depth, t, isComment, false, false⟩]
  else if t.strip.isEmpty then []
  else [⟨depth, t.strip, isComment, true, true⟩]

mutual

/-- The pieces of a node that stands in the element `parent`: each tag and each string on a line of
its own, unless space is kept as it is. -/
def Node.pieces (preserved : List Text) (literal : Bool) (depth : Nat) (parent : Text) :
    Node → List Piece
  | .string kind t => stringPieces literal depth (kind = .comment) (stringText parent kind t)
  | .element name attributes content =>
    let tag := openingTag name attributes
    if voidNames.contains name && content.isEmpty then
      [⟨depth, tag, false, !literal, !literal⟩]
    else
      let inside := literal || preserved.contains name
      ⟨depth, tag, false, !literal, !inside⟩ ::
        piecesOf preserved inside (depth+1) name content ++
        [⟨depth, closingTag name, false, !inside, !literal⟩]

def Node.piecesOf (preserved : List Text) (literal : Bool) (depth : Nat) (parent : Text) :
    List Node → List Piece
  | [] => []
  | n :: ns => n.pieces preserved literal depth parent ++ piecesOf preserved literal depth parent ns

end

def Piece.render (unit : Text) (p : Piece) : Text :=
  (if p.indented then (List.replicate p.depth unit).flatten else []) ++ p.text ++
    (if p.endsLine then ['\n'] else [])

end CurlyMarkup.Markup
