import CurlyMarkup.Tree.Html
import CurlyMarkup.Tree.Source
set_option autoImplicit false

namespace CurlyMarkup

structure Line where
  depth : Nat
  text : Text
  deriving DecidableEq, Repr

def Line.indented (unit : Text) (l : Line) : Text :=
  (List.replicate l.depth unit).flatten ++ l.text

/-- The line of a text, without the blanks around that. -/
def textLines (depth : Nat) (t : Text) : List Line :=
  if t.strip.isEmpty then [] else [⟨depth, t.strip.replace '>' "&gt;"⟩]

def Attribute.shown (a : Attribute) : Text :=
  a.name ++ ("=\"" : Text) ++ (a.value.replace '<' "&lt;").replace '>' "&gt;" ++ ("\"" : Text)

/-- The value that stands last under a name. -/
def lastValue (as : List Attribute) (name : Text) : Text :=
  ((as.findRev? (·.name = name)).map (·.value)).getD []

/-- Every name once, where it comes first, with the value that it has last. -/
def distinctAttributes (as : List Attribute) : List Attribute :=
  (as.map (·.name)).eraseDups.map fun n => ⟨n, lastValue as n⟩

def Head.openingLine (h : Head) : Text :=
  '<' :: h.name ++ (distinctAttributes h.pairs).flatMap (fun a => ' ' :: a.shown) ++ (">" : Text)

mutual

/-- The lines of a node that stands alone, its tags around what is inside. -/
def Node.lines (depth : Nat) : Node → List Line
  | .text t => textLines depth t
  | .element h content =>
    if h.name = voidName then [⟨depth, "<br>"⟩]
    else
      ⟨depth, h.openingLine⟩ :: Node.linesOf (depth+1) [] content ++
        [⟨depth, '<' :: '/' :: h.name ++ (">" : Text)⟩]

/-- The lines of nodes with the text `before` in front of them, which goes on in the texts that
come first. -/
def Node.linesOf (depth : Nat) (before : Text) : List Node → List Line
  | [] => textLines depth before
  | n :: ns =>
    match n with
    | .text t => Node.linesOf depth (before ++ t) ns
    | .element _ _ => textLines depth before ++ n.lines depth ++ Node.linesOf depth [] ns

end

/-- The lines from the root on, each indented by a unit for each element that it is in. -/
def Element.layout (unit : Text) (e : Element) : Text :=
  ['\n'].intercalate ((e.toNode.lines 0).map (·.indented unit))

end CurlyMarkup
