import CurlyMarkup.Tree.Basic
set_option autoImplicit false

namespace CurlyMarkup

/-- Elements of this name are written as one tag, and all that they hold is left out. -/
def voidName : Text := "br"

/-- Elements of this name are written as a document type declaration. -/
def doctypeName : Text := "doctype"

/-- The attributes of the tag: the id, the classes in one, and then the attributes as given. -/
def Head.pairs (h : Head) : List Attribute :=
  (h.id.map (Attribute.mk "id")).toList ++
  (match h.classes with
    | none | some [] => []
    | some cs => [⟨"class", (" " : Text).intercalate cs⟩]) ++
  h.attributes.getD []

def Attribute.html (a : Attribute) : Text := a.name ++ ("=\"" : Text) ++ a.value ++ ("\"" : Text)

def Head.openingTag (h : Head) : Text :=
  if h.name = doctypeName then "<!DOCTYPE "
  else '<' :: h.name ++ h.pairs.flatMap (fun a => ' ' :: a.html) ++ (">" : Text)

def Head.closingTag (h : Head) : Text :=
  if h.name = doctypeName then ">" else '<' :: '/' :: h.name ++ (">" : Text)

/-- What is still to be written: a node, or a closing tag that waits for the nodes before it. -/
inductive Pending where
  | node (n : Node)
  | closing (tag : Text)

mutual

def Node.weight : Node → Nat
  | .text _ => 1
  | .element _ content => 2 + Node.weightOf content

def Node.weightOf : List Node → Nat
  | [] => 0
  | n :: ns => n.weight + Node.weightOf ns

end

def Pending.weight : Pending → Nat
  | .node n => n.weight
  | .closing _ => 1

def Pending.weightOf : List Pending → Nat
  | [] => 0
  | p :: ps => p.weight + weightOf ps

def Pending.nodes : List Node → List Pending
  | [] => []
  | n :: ns => .node n :: nodes ns

theorem Pending.weightOf_nodes_append (ns : List Node) (ps : List Pending) :
    Pending.weightOf (Pending.nodes ns ++ ps) = Node.weightOf ns + Pending.weightOf ps := by
  induction ns with
  | nil => simp [Pending.nodes, Node.weightOf]
  | cons n ns ih =>
    simp only [Pending.nodes, List.cons_append, weightOf, weight, Node.weightOf, ih, Nat.add_assoc]

/-- Writes what is pending, first things first; an element puts its content and closing tag in
front of the rest. -/
def Pending.html : List Pending → List Text
  | [] => []
  | .closing tag :: rest => tag :: html rest
  | .node (.text t) :: rest => t :: html rest
  | .node (.element h content) :: rest =>
    if h.name = voidName then ("<br>" : Text) :: html rest
    else h.openingTag :: html (nodes content ++ .closing h.closingTag :: rest)
termination_by pending => Pending.weightOf pending
decreasing_by
  all_goals simp only [Pending.weightOf_nodes_append, Pending.weightOf, Pending.weight, Node.weight]
  all_goals omega

def Node.html (n : Node) : Text := (Pending.html [.node n]).flatten

def Document.html (d : Document) : Text := d.doctype ++ d.root.toNode.html

end CurlyMarkup
