import CurlyMarkup.Text.Basic
set_option autoImplicit false

namespace CurlyMarkup

structure Attribute where
  name : Text
  value : Text
  deriving DecidableEq, Repr

/-- What an element says of itself. Absent classes and attributes differ from empty ones. -/
structure Head where
  name : Text
  id : Option Text
  classes : Option (List Text)
  attributes : Option (List Attribute)
  deriving DecidableEq, Repr

inductive Node where
  | text (content : Text)
  | element (head : Head) (content : List Node)
  deriving Repr

structure Element where
  head : Head
  content : List Node
  deriving Repr

def Element.toNode (e : Element) : Node := .element e.head e.content

/-- The document type is kept as the declaration that the output starts with. -/
structure Document where
  doctype : Text
  root : Element
  deriving Repr

/-- One step of a walk over a tree in the order of its source. -/
inductive Visit where
  | enter (head : Head)
  | text (content : Text)
  | leave
  deriving DecidableEq, Repr

mutual

/-- The visits of a walk over the node and then `rest`. -/
def Node.visitsBefore (rest : List Visit) : Node → List Visit
  | .text t => .text t :: rest
  | .element h content => .enter h :: Node.visitsOfBefore (.leave :: rest) content

def Node.visitsOfBefore (rest : List Visit) : List Node → List Visit
  | [] => rest
  | n :: ns => n.visitsBefore (Node.visitsOfBefore rest ns)

end

def Node.visits (n : Node) : List Visit := n.visitsBefore []

end CurlyMarkup
