import CurlyMarkup.Tree.Basic
set_option autoImplicit false

namespace CurlyMarkup

/-- Puts `new` in the place of every `old`. -/
def Text.replace (t : Text) (old : Char) (new : Text) : Text :=
  t.flatMap fun x => if x = old then new else [x]

/-- The backslashes come first, before the escapes of the others bring in new ones. -/
def Text.escaped (t : Text) : Text :=
  ((t.replace '\\' "\\\\").replace '"' "\\\"").replace '\n' "\\n"

def Text.source (t : Text) : Text := '"' :: t.escaped ++ ['"']

def Attribute.source (a : Attribute) : Text := a.name ++ '=' :: a.value.source

def Head.idSource (h : Head) : Text := h.id.elim [] ('#' :: ·)

def Head.classesSource (h : Head) : Text := (h.classes.getD []).flatMap ('.' :: ·)

def Head.attributesSource (h : Head) : Text :=
  h.attributes.elim [] fun as =>
    (" [" : Text) ++ (" " : Text).intercalate (as.map Attribute.source) ++ ("]" : Text)

def Head.source (h : Head) : Text := h.name ++ h.idSource ++ h.classesSource ++ h.attributesSource

mutual

def Node.source : Node → Text
  | .text t => t.source
  | .element h content =>
    h.source ++ (" \x7b " : Text) ++ (" " : Text).intercalate (Node.sources content) ++
      (" \x7d" : Text)

def Node.sources : List Node → List Text
  | [] => []
  | n :: ns => n.source :: Node.sources ns

end

def Element.source (e : Element) : Text := e.toNode.source

/-- A document of the type `doctype`. -/
def Element.documentSource (e : Element) (doctype : Text) : Text :=
  ("!doctype \x7b " : Text) ++ doctype.source ++ (" \x7d\n" : Text) ++ e.source ++ ("\n" : Text)

end CurlyMarkup
