import CurlyMarkup.Datum.Reader
import CurlyMarkup.Tree.Basic
set_option autoImplicit false

/-!
Trees as data. A node says by its `kind` whether it is a text or an element; the root of a
document is always an element and need not say so.
-/

namespace CurlyMarkup

def plainKind : Text := "plain"

def tagKind : Text := "tag"

def Attribute.datum (a : Attribute) : Datum :=
  .object [("name", .string a.name), ("value", .string a.value)]

def Datum.ofOption {α : Type} (f : α → Datum) (a : Option α) : Datum := a.elim .null f

/-- The fields of an element whose content is already data. -/
def Head.fields (h : Head) (content : List Datum) : Fields := [
  ("kind", .string tagKind),
  ("name", .string h.name),
  ("id", .ofOption .string h.id),
  ("classes", .ofOption (fun cs => .list (cs.map .string)) h.classes),
  ("attributes", .ofOption (fun as => .list (as.map Attribute.datum)) h.attributes),
  ("content", .list content)]

mutual

def Node.datum : Node → Datum
  | .text t => .object [("kind", .string plainKind), ("text", .string t)]
  | .element h content => .object (h.fields (Node.dataOf content))

def Node.dataOf : List Node → List Datum
  | [] => []
  | n :: ns => n.datum :: Node.dataOf ns

end

def Element.datum (e : Element) : Datum := e.toNode.datum

def Document.datum (d : Document) : Datum :=
  .object [("doctype", .string d.doctype), ("root", d.root.datum)]

def readAttribute : Reader Attribute :=
  readModel "Attribute" fun fields =>
    (Checked.both (fields.required "name" readNonempty)
      (fields.optional "value" [] readText)).map fun (name, value) => ⟨name, value⟩

/-- The text of a node of the kind `plain`. -/
def readPlainFields (fields : Fields) : Checked Text :=
  (Checked.both (fields.fixed "kind" plainKind) (fields.optional "text" [] readText)).map Prod.snd

def readHeadFields (fields : Fields) : Checked Head :=
  (Checked.both (fields.fixed "kind" tagKind) <|
    Checked.both (fields.required "name" readNonempty) <|
    Checked.both (fields.optional "id" none (readNullable readText)) <|
    Checked.both (fields.optional "classes" none (readNullable (readTuple readText)))
      (fields.optional "attributes" none (readNullable (readTuple readAttribute)))).map
    fun (_, name, id, classes, attributes) => ⟨name, id, classes, attributes⟩

mutual

def readNode : Datum → Checked Node
  | .object fields =>
    match fields.lookup ("kind" : Text) with
    | none => .refuse .noKind
    | some kind =>
      if kind.shown = plainKind then
        ((readPlainFields fields).under (.key plainKind)).map .text
      else if kind.shown = tagKind then
        ((Checked.both (readHeadFields fields) (readContent fields)).under (.key tagKind)).map
          fun (h, content) => .element h content
      else .refuse (.unknownKind kind.shown)
  | _ => .refuse .notObject

/-- The nodes in the field `content`, none if there is no such field. -/
def readContent : List (Text × Datum) → Checked (List Node)
  | [] => .ok []
  | (name, d) :: fields =>
    if name = ("content" : Text) then
      match d with
      | .list items => (readNodes 0 items).under (.key "content")
      | _ => Checked.under (.key "content") (.refuse .notTuple)
    else readContent fields

def readNodes (n : Nat) : List Datum → Checked (List Node)
  | [] => .ok []
  | d :: ds =>
    (Checked.both ((readNode d).under (.index n)) (readNodes (n+1) ds)).map
      fun (x, xs) => x :: xs

end

def readElementFields (fields : Fields) : Checked Element :=
  (Checked.both (readHeadFields fields) (readContent fields)).map fun (h, content) => ⟨h, content⟩

def readElementDatum : Reader Element := readModel "Tag" readElementFields

def readPlainDatum : Reader Text := readModel "Plain" readPlainFields

def readDocumentDatum : Reader Document :=
  readModel "Document" fun fields =>
    (Checked.both (fields.required "doctype" readText)
      (fields.required "root" readElementDatum)).map fun (doctype, root) => ⟨doctype, root⟩

end CurlyMarkup
