import CurlyMarkup.Tree.Data
set_option autoImplicit false

namespace CurlyMarkup

def Attribute.Named (a : Attribute) : Prop := a.name ≠ []

structure Head.Named (h : Head) : Prop where
  name : h.name ≠ []
  attributes : ∀ as ∈ h.attributes, ∀ a ∈ as, a.Named

/-- A tree without empty names. -/
inductive Node.Named : Node → Prop where
  | text (t : Text) : Named (.text t)
  | element {h : Head} {content : List Node} (head : h.Named)
      (inside : ∀ n ∈ content, Named n) : Named (.element h content)

def Element.Named (e : Element) : Prop := e.toNode.Named

section

variable {α : Type}

theorem readNonempty_string {t : Text} (h : t ≠ []) : readNonempty (.string t) = .ok t := by
  cases t with
  | nil => exact absurd rfl h
  | cons => rfl

/-- Every item is read back, whatever the index of the first. -/
theorem readItems_map {r : Reader α} {f : α → Datum} {as : List α} (h : ∀ a ∈ as, r (f a) = .ok a)
    (n : Nat) : readItems r n (as.map f) = .ok as := by
  induction as generalizing n with
  | nil => rfl
  | cons a as ih =>
    obtain ⟨ha, has⟩ := List.forall_mem_cons.1 h
    rw [List.map_cons, readItems, ha, ih has]
    rfl

theorem readTuple_map {r : Reader α} {f : α → Datum} {as : List α}
    (h : ∀ a ∈ as, r (f a) = .ok a) : readTuple r (.list (as.map f)) = .ok as := readItems_map h 0

theorem readList_map {r : Reader α} {f : α → Datum} {as : List α}
    (h : ∀ a ∈ as, r (f a) = .ok a) : readList r (.list (as.map f)) = .ok as := readItems_map h 0

/-- What is written for a value must not be what stands for none. -/
theorem readNullable_ofOption {r : Reader α} {f : α → Datum} {a : Option α}
    (hf : ∀ a, f a ≠ .null) (h : ∀ b ∈ a, r (f b) = .ok b) :
    readNullable r (.ofOption f a) = .ok a := by
  cases a with
  | none => rfl
  | some b =>
    have hread : readNullable r (f b) = (r (f b)).map some := by
      cases hb : f b <;> first | rfl | exact absurd hb (hf b)
    rw [Datum.ofOption, Option.elim_some, hread, h b rfl]
    rfl

end

theorem Attribute.Named.readAttribute_datum {a : Attribute} (h : a.Named) :
    readAttribute a.datum = .ok a := by
  have name : Fields.required [("name", .string a.name), ("value", .string a.value)] "name"
      readNonempty = .ok a.name := Fields.required_of_lookup rfl (readNonempty_string h)
  have value : Fields.optional [("name", .string a.name), ("value", .string a.value)] "value" []
      readText = .ok a.value := Fields.optional_of_lookup rfl rfl
  rw [readAttribute, Attribute.datum, readModel, name, value]
  rfl

namespace Head

/-- The fields of an element without its kind. -/
def given (h : Head) (content : List Datum) : Fields := [
  ("name", .string h.name),
  ("id", .ofOption .string h.id),
  ("classes", .ofOption (fun cs => .list (cs.map .string)) h.classes),
  ("attributes", .ofOption (fun as => .list (as.map Attribute.datum)) h.attributes),
  ("content", .list content)]

theorem Named.readAttributes {h : Head} (w : h.Named) :
    readNullable (readTuple readAttribute)
      (.ofOption (fun as => .list (as.map Attribute.datum)) h.attributes) = .ok h.attributes :=
  readNullable_ofOption (fun _ h => by cases h) fun as has =>
    readTuple_map fun a ha => (w.attributes as has a ha).readAttribute_datum

/-- The kind of an element need not be given. -/
theorem Named.readHeadFields {h : Head} (w : h.Named) {fields : Fields} {content : List Datum}
    (hf : fields = h.fields content ∨ fields = h.given content) :
    readHeadFields fields = .ok h := by
  have hid : readNullable readText (.ofOption .string h.id) = .ok h.id :=
    readNullable_ofOption (fun _ h => by cases h) fun _ _ => rfl
  have hclasses : readNullable (readTuple readText)
      (.ofOption (fun cs => .list (cs.map .string)) h.classes) = .ok h.classes :=
    readNullable_ofOption (fun _ h => by cases h) fun _ _ => readTuple_map fun _ _ => rfl
  have kind : fields.fixed "kind" tagKind = .ok () := by
    rcases hf with rfl | rfl
    · exact Fields.optional_of_lookup rfl rfl
    · exact Fields.optional_of_absent rfl
  have name : fields.required "name" readNonempty = .ok h.name :=
    Fields.required_of_lookup (by rcases hf with rfl | rfl <;> rfl) (readNonempty_string w.name)
  have id : fields.optional "id" none (readNullable readText) = .ok h.id :=
    Fields.optional_of_lookup (by rcases hf with rfl | rfl <;> rfl) hid
  have classes : fields.optional "classes" none (readNullable (readTuple readText)) =
      .ok h.classes :=
    Fields.optional_of_lookup (by rcases hf with rfl | rfl <;> rfl) hclasses
  have attributes : fields.optional "attributes" none (readNullable (readTuple readAttribute)) =
      .ok h.attributes :=
    Fields.optional_of_lookup (by rcases hf with rfl | rfl <;> rfl) w.readAttributes
  rw [CurlyMarkup.readHeadFields, kind, name, id, classes, attributes]
  rfl

end Head

theorem readContent_fields (h : Head) (content : List Datum) {fields : Fields}
    (hf : fields = h.fields content ∨ fields = h.given content) :
    readContent fields = (readNodes 0 content).under (.key "content") := by
  rcases hf with rfl | rfl <;> rfl

/-- An element has the kind that it says it has. -/
theorem readNode_fields (h : Head) (content : List Datum) :
    readNode (.object (h.fields content)) =
      ((Checked.both (readHeadFields (h.fields content))
        ((readNodes 0 content).under (.key "content"))).under (.key tagKind)).map
          fun (h, content) => .element h content := rfl

mutual

theorem Node.Named.readNode_datum : {n : Node} → n.Named → readNode n.datum = .ok n
  | _, .text _ => rfl
  | .element h content, .element head inside => by
    rw [Node.datum, readNode_fields, head.readHeadFields (.inl rfl), Node.readNodes_dataOf inside]
    rfl

theorem Node.readNodes_dataOf : {ns : List Node} → (∀ n ∈ ns, n.Named) →
    (k : Nat) → readNodes k (Node.dataOf ns) = .ok ns
  | [], _, _ => rfl
  | n :: ns, h, k => by
    obtain ⟨hn, hns⟩ := List.forall_mem_cons.1 h
    rw [Node.dataOf, readNodes, hn.readNode_datum, Node.readNodes_dataOf hns]
    rfl

end

namespace Element

/-- The fields of an element without its kind. -/
def given (e : Element) : Fields := e.head.given (Node.dataOf e.content)

theorem Named.readElementFields {e : Element} (w : e.Named) {fields : Fields}
    (hf : fields = e.head.fields (Node.dataOf e.content) ∨ fields = e.given) :
    readElementFields fields = .ok e := by
  obtain ⟨h, content⟩ := e
  obtain _ | ⟨head, inside⟩ := w
  rw [CurlyMarkup.readElementFields, head.readHeadFields hf, readContent_fields h _ hf,
    Node.readNodes_dataOf inside]
  rfl

theorem Named.readElementDatum_datum {e : Element} (w : e.Named) :
    readElementDatum e.datum = .ok e := w.readElementFields (.inl rfl)

theorem Named.readElementDatum_given {e : Element} (w : e.Named) :
    readElementDatum (.object e.given) = .ok e := w.readElementFields (.inr rfl)

end Element

theorem Document.readDocumentDatum_datum {d : Document} (h : d.root.Named) :
    readDocumentDatum d.datum = .ok d := by
  have doctype : Fields.required [("doctype", .string d.doctype), ("root", d.root.datum)] "doctype"
      readText = .ok d.doctype := Fields.required_of_lookup rfl rfl
  have root : Fields.required [("doctype", .string d.doctype), ("root", d.root.datum)] "root"
      readElementDatum = .ok d.root :=
    Fields.required_of_lookup rfl h.readElementDatum_datum
  rw [readDocumentDatum, datum, readModel, doctype, root]
  rfl

end CurlyMarkup
