import CurlyMarkup.Proofs.DumpedTrees
set_option autoImplicit false

namespace CurlyMarkup

/-- What stands in a field, or `value` if there is no such field. -/
def Fields.valueOf (fields : Fields) (name : Text) (value : Datum) : Datum :=
  (fields.lookup name).getD value

namespace Datum

def mapItems (f : Datum → Datum) : Datum → Datum
  | .list items => .list (items.map f)
  | d => d

theorem mapItems_id (d : Datum) : d.mapItems id = d := by
  cases d <;> simp [mapItems]

/-- The datum of an attribute with all its fields. -/
def filledAttribute : Datum → Datum
  | .object fields => .object [
      ("name", Fields.valueOf fields "name" .null),
      ("value", Fields.valueOf fields "value" (.string []))]
  | d => d

/-- All fields of an element. -/
def filledFields (fields : Fields) (content : Datum) : Fields := [
  ("kind", .string tagKind),
  ("name", Fields.valueOf fields "name" .null),
  ("id", Fields.valueOf fields "id" .null),
  ("classes", Fields.valueOf fields "classes" .null),
  ("attributes", (Fields.valueOf fields "attributes" .null).mapItems filledAttribute),
  ("content", content)]

mutual

/-- The datum of a node with all its fields, and with all those of the nodes in it. -/
def filledNode : Datum → Datum
  | .object fields =>
    if (Fields.valueOf fields "kind" .null).shown = plainKind then
      .object [("kind", .string plainKind), ("text", Fields.valueOf fields "text" (.string []))]
    else .object (filledFields fields (filledContent fields))
  | d => d

def filledContent : List (Text × Datum) → Datum
  | [] => .list []
  | (name, d) :: fields =>
    if name = ("content" : Text) then
      match d with
      | .list items => .list (filledNodes items)
      | d => d
    else filledContent fields

def filledNodes : List Datum → List Datum
  | [] => []
  | d :: ds => d.filledNode :: filledNodes ds

end

def filledElement : Datum → Datum
  | .object fields => .object (filledFields fields (filledContent fields))
  | d => d

def filledDocument : Datum → Datum
  | .object fields => .object [
      ("doctype", Fields.valueOf fields "doctype" .null),
      ("root", (Fields.valueOf fields "root" .null).filledElement)]
  | d => d

end Datum

namespace Checked

variable {α β : Type} {x : Checked α} {y : Checked β}

theorem both_eq_ok {p : α × β} : both x y = .ok p ↔ x = .ok p.1 ∧ y = .ok p.2 := by
  obtain ⟨a, b⟩ := p
  cases x <;> cases y <;> simp [both]

theorem under_eq_ok {s : PathStep} {a : α} : x.under s = .ok a ↔ x = .ok a := by
  cases x <;> simp [under]

theorem map_eq_ok {f : α → β} {b : β} : x.map f = .ok b ↔ ∃ a, x = .ok a ∧ f a = b := by
  cases x <;> simp [Except.map]

end Checked

section

variable {α : Type} {r : Reader α} {f : α → Datum} {g : Datum → Datum} {P : α → Prop}
  {fields : Fields} {name : Text} {a : α}

/-- Whatever the reader takes is written as `g` has it, and has the property `P`. -/
def Restores (r : Reader α) (f : α → Datum) (g : Datum → Datum) (P : α → Prop) : Prop :=
  ∀ d a, r d = .ok a → f a = g d ∧ P a

theorem Restores.required (h : Restores r f g P) (hr : fields.required name r = .ok a)
    (value : Datum) : f a = g (fields.valueOf name value) ∧ P a := by
  rw [Fields.required, Checked.under_eq_ok] at hr
  cases hl : fields.lookup name with
  | none =>
    rw [hl] at hr
    cases hr
  | some d =>
    rw [hl] at hr
    rw [Fields.valueOf, hl]
    exact h d a hr

theorem Restores.optional (h : Restores r f g P) {b : α} {v : Datum} (hv : f b = g v) (hb : P b)
    (hr : fields.optional name b r = .ok a) : f a = g (fields.valueOf name v) ∧ P a := by
  rw [Fields.optional, Checked.under_eq_ok] at hr
  cases hl : fields.lookup name with
  | none =>
    rw [hl] at hr
    cases hr
    rw [Fields.valueOf, hl]
    exact ⟨hv, hb⟩
  | some d =>
    rw [hl] at hr
    rw [Fields.valueOf, hl]
    exact h d a hr

theorem readText_restores : Restores readText .string id fun _ => True := by
  intro d t h
  cases d <;> cases h
  exact ⟨rfl, trivial⟩

theorem readNonempty_restores : Restores readNonempty .string id (· ≠ []) := by
  intro d t h
  cases d with
  | string u =>
    cases u <;> cases h
    exact ⟨rfl, by simp⟩
  | _ => cases h

theorem Restores.nullable (h : Restores r f g P) (hg : g .null = .null) :
    Restores (readNullable r) (.ofOption f) g fun a => ∀ b ∈ a, P b := by
  intro d a hr
  cases d with
  | null =>
    cases hr
    exact ⟨hg.symm, nofun⟩
  | _ =>
    obtain ⟨b, hb, rfl⟩ := Checked.map_eq_ok.1 hr
    obtain ⟨hf, hP⟩ := h _ b hb
    exact ⟨hf, fun _ hm => by cases hm; exact hP⟩

/-- A field that may be left out or be null. -/
theorem Restores.nullableField (h : Restores r f g P) (hg : g .null = .null) {a : Option α}
    (hr : fields.optional name none (readNullable r) = .ok a) :
    .ofOption f a = g (fields.valueOf name .null) ∧ ∀ b ∈ a, P b :=
  (h.nullable hg).optional (b := none) hg.symm (fun _ hm => absurd hm (Option.not_mem_none _)) hr

theorem Restores.items (h : Restores r f g P) {n : Nat} {ds : List Datum} {as : List α}
    (hr : readItems r n ds = .ok as) : as.map f = ds.map g ∧ ∀ a ∈ as, P a := by
  induction ds generalizing n as with
  | nil =>
    cases hr
    exact ⟨rfl, nofun⟩
  | cons d ds ih =>
    obtain ⟨⟨a, as⟩, hboth, rfl⟩ := Checked.map_eq_ok.1 hr
    obtain ⟨ha, has⟩ := Checked.both_eq_ok.1 hboth
    obtain ⟨hf, hP⟩ := h d a (Checked.under_eq_ok.1 ha)
    obtain ⟨hfs, hPs⟩ := ih has
    exact ⟨by rw [List.map_cons, List.map_cons, hf, hfs], List.forall_mem_cons.2 ⟨hP, hPs⟩⟩

theorem Restores.tuple (h : Restores r f g P) :
    Restores (readTuple r) (fun as => .list (as.map f)) (Datum.mapItems g) fun as =>
      ∀ a ∈ as, P a := by
  intro d as hr
  cases d with
  | list ds =>
    obtain ⟨hf, hP⟩ := h.items hr
    exact ⟨congrArg Datum.list hf, hP⟩
  | _ => cases hr

end

theorem readAttribute_restores :
    Restores readAttribute Attribute.datum Datum.filledAttribute Attribute.Named := by
  intro d a h
  cases d with
  | object fields =>
    obtain ⟨⟨name, value⟩, hboth, rfl⟩ := Checked.map_eq_ok.1 h
    obtain ⟨hname, hvalue⟩ := Checked.both_eq_ok.1 hboth
    obtain ⟨hn, hne⟩ := readNonempty_restores.required hname .null
    obtain ⟨hv, -⟩ := readText_restores.optional (v := .string []) rfl trivial hvalue
    refine ⟨?_, hne⟩
    rw [Attribute.datum, hn, hv, Datum.filledAttribute]
    rfl
  | _ => cases h

theorem readPlainFields_restores {fields : Fields} {t : Text}
    (hr : readPlainFields fields = .ok t) :
    .string t = fields.valueOf "text" (.string []) := by
  obtain ⟨⟨_, _⟩, hboth, rfl⟩ := Checked.map_eq_ok.1 hr
  obtain ⟨-, ht⟩ := Checked.both_eq_ok.1 hboth
  exact (readText_restores.optional (v := .string []) rfl trivial ht).1

theorem readHeadFields_eq_ok {fields : Fields} {h : Head} (hr : readHeadFields fields = .ok h) :
    fields.required "name" readNonempty = .ok h.name ∧
      fields.optional "id" none (readNullable readText) = .ok h.id ∧
      fields.optional "classes" none (readNullable (readTuple readText)) = .ok h.classes ∧
      fields.optional "attributes" none (readNullable (readTuple readAttribute)) =
        .ok h.attributes := by
  obtain ⟨⟨_, name, id, classes, attributes⟩, hboth, rfl⟩ := Checked.map_eq_ok.1 hr
  obtain ⟨-, hboth⟩ := Checked.both_eq_ok.1 hboth
  obtain ⟨hname, hboth⟩ := Checked.both_eq_ok.1 hboth
  obtain ⟨hid, hboth⟩ := Checked.both_eq_ok.1 hboth
  obtain ⟨hclasses, hattributes⟩ := Checked.both_eq_ok.1 hboth
  exact ⟨hname, hid, hclasses, hattributes⟩

/-- The fields of a head are those that were given or what stands for them. -/
theorem readHeadFields_restores {fields : Fields} {h : Head} (hr : readHeadFields fields = .ok h)
    (content : List Datum) :
    h.fields content = Datum.filledFields fields (.list content) ∧ h.Named := by
  obtain ⟨hname, hid, hclasses, hattributes⟩ := readHeadFields_eq_ok hr
  obtain ⟨hn, hne⟩ := readNonempty_restores.required hname .null
  obtain ⟨hi, -⟩ := readText_restores.nullableField rfl hid
  obtain ⟨hc, -⟩ := readText_restores.tuple.nullableField rfl hclasses
  obtain ⟨ha, hnamed⟩ := readAttribute_restores.tuple.nullableField rfl hattributes
  rw [Datum.mapItems_id] at hc
  refine ⟨?_, hne, hnamed⟩
  rw [Head.fields, hn, hi, hc, ha]
  rfl

mutual

/-- The data of a node is what it was read from, filled in at every depth. -/
theorem readNode_restores : ∀ {d : Datum} {n : Node}, readNode d = .ok n →
    n.datum = d.filledNode ∧ n.Named
  | .object fields, n, h => by
    rw [readNode] at h
    cases hkind : fields.lookup ("kind" : Text) with
    | none =>
      rw [hkind] at h
      cases h
    | some kind =>
      simp only [hkind] at h
      rw [Datum.filledNode, Fields.valueOf, hkind, Option.getD_some]
      split at h
      case isTrue hplain =>
        obtain ⟨t, ht, rfl⟩ := Checked.map_eq_ok.1 h
        rw [if_pos hplain, Node.datum, readPlainFields_restores (Checked.under_eq_ok.1 ht)]
        exact ⟨rfl, .text _⟩
      case isFalse hplain =>
        split at h
        case isTrue =>
          obtain ⟨⟨head, content⟩, hr, rfl⟩ := Checked.map_eq_ok.1 h
          obtain ⟨hhead, hcontent⟩ := Checked.both_eq_ok.1 (Checked.under_eq_ok.1 hr)
          obtain ⟨hc, hnamed⟩ := readContent_restores hcontent
          obtain ⟨hh, hhn⟩ := readHeadFields_restores hhead (Node.dataOf content)
          rw [if_neg hplain, Node.datum, hh, hc]
          exact ⟨rfl, .element hhn hnamed⟩
        case isFalse => cases h
  | .null, _, h | .bool _, _, h | .int _, _, h | .decimal _ _, _, h | .string _, _, h
  | .list _, _, h => by cases h

theorem readContent_restores : ∀ {fields : List (Text × Datum)} {ns : List Node},
    readContent fields = .ok ns →
      .list (Node.dataOf ns) = Datum.filledContent fields ∧ ∀ n ∈ ns, n.Named
  | [], _, h => by
    cases h
    exact ⟨rfl, nofun⟩
  | (name, d) :: fields, ns, h => by
    by_cases hname : name = ("content" : Text)
    · cases d with
      | list items =>
        simp only [readContent, hname, ↓reduceIte] at h
        obtain ⟨hns, hnamed⟩ := readNodes_restores (Checked.under_eq_ok.1 h)
        refine ⟨?_, hnamed⟩
        simp only [Datum.filledContent, hname, ↓reduceIte, hns]
      | _ =>
        simp only [readContent, hname, ↓reduceIte] at h
        cases h
    · have hmore : readContent fields = .ok ns := by
        cases d <;> simpa only [readContent, hname, ↓reduceIte] using h
      have hfilled : Datum.filledContent ((name, d) :: fields) = Datum.filledContent fields := by
        cases d <;> simp only [Datum.filledContent, hname, ↓reduceIte]
      rw [hfilled]
      exact readContent_restores hmore

theorem readNodes_restores : ∀ {ds : List Datum} {k : Nat} {ns : List Node},
    readNodes k ds = .ok ns → Node.dataOf ns = Datum.filledNodes ds ∧ ∀ n ∈ ns, n.Named
  | [], _, _, h => by
    cases h
    exact ⟨rfl, nofun⟩
  | d :: ds, k, _, h => by
    obtain ⟨⟨n, ns⟩, hboth, rfl⟩ := Checked.map_eq_ok.1 h
    obtain ⟨hn, hns⟩ := Checked.both_eq_ok.1 hboth
    obtain ⟨hd, hnamed⟩ := readNode_restores (Checked.under_eq_ok.1 hn)
    obtain ⟨hds, hall⟩ := readNodes_restores hns
    rw [Node.dataOf, Datum.filledNodes, hd, hds]
    exact ⟨rfl, List.forall_mem_cons.2 ⟨hnamed, hall⟩⟩

end

theorem readElementDatum_restores :
    Restores readElementDatum Element.datum Datum.filledElement Element.Named := by
  intro d e h
  cases d with
  | object fields =>
    obtain ⟨⟨head, content⟩, hboth, rfl⟩ := Checked.map_eq_ok.1 h
    obtain ⟨hhead, hcontent⟩ := Checked.both_eq_ok.1 hboth
    obtain ⟨hc, hnamed⟩ := readContent_restores hcontent
    obtain ⟨hh, hhn⟩ := readHeadFields_restores hhead (Node.dataOf content)
    refine ⟨?_, .element hhn hnamed⟩
    rw [Datum.filledElement, ← hc]
    exact congrArg Datum.object hh
  | _ => cases h

theorem readDocumentDatum_restores :
    Restores readDocumentDatum Document.datum Datum.filledDocument fun d => d.root.Named := by
  intro d t h
  cases d with
  | object fields =>
    obtain ⟨⟨doctype, root⟩, hboth, rfl⟩ := Checked.map_eq_ok.1 h
    obtain ⟨hdoctype, hroot⟩ := Checked.both_eq_ok.1 hboth
    obtain ⟨hd, -⟩ := readText_restores.required hdoctype .null
    obtain ⟨hr, hnamed⟩ := readElementDatum_restores.required hroot .null
    refine ⟨?_, hnamed⟩
    rw [Document.datum, hd, hr]
    rfl
  | _ => cases h

/-- The data of a tree is read back as the tree. Whatever is read as a tree is its data but for
fields that were left out, in which there stands what they stand for; so reading and writing it
again changes neither the tree nor its data. Trees that differ have different data. -/
theorem dumped_trees :
    (∀ n : Node, n.Named → readNode n.datum = .ok n) ∧
    (∀ d : Document, d.root.Named → readDocumentDatum d.datum = .ok d) ∧
    (∀ x n, readNode x = .ok n →
      n.Named ∧ n.datum = x.filledNode ∧ readNode x.filledNode = .ok n) ∧
    (∀ x d, readDocumentDatum x = .ok d → d.root.Named ∧ d.datum = x.filledDocument ∧
      readDocumentDatum x.filledDocument = .ok d) ∧
    (∀ m n : Node, m.Named → n.Named → m.datum = n.datum → m = n) := by
  have node (n : Node) (h : n.Named) : readNode n.datum = .ok n := h.readNode_datum
  refine ⟨node, fun d h => d.readDocumentDatum_datum h, fun x n h => ?_, fun x d h => ?_,
    fun m n hm hn h => ?_⟩
  · obtain ⟨hx, hnamed⟩ := readNode_restores h
    exact ⟨hnamed, hx, hx ▸ node n hnamed⟩
  · obtain ⟨hx, hnamed⟩ := readDocumentDatum_restores x d h
    exact ⟨hnamed, hx, hx ▸ d.readDocumentDatum_datum hnamed⟩
  · have hread := node m hm
    rw [h, node n hn] at hread
    exact (Except.ok.inj hread).symm

/-- An element with a bare attribute, no classes and a text that is left out, in a document that
does not say that its root is an element. To have no classes is not to have the empty tuple of
them. -/
theorem dumped_trees_defaults :
    let fields : Fields := [
      ("name", .string "p"), ("classes", .list []),
      ("attributes", .list [.object [("name", .string "hidden")]]),
      ("content", .list [.object [("kind", .string "plain")]])]
    let node : Datum := .object (("kind", .string "tag") :: fields)
    let page : Datum := .object [("doctype", .string "html"), ("root", .object fields)]
    let bare : Option (List Attribute) := some [⟨"hidden", []⟩]
    let tree : Element := ⟨⟨"p", none, some [], bare⟩, [.text []]⟩
    let other : Node := .element ⟨"p", none, none, bare⟩ [.text []]
    readNode node = .ok tree.toNode ∧ readNode tree.datum = .ok tree.toNode ∧
      readNode node.filledNode = .ok tree.toNode ∧
      readDocumentDatum (Document.datum ⟨"html", tree⟩) = .ok ⟨"html", tree⟩ ∧
      readDocumentDatum page.filledDocument = .ok ⟨"html", tree⟩ ∧
      tree.datum ≠ other.datum := by
  intro fields node page bare tree other
  obtain ⟨readBack, documents, nodes, pages, distinct⟩ := dumped_trees
  have hnode : readNode node = .ok tree.toNode := by rfl
  have hpage : readDocumentDatum page = .ok ⟨"html", tree⟩ := by rfl
  have hother : readNode other.datum = .ok other := by rfl
  obtain ⟨named, -, again⟩ := nodes node _ hnode
  obtain ⟨root, -, pageAgain⟩ := pages page _ hpage
  have otherNamed : other.Named := (nodes _ _ hother).1
  refine ⟨hnode, readBack _ named, again, documents _ root, pageAgain, fun h => ?_⟩
  have heq : tree.toNode = other := distinct _ _ named otherNamed h
  simp [tree, other, Element.toNode] at heq

end CurlyMarkup
