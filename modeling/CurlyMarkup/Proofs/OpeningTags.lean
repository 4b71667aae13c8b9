import CurlyMarkup.Proofs.NormalForm
import CurlyMarkup.Proofs.Printing
set_option autoImplicit false

namespace CurlyMarkup

namespace OpeningTag

/-- A blank, a name, and a value that stands between quotes. -/
def readPair? : Text → Option (Attribute × Text)
  | ' ' :: t =>
    match t.takeWhile isAttributeNameChar, t.dropWhile isAttributeNameChar with
    | x :: n, '=' :: '"' :: u => (Text.cut? '"' u).map fun (v, rest) => (⟨x :: n, v⟩, rest)
    | _, _ => none
  | _ => none

/-- The pairs up to the bracket that ends the tag, no more than `bound` is long. -/
def readPairs? : Text → Text → Option (List Attribute × Text)
  | _, '>' :: rest => some ([], rest)
  | [], _ => none
  | _ :: bound, t =>
    (readPair? t).bind fun (a, t) => (readPairs? bound t).map fun (as, rest) => (a :: as, rest)

/-- The name and the pairs of the tag that the text begins with, and the text behind it. -/
def read? : Text → Option (Text × List Attribute × Text)
  | '<' :: t =>
    match t.takeWhile isNameChar with
    | [] => none
    | x :: n =>
      (readPairs? t (t.dropWhile isNameChar)).map fun (as, rest) => (x :: n, as, rest)
  | _ => none

/-- A pair that is read as it is written. -/
structure Plain (a : Attribute) : Prop where
  name : AttributeNameWord a.name
  value : '"' ∉ a.value

theorem readPair?_html {a : Attribute} (h : Plain a) (rest : Text) :
    readPair? (' ' :: (a.html ++ rest)) = some (a, rest) := by
  obtain ⟨n, v⟩ := a
  obtain ⟨hn, hv⟩ := h
  have hstop : ∀ x, ('=' :: '"' :: (v ++ '"' :: rest)).head? = some x →
      isAttributeNameChar x = false := by
    intro x hx
    cases hx
    decide
  have hhtml : Attribute.html ⟨n, v⟩ ++ rest = n ++ '=' :: '"' :: (v ++ '"' :: rest) := by
    simp [Attribute.html]
  rw [readPair?, hhtml, hn.run.takeWhile_append hstop, hn.run.dropWhile_append hstop]
  cases n with
  | nil => exact absurd rfl hn.ne_nil
  | cons x n => simp only [Text.cut?_append hv, Option.map_some]

theorem readPair?_eq_some {t rest : Text} {a : Attribute} :
    readPair? t = some (a, rest) ↔ Plain a ∧ t = ' ' :: (a.html ++ rest) := by
  constructor
  · intro h
    unfold readPair? at h
    split at h
    case h_2 => cases h
    case h_1 t =>
      split at h
      case h_2 => cases h
      case h_1 x n u hname hbehind =>
        obtain ⟨⟨v, r⟩, hcut, he⟩ := Option.map_eq_some_iff.1 h
        obtain ⟨rfl, rfl⟩ := Prod.mk.inj he
        obtain ⟨rfl, hv⟩ := Text.cut?_eq_some.1 hcut
        refine ⟨⟨.of_takeWhile hname, hv⟩, ?_⟩
        rw [← List.takeWhile_append_dropWhile (p := isAttributeNameChar) (l := t), hname, hbehind]
        simp [Attribute.html]
  · rintro ⟨h, rfl⟩
    exact readPair?_html h rest

theorem readPairs?_eq_some {bound t rest : Text} {as : List Attribute} :
    readPairs? bound t = some (as, rest) ↔ (∀ a ∈ as, Plain a) ∧ as.length ≤ bound.length ∧
      t = as.flatMap (fun a => ' ' :: a.html) ++ '>' :: rest := by
  fun_induction readPairs? bound t generalizing as rest with
  | case1 bound u => cases as <;> simp [eq_comm]
  | case2 t ht => cases as <;> simp_all
  | case3 x bound t ht ih =>
    simp only [Option.bind_eq_some_iff, Option.map_eq_some_iff, Prod.exists, Prod.mk.injEq, ih,
      readPair?_eq_some]
    constructor
    · rintro ⟨a, u, ⟨ha, rfl⟩, bs, r, ⟨hbs, hle, rfl⟩, rfl, rfl⟩
      refine ⟨List.forall_mem_cons.2 ⟨ha, hbs⟩, Nat.succ_le_succ hle, ?_⟩
      simp
    · rintro ⟨has, hle, rfl⟩
      cases as with
      | nil => exact absurd rfl (ht rest)
      | cons a as =>
        obtain ⟨ha, has⟩ := List.forall_mem_cons.1 has
        refine ⟨a, _, ⟨ha, ?_⟩, as, rest, ⟨has, Nat.le_of_succ_le_succ hle, rfl⟩, rfl, rfl⟩
        simp

theorem length_le_flatMap_html (as : List Attribute) :
    as.length ≤ (as.flatMap fun a => ' ' :: a.html).length := by
  induction as with
  | nil => simp
  | cons a as ih =>
    simp only [List.flatMap_cons, List.length_append, List.length_cons]
    omega

/-- What is read is written so, with a name and pairs that can be told from what is around them. -/
theorem read?_eq_some {t n rest : Text} {as : List Attribute} :
    read? t = some (n, as, rest) ↔ NameWord n ∧ (∀ a ∈ as, Plain a) ∧
      t = '<' :: (n ++ (as.flatMap (fun a => ' ' :: a.html) ++ '>' :: rest)) := by
  constructor
  · intro h
    unfold read? at h
    split at h
    case h_2 => cases h
    case h_1 t =>
      split at h
      case h_1 => cases h
      case h_2 x n' hname =>
        obtain ⟨⟨bs, r⟩, hr, he⟩ := Option.map_eq_some_iff.1 h
        simp only [Prod.mk.injEq] at he
        obtain ⟨rfl, rfl, rfl⟩ := he
        obtain ⟨has, -, hbehind⟩ := readPairs?_eq_some.1 hr
        refine ⟨.of_takeWhile hname, has, ?_⟩
        rw [← hbehind, ← hname, List.takeWhile_append_dropWhile]
  · rintro ⟨hn, has, rfl⟩
    have hstop : ∀ y, (as.flatMap (fun a => ' ' :: a.html) ++ '>' :: rest).head? = some y →
        isNameChar y = false := by
      intro y hy
      rcases Head.head?_behindName as rest y hy with rfl | rfl <;> decide
    have hlength := length_le_flatMap_html as
    have hpairs : readPairs? (n ++ (as.flatMap (fun a => ' ' :: a.html) ++ '>' :: rest))
        (as.flatMap (fun a => ' ' :: a.html) ++ '>' :: rest) = some (as, rest) := by
      refine readPairs?_eq_some.2 ⟨has, ?_, rfl⟩
      simp only [List.length_append]
      omega
    unfold read?
    cases n with
    | nil => exact absurd rfl hn.ne_nil
    | cons x n => simp only [hn.run.takeWhile_append hstop, hn.run.dropWhile_append hstop, hpairs,
        Option.map_some]

end OpeningTag

namespace Node

/-- The HTML of the nodes has the opening tag of an element with this head between two texts. What a
void element holds is not written. -/
inductive Opens : List Node → Text → Head → Text → Prop where
  | here {h : Head} {content ns : List Node} (nonvoid : h.name ≠ voidName) :
      Opens (.element h content :: ns) [] h
        (content.flatMap html ++ h.closingTag ++ ns.flatMap html)
  | inside {h k : Head} {content ns : List Node} {before after : Text}
      (nonvoid : h.name ≠ voidName) (within : Opens content before k after) :
      Opens (.element h content :: ns) (h.openingTag ++ before) k
        (after ++ h.closingTag ++ ns.flatMap html)
  | later {n : Node} {ns : List Node} {k : Head} {before after : Text}
      (within : Opens ns before k after) : Opens (n :: ns) (n.html ++ before) k after

namespace Opens

variable {ns : List Node} {h : Head} {before after : Text}

theorem html_eq (o : Opens ns before h after) :
    ns.flatMap html = before ++ h.openingTag ++ after := by
  induction o with
  | here hv => simp [html_element hv]
  | inside hv _ ih => simp [html_element hv, ih]
  | later _ ih => simp [ih]

theorem wellFormed (o : Opens ns before h after) (w : ∀ n ∈ ns, n.WellFormed) :
    h.WellFormed := by
  induction o with
  | here =>
    cases (List.forall_mem_cons.1 w).1 with
    | element head _ => exact head
  | inside _ _ ih =>
    cases (List.forall_mem_cons.1 w).1 with
    | element _ inside => exact ih inside
  | later _ ih => exact ih (List.forall_mem_cons.1 w).2

end Opens

end Node

namespace Head

variable {h : Head}

theorem WellFormed.legible (w : h.WellFormed) (hd : h.name ≠ doctypeName)
    (hq : ∀ as ∈ h.attributes, ∀ a ∈ as, '"' ∉ a.value) : h.Legible where
  name := w.name.run
  id i hi := (w.id i hi).run
  classes cs hcs c hc := ((w.classes cs hcs).2 c hc).run
  attributes as has a ha := ⟨(w.attributes as has a ha).run, hq as has a ha⟩
  doctype := hd

/-- Ids and classes hold no quotes, so only the values that are given matter. -/
theorem WellFormed.plain_pairs_iff (w : h.WellFormed) (hd : h.name ≠ doctypeName) :
    (∀ a ∈ h.pairs, OpeningTag.Plain a) ↔ ∀ as ∈ h.attributes, ∀ a ∈ as, '"' ∉ a.value := by
  constructor
  · intro hp as has a ha
    refine (hp a ?_).value
    rw [Option.mem_def] at has
    rw [pairs, has]
    exact List.mem_append_right _ ha
  · intro hq a ha
    have hid : AttributeNameWord ("id" : Text) := by decide
    have hclass : AttributeNameWord ("class" : Text) := by decide
    have names : ∀ a ∈ h.pairs, AttributeNameWord a.name :=
      forall_pairs (fun _ _ => hid) (fun _ _ => hclass) w.attributes
    exact ⟨names a ha, ((w.legible hd hq).pairs a ha).value⟩

theorem WellFormed.read?_openingTag_iff (w : h.WellFormed) (hd : h.name ≠ doctypeName)
    (after : Text) : OpeningTag.read? (h.openingTag ++ after) = some (h.name, h.pairs, after) ↔
      ∀ as ∈ h.attributes, ∀ a ∈ as, '"' ∉ a.value := by
  rw [OpeningTag.read?_eq_some, openingTag_append hd, w.plain_pairs_iff hd]
  simp [w.name]

end Head

/-- Wherever the HTML of a document has an opening tag, the name and all pairs are read off it, and
no more than the tag, if and only if no value holds a quote. -/
theorem openingTag_read_iff {s : Text} {d : Document} (hr : readDocument s = .ok d) {h : Head}
    {before after : Text} (o : Node.Opens [d.root.toNode] before h after)
    (hd : h.name ≠ doctypeName) :
    d.html = d.doctype ++ before ++ h.openingTag ++ after ∧
    (OpeningTag.read? (h.openingTag ++ after) = some (h.name, h.pairs, after) ↔
      ∀ as ∈ h.attributes, ∀ a ∈ as, '"' ∉ a.value) := by
  have hhtml : d.root.toNode.html = before ++ h.openingTag ++ after := by
    simpa using o.html_eq
  have hroot : d.root.toNode.WellFormed := wellFormed_of_readDocument hr
  have w : h.WellFormed := o.wellFormed (by simpa using hroot)
  refine ⟨?_, w.read?_openingTag_iff hd after⟩
  rw [Document.html, hhtml]
  simp only [List.append_assoc]

/-- A bracket in a value does not end the tag. -/
theorem openingTag_read_iff_bracket :
    let p : Head := ⟨"p", some "i", some ["c", "d"], some [⟨"x", ">"⟩]⟩
    let d : Document := ⟨"<!DOCTYPE >\n", ⟨⟨"b", none, none, none⟩, [.text "1", .element p []]⟩⟩
    readDocument "!doctype \x7b\"\"\x7d b\x7b\"1\" p#i.c.d[x=\">\"]\x7b\x7d\x7d" = .ok d ∧
      p.openingTag = "<p id=\"i\" class=\"c d\" x=\">\">" ∧
      OpeningTag.read? (p.openingTag ++ ("</p></b>" : Text)) =
        some (p.name, p.pairs, ("</p></b>" : Text)) := by
  intro p d
  have hr : readDocument "!doctype \x7b\"\"\x7d b\x7b\"1\" p#i.c.d[x=\">\"]\x7b\x7d\x7d" = .ok d :=
    rfl
  have o : Node.Opens [d.root.toNode] _ p _ :=
    .inside (by decide) (.later (.here (by decide)))
  have quoteless : ∀ as ∈ p.attributes, ∀ a ∈ as, '"' ∉ a.value := by decide
  obtain ⟨-, read⟩ := openingTag_read_iff hr o (by decide)
  refine ⟨hr, by decide, ?_⟩
  have hbehind : ([] : List Node).flatMap Node.html ++ p.closingTag ++ [].flatMap Node.html ++
      Head.closingTag ⟨"b", none, none, none⟩ ++ [].flatMap Node.html = ("</p></b>" : Text) := by
    decide
  rw [← hbehind]
  exact read.2 quoteless

/-- A quote ends the value early, and what is left of it is not a pair. -/
theorem openingTag_quote :
    let h : Head := ⟨"a", none, none, some [⟨"b", "x\"y"⟩]⟩
    let d : Document := ⟨"<!DOCTYPE html>\n", ⟨h, []⟩⟩
    readDocument "!doctype \x7b \"html\" \x7d a [b=\"x\\\"y\"] \x7b\x7d" = .ok d ∧
      Node.Opens [d.root.toNode] [] h "</a>" ∧ h.openingTag = "<a b=\"x\"y\">" ∧
      OpeningTag.read? (h.openingTag ++ ("</a>" : Text)) = none := by
  intro h d
  refine ⟨rfl, .here (by decide), by decide, by decide⟩

end CurlyMarkup
