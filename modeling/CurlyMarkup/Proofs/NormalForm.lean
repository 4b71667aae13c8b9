import CurlyMarkup.Proofs.FlatHtml
import CurlyMarkup.Proofs.Language
set_option autoImplicit false

/-!
Flat HTML tells trees apart up to their normal forms. Names and values end at the first character
that cannot be in them, and a text ends where a tag begins, so the HTML can be divided in one way.
-/

namespace CurlyMarkup

/-- The id counts as the first attribute, and the classes as the second with a blank between any
two, unless there are none. -/
def Head.attributeList (h : Head) : List Attribute :=
  let id := h.id.elim [] fun i => [⟨"id", i⟩]
  let cs := h.classes.getD []
  let classes := if cs = [] then [] else [⟨"class", [' '].intercalate cs⟩]
  id ++ classes ++ h.attributes.getD []

/-- The head that has everything that it says in one list of attributes. -/
def Head.normal (h : Head) : Head := ⟨h.name, none, none, some h.attributeList⟩

/-- The head of an element of which nothing but the tag is written. -/
def voidHead : Head := ⟨voidName, none, none, some []⟩

/-- Puts a node in front of others. An empty text adds nothing, and a text runs on into the text
that it meets. -/
def Node.joinTo : Node → List Node → List Node
  | .text [], ns => ns
  | .text t, .text u :: ns => .text (t ++ u) :: ns
  | n, ns => n :: ns

mutual

def Node.normal : Node → Node
  | .text t => .text t
  | .element h content =>
    if h.name = voidName then .element voidHead []
    else .element h.normal (Node.normalOf content)

def Node.normalOf : List Node → List Node
  | [] => []
  | n :: ns => n.normal.joinTo (Node.normalOf ns)

end

namespace Node

theorem html_joinTo (n : Node) (ns : List Node) :
    (n.joinTo ns).flatMap html = n.html ++ ns.flatMap html := by
  unfold joinTo
  split
  · simp [html_text]
  · simp [html_text]
  · rfl

end Node

/-- The attributes in the tag are those of the normal form. -/
theorem Head.pairs_eq_attributeList (h : Head) : h.pairs = h.attributeList := by
  obtain ⟨name, id, classes, attributes⟩ := h
  rw [pairs, attributeList]
  congr 1
  congr 1
  · cases id <;> rfl
  · rcases classes with _ | _ | ⟨c, cs⟩ <;> rfl

theorem Head.pairs_normal (h : Head) : h.normal.pairs = h.pairs := h.pairs_eq_attributeList.symm

theorem Head.openingTag_normal (h : Head) : h.normal.openingTag = h.openingTag := by
  rw [openingTag, openingTag, pairs_normal]
  rfl

theorem Head.closingTag_normal (h : Head) : h.normal.closingTag = h.closingTag := rfl

namespace Node

mutual

theorem html_normal : (n : Node) → n.normal.html = n.html
  | .text _ => by rw [normal]
  | .element h content => by
    by_cases hv : h.name = voidName
    · rw [normal, if_pos hv, html_void hv, html_void rfl]
    · rw [normal, if_neg hv, html_element hv, html_element (h := h.normal) hv,
        html_normalOf content, h.openingTag_normal, h.closingTag_normal]

theorem html_normalOf : (ns : List Node) → (normalOf ns).flatMap html = ns.flatMap html
  | [] => by rw [normalOf]
  | n :: ns => by rw [normalOf, html_joinTo, html_normal n, html_normalOf ns, List.flatMap_cons]

end

end Node

/-- A run of characters in `p` ends where what follows it does not go on with such a character. -/
theorem RunOf.takeWhile_append {p : Char → Bool} {s u : Text} (hs : RunOf p s)
    (hu : ∀ x, u.head? = some x → p x = false) : (s ++ u).takeWhile p = s := by
  rw [List.takeWhile_append_of_pos hs]
  cases u with
  | nil => simp
  | cons x u => simp [hu x rfl]

theorem RunOf.dropWhile_append {p : Char → Bool} {s u : Text} (hs : RunOf p s)
    (hu : ∀ x, u.head? = some x → p x = false) : (s ++ u).dropWhile p = u := by
  rw [List.dropWhile_append_of_pos hs]
  cases u with
  | nil => rfl
  | cons x u => simp [hu x rfl]

theorem RunOf.append_inj {p : Char → Bool} {s t u v : Text} (hs : RunOf p s) (ht : RunOf p t)
    (hu : ∀ x, u.head? = some x → p x = false) (hv : ∀ x, v.head? = some x → p x = false)
    (h : s ++ u = t ++ v) : s = t ∧ u = v := by
  have hst : s = t := by rw [← hs.takeWhile_append hu, h, ht.takeWhile_append hv]
  subst hst
  exact ⟨rfl, List.append_cancel_left h⟩

theorem RunOf.of_not_mem {x : Char} {s : Text} (h : x ∉ s) : RunOf (· ≠ x) s := by
  intro y hy
  simp only [ne_eq, decide_not, Bool.not_eq_true', decide_eq_false_iff_not]
  rintro rfl
  exact h hy

theorem RunOf.not_mem {p : Char → Bool} {s : Text} {x : Char} (h : RunOf p s) (hx : p x = false) :
    x ∉ s := fun hm => by simp [h x hm] at hx

theorem RunOf.intercalate {p : Char → Bool} {t : Text} {ts : List Text} (ht : RunOf p t)
    (h : ∀ u ∈ ts, RunOf p u) : RunOf p (t.intercalate ts) := by
  induction ts with
  | nil => simp [RunOf]
  | cons u us ih =>
    cases us with
    | nil => simpa using h u (by simp)
    | cons v us =>
      rw [List.intercalate_cons_cons]
      exact ((h u (by simp)).append ht).append (ih fun w hw => h w (by simp [hw]))

/-- The closing quote is the first one behind the value. -/
structure Attribute.Legible (a : Attribute) : Prop where
  name : RunOf isAttributeNameChar a.name
  value : '"' ∉ a.value

/-- The names are spelled in characters of names. They may be empty, and so may the classes. -/
structure Head.Legible (h : Head) : Prop where
  name : RunOf isNameChar h.name
  id : ∀ i ∈ h.id, RunOf isNameChar i
  classes : ∀ cs ∈ h.classes, ∀ c ∈ cs, RunOf isNameChar c
  attributes : ∀ as ∈ h.attributes, ∀ a ∈ as, a.Legible
  doctype : h.name ≠ doctypeName

/-- A tree in which nothing is taken for a tag or for the end of a value that is not. -/
inductive Node.Legible : Node → Prop where
  | text {t : Text} (tags : '<' ∉ t) : Legible (.text t)
  | element {h : Head} {content : List Node} (head : h.Legible)
      (inside : ∀ n ∈ content, Legible n) : Legible (.element h content)

theorem Attribute.html_append_inj {a b : Attribute} (ha : a.Legible) (hb : b.Legible) {s t : Text}
    (h : a.html ++ s = b.html ++ t) : a = b ∧ s = t := by
  have html_eq : ∀ (a : Attribute) (s : Text),
      a.html ++ s = a.name ++ '=' :: '"' :: (a.value ++ '"' :: s) := by
    intro a s
    simp [html]
  have equals (u : Text) (x : Char) (hx : ('=' :: u).head? = some x) :
      isAttributeNameChar x = false := by
    cases hx
    decide
  have quote (u : Text) (x : Char) (hx : ('"' :: u).head? = some x) :
      decide (x ≠ '"') = false := by
    cases hx
    decide
  rw [html_eq, html_eq] at h
  obtain ⟨hname, h⟩ := ha.name.append_inj hb.name (equals _) (equals _) h
  simp only [List.cons.injEq, true_and] at h
  obtain ⟨hvalue, h⟩ :=
    (RunOf.of_not_mem ha.value).append_inj (.of_not_mem hb.value) (quote _) (quote _) h
  refine ⟨?_, List.tail_eq_of_cons_eq h⟩
  cases a
  cases b
  congr

/-- The attributes of a tag are those up to the bracket that ends it. -/
theorem attributes_append_inj {as bs : List Attribute} (ha : ∀ a ∈ as, a.Legible)
    (hb : ∀ b ∈ bs, b.Legible) {s t : Text}
    (h : as.flatMap (fun a => ' ' :: a.html) ++ '>' :: s =
      bs.flatMap (fun b => ' ' :: b.html) ++ '>' :: t) : as = bs ∧ s = t := by
  induction as generalizing bs with
  | nil =>
    cases bs with
    | nil => exact ⟨rfl, List.tail_eq_of_cons_eq h⟩
    | cons b bs => simp at h
  | cons a as ih =>
    cases bs with
    | nil => simp at h
    | cons b bs =>
      simp only [List.flatMap_cons, List.cons_append, List.append_assoc, List.cons.injEq,
        true_and] at h
      obtain ⟨hab, h⟩ := Attribute.html_append_inj (ha a (by simp)) (hb b (by simp)) h
      obtain ⟨has, h⟩ := ih (fun c hc => ha c (by simp [hc])) (fun c hc => hb c (by simp [hc])) h
      exact ⟨by rw [hab, has], h⟩

namespace Head

variable {h k : Head} {s t : Text}

/-- What holds of the id, of the classes in one and of the attributes holds of all pairs. -/
theorem forall_pairs {p : Attribute → Prop} (id : ∀ i ∈ h.id, p ⟨"id", i⟩)
    (classes : ∀ cs ∈ h.classes, p ⟨"class", (" " : Text).intercalate cs⟩)
    (attributes : ∀ as ∈ h.attributes, ∀ a ∈ as, p a) : ∀ a ∈ h.pairs, p a := by
  intro a ha
  rw [Head.pairs] at ha
  simp only [List.mem_append, Option.mem_toList] at ha
  rcases ha with (ha | ha) | ha
  · obtain ⟨i, hi, rfl⟩ := Option.map_eq_some_iff.1 ha
    exact id i hi
  · split at ha
    · simp at ha
    · simp at ha
    · next cs _ hcs =>
      obtain rfl := List.mem_singleton.1 ha
      exact classes cs hcs
  · cases has : h.attributes with
    | none => simp [has] at ha
    | some as => exact attributes as has a (by simpa [has] using ha)

theorem Legible.pairs (hh : h.Legible) : ∀ a ∈ h.pairs, a.Legible := by
  refine forall_pairs (fun i hi => ?_) (fun cs hcs => ?_) hh.attributes
  · have hn : RunOf isAttributeNameChar ("id" : Text) := by decide
    exact ⟨hn, (hh.id i hi).not_mem (by decide)⟩
  · have hn : RunOf isAttributeNameChar ("class" : Text) := by decide
    have hb : RunOf (· ≠ '"') [' '] := by decide
    refine ⟨hn, (hb.intercalate fun c hc => ?_).not_mem (by decide)⟩
    exact .of_not_mem ((hh.classes cs hcs c hc).not_mem (by decide))

theorem Legible.normal (hh : h.Legible) : h.normal.Legible := by
  refine ⟨hh.name, by simp [Head.normal], by simp [Head.normal], fun as has => ?_, hh.doctype⟩
  rw [← Option.some.inj has, ← pairs_eq_attributeList]
  exact hh.pairs

theorem openingTag_append (hd : h.name ≠ doctypeName) (s : Text) : h.openingTag ++ s =
    '<' :: (h.name ++ (h.pairs.flatMap (fun a => ' ' :: a.html) ++ '>' :: s)) := by
  rw [openingTag, if_neg hd]
  simp

/-- What follows the name of a tag is a blank or the closing bracket. -/
theorem head?_behindName (as : List Attribute) (s : Text) (x : Char)
    (hx : (as.flatMap (fun a => ' ' :: a.html) ++ '>' :: s).head? = some x) :
    x = ' ' ∨ x = '>' := by
  cases as with
  | nil => exact .inr (Option.some.inj hx).symm
  | cons a as => exact .inl (Option.some.inj hx).symm

theorem Legible.openingTag_append_inj (hh : h.Legible) (hk : k.Legible)
    (he : h.openingTag ++ s = k.openingTag ++ t) :
    h.name = k.name ∧ h.pairs = k.pairs ∧ s = t := by
  have stops : ∀ (as : List Attribute) (s : Text) (x : Char),
      (as.flatMap (fun a => ' ' :: a.html) ++ '>' :: s).head? = some x → isNameChar x = false := by
    intro as s x hx
    rcases head?_behindName as s x hx with rfl | rfl <;> decide
  rw [openingTag_append hh.doctype, openingTag_append hk.doctype] at he
  obtain ⟨hn, he⟩ := hh.name.append_inj hk.name (stops _ _) (stops _ _)
    (List.tail_eq_of_cons_eq he)
  obtain ⟨hp, he⟩ := attributes_append_inj hh.pairs hk.pairs he
  exact ⟨hn, hp, he⟩

theorem Legible.normal_injective (hn : h.normal = h) (kn : k.normal = k) (he : h.name = k.name)
    (hp : h.pairs = k.pairs) : h = k := by
  rw [pairs_eq_attributeList, pairs_eq_attributeList] at hp
  rw [← hn, ← kn, Head.normal, Head.normal, he, hp]

end Head

/-- What a piece of HTML begins with. -/
inductive Lead where
  | text | tag | closing
  deriving DecidableEq, Repr

/-- The end of the HTML closes what is open like a closing tag does. -/
def Text.lead : Text → Lead
  | [] => .closing
  | '<' :: '/' :: _ => .closing
  | '<' :: _ => .tag
  | _ :: _ => .text

def Node.leadOf : List Node → Lead
  | [] => .closing
  | .text _ :: _ => .text
  | .element _ _ :: _ => .tag

/-- The content of an element, or of none, in normal form: no text is empty, and none meets
another one. -/
inductive NormalContent : List Node → Prop where
  | nil : NormalContent []
  | text {t : Text} {ns : List Node} (nonempty : t ≠ []) (tags : '<' ∉ t)
      (apart : Node.leadOf ns ≠ .text) (rest : NormalContent ns) : NormalContent (.text t :: ns)
  | void {ns : List Node} (rest : NormalContent ns) : NormalContent (.element voidHead [] :: ns)
  | element {h : Head} {content ns : List Node} (head : h.Legible) (normal : h.normal = h)
      (name : h.name ≠ voidName) (inside : NormalContent content) (rest : NormalContent ns) :
      NormalContent (.element h content :: ns)

theorem voidHead_legible : voidHead.Legible :=
  ⟨by decide, by decide, by decide, fun _ has => by cases has; simp, by decide⟩

theorem html_voidHead : (Node.element voidHead []).html = voidHead.openingTag :=
  Node.html_void rfl []

namespace Text

variable {s t : Text}

theorem lead_text (hne : t ≠ []) (h : '<' ∉ t) (s : Text) : lead (t ++ s) = .text := by
  cases t with
  | nil => exact absurd rfl hne
  | cons x t =>
    have hx : x ≠ '<' := fun e => h (by simp [e])
    simp [lead, hx]

theorem lead_tag (h : s.head? ≠ some '/') : lead ('<' :: s) = .tag := by
  cases s with
  | nil => rfl
  | cons x s =>
    have hx : x ≠ '/' := fun e => h (by simp [e])
    simp [lead, hx]

/-- A text goes on up to the first tag. -/
theorem head?_of_lead (h : lead s ≠ .text) (x : Char) (hx : s.head? = some x) :
    decide (x ≠ '<') = false := by
  cases s with
  | nil => simp at hx
  | cons y s =>
    cases hx
    by_cases hx : x = '<'
    · simp [hx]
    · exact absurd (by simp [lead, hx]) h

end Text

theorem Head.Legible.lead_openingTag {h : Head} (hh : h.Legible) (s : Text) :
    Text.lead (h.openingTag ++ s) = .tag := by
  rw [Head.openingTag_append hh.doctype]
  refine Text.lead_tag fun hs => ?_
  cases hn : h.name with
  | nil =>
    rw [hn, List.nil_append] at hs
    rcases Head.head?_behindName _ _ _ hs with h | h <;> simp at h
  | cons x n =>
    rw [hn] at hs
    cases hs
    exact hh.name.not_mem (x := '/') (by decide) (by simp [hn])

theorem Head.closingTag_append {h : Head} (hd : h.name ≠ doctypeName) (s : Text) :
    h.closingTag ++ s = '<' :: '/' :: (h.name ++ '>' :: s) := by
  rw [closingTag, if_neg hd]
  simp

namespace NormalContent

variable {ns ms : List Node} {s t : Text}

theorem lead_append (hn : NormalContent ns) (hs : s.lead = .closing) :
    Text.lead (ns.flatMap Node.html ++ s) = Node.leadOf ns := by
  cases hn with
  | nil => exact hs
  | text hne ht _ _ =>
    rw [List.flatMap_cons, Node.html_text, List.append_assoc]
    exact Text.lead_text hne ht _
  | void _ =>
    rw [List.flatMap_cons, html_voidHead, List.append_assoc]
    exact voidHead_legible.lead_openingTag _
  | element hh _ hv _ _ =>
    rw [List.flatMap_cons, Node.html_element hv]
    simp only [List.append_assoc]
    exact hh.lead_openingTag _

/-- Content in normal form is written differently from any other such content, whatever closes the
element around it. -/
theorem append_inj (hn : NormalContent ns) (hm : NormalContent ms) (hs : s.lead = .closing)
    (ht : t.lead = .closing) (h : ns.flatMap Node.html ++ s = ms.flatMap Node.html ++ t) :
    ns = ms ∧ s = t := by
  -- the two begin alike, so the first nodes are of one kind; closing tags end what is inside
  induction hn generalizing ms s t with
  | nil =>
    have hl := hm.lead_append ht
    rw [← h, List.flatMap_nil, List.nil_append, hs] at hl
    cases hm with
    | nil => exact ⟨rfl, h⟩
    | text | void | element => cases hl
  | @text u ns hne hu hapart hns ih =>
    have hl := hm.lead_append ht
    rw [← h, (NormalContent.text hne hu hapart hns).lead_append hs] at hl
    cases hm with
    | nil | void | element => cases hl
    | text hne' hu' hapart' hms =>
      simp only [List.flatMap_cons, Node.html_text, List.append_assoc] at h
      obtain ⟨rfl, hrest⟩ := (RunOf.of_not_mem hu).append_inj (.of_not_mem hu')
        (Text.head?_of_lead (by rwa [hns.lead_append hs]))
        (Text.head?_of_lead (by rwa [hms.lead_append ht])) h
      obtain ⟨rfl, hst⟩ := ih hms hs ht hrest
      exact ⟨rfl, hst⟩
  | @void ns hns ih =>
    have hl := hm.lead_append ht
    rw [← h, (NormalContent.void hns).lead_append hs] at hl
    cases hm with
    | nil | text => cases hl
    | void hms =>
      simp only [List.flatMap_cons, List.append_assoc] at h
      obtain ⟨rfl, hst⟩ := ih hms hs ht (List.append_cancel_left h)
      exact ⟨rfl, hst⟩
    | element hh _ hv _ _ =>
      simp only [List.flatMap_cons, html_voidHead, Node.html_element hv, List.append_assoc] at h
      exact absurd (voidHead_legible.openingTag_append_inj hh h).1.symm hv
  | @element k content ns hk hk' hv hinside hns ihinside ih =>
    have hl := hm.lead_append ht
    rw [← h, (NormalContent.element hk hk' hv hinside hns).lead_append hs] at hl
    cases hm with
    | nil | text => cases hl
    | void hms =>
      simp only [List.flatMap_cons, html_voidHead, Node.html_element hv, List.append_assoc] at h
      exact absurd (hk.openingTag_append_inj voidHead_legible h).1 hv
    | element hh hh' hv' hinside' hms =>
      simp only [List.flatMap_cons, Node.html_element hv, Node.html_element hv',
        List.append_assoc] at h
      obtain ⟨hname, hpairs, hbehind⟩ := hk.openingTag_append_inj hh h
      obtain rfl := Head.Legible.normal_injective hk' hh' hname hpairs
      have hclosing (u : Text) : Text.lead (k.closingTag ++ u) = .closing := by
        rw [Head.closingTag_append hk.doctype]
        rfl
      obtain ⟨rfl, hafter⟩ := ihinside hinside' (hclosing _) (hclosing _) hbehind
      obtain ⟨rfl, hst⟩ := ih hms hs ht (List.append_cancel_left hafter)
      exact ⟨rfl, hst⟩

theorem joinTo_text (ht : '<' ∉ t) (hn : NormalContent ns) :
    NormalContent ((Node.text t).joinTo ns) := by
  cases t with
  | nil => exact hn
  | cons x t =>
    have hne : x :: t ≠ [] := List.cons_ne_nil x t
    cases hn with
    | nil => exact .text hne ht (by decide) .nil
    | void hns => exact .text hne ht (by simp [Node.leadOf]) (.void hns)
    | element hh hh' hv hinside hns =>
      exact .text hne ht (by simp [Node.leadOf]) (.element hh hh' hv hinside hns)
    | text hne' hu hapart hns =>
      refine .text (by simp) (fun hm => ?_) hapart hns
      exact (List.mem_append.1 hm).elim ht hu

end NormalContent

theorem Node.Legible.joinTo_normal {n : Node} (hn : n.Legible) :
    ∀ {ns : List Node}, NormalContent ns → NormalContent (n.normal.joinTo ns) := by
  induction hn with
  | text ht => exact fun hns => by rw [Node.normal]; exact hns.joinTo_text ht
  | @element h content hh _ ih =>
    intro ns hns
    have hinside : ∀ ms : List Node, (∀ m ∈ ms, m ∈ content) →
        NormalContent (Node.normalOf ms) := by
      intro ms
      induction ms with
      | nil => exact fun _ => .nil
      | cons m ms ihms =>
        intro hm
        rw [Node.normalOf]
        exact ih m (hm m (by simp)) (ihms fun k hk => hm k (by simp [hk]))
    by_cases hv : h.name = voidName
    · rw [Node.normal, if_pos hv]
      exact .void hns
    · rw [Node.normal, if_neg hv]
      exact .element hh.normal rfl hv (hinside content fun _ hm => hm) hns

theorem Node.joinTo_nil_injective {n m : Node} (h : n.joinTo [] = m.joinTo []) : n = m := by
  have joinTo_nil (n : Node) : n = .text [] ∧ n.joinTo [] = [] ∨ n.joinTo [] = [n] := by
    cases n with
    | element => exact .inr rfl
    | text t =>
      cases t with
      | nil => exact .inl ⟨rfl, rfl⟩
      | cons => exact .inr rfl
  rcases joinTo_nil n with ⟨rfl, hn⟩ | hn <;> rcases joinTo_nil m with ⟨rfl, hm⟩ | hm <;>
    simp_all

/-- Two trees are written as the same HTML if and only if they have the same normal form. -/
theorem Node.html_eq_iff_normal_eq {t u : Node} (ht : t.Legible) (hu : u.Legible) :
    t.html = u.html ↔ t.normal = u.normal := by
  constructor
  · intro h
    have flat : ∀ n : Node, (n.normal.joinTo []).flatMap html ++ [] = n.html := by
      intro n
      rw [html_joinTo, html_normal, List.flatMap_nil, List.append_nil, List.append_nil]
    have hj := (ht.joinTo_normal .nil).append_inj (hu.joinTo_normal .nil) (s := []) (t := [])
      rfl rfl (by rw [flat, flat, h])
    exact joinTo_nil_injective hj.1
  · intro h
    rw [← html_normal t, h, html_normal u]

/-- An id and classes instead of attributes, a text in pieces, and content that is left out; then
the same text behind the tag instead of before it; and another id. -/
theorem Node.html_eq_iff_normal_eq_split :
    let t : Node := .element ⟨['p'], some ['x'], some [['a'], ['b']], none⟩
      [.text ['1'], .text [], .text ['>'], .element ⟨voidName, none, none, none⟩ [.text ['2']]]
    let u : Node := .element ⟨['p'], none, some [], some [⟨"id", ['x']⟩, ⟨"class", "a b"⟩]⟩
      [.text "1>", .element ⟨voidName, none, none, some []⟩ []]
    let v : Node := .element ⟨['p'], none, some [], some [⟨"id", ['x']⟩, ⟨"class", "a b"⟩]⟩
      [.element ⟨voidName, none, none, some []⟩ [], .text "1>"]
    let w : Node := .element ⟨['p'], none, some [], some [⟨"id", ['y']⟩, ⟨"class", "a b"⟩]⟩
      [.text "1>", .element ⟨voidName, none, none, some []⟩ []]
    t.Legible ∧ u.Legible ∧ v.Legible ∧ w.Legible ∧ t.html = u.html ∧ u.html ≠ v.html ∧
      u.html ≠ w.html := by
  intro t u v w
  have hp : (⟨['p'], some ['x'], some [['a'], ['b']], none⟩ : Head).Legible :=
    ⟨by decide, by decide, by decide, fun _ has => (nomatch has), by decide⟩
  have hq : ∀ i : Text, '"' ∉ i →
      (⟨['p'], none, some [], some [⟨"id", i⟩, ⟨"class", "a b"⟩]⟩ : Head).Legible := by
    have word : RunOf isNameChar ['p'] := by decide
    have name : RunOf isAttributeNameChar ("id" : Text) := by decide
    have tag : (['p'] : Text) ≠ doctypeName := by decide
    refine fun i hi => ⟨word, fun _ h => (nomatch h), fun cs hcs c hc => ?_,
      fun as has a ha => ?_, tag⟩
    · rw [← Option.some.inj hcs] at hc
      exact absurd hc List.not_mem_nil
    · obtain rfl := Option.some.inj has
      simp only [List.mem_cons, List.not_mem_nil, or_false] at ha
      rcases ha with rfl | rfl
      · exact ⟨name, hi⟩
      · exact ⟨by decide, by decide⟩
  have hb : (⟨voidName, none, none, none⟩ : Head).Legible :=
    ⟨by decide, by decide, by decide, fun _ has => (nomatch has), by decide⟩
  have one : (Node.text "1>").Legible := .text (by decide)
  have bare : (Node.element voidHead []).Legible :=
    .element voidHead_legible fun _ hn => (nomatch hn)
  have ht : t.Legible := by
    refine .element hp fun n hn => ?_
    simp only [List.mem_cons, List.not_mem_nil, or_false] at hn
    rcases hn with rfl | rfl | rfl | rfl
    · exact .text (by decide)
    · exact .text (by decide)
    · exact .text (by decide)
    · refine .element hb fun n hn => ?_
      obtain rfl := List.mem_singleton.1 hn
      exact .text (by decide)
  have both : ∀ n ∈ [Node.text "1>", .element voidHead []], n.Legible := by
    intro n hn
    simp only [List.mem_cons, List.not_mem_nil, or_false] at hn
    rcases hn with rfl | rfl
    · exact one
    · exact bare
  have hu : u.Legible := .element (hq ['x'] (by decide)) both
  have hv : v.Legible := .element (hq ['x'] (by decide)) fun n hn =>
    both n (List.mem_reverse.1 hn)
  have hw : w.Legible := .element (hq ['y'] (by decide)) both
  refine ⟨ht, hu, hv, hw, (html_eq_iff_normal_eq ht hu).2 rfl, fun he => ?_, fun he => ?_⟩
  · exact nomatch (html_eq_iff_normal_eq hu hv).1 he
  · have he : u.normal = w.normal := (html_eq_iff_normal_eq hu hw).1 he
    simp [u, w, normal, Head.normal, Head.attributeList, voidName] at he

end CurlyMarkup
