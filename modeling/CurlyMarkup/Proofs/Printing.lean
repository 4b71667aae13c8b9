import CurlyMarkup.Proofs.Recognition
import CurlyMarkup.Tree.Source
set_option autoImplicit false

namespace CurlyMarkup

/-- The names that source text can spell. A list of classes is not empty. -/
structure Head.WellFormed (h : Head) : Prop where
  name : NameWord h.name
  id : ∀ i ∈ h.id, NameWord i
  classes : ∀ cs ∈ h.classes, cs ≠ [] ∧ ∀ c ∈ cs, NameWord c
  attributes : ∀ as ∈ h.attributes, ∀ a ∈ as, AttributeNameWord a.name

/-- A tree in which every element can be spelled. Texts and attribute values are arbitrary. -/
inductive Node.WellFormed : Node → Prop where
  | text (t : Text) : WellFormed (.text t)
  | element {h : Head} {content : List Node} (head : h.WellFormed)
      (inside : ∀ n ∈ content, WellFormed n) : WellFormed (.element h content)

def Element.WellFormed (e : Element) : Prop := e.toNode.WellFormed

namespace Text

/-- What stands for a character between quotes. -/
def escapeOf (x : Char) : Text :=
  if x = '\\' then ['\\', '\\'] else if x = '"' then ['\\', '"']
  else if x = '\n' then ['\\', 'n'] else [x]

/-- No replacement touches what an earlier one has put in, so the three come to one. -/
theorem escaped_eq_flatMap (t : Text) : t.escaped = t.flatMap escapeOf := by
  simp only [escaped, replace, List.flatMap_assoc]
  congr 1
  funext x
  by_cases hb : x = '\\'
  · subst hb
    rfl
  by_cases hq : x = '"'
  · subst hq
    rfl
  by_cases hn : x = '\n'
  · subst hn
    rfl
  · simp [escapeOf, hb, hq, hn]

theorem stringBody_escapeOf (x : Char) : StringBody (escapeOf x) [x] := by
  by_cases hb : x = '\\'
  · subst hb
    exact .backslash .nil
  by_cases hq : x = '"'
  · subst hq
    exact .quote .nil
  by_cases hn : x = '\n'
  · subst hn
    exact .newline .nil
  · simp only [escapeOf, hb, hq, hn, ↓reduceIte]
    exact .plain hq hb .nil

theorem stringBody_escaped (t : Text) : StringBody t.escaped t := by
  rw [escaped_eq_flatMap]
  induction t with
  | nil => exact .nil
  | cons x t ih => exact (stringBody_escapeOf x).append ih

theorem stringWord_source (t : Text) : StringWord t.source t := .mk t.stringBody_escaped

theorem intercalate_blank (t : Text) (ts : List Text) :
    (" " : Text).intercalate (t :: ts) = t ++ ts.flatMap (' ' :: ·) := by
  induction ts generalizing t with
  | nil => simp [List.intercalate]
  | cons u ts ih =>
    have h : (" " : Text).intercalate (t :: u :: ts) =
        t ++ ' ' :: (" " : Text).intercalate (u :: ts) := by
      simp [List.intercalate, List.intersperse]
    rw [h, ih, List.flatMap_cons]
    rfl

end Text

theorem Attribute.word_source {a : Attribute} (h : AttributeNameWord a.name) :
    AttributeWord a.source a := .mk h a.value.stringWord_source

theorem manyWords_afterBlank {α : Type} {M : Text → Prop} {L : Text → α → Prop}
    {source : α → Text} {as : List α} (hm : M [' ']) (h : ∀ a ∈ as, L (source a) a) :
    ManyWords (AfterWord M L) ((as.map source).flatMap (' ' :: ·)) as := by
  induction as with
  | nil => exact .nil
  | cons a as ih =>
    have ha : AfterWord M L (' ' :: source a) a := .mk hm (h a (by simp))
    exact .cons ha (ih fun b hb => h b (by simp [hb]))

theorem separatedWords_intercalate {α : Type} {M : Text → Prop} {L : Text → α → Prop}
    {source : α → Text} {as : List α} (hm : M [' ']) (h : ∀ a ∈ as, L (source a) a) :
    SeparatedWords M L ((" " : Text).intercalate (as.map source)) as := by
  cases as with
  | nil => exact .nil
  | cons a as =>
    rw [List.map_cons, Text.intercalate_blank]
    exact .cons (h a (by simp)) (manyWords_afterBlank hm fun b hb => h b (by simp [hb]))

namespace Head

variable {h : Head}

theorem WellFormed.id_word (w : h.WellFormed) : OptionalWord IdWord h.idSource h.id := by
  have hw := w.id
  rw [idSource]
  cases hi : h.id with
  | none => exact .absent
  | some i => exact .present (.mk (hw i hi))

theorem WellFormed.classes_words (w : h.WellFormed) :
    ∃ cs, ManyWords ClassWord h.classesSource cs ∧ classesOf cs = h.classes := by
  have hw := w.classes
  rw [classesSource]
  cases hc : h.classes with
  | none => exact ⟨[], .nil, rfl⟩
  | some cs =>
    obtain ⟨hne, hcs⟩ := hw cs hc
    refine ⟨cs, ?_, by simp [classesOf, hne]⟩
    clear hc hne
    induction cs with
    | nil => exact .nil
    | cons c cs ih =>
      exact .cons (ClassWord.mk (hcs c (by simp))) (ih fun d hd => hcs d (by simp [hd]))

/-- The attributes come behind a blank. Without attributes that blank is not written. -/
theorem WellFormed.attributes_word (w : h.WellFormed) :
    ∃ b t, h.attributesSource = b ++ t ∧ BlankWord b ∧
      OptionalWord AttributesWord t h.attributes := by
  have hw := w.attributes
  rw [attributesSource]
  cases ha : h.attributes with
  | none => exact ⟨[], [], rfl, by decide, .absent⟩
  | some as =>
    have hl : SeparatedWords (WordOf isBlank) AttributeWord _ as :=
      separatedWords_intercalate (by decide) fun a h => Attribute.word_source (hw as ha a h)
    have hb : BlankWord [] := by decide
    have hs := AttributesWord.mk hb hl hb
    rw [List.append_nil] at hs
    exact ⟨[' '], '[' :: _ ++ [']'], rfl, by decide, .present hs⟩

theorem WellFormed.word_source (w : h.WellFormed) : HeadWord (h.source ++ [' ', '\x7b']) h := by
  obtain ⟨cs, hcs, hc⟩ := w.classes_words
  obtain ⟨b, t, ht, hb, ha⟩ := w.attributes_word
  have hafter : BlankWord [' '] := by decide
  have hh := HeadWord.mk w.name (.mk w.id_word hcs hb ha hafter)
  rw [hc] at hh
  simpa [source, ht] using hh

end Head

theorem Node.sources_eq_map (ns : List Node) : Node.sources ns = ns.map Node.source := by
  induction ns with
  | nil => rfl
  | cons n ns ih => rw [Node.sources, ih, List.map_cons]

theorem contentWord_intercalate {ns : List Node} (h : ∀ n ∈ ns, ItemWord n.source n) :
    ∃ t w, ' ' :: (" " : Text).intercalate (Node.sources ns) ++ [' '] = t ++ w ∧
      ContentWord t ns ∧ BlankWord w := by
  rw [Node.sources_eq_map]
  have hw := contentWord_iff.2 (manyWords_afterBlank (M := BlankWord) (by decide) h)
  cases ns with
  | nil => exact ⟨[], [' ', ' '], rfl, .nil, by decide⟩
  | cons n ns => exact ⟨_, [' '], by rw [List.map_cons, Text.intercalate_blank]; rfl, hw, by decide⟩

theorem Head.WellFormed.element_word {h : Head} {ns : List Node} (w : h.WellFormed)
    (hns : ∀ n ∈ ns, ItemWord n.source n) : ElementWord (Node.element h ns).source ⟨h, ns⟩ := by
  obtain ⟨t, b, ht, hc, hb⟩ := contentWord_intercalate hns
  have hw := ElementWord.mk w.word_source hc hb
  rw [List.append_assoc _ t, ← ht] at hw
  simpa [Node.source] using hw

theorem Node.WellFormed.item_word {n : Node} (w : n.WellFormed) : ItemWord n.source n := by
  induction w with
  | text t => exact .string t.stringWord_source
  | element hh _ ih => exact .element (hh.element_word ih)

theorem Element.WellFormed.word_source {e : Element} (w : e.WellFormed) :
    ElementWord e.source e := by
  cases w with
  | element hh hns => exact hh.element_word fun n hn => (hns n hn).item_word

theorem Element.WellFormed.readElement_source {e : Element} (w : e.WellFormed) :
    readElement e.source = .ok e := by
  have hb : BlankWord [] := by decide
  have hr := RootWord.mk hb w.word_source hb
  rw [List.append_nil] at hr
  exact read_of_rootWord hr

theorem Element.WellFormed.readDocument_documentSource {e : Element} (w : e.WellFormed)
    (doctype : Text) :
    readDocument (e.documentSource doctype) = .ok ⟨Grammar.declaration doctype, e⟩ := by
  have hb : BlankWord [' '] := by decide
  have hl : BlankWord ['\n'] := by decide
  have hn : BlankWord [] := by decide
  have hd := DoctypeWord.mk .lower ⟨by simp, hb⟩ hb doctype.stringWord_source hb
  have hw := DocumentWord.mk hn hd (.mk hl w.word_source hl)
  have parts : ∀ k s t : Text,
      k ++ [' ', '\x7b', ' '] ++ s ++ [' ', '\x7d', '\n'] ++ t ++ ['\n'] =
        [] ++ (k ++ [' '] ++ '\x7b' :: [' '] ++ s ++ [' '] ++ ['\x7d']) ++
          (['\n'] ++ t ++ ['\n']) := by
    simp
  have hs : e.documentSource doctype = _ := parts "!doctype" doctype.source e.source
  rw [hs]
  exact read_of_documentWord hw

theorem ManyWords.forall_mem {α : Type} {L : Text → α → Prop} {p : α → Prop} {s : Text}
    {as : List α} (w : ManyWords L s as) (h : ∀ s a, L s a → p a) : ∀ a ∈ as, p a := by
  induction w with
  | nil => simp
  | cons hw _ ih => exact List.forall_mem_cons.2 ⟨h _ _ hw, ih⟩

theorem SeparatedWords.forall_mem {α : Type} {M : Text → Prop} {L : Text → α → Prop}
    {p : α → Prop} {s : Text} {as : List α} (w : SeparatedWords M L s as)
    (h : ∀ s a, L s a → p a) : ∀ a ∈ as, p a := by
  cases w with
  | nil => simp
  | cons hf ho => exact List.forall_mem_cons.2 ⟨h _ _ hf, ho.forall_mem fun _ _ ⟨_, hw⟩ => h _ _ hw⟩

theorem OptionalWord.forall_mem {α : Type} {L : Text → α → Prop} {p : α → Prop} {s : Text}
    {a : Option α} (w : OptionalWord L s a) (h : ∀ s a, L s a → p a) : ∀ b ∈ a, p b := by
  cases w with
  | absent => simp
  | present hw =>
    intro b hb
    cases hb
    exact h _ _ hw

theorem AttributeWord.name_word {s : Text} {a : Attribute} (w : AttributeWord s a) :
    AttributeNameWord a.name := by
  obtain ⟨hn, _⟩ := w
  exact hn

theorem HeadWord.wellFormed {s : Text} {h : Head} (w : HeadWord s h) : h.WellFormed := by
  obtain ⟨hn, hi, hc, _, ha, _⟩ := w
  refine ⟨hn, hi.forall_mem fun _ _ ⟨hw⟩ => hw, ?_, ?_⟩
  · intro cs hcs
    obtain ⟨hne, rfl⟩ : _ ≠ [] ∧ _ = cs := by simpa [classesOf] using hcs
    exact ⟨hne, hc.forall_mem fun _ _ ⟨hw⟩ => hw⟩
  · exact ha.forall_mem fun _ _ ⟨_, hl, _⟩ => hl.forall_mem fun _ _ hw => hw.name_word

mutual

theorem ElementWord.wellFormed {s : Text} {e : Element} : ElementWord s e → e.WellFormed
  | .mk hh hc _ => .element hh.wellFormed hc.wellFormed

theorem ContentWord.wellFormed {s : Text} {ns : List Node} :
    ContentWord s ns → ∀ n ∈ ns, n.WellFormed
  | .nil => by simp
  | .cons _ (.string _) hr => List.forall_mem_cons.2 ⟨.text _, hr.wellFormed⟩
  | .cons _ (.element he) hr => List.forall_mem_cons.2 ⟨he.wellFormed, hr.wellFormed⟩

end

theorem wellFormed_of_readElement {s : Text} {e : Element} (h : readElement s = .ok e) :
    e.WellFormed := by
  obtain ⟨_, he, _⟩ := rootWord_of_read h
  exact he.wellFormed

theorem wellFormed_of_readDocument {s : Text} {d : Document} (h : readDocument s = .ok d) :
    d.root.WellFormed := by
  obtain ⟨_, _, _, he, _⟩ := documentWord_of_read h
  exact he.wellFormed

/-- A tree that can be spelled is read back from what is written for it, alone or in a document of
any type, and no other tree is ever read. -/
theorem read_source (e : Element) :
    (e.WellFormed → readElement e.source = .ok e ∧
      ∀ doctype, readDocument (e.documentSource doctype) =
        .ok ⟨("<!DOCTYPE " : Text) ++ doctype ++ (">\n" : Text), e⟩) ∧
    (∀ s, readElement s = .ok e → e.WellFormed) ∧
    ∀ s doctype, readDocument s = .ok ⟨doctype, e⟩ → e.WellFormed :=
  ⟨fun w => ⟨w.readElement_source, w.readDocument_documentSource⟩,
    fun _ => wellFormed_of_readElement, fun _ _ => wellFormed_of_readDocument⟩

/-- Quotes, backslashes and braces in texts, absent and empty attributes, the same class twice. -/
theorem read_source_nested :
    let p : Node := .element ⟨['p'], some ['x'], none, some []⟩ [.text "\"\\\n\x7d"]
    let e : Element := ⟨⟨['d'], none, some [['c'], ['c']], none⟩, [p, .text [], p]⟩
    e.WellFormed ∧ readElement e.source = .ok e := by
  intro p e
  have hp : p.WellFormed :=
    .element ⟨by decide, by decide, by decide, by decide⟩ (by simpa using .text _)
  have he : e.WellFormed := by
    refine .element ⟨by decide, by decide, by decide, by decide⟩ fun n hn => ?_
    have hn : n = p ∨ n = .text [] ∨ n = p := by simpa [e] using hn
    rcases hn with rfl | rfl | rfl
    · exact hp
    · exact .text _
    · exact hp
  exact ⟨he, ((read_source e).1 he).1⟩

end CurlyMarkup
