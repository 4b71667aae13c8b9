import CurlyMarkup.Proofs.Scanning
set_option autoImplicit false

namespace CurlyMarkup

open Markup

/-- The node of a text, if that is not empty. -/
def Markup.stringNodes (t : Text) : List Markup.Node :=
  if t.isEmpty then [] else [.string .data (collapse t)]

mutual

/-- What is built again from the tokens of a node. -/
def Node.markup : Node → List Markup.Node
  | .text t => stringNodes t
  | .element h content =>
    if h.name = voidName then [.element voidName [] []]
    else [.element h.name (mergeAttributes h.pairs) (Node.markupOf [] content)]

def Node.markupOf (before : Text) : List Node → List Markup.Node
  | [] => stringNodes before
  | n :: ns =>
    match n with
    | .text t => Node.markupOf (before ++ t) ns
    | .element _ _ => stringNodes before ++ n.markup ++ Node.markupOf [] ns

end

namespace Markup.Builder

variable {preserved : List Text} {b b' : Builder} {ms ms' : List Markup.Node} {t n : Text}

theorem flush_eq (h : b.data = []) : b.flush preserved = b := by
  rw [flush, h]
  rfl

theorem data_flush : (b.flush preserved).data = [] := by
  rw [flush]
  split
  · next h => exact List.isEmpty_iff.1 h
  · rfl

theorem flush_flush : (b.flush preserved).flush preserved = b.flush preserved :=
  flush_eq data_flush

theorem closedVoids_flush : (b.flush preserved).closedVoids = b.closedVoids := by
  rw [flush]
  split <;> rfl

/-- Between two nodes, in elements that do not keep their space. -/
structure Idle (preserved : List Text) (b : Builder) : Prop where
  data : b.data = []
  unkept : b.preserves preserved = false
  voids : ∀ n ∈ b.closedVoids, n = voidName

/-- The nodes have been built, and nothing else has changed. -/
structure Grows (preserved : List Text) (b : Builder) (ms : List Markup.Node) (b' : Builder) :
    Prop where
  content : b'.content = ms.reverse ++ b.content
  outer : b'.outer = b.outer
  idle : b'.Idle preserved

theorem Grows.trans {b'' : Builder} (h : b.Grows preserved ms b') (h' : b'.Grows preserved ms' b'') :
    b.Grows preserved (ms ++ ms') b'' :=
  ⟨by rw [h'.content, h.content, List.reverse_append, List.append_assoc],
    h'.outer.trans h.outer, h'.idle⟩

theorem Idle.grows_text (h : b.Idle preserved) (t : Text) :
    b.Grows preserved (stringNodes t)
      (((Token.data t).foldl (add preserved) b).flush preserved) := by
  rw [stringNodes, Token.data]
  split
  · rw [List.foldl_nil, flush_eq h.data]
    exact ⟨rfl, rfl, h⟩
  · have hk : ({ b with data := [t] } : Builder).preserves preserved = false := h.unkept
    have hf : ([Token.string .data t].foldl (add preserved) b).flush preserved =
        { b with content := .string .data (collapse t) :: b.content, data := [] } := by
      rw [List.foldl_cons, List.foldl_nil, add, h.data, flush, if_neg (by simp), addString, hk]
      simp
    rw [hf]
    exact ⟨rfl, rfl, rfl, h.unkept, h.voids⟩

/-- A start tag ends the text before it. -/
theorem add_start (tag : StartTag) :
    b.add preserved (.start tag) = (b.flush preserved).add preserved (.start tag) := by
  rw [add, add, openElement, openElement, flush_flush]

/-- An end tag ends the text before it. -/
theorem add_finish (h : n ∉ b.closedVoids) :
    b.add preserved (.finish n) = (b.flush preserved).closeElement preserved n := by
  rw [add, finishElement, if_neg (by simpa using h), closeElement, closeElement, flush_flush]

theorem add_start_filled {tag : StartTag} (hs : tag.selfClosing = false)
    (hv : tag.name ∉ voidNames) :
    b.add preserved (.start tag) = b.openElement preserved tag := by
  simp [add, hs, hv]

theorem Idle.openElement {tag : StartTag} (h : b.Idle preserved) (hk : tag.name ∉ preserved) :
    (b.openElement preserved tag).Idle preserved := by
  rw [Builder.openElement, flush_eq h.data]
  exact ⟨h.data, by simpa [preserves, hk] using h.unkept, h.voids⟩

/-- What has been built in an element becomes its content. -/
theorem Grows.closeElement {tag : StartTag} (h : b.Idle preserved)
    (hg : (b.openElement preserved tag).Grows preserved ms b') :
    b.Grows preserved [.element tag.name (mergeAttributes tag.attributes) ms]
      (b'.closeElement preserved tag.name) := by
  have hc := hg.content
  have ho := hg.outer
  rw [Builder.openElement, flush_eq h.data] at hc ho
  have isOpen : b'.outer.any (·.name = tag.name) = true := by simp [ho]
  rw [Builder.closeElement, flush_eq hg.idle.data, if_pos isOpen, hc, ho, closeThrough, if_pos rfl,
    List.append_nil, List.reverse_reverse]
  exact ⟨rfl, rfl, hg.idle.data, h.unkept, hg.idle.voids⟩

/-- An element that holds nothing is closed at once. -/
theorem Idle.grows_void (h : b.Idle preserved) (hp : voidName ∉ preserved) :
    b.Grows preserved [.element voidName [] []]
      (b.add preserved (.start ⟨voidName, [], false⟩)) := by
  have hi : (b.openElement preserved ⟨voidName, [], false⟩).Idle preserved := h.openElement hp
  have inside : (b.openElement preserved ⟨voidName, [], false⟩).Grows preserved []
    (b.openElement preserved ⟨voidName, [], false⟩) := ⟨rfl, rfl, hi⟩
  have hg := inside.closeElement h
  have hv : voidNames.contains voidName = true := by decide
  rw [add]
  simp only [hv, Bool.false_eq_true, ↓reduceIte]
  refine ⟨hg.content, hg.outer, hg.idle.data, hg.idle.unkept, fun n hn => ?_⟩
  exact (List.mem_cons.1 hn).elim id (hg.idle.voids n)

end Markup.Builder

open Markup.Builder

/-- Tokens are built into what they were taken from. -/
theorem TameContent.grows {preserved : List Text} {ns : List Node}
    (hn : TameContent Head.Readable ns) (hp : preserved ⊆ Layout.preservedNames false) {b : Builder}
    (hb : b.Idle preserved) (before : Text) :
    b.Grows preserved (Node.markupOf before ns)
      (((Node.tokensOf before ns).foldl (add preserved) b).flush preserved) := by
  -- the tag that follows flushes the text in front of it, so the builder is idle before each tag
  induction hn generalizing b before with
  | nil => exact hb.grows_text before
  | @text t ns _ _ _ ih =>
    rw [Node.markupOf, Node.tokensOf]
    exact ih hb (before ++ t)
  | @void k content ns hv _ ih =>
    have hbr : voidName ∉ preserved := fun hm => absurd (hp hm) (by decide)
    have text := hb.grows_text before
    have tag := text.idle.grows_void hbr
    rw [← add_start] at tag
    rw [Node.markupOf, Node.tokensOf, Node.markup, Node.tokens, if_pos hv, if_pos hv,
      List.foldl_append, List.foldl_append]
    exact (text.trans tag).trans (ih tag.idle [])
  | @element k content ns hk _ _ ihinside ih =>
    have text := hb.grows_text before
    let tag : StartTag := ⟨k.name, k.pairs, false⟩
    have hkept : tag.name ∉ preserved := fun hm => hk.unkept (hp hm)
    have inside := ihinside (text.idle.openElement hkept) []
    have element := inside.closeElement text.idle
    rw [← add_start_filled rfl hk.filled, ← add_start] at element inside
    rw [← add_finish fun hm => hk.name_ne_void (inside.idle.voids _ (by rwa [closedVoids_flush]))]
      at element
    rw [Node.markupOf, Node.tokensOf, Node.markup, Node.tokens, if_neg hk.name_ne_void,
      if_neg hk.name_ne_void, List.foldl_append, List.foldl_append, List.cons_append,
      List.foldl_cons, List.foldl_append, List.foldl_cons, List.foldl_nil]
    exact (text.trans element).trans (ih element.idle [])

theorem TameContent.build_eq {preserved : List Text} {ns : List Node}
    (hn : TameContent Head.Readable ns) (hp : preserved ⊆ Layout.preservedNames false) :
    build preserved (Node.tokensOf [] ns) = Node.markupOf [] ns := by
  have hi : Builder.empty.Idle preserved := ⟨rfl, rfl, fun _ hm => nomatch hm⟩
  have hg := hn.grows hp hi []
  rw [build]
  simp only [hg.content, hg.outer]
  simp [Builder.empty, closeAll]

theorem Markup.dropCommentsOf_stringNodes (t : Text) (ms : List Markup.Node) :
    Node.dropCommentsOf (stringNodes t ++ ms) = stringNodes t ++ Node.dropCommentsOf ms := by
  rw [stringNodes]
  split
  · rfl
  · rw [List.cons_append, Node.dropCommentsOf]
    rfl

theorem Markup.dropCommentsOf_element (n : Text) (as : List Attribute)
    (content ms : List Markup.Node) :
    Node.dropCommentsOf (.element n as content :: ms) =
      .element n as (Node.dropCommentsOf content) :: Node.dropCommentsOf ms := by
  rw [Node.dropCommentsOf]
  rfl

/-- Nothing is built into a comment. -/
theorem TameContent.dropCommentsOf_markupOf {ns : List Node} (hn : TameContent Head.Readable ns)
    (before : Text) :
    Markup.Node.dropCommentsOf (Node.markupOf before ns) = Node.markupOf before ns := by
  induction hn generalizing before with
  | nil =>
    rw [Node.markupOf, ← List.append_nil (stringNodes before), dropCommentsOf_stringNodes]
    rfl
  | @text t ns _ _ _ ih =>
    rw [Node.markupOf]
    exact ih (before ++ t)
  | @void k content ns hv _ ih =>
    rw [Node.markupOf, Node.markup, if_pos hv, List.append_assoc, dropCommentsOf_stringNodes,
      List.cons_append, List.nil_append, dropCommentsOf_element, ih]
    rfl
  | @element k content ns hk _ _ ihinside ih =>
    rw [Node.markupOf, Node.markup, if_neg hk.name_ne_void, List.append_assoc,
      dropCommentsOf_stringNodes, List.cons_append, List.nil_append, dropCommentsOf_element,
      ihinside, ih]

end CurlyMarkup
