import CurlyMarkup.Proofs.Building
import CurlyMarkup.Proofs.Escapes
set_option autoImplicit false

namespace CurlyMarkup

open Markup

/-- The line as a piece outside the elements that keep their space. -/
def Line.piece (l : Line) : Piece := ⟨l.depth, l.text, false, true, true⟩

/-- Every line is ended when it is printed. -/
theorem Line.flatMap_render_piece (unit : Text) (ls : List Line) :
    (ls.map piece).flatMap (·.render unit) = (ls.map (·.indented unit)).flatMap (· ++ ['\n']) := by
  rw [List.flatMap_map, List.flatMap_map]
  rfl

theorem Markup.piecesOf_append (preserved : List Text) (literal : Bool) (depth : Nat)
    (parent : Text) (ms ms' : List Markup.Node) :
    Node.piecesOf preserved literal depth parent (ms ++ ms') =
      Node.piecesOf preserved literal depth parent ms ++
        Node.piecesOf preserved literal depth parent ms' := by
  induction ms with
  | nil => rw [List.nil_append, Node.piecesOf, List.nil_append]
  | cons m ms ih =>
    rw [List.cons_append, Node.piecesOf, ih, Node.piecesOf, List.append_assoc]

theorem Text.isEmpty_replace {x : Char} {new : Text} (hne : new ≠ []) (t : Text) :
    (t.replace x new).isEmpty = t.isEmpty := by
  cases t with
  | nil => rfl
  | cons y t =>
    rw [replace, List.flatMap_cons]
    by_cases h : y = x <;> simp [h, hne]

namespace Markup

variable {preserved : List Text} {depth : Nat} {parent t : Text}

theorem piecesOf_stringNodes (hp : parent ∉ verbatimNames) (ht : RunOf isPlain t) :
    Node.piecesOf preserved false depth parent (stringNodes t) =
      (textLines depth t).map Line.piece := by
  rw [stringNodes]
  split
  · next he =>
    rw [List.isEmpty_iff.1 he]
    rfl
  · have text (u : Text) : stringText parent .data u = escape u := by simp [stringText, hp]
    rw [Node.piecesOf, Node.pieces, Node.piecesOf, List.append_nil, text, stringPieces,
      strip_escape_collapse ht, Text.isEmpty_replace (by decide), textLines]
    simp only [Bool.false_eq_true, ↓reduceIte]
    split <;> rfl

theorem piecesOf_void :
    Node.piecesOf preserved false depth parent [.element voidName [] []] =
      [(⟨depth, "<br>"⟩ : Line).piece] := rfl

theorem piecesOf_element {n : Text} (hv : n ∉ voidNames) (hk : n ∉ preserved)
    (as : List Attribute) (content : List Node) :
    Node.piecesOf preserved false depth parent [.element n as content] =
      (⟨depth, openingTag n as⟩ : Line).piece ::
        Node.piecesOf preserved false (depth+1) n content ++
        [(⟨depth, closingTag n⟩ : Line).piece] := by
  have hv : voidNames.contains n = false := by simpa using hv
  have hk : preserved.contains n = false := by simpa using hk
  rw [Node.piecesOf, Node.pieces, Node.piecesOf, List.append_nil, hv, hk]
  rfl

end Markup

theorem Head.Tame.openingTag_eq {h : Head} (hh : h.Tame) :
    Markup.openingTag h.name (mergeAttributes h.pairs) = h.openingLine := by
  rw [Markup.openingTag, openingLine, mergeAttributes_eq]
  congr 2
  refine List.flatMap_congr fun a ha => ?_
  have tame := hh.pairs a (distinctAttributes_subset _ ha)
  have other : h.name ≠ ("meta" : Text) := fun e => hh.filled (by rw [e]; decide)
  rw [attributeValue, if_neg fun e => other e.1, quotedValue_eq tame.quote tame.ampersand,
    Attribute.shown]
  simp

/-- The pieces of the tree that is built again are the lines of the one that was written. -/
theorem TameContent.piecesOf_markupOf {preserved : List Text} {ns : List Node}
    (hn : TameContent Head.Readable ns) (hp : preserved ⊆ Layout.preservedNames false)
    (depth : Nat) {parent before : Text} (hv : parent ∉ verbatimNames)
    (hb : RunOf isPlain before) :
    Markup.Node.piecesOf preserved false depth parent (Node.markupOf before ns) =
      (Node.linesOf depth before ns).map Line.piece := by
  have empty : RunOf isPlain [] := by decide
  -- a tag ends the text in front of it, and the next text begins behind it
  induction hn generalizing depth parent before with
  | nil => exact piecesOf_stringNodes hv hb
  | @text t ns tags references _ ih =>
    rw [Node.markupOf, Node.linesOf]
    exact ih depth hv (hb.append (runOf_isPlain tags references))
  | @void k content ns hname _ ih =>
    rw [Node.markupOf, Node.linesOf, Node.markup, Node.lines, if_pos hname, if_pos hname,
      piecesOf_append, piecesOf_append, piecesOf_stringNodes hv hb, piecesOf_void,
      ih depth hv empty, List.map_append, List.map_append]
    rfl
  | @element k content ns hk _ _ ihinside ih =>
    have hverb : k.name ∉ verbatimNames := fun hm => hk.unkept (rawNames_subset_preservedNames hm)
    rw [Node.markupOf, Node.linesOf, Node.markup, Node.lines, if_neg hk.name_ne_void,
      if_neg hk.name_ne_void, piecesOf_append, piecesOf_append, piecesOf_stringNodes hv hb,
      piecesOf_element hk.filled (fun hm => hk.unkept (hp hm)), ihinside (depth+1) hverb empty,
      ih depth hv empty, hk.openingTag_eq, List.map_append, List.map_append, List.map_append]
    rfl

/-- The last line of an element is that of a tag. -/
theorem Element.exists_lines_eq (e : Element) (depth : Nat) :
    ∃ ls t, e.toNode.lines depth = ls ++ [⟨depth, t ++ ['>']⟩] := by
  rw [toNode, Node.lines]
  split
  · exact ⟨[], "<br", rfl⟩
  · exact ⟨_, _, rfl⟩

theorem Element.linesOf_toNode (e : Element) (depth : Nat) :
    Node.linesOf depth [] [e.toNode] = e.toNode.lines depth := by
  rw [toNode, Node.linesOf, Node.linesOf]
  exact List.append_nil _

theorem Text.intercalate_concat (sep t : Text) (ts : List Text) :
    sep.intercalate (ts ++ [t]) = ts.flatMap (· ++ sep) ++ t := by
  induction ts with
  | nil => exact List.intercalate_singleton
  | cons u ts ih =>
    rw [List.flatMap_cons, List.append_assoc, ← ih]
    cases ts <;> simp [List.intercalate_cons_cons]

theorem Text.trimEnd_concat {p : Char → Bool} {x y : Char} (hx : p x = true) (hy : p y = false)
    (t : Text) : trimEnd p (t ++ [y] ++ [x]) = t ++ [y] := by
  simp [trimEnd, hx, hy]

/-- Line feeds end the pieces and come between the lines. -/
theorem Element.trimEnd_lines (e : Element) (unit : Text) :
    Text.trimEnd (· = '\n') (((e.toNode.lines 0).map Line.piece).flatMap (·.render unit)) =
      e.layout unit := by
  obtain ⟨ls, t, hl⟩ := e.exists_lines_eq 0
  have layout : e.layout unit =
      (ls.map (·.indented unit)).flatMap (· ++ ['\n']) ++ t ++ ['>'] := by
    rw [Element.layout, hl, List.map_append, List.map_singleton, Text.intercalate_concat,
      List.append_assoc]
    rfl
  have printed : ((e.toNode.lines 0).map Line.piece).flatMap (·.render unit) =
      e.layout unit ++ ['\n'] := by
    rw [layout, Line.flatMap_render_piece, hl, List.map_append, List.flatMap_append,
      List.append_assoc, List.append_assoc]
    simp [Line.indented]
  rw [printed, layout]
  exact Text.trimEnd_concat (by decide) (by decide) _

/-- The HTML of an element is laid out by the lines of the element, without a line feed at the end.
Comments may be stripped, since there are none. -/
theorem Element.format_html_eq_layout {e : Element} (h : TameContent Head.Readable [e.toNode])
    {o : FormatOptions} (ho : o.indentAttributes = false) :
    (Layout.format e.toNode.html o).value = .formatted (e.layout o.unit) := by
  have hp : Layout.preservedNames o.indentCdata ⊆ Layout.preservedNames false := by
    cases o.indentCdata <;> decide
  have empty : RunOf isPlain [] := by decide
  have hscan : scan e.toNode.html = .ok (Node.tokensOf [] [e.toNode]) := by
    simpa using (h.scansTo empty (by simp) .nil).scan_eq
  have hpieces : Layout.pieces o.indentCdata o.stripComments e.toNode.html =
      .ok ((e.toNode.lines 0).map Line.piece) := by
    rw [Layout.pieces, hscan, Except.map, h.build_eq hp]
    simp only [h.dropCommentsOf_markupOf, ite_self]
    rw [h.piecesOf_markupOf hp 0 (by decide) empty, e.linesOf_toNode]
  rw [Layout.format_of_pieces ho hpieces]
  exact congrArg FormatResult.formatted (e.trimEnd_lines o.unit)

/-- A repeated attribute, a text in pieces, one that is blank, and one that is left out. -/
theorem Element.format_html_eq_layout_nested :
    let p : Node := .element ⟨['p'], none, none, some [⟨['x'], ['1']⟩, ⟨['x'], ['<']⟩]⟩
      [.text " 1", .text "> "]
    let e : Element := ⟨⟨['q'], some ['i'], some [['c'], ['d']], none⟩,
      [.element ⟨voidName, none, none, none⟩ [.text ['2']], .text ['\n'], p]⟩
    TameContent Head.Readable [e.toNode] ∧
      (Layout.format e.toNode.html { useTabs := true }).value = .formatted
        "<q id=\"i\" class=\"c d\">\n\t<br>\n\t<p x=\"&lt;\">\n\t\t1&gt;\n\t</p>\n</q>" := by
  intro p e
  have one : (⟨['x'], ['1']⟩ : Attribute).Tame := ⟨by decide, by decide, rfl, by decide, by decide⟩
  have two : (⟨['x'], ['<']⟩ : Attribute).Tame := ⟨by decide, by decide, rfl, by decide, by decide⟩
  have hp : Head.Readable ⟨['p'], none, none, some [⟨['x'], ['1']⟩, ⟨['x'], ['<']⟩]⟩ :=
    ⟨⟨⟨'p', rfl, rfl⟩, rfl, by decide, by decide, by simp [one, two], by decide, by decide,
      by decide⟩, by decide, fun _ hc => Option.some.inj hc ▸ rfl⟩
  have hq : e.head.Readable :=
    ⟨⟨⟨'q', rfl, rfl⟩, rfl, by decide, by decide, fun _ has => (nomatch has), by decide, by decide,
      by decide⟩, by decide, fun _ hc => Option.some.inj hc ▸ rfl⟩
  have inside : TameContent Head.Readable [p] :=
    .element hp (.text (by decide) (by decide) (.text (by decide) (by decide) .nil)) .nil
  have he : TameContent Head.Readable [e.toNode] :=
    .element hq (.void rfl (.text (by decide) (by decide) inside)) .nil
  have laid : e.layout ['\t'] =
      "<q id=\"i\" class=\"c d\">\n\t<br>\n\t<p x=\"&lt;\">\n\t\t1&gt;\n\t</p>\n</q>" := rfl
  exact ⟨he, (format_html_eq_layout he rfl).trans (congrArg FormatResult.formatted laid)⟩

/-- A name with a blank in it is read back as a name and an attribute. -/
theorem Element.format_html_blank_name :
    let e : Element := ⟨⟨"a b", none, none, none⟩, []⟩
    TameContent Head.Tame [e.toNode] ∧
      (Layout.format e.toNode.html {}).value = .formatted "<a b=\"\">\n</a>" ∧
      (Layout.format e.toNode.html {}).value ≠ .formatted (e.layout ({} : FormatOptions).unit) := by
  intro e
  have hh : e.head.Tame :=
    ⟨⟨'a', rfl, rfl⟩, rfl, by decide, by decide, fun _ has => (nomatch has), by decide, by decide,
      by decide⟩
  have html : e.toNode.html = "<a b></a b>" := by
    rw [Element.toNode, Node.html_element hh.name_ne_void]
    rfl
  have tokens : scan "<a b></a b>" =
      .ok [.start ⟨['a'], [⟨['b'], []⟩], false⟩, .finish ['a']] := rfl
  have tree : build (Layout.preservedNames false)
      [.start ⟨['a'], [⟨['b'], []⟩], false⟩, .finish ['a']] =
        [.element ['a'] [⟨['b'], []⟩] []] := rfl
  have pieces : Layout.pieces false false "<a b></a b>" =
      .ok [⟨0, "<a b=\"\">", false, true, true⟩, ⟨0, "</a>", false, true, true⟩] := by
    rw [Layout.pieces, tokens, Except.map, tree]
    rfl
  have value : (Layout.format e.toNode.html {}).value = .formatted "<a b=\"\">\n</a>" := by
    rw [html, Layout.format_of_pieces rfl pieces]
    rfl
  have laid : e.layout ({} : FormatOptions).unit = "<a b>\n</a b>" := rfl
  refine ⟨.element hh .nil .nil, value, ?_⟩
  rw [value, laid]
  decide

end CurlyMarkup
