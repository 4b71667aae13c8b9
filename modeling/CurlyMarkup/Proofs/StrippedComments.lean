import CurlyMarkup.Format.Layout
set_option autoImplicit false

/-!
The layout without comments is the layout with comments, except for some of its pieces: the comments
themselves and the closing tags of void elements that hold nothing else.
-/

namespace CurlyMarkup

namespace Markup

variable {preserved : List Text} {literal : Bool} {depth : Nat} {parent : Text}

mutual

/-- The pieces of a node, each with a mark if it goes with the comments. The closing tag of a void
element does so where the element holds only comments. -/
def Node.marked (preserved : List Text) (literal : Bool) (depth : Nat) (parent : Text) :
    Node → List (Piece × Bool)
  | .string kind t =>
    (stringPieces literal depth (kind = .comment) (stringText parent kind t)).map
      fun p => (p, p.isComment)
  | .element name attributes content =>
    let tag := openingTag name attributes
    if voidNames.contains name && content.isEmpty then
      [(⟨depth, tag, false, !literal, !literal⟩, false)]
    else
      let inside := literal || preserved.contains name
      (⟨depth, tag, false, !literal, !inside⟩, false) ::
        markedOf preserved inside (depth+1) name content ++
        [(⟨depth, closingTag name, false, !inside, !literal⟩,
          voidNames.contains name && content.all (·.isComment))]

def Node.markedOf (preserved : List Text) (literal : Bool) (depth : Nat) (parent : Text) :
    List Node → List (Piece × Bool)
  | [] => []
  | n :: ns =>
    n.marked preserved literal depth parent ++ markedOf preserved literal depth parent ns

end

/-- The pieces that are left if those with a mark go. -/
def unmarked (ps : List (Piece × Bool)) : List Piece := (ps.filter (!·.2)).map Prod.fst

@[simp] theorem unmarked_nil : unmarked [] = [] := rfl

@[simp] theorem unmarked_append (ps qs : List (Piece × Bool)) :
    unmarked (ps ++ qs) = unmarked ps ++ unmarked qs := by simp [unmarked]

@[simp] theorem unmarked_cons_false (p : Piece) (ps : List (Piece × Bool)) :
    unmarked ((p, false) :: ps) = p :: unmarked ps := rfl

@[simp] theorem unmarked_cons_true (p : Piece) (ps : List (Piece × Bool)) :
    unmarked ((p, true) :: ps) = unmarked ps := rfl

theorem isComment_of_mem_stringPieces {isComment : Bool} {t : Text} {p : Piece}
    (h : p ∈ stringPieces literal depth isComment t) : p.isComment = isComment := by
  rw [stringPieces] at h
  split at h
  · rw [List.mem_singleton.1 h]
  · split at h
    · exact absurd h List.not_mem_nil
    · rw [List.mem_singleton.1 h]

theorem unmarked_string (ps : List Piece) :
    unmarked (ps.map fun p => (p, p.isComment)) = ps.filter (!·.isComment) := by
  induction ps with
  | nil => rfl
  | cons p ps ih =>
    rw [List.map_cons, List.filter_cons]
    cases p.isComment <;> simp [ih]

/-- Nothing of a comment is left. -/
theorem unmarked_comment {n : Node} (h : n.isComment = true) :
    unmarked (n.marked preserved literal depth parent) = [] := by
  cases n with
  | element name attributes content => cases h
  | string kind t =>
    cases kind <;> try cases h
    rw [Node.marked, unmarked_string, List.filter_eq_nil_iff]
    intro p hp
    simp [isComment_of_mem_stringPieces hp]

mutual

theorem Node.marked_fst : ∀ (n : Node) (literal : Bool) (depth : Nat) (parent : Text),
    (n.marked preserved literal depth parent).map Prod.fst =
      n.pieces preserved literal depth parent
  | .string kind t, literal, depth, parent => by
    rw [Node.marked, Node.pieces, List.map_map]
    exact List.map_id _
  | .element name attributes content, literal, depth, parent => by
    rw [Node.marked, Node.pieces]
    split
    · rfl
    · rw [List.map_append, List.map_cons, Node.markedOf_fst content]
      rfl

theorem Node.markedOf_fst : ∀ (ns : List Node) (literal : Bool) (depth : Nat) (parent : Text),
    (Node.markedOf preserved literal depth parent ns).map Prod.fst =
      Node.piecesOf preserved literal depth parent ns
  | [], _, _, _ => rfl
  | n :: ns, literal, depth, parent => by
    rw [Node.markedOf, Node.piecesOf, List.map_append, Node.marked_fst n, Node.markedOf_fst ns]

end

theorem dropCommentsOf_isEmpty (ns : List Node) :
    (Node.dropCommentsOf ns).isEmpty = ns.all (·.isComment) := by
  induction ns with
  | nil => rfl
  | cons n ns ih =>
    rw [Node.dropCommentsOf, List.all_cons]
    cases n.isComment <;> simp [ih]

mutual

theorem Node.unmarked_marked (hv : ∀ name ∈ voidNames, name ∉ preserved) :
    ∀ (n : Node) (literal : Bool) (depth : Nat) (parent : Text), n.isComment = false →
      unmarked (n.marked preserved literal depth parent) =
        n.dropComments.pieces preserved literal depth parent
  | .string kind t, literal, depth, parent, h => by
    have hk : kind ≠ .comment := by
      rintro rfl
      cases h
    rw [Node.dropComments, Node.marked, Node.pieces, unmarked_string, List.filter_eq_self]
    intro p hp
    simp [isComment_of_mem_stringPieces hp, hk]
  | .element name attributes content, literal, depth, parent, _ => by
    have ih := Node.unmarked_markedOf hv content (literal || preserved.contains name) (depth+1) name
    rw [Node.dropComments, Node.marked, Node.pieces, dropCommentsOf_isEmpty]
    by_cases hclosed : (voidNames.contains name && content.all (·.isComment)) = true
    · have hkept : preserved.contains name = false := by
        simp only [Bool.and_eq_true, List.contains_iff_mem] at hclosed
        simpa using hv name hclosed.1
      have hnone : Node.dropCommentsOf content = [] := by
        rw [← List.isEmpty_iff, dropCommentsOf_isEmpty]
        exact (Bool.and_eq_true_iff.1 hclosed).2
      rw [hkept, Bool.or_false] at ih
      rw [if_pos hclosed]
      split
      · rfl
      · simp only [hkept, Bool.or_false, hclosed, List.cons_append, unmarked_cons_false,
          unmarked_append, unmarked_cons_true, unmarked_nil, ih, hnone, Node.piecesOf,
          List.append_nil]
    · have hfilled : ¬ (voidNames.contains name && content.isEmpty) = true := by
        cases content with
        | nil => exact hclosed
        | cons n ns => simp
      rw [if_neg hclosed, if_neg hfilled, Bool.eq_false_iff.2 hclosed]
      simp only [List.cons_append, unmarked_cons_false, unmarked_append, unmarked_nil, ih]

theorem Node.unmarked_markedOf (hv : ∀ name ∈ voidNames, name ∉ preserved) :
    ∀ (ns : List Node) (literal : Bool) (depth : Nat) (parent : Text),
      unmarked (Node.markedOf preserved literal depth parent ns) =
        Node.piecesOf preserved literal depth parent (Node.dropCommentsOf ns)
  | [], _, _, _ => rfl
  | n :: ns, literal, depth, parent => by
    rw [Node.markedOf, unmarked_append, Node.unmarked_markedOf hv ns, Node.dropCommentsOf]
    cases h : n.isComment with
    | true => simp [unmarked_comment h]
    | false => simp [Node.unmarked_marked hv n literal depth parent h, Node.piecesOf]

end

/-- All comments are marked, and else only closing tags of void elements, right behind the comments
that are all that such an element holds. -/
structure MarksComments (ps : List (Piece × Bool)) : Prop where
  comment : ∀ p ∈ ps, p.1.isComment = true → p.2 = true
  closing : ∀ p, (p, true) ∈ ps → p.isComment = true ∨
    ∃ name attributes o cs, name ∈ voidNames ∧ o.text = openingTag name attributes ∧
      p.text = closingTag name ∧ (∀ c ∈ cs, c.1.isComment = true) ∧
      (o, false) :: cs ++ [(p, true)] <:+: ps

namespace MarksComments

variable {ps qs : List (Piece × Bool)}

theorem nil : MarksComments [] where
  comment _ h := absurd h List.not_mem_nil
  closing _ h := absurd h List.not_mem_nil

theorem append (hp : MarksComments ps) (hq : MarksComments qs) : MarksComments (ps ++ qs) where
  comment p h := by
    rcases List.mem_append.1 h with h | h
    · exact hp.comment p h
    · exact hq.comment p h
  closing p h := by
    rcases List.mem_append.1 h with h | h
    · refine (hp.closing p h).imp_right ?_
      rintro ⟨name, attributes, o, cs, hn, ho, ht, hcs, hi⟩
      exact ⟨name, attributes, o, cs, hn, ho, ht, hcs, hi.trans (List.prefix_append ..).isInfix⟩
    · refine (hq.closing p h).imp_right ?_
      rintro ⟨name, attributes, o, cs, hn, ho, ht, hcs, hi⟩
      exact ⟨name, attributes, o, cs, hn, ho, ht, hcs, hi.trans (List.suffix_append ..).isInfix⟩

theorem of_pieces (ps : List Piece) : MarksComments (ps.map fun p => (p, p.isComment)) where
  comment p h hc := by
    obtain ⟨q, -, rfl⟩ := List.mem_map.1 h
    exact hc
  closing p h := by
    obtain ⟨q, -, hq⟩ := List.mem_map.1 h
    rw [Prod.mk.injEq] at hq
    exact .inl (hq.1 ▸ hq.2)

end MarksComments

theorem isComment_of_mem_markedOf {ns : List Node} (h : ns.all (·.isComment) = true)
    {c : Piece × Bool} (hc : c ∈ Node.markedOf preserved literal depth parent ns) :
    c.1.isComment = true := by
  induction ns with
  | nil => exact absurd hc List.not_mem_nil
  | cons n ns ih =>
    rw [List.all_cons, Bool.and_eq_true] at h
    rw [Node.markedOf, List.mem_append] at hc
    rcases hc with hc | hc
    · cases n with
      | element name attributes content => cases h.1
      | string kind t =>
        cases kind <;> try cases h.1
        rw [Node.marked, List.mem_map] at hc
        obtain ⟨p, hp, rfl⟩ := hc
        exact isComment_of_mem_stringPieces hp
    · exact ih h.2 hc

/-- The tags of an element around what it holds. -/
theorem MarksComments.element {ps : List (Piece × Bool)} {o p : Piece} {closed : Bool}
    {name : Text} {attributes : List Attribute} (h : MarksComments ps)
    (ho : o.isComment = false) (hp : p.isComment = false)
    (hot : o.text = openingTag name attributes) (hpt : p.text = closingTag name)
    (hc : closed = true → name ∈ voidNames ∧ ∀ c ∈ ps, c.1.isComment = true) :
    MarksComments ((o, false) :: ps ++ [(p, closed)]) where
  comment q hq hqc := by
    simp only [List.cons_append, List.mem_cons, List.mem_append, List.not_mem_nil, or_false] at hq
    rcases hq with rfl | hq | rfl
    · simp [ho] at hqc
    · exact h.comment q hq hqc
    · simp [hp] at hqc
  closing q hq := by
    simp only [List.cons_append, List.mem_cons, List.mem_append, List.not_mem_nil, or_false,
      Prod.mk.injEq] at hq
    rcases hq with ⟨-, hf⟩ | hq | ⟨rfl, hclosed⟩
    · cases hf
    · refine (h.closing q hq).imp_right ?_
      rintro ⟨name', attributes', o', cs, hn, ho', ht, hcs, hi⟩
      exact ⟨name', attributes', o', cs, hn, ho', ht, hcs, hi.trans ⟨[(o, false)], [(p, closed)], rfl⟩⟩
    · obtain ⟨hn, hcs⟩ := hc hclosed.symm
      exact .inr ⟨name, attributes, o, ps, hn, hot, hpt, hcs, hclosed ▸ List.infix_rfl⟩

mutual

theorem Node.marksComments : ∀ (n : Node) (literal : Bool) (depth : Nat) (parent : Text),
    MarksComments (n.marked preserved literal depth parent)
  | .string kind t, literal, depth, parent => by
    rw [Node.marked]
    exact .of_pieces _
  | .element name attributes content, literal, depth, parent => by
    rw [Node.marked]
    split
    · exact .of_pieces [_]
    · refine .element (Node.marksCommentsOf content _ _ _) rfl rfl rfl rfl fun h => ?_
      rw [Bool.and_eq_true, List.contains_iff_mem] at h
      exact ⟨h.1, fun c hc => isComment_of_mem_markedOf h.2 hc⟩

theorem Node.marksCommentsOf : ∀ (ns : List Node) (literal : Bool) (depth : Nat) (parent : Text),
    MarksComments (Node.markedOf preserved literal depth parent ns)
  | [], _, _, _ => .nil
  | n :: ns, literal, depth, parent => by
    rw [Node.markedOf]
    exact (Node.marksComments n _ _ _).append (Node.marksCommentsOf ns _ _ _)

end

end Markup

namespace Layout

open Markup

/-- The pieces of HTML, with the marks of those that go with the comments. -/
def marked (indentCdata : Bool) (html : Text) : Except Rejection (List (Piece × Bool)) :=
  (scan html).map fun tokens =>
    Node.markedOf (preservedNames indentCdata) false 0 []
      (build (preservedNames indentCdata) tokens)

theorem voidName_not_preserved (indentCdata : Bool) :
    ∀ name ∈ voidNames, name ∉ preservedNames indentCdata := by
  cases indentCdata <;> decide

theorem pieces_eq_marked (indentCdata stripComments : Bool) (html : Text) :
    pieces indentCdata stripComments html = (marked indentCdata html).map fun ps =>
      (ps.filter fun p => !(stripComments && p.2)).map Prod.fst := by
  rw [pieces, marked]
  cases scan html with
  | error r => rfl
  | ok tokens =>
    cases stripComments with
    | true =>
      exact congrArg Except.ok
        (Node.unmarked_markedOf (voidName_not_preserved indentCdata) _ _ _ _).symm
    | false =>
      have hall (ps : List (Piece × Bool)) : ps.filter (fun p => !(false && p.2)) = ps :=
        List.filter_eq_self.2 fun _ _ => rfl
      simp only [Except.map, hall, Node.markedOf_fst, Bool.false_eq_true, ↓reduceIte]

theorem marksComments_of_marked {indentCdata : Bool} {html : Text} {ps : List (Piece × Bool)}
    (h : marked indentCdata html = .ok ps) : MarksComments ps := by
  rw [marked] at h
  cases hs : scan html with
  | error r =>
    rw [hs] at h
    cases h
  | ok tokens =>
    rw [hs] at h
    cases h
    exact Node.marksCommentsOf _ _ _ _

theorem format_of_marked {html : Text} {o : FormatOptions} {ps : List (Piece × Bool)}
    (ha : o.indentAttributes = false) (hm : marked o.indentCdata html = .ok ps) :
    (format html o).value = .formatted (Text.trimEnd (· = '\n')
      ((ps.filter fun p => !(o.stripComments && p.2)).flatMap (·.1.render o.unit))) := by
  rw [format_of_pieces ha (by rw [pieces_eq_marked, hm]; rfl), List.flatMap_map]

/-- Neither the pieces nor their marks depend on the indentation or on what becomes of the comments.
The one is what stands before a piece, and the other is whether those with a mark are printed. -/
theorem format_eq_marked (html : Text) (indentCdata : Bool) :
    (∃ r, marked indentCdata html = .error r ∧
      ∀ o : FormatOptions, o.indentAttributes = false → o.indentCdata = indentCdata →
        (format html o).value = .refused (rejectionMessage r)) ∨
    ∃ ps, marked indentCdata html = .ok ps ∧ MarksComments ps ∧
      ∀ o : FormatOptions, o.indentAttributes = false → o.indentCdata = indentCdata →
        (format html o).value = .formatted (Text.trimEnd (· = '\n')
          ((ps.filter fun p => !(o.stripComments && p.2)).flatMap (·.1.render o.unit))) := by
  cases hm : marked indentCdata html with
  | error r =>
    refine .inl ⟨r, rfl, fun o ha hc => ?_⟩
    exact format_of_rejection ha (by rw [pieces_eq_marked, hc, hm]; rfl)
  | ok ps =>
    exact .inr ⟨ps, rfl, marksComments_of_marked hm, fun o ha hc => format_of_marked ha (hc ▸ hm)⟩

/-- The second of the breaks does not close, so the comment stands in it. -/
theorem marked_breaks : marked false "<br><br/><!--x-->" = .ok [
    (⟨0, "<br>", false, true, true⟩, false), (⟨0, "<br>", false, true, true⟩, false),
    (⟨1, "<!--x-->", true, true, true⟩, true), (⟨0, "</br>", false, true, true⟩, true)] := by
  have tokens : scan "<br><br/><!--x-->" = .ok [.start ⟨['b', 'r'], [], false⟩,
      .start ⟨['b', 'r'], [], true⟩, .string .comment ['x']] := rfl
  have tree : build (preservedNames false) [.start ⟨['b', 'r'], [], false⟩,
      .start ⟨['b', 'r'], [], true⟩, .string .comment ['x']] =
        [.element ['b', 'r'] [] [], .element ['b', 'r'] [] [.string .comment ['x']]] := rfl
  rw [marked, tokens, Except.map, tree]
  rfl

/-- Tabs and the comment change nothing about the pieces of the two breaks. -/
theorem format_eq_marked_breaks : ∃ ps, marked false "<br><br/><!--x-->" = .ok ps ∧
    MarksComments ps ∧
    (format "<br><br/><!--x-->" { useTabs := true }).value =
      .formatted "<br>\n<br>\n\t<!--x-->\n</br>" ∧
    (format "<br><br/><!--x-->" { useTabs := true, stripComments := true }).value =
      .formatted "<br>\n<br>" := by
  rcases format_eq_marked "<br><br/><!--x-->" false with ⟨r, hr, -⟩ | ⟨ps, hps, marks, printed⟩
  · rw [marked_breaks] at hr
    cases hr
  · rw [marked_breaks] at hps
    cases hps
    exact ⟨_, marked_breaks, marks, (printed _ rfl rfl).trans rfl, (printed _ rfl rfl).trans rfl⟩

/-- The text without its line feeds. -/
def lineless (t : Text) : Text := t.filter (· ≠ '\n')

theorem lineless_trimEnd (t : Text) : lineless (Text.trimEnd (· = '\n') t) = lineless t := by
  have hdrop (l : Text) : lineless (l.dropWhile (· = '\n')) = lineless l := by
    induction l with
    | nil => rfl
    | cons x l ih =>
      rw [List.dropWhile_cons]
      split
      · next hx =>
        rw [ih, lineless, lineless, List.filter_cons]
        simp [of_decide_eq_true hx]
      · rfl
  rw [Text.trimEnd, lineless, List.filter_reverse, ← lineless, hdrop, lineless,
    ← List.filter_reverse, List.reverse_reverse, lineless]

theorem format_breaks :
    (format "<br><br/><!--x-->" {}).value = .formatted "<br>\n<br>\n  <!--x-->\n</br>" ∧
      (format "<br><br/><!--x-->" { stripComments := true }).value =
        .formatted "<br>\n<br>" := by
  constructor
  · rw [format_of_marked rfl marked_breaks]
    rfl
  · rw [format_of_marked rfl marked_breaks]
    rfl

theorem text_sublist_render {p : Piece} {ps : List Piece} (hp : p ∈ ps) (unit : Text) :
    p.text.Sublist (ps.flatMap (·.render unit)) := by
  have hrender : (p.render unit).Sublist (ps.flatMap (·.render unit)) :=
    List.sublist_flatten_of_mem (List.mem_map_of_mem hp)
  refine List.Sublist.trans ?_ hrender
  exact (List.sublist_append_right ..).trans (List.sublist_append_left ..)

/-- Only blanks are printed around the text of a piece. -/
theorem mem_text_of_mem_render {p : Piece} {x : Char} (hb : x ≠ ' ') (hl : x ≠ '\n')
    (h : x ∈ p.render [' ', ' ']) : x ∈ p.text := by
  simp only [Piece.render, List.mem_append] at h
  rcases h with (h | h) | h
  · split at h
    · obtain ⟨u, hu, h⟩ := List.mem_flatten.1 h
      rw [List.eq_of_mem_replicate hu] at h
      simp [hb] at h
    · exact absurd h List.not_mem_nil
  · exact h
  · split at h
    · exact absurd (List.mem_singleton.1 h) hl
    · exact absurd h List.not_mem_nil

/-- Behind a slash in a comment comes the end of the comment. -/
theorem slash_before_end {t : Text} (h : '/' ∈ ("<!--" : Text) ++ t ++ ("-->" : Text)) :
    ['/', '-'].Sublist (("<!--" : Text) ++ t ++ ("-->" : Text)) := by
  simp only [List.mem_append] at h
  have ht : '/' ∈ t := by
    rcases h with (h | h) | h
    · exact absurd h (by decide)
    · exact h
    · exact absurd h (by decide)
  have hdash : ['-'].Sublist ("-->" : Text) := by decide
  rw [List.append_assoc]
  exact ((List.singleton_sublist.2 ht).append hdash).trans (List.sublist_append_right ..)

/-- A closing tag goes with the comment in front of it, and it is no part of that comment. -/
theorem closing_tag_goes_with_comment :
    ¬ ∃ ps : List Piece,
      (∀ p ∈ ps, p.isComment = true → ∃ t, p.text = ("<!--" : Text) ++ t ++ ("-->" : Text)) ∧
      ∀ o : FormatOptions, o.indentAttributes = false → o.indentCdata = false →
        (format "<br><br/><!--x-->" o).value = .formatted (Text.trimEnd (· = '\n')
          ((ps.filter fun p => !(o.stripComments && p.isComment)).flatMap
            (·.render o.unit))) := by
  rintro ⟨ps, hcomment, h⟩
  have full : lineless "<br>\n<br>\n  <!--x-->\n</br>" =
      lineless (ps.flatMap (·.render [' ', ' '])) := by
    have hall : ps.filter (fun p => !(false && p.isComment)) = ps :=
      List.filter_eq_self.2 fun _ _ => rfl
    have hf := FormatResult.formatted.inj (format_breaks.1.symm.trans (h {} rfl rfl))
    rw [hf, lineless_trimEnd]
    exact congrArg (fun ps => lineless (ps.flatMap (Piece.render [' ', ' ']))) hall
  have bare : lineless "<br>\n<br>" =
      lineless ((ps.filter (!·.isComment)).flatMap (·.render [' ', ' '])) := by
    have hb := FormatResult.formatted.inj
      (format_breaks.2.symm.trans (h { stripComments := true } rfl rfl))
    rw [hb, lineless_trimEnd]
    rfl
  have hslash : '/' ∈ lineless (ps.flatMap (·.render [' ', ' '])) := by
    rw [← full]
    decide
  obtain ⟨p, hp, hin⟩ := List.mem_flatMap.1 (List.mem_filter.1 hslash).1
  cases hc : p.isComment with
  | false =>
    -- the slash of the closing tag would be left without the comments
    have hkept : p ∈ ps.filter (!·.isComment) := List.mem_filter.2 ⟨hp, by rw [hc]; rfl⟩
    have hleft : '/' ∈ lineless ((ps.filter (!·.isComment)).flatMap (·.render [' ', ' '])) :=
      List.mem_filter.2 ⟨List.mem_flatMap.2 ⟨p, hkept, hin⟩, rfl⟩
    rw [← bare] at hleft
    exact absurd hleft (by decide)
  | true =>
    -- the slash would stand in the comment, and so before the end of one
    obtain ⟨t, ht⟩ := hcomment p hp hc
    have htext : '/' ∈ p.text := mem_text_of_mem_render (by decide) (by decide) hin
    have hend : ['/', '-'].Sublist p.text := by
      rw [ht] at htext ⊢
      exact slash_before_end htext
    have hlaid : (lineless ['/', '-']).Sublist (lineless "<br>\n<br>\n  <!--x-->\n</br>") :=
      full ▸ (hend.trans (text_sublist_render hp _)).filter _
    exact absurd hlaid (by decide)

end Layout

end CurlyMarkup
