import CurlyMarkup.Tree.Html
set_option autoImplicit false

namespace CurlyMarkup

/-- What is pending later does not change how the first things are written. -/
theorem Pending.html_append (ps qs : List Pending) :
    Pending.html (ps ++ qs) = Pending.html ps ++ Pending.html qs := by
  fun_induction Pending.html ps with
  | case1 => rfl
  | case2 tag rest ih => rw [List.cons_append, Pending.html, ih, List.cons_append]
  | case3 t rest ih => rw [List.cons_append, Pending.html, ih, List.cons_append]
  | case4 h content rest hv ih =>
    rw [List.cons_append, Pending.html, if_pos hv, ih, List.cons_append]
  | case5 h content rest hv ih =>
    rw [List.cons_append, Pending.html, if_neg hv, List.cons_append, ← ih, List.append_assoc,
      List.cons_append]

namespace Node

theorem html_nodes (ns : List Node) :
    (Pending.html (Pending.nodes ns)).flatten = ns.flatMap html := by
  induction ns with
  | nil => simp [Pending.nodes, Pending.html]
  | cons n ns ih =>
    have hn : Pending.nodes (n :: ns) = [.node n] ++ Pending.nodes ns := rfl
    rw [hn, Pending.html_append, List.flatten_append, ih, List.flatMap_cons, html]

theorem html_text (t : Text) : (text t).html = t := by
  simp [html, Pending.html]

theorem html_void {h : Head} (hv : h.name = voidName) (content : List Node) :
    (element h content).html = "<br>" := by
  simp [html, Pending.html, hv]

theorem html_element {h : Head} (hv : h.name ≠ voidName) (content : List Node) :
    (element h content).html = h.openingTag ++ content.flatMap html ++ h.closingTag := by
  rw [html, Pending.html, if_neg hv, List.flatten_cons, Pending.html_append, List.flatten_append,
    html_nodes]
  simp [Pending.html]

end Node

/-- What an opening tag says behind the name of the element: its id, its classes in one, and then
its attributes, repeated ones too. -/
def Head.segments (h : Head) : List Text :=
  (h.id.elim [] fun i => [("id=\"" : Text) ++ i ++ ("\"" : Text)]) ++
  (match h.classes.getD [] with
    | [] => []
    | cs => [("class=\"" : Text) ++ (" " : Text).intercalate cs ++ ("\"" : Text)]) ++
  (h.attributes.getD []).map fun a => a.name ++ ("=\"" : Text) ++ a.value ++ ("\"" : Text)

mutual

/-- The node written by recursion, tags around what is inside. -/
def Node.written : Node → Text
  | .text t => t
  | .element h content =>
    if h.name = voidName then "<br>"
    else if h.name = doctypeName then ("<!DOCTYPE " : Text) ++ Node.writtenOf content ++ (">" : Text)
    else
      ("<" : Text) ++ h.name ++ h.segments.flatMap (' ' :: ·) ++ (">" : Text) ++
        Node.writtenOf content ++ ("</" : Text) ++ h.name ++ (">" : Text)

def Node.writtenOf : List Node → Text
  | [] => []
  | n :: ns => n.written ++ Node.writtenOf ns

end

theorem Head.map_html_pairs (h : Head) : h.pairs.map Attribute.html = h.segments := by
  obtain ⟨name, id, classes, attributes⟩ := h
  rw [pairs, segments, List.map_append, List.map_append]
  congr 1
  congr 1
  · cases id <;> rfl
  · rcases classes with _ | _ | ⟨c, cs⟩ <;> rfl

theorem Head.openingTag_eq {h : Head} (hd : h.name ≠ doctypeName) :
    h.openingTag = ("<" : Text) ++ h.name ++ h.segments.flatMap (' ' :: ·) ++ (">" : Text) := by
  rw [openingTag, if_neg hd, ← h.map_html_pairs, List.flatMap_map]
  rfl

/-- What is still to be written, by recursion. -/
def Pending.written : Pending → Text
  | .node n => n.written
  | .closing tag => tag

namespace Pending

theorem written_nodes (ns : List Node) :
    (nodes ns).flatMap written = Node.writtenOf ns := by
  induction ns with
  | nil => rfl
  | cons n ns ih => rw [nodes, List.flatMap_cons, ih, written, Node.writtenOf]

/-- Whatever is pending is written in its order, each node as by recursion. -/
theorem flatten_html (ps : List Pending) : (html ps).flatten = ps.flatMap written := by
  fun_induction html ps with
  | case1 => rfl
  | case2 tag rest ih => rw [List.flatten_cons, ih, List.flatMap_cons, written]
  | case3 t rest ih => rw [List.flatten_cons, ih, List.flatMap_cons, written, Node.written]
  | case4 h content rest hv ih =>
    rw [List.flatten_cons, ih, List.flatMap_cons, written, Node.written, if_pos hv]
  | case5 h content rest hv ih =>
    rw [List.flatten_cons, ih, List.flatMap_append, written_nodes, List.flatMap_cons,
      List.flatMap_cons, written, written, Node.written, if_neg hv]
    -- a document type has tags of its own
    by_cases hd : h.name = doctypeName
    · rw [if_pos hd, Head.openingTag, Head.closingTag, if_pos hd, if_pos hd]
      simp only [List.append_assoc]
    · rw [if_neg hd, Head.openingTag_eq hd, Head.closingTag, if_neg hd]
      simp

end Pending

/-- Writing from a list of what is pending gives the text that the recursion gives. -/
theorem Node.html_eq_written (n : Node) : n.html = n.written := by
  rw [html, Pending.flatten_html, List.flatMap_singleton, Pending.written]

end CurlyMarkup
