import CurlyMarkup.Proofs.DumpedTrees
import CurlyMarkup.Proofs.Outcomes
import CurlyMarkup.Proofs.Printing
set_option autoImplicit false

/-!
Reading in which every value is handed to the reader of its model as soon as it is made. No model
refuses what the grammar has made, so the reading is the one without models.
-/

namespace CurlyMarkup

theorem Head.WellFormed.named {h : Head} (w : h.WellFormed) : h.Named :=
  ⟨w.name.ne_nil, fun as has a ha => (w.attributes as has a ha).ne_nil⟩

theorem Node.WellFormed.named {n : Node} (w : n.WellFormed) : n.Named := by
  induction w with
  | text t => exact .text t
  | element head _ ih => exact .element head.named ih

/-- A rule whose run breaks off where a model refuses a value. -/
abbrev Guarded (α : Type) := Cursor → Checked (Result α)

namespace Guarded

section

variable {α β γ : Type}

def of (r : Rule α) : Guarded α := fun c => .ok (r.run c)

def andThen (x : Checked (Result α)) (f : α → Cursor → Checked (Result β)) : Checked (Result β) :=
  x.bind fun
    | .ok a c => f a c
    | .fail e => .ok (.fail e)
    | .endless => .ok .endless

/-- What has been read is handed on, and may be refused. -/
def make (check : α → Checked β) (g : Guarded α) : Guarded β := fun c =>
  andThen (g c) fun a d => (check a).map fun b => .ok b d

def map (f : α → β) (g : Guarded α) : Guarded β := make (fun a => .ok (f a)) g

def pair (g : Guarded α) (h : Guarded β) : Guarded (α × β) := fun c =>
  andThen (g c) fun a d => (h d).map (·.map (a, ·))

def preceded (g : Guarded α) (h : Guarded β) : Guarded β := map Prod.snd (pair g h)

def terminated (g : Guarded α) (h : Guarded β) : Guarded α := map Prod.fst (pair g h)

def delimited (g : Guarded α) (h : Guarded β) (k : Guarded γ) : Guarded β :=
  preceded g (terminated h k)

/-- An uncommitted failure is followed by `h` at the same place. -/
def orElse (g h : Guarded α) : Guarded α := fun c =>
  (g c).bind fun
    | .ok a d => .ok (.ok a d)
    | .fail e => if e.committed then .ok (.fail e) else h c
    | .endless => .ok .endless

def relabel (expected : Text) (g : Guarded α) : Guarded α := orElse g (of (.refuse expected))

def optional (g : Guarded α) : Guarded (Option α) := orElse (map some g) (of (.succeed none))

def commit (g : Guarded α) : Guarded α := fun c => (g c).map (·.mapFailure Failure.commit)

def blame (k : Construct) (g : Guarded α) : Guarded α := fun c =>
  (g c).map (·.mapFailure (·.blame k))

/-- Rounds of a separator and an item, one more at most than `bound` is long. -/
def rounds (item : Guarded α) (separator : Guarded β) (bound : Text) : Guarded (List α) := fun c =>
  (pair separator item c).bind fun
    | .ok (_, a) d =>
      match bound with
      | [] => .ok .endless
      | _ :: bound => (rounds item separator bound d).map (·.map (a :: ·))
    | .fail e => .ok (if e.committed then .fail e else .ok [] c)
    | .endless => .ok .endless

def separated (item : Guarded α) (separator : Guarded β) : Guarded (List α) := fun c =>
  (item c).bind fun
    | .ok a d => (rounds item separator d.rest d).map (·.map (a :: ·))
    | .fail e => .ok (if e.committed then .fail e else .ok [] c)
    | .endless => .ok .endless

end

def attributePair : Guarded Attribute :=
  make (fun (name, value) => readAttribute (Attribute.datum ⟨name, value⟩))
    (pair (of Grammar.attributeName) (of (.commit Grammar.attributeValue)))

def attributeList : Guarded (List Attribute) :=
  delimited (of Rule.blanks) (separated attributePair (of (Rule.blanks1 "whitespace")))
    (of (.pair Rule.blanks (.literal "]" "attribute or closing bracket ']'")))

def attributes : Guarded (List Attribute) := preceded (of (Rule.token "[")) (commit attributeList)

def selectors : Guarded (Option Text × List Text × Option (List Attribute)) :=
  terminated
    (pair (of (.optional Grammar.id))
      (pair (of Grammar.classes) (preceded (of Rule.blanks) (optional attributes))))
    (of (.pair Rule.blanks Grammar.openingBrace))

/-- The head of an open element is not a value of any model. -/
def head : Guarded Head :=
  map (fun (name, id, classes, attributes) =>
    ⟨name, id, if classes.isEmpty then none else some classes, attributes⟩)
    (pair (of Grammar.tagName) (blame .element (commit selectors)))

def leaf : Guarded (Turn Head Node) :=
  make (fun t => (readPlainDatum (.object [("text", .string t)])).map fun t => .leaf (.text t))
    (of Grammar.string)

def turn : Guarded (Turn Head Node) :=
  preceded (of Rule.blanks) <|
    orElse (map .opened head) <|
    orElse leaf <|
    of ((Rule.commit (.blame .element Grammar.closingBrace)).map fun _ => .closed)

/-- Turns inside an open element; the element is made when it is closed. -/
def turns (bound : Text) (head : Head) (items : List Node) (outer : List (Head × List Node)) :
    Guarded Element := fun c =>
  (turn c).bind fun
    | .ok .closed d =>
      (readElementDatum (.object (Element.given ⟨head, items.reverse⟩))).bind fun e =>
        match outer, bound with
        | [], _ => .ok (.ok e d)
        | _ :: _, [] => .ok .endless
        | (h, is) :: outer, _ :: bound => turns bound h (e.toNode :: is) outer d
    | .ok (.leaf x) d =>
      match bound with
      | [] => .ok .endless
      | _ :: bound => turns bound head (x :: items) outer d
    | .ok (.opened h) d =>
      match bound with
      | [] => .ok .endless
      | _ :: bound => turns bound h [] ((head, items) :: outer) d
    | .fail e => .ok (.fail e)
    | .endless => .ok .endless

def element : Guarded Element := fun c => andThen (head c) fun h d => turns d.rest h [] [] d

def rootOnly (expected : Text) : Guarded Element :=
  delimited (of Rule.blanks) (blame .element (relabel "root element" element))
    (of (.pair Rule.blanks (.blame .element (.endOfText expected))))

def document : Guarded Document :=
  make (fun (doctype, root) => readDocumentDatum (Document.datum ⟨doctype, root⟩))
    (pair (of (Rule.preceded Rule.blanks Grammar.doctype))
      (rootOnly "end of input after the root element"))

section

variable {α β γ : Type}

/-- The run is that of the rule, and no model refuses anything on the way. -/
def Agrees (g : Guarded α) (r : Rule α) : Prop := ∀ c, g c = .ok (r.run c)

theorem andThen_ok (r : Result α) (f : α → Cursor → Checked (Result β))
    (k : α → Cursor → Result β) (h : ∀ a d, r = .ok a d → f a d = .ok (k a d)) :
    andThen (.ok r) f = .ok (r.bind k) := by
  cases r with
  | ok a d => exact h a d rfl
  | fail => rfl
  | endless => rfl

namespace Agrees

variable {g : Guarded α} {r : Rule α} {h : Guarded β} {s : Rule β} {k : Guarded γ} {t : Rule γ}

theorem of (r : Rule α) : (of r).Agrees r := fun _ => rfl

theorem make {check : α → Checked β} {f : α → β} (hg : g.Agrees r)
    (hf : ∀ c a d, r.run c = .ok a d → check a = .ok (f a)) : (make check g).Agrees (r.map f) := by
  intro c
  rw [Guarded.make, hg, Rule.run_map, Result.map_eq_bind]
  refine andThen_ok _ _ _ fun a d hr => ?_
  rw [hf c a d hr]
  rfl

theorem map (f : α → β) (hg : g.Agrees r) : (map f g).Agrees (r.map f) :=
  hg.make fun _ _ _ _ => rfl

theorem pair (hg : g.Agrees r) (hh : h.Agrees s) : (pair g h).Agrees (.pair r s) := by
  intro c
  rw [Guarded.pair, hg]
  refine andThen_ok _ _ _ fun a d _ => ?_
  rw [hh]
  rfl

theorem preceded (hg : g.Agrees r) (hh : h.Agrees s) : (preceded g h).Agrees (.preceded r s) :=
  .map _ (.pair hg hh)

theorem terminated (hg : g.Agrees r) (hh : h.Agrees s) :
    (terminated g h).Agrees (.terminated r s) := .map _ (.pair hg hh)

theorem delimited (hg : g.Agrees r) (hh : h.Agrees s) (hk : k.Agrees t) :
    (delimited g h k).Agrees (.delimited r s t) := .preceded hg (.terminated hh hk)

theorem orElse {g' : Guarded α} {r' : Rule α} (hg : g.Agrees r) (hg' : g'.Agrees r') :
    (orElse g g').Agrees (.orElse r r') := by
  intro c
  rw [Guarded.orElse, hg, Rule.run_orElse]
  cases r.run c with
  | ok => rfl
  | fail e => cases he : e.committed <;> simp [Except.bind, he, hg' c]
  | endless => rfl

theorem relabel (expected : Text) (hg : g.Agrees r) :
    (relabel expected g).Agrees (.relabel expected r) := .orElse hg (.of _)

theorem optional (hg : g.Agrees r) : (optional g).Agrees (.optional r) :=
  .orElse (.map _ hg) (.of _)

theorem commit (hg : g.Agrees r) : (commit g).Agrees r.commit := by
  intro c
  rw [Guarded.commit, hg]
  rfl

theorem blame (k : Construct) (hg : g.Agrees r) : (blame k g).Agrees (r.blame k) := by
  intro c
  rw [Guarded.blame, hg]
  rfl

theorem rounds (hg : g.Agrees r) (hh : h.Agrees s) (bound : Text) (c : Cursor) :
    rounds g h bound c = .ok (Result.separated r.run s.run bound c) := by
  induction bound generalizing c with
  | nil =>
    rw [Guarded.rounds, Result.separated, Agrees.pair hh hg, Rule.run_pair]
    cases hs : s.run c with
    | ok b d => cases hr : r.run d <;> simp [Except.bind, hr]
    | fail => rfl
    | endless => rfl
  | cons x bound ih =>
    rw [Guarded.rounds, Result.separated, Agrees.pair hh hg, Rule.run_pair]
    cases hs : s.run c with
    | ok b d => cases hr : r.run d <;> simp [Except.bind, Except.map, hr, ih]
    | fail => rfl
    | endless => rfl

theorem separated (hg : g.Agrees r) (hh : h.Agrees s) :
    (separated g h).Agrees (.separated r s) := by
  intro c
  rw [Guarded.separated, hg, Rule.run_separated]
  cases r.run c with
  | ok a d => simp [Except.bind, Except.map, hg.rounds hh]
  | fail => rfl
  | endless => rfl

end Agrees

end

/-! No name that the grammar reads is empty. -/

/-- What a turn adds to a tree has no empty names. -/
def NamedTurn : Turn Head Node → Prop
  | .opened h => h.Named
  | .leaf n => n.Named
  | .closed => True

theorem attribute_named {c d : Cursor} {a : Attribute}
    (hr : Grammar.attributePair.run c = .ok a d) : a.Named := by
  obtain ⟨s, -, -, hw⟩ := Grammar.attributePair_follows.of_run hr
  exact hw.name_word.ne_nil

theorem head_named {c d : Cursor} {h : Head} (hr : Grammar.head.run c = .ok h d) : h.Named := by
  obtain ⟨s, -, -, hw⟩ := Grammar.head_follows.of_run hr
  exact hw.wellFormed.named

theorem document_named {c d : Cursor} {x : Document} (hr : Grammar.document.run c = .ok x d) :
    x.root.Named := by
  obtain ⟨s, -, -, _, _, _, he, _⟩ := Grammar.document_follows.of_run hr
  exact Node.WellFormed.named he.wellFormed

theorem turn_named {c d : Cursor} {t : Turn Head Node} (hr : Grammar.turn.run c = .ok t d) :
    NamedTurn t := by
  rw [Grammar.run_turn] at hr
  cases hh : Grammar.head.run c.skipBlanks with
  | ok h e =>
    simp only [hh, Result.map_ok, Result.recover_ok, Result.ok.injEq] at hr
    rw [← hr.1]
    exact head_named hh
  | fail f =>
    simp only [hh, Result.map_fail, Result.recover_fail] at hr
    split at hr
    · cases hr
    cases hs : Grammar.string.run c.skipBlanks with
    | ok s e =>
      simp only [hs, Result.map_ok, Result.recover_ok, Result.ok.injEq] at hr
      rw [← hr.1]
      exact .text s
    | fail f =>
      simp only [hs, Result.map_fail, Result.recover_fail] at hr
      split at hr
      · cases hr
      cases hk : (Rule.commit (.blame .element Grammar.closingBrace)).run c.skipBlanks with
      | ok s e =>
        simp only [hk, Result.map_ok, Result.ok.injEq] at hr
        rw [← hr.1]
        trivial
      | fail => simp [hk] at hr
      | endless => simp [hk] at hr
    | endless => simp [hs] at hr
  | endless => simp [hh] at hr

theorem attributePair_agrees : attributePair.Agrees Grammar.attributePair := by
  refine .make (.pair (.of _) (.of _)) ?_
  rintro c ⟨name, value⟩ d hr
  have named : Attribute.Named ⟨name, value⟩ :=
    attribute_named (c := c) (d := d) (by rw [Grammar.attributePair, Rule.run_map, hr]; rfl)
  exact named.readAttribute_datum

theorem attributeList_agrees : attributeList.Agrees Grammar.attributeList :=
  .delimited (.of _) (.separated attributePair_agrees (.of _)) (.of _)

theorem attributes_agrees : attributes.Agrees Grammar.attributes :=
  .preceded (.of _) (.commit attributeList_agrees)

theorem selectors_agrees : selectors.Agrees Grammar.selectors :=
  .terminated (.pair (.of _) (.pair (.of _) (.preceded (.of _) (.optional attributes_agrees))))
    (.of _)

theorem head_agrees : head.Agrees Grammar.head :=
  .map _ (.pair (.of _) (.blame _ (.commit selectors_agrees)))

theorem leaf_agrees : leaf.Agrees (Grammar.string.map fun t => .leaf (.text t)) :=
  .make (.of _) fun _ _ _ _ => rfl

theorem turn_agrees : turn.Agrees Grammar.turn :=
  .preceded (.of _) (.orElse (.map _ head_agrees) (.orElse leaf_agrees (.of _)))

/-- An open element without empty names; its items are kept last first. -/
structure NamedOpen (p : Head × List Node) : Prop where
  head : p.1.Named
  items : ∀ n ∈ p.2, n.Named

theorem NamedOpen.cons {h : Head} {items : List Node} {n : Node} (w : NamedOpen (h, items))
    (hn : n.Named) : NamedOpen (h, n :: items) := ⟨w.head, List.forall_mem_cons.2 ⟨hn, w.items⟩⟩

theorem NamedOpen.made {h : Head} {items : List Node} (w : NamedOpen (h, items)) :
    Element.Named ⟨h, items.reverse⟩ := by
  refine .element w.head fun n hn => w.items n ?_
  simpa using hn

/-- No model refuses an element that is closed, at any depth. -/
theorem turns_eq (bound : Text) (h : Head) (items : List Node) (outer : List (Head × List Node))
    (c : Cursor) (w : NamedOpen (h, items)) (k : ∀ p ∈ outer, NamedOpen p) :
    turns bound h items outer c =
      .ok ((Result.nested Grammar.turn.run .element bound h items outer c).map
        fun (h, content) => ⟨h, content⟩) := by
  induction bound generalizing h items outer c with
  | nil =>
    rw [turns, Result.nested, turn_agrees]
    cases Grammar.turn.run c with
    | ok t d =>
      cases t with
      | closed => cases outer <;> simp [Except.bind, w.made.readElementDatum_given]
      | leaf n => rfl
      | opened g => rfl
    | fail => rfl
    | endless => rfl
  | cons x bound ih =>
    rw [turns, Result.nested, turn_agrees]
    cases ht : Grammar.turn.run c with
    | ok t d =>
      have hnamed := turn_named ht
      cases t with
      | closed =>
        cases outer with
        | nil => simp [Except.bind, w.made.readElementDatum_given]
        | cons p outer =>
          obtain ⟨hp, houter⟩ := List.forall_mem_cons.1 k
          simp only [Except.bind, w.made.readElementDatum_given]
          exact ih _ _ _ d (hp.cons w.made) houter
      | leaf n => exact ih _ _ _ d (w.cons hnamed) k
      | opened g =>
        have hopen : NamedOpen (g, []) := ⟨hnamed, by simp⟩
        exact ih _ _ _ d hopen (List.forall_mem_cons.2 ⟨w, k⟩)
    | fail => rfl
    | endless => rfl

theorem element_agrees : element.Agrees Grammar.element := by
  intro c
  rw [element, head_agrees, Grammar.run_element]
  refine andThen_ok _ _ _ fun h d hr => ?_
  exact turns_eq _ h [] [] d ⟨head_named hr, by simp⟩ (by simp)

theorem rootOnly_agrees (expected : Text) :
    (rootOnly expected).Agrees (Grammar.rootOnly expected) :=
  .delimited (.of _) (.blame _ (.relabel _ element_agrees)) (.of _)

theorem document_agrees : document.Agrees Grammar.document := by
  refine .make (.pair (.of _) (rootOnly_agrees _)) ?_
  rintro c ⟨doctype, root⟩ d hr
  have named : Element.Named (Document.mk doctype root).root :=
    document_named (c := c) (d := d) (by rw [Grammar.document, Rule.run_map, hr]; rfl)
  exact Document.readDocumentDatum_datum named

end Guarded

end CurlyMarkup
