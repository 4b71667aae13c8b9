import CurlyMarkup.Proofs.ErrorPosition
import CurlyMarkup.Proofs.Failures
set_option autoImplicit false

namespace CurlyMarkup

/-- One of the tokens stands at the cursor. -/
def Cursor.Begins (c : Cursor) (T : Text → Prop) : Prop := ∃ w d, T w ∧ c.Reads w d

/-- One character of a class, as a token. -/
def OneOf (p : Char → Bool) (w : Text) : Prop := ∃ x, p x = true ∧ w = [x]

namespace Cursor

variable {c d : Cursor} {p : Char → Bool} {x : Char}

theorem begins_oneOf : c.Begins (OneOf p) ↔ ¬ c.Stops p := by
  constructor
  · rintro ⟨w, d, ⟨x, hx, rfl⟩, h⟩ hs
    have hp : p x = false := hs x (peek_eq_some.2 ⟨d.rest, h.rest_eq⟩)
    simp [hx] at hp
  · intro hs
    simp only [Stops, not_forall, Bool.not_eq_false] at hs
    obtain ⟨x, hc, hx⟩ := hs
    obtain ⟨t, ht⟩ := peek_eq_some.1 hc
    exact ⟨[x], _, ⟨x, hx, rfl⟩, .of_rest ht⟩

/-- A character at the cursor is one of the class or not. -/
theorem not_begins_oneOf (h : c.Begins (· = [x])) (hx : p x = false) : ¬ c.Begins (OneOf p) := by
  obtain ⟨w, d, rfl, hd⟩ := h
  rw [begins_oneOf, Classical.not_not]
  exact .of_cons hd.rest_eq hx

theorem Reads.leadsTo {w : Text} (h : c.Reads w d) : c.LeadsTo d := by
  have hlength := h.length
  cases w with
  | nil => exact .inl h.eq_of_nil
  | cons x w =>
    refine .inr ⟨by rw [h.eq_skip]; rfl, ?_⟩
    simp only [List.length_cons] at hlength
    omega

end Cursor

/-- The result does not stand before the cursor, and it is not tried in another way if it is a
failure. -/
def Result.SettledFrom {α : Type} (d : Cursor) : Result α → Prop
  | .ok _ e => d.LeadsTo e
  | .fail f => f.committed = true ∧ d.LeadsTo f.cursor
  | .endless => True

namespace Result.SettledFrom

variable {α β : Type} {d e : Cursor} {r : Result α}

theorem before (h : r.SettledFrom e) (hd : d.LeadsTo e) : r.SettledFrom d := by
  cases r with
  | ok a c => exact hd.trans h
  | fail f => exact ⟨h.1, hd.trans h.2⟩
  | endless => trivial

theorem map (g : α → β) (h : r.SettledFrom d) : (r.map g).SettledFrom d := by
  cases r <;> exact h

theorem blame (k : Construct) (h : r.SettledFrom d) :
    (r.mapFailure (·.blame k)).SettledFrom d := by
  cases r <;> exact h

theorem bind {next : α → Cursor → Result β} (h : r.SettledFrom d)
    (hn : ∀ a e, (next a e).SettledFrom e) : (r.bind next).SettledFrom d := by
  cases r with
  | ok a e => exact (hn a e).before h
  | fail f => exact h
  | endless => exact h

/-- What is settled is not tried in another way. -/
theorem recover_eq (h : r.SettledFrom d) (other : Failure → Result α) : r.recover other = r := by
  cases r with
  | ok a e => rfl
  | fail f => simp [h.1]
  | endless => rfl

theorem ne_uncommitted {f : Failure} (h : r.SettledFrom d) (hf : f.committed = false) :
    r ≠ .fail f := by
  rintro rfl
  simp [h.1] at hf

end Result.SettledFrom

namespace Rule

variable {α β η : Type} {r : Rule α} {s : Rule β} {T U : Text → Prop} {c d : Cursor}

theorem Committed.settledFrom (h : r.Committed) (c : Cursor) : (r.run c).SettledFrom c := by
  cases hr : r.run c with
  | ok a d => exact r.leadsFrom c a d hr
  | fail f => exact ⟨h c f hr, (r.fails_of_run hr).leadsTo⟩
  | endless => trivial

theorem Committed.map (g : α → β) (h : r.Committed) : (r.map g).Committed :=
  fun c _ hf => h c _ (Result.map_eq_fail.1 hf)

theorem Committed.orElse {s : Rule α} (h : s.Committed) : (orElse r s).Committed := by
  intro c f hf
  rw [run_orElse] at hf
  cases hr : r.run c with
  | ok a d => simp [hr] at hf
  | fail g =>
    rw [hr, Result.recover_fail] at hf
    split at hf
    · cases hf
      assumption
    · exact h c f hf
  | endless => simp [hr] at hf

theorem Committed.preceded_blanks (h : r.Committed) : (preceded blanks r).Committed := by
  intro c f hf
  rw [run_preceded_blanks] at hf
  exact h _ f hf

/-- The rule is refused where none of its tokens stands, and settled behind one that does. -/
structure CommitsOn (r : Rule α) (T : Text → Prop) : Prop where
  ne_nil : ∀ {w}, T w → w ≠ []
  refused : ∀ {c : Cursor}, ¬ c.Begins T → ∃ t k, r.run c = .fail ⟨c, t, k, false⟩
  begun : ∀ {w c d}, T w → c.Reads w d → (r.run c).SettledFrom d

namespace CommitsOn

theorem literal {t : Text} {x : Char} {u : Text} (ht : t = x :: u) (expected : Text) :
    (literal t expected).CommitsOn (· = x :: u) where
  ne_nil := by
    rintro _ rfl
    exact List.cons_ne_nil _ _
  refused {c} h := by
    have hn : ∀ v, c.rest ≠ x :: u ++ v := fun v hv => h ⟨_, _, rfl, .of_rest hv⟩
    exact ⟨expected, none, run_literal_fail ht hn⟩
  begun {w c d} hw h := by
    rw [run_literal_ok ht (hw ▸ h)]
    exact .refl d

theorem takeWhile1 (p : Char → Bool) (expected : Text) :
    (takeWhile1 p expected).CommitsOn (OneOf p) where
  ne_nil := by
    rintro _ ⟨x, -, rfl⟩
    exact List.cons_ne_nil _ _
  refused {c} h := by
    rw [Cursor.begins_oneOf, Classical.not_not] at h
    exact ⟨expected, none, run_takeWhile1_fail h⟩
  begun {w c d} hw h := by
    have hb : ¬ c.Stops p := Cursor.begins_oneOf.1 ⟨w, d, hw, h⟩
    obtain ⟨x, -, rfl⟩ := hw
    rcases takeWhile1_cases p expected c with ⟨v, e, hv, hword, -, hr⟩ | ⟨hs, -⟩
    · obtain ⟨y, v, rfl⟩ := List.exists_cons_of_ne_nil hword.ne_nil
      obtain ⟨d', hd, he⟩ := Cursor.Reads.split (s := [y]) hv
      have hd' : d' = d := hd.eq_skip.trans h.eq_skip.symm
      rw [hr]
      exact hd' ▸ he.leadsTo
    · exact absurd hs hb

theorem map (g : α → β) (h : r.CommitsOn T) : (r.map g).CommitsOn T where
  ne_nil := h.ne_nil
  refused hc := by
    obtain ⟨t, k, hr⟩ := h.refused hc
    exact ⟨t, k, Result.map_eq_fail.2 hr⟩
  begun hw hd := (h.begun hw hd).map g

theorem blame (k : Construct) (h : r.CommitsOn T) : (r.blame k).CommitsOn T where
  ne_nil := h.ne_nil
  refused hc := by
    obtain ⟨t, k', hr⟩ := h.refused hc
    exact ⟨t, k' <|> some k, by rw [run_blame, hr]; rfl⟩
  begun hw hd := (h.begun hw hd).blame k

/-- What is read behind the token, whatever it is, fails for good. -/
theorem bind {next : α → Cursor → Result β} {q : Rule β} (h : r.CommitsOn T)
    (hq : ∀ c, q.run c = (r.run c).bind next)
    (hn : ∀ a d, (next a d).SettledFrom d) : q.CommitsOn T where
  ne_nil := h.ne_nil
  refused {c} hc := by
    obtain ⟨t, k, hr⟩ := h.refused hc
    exact ⟨t, k, by rw [hq, hr, Result.bind_fail]⟩
  begun hw hd := by
    rw [hq]
    exact (h.begun hw hd).bind hn

theorem pair (h : r.CommitsOn T) (k : s.Committed) : (pair r s).CommitsOn T :=
  h.bind (run_pair · r s) fun _ d => (k.settledFrom d).map _

theorem preceded (h : r.CommitsOn T) (k : s.Committed) : (preceded r s).CommitsOn T :=
  (h.pair k).map _

theorem nested {r : Rule η} {s : Rule (Turn η β)} (h : r.CommitsOn T) (k : s.Committed)
    (build : η → List β → β) : (nested r s build).CommitsOn T := by
  refine h.bind (run_nested · r s build) fun a d => ?_
  cases hr : Result.nested s.run build d.rest a [] [] d with
  | ok b e => exact Result.LeadsFrom.nested s.leadsFrom d.rest a [] [] d b e hr
  | fail f =>
    obtain ⟨e, hde, he⟩ := Result.nested_eq_fail s.leadsFrom hr
    exact ⟨k e f he, hde.trans (s.fails_of_run he).leadsTo⟩
  | endless => trivial

/-- A rule that has begun is the only alternative. -/
theorem run_orElse {s : Rule α} (h : r.CommitsOn T) (hc : c.Begins T) :
    (orElse r s).run c = r.run c := by
  obtain ⟨w, d, hw, hd⟩ := hc
  exact (h.begun hw hd).recover_eq _

/-- A rule that has not begun is no alternative. -/
theorem run_orElse_not {s : Rule α} (h : r.CommitsOn T) (hc : ¬ c.Begins T) :
    (orElse r s).run c = s.run c := by
  obtain ⟨t, k, hr⟩ := h.refused hc
  exact run_orElse_right hr rfl

/-- Two rules that never begin at the same place can be tried in any order. -/
theorem run_orElse_comm {s t : Rule α} (hr : r.CommitsOn T) (hs : s.CommitsOn U)
    (h : c.Begins T → ¬ c.Begins U) :
    (orElse r (orElse s t)).run c = (orElse s (orElse r t)).run c := by
  by_cases hT : c.Begins T
  · rw [hr.run_orElse hT, hs.run_orElse_not (h hT), hr.run_orElse hT]
  · rw [hr.run_orElse_not hT]
    by_cases hU : c.Begins U
    · rw [hs.run_orElse hU, hs.run_orElse hU]
    · rw [hs.run_orElse_not hU, hs.run_orElse_not hU, hr.run_orElse_not hT]

end CommitsOn

/-- Naming what is missing is the last alternative. -/
theorem run_relabel_orElse (t : Text) (r s : Rule α) (c : Cursor) :
    (relabel t (orElse r s)).run c = (orElse r (orElse s (refuse t))).run c := by
  simp only [run_relabel, run_orElse, run_refuse]
  cases r.run c with
  | ok a d => rfl
  | fail f => cases hf : f.committed <;> simp [hf]
  | endless => rfl

/-- An uncommitted failure means that no token of the rule is there, and stands where it would be.
Behind a token the rule reads at least that token or fails for good, further on. -/
structure CommitPoint (r : Rule α) (T : Text → Prop) : Prop where
  uncommitted_iff : ∀ c, (∃ f, r.run c = .fail f ∧ f.committed = false) ↔ ¬ c.Begins T
  cursor_eq : ∀ c f, r.run c = .fail f → f.committed = false → f.cursor = c
  begun : ∀ w c d, T w → c.Reads w d → (∃ a e, r.run c = .ok a e ∧ d.offset ≤ e.offset) ∨
    ∃ f, r.run c = .fail f ∧ f.committed = true ∧ c.offset < f.cursor.offset

theorem CommitsOn.commitPoint (h : r.CommitsOn T) (he : r.Ends) : r.CommitPoint T where
  uncommitted_iff c := by
    constructor
    · rintro ⟨f, hr, hf⟩ ⟨w, d, hw, hd⟩
      exact (h.begun hw hd).ne_uncommitted hf hr
    · intro hc
      obtain ⟨t, k, hr⟩ := h.refused hc
      exact ⟨_, hr, rfl⟩
  cursor_eq c f hr hf := by
    by_cases hc : c.Begins T
    · obtain ⟨w, d, hw, hd⟩ := hc
      exact absurd hr ((h.begun hw hd).ne_uncommitted hf)
    · obtain ⟨t, k, hr'⟩ := h.refused hc
      rw [hr, Result.fail.injEq] at hr'
      rw [hr']
  begun w c d hw hd := by
    have hs := h.begun hw hd
    have hpos : 0 < w.length := List.length_pos_iff.2 (h.ne_nil hw)
    have ho : d.offset = c.offset+w.length := hd.offset
    cases hr : r.run c with
    | ok a e =>
      rw [hr] at hs
      exact .inl ⟨a, e, rfl, hs.offset_le⟩
    | fail f =>
      rw [hr] at hs
      have hle : d.offset ≤ f.cursor.offset := hs.2.offset_le
      exact .inr ⟨f, rfl, hs.1, by omega⟩
    | endless => exact absurd hr (he c)

end Rule

namespace Grammar

open Rule

theorem doctypeKeyword_commitsOn : doctypeKeyword.CommitsOn DoctypeKeyword where
  ne_nil := by
    rintro _ (_ | _) <;> exact List.cons_ne_nil _ _
  refused {c} hc := by
    rcases keyword_cases c with ⟨w, d, hw, hd⟩ | ⟨-, hr⟩
    · exact absurd ⟨w, d, hw, hd⟩ hc
    · exact ⟨_, none, hr⟩
  begun {w c d} hw hd := by
    rw [run_doctypeKeyword hw hd]
    exact .refl d

theorem id_commitsOn : id.CommitsOn (· = ['#']) := (CommitsOn.literal rfl _).preceded (.commit _)

theorem cssClass_commitsOn : cssClass.CommitsOn (· = ['.']) :=
  (CommitsOn.literal rfl _).preceded (.commit _)

theorem attributes_commitsOn : attributes.CommitsOn (· = ['[']) :=
  (CommitsOn.literal rfl _).preceded (.commit _)

theorem string_commitsOn : string.CommitsOn (· = ['"']) :=
  (CommitsOn.literal rfl _).preceded (.commit _)

theorem attributePair_commitsOn : attributePair.CommitsOn (OneOf isAttributeNameChar) :=
  ((CommitsOn.takeWhile1 _ _).pair (.commit _)).map _

theorem head_commitsOn : head.CommitsOn (OneOf isNameChar) :=
  ((CommitsOn.takeWhile1 _ _).pair (.blame _ (.commit _))).map _

theorem turn_committed : turn.Committed :=
  .preceded_blanks <| .orElse <| .orElse <| .map _ (.commit _)

theorem element_commitsOn : element.CommitsOn (OneOf isNameChar) :=
  (head_commitsOn.nested turn_committed _).map _

theorem doctype_commitsOn : doctype.CommitsOn DoctypeKeyword :=
  ((doctypeKeyword_commitsOn.blame _).preceded (.blame _ (.commit _))).map _

/-- The turns inside an element if strings are tried before elements. -/
def turnStringFirst : Rule (Turn Head Node) :=
  preceded blanks <|
    orElse (string.map fun t => .leaf (.text t)) <|
    orElse (head.map .opened) <|
    (commit (blame .element closingBrace)).map fun _ => .closed

def elementStringFirst : Rule Element :=
  (nested head turnStringFirst .element).map fun (h, content) => ⟨h, content⟩

/-- The items of a text if strings are tried before elements. -/
def itemsStringFirst : Rule (List Node) :=
  many <| preceded blanks <|
    relabel "element or quoted string" (orElse stringNode (element.map Element.toNode))

theorem run_elementStringFirst (c : Cursor) : elementStringFirst.run c = element.run c := by
  have hturn : turnStringFirst.run = turn.run := by
    funext c
    rw [turnStringFirst, turn, run_preceded_blanks, run_preceded_blanks]
    exact (string_commitsOn.map _).run_orElse_comm (head_commitsOn.map _)
      fun hq => Cursor.not_begins_oneOf hq (by decide)
  rw [elementStringFirst, element, run_map, run_map, run_nested, run_nested, hturn]

theorem run_itemsStringFirst (c : Cursor) : itemsStringFirst.run c = items.run c := by
  have hitem : (preceded blanks (relabel "element or quoted string"
      (orElse stringNode (element.map Element.toNode)))).run = item.run := by
    funext c
    rw [item, run_preceded_blanks, run_preceded_blanks, run_relabel_orElse, run_relabel_orElse]
    exact (string_commitsOn.map _).run_orElse_comm (element_commitsOn.map _)
      fun hq => Cursor.not_begins_oneOf hq (by decide)
  rw [itemsStringFirst, items, run_many, run_many, hitem]

/-- Once an item has begun, the items of a text go on behind it or fail with it. -/
theorem run_items_settled {α : Type} {c d : Cursor} {r : Result α} {g : α → Node}
    (hi : item.run c = r.map g) (hr : r.SettledFrom d) :
    items.run c = r.bind fun a e => (items.run e).map (g a :: ·) := by
  cases r with
  | ok a e => exact items_cons hi
  | fail f =>
    rw [items, run_many_eq, hi]
    simp [hr.1]
  | endless =>
    rw [items, run_many_eq, hi]
    rfl

/-- Where a name stands, inside an element or a text, there is an element and nothing else. -/
theorem run_begun_element {c : Cursor} (h : c.skipBlanks.Begins (OneOf isNameChar)) :
    turn.run c = (head.run c.skipBlanks).map .opened ∧
      items.run c = (element.run c.skipBlanks).bind fun e d =>
        (items.run d).map (e.toNode :: ·) := by
  have hitem : item.run c = (element.run c.skipBlanks).map Element.toNode := by
    rw [item, run_preceded_blanks, run_relabel_orElse]
    exact (element_commitsOn.map _).run_orElse h
  obtain ⟨w, d, hw, hd⟩ := h
  constructor
  · rw [turn, run_preceded_blanks]
    exact (head_commitsOn.map _).run_orElse ⟨w, d, hw, hd⟩
  · exact run_items_settled hitem (element_commitsOn.begun hw hd)

theorem run_begun_string {c : Cursor} (h : c.skipBlanks.Begins (· = ['"'])) :
    turn.run c = (string.run c.skipBlanks).map (fun t => .leaf (.text t)) ∧
      items.run c = (string.run c.skipBlanks).bind fun t d =>
        (items.run d).map (.text t :: ·) := by
  have hn : ¬ c.skipBlanks.Begins (OneOf isNameChar) := Cursor.not_begins_oneOf h (by decide)
  have hitem : item.run c = (string.run c.skipBlanks).map Node.text := by
    rw [item, run_preceded_blanks, run_relabel_orElse, (element_commitsOn.map _).run_orElse_not hn]
    exact (string_commitsOn.map _).run_orElse h
  obtain ⟨w, d, hw, hd⟩ := h
  constructor
  · rw [turn, run_preceded_blanks, (head_commitsOn.map _).run_orElse_not hn]
    exact (string_commitsOn.map _).run_orElse ⟨w, d, hw, hd⟩
  · exact run_items_settled hitem (string_commitsOn.begun hw hd)

/-- Every rule with a leading token is committed by it, and committed failures are blamed on
something. So elements and strings can be tried in any order, and neither is given up once it has
begun. -/
theorem commit_points :
    id.CommitPoint (· = ['#']) ∧ cssClass.CommitPoint (· = ['.']) ∧
    attributes.CommitPoint (· = ['[']) ∧ string.CommitPoint (· = ['"']) ∧
    attributePair.CommitPoint (OneOf isAttributeNameChar) ∧
    element.CommitPoint (OneOf isNameChar) ∧ doctype.CommitPoint DoctypeKeyword ∧
    (∀ c f, element.run c = .fail f → f.committed = true → f.construct ≠ none) ∧
    (∀ c f, doctype.run c = .fail f → f.committed = true → f.construct ≠ none) ∧
    (∀ c, elementStringFirst.run c = element.run c ∧ itemsStringFirst.run c = items.run c) ∧
    (∀ c : Cursor, c.skipBlanks.Begins (OneOf isNameChar) →
      turn.run c = (head.run c.skipBlanks).map .opened ∧
        items.run c = (element.run c.skipBlanks).bind fun e d =>
          (items.run d).map (e.toNode :: ·)) ∧
    (∀ c : Cursor, c.skipBlanks.Begins (· = ['"']) →
      turn.run c = (string.run c.skipBlanks).map (fun t => .leaf (.text t)) ∧
        items.run c = (string.run c.skipBlanks).bind fun t d =>
          (items.run d).map (.text t :: ·)) := by
  refine ⟨id_commitsOn.commitPoint id_ends,
    cssClass_commitsOn.commitPoint (.preceded (.literal _ _) (.commit identifier_ends)),
    attributes_commitsOn.commitPoint attributes_ends, string_commitsOn.commitPoint string_ends,
    attributePair_commitsOn.commitPoint attributePair_ends,
    element_commitsOn.commitPoint element_ends, doctype_commitsOn.commitPoint doctype_ends,
    fun c f hf => (element.fails_of_run hf).construct_ne_none (by decide),
    fun c f hf => (doctype.fails_of_run hf).construct_ne_none (by decide),
    fun c => ⟨run_elementStringFirst c, run_itemsStringFirst c⟩,
    fun c hc => run_begun_element hc, fun c hc => run_begun_string hc⟩

/-- A selector without a name is the error, not the brace or the string that could stand there. -/
theorem commit_points_selector :
    (Cursor.ofText "a#\x7b\x7d").skipBlanks.Begins (OneOf isNameChar) ∧
      turn.run (.ofText "a#\x7b\x7d") =
        .fail ⟨.place "a#\x7b\x7d" 2, "identifier", some .element, true⟩ := by
  obtain ⟨-, -, -, -, -, -, -, -, -, -, element, -⟩ := commit_points
  have hbegins : (Cursor.ofText "a#\x7b\x7d").skipBlanks.Begins (OneOf isNameChar) :=
    ⟨['a'], _, ⟨'a', by decide, rfl⟩, .of_rest rfl⟩
  exact ⟨hbegins, (element _ hbegins).1.trans rfl⟩

end Grammar

end CurlyMarkup
