import CurlyMarkup.Proofs.Language
import CurlyMarkup.Proofs.Descent
import CurlyMarkup.Proofs.Tokens
set_option autoImplicit false

/-!
Every word of the language is read. A run of characters is read to its end, so what comes after a
word must not go on with it; brackets and quotes end a word whatever comes after them.
-/

namespace CurlyMarkup

namespace Rule

variable {α β : Type} {r : Rule α} {s : Rule β} {a : α} {b : β} {c d e : Cursor}

theorem run_pair_ok (h : r.run c = .ok a d) (k : s.run d = .ok b e) :
    (pair r s).run c = .ok (a, b) e := by
  rw [run_pair, h, Result.bind_ok, k]
  rfl

theorem run_preceded_ok (h : r.run c = .ok a d) (k : s.run d = .ok b e) :
    (preceded r s).run c = .ok b e := by
  rw [preceded, run_map, run_pair_ok h k]
  rfl

theorem run_terminated_ok (h : r.run c = .ok a d) (k : s.run d = .ok b e) :
    (terminated r s).run c = .ok a e := by
  rw [terminated, run_map, run_pair_ok h k]
  rfl

theorem run_map_ok (f : α → β) (h : r.run c = .ok a d) : (r.map f).run c = .ok (f a) d := by
  rw [run_map, h]
  rfl

theorem run_commit_ok (h : r.run c = .ok a d) : r.commit.run c = .ok a d := by
  rw [run_commit, h]
  rfl

theorem run_blame_ok (k : Construct) (h : r.run c = .ok a d) : (r.blame k).run c = .ok a d := by
  rw [run_blame, h]
  rfl

theorem run_relabel_ok (t : Text) (h : r.run c = .ok a d) : (relabel t r).run c = .ok a d := by
  rw [run_relabel, h]
  rfl

theorem run_optional_some (h : r.run c = .ok a d) : (optional r).run c = .ok (some a) d := by
  rw [run_optional, h]
  rfl

theorem run_optional_none {f : Failure} (h : r.run c = .fail f) (hf : f.committed = false) :
    (optional r).run c = .ok none c := by
  rw [run_optional, h, Result.map_fail, Result.recover_fail, hf]
  rfl

theorem run_orElse_left {r' : Rule α} (h : r.run c = .ok a d) : (orElse r r').run c = .ok a d := by
  rw [run_orElse, h]
  rfl

theorem run_orElse_right {r' : Rule α} {f : Failure} (h : r.run c = .fail f)
    (hf : f.committed = false) : (orElse r r').run c = r'.run c := by
  rw [run_orElse, h, Result.recover_fail, hf]
  rfl

end Rule

/-- Nothing in `p` comes if none begins the word that does come, and none comes behind it. -/
theorem Cursor.Stops.before {p : Char → Bool} {c d : Cursor} {s : Text} (h : c.Reads s d)
    (hs : ∀ x, s.head? = some x → p x = false) (hd : d.Stops p) : c.Stops p := by
  cases s with
  | nil => rwa [← h.eq_of_nil]
  | cons x s => exact .of_cons h.rest_eq (hs x rfl)

namespace Cursor

variable {p : Char → Bool} {c d : Cursor} {s : Text}

/-- A blank character follows, or one of these. -/
def Next (c : Cursor) (xs : List Char) : Prop :=
  ∃ x t, c.rest = x :: t ∧ (isBlank x = true ∨ x ∈ xs)

theorem Next.of_cons {x : Char} {t : Text} {xs : List Char} (h : c.rest = x :: t) (hx : x ∈ xs) :
    c.Next xs := ⟨x, t, h, .inr hx⟩

theorem Next.before {x : Char} {xs : List Char} (hn : d.Next xs) (h : c.Reads s d)
    (hs : ∀ y, s.head? = some y → y = x) : c.Next (x :: xs) := by
  cases s with
  | nil =>
    obtain ⟨y, t, hy, hb | hm⟩ := hn
    · exact ⟨y, t, h.eq_of_nil ▸ hy, .inl hb⟩
    · exact ⟨y, t, h.eq_of_nil ▸ hy, .inr (by simp [hm])⟩
  | cons y s => exact ⟨y, _, h.rest_eq, .inr (by simp [hs y rfl])⟩

theorem Next.before_optional {α : Type} {L : Text → α → Prop} {x : Char} {xs : List Char}
    {a : Option α} (hn : d.Next xs) (h : c.Reads s d) (hs : OptionalWord L s a)
    (hL : ∀ s a, L s a → s.head? = some x) : c.Next (x :: xs) := by
  refine hn.before h fun y hy => ?_
  cases hs with
  | absent => simp at hy
  | present hw => exact Option.some.inj (hy.symm.trans (hL _ _ hw))

theorem Next.before_many {α : Type} {L : Text → α → Prop} {x : Char} {xs : List Char}
    {as : List α} (hn : d.Next xs) (h : c.Reads s d) (hs : ManyWords L s as)
    (hL : ∀ s a, L s a → s.head? = some x) : c.Next (x :: xs) := by
  refine hn.before h fun y hy => ?_
  cases hs with
  | nil => simp at hy
  | cons hw _ => exact Option.some.inj (hy.symm.trans (by rw [List.head?_append, hL _ _ hw]; rfl))

theorem Next.before_blanks {xs : List Char} (hn : d.Next xs) (h : c.Reads s d)
    (hs : BlankWord s) : c.Next xs := by
  cases s with
  | nil => rwa [← h.eq_of_nil]
  | cons y s => exact ⟨y, _, h.rest_eq, .inl (hs y (by simp))⟩

theorem Next.stops {xs : List Char} (hn : c.Next xs) (hb : ∀ x, isBlank x = true → p x = false)
    (hx : xs.all (fun x => !p x) = true) : c.Stops p := by
  obtain ⟨y, t, hy, hyb | hym⟩ := hn
  · exact .of_cons hy (hb y hyb)
  · exact .of_cons hy (by simpa using List.all_eq_true.1 hx y hym)

theorem skipBlanks_eq (h : c.Reads s d) (hs : BlankWord s) (hd : d.Stops isBlank) :
    c.skipBlanks = d := by
  rw [skipBlanks, takeWhile_rest h hs hd, h.eq_skip]

end Cursor

namespace Grammar

open Rule

variable {c d : Cursor} {s t w : Text}

theorem run_blanks (h : c.Reads w d) (hw : BlankWord w) (hd : d.Stops isBlank) :
    blanks.run c = .ok w d := run_takeWhile_ok h hw hd

theorem run_identifier {n : Text} (h : c.Reads n d) (hn : NameWord n) (hd : d.Stops isNameChar) :
    identifier.run c = .ok n d := run_takeWhile1_ok h hn hd

theorem run_id {n : Text} (hs : IdWord s n) (h : c.Reads s d) (hd : d.Stops isNameChar) :
    id.run c = .ok n d := by
  obtain ⟨hn⟩ := hs
  obtain ⟨e, he, hr⟩ := Cursor.Reads.split (s := ['#']) h
  exact run_preceded_ok (run_literal_ok rfl he) (run_commit_ok (run_identifier hr hn hd))

theorem run_cssClass {n : Text} (hs : ClassWord s n) (h : c.Reads s d) (hd : d.Stops isNameChar) :
    cssClass.run c = .ok n d := by
  obtain ⟨hn⟩ := hs
  obtain ⟨e, he, hr⟩ := Cursor.Reads.split (s := ['.']) h
  exact run_preceded_ok (run_literal_ok rfl he) (run_commit_ok (run_identifier hr hn hd))

theorem run_preceded_literal_fail {α : Type} {r : Rule α} {x : Char} {u expected : Text}
    (hu : u = [x]) (h : c.Stops (· = x)) :
    (preceded (literal u expected) r).run c = .fail (c.missing expected) := by
  have hn : ∀ t, c.rest ≠ x :: [] ++ t := by
    intro t ht
    exact absurd (h x (Cursor.peek_eq_some.2 ⟨t, ht⟩)) (by simp)
  rw [preceded, run_map, run_pair, run_literal_fail hu hn]
  rfl

theorem run_optional_id {i : Option Text} (hs : OptionalWord IdWord s i) (h : c.Reads s d)
    (hd : d.Stops isNameChar) (hx : d.Stops (· = '#')) : (optional id).run c = .ok i d := by
  cases hs with
  | absent =>
    rw [h.eq_of_nil] at hx ⊢
    exact run_optional_none (run_preceded_literal_fail rfl hx) rfl
  | present hw => exact run_optional_some (run_id hw h hd)

theorem cssClass_consumes : cssClass.Consumes := .preceded_left (.literal _ _ _)

theorem run_classes {cs : List Text} (hs : ManyWords ClassWord s cs) (h : c.Reads s d)
    (hd : d.Stops isNameChar) (hx : d.Stops (· = '.')) : classes.run c = .ok cs d := by
  induction hs generalizing c with
  | nil =>
    rw [h.eq_of_nil] at hx ⊢
    have hf : cssClass.run c = .fail (c.missing (Text.quoted ".")) :=
      run_preceded_literal_fail rfl hx
    rw [classes, run_many_eq, hf]
    rfl
  | @cons s t n ns hw ht ih =>
    obtain ⟨e, hs, hr⟩ := h.split
    have he : e.Stops isNameChar := .before hr (fun x hx => by
      cases ht with
      | nil => simp at hx
      | cons hw' _ =>
        obtain ⟨_⟩ := hw'
        cases hx
        decide) hd
    have hc := run_cssClass hw hs he
    rw [classes, run_many_eq, hc]
    simp only [cssClass_consumes.offset_ne hc, ↓reduceIte]
    rw [← classes, ih hr]
    rfl

theorem run_string_word {v : Text} (hs : StringWord s v) (h : c.Reads s d) :
    string.run c = .ok v d := by
  obtain ⟨hb⟩ := hs
  obtain ⟨e, he, hq⟩ := h.split
  obtain ⟨f, hf, hr⟩ := Cursor.Reads.split (s := ['"']) he
  exact run_string_closed hb hf hr hq

theorem run_attributePair {a : Attribute} (hs : AttributeWord s a) (h : c.Reads s d) :
    attributePair.run c = .ok a d := by
  obtain ⟨hn, hv⟩ := hs
  obtain ⟨e, he, hr⟩ := h.split
  obtain ⟨f, hf, hr⟩ := Cursor.Reads.split (s := ['=']) hr
  have hname : attributeName.run c = .ok _ e :=
    run_takeWhile1_ok he hn (.of_cons hf.rest_eq (by decide))
  exact run_map_ok _ (run_pair_ok hname (run_commit_ok (run_preceded_ok (run_literal_ok rfl hf)
    (run_relabel_ok _ (run_string_word hv hr)))))

theorem run_attributePair_fail (h : c.Stops isAttributeNameChar) :
    attributePair.run c = .fail (c.missing "attribute name") := by
  rw [attributePair, run_map, run_pair, attributeName, run_takeWhile1_fail h]
  rfl

theorem isBlank_eq_false {x : Char} (h : isAttributeNameChar x = true ∨ isNameChar x = true) :
    isBlank x = false := by
  cases hb : isBlank x with
  | false => rfl
  | true => simp [isAttributeNameChar_of_isBlank hb, isNameChar_of_isBlank hb] at h

theorem stops_isBlank {n : Text} {p : Char → Bool} (hn : WordOf p n) (h : c.Reads (n ++ s) d)
    (hp : ∀ x, p x = true → isBlank x = false) : c.Stops isBlank := by
  obtain ⟨hne, hrun⟩ := hn
  cases n with
  | nil => exact absurd rfl hne
  | cons x n => exact .of_cons h.rest_eq (hp x (hrun x (by simp)))

theorem attributeWord_stops {a : Attribute} (hs : AttributeWord s a) (h : c.Reads s d) :
    c.Stops isBlank := by
  obtain ⟨hn, _⟩ := hs
  exact stops_isBlank hn h fun _ hx => isBlank_eq_false (.inl hx)

theorem blanks1_consumed : (blanks1 "whitespace").run c = .fail (c.missing "whitespace") ∧
    c.skipBlanks = c ∨ ∃ w, (blanks1 "whitespace").run c = .ok w c.skipBlanks := by
  rcases takeWhile1_cases isBlank "whitespace" c with ⟨w, e, h, hw, he, hr⟩ | ⟨hs, hr⟩
  · rw [Cursor.skipBlanks_eq h hw.run he]
    exact .inr ⟨w, hr⟩
  · exact .inl ⟨hr, Cursor.skipBlanks_eq (.refl c) (by simp [RunOf]) hs⟩

/-- The attributes after the first one, up to the closing bracket. -/
theorem run_rounds {as : List Attribute}
    (hs : ManyWords (AfterWord (WordOf isBlank) AttributeWord) s as) (h : c.Reads s d)
    (hd : d.skipBlanks.Stops isAttributeNameChar) :
    Result.separated attributePair.run (blanks1 "whitespace").run c.rest c = .ok as d := by
  induction hs generalizing c with
  | nil =>
    rw [h.eq_of_nil] at hd ⊢
    rw [Result.separated_eq attributePair_consumes (blanks1 _).leadsFrom]
    rcases blanks1_consumed (c := c) with ⟨hb, -⟩ | ⟨w, hb⟩
    · rw [hb]
      rfl
    · simp only [hb, run_attributePair_fail hd]
      rfl
  | cons hw _ ih =>
    obtain ⟨hb, ha⟩ := hw
    obtain ⟨e, he, hr⟩ := h.split
    obtain ⟨f, hf, hfe⟩ := he.split
    have hsep : (blanks1 "whitespace").run c = .ok _ f :=
      run_takeWhile1_ok hf hb (attributeWord_stops ha hfe)
    rw [Result.separated_eq attributePair_consumes (blanks1 _).leadsFrom]
    simp only [hsep, run_attributePair ha hfe, ih hr]
    rfl

/-- A closing character comes behind blanks, whoever reads them. -/
theorem stops_skipBlanks {x : Char} {p : Char → Bool} (h : c.Reads w d) (hw : BlankWord w)
    (hx : ∃ t, d.rest = x :: t) (hb : isBlank x = false) (hp : p x = false) :
    c.skipBlanks.Stops p := by
  obtain ⟨t, ht⟩ := hx
  rw [Cursor.skipBlanks_eq h hw (.of_cons ht hb)]
  exact .of_cons ht hp

theorem run_attributes {as : List Attribute} (hs : AttributesWord s as) (h : c.Reads s d) :
    attributes.run c = .ok as d := by
  obtain ⟨hw, hl, hw'⟩ := hs
  obtain ⟨e, he, hclose⟩ := h.split
  obtain ⟨f, hf, hafter⟩ := he.split
  obtain ⟨g, hg, hlist⟩ := hf.split
  obtain ⟨k, hk, hbefore⟩ := Cursor.Reads.split (s := ['[']) hg
  have hopen : (token "[").run c = .ok _ k := run_literal_ok rfl hk
  have hbracket : (literal "]" "attribute or closing bracket ']'").run e = .ok _ d :=
    run_literal_ok rfl hclose
  have hstop : e.Stops isBlank := .of_cons hclose.rest_eq (by decide)
  refine run_preceded_ok hopen (run_commit_ok ?_)
  cases hl with
  | nil =>
    -- with no attribute in between, the blanks before and after are one run
    rw [hlist.eq_of_nil] at hafter
    have hblank : BlankWord _ := hw.append hw'
    have hnone : (separated attributePair (blanks1 "whitespace")).run e = .ok [] e := by
      rw [run_separated, run_attributePair_fail (.of_cons hclose.rest_eq (by decide))]
      rfl
    exact run_preceded_ok (run_blanks (hbefore.trans hafter) hblank hstop)
      (run_terminated_ok hnone
        (run_pair_ok (run_blanks (.refl e) (by simp [RunOf]) hstop) hbracket))
  | @cons s t a as ha hm =>
    obtain ⟨l, hl, hm'⟩ := hlist.split
    have hend := stops_skipBlanks (p := isAttributeNameChar) hafter hw' ⟨_, hclose.rest_eq⟩
      (by decide) (by decide)
    have hsome : (separated attributePair (blanks1 "whitespace")).run g =
        .ok (a :: as) f := by
      rw [run_separated, run_attributePair ha hl]
      simp only [run_rounds hm hm' hend]
      rfl
    exact run_preceded_ok (run_blanks hbefore hw (attributeWord_stops ha hl))
      (run_terminated_ok hsome (run_pair_ok (run_blanks hafter hw' hstop) hbracket))

theorem run_attributes_fail (h : c.Stops (· = '[')) :
    attributes.run c = .fail (c.missing (Text.quoted "[")) := run_preceded_literal_fail rfl h

/-- The attributes, if there are any, and the opening brace. -/
theorem run_attributes_brace {u w' : Text} {as : Option (List Attribute)} {e f g : Cursor}
    (hw : BlankWord w) (has : OptionalWord AttributesWord u as) (hw' : BlankWord w')
    (hbefore : c.Reads w e) (hattributes : e.Reads u f) (hafter : f.Reads w' g)
    (hbrace : g.Reads ['\x7b'] d) :
    ∃ k p, (preceded blanks (optional attributes)).run c = .ok as k ∧
      (pair blanks openingBrace).run k = .ok p d := by
  have hstop : g.Stops isBlank := .of_cons hbrace.rest_eq (by decide)
  have hopen : openingBrace.run g = .ok _ d := run_literal_ok rfl hbrace
  cases has with
  | absent =>
    -- with no attributes in between, the blanks before and after are one run
    rw [hattributes.eq_of_nil] at hafter
    have hblank : BlankWord _ := hw.append hw'
    have hnone : (optional attributes).run g = .ok none g :=
      run_optional_none (run_attributes_fail (.of_cons hbrace.rest_eq (by decide))) rfl
    exact ⟨g, _, run_preceded_ok (run_blanks (hbefore.trans hafter) hblank hstop) hnone,
      run_pair_ok (run_blanks (.refl g) (by simp [RunOf]) hstop) hopen⟩
  | present ha =>
    have hstop' : e.Stops isBlank := by
      obtain ⟨_⟩ := ha
      exact .of_cons hattributes.rest_eq (by decide)
    exact ⟨f, _, run_preceded_ok (run_blanks hbefore hw hstop')
      (run_optional_some (run_attributes ha hattributes)),
      run_pair_ok (run_blanks hafter hw' hstop) hopen⟩

theorem run_selectors {p : Option Text × List Text × Option (List Attribute)}
    (hs : SelectorsWord s p) (h : c.Reads s d) :
    c.Next ['#', '.', '[', '\x7b'] ∧ selectors.run c = .ok p d := by
  obtain ⟨hi, hcs, hw, has, hw'⟩ := hs
  obtain ⟨c₅, h, hbrace⟩ := h.split
  obtain ⟨c₄, h, hafter⟩ := h.split
  obtain ⟨c₃, h, hattributes⟩ := h.split
  obtain ⟨c₂, h, hbefore⟩ := h.split
  obtain ⟨c₁, hid, hclasses⟩ := h.split
  have next₅ : c₅.Next ['\x7b'] := .of_cons hbrace.rest_eq (by simp)
  have next₃ : c₃.Next ['[', '\x7b'] := (next₅.before_blanks hafter hw').before_optional
    hattributes has fun _ _ ⟨_, _, _⟩ => rfl
  have next₂ : c₂.Next ['[', '\x7b'] := next₃.before_blanks hbefore hw
  have next₁ : c₁.Next ['.', '[', '\x7b'] := next₂.before_many hclasses hcs fun _ _ ⟨_⟩ => rfl
  have next : c.Next ['#', '.', '[', '\x7b'] := next₁.before_optional hid hi fun _ _ ⟨_⟩ => rfl
  have hid := run_optional_id hi hid
    (next₁.stops (fun _ => isNameChar_of_isBlank) (by decide))
    (next₁.stops (fun _ hx => by simpa using ne_of_isBlank hx (by decide)) (by decide))
  have hclasses := run_classes hcs hclasses
    (next₂.stops (fun _ => isNameChar_of_isBlank) (by decide))
    (next₂.stops (fun _ hx => by simpa using ne_of_isBlank hx (by decide)) (by decide))
  obtain ⟨k, p, has, hopen⟩ := run_attributes_brace hw has hw' hbefore hattributes hafter hbrace
  exact ⟨next, run_terminated_ok (run_pair_ok hid (run_pair_ok hclasses has)) hopen⟩

theorem run_head {k : Head} (hs : HeadWord s k) (h : c.Reads s d) : head.run c = .ok k d := by
  obtain ⟨hn, hsel⟩ := hs
  obtain ⟨e, hname, hrest⟩ := h.split
  obtain ⟨next, hrun⟩ := run_selectors hsel hrest
  have hname : tagName.run c = .ok _ e :=
    run_takeWhile1_ok hname hn (next.stops (fun _ => isNameChar_of_isBlank) (by decide))
  exact run_map_ok _ (run_pair_ok hname (run_blame_ok _ (run_commit_ok hrun)))

theorem run_closing (hw : BlankWord w) (h : c.Reads (w ++ ['\x7d']) d) :
    closing.run c = .ok ['\x7d'] d := by
  obtain ⟨e, he, hr⟩ := h.split
  rw [closing, run_preceded_blanks,
    Cursor.skipBlanks_eq he hw (.of_cons hr.rest_eq (by decide))]
  exact run_commit_ok (run_blame_ok _ (run_literal_ok rfl hr))

theorem run_head_fail (h : c.Stops isNameChar) : head.run c = .fail (c.missing "tag name") := by
  rw [head, run_map, run_pair, tagName, run_takeWhile1_fail h]
  rfl

theorem run_element_fail (h : c.Stops isNameChar) :
    element.run c = .fail (c.missing "tag name") := by
  rw [run_element, run_head_fail h]
  rfl

theorem run_items_nil (hw : BlankWord w) (h : c.Reads (w ++ ['\x7d']) d) :
    items.run c = .ok [] c := by
  obtain ⟨e, he, hr⟩ := h.split
  have hs : c.skipBlanks = e := Cursor.skipBlanks_eq he hw (.of_cons hr.rest_eq (by decide))
  have hq : ∀ t, e.rest ≠ '"' :: t := by simp [hr.rest_eq]
  have hi : item.run c = .fail (e.missing "element or quoted string") := by
    rw [run_item, hs, run_element_fail (.of_cons hr.rest_eq (by decide)), run_string_fail hq]
    rfl
  rw [items, run_many_eq, hi]
  rfl

theorem run_item_string {v : Text} (hw : BlankWord w) (hs : StringWord s v)
    (h : c.Reads (w ++ s) d) : item.run c = .ok (.text v) d := by
  obtain ⟨e, he, hr⟩ := h.split
  have hrun := run_string_word hs hr
  have ⟨x, hx⟩ : ∃ x, e.rest = '"' :: x := by
    obtain ⟨_⟩ := hs
    exact ⟨_, hr.rest_eq⟩
  rw [run_item, Cursor.skipBlanks_eq he hw (.of_cons hx (by decide)),
    run_element_fail (.of_cons hx (by decide)), hrun]
  rfl

theorem headWord_stops {k : Head} (hs : HeadWord s k) (h : c.Reads (s ++ t) d) :
    c.Stops isBlank := by
  obtain ⟨hn, _⟩ := hs
  rw [List.append_assoc] at h
  exact stops_isBlank hn h fun _ hx => isBlank_eq_false (.inr hx)

theorem run_item_element {e : Element} (hw : BlankWord w) (hs : ElementWord s e)
    (hrun : ∀ {c d}, c.Reads s d → element.run c = .ok e d) (h : c.Reads (w ++ s) d) :
    item.run c = .ok e.toNode d := by
  obtain ⟨f, hf, hr⟩ := h.split
  have hstop : f.Stops isBlank := by
    obtain ⟨hh, _, _⟩ := hs
    simp only [List.append_assoc] at hr
    exact headWord_stops hh hr
  rw [run_item, Cursor.skipBlanks_eq hf hw hstop, hrun hr]
  rfl

mutual

theorem run_element_word {s : Text} {e : Element} :
    ElementWord s e → ∀ {c d : Cursor}, c.Reads s d → element.run c = .ok e d
  | .mk hh hc hw, c, d, h => by
    rw [List.append_assoc] at h
    obtain ⟨f, hf, hr⟩ := h.split
    obtain ⟨g, hg, hitems⟩ := hf.split
    rw [run_element_content, ← run_elementByDescent]
    exact run_map_ok _ (run_pair_ok
      (run_pair_ok (run_head hh hg) (run_items_word hc hw hitems hr)) (run_closing hw hr))

theorem run_items_word {t w : Text} {ns : List Node} : ContentWord t ns → BlankWord w →
    ∀ {c d e : Cursor}, c.Reads t d → d.Reads (w ++ ['\x7d']) e → items.run c = .ok ns d
  | .nil, hw, c, d, e, h, hr => by
    rw [h.eq_of_nil] at hr ⊢
    exact run_items_nil hw hr
  | .cons hb (.string hs) ht, hw, c, d, e, h, hr => by
    obtain ⟨f, hf, hrest⟩ := h.split
    rw [items_cons (run_item_string hb hs hf), run_items_word ht hw hrest hr]
    rfl
  | .cons hb (.element hs) ht, hw, c, d, e, h, hr => by
    obtain ⟨f, hf, hrest⟩ := h.split
    rw [items_cons (run_item_element hb hs (run_element_word hs) hf), run_items_word ht hw hrest hr]
    rfl

end

theorem elementWord_stops {e : Element} (hs : ElementWord s e) (h : c.Reads (s ++ t) d) :
    c.Stops isBlank := by
  obtain ⟨hh, _, _⟩ := hs
  simp only [List.append_assoc] at h
  exact headWord_stops hh h

theorem run_doctypeKeyword (hs : DoctypeKeyword s) (h : c.Reads s d) :
    doctypeKeyword.run c = .ok s d := by
  cases hs with
  | lower => exact run_relabel_ok _ (run_orElse_left (run_literal_ok (x := '!') rfl h))
  | upper =>
    have hn : ∀ u, c.rest ≠ ("!doctype" : Text) ++ u := by
      intro u hu
      rw [h.rest_eq] at hu
      exact absurd hu (by simp)
    have hl : (token "!doctype").run c = .fail (c.missing _) := run_literal_fail (x := '!') rfl hn
    refine run_relabel_ok _ ((run_orElse_right hl rfl).trans ?_)
    exact run_literal_ok (x := '!') rfl h

theorem run_doctype_word {v : Text} (hs : DoctypeWord s v) (h : c.Reads s d) :
    doctype.run c = .ok v d := by
  obtain ⟨hk, hb, hw, hv, hw'⟩ := hs
  obtain ⟨c₆, h, hclose⟩ := h.split
  obtain ⟨c₅, h, hafter⟩ := h.split
  obtain ⟨c₄, h, hstring⟩ := h.split
  obtain ⟨c₂, h, hbrace⟩ := h.split
  obtain ⟨c₁, hkeyword, hblanks⟩ := h.split
  obtain ⟨c₃, hopen, hbefore⟩ := Cursor.Reads.split (s := ['\x7b']) hbrace
  have hb : (blanks1 "whitespace after '!doctype'").run c₁ = .ok _ c₂ :=
    run_takeWhile1_ok hblanks hb (.of_cons hopen.rest_eq (by decide))
  have hopen : openingBrace.run c₂ = .ok _ c₃ := run_literal_ok rfl hopen
  have hstop : c₄.Stops isBlank := by
    obtain ⟨_⟩ := hv
    exact .of_cons hstring.rest_eq (by decide)
  have hstop' : c₆.Stops isBlank := .of_cons hclose.rest_eq (by decide)
  have hclose : (literal "\x7d" "closing brace '\x7d'").run c₆ = .ok _ d :=
    run_literal_ok rfl hclose
  have hbody : doctypeBody.run c₁ = .ok _ d := run_preceded_ok
    (run_pair_ok hb (run_pair_ok hopen (run_blanks hbefore hw hstop)))
    (run_terminated_ok (run_relabel_ok _ (run_string_word hv hstring))
      (run_pair_ok (run_blanks hafter hw' hstop') hclose))
  exact run_map_ok _ (run_preceded_ok (run_blame_ok _ (run_doctypeKeyword hk hkeyword))
    (run_blame_ok _ (run_commit_ok hbody)))

theorem run_prolog_word {v : Text} (hs : AfterWord BlankWord DoctypeWord s v) (h : c.Reads s d) :
    (preceded blanks doctype).run c = .ok v d := by
  obtain ⟨hw, hdoc⟩ := hs
  obtain ⟨g, hbefore, hdoctype⟩ := h.split
  have hstop : g.Stops isBlank := by
    obtain ⟨hk, _, _, _, _⟩ := hdoc
    obtain ⟨_ | _⟩ := hk
    · exact .of_cons hdoctype.rest_eq (by decide)
    · exact .of_cons hdoctype.rest_eq (by decide)
  exact run_preceded_ok (run_blanks hbefore hw hstop) (run_doctype_word hdoc hdoctype)

theorem run_rootOnly_word {e : Element} (expected : Text) (hs : RootWord s e) (h : c.Reads s d)
    (hd : d.rest = []) : (rootOnly expected).run c = .ok e d := by
  obtain ⟨hw, hr, hw'⟩ := hs
  obtain ⟨f, h, hafter⟩ := h.split
  obtain ⟨g, hbefore, hroot⟩ := h.split
  have hend : (endOfText expected).run d = .ok () d := by simp [run_endOfText, Cursor.atEnd, hd]
  have hstop : d.Stops isBlank := fun x hx => by simp [Cursor.peek, hd] at hx
  have hroot' : root.run g = .ok e f :=
    run_blame_ok _ (run_relabel_ok _ (run_element_word hr hroot))
  exact run_preceded_ok
    (run_blanks hbefore hw (elementWord_stops (t := []) hr (by simpa using hroot)))
    (run_terminated_ok hroot' (run_pair_ok (run_blanks hafter hw' hstop) (run_blame_ok _ hend)))

theorem run_document_word {v : Document} (hs : DocumentWord s v) (h : c.Reads s d)
    (hd : d.rest = []) : document.run c = .ok v d := by
  obtain ⟨hw, hdoc, hr⟩ := hs
  obtain ⟨f, hprolog, hroot⟩ := h.split
  exact run_map_ok _ (run_pair_ok (run_prolog_word (.mk hw hdoc) hprolog)
    (run_rootOnly_word _ hr hroot hd))

end Grammar

end CurlyMarkup
