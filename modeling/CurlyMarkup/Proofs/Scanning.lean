import CurlyMarkup.Format.Layout
import CurlyMarkup.Proofs.Language
import CurlyMarkup.Proofs.NormalForm
set_option autoImplicit false

namespace CurlyMarkup

/-- A name in lower case, and a value that no reference stands in. -/
structure Attribute.Tame (a : Attribute) : Prop where
  nonempty : a.name ≠ []
  name : RunOf isAttributeNameChar a.name
  lower : Text.lower a.name = a.name
  quote : '"' ∉ a.value
  ampersand : '&' ∉ a.value

namespace Markup

variable {c : Char} {a : Attribute} {as : List Attribute} {n t : Text}

theorem replaceReferences_eq {bound : Text} (h : '&' ∉ t) :
    replaceReferences bound t = .ok t := by
  fun_induction replaceReferences bound t with
  | case1 | case2 => simp at h
  | case3 _ _ x t _ ih =>
    rw [ih fun e => h (List.mem_cons_of_mem x e)]
    rfl
  | case4 => rfl

/-- Values without references stay as they are. -/
theorem unescapeAttributes_eq (h : ∀ a ∈ as, a.Tame) : unescapeAttributes as = .ok as := by
  induction as with
  | nil => rfl
  | cons a as ih =>
    have ha : unescapeValue a.value = .ok a.value :=
      replaceReferences_eq (h a List.mem_cons_self).ampersand
    have has := ih fun b hb => h b (List.mem_cons_of_mem a hb)
    rw [unescapeAttributes] at has ⊢
    rw [List.mapM_cons, ha, has]
    rfl

theorem ne_of_class {p : Char → Bool} {x : Char} (hc : p c = true) (hx : p x = false) : c ≠ x := by
  rintro rfl
  rw [hx] at hc
  cases hc

theorem isAttributeNameRest_iff :
    isAttributeNameRest c = true ↔ c ≠ '/' ∧ c ≠ '=' ∧ c ≠ '>' ∧ isBlank c = false := by
  simp [isAttributeNameRest, and_assoc]

theorem isAttributeNameRest_of_nameChar (h : isAttributeNameChar c = true) :
    isAttributeNameRest c = true := by
  refine isAttributeNameRest_iff.2
    ⟨ne_of_class h (by decide), ne_of_class h (by decide), ne_of_class h (by decide), ?_⟩
  rw [← Bool.not_eq_true]
  intro hb
  rw [isAttributeNameChar_of_isBlank hb] at h
  cases h

theorem skipGaps_eq (hs : c ≠ '/') (hb : isBlank c = false) (p : Char) (t : Text) :
    skipGaps p (c :: t) = ⟨p, c :: t⟩ := by
  rw [skipGaps, if_neg (by simp [hs, hb])]
  exact fun _ e => (hs e).elim

theorem skipGaps_blank (p : Char) (t : Text) : skipGaps p (' ' :: t) = skipGaps ' ' t := by
  rw [skipGaps, if_pos (by decide)]
  exact fun _ e => nomatch e

/-- A quoted value is read up to its closing mark. -/
theorem readValue?_quoted {v : Text} (h : '"' ∉ v) (t : Text) :
    readValue? ('=' :: '"' :: (v ++ '"' :: t)) = some (v, ⟨'"', t⟩) := by
  have hb : isBlank '=' = false := by decide
  have hq : isBlank '"' = false := by decide
  simp [readValue?, hb, hq, Text.cut?_append h]

theorem readAttribute?_html (h : a.Tame) {p : Char} (hp : precedesAttribute p = true) (t : Text) :
    readAttribute? ⟨p, a.html ++ t⟩ = some (a, skipGaps '"' t) := by
  obtain ⟨name, value⟩ := a
  obtain ⟨x, name, rfl⟩ := List.exists_cons_of_ne_nil h.nonempty
  have rest : RunOf isAttributeNameRest (x :: name) :=
    fun y hy => isAttributeNameRest_of_nameChar (h.name y hy)
  have hx := isAttributeNameRest_iff.1 (rest x List.mem_cons_self)
  have html : (⟨x :: name, value⟩ : Attribute).html ++ t =
      x :: (name ++ '=' :: '"' :: (value ++ '"' :: t)) := by simp [Attribute.html]
  have behind (u : Text) (y : Char) (hy : ('=' :: u).head? = some y) :
      isAttributeNameRest y = false := by
    cases hy
    rfl
  have hname : RunOf isAttributeNameRest name := fun y hy => rest y (List.mem_cons_of_mem x hy)
  have hlower : Text.lower (x :: name) = x :: name := h.lower
  rw [html, readAttribute?]
  simp only [hp, hx, Bool.not_true, decide_false, Bool.or_self, Bool.false_eq_true, ↓reduceIte,
    hname.takeWhile_append (behind _), hname.dropWhile_append (behind _),
    readValue?_quoted h.quote, Option.getD_some, hlower]

theorem skipGaps_html (h : a.Tame) (p : Char) (t : Text) :
    skipGaps p (a.html ++ t) = ⟨p, a.html ++ t⟩ := by
  obtain ⟨x, name, hn⟩ := List.exists_cons_of_ne_nil h.nonempty
  obtain ⟨hs, -, -, hb⟩ :=
    isAttributeNameRest_iff.1 (isAttributeNameRest_of_nameChar (h.name x (by simp [hn])))
  rw [Attribute.html, hn]
  exact skipGaps_eq hs hb p _

/-- The attributes in a tag are those that it was written from, repeated ones too. -/
theorem readAttributes_html (h : ∀ a ∈ as, a.Tame) (p : Char) (t : Text) {bound : Text}
    (hb : as.length ≤ bound.length) :
    readAttributes bound (skipGaps p (as.flatMap (fun a => ' ' :: a.html) ++ '>' :: t)) =
      (as, '>' :: t) := by
  induction as generalizing p bound with
  | nil =>
    rw [List.flatMap_nil, List.nil_append, skipGaps_eq (by decide) (by decide)]
    simp [readAttributes, readAttribute?]
  | cons a as ih =>
    have ha := h a List.mem_cons_self
    cases bound with
    | nil => simp at hb
    | cons y bound =>
      have hp : precedesAttribute ' ' = true := by decide
      have behind := ih (fun b hb => h b (List.mem_cons_of_mem a hb)) '"'
        (Nat.le_of_succ_le_succ hb)
      rw [List.flatMap_cons, List.cons_append, List.cons_append, skipGaps_blank, List.append_assoc,
        skipGaps_html ha]
      unfold readAttributes
      simp only [readAttribute?_html ha hp, behind]

theorem length_le_skipGaps (h : ∀ a ∈ as, a.Tame) (p : Char) (t : Text) :
    as.length ≤ (skipGaps p (as.flatMap (fun a => ' ' :: a.html) ++ '>' :: t)).rest.length := by
  have flat (bs : List Attribute) :
      bs.length ≤ (bs.flatMap fun a => ' ' :: a.html).length := by
    induction bs with
    | nil => exact Nat.zero_le _
    | cons b bs ih =>
      simp only [List.flatMap_cons, List.length_append, List.length_cons]
      omega
  cases as with
  | nil => exact Nat.zero_le _
  | cons a as =>
    rw [List.flatMap_cons, List.cons_append, List.cons_append, skipGaps_blank, List.append_assoc,
      skipGaps_html (h a List.mem_cons_self)]
    have := flat as
    simp only [List.length_append, List.length_cons]
    omega

/-- The name of an element that its tags give back. A blank at its end would not be taken for a
part of it in the end tag. -/
structure TagName (n : Text) : Prop where
  letter : ∃ c ∈ n.head?, c.isLower = true
  lower : Text.lower n = n
  unbroken : RunOf (!endsTagName ·) n
  last : ∀ c ∈ n.getLast?, isBlank c = false

theorem TagName.exists_eq_cons (h : TagName n) : ∃ c r, n = c :: r ∧ c.isLower = true := by
  obtain ⟨c, hc, hl⟩ := h.letter
  cases n with
  | nil => cases hc
  | cons x r =>
    cases hc
    exact ⟨c, r, rfl, hl⟩

theorem readStartTag_html (hn : TagName n) (h : ∀ a ∈ as, a.Tame) (t : Text) :
    readStartTag (n ++ (as.flatMap (fun a => ' ' :: a.html) ++ '>' :: t)) =
      .whole ⟨n, as, false⟩ t := by
  have stops (x : Char)
      (hx : (as.flatMap (fun a => ' ' :: a.html) ++ '>' :: t).head? = some x) :
      (!endsTagName x) = false := by
    rcases Head.head?_behindName as t x hx with rfl | rfl <;> rfl
  rw [readStartTag, hn.unbroken.takeWhile_append stops, hn.unbroken.dropWhile_append stops]
  simp only [readAttributes_html h _ t (length_le_skipGaps h _ t), hn.lower,
    unescapeAttributes_eq h]
  rfl

theorem isLetter_of_isLower (h : c.isLower = true) : isLetter c = true :=
  Bool.or_eq_true_iff.2 (.inr h)

theorem step_startTag (hn : TagName n) (hr : n ∉ rawNames) (h : ∀ a ∈ as, a.Tame) (t : Text) :
    step false '<' (n ++ (as.flatMap (fun a => ' ' :: a.html) ++ '>' :: t)) =
      .read [.start ⟨n, as, false⟩] t := by
  have read := readStartTag_html hn h t
  obtain ⟨c, r, rfl, hc⟩ := hn.exists_eq_cons
  rw [step, if_pos rfl, List.cons_append, stepAngle, if_pos (isLetter_of_isLower hc), stepStartTag,
    ← List.cons_append, read]
  · simp [hr]
  -- a letter begins none of the other things that stand in angle brackets
  · exact fun e => ne_of_class hc rfl e
  · exact fun e => ne_of_class hc rfl e
  · exact fun e => ne_of_class hc rfl e

theorem isBlank_of_isLower (h : c.isLower = true) : isBlank c = false := by
  change (decide ('a'.val ≤ c.val) && decide (c.val ≤ 'z'.val)) = true at h
  simp only [Bool.and_eq_true, decide_eq_true_eq] at h
  have hlow : 97 ≤ c.toNat := UInt32.le_iff_toNat_le.1 h.1
  have hup : c.toNat ≤ 122 := UInt32.le_iff_toNat_le.1 h.2
  have hn : c.toNat < 128 := by omega
  simp only [isBlank, if_pos hn, Bool.or_eq_false_iff, Bool.and_eq_false_iff, decide_eq_false_iff_not]
  omega

/-- If blanks alone follow the part of the name that an end tag shows at first, none do. -/
theorem TagName.plainEndTagName?_eq (hn : TagName n) {m : Text}
    (h : plainEndTagName? n = some m) : m = n := by
  have hlast := hn.last
  obtain ⟨c, r, rfl, hc⟩ := hn.exists_eq_cons
  rw [plainEndTagName?, List.dropWhile_cons_of_neg (by simp [isBlank_of_isLower hc])] at h
  simp only [isLetter_of_isLower hc, Bool.true_and] at h
  split at h
  · next hb =>
    cases h
    have split := List.takeWhile_append_dropWhile (p := isEndTagNameChar) (l := r)
    have none : r.dropWhile isEndTagNameChar = [] := by
      cases hx : (r.dropWhile isEndTagNameChar).getLast? with
      | none => exact List.getLast?_eq_none_iff.1 hx
      | some x =>
        have hl : (c :: r).getLast? = some x := by
          rw [← split, ← List.cons_append, List.getLast?_append, hx, Option.some_or]
        have blank := List.all_eq_true.1 hb x (List.mem_of_getLast? hx)
        simp [hlast x hl] at blank
    rw [none, List.append_nil] at split
    rw [split]
  · cases h

/-- The name in an end tag is all of what stands there. -/
theorem step_endTag (hn : TagName n) (t : Text) :
    step false '<' ('/' :: (n ++ '>' :: t)) = .read [.finish n] t := by
  have hg : '>' ∉ n := hn.unbroken.not_mem rfl
  rw [step, if_pos rfl, stepAngle, stepEndTag, Text.cut?_append hg]
  cases hp : plainEndTagName? n with
  | some m =>
    obtain rfl := hn.plainEndTagName?_eq hp
    simp only [hp, hn.lower]
  | none =>
    have lower := hn.lower
    have all : n.takeWhile (!endsTagName ·) = n := by
      simpa using hn.unbroken.takeWhile_append (u := []) (by simp)
    obtain ⟨c, r, rfl, hc⟩ := hn.exists_eq_cons
    simp only [hp, isLetter_of_isLower hc, ↓reduceIte, all, lower]

theorem isPlain_iff : isPlain c = true ↔ c ≠ '<' ∧ c ≠ '&' := by
  simp [isPlain]

theorem runOf_isPlain (tags : '<' ∉ t) (references : '&' ∉ t) : RunOf isPlain t :=
  fun _ hx => isPlain_iff.2 ⟨fun e => tags (e ▸ hx), fun e => references (e ▸ hx)⟩

/-- A text ends where a tag begins. -/
theorem isPlain_of_tag (t : Text) (x : Char) (h : ('<' :: t).head? = some x) :
    isPlain x = false := by
  cases h
  rfl

/-- The first pass goes from one thing to the next and makes all of them out. -/
inductive ScansTo : Text → List Token → Prop where
  | nil : ScansTo [] []
  | read {c : Char} {t r : Text} {ts us : List Token} (step : step false c t = .read ts r)
      (shorter : r.length ≤ t.length) (rest : ScansTo r us) : ScansTo (c :: t) (ts ++ us)

namespace ScansTo

variable {s : Text} {ts : List Token}

/-- The bound is never used up, since every step leaves less of the text. -/
theorem scanFirst_eq (h : ScansTo t ts) {bound : Text} (hb : t.length ≤ bound.length) :
    scanFirst bound t = .ok ts := by
  induction h generalizing bound with
  | nil =>
    unfold scanFirst
    split
    · next h => cases h
    · rfl
  | @read c t r ts us step shorter _ ih =>
    cases bound with
    | nil => simp at hb
    | cons x bound =>
      rw [List.length_cons, List.length_cons] at hb
      have hr : r.length ≤ bound.length := by omega
      simp only [scanFirst, step, ih hr]
      rfl

theorem scan_eq (h : ScansTo t ts) : scan t = .ok ts := h.scanFirst_eq (Nat.le_refl _)

/-- A text is one token, or none if it is empty. -/
theorem text (ht : RunOf isPlain t) (hs : ∀ x, s.head? = some x → isPlain x = false)
    (h : ScansTo s ts) : ScansTo (t ++ s) (Token.data t ++ ts) := by
  cases t with
  | nil => exact h
  | cons c t =>
    have hc := isPlain_iff.1 (ht c List.mem_cons_self)
    have hr : RunOf isPlain t := fun x hx => ht x (List.mem_cons_of_mem c hx)
    refine .read (t := t ++ s) ?_ (by simp) h
    rw [step, if_neg hc.1, if_neg hc.2, hr.takeWhile_append hs, hr.dropWhile_append hs]
    rfl

theorem startTag (hn : TagName n) (hr : n ∉ rawNames) (ha : ∀ a ∈ as, a.Tame)
    (h : ScansTo t ts) :
    ScansTo ('<' :: (n ++ (as.flatMap (fun a => ' ' :: a.html) ++ '>' :: t)))
      (.start ⟨n, as, false⟩ :: ts) :=
  .read (step_startTag hn hr ha t) (by simp; omega) h

theorem endTag (hn : TagName n) (h : ScansTo t ts) :
    ScansTo ('<' :: '/' :: (n ++ '>' :: t)) (.finish n :: ts) :=
  .read (step_endTag hn t) (by simp; omega) h

end ScansTo

end Markup

/-- The name begins with a letter, and it and those of the attributes are in lower case. Ids, classes
and the names of attributes are spelled in the characters of names. No element of the name is empty
always or keeps its space. -/
structure Head.Tame (h : Head) : Prop where
  letter : ∃ c ∈ h.name.head?, c.isLower = true
  lower : Text.lower h.name = h.name
  id : ∀ i ∈ h.id, RunOf isNameChar i
  classes : ∀ cs ∈ h.classes, ∀ c ∈ cs, RunOf isNameChar c
  attributes : ∀ as ∈ h.attributes, ∀ a ∈ as, a.Tame
  doctype : h.name ≠ doctypeName
  filled : h.name ∉ Markup.voidNames
  unkept : h.name ∉ Layout.preservedNames false

/-- No character in the name ends it inside a tag, and none at its end is blank. -/
structure Head.Readable (h : Head) : Prop extends h.Tame where
  unbroken : RunOf (!Markup.endsTagName ·) h.name
  last : ∀ c ∈ h.name.getLast?, isBlank c = false

/-- Nodes whose texts are nothing but text. The heads of elements are in `p`, except those of which
nothing but the name is written. -/
inductive TameContent (p : Head → Prop) : List Node → Prop where
  | nil : TameContent p []
  | text {t : Text} {ns : List Node} (tags : '<' ∉ t) (references : '&' ∉ t)
      (rest : TameContent p ns) : TameContent p (.text t :: ns)
  | void {h : Head} {content ns : List Node} (name : h.name = voidName)
      (rest : TameContent p ns) : TameContent p (.element h content :: ns)
  | element {h : Head} {content ns : List Node} (head : p h) (inside : TameContent p content)
      (rest : TameContent p ns) : TameContent p (.element h content :: ns)

namespace Head

variable {h : Head}

theorem Readable.tagName (hh : h.Readable) : Markup.TagName h.name :=
  ⟨hh.letter, hh.lower, hh.unbroken, hh.last⟩

theorem Tame.name_ne_void (hh : h.Tame) : h.name ≠ voidName := by
  intro hv
  refine hh.filled ?_
  rw [hv]
  decide

theorem Tame.pairs (hh : h.Tame) : ∀ a ∈ h.pairs, a.Tame := by
  refine forall_pairs (fun i hi => ?_) (fun cs hcs => ?_) hh.attributes
  · have name : RunOf isAttributeNameChar ("id" : Text) := by decide
    have value := hh.id i hi
    exact ⟨by simp, name, rfl, value.not_mem rfl, value.not_mem rfl⟩
  · have name : RunOf isAttributeNameChar ("class" : Text) := by decide
    have blank : RunOf (fun c => isNameChar c || c = ' ') [' '] := by decide
    have inside : ∀ c ∈ cs, RunOf (fun x => isNameChar x || x = ' ') c :=
      fun c hc x hx => by simp [hh.classes cs hcs c hc x hx]
    have value := blank.intercalate inside
    exact ⟨by simp, name, rfl, value.not_mem rfl, value.not_mem rfl⟩

end Head

open Markup

mutual

/-- The tokens of a node. Texts that meet are one token, with the text `before` in front. -/
def Node.tokens : Node → List Token
  | .text t => Token.data t
  | .element h content =>
    if h.name = voidName then [.start ⟨voidName, [], false⟩]
    else .start ⟨h.name, h.pairs, false⟩ :: Node.tokensOf [] content ++ [.finish h.name]

def Node.tokensOf (before : Text) : List Node → List Token
  | [] => Token.data before
  | n :: ns =>
    match n with
    | .text t => Node.tokensOf (before ++ t) ns
    | .element _ _ => Token.data before ++ n.tokens ++ Node.tokensOf [] ns

end

theorem voidName_tagName : TagName voidName :=
  ⟨⟨'b', rfl, rfl⟩, rfl, by decide, fun _ hc => Option.some.inj hc ▸ rfl⟩

theorem rawNames_subset_preservedNames : rawNames ⊆ Layout.preservedNames false := by decide

/-- Flat HTML is cut where it was put together. -/
theorem TameContent.scansTo {ns : List Node} (hn : TameContent Head.Readable ns) {before s : Text}
    {ts : List Token} (hb : RunOf isPlain before) (hs : ∀ x, s.head? = some x → isPlain x = false)
    (h : ScansTo s ts) :
    ScansTo (before ++ (ns.flatMap Node.html ++ s)) (Node.tokensOf before ns ++ ts) := by
  have empty : RunOf isPlain [] := by decide
  -- a text comes to `before` until a tag ends both
  induction hn generalizing before s ts with
  | nil => exact .text hb hs h
  | @text t ns tags references _ ih =>
    rw [List.flatMap_cons, Node.html_text, Node.tokensOf, List.append_assoc, ← List.append_assoc]
    exact ih (hb.append (runOf_isPlain tags references)) hs h
  | @void k content ns hv _ ih =>
    have tag (u : Text) : ("<br>" : Text) ++ u =
        '<' :: (voidName ++ (([] : List Attribute).flatMap (fun a => ' ' :: a.html) ++ '>' :: u)) :=
      rfl
    rw [List.flatMap_cons, Node.html_void hv, Node.tokensOf, Node.tokens, if_pos hv,
      List.append_assoc, tag, List.append_assoc, List.append_assoc]
    exact .text hb (isPlain_of_tag _)
      (.startTag voidName_tagName (by decide) (by simp) (ih empty hs h))
  | @element k content ns hk _ _ ihinside ih =>
    have hr : k.name ∉ rawNames := fun hm => hk.unkept (rawNames_subset_preservedNames hm)
    rw [List.flatMap_cons, Node.html_element hk.name_ne_void, Node.tokensOf, Node.tokens,
      if_neg hk.name_ne_void]
    simp only [List.append_assoc, List.cons_append]
    rw [Head.openingTag_append hk.doctype, Head.closingTag_append hk.doctype]
    exact .text hb (isPlain_of_tag _) (.startTag hk.tagName hr hk.pairs
      (ihinside empty (isPlain_of_tag _) (.endTag hk.tagName (ih empty hs h))))

end CurlyMarkup
