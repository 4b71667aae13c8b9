import CurlyMarkup.Proofs.Descent
import CurlyMarkup.Proofs.Follows
import CurlyMarkup.Proofs.Tokens
set_option autoImplicit false

namespace CurlyMarkup

/-- The rule follows the language wherever it is run. -/
def Rule.Follows {α : Type} (r : Rule α) (L : Text → α → Prop) : Prop :=
  ∀ c, (r.run c).Follows L c

namespace Rule.Follows

variable {α β : Type} {r : Rule α} {s : Rule β} {L : Text → α → Prop} {M : Text → β → Prop}

/-- What has been read where the rule succeeds. -/
theorem of_run (h : r.Follows L) {c d : Cursor} {a : α} (hr : r.run c = .ok a d) :
    ∃ w, c.Reads w d ∧ Text.Closed w ∧ L w a := by
  have hf := h c
  rwa [hr] at hf

theorem literal {t u expected : Text} {x : Char} (ht : u = x :: t)
    (hq : Quoting.outside.after (x :: t) = .outside)
    (he : expected ≠ unknownEscape) :
    (literal u expected).Follows fun s _ => s = x :: t := by
  intro c
  rcases literal_cases ht expected c with ⟨d, hd, hr⟩ | ⟨-, hr⟩
  · rw [hr]
    exact ⟨_, hd, hq, rfl⟩
  · rw [hr]
    exact .missing (a := u) rfl he

theorem takeWhile {p : Char → Bool} (hq : p '"' = false) :
    (takeWhile p).Follows fun s a => a = s ∧ RunOf p s := by
  intro c
  obtain ⟨s, d, h, hs, hd⟩ := takeWhile_reads p c
  rw [run_takeWhile_ok h hs hd]
  exact ⟨s, h, Quoting.outside_after hs hq, rfl, hs⟩

theorem takeWhile1 {p : Char → Bool} {x : Char} {expected : Text} (hx : p x = true)
    (hq : p '"' = false) (he : expected ≠ unknownEscape) :
    (takeWhile1 p expected).Follows fun s a => a = s ∧ WordOf p s := by
  intro c
  rcases takeWhile1_cases p expected c with ⟨s, d, h, hs, -, hr⟩ | ⟨-, hr⟩
  · rw [hr]
    exact ⟨s, h, Quoting.outside_after hs.run hq, rfl, hs⟩
  · rw [hr]
    exact .missing (s := [x]) (a := [x]) ⟨rfl, by simp, by simpa [RunOf] using hx⟩ he

theorem endOfText {expected : Text} (he : expected ≠ unknownEscape) :
    (endOfText expected).Follows fun s _ => s = [] := by
  intro c
  rw [run_endOfText]
  split
  · exact ⟨[], .refl c, .nil, rfl⟩
  · exact .missing (a := ()) rfl he

theorem map {N : Text → β → Prop} {f : α → β} (h : r.Follows L) (hf : ∀ s a, L s a → N s (f a)) :
    (r.map f).Follows N := fun c => .map (h c) hf

/-- A pair needs its second rule only where the first one leads to. -/
theorem run_pair {N : Text → α × β → Prop} {c : Cursor} (h : (r.run c).Follows L c)
    (k : ∀ a d, r.run c = .ok a d → (s.run d).Follows M d) (hm : ∃ t b, M t b)
    (hn : ∀ u a v b, L u a → M v b → N (u ++ v) (a, b)) : ((pair r s).run c).Follows N c :=
  .bind (M := fun a t p => p.1 = a ∧ M t p.2) h
    (fun a d hd => .map (k a d hd) fun _ _ hb => ⟨rfl, hb⟩)
    (fun _ a _ => by
      obtain ⟨t, b, hb⟩ := hm
      exact ⟨t, (a, b), rfl, hb⟩)
    (fun u a v p ha hb => by
      obtain ⟨a', b⟩ := p
      obtain ⟨rfl, hb⟩ := hb
      exact hn u _ v b ha hb)

theorem pair {N : Text → α × β → Prop} (h : r.Follows L) (k : s.Follows M) (hm : ∃ t b, M t b)
    (hn : ∀ u a v b, L u a → M v b → N (u ++ v) (a, b)) : (pair r s).Follows N :=
  fun c => run_pair (h c) (fun _ d _ => k d) hm hn

theorem preceded {N : Text → β → Prop} (h : r.Follows L) (k : s.Follows M) (hm : ∃ t b, M t b)
    (hn : ∀ u a v b, L u a → M v b → N (u ++ v) b) : (preceded r s).Follows N :=
  .map (.pair (N := fun s p => N s p.2) h k hm hn) fun _ _ h => h

theorem terminated {N : Text → α → Prop} (h : r.Follows L) (k : s.Follows M) (hm : ∃ t b, M t b)
    (hn : ∀ u a v b, L u a → M v b → N (u ++ v) a) : (terminated r s).Follows N :=
  .map (.pair (N := fun s p => N s p.1) h k hm hn) fun _ _ h => h

theorem orElse {r' : Rule α} (h : r.Follows L) (k : r'.Follows L) : (orElse r r').Follows L :=
  fun c => .recover (h c) fun _ => k c

theorem relabel {expected : Text} (h : r.Follows L) (hl : ∃ s a, L s a)
    (he : expected ≠ unknownEscape) : (relabel expected r).Follows L := by
  obtain ⟨s, a, hs⟩ := hl
  exact fun c => .recover (h c) fun _ => .missing hs he

theorem optional (h : r.Follows L) : (optional r).Follows (OptionalWord L) :=
  fun c => .recover (.map (h c) fun _ _ hl => .present hl) fun _ => ⟨[], .refl c, .nil, .absent⟩

theorem commit (h : r.Follows L) : r.commit.Follows L := fun c => .commit (h c)

theorem blame {k : Construct} (h : r.Follows L) (hk : k ≠ .string) : (r.blame k).Follows L :=
  fun c => .blame (h c) hk

theorem mono {N : Text → α → Prop} (h : r.Follows L) (hn : ∀ s a, L s a → N s a) :
    r.Follows N := by
  intro c
  rw [← Result.map_id (r.run c)]
  exact .map (h c) hn

/-- A repetition needs its item only as far as the text reaches. -/
theorem run_many {c : Cursor}
    (h : ∀ d, d.rest.length ≤ c.rest.length → (r.run d).Follows L d) :
    ((many r).run c).Follows (ManyWords L) c := by
  rw [Rule.run_many]
  generalize c.rest = bound
  fun_induction Result.many r.run bound c with
  | case1 | case5 => exact ⟨[], .refl _, .nil, .nil⟩
  | case2 | case6 => trivial
  | case3 c a d hd _ _ _ ih =>
    have hc := h c (Nat.le_refl _)
    rw [hd] at hc
    obtain ⟨s, hr, hs, hl⟩ := hc
    have hle := (r.leadsFrom c a d hd).length_le
    exact .cons hr hs hl (ih fun e he => h e (Nat.le_trans he hle))
  | case4 bound c f hf =>
    have hc := h c (Nat.le_refl _)
    rw [hf] at hc
    obtain ⟨s, hr, hb, t, a, hl⟩ := hc
    exact ⟨s, hr, hb, t, [a], .single hl⟩

theorem many (h : r.Follows L) : (many r).Follows (ManyWords L) := fun _ => run_many fun d _ => h d

/-- The items after the first one. A separator that no item follows is given back. -/
theorem rounds {K : Text → Prop} (h : r.Follows L) (k : s.Follows fun u _ => K u)
    (hl : ∃ t a, L t a) (bound : Text) (c : Cursor) :
    (Result.separated r.run s.run bound c).Follows (ManyWords (AfterWord K L)) c := by
  fun_induction Result.separated r.run s.run bound c with
  | case1 | case5 | case8 => trivial
  | case4 | case7 => exact ⟨[], .refl _, .nil, .nil⟩
  | case2 c b d hd a e he _ _ ih =>
    have hs := k c
    have hi := h d
    rw [hd] at hs
    rw [he] at hi
    obtain ⟨v, hv, hvc, hk⟩ := hs
    obtain ⟨w, hw, hwc, hl⟩ := hi
    exact .cons (hv.trans hw) (hvc.append hwc) (.mk hk hl) ih
  | case3 bound c b d hd f hf =>
    have hs := k c
    have hi := h d
    rw [hd] at hs
    rw [hf] at hi
    obtain ⟨v, hv, hvc, hk⟩ := hs
    obtain ⟨w, hw, hwb, t, a, hl⟩ := hi
    refine ⟨v ++ w, hv.trans hw, hwb.prepend hvc, t, [a], .single ?_⟩
    simpa using AfterWord.mk hk hl
  | case6 bound c f hf =>
    have hs := k c
    rw [hf] at hs
    obtain ⟨v, hv, hvb, t, b, hk⟩ := hs
    obtain ⟨w, a, hl⟩ := hl
    refine ⟨v, hv, hvb, t ++ w, [a], .single ?_⟩
    simpa using AfterWord.mk hk hl

theorem separated {K : Text → Prop} (h : r.Follows L) (k : s.Follows fun u _ => K u)
    (hl : ∃ t a, L t a) : (separated r s).Follows (SeparatedWords K L) := by
  intro c
  have hc := h c
  rw [run_separated]
  cases hr : r.run c with
  | ok a d =>
    rw [hr] at hc
    obtain ⟨u, hu, huc, hl'⟩ := hc
    have hm : ((Result.separated r.run s.run d.rest d).map (a :: ·)).Follows
        (fun t as => ∃ bs, as = a :: bs ∧ ManyWords (AfterWord K L) t bs) d :=
      .map (rounds h k hl d.rest d) fun _ bs hb => ⟨bs, rfl, hb⟩
    refine .prepend hu huc hm fun t as hb => ?_
    obtain ⟨bs, rfl, hb⟩ := hb
    exact .cons hl' hb
  | fail f =>
    rw [hr] at hc
    simp only
    split
    · obtain ⟨u, hu, hb, t, a, hl'⟩ := hc
      exact ⟨u, hu, hb, t, [a], by simpa using SeparatedWords.cons hl' .nil⟩
    · exact ⟨[], .refl c, .nil, .nil⟩
  | endless => trivial

end Rule.Follows

namespace Grammar

open Rule

theorem stringWord_nil : StringWord ['"', '"'] [] := .mk .nil

theorem nameWord_a : NameWord ['a'] := by decide

theorem blankWord_nil : BlankWord [] := by decide

theorem blanks_follows : blanks.Follows fun s a => a = s ∧ BlankWord s := .takeWhile (by decide)

theorem blanks1_follows {expected : Text} (h : expected ≠ unknownEscape) :
    (blanks1 expected).Follows fun s a => a = s ∧ WordOf isBlank s :=
  .takeWhile1 (x := ' ') (by decide) (by decide) h

theorem identifier_follows : identifier.Follows fun s a => a = s ∧ NameWord s :=
  .takeWhile1 (x := 'a') (by decide) (by decide) (by decide)

theorem string_follows : string.Follows StringWord := by
  intro c
  rcases string_cases c with hq | ⟨s, v, d, e, hb, hd, he, hend | ⟨f, hf⟩ | hbad⟩
  · rw [run_string_fail hq]
    exact .missing stringWord_nil (by decide)
  · rw [run_string_unclosed hb hd he hend]
    have hn : ("closing quote '\"'" : Text) ≠ unknownEscape := by decide
    refine ⟨_, hd.trans he, ⟨⟨[], ?_⟩, ?_, fun h => absurd h hn, fun _ => .inr hend⟩, ['"'], v, ?_⟩
    · rw [Failure.begun_eq_nil hn]
      exact hend
    · simp [Quoting.step, Quoting.inside_after hb]
    · rw [Failure.begun_eq_nil hn, List.append_nil]
      exact .mk hb
  · rw [run_string_closed hb hd he hf]
    exact ⟨_, (hd.trans he).trans hf, Quoting.outside_after_string (.mk hb), .mk hb⟩
  · obtain ⟨r, hr, hx⟩ := hbad
    rw [run_string_badEscape hb hd he ⟨r, hr, hx⟩]
    refine ⟨_, hd.trans he, ⟨⟨r, ?_⟩, ?_, fun _ => rfl, fun _ => .inl rfl⟩, ['n', '"'],
      v ++ ['\n'], ?_⟩
    · rw [Failure.begun_eq rfl]
      exact hr
    · simp [Quoting.step, Quoting.inside_after hb]
    · rw [Failure.begun_eq rfl]
      simpa using StringWord.mk (hb.append (.newline .nil))

theorem id_follows : id.Follows IdWord :=
  .preceded (.literal rfl (by decide) (by decide)) (.commit identifier_follows)
    ⟨_, _, rfl, nameWord_a⟩ fun _ _ _ _ hu ⟨hv, hn⟩ => by subst hu hv; exact .mk hn

theorem cssClass_follows : cssClass.Follows ClassWord :=
  .preceded (.literal rfl (by decide) (by decide)) (.commit identifier_follows)
    ⟨_, _, rfl, nameWord_a⟩ fun _ _ _ _ hu ⟨hv, hn⟩ => by subst hu hv; exact .mk hn

theorem attributePair_follows : attributePair.Follows AttributeWord := by
  have hv : attributeValue.Follows fun s v => ∃ t, s = '=' :: t ∧ StringWord t v :=
    .preceded (.literal rfl (by decide) (by decide))
      (.relabel string_follows ⟨_, _, stringWord_nil⟩ (by decide)) ⟨_, _, stringWord_nil⟩
      fun _ _ v _ hu hs => ⟨v, by rw [hu]; rfl, hs⟩
  have hn : attributeName.Follows fun s a => a = s ∧ AttributeNameWord s :=
    .takeWhile1 (x := 'a') (by decide) (by decide) (by decide)
  refine .map (.pair (N := fun s p => AttributeWord s ⟨p.1, p.2⟩) hn (.commit hv)
    ⟨_, _, _, rfl, stringWord_nil⟩ fun u a v b hu hb => ?_) fun _ _ h => h
  obtain ⟨rfl, hu⟩ := hu
  obtain ⟨t, rfl, ht⟩ := hb
  exact .mk hu ht

theorem attributeWord_a : AttributeWord ['a', '=', '"', '"'] ⟨['a'], []⟩ :=
  .mk (n := ['a']) (by decide) stringWord_nil

theorem closer_follows {x : Char} {u expected : Text} (hu : u = [x]) (hq : x ≠ '"')
    (he : expected ≠ unknownEscape) :
    (pair blanks (literal u expected)).Follows fun s _ => ∃ w, BlankWord w ∧ s = w ++ [x] := by
  refine .pair blanks_follows (.literal hu ?_ he) ⟨_, [], rfl⟩
    fun u _ v _ hb hv => ⟨u, hb.2, by rw [hv]⟩
  simp [Quoting.step, hq]

theorem attributeList_follows : attributeList.Follows fun s as =>
    ∃ w t w', s = w ++ t ++ w' ++ [']'] ∧ BlankWord w ∧
      SeparatedWords (WordOf isBlank) AttributeWord t as ∧ BlankWord w' := by
  have hl : (separated attributePair (blanks1 "whitespace")).Follows
      (SeparatedWords (WordOf isBlank) AttributeWord) :=
    .separated attributePair_follows (.mono (blanks1_follows (by decide)) fun _ _ h => h.2)
      ⟨_, _, attributeWord_a⟩
  have hc : (pair blanks (literal "]" "attribute or closing bracket ']'")).Follows
      fun s _ => ∃ w, BlankWord w ∧ s = w ++ [']'] := closer_follows rfl (by decide) (by decide)
  refine .preceded (M := fun s as => ∃ t w', s = t ++ w' ++ [']'] ∧
      SeparatedWords (WordOf isBlank) AttributeWord t as ∧ BlankWord w') blanks_follows
    (.terminated hl hc ⟨_, ([], []), [], blankWord_nil, rfl⟩ ?_)
    ⟨_, [], [], [], rfl, .nil, blankWord_nil⟩ ?_
  · intro u as v _ hu hv
    obtain ⟨w', hw', rfl⟩ := hv
    exact ⟨u, w', by simp, hu, hw'⟩
  · intro w _ v as hw hv
    obtain ⟨t, w', rfl, ht, hw'⟩ := hv
    exact ⟨w, t, w', by simp, hw.2, ht, hw'⟩

theorem attributes_follows : attributes.Follows AttributesWord := by
  refine .preceded (.literal (x := '[') rfl (by decide) (by decide)) (.commit attributeList_follows)
    ⟨_, [], [], [], [], rfl, blankWord_nil, .nil, blankWord_nil⟩ ?_
  intro u _ v as hu hv
  obtain ⟨w, t, w', rfl, hw, ht, hw'⟩ := hv
  subst hu
  simpa using AttributesWord.mk hw ht hw'

theorem selectors_follows : selectors.Follows SelectorsWord := by
  have hc : (pair blanks openingBrace).Follows fun s _ => ∃ w, BlankWord w ∧ s = w ++ ['\x7b'] :=
    closer_follows rfl (by decide) (by decide)
  have ha : (preceded blanks (optional attributes)).Follows
      fun s as => ∃ w u, s = w ++ u ∧ BlankWord w ∧ OptionalWord AttributesWord u as :=
    .preceded blanks_follows (.optional attributes_follows) ⟨_, _, .absent⟩
      fun w _ u _ hw hu => ⟨w, u, rfl, hw.2, hu⟩
  have hk : (pair classes (preceded blanks (optional attributes))).Follows fun s p =>
      ∃ t w u, s = t ++ w ++ u ∧ ManyWords ClassWord t p.1 ∧ BlankWord w ∧
        OptionalWord AttributesWord u p.2 := by
    refine .pair (.many cssClass_follows) ha ⟨_, _, [], [], rfl, blankWord_nil, .absent⟩ ?_
    intro t cs _ as ht hv
    obtain ⟨w, u, rfl, hw, hu⟩ := hv
    exact ⟨t, w, u, by simp, ht, hw, hu⟩
  have hp : (pair (optional id) (pair classes (preceded blanks (optional attributes)))).Follows
      fun s p => ∃ v t w u, s = v ++ t ++ w ++ u ∧ OptionalWord IdWord v p.1 ∧
        ManyWords ClassWord t p.2.1 ∧ BlankWord w ∧ OptionalWord AttributesWord u p.2.2 := by
    refine .pair (.optional id_follows) hk
      ⟨_, ([], none), [], [], [], rfl, .nil, blankWord_nil, .absent⟩ ?_
    intro v i _ p hv hs
    obtain ⟨t, w, u, rfl, ht, hw, hu⟩ := hs
    exact ⟨v, t, w, u, by simp, hv, ht, hw, hu⟩
  refine .terminated hp hc ⟨_, ([], []), [], blankWord_nil, rfl⟩ ?_
  rintro _ ⟨i, cs, as⟩ _ _ ⟨v, t, w, u, rfl, hv, ht, hw, hu⟩ ⟨w', hw', rfl⟩
  simpa using SelectorsWord.mk hv ht hw hu hw'

theorem selectorsWord_brace : SelectorsWord ['\x7b'] (none, [], none) :=
  .mk .absent .nil blankWord_nil .absent blankWord_nil

theorem head_follows : head.Follows HeadWord := by
  have hn : tagName.Follows fun s a => a = s ∧ NameWord s :=
    .takeWhile1 (x := 'a') (by decide) (by decide) (by decide)
  refine .map (.pair (N := fun s p => HeadWord s ⟨p.1, p.2.1, classesOf p.2.2.1, p.2.2.2⟩) hn
    (.blame (.commit selectors_follows) (by decide)) ⟨_, _, selectorsWord_brace⟩ ?_) fun _ _ h => h
  rintro n _ s ⟨i, cs, as⟩ ⟨rfl, hn⟩ hs
  exact .mk hn hs

theorem headWord_a : HeadWord ['a', '\x7b'] ⟨['a'], none, none, none⟩ :=
  .mk (s := ['\x7b']) nameWord_a selectorsWord_brace

theorem closing_follows : closing.Follows fun s _ => ∃ w, BlankWord w ∧ s = w ++ ['\x7d'] :=
  .preceded blanks_follows
    (.commit (.blame (.literal (x := '\x7d') rfl (by decide) (by decide)) (by decide))) ⟨_, [], rfl⟩
    fun u _ _ _ hu hv => ⟨u, hu.2, by rw [hv]⟩

theorem run_item_follows {c : Cursor}
    (h : (element.run c.skipBlanks).Follows ElementWord c.skipBlanks) :
    (item.run c).Follows (AfterWord BlankWord ItemWord) c := by
  have hw := c.reads_takeWhile isBlank
  have hb : BlankWord (c.rest.takeWhile isBlank) := .takeWhile _ _
  rw [run_item]
  refine .prepend (K := ItemWord) hw (Quoting.outside_after hb (by decide)) (.recover (.recover
    (.map h fun _ _ he => .element he) fun _ => .map (string_follows _) fun _ _ hs => .string hs)
    fun _ => .missing (.string stringWord_nil) (by decide)) fun s n hn => .mk hb hn

theorem run_items_follows {c : Cursor}
    (h : ∀ d, d.rest.length ≤ c.rest.length → (element.run d).Follows ElementWord d) :
    (items.run c).Follows ContentWord c := by
  have hm : (items.run c).Follows (ManyWords (AfterWord BlankWord ItemWord)) c := by
    refine Rule.Follows.run_many fun d hd => run_item_follows (h _ ?_)
    simp only [Cursor.skipBlanks, Cursor.rest_skip, List.length_drop]
    omega
  rw [← Result.map_id (items.run c)]
  exact .map hm fun _ _ hw => contentWord_iff.2 hw

theorem element_follows : element.Follows ElementWord := by
  intro c
  induction hn : c.rest.length using Nat.strongRecOn generalizing c with
  | ind n ih =>
    -- the items stand behind the head, so the elements among them begin in a shorter text
    have hi : ∀ h d, head.run c = .ok h d → (items.run d).Follows ContentWord d := by
      intro h d hd
      have hlt := head_consumes c h d hd
      exact run_items_follows fun e he => ih _ (by omega) e rfl
    have hp : ((pair head items).run c).Follows
        (fun s p => ∃ u v, s = u ++ v ∧ HeadWord u p.1 ∧ ContentWord v p.2) c :=
      Rule.Follows.run_pair (head_follows c) hi ⟨_, _, .nil⟩
        fun u _ v _ hu hv => ⟨u, v, rfl, hu, hv⟩
    rw [run_element_content, ← run_elementByDescent]
    refine .map (Rule.Follows.run_pair (N := fun s p => ElementWord s ⟨p.1.1, p.1.2⟩) hp
      (fun _ d _ => closing_follows d) ⟨_, [], [], blankWord_nil, rfl⟩ ?_) fun _ _ h => h
    rintro _ ⟨h, ns⟩ _ _ ⟨u, v, rfl, hu, hv⟩ ⟨w, hw, rfl⟩
    simpa using ElementWord.mk hu hv hw

theorem elementWord_a : ElementWord ['a', '\x7b', '\x7d'] ⟨⟨['a'], none, none, none⟩, []⟩ :=
  .mk (s := ['a', '\x7b']) (t := []) (w := []) headWord_a .nil blankWord_nil

theorem doctypeKeyword_follows : doctypeKeyword.Follows fun s _ => DoctypeKeyword s := by
  have hl : (token "!doctype").Follows fun s _ => DoctypeKeyword s :=
    .mono (.literal (x := '!') rfl (by decide) (by decide)) fun _ _ h => by subst h; exact .lower
  have hu : (token "!DOCTYPE").Follows fun s _ => DoctypeKeyword s :=
    .mono (.literal (x := '!') rfl (by decide) (by decide)) fun _ _ h => by subst h; exact .upper
  exact .relabel (.orElse hl hu) ⟨_, [], .lower⟩ (by decide)

theorem doctypeBody_follows : doctypeBody.Follows fun s v => ∃ b w t w',
    s = b ++ '\x7b' :: w ++ t ++ w' ++ ['\x7d'] ∧ WordOf isBlank b ∧ BlankWord w ∧
      StringWord t v ∧ BlankWord w' := by
  have ho : (pair openingBrace blanks).Follows fun s _ => ∃ w, s = '\x7b' :: w ∧ BlankWord w :=
    .pair (.literal (x := '\x7b') rfl (by decide) (by decide)) blanks_follows
      ⟨_, [], rfl, blankWord_nil⟩ fun u _ w _ hu hw => ⟨w, by rw [hu]; rfl, hw.2⟩
  have hb : (pair (blanks1 "whitespace after '!doctype'") (pair openingBrace blanks)).Follows
      fun s _ => ∃ b w, s = b ++ '\x7b' :: w ∧ WordOf isBlank b ∧ BlankWord w := by
    refine .pair (blanks1_follows (by decide)) ho ⟨_, ([], []), [], rfl, blankWord_nil⟩ ?_
    intro b _ _ _ hb hv
    obtain ⟨w, rfl, hw⟩ := hv
    exact ⟨b, w, rfl, hb.2, hw⟩
  have hc : (pair blanks (literal "\x7d" "closing brace '\x7d'")).Follows
      fun s _ => ∃ w, BlankWord w ∧ s = w ++ ['\x7d'] := closer_follows rfl (by decide) (by decide)
  refine .preceded (M := fun s v => ∃ t w', s = t ++ w' ++ ['\x7d'] ∧ StringWord t v ∧ BlankWord w')
    hb (.terminated (.relabel string_follows ⟨_, _, stringWord_nil⟩ (by decide)) hc
      ⟨_, ([], []), [], blankWord_nil, rfl⟩ ?_) ⟨_, _, _, [], rfl, stringWord_nil, blankWord_nil⟩ ?_
  · intro t v _ _ ht hw
    obtain ⟨w', hw', rfl⟩ := hw
    exact ⟨t, w', by simp, ht, hw'⟩
  · intro u _ _ v hu hv
    obtain ⟨b, w, rfl, hb, hw⟩ := hu
    obtain ⟨t, w', rfl, ht, hw'⟩ := hv
    exact ⟨b, w, t, w', by simp, hb, hw, ht, hw'⟩

theorem doctype_follows : doctype.Follows DoctypeWord := by
  refine .map (.preceded (N := fun s v => DoctypeWord s (declaration v))
    (.blame doctypeKeyword_follows (by decide)) (.blame (.commit doctypeBody_follows) (by decide))
    ⟨_, _, [' '], [], _, [], rfl, by decide, blankWord_nil, stringWord_nil, blankWord_nil⟩ ?_)
    fun _ _ h => h
  intro k _ _ v hk hs
  obtain ⟨b, w, t, w', rfl, hb, hw, ht, hw'⟩ := hs
  have hd := DoctypeWord.mk hk hb hw ht hw'
  simp only [List.append_assoc, List.cons_append] at hd ⊢
  exact hd

theorem rootOnly_follows {expected : Text} (he : expected ≠ unknownEscape) :
    (rootOnly expected).Follows RootWord := by
  have hr : root.Follows ElementWord :=
    .blame (.relabel element_follows ⟨_, _, elementWord_a⟩ (by decide)) (by decide)
  have hf : (pair blanks (blame .element (endOfText expected))).Follows fun s _ => BlankWord s :=
    .pair blanks_follows (.blame (.endOfText he) (by decide)) ⟨_, (), rfl⟩
      fun w _ _ _ hw hv => by subst hv; simpa using hw.2
  refine .preceded (M := fun s e => ∃ t w', s = t ++ w' ∧ ElementWord t e ∧ BlankWord w')
    blanks_follows (.terminated hr hf ⟨_, ([], ()), blankWord_nil⟩ fun t e w' _ ht hw' =>
      ⟨t, w', rfl, ht, hw'⟩) ⟨_, _, _, [], rfl, elementWord_a, blankWord_nil⟩ ?_
  intro w _ _ e hw hs
  obtain ⟨t, w', rfl, ht, hw'⟩ := hs
  simpa using RootWord.mk hw.2 ht hw'

theorem prolog_follows : (preceded blanks doctype).Follows (AfterWord BlankWord DoctypeWord) :=
  .preceded blanks_follows doctype_follows
    ⟨_, _, .mk (b := [' ']) .lower (by decide) blankWord_nil stringWord_nil blankWord_nil⟩
    fun _ _ _ _ hw ht => .mk hw.2 ht

theorem document_follows : document.Follows DocumentWord := by
  refine .map (.pair (N := fun s p => DocumentWord s ⟨p.1, p.2⟩) prolog_follows
    (rootOnly_follows (by decide)) ⟨_, _, .mk blankWord_nil elementWord_a blankWord_nil⟩ ?_)
    fun _ _ h => h
  intro _ d t e hs ht
  obtain ⟨hw, hs⟩ := hs
  exact .mk hw hs ht

end Grammar

end CurlyMarkup
