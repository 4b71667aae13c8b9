import CurlyMarkup.Proofs.Completeness
import CurlyMarkup.Proofs.Follows
set_option autoImplicit false

/-!
What decides an outcome. A success depends on the text that is read and on the next character; a
failure depends on the text before it and on the one character that is refused, or on the two
characters of an unknown escape. Whatever comes behind may be changed.
-/

namespace CurlyMarkup

/-- How many characters behind its place bring a failure about. -/
def Failure.reach (f : Failure) : Nat := if f.expected = unknownEscape then 2 else 1

def Failure.moved (f : Failure) (c : Cursor) : Failure := { f with cursor := c }

theorem Failure.reach_pos (f : Failure) : 0 < f.reach := by
  rw [reach]
  split <;> simp

theorem BadEscape.congr {s t : Text} (h : BadEscape s) (ht : t.take 2 = s.take 2) :
    BadEscape t := by
  obtain ⟨r, rfl, hr⟩ := h
  cases t with
  | nil => simp at ht
  | cons x t =>
    simp only [List.take_succ_cons, List.cons.injEq] at ht
    have hh := congrArg List.head? ht.2
    simp only [List.head?_take, Nat.one_ne_zero, ↓reduceIte] at hh
    exact ⟨t, by rw [ht.1], fun y hy => hr y (hh ▸ hy)⟩

theorem Cursor.peek_of_take {c d : Cursor} {n : Nat} (hn : 0 < n)
    (h : d.rest.take n = c.rest.take n) : d.peek = c.peek := by
  have ht := congrArg List.head? h
  simpa [peek, List.head?_take, Nat.ne_of_gt hn] using ht

/-- The outcome of the step at the cursor depends on nothing else than what decides it. -/
structure DecidedAt {α : Type} (step : Cursor → Result α) (c : Cursor) : Prop where
  ok : ∀ {a d}, step c = .ok a d → ∃ s, c.Reads s d ∧
    ∀ {c' d'}, c'.Reads s d' → d'.peek = d.peek → step c' = .ok a d'
  fail : ∀ {f}, step c = .fail f → ∃ s, c.Reads s f.cursor ∧
    ∀ {c' e}, c'.Reads s e → e.rest.take f.reach = f.cursor.rest.take f.reach →
      step c' = .fail (f.moved e)

/-- Wherever the same character follows, an uncommitted failure comes again. -/
def Foreseen {α : Type} (step : Cursor → Result α) : Prop :=
  ∀ c c' f, step c = .fail f → f.committed = false → c'.peek = c.peek →
    ∃ g, step c' = .fail g ∧ g.committed = false

namespace DecidedAt

variable {α β : Type} {step : Cursor → Result α} {run next : Cursor → Result β} {c d : Cursor}
  {a : α} {f : Failure}

theorem of_endless (h : step c = .endless) : DecidedAt step c :=
  ⟨fun hs => by simp [h] at hs, fun hs => by simp [h] at hs⟩

theorem of_ok {s : Text} (hs : step c = .ok a d) (h : c.Reads s d)
    (again : ∀ c' d', c'.Reads s d' → d'.peek = d.peek → step c' = .ok a d') :
    DecidedAt step c := by
  constructor
  · intro b e he
    rw [hs] at he
    cases he
    exact ⟨s, h, again _ _⟩
  · simp [hs]

theorem of_fail {s : Text} (hs : step c = .fail f) (h : c.Reads s f.cursor)
    (again : ∀ c' e, c'.Reads s e → e.rest.take f.reach = f.cursor.rest.take f.reach →
      step c' = .fail (f.moved e)) : DecidedAt step c := by
  constructor
  · simp [hs]
  · intro g hg
    rw [hs] at hg
    cases hg
    exact ⟨s, h, again _ _⟩

/-- A character is refused, and is so wherever it comes next. -/
theorem of_missing {expected : Text} (hs : step c = .fail (c.missing expected))
    (again : ∀ c', c'.peek = c.peek → step c' = .fail (c'.missing expected)) :
    DecidedAt step c := by
  refine of_fail hs (.refl c) fun c' e hc ht => ?_
  rw [hc.eq_of_nil] at ht ⊢
  exact again c' (Cursor.peek_of_take (Failure.reach_pos _) ht)

/-- What goes on after a decided success. -/
theorem after (h : DecidedAt step c) (hs : step c = .ok a d) (hn : DecidedAt next d)
    (hr : ∀ c' d', step c' = .ok a d' → run c' = next d') : DecidedAt run c := by
  obtain ⟨s, hcd, again⟩ := h.ok hs
  constructor
  · intro b e he
    obtain ⟨t, hde, more⟩ := hn.ok ((hr c d hs).symm.trans he)
    refine ⟨s ++ t, hcd.trans hde, fun hc hp => ?_⟩
    obtain ⟨d', hd', he'⟩ := hc.split
    rw [hr _ d' (again hd' (hde.peek_congr he' hp))]
    exact more he' hp
  · intro g hg
    obtain ⟨t, hde, more⟩ := hn.fail ((hr c d hs).symm.trans hg)
    refine ⟨s ++ t, hcd.trans hde, fun hc ht => ?_⟩
    obtain ⟨d', hd', he'⟩ := hc.split
    have hp := Cursor.peek_of_take g.reach_pos ht
    rw [hr _ d' (again hd' (hde.peek_congr he' hp))]
    exact more he' ht

/-- What makes of a decided failure another one at the same place. -/
theorem blocked {φ : Failure → Failure} (h : DecidedAt step c) (hs : step c = .fail f)
    (hr : ∀ c' e, step c' = .fail (f.moved e) → run c' = .fail ((φ f).moved e))
    (hc : (φ f).cursor = f.cursor) (he : (φ f).expected = f.expected) : DecidedAt run c := by
  obtain ⟨s, hcf, again⟩ := h.fail hs
  have hrun : run c = .fail (φ f) := by
    rw [hr c f.cursor hs, Failure.moved, ← hc]
  constructor
  · intro b e hb
    simp [hrun] at hb
  · intro g hg
    obtain rfl : φ f = g := by simpa [hrun] using hg
    have hreach : (φ f).reach = f.reach := by rw [Failure.reach, he, Failure.reach]
    rw [hc, hreach]
    exact ⟨s, hcf, fun hc' ht => hr _ _ (again hc' ht)⟩

/-- What comes in place of an uncommitted failure. -/
theorem instead (hf : Foreseen step) (hs : step c = .fail f) (hu : f.committed = false)
    (hn : DecidedAt next c)
    (hr : ∀ c' g, step c' = .fail g → g.committed = false → run c' = next c') :
    DecidedAt run c := by
  constructor
  · intro b e hb
    obtain ⟨t, hce, more⟩ := hn.ok ((hr c f hs hu).symm.trans hb)
    refine ⟨t, hce, fun hc hp => ?_⟩
    obtain ⟨g, hg, hgu⟩ := hf _ _ _ hs hu (hce.peek_congr hc hp)
    rw [hr _ g hg hgu]
    exact more hc hp
  · intro e he
    obtain ⟨t, hce, more⟩ := hn.fail ((hr c f hs hu).symm.trans he)
    refine ⟨t, hce, fun hc ht => ?_⟩
    obtain ⟨g, hg, hgu⟩ := hf _ _ _ hs hu (hce.peek_congr hc (Cursor.peek_of_take e.reach_pos ht))
    rw [hr _ g hg hgu]
    exact more hc ht

theorem pure (a : α) (c : Cursor) : DecidedAt (fun c => .ok a c) c :=
  of_ok rfl (.refl c) fun _ _ hc _ => by rw [hc.eq_of_nil]

theorem missing (expected : Text) (c : Cursor) :
    DecidedAt (fun c => (.fail (c.missing expected) : Result α)) c := of_missing rfl fun _ _ => rfl

theorem bind {k : α → Cursor → Result β} (h : DecidedAt step c)
    (hk : ∀ a d, step c = .ok a d → DecidedAt (k a) d) :
    DecidedAt (fun c => (step c).bind k) c := by
  cases hs : step c with
  | ok a d => exact h.after hs (hk a d hs) fun c' d' hc => by rw [hc, Result.bind_ok]
  | fail f =>
    refine h.blocked (φ := fun f => f) hs (fun c' e hc => ?_) rfl rfl
    rw [hc, Result.bind_fail]
  | endless => exact of_endless (by rw [hs]; rfl)

theorem map (h : DecidedAt step c) (g : α → β) : DecidedAt (fun c => (step c).map g) c := by
  have hb : DecidedAt (fun c => (step c).bind fun a d => .ok (g a) d) c :=
    h.bind fun a d _ => pure (g a) d
  simpa only [Result.map_eq_bind] using hb

theorem mapFailure {φ : Failure → Failure} (h : DecidedAt step c)
    (hm : ∀ f e, φ (f.moved e) = (φ f).moved e) (hc : ∀ f, (φ f).cursor = f.cursor)
    (he : ∀ f, (φ f).expected = f.expected) :
    DecidedAt (fun c => (step c).mapFailure φ) c := by
  cases hs : step c with
  | ok a d => exact h.after hs (pure a d) fun c' d' hc => by rw [hc]; rfl
  | fail f =>
    refine h.blocked (φ := φ) hs (fun c' e hc => ?_) (hc f) (he f)
    rw [hc, Result.mapFailure_fail, hm]
  | endless => exact of_endless (by rw [hs]; rfl)

theorem recover {other : Cursor → Result α} (h : DecidedAt step c) (hf : Foreseen step)
    (ho : DecidedAt other c) : DecidedAt (fun c => (step c).recover fun _ => other c) c := by
  cases hs : step c with
  | ok a d => exact h.after hs (pure a d) fun c' d' hc => by rw [hc]; rfl
  | fail f =>
    cases hu : f.committed with
    | true =>
      refine h.blocked (φ := fun f => f) hs (fun c' e hc => ?_) rfl rfl
      rw [hc, Result.recover_fail, Failure.moved, hu]
      rfl
    | false =>
      refine instead hf hs hu ho fun c' g hg hgu => ?_
      rw [hg, Result.recover_fail, hgu]
      rfl
  | endless => exact of_endless (by rw [hs]; rfl)

end DecidedAt

/-- The outcomes of the rule are decided wherever it is run. -/
def Rule.Decided {α : Type} (r : Rule α) : Prop := ∀ c, DecidedAt r.run c

def Rule.Foreseen {α : Type} (r : Rule α) : Prop := CurlyMarkup.Foreseen r.run

/-- Whatever the rule refuses, it refuses for good. -/
def Rule.Committed {α : Type} (r : Rule α) : Prop :=
  ∀ c f, r.run c = .fail f → f.committed = true

namespace Rule

variable {α β γ : Type} {r : Rule α} {s : Rule β} {p : Char → Bool} {u expected : Text} {x : Char}

theorem run_literal_char (hu : u = [x]) (expected : Text) (c : Cursor) :
    (∃ d, c.Reads [x] d ∧ (literal u expected).run c = .ok u d) ∨
      c.peek ≠ some x ∧ (literal u expected).run c = .fail (c.missing expected) := by
  rcases literal_cases hu expected c with ⟨d, hd, hr⟩ | ⟨hn, hr⟩
  · exact .inl ⟨d, hd, hr⟩
  · refine .inr ⟨fun hp => ?_, hr⟩
    obtain ⟨t, ht⟩ := Cursor.peek_eq_some.1 hp
    exact hn t ht

theorem run_literal_refused (hu : u = [x]) {c : Cursor} (h : c.peek ≠ some x) :
    (literal u expected).run c = .fail (c.missing expected) := by
  rcases run_literal_char hu expected c with ⟨d, hd, -⟩ | ⟨-, hr⟩
  · exact absurd (Cursor.peek_eq_some.2 ⟨_, hd.rest_eq⟩) h
  · exact hr

theorem Foreseen.literal (hu : u = [x]) : (literal u expected).Foreseen := by
  intro c c' f hf _ hp
  rcases run_literal_char hu expected c with ⟨d, -, hr⟩ | ⟨hn, -⟩
  · simp [hr] at hf
  · exact ⟨_, run_literal_refused hu (hp ▸ hn), rfl⟩

theorem Foreseen.takeWhile1 : (takeWhile1 p expected).Foreseen := by
  intro c c' f hf _ hp
  rcases takeWhile1_cases p expected c with ⟨_, _, -, -, -, hr⟩ | ⟨hs, -⟩
  · simp [hr] at hf
  · exact ⟨_, run_takeWhile1_fail (hs.congr hp), rfl⟩

theorem Foreseen.map (f : α → β) (h : r.Foreseen) : (r.map f).Foreseen := by
  intro c c' e he hu hp
  rw [run_map] at he
  cases hr : r.run c with
  | fail g =>
    rw [hr, Result.map_fail, Result.fail.injEq] at he
    obtain ⟨g', hg, hgu⟩ := h _ _ _ hr (he ▸ hu) hp
    exact ⟨g', by rw [run_map, hg]; rfl, hgu⟩
  | ok a d => simp [hr] at he
  | endless => simp [hr] at he

/-- Only the first part of a pair can refuse tentatively. -/
theorem Foreseen.pair (h : r.Foreseen) (k : s.Committed) : (pair r s).Foreseen := by
  intro c c' e he hu hp
  rw [run_pair] at he
  cases hr : r.run c with
  | fail g =>
    rw [hr, Result.bind_fail, Result.fail.injEq] at he
    obtain ⟨g', hg, hgu⟩ := h _ _ _ hr (he ▸ hu) hp
    exact ⟨g', by rw [run_pair, hg]; rfl, hgu⟩
  | ok a d =>
    rw [hr, Result.bind_ok] at he
    cases hs : s.run d with
    | fail g =>
      rw [hs, Result.map_fail, Result.fail.injEq] at he
      simp [← he, k d g hs] at hu
    | ok b e' => simp [hs] at he
    | endless => simp [hs] at he
  | endless => simp [hr] at he

theorem Foreseen.preceded (h : r.Foreseen) (k : s.Committed) : (preceded r s).Foreseen :=
  .map _ (.pair h k)

theorem Committed.commit (r : Rule α) : r.commit.Committed :=
  fun _ _ h => Grammar.commit_committed h

theorem Committed.blame (k : Construct) (h : r.Committed) : (r.blame k).Committed := by
  intro c f hf
  rw [run_blame] at hf
  cases hr : r.run c with
  | fail g =>
    rw [hr, Result.mapFailure_fail, Result.fail.injEq] at hf
    rw [← hf]
    exact h c g hr
  | ok a d => simp [hr] at hf
  | endless => simp [hr] at hf

theorem Decided.literal (hu : u = [x]) : (literal u expected).Decided := by
  intro c
  rcases run_literal_char hu expected c with ⟨d, hd, hr⟩ | ⟨hn, hr⟩
  · exact .of_ok hr hd fun c' d' hc _ => run_literal_ok hu hc
  · exact .of_missing hr fun c' hp => run_literal_refused hu (hp ▸ hn)

theorem Decided.takeWhile (p : Char → Bool) : (takeWhile p).Decided := by
  intro c
  obtain ⟨s, d, h, hs, hd⟩ := takeWhile_reads p c
  exact .of_ok (run_takeWhile_ok h hs hd) h
    fun c' d' hc hp => run_takeWhile_ok hc hs (hd.congr hp)

theorem Decided.takeWhile1 (p : Char → Bool) (expected : Text) :
    (takeWhile1 p expected).Decided := by
  intro c
  rcases takeWhile1_cases p expected c with ⟨s, d, h, hs, hd, hr⟩ | ⟨hs, hr⟩
  · exact .of_ok hr h fun c' d' hc hp => run_takeWhile1_ok hc hs (hd.congr hp)
  · exact .of_missing hr fun c' hp => run_takeWhile1_fail (hs.congr hp)

theorem run_endOfText_peek (c : Cursor) : (endOfText expected).run c =
    if c.peek = none then .ok () c else .fail (c.missing expected) := by
  rw [run_endOfText]
  cases hr : c.rest <;> simp [Cursor.atEnd, Cursor.peek, hr]

theorem Decided.endOfText (expected : Text) : (endOfText expected).Decided := by
  intro c
  by_cases hn : c.peek = none
  · refine .of_ok (by rw [run_endOfText_peek, if_pos hn]) (.refl c) fun c' d' hc hp => ?_
    rw [hc.eq_of_nil] at hp ⊢
    rw [run_endOfText_peek, if_pos (hp.trans hn)]
  · refine .of_missing (by rw [run_endOfText_peek, if_neg hn]) fun c' hp => ?_
    rw [run_endOfText_peek, if_neg (hp ▸ hn)]

theorem Decided.map (f : α → β) (h : r.Decided) : (r.map f).Decided := fun c => (h c).map f

theorem Decided.pair (h : r.Decided) (k : s.Decided) : (pair r s).Decided :=
  fun c => (h c).bind fun a d _ => (k d).map (a, ·)

theorem Decided.preceded (h : r.Decided) (k : s.Decided) : (preceded r s).Decided :=
  .map _ (.pair h k)

theorem Decided.terminated (h : r.Decided) (k : s.Decided) : (terminated r s).Decided :=
  .map _ (.pair h k)

theorem Decided.commit (h : r.Decided) : r.commit.Decided :=
  fun c => (h c).mapFailure (fun _ _ => rfl) (fun _ => rfl) fun _ => rfl

theorem Decided.blame (k : Construct) (h : r.Decided) : (r.blame k).Decided :=
  fun c => (h c).mapFailure (fun _ _ => rfl) (fun _ => rfl) fun _ => rfl

theorem Decided.orElse {r' : Rule α} (h : r.Decided) (hf : r.Foreseen) (k : r'.Decided) :
    (orElse r r').Decided := fun c => (h c).recover hf (k c)

theorem Decided.relabel (expected : Text) (h : r.Decided) (hf : r.Foreseen) :
    (relabel expected r).Decided := fun c => (h c).recover hf (.missing expected c)

theorem Decided.optional (h : r.Decided) (hf : r.Foreseen) : (optional r).Decided :=
  fun c => (h.map some c).recover (hf.map some) (.pure none c)

theorem Decided.many (h : r.Decided) (hf : r.Foreseen) (hc : r.Consumes) : (many r).Decided := by
  intro c
  induction hn : c.rest.length using Nat.strongRecOn generalizing c with
  | ind n ih =>
    cases hr : r.run c with
    | ok a d =>
      refine (h c).after hr ((ih _ (hn ▸ hc c a d hr) d rfl).map (a :: ·)) fun c' d' hc' => ?_
      rw [run_many_eq, hc']
      exact if_neg (hc.offset_ne hc')
    | fail f =>
      cases hu : f.committed with
      | true =>
        refine (h c).blocked (φ := fun f => f) hr (fun c' e hc' => ?_) rfl rfl
        simp [run_many_eq, hc', Failure.moved, hu]
      | false =>
        refine .instead hf hr hu (.pure [] c) fun c' g hg hgu => ?_
        simp [run_many_eq, hg, hgu]
    | endless => exact .of_endless (by rw [run_many_eq, hr])

end Rule

namespace Grammar

open Rule

theorem blanks_decided : blanks.Decided := .takeWhile _

theorem blanks1_decided (expected : Text) : (blanks1 expected).Decided := .takeWhile1 _ _

theorem string_foreseen : string.Foreseen := .preceded (.literal rfl) (.commit _)

theorem string_decided : string.Decided := by
  intro c
  rcases string_cases c with hq | ⟨s, v, d, e, hb, hd, he, hend | ⟨f, hf⟩ | hbad⟩
  · refine .of_missing (run_string_fail hq) fun c' hp => run_string_fail fun t h => ?_
    obtain ⟨u, hu⟩ := Cursor.peek_eq_some.1 (hp ▸ Cursor.peek_eq_some.2 ⟨t, h⟩)
    exact hq u hu
  · refine .of_fail (run_string_unclosed hb hd he hend) (hd.trans he) fun c' e' hc ht => ?_
    have hp := Cursor.peek_of_take (Failure.reach_pos _) ht
    obtain ⟨d', hd', he'⟩ := hc.split
    exact run_string_unclosed hb hd' he' (Cursor.peek_eq_none.1 (hp ▸ Cursor.peek_eq_none.2 hend))
  · refine .of_ok (run_string_closed hb hd he hf) ((hd.trans he).trans hf) fun c' f' hc _ => ?_
    obtain ⟨e', hc, hf'⟩ := hc.split
    obtain ⟨d', hd', he'⟩ := hc.split
    exact run_string_closed hb hd' he' hf'
  · refine .of_fail (run_string_badEscape hb hd he hbad) (hd.trans he) fun c' e' hc ht => ?_
    obtain ⟨d', hd', he'⟩ := hc.split
    exact run_string_badEscape hb hd' he' (BadEscape.congr hbad ht)

theorem identifier_decided : identifier.Decided := .takeWhile1 _ _

theorem id_decided : id.Decided := .preceded (.literal rfl) (.commit identifier_decided)

theorem id_foreseen : id.Foreseen := .preceded (.literal rfl) (.commit _)

theorem classes_decided : classes.Decided :=
  .many (.preceded (.literal rfl) (.commit identifier_decided))
    (.preceded (.literal rfl) (.commit _)) (.preceded_left (.literal _ _ _))

theorem attributePair_decided : attributePair.Decided :=
  .map _ (.pair (.takeWhile1 _ _)
    (.commit (.preceded (.literal rfl) (.relabel _ string_decided string_foreseen))))

theorem attributePair_foreseen : attributePair.Foreseen := .map _ (.pair .takeWhile1 (.commit _))

def bracket : Rule Text := preceded blanks (literal "]" "attribute or closing bracket ']'")

/-- What comes behind an attribute, up to the closing bracket. -/
def attributesAfter (c : Cursor) : Result (List Attribute) :=
  (Result.separated attributePair.run (blanks1 "whitespace").run c.rest c).bind fun as d =>
    (bracket.run d).map fun _ => as

/-- The attributes from the next one on, if there is one, up to the closing bracket. -/
def attributesFrom (c : Cursor) : Result (List Attribute) :=
  match attributePair.run c with
  | .ok a d => (attributesAfter d).map (a :: ·)
  | .fail f => if f.committed then .fail f else (bracket.run c).map fun _ => []
  | .endless => .endless

theorem skipBlanks_skipBlanks (c : Cursor) : c.skipBlanks.skipBlanks = c.skipBlanks :=
  Cursor.skipBlanks_eq (.refl _) (by simp [RunOf]) (c.stops_takeWhile isBlank)

theorem run_bracket_skipBlanks (c : Cursor) : bracket.run c.skipBlanks = bracket.run c := by
  rw [bracket, run_preceded_blanks, run_preceded_blanks, skipBlanks_skipBlanks]

theorem run_terminated_bracket (r : Rule (List Attribute)) (c : Cursor) :
    (terminated r (pair blanks (literal "]" "attribute or closing bracket ']'"))).run c =
      (r.run c).bind fun as d => (bracket.run d).map fun _ => as := by
  simp only [terminated, bracket, preceded, run_map, run_pair]
  cases r.run c with
  | ok as d =>
    simp only [Result.bind_ok, Result.map_map]
    rfl
  | fail f => rfl
  | endless => rfl

theorem run_attributeList (c : Cursor) : attributeList.run c = attributesFrom c.skipBlanks := by
  rw [attributeList, delimited, run_preceded_blanks, run_terminated_bracket, run_separated,
    attributesFrom]
  cases attributePair.run c.skipBlanks with
  | ok a d =>
    simp only [attributesAfter]
    cases Result.separated attributePair.run (blanks1 "whitespace").run d.rest d with
    | ok as e => simp only [Result.map_ok, Result.bind_ok, Result.map_map]; rfl
    | fail f => rfl
    | endless => rfl
  | fail f => cases hu : f.committed <;> simp [hu]
  | endless => rfl

theorem attributesAfter_of_fail {c : Cursor} {f : Failure}
    (h : (blanks1 "whitespace").run c = .fail f) (hu : f.committed = false) :
    attributesAfter c = (bracket.run c).map fun _ => [] := by
  rw [attributesAfter, Result.separated_eq attributePair_consumes (blanks1 _).leadsFrom, h]
  simp [hu]

theorem attributesAfter_of_ok {c d : Cursor} {w : Text}
    (h : (blanks1 "whitespace").run c = .ok w d) : attributesAfter c = attributesFrom d := by
  have hd : d = c.skipBlanks := by
    rcases blanks1_consumed (c := c) with ⟨hf, -⟩ | ⟨w, hw⟩
    · rw [h] at hf
      cases hf
    · rw [h] at hw
      cases hw
      rfl
  rw [attributesAfter, Result.separated_eq attributePair_consumes (blanks1 _).leadsFrom, h,
    attributesFrom]
  simp only
  cases attributePair.run d with
  | ok a e =>
    simp only [attributesAfter]
    cases Result.separated attributePair.run (blanks1 "whitespace").run e.rest e with
    | ok as e => simp only [Result.map_ok, Result.bind_ok, Result.map_map]; rfl
    | fail f => rfl
    | endless => rfl
  | fail f => cases hu : f.committed <;> simp [hu, hd, run_bracket_skipBlanks]
  | endless => rfl

theorem bracket_decided : bracket.Decided := .preceded blanks_decided (.literal rfl)

theorem attributesFrom_decided {c : Cursor} (h : ∀ a d, attributePair.run c = .ok a d →
    DecidedAt attributesAfter d) : DecidedAt attributesFrom c := by
  cases hr : attributePair.run c with
  | ok a d =>
    refine (attributePair_decided c).after hr ((h a d hr).map (a :: ·)) fun c' d' hc => ?_
    rw [attributesFrom, hc]
  | fail f =>
    cases hu : f.committed with
    | true =>
      refine (attributePair_decided c).blocked (φ := fun f => f) hr (fun c' e hc => ?_) rfl rfl
      rw [attributesFrom, hc]
      exact if_pos hu
    | false =>
      refine .instead attributePair_foreseen hr hu ((bracket_decided c).map fun _ => [])
        fun c' g hg hgu => ?_
      rw [attributesFrom, hg]
      exact if_neg (by simp [hgu])
  | endless => exact .of_endless (by rw [attributesFrom, hr])

theorem attributesAfter_decided (c : Cursor) : DecidedAt attributesAfter c := by
  induction hn : c.rest.length using Nat.strongRecOn generalizing c with
  | ind n ih =>
    have hb := blanks1_decided "whitespace" c
    rcases takeWhile1_cases isBlank "whitespace" c with ⟨w, d, h, -, -, hr⟩ | ⟨-, hr⟩
    · refine hb.after hr (attributesFrom_decided fun a e he => ?_)
        fun c' d' hc => attributesAfter_of_ok hc
      have hlt := attributePair_consumes d a e he
      have hle := h.length
      exact ih e.rest.length (by omega) e rfl
    · exact .instead Foreseen.takeWhile1 hr rfl ((bracket_decided c).map fun _ => [])
        fun c' g hg hgu => attributesAfter_of_fail hg hgu

theorem attributeList_decided : attributeList.Decided := by
  intro c
  have hrun : attributeList.run = fun c => (blanks.run c).bind fun _ => attributesFrom :=
    funext run_attributeList
  rw [hrun]
  exact (blanks_decided c).bind fun _ d _ =>
    attributesFrom_decided fun a e _ => attributesAfter_decided e

theorem attributes_decided : attributes.Decided :=
  .preceded (.literal rfl) (.commit attributeList_decided)

theorem attributes_foreseen : attributes.Foreseen := .preceded (.literal rfl) (.commit _)

theorem selectors_decided : selectors.Decided :=
  .terminated
    (.pair (.optional id_decided id_foreseen)
      (.pair classes_decided
        (.preceded blanks_decided (.optional attributes_decided attributes_foreseen))))
    (.pair blanks_decided (.literal rfl))

theorem head_decided : head.Decided :=
  .map _ (.pair (.takeWhile1 _ _) (.blame _ (.commit selectors_decided)))

theorem head_foreseen : head.Foreseen := .map _ (.pair .takeWhile1 (.blame _ (.commit _)))

theorem turn_decided : turn.Decided :=
  .preceded blanks_decided <|
    .orElse (.map _ head_decided) (.map _ head_foreseen) <|
    .orElse (.map _ string_decided) (.map _ string_foreseen) <|
    .map _ (.commit (.blame _ (.literal rfl)))

/-- The turns inside open elements, however many are open. -/
theorem nested_decided (h : Head) (seen : List Node) (outer : List (Head × List Node))
    (c : Cursor) :
    DecidedAt (fun c => Result.nested turn.run .element c.rest h seen outer c) c := by
  induction hn : c.rest.length using Nat.strongRecOn generalizing h seen outer c with
  | ind n ih =>
    rw [funext fun c => Result.nested_eq turn_consumes h seen outer c]
    refine (turn_decided c).bind fun t d ht => ?_
    have hlt := hn ▸ turn_consumes c t d ht
    cases t with
    | closed =>
      cases outer with
      | nil => exact .pure _ d
      | cons o outer => exact ih _ hlt _ _ _ d rfl
    | leaf x => exact ih _ hlt _ _ _ d rfl
    | opened h' => exact ih _ hlt _ _ _ d rfl

theorem element_decided : element.Decided := by
  intro c
  rw [funext run_element]
  exact (head_decided c).bind fun h d _ => (nested_decided h [] [] d).map _

theorem element_foreseen : element.Foreseen := by
  intro c c' f hf hu hp
  rw [run_element_content] at hf
  cases hh : head.run c with
  | fail g =>
    rw [hh, Result.bind_fail, Result.fail.injEq] at hf
    obtain ⟨g', hg, hgu⟩ := head_foreseen _ _ _ hh (hf ▸ hu) hp
    exact ⟨g', by rw [run_element_content, hg]; rfl, hgu⟩
  | ok h d =>
    rw [hh, Result.bind_ok] at hf
    cases hc : contentAfter [] d with
    | fail g =>
      rw [hc, Result.map_fail, Result.fail.injEq] at hf
      simp [← hf, contentAfter_committed hc] at hu
    | ok content e => simp [hc] at hf
    | endless => simp [hc] at hf
  | endless => simp [hh] at hf

theorem rootOnly_decided (expected : Text) : (rootOnly expected).Decided :=
  .preceded blanks_decided (.terminated
    (.blame _ (.relabel _ element_decided element_foreseen))
    (.pair blanks_decided (.blame _ (.endOfText _))))

theorem doctypeBody_decided : doctypeBody.Decided :=
  .preceded (.pair (blanks1_decided _) (.pair (.literal rfl) blanks_decided))
    (.terminated (.relabel _ string_decided string_foreseen)
      (.pair blanks_decided (.literal rfl)))

end Grammar

end CurlyMarkup
