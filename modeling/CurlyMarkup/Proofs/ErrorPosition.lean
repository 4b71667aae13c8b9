import CurlyMarkup.Proofs.Locality
import CurlyMarkup.Proofs.Recognition
import Mathlib.Data.Nat.Find
set_option autoImplicit false

/-!
Where the error of a text is reported. Up to there the text can still be completed to a document,
and with the character that is refused it no longer can; an unknown escape takes one character
more, and a keyword is refused as a whole.
-/

namespace CurlyMarkup

theorem Cursor.Reads.word_unique {c d : Cursor} {s t : Text} (h : c.Reads s d) (k : c.Reads t d) :
    s = t := List.append_cancel_right (h.rest_eq.symm.trans k.rest_eq)

namespace Text

/-- Some document begins with this text. -/
def Viable (p : Text) : Prop := ∃ q d, readDocument (p ++ q) = .ok d

/-- The first `m` characters are the shortest part that no document begins with. -/
structure DeadAt (s : Text) (m : Nat) : Prop where
  within : m ≤ s.length
  dead : ¬ Viable (s.take m)
  before : ∀ n < m, Viable (s.take n)

/-- A backslash inside a string stands there. -/
structure EscapeAt (s : Text) (k : Nat) : Prop where
  mark : s[k]? = some '\\'
  inside : Quoting.outside.after (s.take k) = .inside

theorem Viable.of_word {s t : Text} {d : Document} (h : DocumentWord (s ++ t) d) : Viable s :=
  ⟨t, d, read_of_documentWord h⟩

theorem Viable.of_prefix {s t : Text} (h : Viable t) (hs : s <+: t) : Viable s := by
  obtain ⟨q, d, hd⟩ := h
  obtain ⟨r, rfl⟩ := hs
  exact ⟨r ++ q, d, by rwa [← List.append_assoc]⟩

theorem Viable.take {s : Text} (h : Viable s) (n : Nat) : Viable (s.take n) :=
  h.of_prefix (List.take_prefix n s)

theorem DeadAt.not_viable {s : Text} {m : Nat} (h : s.DeadAt m) : ¬ Viable s :=
  fun hs => h.dead (hs.take m)

theorem exists_deadAt {s : Text} (h : ¬ Viable s) : ∃ m, s.DeadAt m := by
  classical
  have hs : ¬ Viable (s.take s.length) := by rwa [List.take_length]
  have he : ∃ m, ¬ Viable (s.take m) := ⟨_, hs⟩
  exact ⟨Nat.find he, Nat.find_min' he hs, Nat.find_spec he,
    fun n hn => Decidable.not_not.1 (Nat.find_min he hn)⟩

theorem DeadAt.of_last {p s t : Text} {x : Char} (hs : s = p ++ x :: t) (hp : Viable p)
    (hx : ¬ Viable (p ++ [x])) : s.DeadAt (p.length+1) := by
  subst hs
  have ht : (p ++ x :: t).take (p.length+1) = p ++ [x] := by
    rw [List.take_length_add_append]
    rfl
  refine ⟨by simp, by rwa [ht], fun n hn => hp.of_prefix ?_⟩
  rw [List.take_append_of_le_length (by omega)]
  exact List.take_prefix n p

theorem DeadAt.lt {s : Text} {k m : Nat} (h : s.DeadAt m) (hk : Viable (s.take k)) : k < m :=
  Nat.lt_of_not_le fun hle => h.dead (hk.of_prefix (List.take_prefix_take_left hle))

theorem DeadAt.le {s : Text} {m n : Nat} (h : s.DeadAt m) (hn : ¬ Viable (s.take n)) : m ≤ n :=
  Nat.le_of_not_lt fun hlt => hn (h.before n hlt)

end Text

namespace Grammar

open Rule

def behindKeyword : Rule Document :=
  (pair ((blame .doctype (commit doctypeBody)).map declaration)
    (rootOnly "end of input after the root element")).map fun (doctype, root) => ⟨doctype, root⟩

theorem behindKeyword_decided : behindKeyword.Decided :=
  .map _ (.pair (.map _ (.blame _ (.commit doctypeBody_decided))) (rootOnly_decided _))

theorem run_document (c : Cursor) : document.run c =
    ((blame .doctype doctypeKeyword).run c.skipBlanks).bind fun _ => behindKeyword.run := by
  rw [document, run_map, run_pair, run_preceded_blanks, doctype, run_map, preceded, run_map,
    run_pair]
  cases (blame .doctype doctypeKeyword).run c.skipBlanks with
  | ok w d =>
    rw [Result.bind_ok, Result.bind_ok, behindKeyword, run_map, run_pair, run_map]
    cases (blame .doctype (commit doctypeBody)).run d <;> rfl
  | fail f => rfl
  | endless => rfl

theorem keyword_cases (c : Cursor) :
    (∃ w d, DoctypeKeyword w ∧ c.Reads w d) ∨
      (∀ w u, DoctypeKeyword w → c.rest ≠ w ++ u) ∧
        doctypeKeyword.run c = .fail (c.missing "'!doctype' declaration") := by
  by_cases h : ∃ w d, DoctypeKeyword w ∧ c.Reads w d
  · exact .inl h
  · have hn : ∀ w u, DoctypeKeyword w → c.rest ≠ w ++ u :=
      fun w u hw hu => h ⟨w, _, hw, .of_rest hu⟩
    have hl : (token "!doctype").run c = .fail (c.missing _) :=
      run_literal_fail (x := '!') rfl fun u => hn _ u .lower
    have hu : (token "!DOCTYPE").run c = .fail (c.missing _) :=
      run_literal_fail (x := '!') rfl fun u => hn _ u .upper
    have ho : (orElse (token "!doctype") (token "!DOCTYPE")).run c = .fail (c.missing _) :=
      (run_orElse_right hl rfl).trans hu
    refine .inr ⟨hn, ?_⟩
    rw [doctypeKeyword, run_relabel, ho]
    rfl

/-- A keyword is not blank, so blanks are read up to it. -/
theorem skipBlanks_keyword {b w : Text} {c d : Cursor} (hb : BlankWord b) (hw : DoctypeKeyword w)
    (h : c.Reads (b ++ w) d) : c.skipBlanks.Reads w d := by
  obtain ⟨e, he, hd⟩ := h.split
  have hs : e.Stops isBlank := by
    cases hw with
    | lower => exact .of_cons hd.rest_eq (by decide)
    | upper => exact .of_cons hd.rest_eq (by decide)
  rwa [Cursor.skipBlanks_eq he hb hs]

/-- Once the keyword has been read, the outcome is decided. -/
theorem document_decided {c d : Cursor} {w : Text} (hw : DoctypeKeyword w)
    (h : c.skipBlanks.Reads w d) : DecidedAt document.run c := by
  have hk : ∀ c' d' : Cursor, c'.skipBlanks.Reads w d' →
      (blame .doctype doctypeKeyword).run c'.skipBlanks = .ok w d' :=
    fun _ _ h' => run_blame_ok _ (run_doctypeKeyword hw h')
  have hb : BlankWord (c.rest.takeWhile isBlank) := .takeWhile _ _
  have hkeyword : DecidedAt (fun c => (blame .doctype doctypeKeyword).run c.skipBlanks) c :=
    .of_ok (hk c d h) ((c.reads_takeWhile isBlank).trans h)
      fun c' d' hc _ => hk c' d' (skipBlanks_keyword hb hw hc)
  refine hkeyword.after (hk c d h) (behindKeyword_decided d) fun c' d' hc => ?_
  rw [run_document, hc, Result.bind_ok]

theorem documentWord_keyword {s : Text} {d : Document} (h : DocumentWord s d) :
    ∃ b w, BlankWord b ∧ DoctypeKeyword w ∧ b ++ w <+: s := by
  obtain ⟨hb, ⟨hk, _, _, _, _⟩, _⟩ := h
  exact ⟨_, _, hb, hk, by simp⟩

/-- Behind blanks a document goes on with a keyword. -/
theorem keyword_of_viable {b r : Text} (hb : BlankWord b)
    (hr : ∀ x, r.head? = some x → isBlank x = false) (h : Text.Viable (b ++ r)) :
    ∃ w, DoctypeKeyword w ∧ (r <+: w ∨ w <+: r) := by
  cases r with
  | nil => exact ⟨_, .lower, .inl List.nil_prefix⟩
  | cons x r =>
    obtain ⟨q, d, hd⟩ := h
    obtain ⟨b', w, hb', hk, t, ht⟩ := documentWord_keyword (documentWord_of_read hd)
    -- the blanks before the keyword end where the blanks `b` do
    have hc : (Cursor.ofText (b ++ x :: r ++ q)).rest = b ++ (x :: r ++ q) := List.append_assoc ..
    have hrest := Cursor.Reads.rest_skip hc
    have hskip := Cursor.skipBlanks_eq (.of_rest hc) hb (.of_cons hrest (hr x rfl))
    have hread := skipBlanks_keyword hb' hk (.of_rest (c := .ofText (b ++ x :: r ++ q)) ht.symm)
    have hxr := hread.rest_eq
    rw [hskip, hrest] at hxr
    exact ⟨w, hk, List.prefix_or_prefix_of_prefix (List.prefix_append _ q) ⟨_, hxr.symm⟩⟩

/-- What a keyword is refused for cannot be completed beyond eight characters, and only the
beginning of a keyword can be completed at all. -/
theorem keyword_refused {b r : Text} (hb : BlankWord b)
    (hr : ∀ x, r.head? = some x → isBlank x = false)
    (hn : ∀ w u, DoctypeKeyword w → r ≠ w ++ u) :
    (∀ m, Text.DeadAt (b ++ r) m → m ≤ b.length+8) ∧
      (Text.Viable (b ++ r) → ∃ w, DoctypeKeyword w ∧ r <+: w ∧ r ≠ w) := by
  have hlength : ∀ w, DoctypeKeyword w → w.length = 8 := by
    rintro w (_ | _) <;> rfl
  constructor
  · intro m hm
    by_cases hlt : r.length < 8
    · have := hm.within
      rw [List.length_append] at this
      omega
    · refine hm.le fun hv => ?_
      rw [List.take_length_add_append] at hv
      have hr8 : ∀ x, (r.take 8).head? = some x → isBlank x = false :=
        fun x hx => hr x (by simpa [List.head?_take] using hx)
      obtain ⟨w, hw, hp⟩ := keyword_of_viable hb hr8 hv
      have hwr : w <+: r.take 8 := by
        rcases hp with hp | hp
        · have he : r.take 8 = w := hp.eq_of_length (by rw [List.length_take, hlength w hw]; omega)
          exact he ▸ List.prefix_rfl
        · exact hp
      obtain ⟨u, hu⟩ := hwr
      exact hn w (u ++ r.drop 8) hw (by rw [← List.append_assoc, hu, List.take_append_drop])
  · intro hv
    obtain ⟨w, hw, hp | ⟨u, hu⟩⟩ := keyword_of_viable hb hr hv
    · exact ⟨w, hw, hp, fun he => hn w [] hw (by rw [he, List.append_nil])⟩
    · exact absurd hu.symm (hn w u hw)

end Grammar

theorem Failure.BreaksOff.escapeAt_iff {f : Failure} {p s : Text} (hb : f.BreaksOff p)
    (hs : s = p ++ f.cursor.rest) : f.expected = unknownEscape ↔ s.EscapeAt p.length := by
  subst hs
  constructor
  · intro he
    obtain ⟨t, ht⟩ := hb.begun
    rw [Failure.begun_eq he] at ht
    refine ⟨by simp [ht], ?_⟩
    rw [List.take_left, hb.quoting, if_pos (hb.escape he)]
  · intro h
    have hi := h.inside
    rw [List.take_left, hb.quoting] at hi
    have hc : f.construct = some .string := by
      by_contra hc
      simp [hc] at hi
    have hm := h.mark
    rcases hb.unclosed hc with he | hr
    · exact he
    · simp [hr] at hm

/-- Behind the keyword, a failure stands where the text breaks off, or it tells where the text is
beyond repair. -/
theorem deadAt_of_decided {f : Failure} {p s : Text}
    (hd : DecidedAt Grammar.document.run (.ofText s))
    (hf : Grammar.document.run (.ofText s) = .fail f) (hp : (Cursor.ofText s).Reads p f.cursor)
    (hb : f.BreaksOff p) (hv : Text.Viable (p ++ f.begun)) :
    f.cursor.rest = f.begun ∨ s.DeadAt (p.length+f.reach) := by
  obtain ⟨t, ht⟩ := hb.begun
  have hs : s = p ++ f.begun ++ t := by
    rw [List.append_assoc, ← ht]
    exact hp.rest_eq
  cases t with
  | nil => exact .inl (ht.trans (List.append_nil _))
  | cons x t =>
    have hreach : f.reach = f.begun.length+1 := by
      rw [Failure.reach, Failure.begun]
      split <;> rfl
    have hx : ¬ Text.Viable (p ++ f.begun ++ [x]) := by
      rintro ⟨q, d, hq⟩
      obtain ⟨c, hc⟩ := readDocument_eq_ok.1 hq
      obtain ⟨p', hp', again⟩ := hd.fail hf
      obtain rfl := hp'.word_unique hp
      have he : (Cursor.ofText (p' ++ f.begun ++ [x] ++ q)).rest = p' ++ (f.begun ++ [x] ++ q) := by
        simp [Cursor.ofText]
      have hrun := again (.of_rest he) (by
        rw [Cursor.Reads.rest_skip he, ht, hreach, List.append_assoc, List.take_length_add_append,
          List.take_length_add_append]
        rfl)
      rw [hrun] at hc
      cases hc
    have hdead := Text.DeadAt.of_last hs hv hx
    rw [List.length_append, Nat.add_assoc, ← hreach] at hdead
    exact .inr hdead

/-- The error stands at `k`. Up to there the text can be completed; if it goes wrong at all, then
with the next character, or a little later where an escape or a keyword is refused as a whole. -/
structure SyntaxError.Locates (e : SyntaxError) (s : Text) (k : Nat) : Prop where
  offset : e.offset = k
  within : k ≤ s.length
  viable : Text.Viable (s.take k)
  escape : e.expected = unknownEscape ↔ s.EscapeAt k
  dead : ¬ Text.Viable s → ∃ m, s.DeadAt m ∧
    (s.EscapeAt k → m = k+2) ∧
    (e.expected = "'!doctype' declaration" → k+1 ≤ m ∧ m ≤ k+8) ∧
    (¬ s.EscapeAt k → e.expected ≠ "'!doctype' declaration" → m = k+1)
  brokenOff : Text.Viable s → k = s.length ∨ s.EscapeAt k ∧ s.drop k = ['\\'] ∨
    ∃ w, DoctypeKeyword w ∧ s.drop k <+: w ∧ s.drop k ≠ w

/-- A failure and the text that has been read before it. -/
structure Failure.Breaks (f : Failure) (s p : Text) : Prop where
  run : Grammar.document.run (.ofText s) = .fail f
  reads : (Cursor.ofText s).Reads p f.cursor
  breaksOff : f.BreaksOff p
  viable : Text.Viable (p ++ f.begun)

namespace Failure.Breaks

variable {f : Failure} {s p : Text}

theorem text_eq (h : f.Breaks s p) : s = p ++ f.cursor.rest := h.reads.rest_eq

theorem offset (h : f.Breaks s p) : f.toError.offset = p.length := by
  have ho : f.cursor.offset = p.length := by simpa [Cursor.ofText] using h.reads.offset
  simp [toError, SyntaxError.at, ho]

theorem take (h : f.Breaks s p) : s.take p.length = p := by rw [h.text_eq, List.take_left]

theorem drop (h : f.Breaks s p) : s.drop p.length = f.cursor.rest := by
  rw [h.text_eq, List.drop_left]

theorem viable_take (h : f.Breaks s p) : Text.Viable (s.take p.length) := by
  rw [h.take]
  exact h.viable.of_prefix (List.prefix_append p _)

theorem escapeAt_iff (h : f.Breaks s p) : f.expected = unknownEscape ↔ s.EscapeAt p.length :=
  h.breaksOff.escapeAt_iff h.text_eq

theorem locates_behind (h : f.Breaks s p) (hd : DecidedAt Grammar.document.run (.ofText s)) :
    f.toError.Locates s p.length where
  offset := h.offset
  within := by simp [h.text_eq]
  viable := h.viable_take
  escape := h.escapeAt_iff
  dead := by
    intro hn
    rcases deadAt_of_decided hd h.run h.reads h.breaksOff h.viable with hr | hdead
    · exact absurd (by rw [h.text_eq, hr]; exact h.viable) hn
    · refine ⟨_, hdead, fun he => ?_, fun _ => ?_, fun he _ => ?_⟩
      · rw [reach, if_pos (h.escapeAt_iff.2 he)]
      · rw [reach]
        split <;> omega
      · rw [reach, if_neg fun hf => he (h.escapeAt_iff.1 hf)]
  brokenOff := by
    intro hs
    rcases deadAt_of_decided hd h.run h.reads h.breaksOff h.viable with hr | hdead
    · by_cases he : f.expected = unknownEscape
      · exact .inr (.inl ⟨h.escapeAt_iff.1 he, by rw [h.drop, hr, begun_eq he]⟩)
      · refine .inl ?_
        rw [h.text_eq, hr, begun_eq_nil he, List.append_nil]
    · exact absurd hs hdead.not_viable

theorem locates_keyword (h : f.Breaks s p)
    (hn : ∀ w u, DoctypeKeyword w → (Cursor.ofText s).skipBlanks.rest ≠ w ++ u)
    (hf : f = ((Cursor.ofText s).skipBlanks.missing "'!doctype' declaration").blame .doctype) :
    f.toError.Locates s p.length := by
  have hc : f.cursor = (Cursor.ofText s).skipBlanks := by rw [hf]; rfl
  have he : f.expected = "'!doctype' declaration" := by rw [hf]; rfl
  have hne : f.expected ≠ unknownEscape := by
    rw [he]
    decide
  have hp : p = (Cursor.ofText s).rest.takeWhile isBlank :=
    h.reads.word_unique (hc ▸ Cursor.reads_takeWhile isBlank _)
  have hblank : BlankWord p := hp ▸ .takeWhile _ _
  have hstop : f.cursor.Stops isBlank := hc ▸ Cursor.stops_takeWhile isBlank _
  obtain ⟨hle, hbegins⟩ := Grammar.keyword_refused hblank hstop (by rwa [hc])
  rw [← h.text_eq] at hle hbegins
  constructor
  case offset => exact h.offset
  case within => simp [h.text_eq]
  case viable => exact h.viable_take
  case escape => exact h.escapeAt_iff
  case dead =>
    intro hs
    obtain ⟨m, hm⟩ := Text.exists_deadAt hs
    exact ⟨m, hm, fun ha => absurd (h.escapeAt_iff.2 ha) hne,
      fun _ => ⟨hm.lt h.viable_take, hle m hm⟩, fun _ ha => absurd he ha⟩
  case brokenOff =>
    intro hs
    rw [h.drop]
    exact .inr (.inr (hbegins hs))

end Failure.Breaks

theorem exists_breaks {s : Text} {f : Failure} (h : Grammar.document.run (.ofText s) = .fail f) :
    ∃ p, f.Breaks s p := by
  have hf := Grammar.document_follows (.ofText s)
  rw [h] at hf
  obtain ⟨p, hp, hb, t, d, hw⟩ := hf
  exact ⟨p, h, hp, hb, .of_word hw⟩

/-- Every error stands where the text could last be completed. -/
theorem readDocument_error_position {s : Text} {e : SyntaxError} (h : readDocument s = .error e) :
    ∃ k : Nat, e.Locates s k := by
  obtain ⟨f, hf, rfl⟩ := readDocument_eq_error.1 h
  obtain ⟨p, hp⟩ := exists_breaks hf
  refine ⟨p.length, ?_⟩
  rcases Grammar.keyword_cases (Cursor.ofText s).skipBlanks with ⟨w, c, hk, hc⟩ | ⟨hn, hr⟩
  · exact hp.locates_behind (Grammar.document_decided hk hc)
  · have hrun := Grammar.run_document (.ofText s)
    rw [hf, Rule.run_blame, hr, Result.mapFailure_fail, Result.bind_fail, Result.fail.injEq] at hrun
    exact hp.locates_keyword hn hrun

/-- An unknown escape in the document type. -/
theorem readDocument_error_position_escape :
    ∃ e, readDocument "!doctype \x7b \"a\\q\" \x7d" = .error e ∧ e.offset = 13 ∧
      ∃ k, e.Locates "!doctype \x7b \"a\\q\" \x7d" k :=
  ⟨_, rfl, by decide, readDocument_error_position rfl⟩

end CurlyMarkup
