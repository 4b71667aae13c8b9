import CurlyMarkup.Proofs.Language
import CurlyMarkup.Proofs.Reads
import CurlyMarkup.Proofs.Repetition
set_option autoImplicit false

namespace CurlyMarkup

namespace Rule

variable {p : Char → Bool} {c d : Cursor} {s t expected : Text} {x : Char}

theorem startsWith_cons : c.startsWith (x :: t) = true ↔ ∃ u, c.rest = x :: t ++ u := by
  rw [Cursor.startsWith, List.isPrefixOf_iff_prefix]
  constructor
  · rintro ⟨u, hu⟩
    exact ⟨u, hu.symm⟩
  · rintro ⟨u, hu⟩
    exact ⟨u, hu.symm⟩

theorem run_literal_ok (ht : s = x :: t) (h : c.Reads (x :: t) d) :
    (literal s expected).run c = .ok s d := by
  subst ht
  rw [run_literal, startsWith_cons.2 ⟨_, h.rest_eq⟩, h.eq_skip]
  rfl

theorem run_literal_fail (ht : s = x :: t) (h : ∀ u, c.rest ≠ x :: t ++ u) :
    (literal s expected).run c = .fail (c.missing expected) := by
  subst ht
  have hs : ¬ c.startsWith (x :: t) = true := fun hs => by
    obtain ⟨u, hu⟩ := startsWith_cons.1 hs
    exact h u hu
  rw [run_literal]
  simp only [hs, Bool.false_eq_true, ↓reduceIte]

theorem literal_cases (ht : s = x :: t) (expected : Text) (c : Cursor) :
    (∃ d, c.Reads (x :: t) d ∧ (literal s expected).run c = .ok s d) ∨
      (∀ u, c.rest ≠ x :: t ++ u) ∧ (literal s expected).run c = .fail (c.missing expected) := by
  by_cases h : ∃ u, c.rest = x :: t ++ u
  · obtain ⟨u, hu⟩ := h
    exact .inl ⟨_, .of_rest hu, run_literal_ok ht (.of_rest hu)⟩
  · have hn : ∀ u, c.rest ≠ x :: t ++ u := fun u hu => h ⟨u, hu⟩
    exact .inr ⟨hn, run_literal_fail ht hn⟩

theorem run_takeWhile_ok (h : c.Reads s d) (hs : RunOf p s) (hd : d.Stops p) :
    (takeWhile p).run c = .ok s d := by
  rw [run_takeWhile, Cursor.takeWhile_rest h hs hd, h.eq_skip]

theorem run_takeWhile1_ok (h : c.Reads s d) (hs : WordOf p s) (hd : d.Stops p) :
    (takeWhile1 p expected).run c = .ok s d := by
  have he : s.isEmpty = false := by simpa using hs.ne_nil
  rw [run_takeWhile1, Cursor.takeWhile_rest h hs.run hd, he, h.eq_skip]
  rfl

theorem run_takeWhile1_fail (h : c.Stops p) :
    (takeWhile1 p expected).run c = .fail (c.missing expected) := by
  rw [run_takeWhile1, Cursor.takeWhile_rest (.refl c) (by simp) h]
  rfl

theorem takeWhile_reads (p : Char → Bool) (c : Cursor) :
    ∃ s d, c.Reads s d ∧ RunOf p s ∧ d.Stops p :=
  ⟨_, _, c.reads_takeWhile p, .takeWhile p _, c.stops_takeWhile p⟩

theorem takeWhile1_cases (p : Char → Bool) (expected : Text) (c : Cursor) :
    (∃ s d, c.Reads s d ∧ WordOf p s ∧ d.Stops p ∧ (takeWhile1 p expected).run c = .ok s d) ∨
      c.Stops p ∧ (takeWhile1 p expected).run c = .fail (c.missing expected) := by
  obtain ⟨s, d, h, hs, hd⟩ := takeWhile_reads p c
  by_cases he : s = []
  · subst he
    rw [h.eq_of_nil] at hd
    exact .inr ⟨hd, run_takeWhile1_fail hd⟩
  · exact .inl ⟨s, d, h, ⟨he, hs⟩, hd, run_takeWhile1_ok h ⟨he, hs⟩ hd⟩

end Rule

/-- A backslash that begins none of the escapes. -/
def BadEscape (t : Text) : Prop :=
  ∃ r, t = '\\' :: r ∧ ∀ x, r.head? = some x → x ≠ '\\' ∧ x ≠ '"' ∧ x ≠ 'n'

namespace StringBody

/-- The characters of strings and their escapes, taken off a text. -/
abbrev decode (t : Text) : Unescaped := stringEscapes.unescape isStringChar '\\' t

theorem decode_plain {x : Char} (hq : x ≠ '"') (hm : x ≠ '\\') (t : Text) :
    decode (x :: t) = (decode t).cons [x] 1 := by
  have hx : isStringChar x = true := by simp [isStringChar, hq, hm]
  cases t with
  | nil => simp [decode, EscapeTable.unescape, hm, hx, Unescaped.cons]
  | cons y t => simp [decode, EscapeTable.unescape, hm, hx]

theorem decode_escape {x : Char} {v : Text} (h : stringEscapes.lookup [x] = some v) (t : Text) :
    decode ('\\' :: x :: t) = (decode t).cons v 2 := by
  simp [decode, EscapeTable.unescape, h]

theorem decode_quote (t : Text) : decode ('"' :: t) = ⟨[], 0, false⟩ := by
  cases t <;> simp [decode, EscapeTable.unescape, isStringChar]

theorem lookup_eq_none {x : Char} (h : x ≠ '\\' ∧ x ≠ '"' ∧ x ≠ 'n') :
    stringEscapes.lookup [x] = none := by
  obtain ⟨hb, hq, hn⟩ := h
  simp [stringEscapes, List.lookup_cons, beq_eq_false_iff_ne.2 hb, beq_eq_false_iff_ne.2 hq,
    beq_eq_false_iff_ne.2 hn]

theorem decode_badEscape {t : Text} (h : BadEscape t) : decode t = ⟨[], 0, true⟩ := by
  obtain ⟨r, rfl, hr⟩ := h
  cases r with
  | nil => rfl
  | cons x r => simp [decode, EscapeTable.unescape, lookup_eq_none (hr x rfl)]

theorem decode_append {s v : Text} (h : StringBody s v) (t : Text) :
    decode (s ++ t) = (decode t).cons v s.length := by
  have cons_cons : ∀ (u : Unescaped) (v w : Text) (m n : Nat),
      (u.cons v m).cons w n = u.cons (w ++ v) (m+n) := by
    intro u v w m n
    simp only [Unescaped.cons, List.append_assoc]
    congr 1
    omega
  induction h with
  | nil => simp [Unescaped.cons]
  | plain hq hm _ ih => rw [List.cons_append, decode_plain hq hm, ih, cons_cons]; rfl
  | backslash _ ih | quote _ ih | newline _ ih =>
    rw [List.cons_append, List.cons_append, decode_escape rfl, ih, cons_cons]
    rfl

theorem escape_cases (t : Text) : BadEscape ('\\' :: t) ∨
    ∃ x r w, t = x :: r ∧ ∀ s v, StringBody s v → StringBody ('\\' :: x :: s) (w :: v) := by
  cases t with
  | nil => exact .inl ⟨[], rfl, by simp⟩
  | cons x r =>
    by_cases hb : x = '\\'
    · subst hb
      exact .inr ⟨_, r, '\\', rfl, fun _ _ h => .backslash h⟩
    by_cases hq : x = '"'
    · subst hq
      exact .inr ⟨_, r, '"', rfl, fun _ _ h => .quote h⟩
    by_cases hn : x = 'n'
    · subst hn
      exact .inr ⟨_, r, '\n', rfl, fun _ _ h => .newline h⟩
    · exact .inl ⟨x :: r, rfl, by simp [hb, hq, hn]⟩

/-- Every text begins with a body, which ends at a quote, at an unknown escape or with the text. -/
theorem exists_split (t : Text) : ∃ s v u, t = s ++ u ∧ StringBody s v ∧
    (u = [] ∨ (∃ r, u = '"' :: r) ∨ BadEscape u) := by
  induction hn : t.length using Nat.strongRecOn generalizing t with
  | ind n ih =>
    match t with
    | [] => exact ⟨[], [], [], rfl, .nil, .inl rfl⟩
    | x :: t =>
      by_cases hq : x = '"'
      · subst hq
        exact ⟨[], [], _, rfl, .nil, .inr (.inl ⟨t, rfl⟩)⟩
      by_cases hm : x = '\\'
      · subst hm
        rcases escape_cases t with hbad | ⟨y, r, w, rfl, hw⟩
        · exact ⟨[], [], _, rfl, .nil, .inr (.inr hbad)⟩
        · obtain ⟨s, v, u, rfl, hs, hu⟩ := ih r.length (by simp at hn; omega) r rfl
          exact ⟨_, _, u, rfl, hw s v hs, hu⟩
      · obtain ⟨s, v, u, rfl, hs, hu⟩ := ih t.length (by simp at hn; omega) t rfl
        exact ⟨x :: s, x :: v, u, rfl, .plain hq hm hs, hu⟩

end StringBody

namespace Grammar

open Rule

variable {c d e : Cursor} {s v : Text}

theorem run_string (h : c.Reads ['"'] d) :
    string.run c = (((pair stringBody closingQuote).run d).map Prod.fst).mapFailure
      Failure.commit := by
  have hq : (literal "\"" "opening quote '\"'").run c = .ok ("\"" : Text) d := run_literal_ok rfl h
  simp only [string, preceded, terminated, run_map, run_pair, run_commit, hq, Result.bind_ok,
    Result.map_map]
  exact Result.map_id _

theorem run_string_fail (h : ∀ t, c.rest ≠ '"' :: t) :
    string.run c = .fail (c.missing "opening quote '\"'") := by
  simp only [string, preceded, run_map, run_pair]
  rw [run_literal_fail (s := "\"") rfl h]
  rfl

theorem run_stringBody_eq (c : Cursor) :
    stringBody.run c =
      if (StringBody.decode c.rest).broken then
        .fail ⟨c.skip (StringBody.decode c.rest).length, stringEscapes.expected '\\',
          some .string, true⟩
      else .ok (StringBody.decode c.rest).value (c.skip (StringBody.decode c.rest).length) := rfl

theorem run_stringBody (hs : StringBody s v) (h : c.Reads s d)
    (hd : d.rest = [] ∨ ∃ t, d.rest = '"' :: t) : stringBody.run c = .ok v d := by
  have hdec : StringBody.decode d.rest = ⟨[], 0, false⟩ := by
    rcases hd with hd | ⟨t, hd⟩ <;> rw [hd]
    · rfl
    · exact StringBody.decode_quote t
  rw [run_stringBody_eq, h.rest_eq, hs.decode_append, hdec, h.eq_skip]
  simp [Unescaped.cons]

theorem run_stringBody_fail (hs : StringBody s v) (h : c.Reads s d) (hd : BadEscape d.rest) :
    stringBody.run c = .fail ⟨d, stringEscapes.expected '\\', some .string, true⟩ := by
  rw [run_stringBody_eq, h.rest_eq, hs.decode_append, StringBody.decode_badEscape hd, h.eq_skip]
  simp [Unescaped.cons]

theorem run_string_closed (hs : StringBody s v) (hq : c.Reads ['"'] d) (h : d.Reads s e)
    {f : Cursor} (he : e.Reads ['"'] f) : string.run c = .ok v f := by
  have hb := run_stringBody hs h (.inr ⟨_, he.rest_eq⟩)
  have hc : closingQuote.run e = .ok ("\"" : Text) f := by
    rw [closingQuote, run_blame, run_literal_ok (s := "\"") rfl he]
    rfl
  rw [run_string hq, run_pair, hb, Result.bind_ok, hc]
  rfl

theorem run_string_unclosed (hs : StringBody s v) (hq : c.Reads ['"'] d) (h : d.Reads s e)
    (he : e.rest = []) : string.run c = .fail ⟨e, "closing quote '\"'", some .string, true⟩ := by
  have hb := run_stringBody hs h (.inl he)
  have hc : closingQuote.run e = .fail ⟨e, "closing quote '\"'", some .string, false⟩ := by
    have hn : ∀ u, e.rest ≠ '"' :: u := by simp [he]
    rw [closingQuote, run_blame, run_literal_fail (s := "\"") rfl hn]
    rfl
  rw [run_string hq, run_pair, hb, Result.bind_ok, hc]
  rfl

theorem run_string_badEscape (hs : StringBody s v) (hq : c.Reads ['"'] d) (h : d.Reads s e)
    (he : BadEscape e.rest) :
    string.run c = .fail ⟨e, stringEscapes.expected '\\', some .string, true⟩ := by
  rw [run_string hq, run_pair, run_stringBody_fail hs h he]
  rfl

/-- What follows a body decides what becomes of the string. -/
theorem string_cases (c : Cursor) :
    (∀ t, c.rest ≠ '"' :: t) ∨ ∃ s v d e, StringBody s v ∧ c.Reads ['"'] d ∧ d.Reads s e ∧
      (e.rest = [] ∨ (∃ f, e.Reads ['"'] f) ∨ BadEscape e.rest) := by
  by_cases hq : ∃ t, c.rest = '"' :: t
  · obtain ⟨t, ht⟩ := hq
    have hd : c.Reads ['"'] (c.skip 1) := .of_rest (s := ['"']) ht
    obtain ⟨s, v, u, hs, hb, hu⟩ := StringBody.exists_split (c.skip 1).rest
    have he := Cursor.Reads.of_rest hs
    have hr := Cursor.Reads.rest_skip hs
    refine .inr ⟨s, v, _, _, hb, hd, he, ?_⟩
    rw [hr]
    rcases hu with rfl | ⟨r, rfl⟩ | hu
    · exact .inl rfl
    · exact .inr (.inl ⟨_, .of_rest (s := ['"']) hr⟩)
    · exact .inr (.inr hu)
  · exact .inl fun t ht => hq ⟨t, ht⟩

end Grammar

end CurlyMarkup
