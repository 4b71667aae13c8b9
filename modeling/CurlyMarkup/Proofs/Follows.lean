import CurlyMarkup.Proofs.Language
import CurlyMarkup.Proofs.Reads
import CurlyMarkup.Proofs.Repetition
set_option autoImplicit false

/-!
Rules that follow a language. Where such a rule succeeds it has read a word of the language; where
it fails, what it has read up to there begins a word, and the construct that is blamed tells
whether that beginning leaves a string open.
-/

namespace CurlyMarkup

/-- Where the quotes of a text lead: outside of strings, inside one, or behind a backslash there. -/
inductive Quoting where
  | outside | inside | escaping
  deriving DecidableEq, Repr

namespace Quoting

def step : Quoting → Char → Quoting
  | .outside, x => if x = '"' then .inside else .outside
  | .inside, x => if x = '"' then .outside else if x = '\\' then .escaping else .inside
  | .escaping, _ => .inside

def after (q : Quoting) (t : Text) : Quoting := t.foldl step q

@[simp] theorem after_nil (q : Quoting) : q.after [] = q := rfl

@[simp] theorem after_cons (q : Quoting) (x : Char) (t : Text) :
    q.after (x :: t) = (q.step x).after t := rfl

@[simp] theorem after_append (q : Quoting) (s t : Text) :
    q.after (s ++ t) = (q.after s).after t := List.foldl_append

theorem outside_after {p : Char → Bool} {s : Text} (h : RunOf p s) (hq : p '"' = false) :
    outside.after s = .outside := by
  induction s with
  | nil => rfl
  | cons x s ih =>
    have hx : x ≠ '"' := by
      rintro rfl
      simp [h '"' (by simp)] at hq
    have hs := ih fun y hy => h y (by simp [hy])
    simpa [step, hx] using hs

theorem inside_after {s v : Text} (h : StringBody s v) : inside.after s = .inside := by
  induction h with
  | nil => rfl
  | plain hq hm _ ih => simpa [step, hq, hm] using ih
  | backslash _ ih | quote _ ih | newline _ ih => simpa [step] using ih

theorem outside_after_string {s v : Text} (h : StringWord s v) : outside.after s = .outside := by
  obtain ⟨hb⟩ := h
  simp [step, inside_after hb]

end Quoting

/-- Text in which every string has been closed. -/
def Text.Closed (s : Text) : Prop := Quoting.outside.after s = .outside

theorem Text.Closed.nil : Text.Closed [] := rfl

theorem Text.Closed.append {s t : Text} (hs : Text.Closed s) (ht : Text.Closed t) :
    Text.Closed (s ++ t) := by
  rw [Text.Closed, Quoting.after_append, hs, ht]

/-- What an unknown escape is announced with. -/
def unknownEscape : Text := stringEscapes.expected '\\'

/-- The character that begins an unknown escape could still have begun another one. -/
def Failure.begun (f : Failure) : Text := if f.expected = unknownEscape then ['\\'] else []

theorem Failure.begun_eq {f : Failure} (h : f.expected = unknownEscape) : f.begun = ['\\'] :=
  if_pos h

theorem Failure.begun_eq_nil {f : Failure} (h : f.expected ≠ unknownEscape) : f.begun = [] :=
  if_neg h

/-- How a failure fits the text that has been read before it. -/
structure Failure.BreaksOff (f : Failure) (s : Text) : Prop where
  begun : ∃ t, f.cursor.rest = f.begun ++ t
  quoting : Quoting.outside.after s = if f.construct = some .string then .inside else .outside
  escape : f.expected = unknownEscape → f.construct = some .string
  unclosed : f.construct = some .string →
    f.expected = unknownEscape ∨ f.cursor.rest = []

theorem Failure.BreaksOff.prepend {f : Failure} {s t : Text} (h : f.BreaksOff t)
    (hs : Text.Closed s) : f.BreaksOff (s ++ t) where
  begun := h.begun
  quoting := by rw [Quoting.after_append, hs, h.quoting]
  escape := h.escape
  unclosed := h.unclosed

theorem Failure.BreaksOff.missing {c : Cursor} {expected : Text}
    (h : expected ≠ unknownEscape) : (c.missing expected).BreaksOff [] where
  begun := ⟨c.rest, by rw [begun_eq_nil h]; rfl⟩
  quoting := by simp [Cursor.missing]
  escape e := absurd e h
  unclosed e := by simp [Cursor.missing] at e

theorem Failure.BreaksOff.commit {f : Failure} {s : Text} (h : f.BreaksOff s) :
    f.commit.BreaksOff s := ⟨h.begun, h.quoting, h.escape, h.unclosed⟩

theorem Failure.BreaksOff.blame {f : Failure} {s : Text} {k : Construct} (h : f.BreaksOff s)
    (hk : k ≠ .string) : (f.blame k).BreaksOff s := by
  have hc : (f.blame k).construct = some .string ↔ f.construct = some .string := by
    cases hf : f.construct <;> simp [Failure.blame, hf, hk]
  exact ⟨h.begun, by simp only [hc, h.quoting], fun e => hc.2 (h.escape e),
    fun e => h.unclosed (hc.1 e)⟩

/-- What a result at a cursor has to do with a language of words and their values. -/
def Result.Follows {α : Type} (L : Text → α → Prop) (c : Cursor) : Result α → Prop
  | .ok a d => ∃ s, c.Reads s d ∧ Text.Closed s ∧ L s a
  | .fail f => ∃ s, c.Reads s f.cursor ∧ f.BreaksOff s ∧ ∃ t a, L (s ++ f.begun ++ t) a
  | .endless => True

namespace Result.Follows

variable {α β : Type} {L : Text → α → Prop} {M : α → Text → β → Prop} {N : Text → β → Prop}
  {c : Cursor}

theorem map {r : Result α} {f : α → β} (h : r.Follows L c) (hf : ∀ s a, L s a → N s (f a)) :
    (r.map f).Follows N c := by
  cases r with
  | ok a d =>
    obtain ⟨s, hr, hc, hl⟩ := h
    exact ⟨s, hr, hc, hf s a hl⟩
  | fail e =>
    obtain ⟨s, hr, hb, t, a, hl⟩ := h
    exact ⟨s, hr, hb, t, f a, hf _ a hl⟩
  | endless => trivial

theorem prepend {r : Result β} {K : Text → β → Prop} {w : Text} {d : Cursor} (hw : c.Reads w d)
    (hc : Text.Closed w) (h : r.Follows K d) (hk : ∀ s b, K s b → N (w ++ s) b) :
    r.Follows N c := by
  cases r with
  | ok b e =>
    obtain ⟨s, hr, hs, hl⟩ := h
    exact ⟨w ++ s, hw.trans hr, hc.append hs, hk s b hl⟩
  | fail f =>
    obtain ⟨s, hr, hb, t, b, hl⟩ := h
    exact ⟨w ++ s, hw.trans hr, hb.prepend hc, t, b, by simpa using hk _ b hl⟩
  | endless => trivial

theorem cons {r : Result (List α)} {w : Text} {a : α} {d : Cursor} (hw : c.Reads w d)
    (hc : Text.Closed w) (hl : L w a) (h : r.Follows (ManyWords L) d) :
    (r.map (a :: ·)).Follows (ManyWords L) c := by
  have hm : (r.map (a :: ·)).Follows (fun t as => ∃ bs, as = a :: bs ∧ ManyWords L t bs) d :=
    map h fun _ bs hb => ⟨bs, rfl, hb⟩
  refine prepend hw hc hm fun t as hb => ?_
  obtain ⟨bs, rfl, hb⟩ := hb
  exact .cons hl hb

/-- A word followed by another one. If no word can follow, the first one is not completed. -/
theorem bind {r : Result α} {f : α → Cursor → Result β} (h : r.Follows L c)
    (hf : ∀ a d, r = .ok a d → (f a d).Follows (M a) d) (hm : ∀ s a, L s a → ∃ t b, M a t b)
    (hn : ∀ s a t b, L s a → M a t b → N (s ++ t) b) : (r.bind f).Follows N c := by
  cases r with
  | ok a d =>
    obtain ⟨s, hr, hc, hl⟩ := h
    exact prepend hr hc (hf a d rfl) fun t b hb => hn s a t b hl hb
  | fail e =>
    obtain ⟨s, hr, hb, t, a, hl⟩ := h
    obtain ⟨u, b, hu⟩ := hm _ a hl
    exact ⟨s, hr, hb, t ++ u, b, by simpa using hn _ a u b hl hu⟩
  | endless => trivial

theorem recover {r : Result α} {f : Failure → Result α} (h : r.Follows L c)
    (hf : ∀ e, (f e).Follows L c) : (r.recover f).Follows L c := by
  cases r with
  | ok a d => exact h
  | fail e =>
    rw [recover_fail]
    split
    · exact h
    · exact hf e
  | endless => trivial

theorem missing {expected : Text} {s : Text} {a : α} (hs : L s a)
    (he : expected ≠ unknownEscape) :
    (Result.fail (c.missing expected) : Result α).Follows L c := by
  refine ⟨[], .refl c, .missing he, s, a, ?_⟩
  rwa [Failure.begun_eq_nil he]

theorem commit {r : Result α} (h : r.Follows L c) :
    (r.mapFailure Failure.commit).Follows L c := by
  cases r with
  | ok a d => exact h
  | fail e =>
    obtain ⟨s, hr, hb, hl⟩ := h
    exact ⟨s, hr, hb.commit, hl⟩
  | endless => trivial

theorem blame {r : Result α} {k : Construct} (h : r.Follows L c) (hk : k ≠ .string) :
    (r.mapFailure (·.blame k)).Follows L c := by
  cases r with
  | ok a d => exact h
  | fail e =>
    obtain ⟨s, hr, hb, hl⟩ := h
    exact ⟨s, hr, hb.blame hk, hl⟩
  | endless => trivial

end Result.Follows

end CurlyMarkup
