import CurlyMarkup.Proofs.Failures
import CurlyMarkup.Proofs.Positions
import CurlyMarkup.Proofs.Recognition
set_option autoImplicit false

namespace CurlyMarkup

namespace Text

/-- The text can be shown as it is. -/
def Printable (t : Text) : Prop := ∀ x ∈ t, isPrintable x = true

variable {s t : Text}

theorem Printable.append (hs : s.Printable) (ht : t.Printable) : Text.Printable (s ++ t) := by
  intro x hx
  rcases List.mem_append.1 hx with hx | hx
  · exact hs x hx
  · exact ht x hx

theorem Printable.cons {x : Char} (hx : isPrintable x = true) (ht : t.Printable) :
    Text.Printable (x :: t) := by
  intro y hy
  rcases List.mem_cons.1 hy with rfl | hy
  · exact hx
  · exact ht y hy

theorem Printable.flatten {ts : List Text} (h : ∀ t ∈ ts, t.Printable) :
    Text.Printable ts.flatten := by
  intro x hx
  obtain ⟨t, ht, hx⟩ := List.mem_flatten.1 hx
  exact h t ht x hx

theorem Printable.nil : Text.Printable [] := fun _ hx => absurd hx List.not_mem_nil

theorem Printable.ite {p : Prop} [Decidable p] (hs : p → s.Printable) (ht : ¬ p → t.Printable) :
    (if p then s else t).Printable := by
  split
  · exact hs ‹_›
  · exact ht ‹_›

/-- A line feed cannot be shown. -/
theorem Printable.not_mem_feed (h : t.Printable) : '\n' ∉ t := fun hm => by
  have hp : isPrintable '\n' = true := h '\n' hm
  simp [isPrintable] at hp

theorem isPrintable_digitChar {d : Nat} (h : d < 16) : isPrintable d.digitChar = true := by
  revert d
  decide

theorem printable_toDigits {b : Nat} (hb : 1 < b) (hb' : b ≤ 16) (n : Nat) :
    Text.Printable (Nat.toDigits b n) := by
  induction n using Nat.strongRecOn with
  | ind n ih =>
    rw [Nat.toDigits_eq_if hb]
    split
    · exact .cons (isPrintable_digitChar (by omega)) .nil
    · have hlt : n/b < n := Nat.div_lt_self (by omega) hb
      have hmod : n%b < b := Nat.mod_lt n (by omega)
      exact (ih _ hlt).append (.cons (isPrintable_digitChar (by omega)) .nil)

theorem printable_ofInt (n : Int) : (Text.ofInt n).Printable := by
  cases n with
  | ofNat n => exact printable_toDigits (by decide) (by decide) n
  | negSucc n => exact .cons (by decide) (printable_toDigits (by decide) (by decide) (n+1))

theorem printable_hexDigits (width n : Nat) : Text.Printable (hexDigits width n) := by
  have hd : Text.Printable (Nat.toDigits 16 n) := printable_toDigits (by decide) (by decide) n
  refine Printable.append (fun x hx => ?_) hd
  rw [List.eq_of_mem_replicate hx]
  decide

/-- A character is shown as it is if that can be done, and behind a backslash if not. -/
theorem printable_quotedChar {mark : Char} (hm : isPrintable mark = true) (c : Char) :
    Text.Printable (quotedChar mark c) := by
  have escaped {x : Char} {t : Text} (hx : isPrintable x = true) (ht : t.Printable) :
      Text.Printable ('\\' :: x :: t) := .cons (by decide) (.cons hx ht)
  refine .ite (fun hc => escaped ?_ .nil) fun _ =>
    .ite (fun _ => escaped (by decide) .nil) fun _ =>
    .ite (fun _ => escaped (by decide) .nil) fun _ =>
    .ite (fun _ => escaped (by decide) .nil) fun _ =>
    .ite (fun hc => .cons hc .nil) fun _ =>
    .ite (fun _ => escaped (by decide) (printable_hexDigits 2 _)) fun _ =>
    .ite (fun _ => escaped (by decide) (printable_hexDigits 4 _)) fun _ =>
    escaped (by decide) (printable_hexDigits 8 _)
  rcases hc with rfl | rfl
  · exact hm
  · decide

theorem quotationMark_cases (t : Text) : t.quotationMark = '"' ∨ t.quotationMark = '\'' := by
  rw [quotationMark]
  split
  · exact .inl rfl
  · exact .inr rfl

theorem isPrintable_quotationMark (t : Text) : isPrintable t.quotationMark = true := by
  rcases t.quotationMark_cases with h | h <;> rw [h] <;> decide

theorem printable_quoted (t : Text) : t.quoted.Printable := by
  have hm := t.isPrintable_quotationMark
  refine Printable.append (.cons hm fun x hx => ?_) (.cons hm .nil)
  obtain ⟨c, -, hx⟩ := List.mem_flatMap.1 hx
  exact printable_quotedChar hm c x hx

end Text

theorem Text.printable_of_all {t : Text} (h : t.all isPrintable = true) : t.Printable :=
  List.all_eq_true.1 h

theorem printable_preview (t : Text) : (preview t).Printable :=
  .ite (fun _ => Text.printable_of_all (by decide)) fun _ =>
    .ite (fun _ => (Text.printable_quoted _).append (Text.printable_of_all (by decide))) fun _ =>
    t.printable_quoted

theorem Construct.printable_label (k : Construct) : k.label.Printable := by
  cases k <;> exact Text.printable_of_all (by decide)

/-- Only what is expected could keep a description from being shown on one line. -/
theorem SyntaxError.printable_description {e : SyntaxError} (h : e.expected.Printable) :
    e.description.Printable := by
  refine .flatten ?_
  simp only [List.forall_mem_cons]
  exact ⟨Text.printable_of_all (by decide), e.construct.printable_label,
    Text.printable_of_all (by decide), h, Text.printable_of_all (by decide),
    Text.printable_ofInt _, Text.printable_of_all (by decide), Text.printable_ofInt _,
    Text.printable_of_all (by decide), printable_preview _, by simp⟩

/-- What is shown of a text tells whether there is nothing, all of it or only its beginning. -/
structure Previews (t shown : Text) : Prop where
  nothing : shown = "end of input" ↔ t = []
  whole : t ≠ [] → t.length ≤ 40 → shown = t.quoted
  cut : 40 < t.length → shown = Text.quoted (t.take 40) ++ ("..." : Text)
  dots : ("..." : Text) <:+ shown ↔ 40 < t.length

theorem Text.quoted_append_ne_end (t u : Text) : t.quoted ++ u ≠ "end of input" := by
  intro h
  have hm : t.quotationMark = 'e' := (List.cons.inj h).1
  rcases t.quotationMark_cases with hq | hq <;> simp [hq] at hm

theorem Text.not_dots_suffix_quoted (t : Text) : ¬ ("..." : Text) <:+ t.quoted := by
  intro h
  have hl : (t.quoted).getLast? = some '.' := by
    obtain ⟨u, hu⟩ := h
    rw [← hu, List.getLast?_append]
    rfl
  rw [quoted, List.getLast?_append, List.getLast?_singleton, Option.some_or,
    Option.some.injEq] at hl
  rcases t.quotationMark_cases with hq | hq <;> simp [hq] at hl

theorem previews_preview (t : Text) : Previews t (preview t) := by
  by_cases hn : t = []
  · subst hn
    constructor
    case nothing => exact iff_of_true rfl rfl
    case whole => exact fun h => absurd rfl h
    case cut => exact fun h => absurd h (by decide)
    case dots => exact iff_of_false (by decide) (by decide)
  have he : t.isEmpty = false := by simpa using hn
  by_cases hl : 40 < t.length
  · have hp : preview t = Text.quoted (t.take 40) ++ ("..." : Text) := by
      rw [preview, he]
      exact if_pos hl
    rw [hp]
    constructor
    case nothing => exact iff_of_false (Text.quoted_append_ne_end _ _) hn
    case whole => exact fun _ hle => by omega
    case cut => exact fun _ => rfl
    case dots => exact iff_of_true (List.suffix_append _ _) hl
  · have hp : preview t = t.quoted := by
      rw [preview, he]
      exact if_neg hl
    have hne : t.quoted ≠ "end of input" := by
      have h := t.quoted_append_ne_end []
      rwa [List.append_nil] at h
    rw [hp]
    constructor
    case nothing => exact iff_of_false hne hn
    case whole => exact fun _ _ => rfl
    case cut => exact fun h => absurd h hl
    case dots => exact iff_of_false t.not_dots_suffix_quoted hl

/-- The error stands at a place in the text, and its message tells this and what remains there. -/
structure SyntaxError.StandsIn (e : SyntaxError) (s : Text) : Prop where
  place : ∃ k : Nat, e.offset = k ∧ e.remaining = s.drop k ∧
    e.line = (Cursor.place s k).line ∧ e.column = (Cursor.place s k).column
  message : ∃ shown, Previews e.remaining shown ∧ e.message =
    ([ "Invalid ", e.construct.label, ": expected ", e.expected, " at line ", .ofInt e.line,
      ", column ", .ofInt e.column, "; remaining input: ", shown ] : List Text).flatten

theorem Failure.standsIn {f : Failure} {s : Text} (h : f.cursor.text = s) :
    f.toError.StandsIn s where
  place := by
    have hc : f.cursor = .place s f.cursor.offset := Cursor.eq_of_offset_eq h rfl
    refine ⟨f.cursor.offset, rfl, ?_, ?_, ?_⟩
    · exact f.cursor.rest_eq.trans (by rw [h])
    · rw [← hc]
      rfl
    · rw [← hc]
      rfl
  message := ⟨_, previews_preview _, rfl⟩

/-- The places where a rule fails are places in the text. -/
theorem Rule.standsIn_of_run {α : Type} {r : Rule α} {s : Text} {f : Failure}
    (h : r.run (.ofText s) = .fail f) : f.toError.StandsIn s :=
  Failure.standsIn (r.fails_of_run h).leadsTo.text_eq

theorem Rule.printable_of_run {α : Type} {r : Rule α} {c : Cursor} {f : Failure}
    (hr : ∀ t ∈ r.expectations, t.Printable) (h : r.run c = .fail f) :
    f.toError.message.Printable :=
  SyntaxError.printable_description (hr _ (r.fails_of_run h).expected_mem)

namespace Grammar

open Rule

theorem printable_element : ∀ t ∈ element.expectations, t.Printable := fun t ht =>
  Text.printable_of_all (List.all_eq_true.1
    (by decide +kernel : (element.expectations.all fun t => t.all isPrintable) = true) t ht)

theorem printable_prolog : ∀ t ∈ (preceded blanks doctype).expectations, t.Printable := fun t ht =>
  Text.printable_of_all (List.all_eq_true.1
    (by decide +kernel :
      ((preceded blanks doctype).expectations.all fun t => t.all isPrintable) = true) t ht)

/-- Around the element only the end of the text is expected, under its own name. -/
theorem printable_rootOnly {expected : Text} (h : expected.Printable) :
    ∀ t ∈ (rootOnly expected).expectations, t.Printable := by
  intro t ht
  have hcases : t = "root element" ∨ t ∈ element.expectations ∨ t = expected := by
    simpa [rootOnly, root, delimited, preceded, terminated, blanks, expectations] using ht
  rcases hcases with rfl | he | rfl
  · exact Text.printable_of_all (by decide)
  · exact printable_element t he
  · exact h

theorem printable_document : ∀ t ∈ document.expectations, t.Printable := by
  intro t ht
  rcases List.mem_append.1 ht with hp | hr
  · exact printable_prolog t hp
  · exact printable_rootOnly (Text.printable_of_all (by decide)) t hr

end Grammar

theorem readElement_eq_error {s : Text} {e : SyntaxError} :
    readElement s = .error e ↔
      ∃ f, (Grammar.rootOnly "end of input").run (.ofText s) = .fail f ∧ f.toError = e :=
  Result.toExcept_eq_error

/-- Lines and columns are in the order of the text and lead back to the offset. Whatever rule is run
on a text, the error stands where its line and column say, and the message of a document or an
element is one line that can be shown. -/
theorem diagnostics_locate :
    (∀ (t : Text) (a b : Nat), a < b →
      (Cursor.place t a).line < (Cursor.place t b).line ∨
        (Cursor.place t a).line = (Cursor.place t b).line ∧
          (Cursor.place t a).column < (Cursor.place t b).column) ∧
    (∀ (t : Text) (a : Nat),
      a = ((((Text.split '\n' t).take ((Cursor.place t a).line-1)).map (·.length+1)).sum +
        ((Cursor.place t a).column-1))) ∧
    (∀ {α : Type} (r : Rule α) (s : Text) (f : Failure),
      r.run (.ofText s) = .fail f → f.toError.StandsIn s) ∧
    (∀ (s : Text) (e : SyntaxError), readDocument s = .error e →
      e.StandsIn s ∧ '\n' ∉ e.message ∧ ∀ x ∈ e.message, isPrintable x = true) ∧
    (∀ (s : Text) (e : SyntaxError), readElement s = .error e →
      e.StandsIn s ∧ '\n' ∉ e.message ∧ ∀ x ∈ e.message, isPrintable x = true) := by
  refine ⟨fun t a b h => Cursor.line_column_lt rfl h, fun t a => (Cursor.place t a).offset_eq_lines,
    fun _ _ _ => Rule.standsIn_of_run, ?_, ?_⟩
  · intro s e he
    obtain ⟨f, hf, rfl⟩ := readDocument_eq_error.1 he
    have hp := Rule.printable_of_run Grammar.printable_document hf
    exact ⟨Rule.standsIn_of_run hf, hp.not_mem_feed, hp⟩
  · intro s e he
    obtain ⟨f, hf, rfl⟩ := readElement_eq_error.1 he
    have hp := Rule.printable_of_run
      (Grammar.printable_rootOnly (Text.printable_of_all (by decide))) hf
    exact ⟨Rule.standsIn_of_run hf, hp.not_mem_feed, hp⟩

/-- Line feeds before the error count, and one behind it is shown as an escape. -/
theorem diagnostics_locate_feed :
    ∃ e, readElement "p \x7b\n  q]\n" = .error e ∧ e.offset = 7 ∧ e.line = 2 ∧ e.column = 4 ∧
      e.StandsIn "p \x7b\n  q]\n" ∧ '\n' ∉ e.message := by
  obtain ⟨-, -, -, -, element⟩ := diagnostics_locate
  obtain ⟨stands, message, -⟩ := element "p \x7b\n  q]\n" _ rfl
  exact ⟨_, rfl, rfl, by decide, by decide, stands, message⟩

end CurlyMarkup
