import CurlyMarkup.Proofs.ErrorPosition
import CurlyMarkup.Proofs.Failures
set_option autoImplicit false

namespace CurlyMarkup

namespace Grammar

open Rule

/-- Before the root only the document type and the string in it can be blamed. -/
theorem prolog_blamed : ∀ k ∈ (preceded blanks doctype).blamed,
    k = some .doctype ∨ k = some .string := by decide

theorem rootOnly_blamed : ∀ k ∈ (rootOnly "end of input after the root element").blamed,
    k = some .element ∨ k = some .string := by decide

end Grammar

namespace Quoting

/-- How many quotes begin or end a string, which those behind a backslash in it do not. -/
def quotes : Quoting → Text → Nat
  | _, [] => 0
  | q, x :: t => (if x = '"' ∧ q ≠ .escaping then 1 else 0) + (q.step x).quotes t

/-- The number of strings that are open. -/
def depth : Quoting → Nat
  | .outside => 0
  | .inside | .escaping => 1

theorem depth_step (q : Quoting) (x : Char) :
    ((if x = '"' ∧ q ≠ .escaping then 1 else 0) + q.depth) % 2 = (q.step x).depth := by
  by_cases hq : x = '"'
  · cases q <;> simp [step, depth, hq]
  · by_cases hm : x = '\\' <;> cases q <;> simp [step, depth, hq, hm]

theorem depth_after (q : Quoting) (t : Text) : (q.quotes t + q.depth) % 2 = (q.after t).depth := by
  induction t generalizing q with
  | nil => cases q <;> rfl
  | cons x t ih =>
    have hx := q.depth_step x
    have ht := ih (q.step x)
    rw [quotes, after_cons]
    omega

end Quoting

/-- A string that begins in the text does not end in it. -/
def Text.InString (p : Text) : Prop := Quoting.outside.quotes p % 2 = 1

theorem Text.inString_iff (p : Text) : p.InString ↔ Quoting.outside.after p ≠ .outside := by
  have h : Quoting.outside.quotes p % 2 = (Quoting.outside.after p).depth :=
    Quoting.depth_after .outside p
  rw [InString, h]
  cases Quoting.outside.after p <;> simp [Quoting.depth]

/-- The text begins with a document type, blanks before it left aside. -/
def Text.Declares (p : Text) : Prop := ∃ w v, AfterWord BlankWord DoctypeWord w v ∧ w <+: p

/-- The error stands at `k`, and it is blamed on what is being read there. -/
structure SyntaxError.BlamedAt (e : SyntaxError) (s : Text) (k : Nat) : Prop where
  offset : e.offset = k
  within : k ≤ s.length
  string : e.construct = .string ↔ Text.InString (s.take k)
  doctype : e.construct ≠ .string → (e.construct = .doctype ↔ ¬ Text.Declares (s.take k))
  element : e.construct ≠ .string → e.construct ≠ .doctype → e.construct = .element

namespace Grammar

open Rule

theorem document_fail_cases {c : Cursor} {f : Failure} (h : document.run c = .fail f) :
    (preceded blanks doctype).run c = .fail f ∨
      ∃ v d, (preceded blanks doctype).run c = .ok v d ∧
        (rootOnly "end of input after the root element").run d = .fail f := by
  rcases Result.bind_eq_fail (Result.map_eq_fail.1 h) with h | ⟨v, d, hv, h⟩
  · exact .inl h
  · exact .inr ⟨v, d, hv, Result.map_eq_fail.1 h⟩

end Grammar

namespace Failure.Breaks

variable {f : Failure} {s p : Text}

theorem string_iff (h : f.Breaks s p) : f.construct = some .string ↔ p.InString := by
  rw [Text.inString_iff, h.breaksOff.quoting]
  split <;> simp_all

/-- A document type that is refused is not there. -/
theorem not_declares (h : f.Breaks s p)
    (hf : (Rule.preceded Rule.blanks Grammar.doctype).run (.ofText s) = .fail f) :
    ¬ p.Declares := by
  rintro ⟨w, v, hw, t, rfl⟩
  obtain ⟨d, hd, -⟩ := h.reads.split
  rw [Grammar.run_prolog_word hw hd] at hf
  cases hf

theorem declares (h : f.Breaks s p) {v : Text} {d : Cursor}
    (hv : (Rule.preceded Rule.blanks Grammar.doctype).run (.ofText s) = .ok v d)
    (hf : (Grammar.rootOnly "end of input after the root element").run d = .fail f) :
    p.Declares := by
  have hroot := Grammar.rootOnly_follows
    (by decide : ("end of input after the root element" : Text) ≠ unknownEscape) d
  rw [hf] at hroot
  obtain ⟨w, hw, -, hword⟩ := Grammar.prolog_follows.of_run hv
  obtain ⟨u, hu, -⟩ := hroot
  exact ⟨w, v, hword, u, (hw.trans hu).word_unique h.reads⟩

/-- What is blamed, and what stands before the failure if that is not a string. -/
theorem construct_cases (h : f.Breaks s p) : f.construct = some .string ∨
    f.construct = some .doctype ∧ ¬ p.Declares ∨ f.construct = some .element ∧ p.Declares := by
  rcases Grammar.document_fail_cases h.run with hf | ⟨v, d, hv, hf⟩
  · rcases Grammar.prolog_blamed _ ((Rule.fails_of_run _ hf).construct_mem_blamed) with hk | hk
    · exact .inr (.inl ⟨hk, h.not_declares hf⟩)
    · exact .inl hk
  · rcases Grammar.rootOnly_blamed _ ((Rule.fails_of_run _ hf).construct_mem_blamed) with hk | hk
    · exact .inr (.inr ⟨hk, h.declares hv hf⟩)
    · exact .inl hk

theorem blamedAt (h : f.Breaks s p) : f.toError.BlamedAt s p.length := by
  have hblame : f.toError.construct = f.construct.getD .element := rfl
  have hcases := h.construct_cases
  constructor
  case offset => exact h.offset
  case within => simp [h.text_eq]
  case string =>
    rw [hblame, h.take, ← h.string_iff]
    rcases hcases with hk | ⟨hk, -⟩ | ⟨hk, -⟩ <;> simp [hk]
  case doctype =>
    rw [hblame, h.take]
    rcases hcases with hk | ⟨hk, hd⟩ | ⟨hk, hd⟩
    · simp [hk]
    · simp [hk, hd]
    · simp [hk, hd]
  case element =>
    rw [hblame]
    rcases hcases with hk | ⟨hk, -⟩ | ⟨hk, -⟩ <;> simp [hk]

end Failure.Breaks

/-- A text is read, or else it has one error, blamed on the string, the document type or the
element that is being read where it stands. -/
theorem readDocument_error_construct (s : Text) :
    (∃ d c, Grammar.document.run (.ofText s) = .ok d c ∧ readDocument s = .ok d) ∨
      ∃ f k, Grammar.document.run (.ofText s) = .fail f ∧ readDocument s = .error f.toError ∧
        f.toError.BlamedAt s k := by
  cases hr : Grammar.document.run (.ofText s) with
  | ok d c => exact .inl ⟨d, c, rfl, readDocument_eq_ok.2 ⟨c, hr⟩⟩
  | fail f =>
    obtain ⟨p, hp⟩ := exists_breaks hr
    exact .inr ⟨f, p.length, rfl, readDocument_eq_error.2 ⟨f, hr, rfl⟩, hp.blamedAt⟩
  | endless => exact absurd hr (Grammar.document_ends _)

end CurlyMarkup
