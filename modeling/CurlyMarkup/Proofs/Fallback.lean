import CurlyMarkup.Compile
set_option autoImplicit false

namespace CurlyMarkup

namespace Backend

theorem ofName?_name (b : Backend) : ofName? b.name = some b := by
  cases b <;> rfl

end Backend

/-- Whatever goes wrong in the printer is a refusal of the formatter. -/
theorem Layout.formatWith_ne_crashed (print : Printer) (html : Text) (o : FormatOptions)
    (m : Text) : (formatWith print html o).value ≠ .crashed m := by
  intro h
  rw [formatWith] at h
  split at h
  · cases h
  · split at h <;> cases h

theorem Backend.formatterWith_ne_crashed (print : Layout.Printer) (b : Backend) (html : Text)
    (o : FormatOptions) (m : Text) : (b.formatterWith print html o).value ≠ .crashed m := by
  cases b with
  | layout => exact Layout.formatWith_ne_crashed print html o m
  | asIs =>
    intro h
    cases h

theorem readUpTo_val {n : Nat} (i : Fin (n+1)) : readUpTo n (.int i.val) = .ok i := by
  have hi : ¬ (i.val : Int) < 0 := by omega
  have hlt : (i.val : Int).toNat < n+1 := i.isLt
  simp only [readUpTo, readInt, Except.bind, hi, hlt, if_false, dif_pos]
  rfl

/-- Options pass the checks that they are read with. -/
theorem readFormatOptions_fields (o : FormatOptions) : readFormatOptions o.fields = .ok o := by
  have tabs : o.fields.optional "use_tabs" false readBool = .ok o.useTabs :=
    Fields.optional_of_lookup rfl rfl
  have size : o.fields.optional "indent_size" defaultIndent (readUpTo maxIndent) =
      .ok o.indentSize := Fields.optional_of_lookup rfl (readUpTo_val _)
  have attributes : o.fields.optional "indent_attributes" false readBool =
      .ok o.indentAttributes := Fields.optional_of_lookup rfl rfl
  have cdata : o.fields.optional "indent_cdata" false readBool = .ok o.indentCdata :=
    Fields.optional_of_lookup rfl rfl
  have comments : o.fields.optional "strip_comments" false readBool = .ok o.stripComments :=
    Fields.optional_of_lookup rfl rfl
  rw [readFormatOptions, tabs, size, attributes, cdata, comments]
  rfl

/-- What a formatter has made is kept; where it refuses, the HTML that it was asked for is. -/
structure FallsBack (html : Text)
    (finish : FormatResult → Logged (Except CompileError Compiled)) : Prop where
  formatted : ∀ t, (finish (.formatted t)).value = .ok ⟨t, true, none⟩
  refused : ∀ m, (finish (.refused m)).value = .ok ⟨html, false, some m⟩
  crashed : ∀ m, (finish (.crashed m)).value = .error (.crash m)

theorem Logged.bind_assoc {α β γ : Type} (x : Logged α) (f : α → Logged β) (g : β → Logged γ) :
    (x.bind f).bind g = x.bind fun a => (f a).bind g := by
  simp [bind, List.append_assoc]

namespace Document

/-- What is reported last, whatever has been compiled. -/
def conclude (d : Document) : Except CompileError Compiled → Logged (Except CompileError Compiled)
  | .error e => .quiet (.error e)
  | .ok c => ⟨.ok c, [⟨.info, compileLogger, "Compiled DSL document",
      [("root", .text d.root.head.name), ("formatted", .flag c.formatted),
        ("html_length", .count c.html.length)]⟩]⟩

/-- What is made of the answer of a formatter. -/
def finish (d : Document) (r : FormatResult) : Logged (Except CompileError Compiled) :=
  (generate d (some fun _ _ => .quiet r) {}).bind d.conclude

theorem fallsBack_finish (d : Document) : FallsBack d.html d.finish where
  formatted t := by simp only [finish, generate, Logged.bind, Logged.quiet, conclude]
  refused m := by simp only [finish, generate, Logged.bind, Logged.quiet, conclude]
  crashed m := by simp only [finish, generate, Logged.bind, Logged.quiet, conclude]

end Document

theorem compile_of_error {source : Text} {e : SyntaxError} (h : readDocument source = .error e)
    (f : Option Formatter) (o : Option FormatOptions) (s : Settings) :
    compile source f o s = .quiet (.error (.source e)) := by
  unfold compile
  rw [h]

/-- The formatter that is given, or else the one of the name that the settings hold. -/
def Settings.usedFormatter (s : Settings) (f : Option Formatter) : Option Formatter :=
  f <|> if s.formatOutput then (Backend.ofName? s.formatter.name).map Backend.formatter else none

/-- The formatters that settings may name can all be made. -/
theorem Settings.chooseFormatter_eq (s : Settings) (f : Option Formatter) :
    s.chooseFormatter f = .ok (s.usedFormatter f) := by
  rw [chooseFormatter, usedFormatter, Backend.ofName?_name, createFormatter_name]
  cases f with
  | some f => rfl
  | none => cases s.formatOutput <;> rfl

theorem compile_of_ok {source : Text} {d : Document} (h : readDocument source = .ok d)
    (f : Option Formatter) (o : Option FormatOptions) (s : Settings) : compile source f o s =
      (generate d (s.usedFormatter f) (o.getD s.formatOptions)).bind d.conclude := by
  unfold compile
  rw [h, s.chooseFormatter_eq]
  rfl

theorem generate_bind (d : Document) (g : Formatter) (o : FormatOptions) :
    (generate d (some g) o).bind d.conclude = (g d.html o).bind d.finish := by
  rw [generate, Logged.bind_assoc]
  rfl

theorem FallsBack.value_ne_error {html : Text}
    {finish : FormatResult → Logged (Except CompileError Compiled)} (h : FallsBack html finish)
    (b : Backend) (o : FormatOptions) (e : CompileError) :
    ((b.formatter html o).bind finish).value ≠ .error e := by
  have hb : ∀ m, (b.formatter html o).value ≠ .crashed m :=
    b.formatterWith_ne_crashed Layout.print html o
  rw [Logged.bind]
  cases hr : (b.formatter html o).value with
  | formatted t => simp [h.formatted]
  | refused t => simp [h.refused]
  | crashed t => exact absurd hr (hb t)

/-- Compilation ends with the error of the source before any formatter is asked. Otherwise the
formatter in use is asked once, for the HTML of the document and with the options given or set; what
it does not do leaves that HTML. A formatter that settings name does not break down. -/
theorem compile_contained (source : Text) :
    (∀ e, readDocument source = .error e →
      ∀ f o s, compile source f o s = .quiet (.error (.source e))) ∧
    (∀ d, readDocument source = .ok d → ∃ finish, FallsBack d.html finish ∧
      ∀ (f : Option Formatter) (o : Option FormatOptions) (s : Settings),
        (s.usedFormatter f = none →
          (compile source f o s).value = .ok ⟨d.html, false, none⟩) ∧
        ∀ g, s.usedFormatter f = some g →
          compile source f o s = (g d.html (o.getD ⟨s.useTabs, s.indentSize, s.indentAttributes,
            s.indentCdata, s.stripComments⟩)).bind finish) ∧
    (∀ o s e, (compile source none o s).value = .error e →
      ∃ k, readDocument source = .error k ∧ e = .source k) ∧
    ∀ s : Settings, readFormatOptions s.formatOptions.fields = .ok s.formatOptions := by
  refine ⟨fun e h => compile_of_error h, fun d h => ⟨d.finish, d.fallsBack_finish, ?_⟩, ?_,
    fun s => readFormatOptions_fields _⟩
  · intro f o s
    rw [compile_of_ok h]
    refine ⟨fun hf => ?_, fun g hf => ?_⟩
    · rw [hf]
      rfl
    · rw [hf]
      exact generate_bind d g _
  · intro o s e he
    cases h : readDocument source with
    | error k =>
      rw [compile_of_error h] at he
      cases he
      exact ⟨k, rfl, rfl⟩
    | ok d =>
      rw [compile_of_ok h, Settings.usedFormatter, Backend.ofName?_name] at he
      cases hs : s.formatOutput with
      | true =>
        rw [hs, if_pos rfl] at he
        change ((generate d (some s.formatter.formatter) _).bind d.conclude).value = _ at he
        rw [generate_bind] at he
        exact (d.fallsBack_finish.value_ne_error _ _ _ he).elim
      | false =>
        rw [hs] at he
        cases he

/-- A formatter that refuses everything leaves the HTML as it was. -/
theorem compile_contained_refused :
    ∃ d, readDocument "!doctype \x7b\"html\"\x7d p\x7b\"1\"\x7d" = .ok d ∧
      (compile "!doctype \x7b\"html\"\x7d p\x7b\"1\"\x7d"
        (some fun _ _ => .quiet (.refused "no")) none {}).value =
          .ok ⟨d.html, false, some "no"⟩ := by
  refine ⟨_, rfl, ?_⟩
  obtain ⟨-, read, -, -⟩ := compile_contained "!doctype \x7b\"html\"\x7d p\x7b\"1\"\x7d"
  obtain ⟨finish, h, used⟩ := read _ rfl
  obtain ⟨-, asked⟩ := used (some fun _ _ => .quiet (.refused "no")) none {}
  rw [asked _ rfl]
  exact h.refused _

end CurlyMarkup
