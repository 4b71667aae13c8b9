import CurlyMarkup.Format.Layout
import CurlyMarkup.Reading
import CurlyMarkup.Settings.Basic
import CurlyMarkup.Tree.Html
set_option autoImplicit false

namespace CurlyMarkup

structure Compiled where
  html : Text
  formatted : Bool
  formatterError : Option Text
  deriving DecidableEq, Repr

inductive CompileError where
  | source (e : SyntaxError)
  /-- There is no such formatter. -/
  | unsupported (message : Text)
  /-- The formatter broke down. -/
  | crash (message : Text)
  deriving DecidableEq, Repr

def generateLogger : Text := "braceml.core.rendering.html_generator"

def compileLogger : Text := "braceml.core.pipeline"

/-- The HTML of a document. If the formatter refuses it, it stays as it was before formatting. -/
def generate (d : Document) (f : Option Formatter) (o : FormatOptions) :
    Logged (Except CompileError Compiled) :=
  match f with
  | none => .quiet (.ok ⟨d.html, false, none⟩)
  | some f =>
    (f d.html o).bind fun
      | .formatted html =>
        ⟨.ok ⟨html, true, none⟩, [⟨.debug, generateLogger, "HTML generation completed",
          [("html_length", .count html.length)]⟩]⟩
      | .refused message =>
        ⟨.ok ⟨d.html, false, some message⟩, [⟨.warning, generateLogger,
          "Formatter failed, using unformatted HTML", [("error", .text message)]⟩]⟩
      | .crashed message => .quiet (.error (.crash message))

/-- The formatter in use, if any: the one that is given or else the one that settings name. -/
def Settings.chooseFormatter (s : Settings) (f : Option Formatter) :
    Except Text (Option Formatter) :=
  if f.isNone && s.formatOutput then (createFormatter Layout.print s.formatter.name).map some
  else .ok f

def compile (source : Text) (f : Option Formatter) (o : Option FormatOptions) (s : Settings) :
    Logged (Except CompileError Compiled) :=
  match readDocument source with
  | .error e => .quiet (.error (.source e))
  | .ok d =>
    match s.chooseFormatter f with
    | .error message => .quiet (.error (.unsupported message))
    | .ok f =>
      (generate d f (o.getD s.formatOptions)).bind fun
        | .error e => .quiet (.error e)
        | .ok c => ⟨.ok c, [⟨.info, compileLogger, "Compiled DSL document",
            [("root", .text d.root.head.name), ("formatted", .flag c.formatted),
              ("html_length", .count c.html.length)]⟩]⟩

end CurlyMarkup
