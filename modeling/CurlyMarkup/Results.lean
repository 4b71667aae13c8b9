import CurlyMarkup.Compile
import CurlyMarkup.Tree.Data
set_option autoImplicit false

namespace CurlyMarkup

/-- A time in seconds, of whose digits the last `places` stand after the point. -/
structure Seconds where
  digits : Int
  places : Nat
  deriving DecidableEq, Repr

def readSeconds : Reader Seconds
  | .int n => .ok ⟨n, 0⟩
  | .decimal m p => .ok ⟨m, p⟩
  | .bool b => .ok ⟨if b then 1 else 0, 0⟩
  | _ => .refuse .notNumber

def Seconds.datum (s : Seconds) : Datum := .decimal s.digits s.places

/-- A field for the time, which may be unknown. -/
def readTime (fields : Fields) : Checked (Option Seconds) :=
  fields.optional "processing_time" none (readNullable readSeconds)

def timeField (time : Option Seconds) : Text × Datum :=
  ("processing_time", .ofOption Seconds.datum time)

/-- What is kept of a reading. It may have failed without messages, or succeeded and not kept
the document. -/
structure ReadingResult where
  success : Bool
  document : Option Document
  errors : List Text
  time : Option Seconds

def readReadingResult : Reader ReadingResult :=
  readModel "ParseResult" fun fields =>
    (Checked.both (fields.required "success" readBool) <|
      Checked.both (fields.optional "document" none (readNullable readDocumentDatum)) <|
      Checked.both (fields.optional "errors" [] (readList readText)) (readTime fields)).map
      fun (success, document, errors, time) => { success, document, errors, time }

def ReadingResult.datum (r : ReadingResult) : Datum := .object [
  ("success", .bool r.success),
  ("document", .ofOption Document.datum r.document),
  ("errors", .list (r.errors.map .string)),
  timeField r.time]

/-- The result that a report amounts to. -/
def Report.result (time : Option Seconds) : Report → ReadingResult
  | .document d => ⟨true, some d, [], time⟩
  | .errors messages => ⟨false, none, messages, time⟩

structure CompileResult extends Compiled where
  time : Option Seconds

def readCompileResult : Reader CompileResult :=
  readModel "CompileResult" fun fields =>
    (Checked.both (fields.required "html" readText) <|
      Checked.both (fields.optional "formatted" false readBool) <|
      Checked.both (fields.optional "formatter_error" none (readNullable readText))
        (readTime fields)).map
      fun (html, formatted, formatterError, time) => { html, formatted, formatterError, time }

def CompileResult.datum (r : CompileResult) : Datum := .object [
  ("html", .string r.html),
  ("formatted", .bool r.formatted),
  ("formatter_error", .ofOption .string r.formatterError),
  timeField r.time]

end CurlyMarkup
