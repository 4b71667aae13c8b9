import CurlyMarkup.Text.Basic
set_option autoImplicit false

/-!
Files of variables, one `NAME=value` to a line. Values may be quoted; a number sign starts a
comment at the start of a line, after a blank, or after a quoted value; `export` may lead. A line
that is none of this is passed over.
-/

namespace CurlyMarkup.EnvFile

def isGap (c : Char) : Bool := isBlank c && c ≠ '\n' && c ≠ '\r'

/-- A binding without a value has a name alone. -/
structure Binding where
  name : Text
  value : Option Text
  deriving DecidableEq, Repr

/-- The text up to the next `mark` and what follows; a backslash keeps a mark from counting, unless
there is no other. -/
def cutAtMark? (mark : Char) : Text → Option (Text × Text)
  | [] => none
  | ['\\'] => none
  | '\\' :: c :: t =>
    if c = mark then
      match cutAtMark? mark t with
      | some (a, b) => some ('\\' :: c :: a, b)
      | none => some (['\\'], t)
    else (cutAtMark? mark (c :: t)).map fun (a, b) => ('\\' :: a, b)
  | c :: t => if c = mark then some ([], t) else (cutAtMark? mark t).map fun (a, b) => (c :: a, b)

def singleEscapes : List (Char × Char) := [('\\', '\\'), ('\'', '\'')]

def doubleEscapes : List (Char × Char) := [
  ('\\', '\\'), ('\'', '\''), ('"', '"'), ('a', '\x07'), ('b', '\x08'), ('f', '\x0c'),
  ('n', '\n'), ('r', '\r'), ('t', '\t'), ('v', '\x0b')]

def decode (escapes : List (Char × Char)) : Text → Text
  | '\\' :: c :: t =>
    match escapes.lookup c with
    | some d => d :: decode escapes t
    | none => '\\' :: decode escapes (c :: t)
  | c :: t => c :: decode escapes t
  | [] => []

/-- Drops a comment, which starts with a number sign after a blank. -/
def dropComment : Text → Text
  | [] => []
  | c :: t => if isBlank c && (t.dropWhile isBlank).head? = some '#' then [] else c :: dropComment t

/-- A value and what follows it. -/
def readValue? (t : Text) : Option (Text × Text) :=
  match t with
  | '\'' :: u => (cutAtMark? '\'' u).map fun (v, r) => (decode singleEscapes v, r)
  | '"' :: u => (cutAtMark? '"' u).map fun (v, r) => (decode doubleEscapes v, r)
  | _ =>
    some (Text.trimEnd isBlank (dropComment (t.takeWhile (· ≠ '\n'))), t.dropWhile (· ≠ '\n'))

def dropExport (t : Text) : Text :=
  let word : Text := "export"
  let r := t.drop word.length
  if word.isPrefixOf t && (r.head?.map isGap).getD false then r.dropWhile isGap else t

/-- A name and what follows it; there is none where a comment starts. -/
def readName? (t : Text) : Option (Option Text × Text) :=
  match t with
  | '#' :: _ => some (none, t)
  | '\'' :: u =>
    match Text.cut? '\'' u with
    | some (c :: n, r) => some (some (c :: n), r)
    | _ => none
  | _ =>
    let p := fun c => c ≠ '=' && c ≠ '#' && !isBlank c
    match t.takeWhile p with
    | [] => none
    | n => some (some n, t.dropWhile p)

/-- What is left after the end of the line, before which only a comment may come. -/
def endLine? (t : Text) : Option Text :=
  match t.dropWhile isGap with
  | [] => some []
  | '\n' :: r => some r
  | '#' :: r => some ((r.dropWhile (· ≠ '\n')).drop 1)
  | _ => none

/-- One line, from its first character that is not blank: its binding, and what is left. -/
def readLine? (t : Text) : Option (Option Binding × Text) :=
  (readName? (dropExport t)).bind fun (name, r) =>
    match r.dropWhile isGap with
    | '=' :: r =>
      (readValue? (r.dropWhile isGap)).bind fun (value, r) =>
        (endLine? r).map fun r => (name.map fun n => ⟨n, some value⟩, r)
    | r => (endLine? r).map fun r => (name.map fun n => ⟨n, none⟩, r)

/-- The bindings in order; each line takes up one character of `bound` at least. -/
def readLines : Text → Text → List Binding
  | [], _ => []
  | _ :: bound, t =>
    match t.dropWhile isBlank with
    | [] => []
    | c :: u =>
      match readLine? (c :: u) with
      | some (some b, r) => b :: readLines bound r
      | some (none, r) => readLines bound r
      | none => readLines bound ((u.dropWhile (· ≠ '\n')).drop 1)

def bindings (t : Text) : List Binding := readLines t t

end CurlyMarkup.EnvFile
