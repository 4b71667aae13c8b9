import CurlyMarkup.Log.Record
import CurlyMarkup.Text.Printable
import CurlyMarkup.Text.Case
set_option autoImplicit false

/-!
Records as lines: in columns for people, in colour or not, or as objects of JSON for machines.
-/

namespace CurlyMarkup

inductive LineStyle where
  | plain
  | coloured
  | json
  deriving DecidableEq, Repr

def Level.label (l : Level) : Text := l.name.lower

def FieldValue.shown : FieldValue → Text
  | .text t => if t.any ([' ', '\t', '=', '\r', '\n', '"', '\''].contains ·) then t.quoted else t
  | .count n => Text.ofNat n
  | .flag b => if b then "True" else "False"

/-- Fields in the order of their names. -/
def sortFields (fields : List (Text × FieldValue)) : List (Text × FieldValue) :=
  fields.mergeSort fun a b => Text.isUpTo a.1 b.1

def levelWidth : Nat := 9

def eventWidth : Nat := 30

def escapeSequence (code : Text) : Text := '\x1b' :: '[' :: code ++ ['m']

def resetStyle : Text := escapeSequence "0"

def bold : Text := escapeSequence "1"

def Level.colour : Level → Text
  | .debug | .info => escapeSequence "32"
  | .warning => escapeSequence "33"
  | .error | .critical => escapeSequence "31"

def Record.plainLine (r : Record) : Text :=
  ([ "[", Text.padRight levelWidth r.level.label, "] ", Text.padRight eventWidth r.event, " [",
    r.logger, "]" ] : List Text).flatten ++
  (sortFields r.fields).flatMap fun (k, v) => ' ' :: k ++ '=' :: v.shown

def Record.colouredLine (r : Record) : Text :=
  ([ "[", r.level.colour, bold, Text.padRight levelWidth r.level.label, resetStyle, "] ", bold,
    Text.padRight eventWidth r.event, resetStyle, " [", resetStyle, bold, escapeSequence "34",
    r.logger, resetStyle, "]", resetStyle ] : List Text).flatten ++
  (sortFields r.fields).flatMap fun (k, v) =>
    ([ " ", escapeSequence "36", k, resetStyle, "=", escapeSequence "35", v.shown,
      resetStyle ] : List Text).flatten

/-- A unit of sixteen bits as an escape of JSON. -/
def jsonUnit (n : Nat) : Text := '\\' :: 'u' :: hexDigits 4 n

def jsonChar (c : Char) : Text :=
  if c = '"' then ['\\', '"']
  else if c = '\\' then ['\\', '\\']
  else if c = '\n' then ['\\', 'n']
  else if c = '\r' then ['\\', 'r']
  else if c = '\t' then ['\\', 't']
  else if c = '\x08' then ['\\', 'b']
  else if c = '\x0c' then ['\\', 'f']
  else if 32 ≤ c.toNat && c.toNat < 127 then [c]
  else if c.toNat < 0x10000 then jsonUnit c.toNat
  else
    let n := c.toNat-0x10000
    jsonUnit (0xd800+n/0x400) ++ jsonUnit (0xdc00+n%0x400)

/-- A string of JSON in ASCII characters. -/
def jsonString (t : Text) : Text := '"' :: t.flatMap jsonChar ++ ['"']

def FieldValue.json : FieldValue → Text
  | .text t => jsonString t
  | .count n => Text.ofNat n
  | .flag b => if b then "true" else "false"

def jsonObject (fields : List (Text × Text)) : Text :=
  '\x7b' :: (", " : Text).intercalate
    (fields.map fun (k, v) => jsonString k ++ (": " : Text) ++ v) ++ ['\x7d']

/-- All of the record in one string, inside an object that has a time. -/
def Record.jsonLine (time : Text) (r : Record) : Text :=
  let always : List (Text × Text) := [("event", jsonString r.event),
    ("logger", jsonString r.logger), ("level", jsonString r.level.label)]
  let message := jsonObject (r.fields.map (fun (k, v) => (k, v.json)) ++ always)
  jsonObject [("asctime", jsonString time), ("name", jsonString r.logger),
    ("levelname", jsonString r.level.name), ("message", jsonString message)]

def Record.line (style : LineStyle) (time : Text) (r : Record) : Text :=
  match style with
  | .plain => r.plainLine
  | .coloured => r.colouredLine
  | .json => r.jsonLine time

/-- The lines of the records that are at least as severe as `level`. -/
def logLines (style : LineStyle) (time : Text) (level : Level) (rs : List Record) : Text :=
  (rs.filter fun r => level.severity ≤ r.level.severity).flatMap fun r =>
    r.line style time ++ ['\n']

end CurlyMarkup
