import CurlyMarkup.Command.Arguments
import CurlyMarkup.Compile
import CurlyMarkup.Log.Line
import CurlyMarkup.Session.Basic
set_option autoImplicit false

namespace CurlyMarkup

namespace Command

def commandName : Text := "braceml"

def version : Text := "1.0.0"

def usageLines : List Text := [
  "usage: braceml [-h] [--no-format] [--formatter \x7bsoup,none\x7d] [--indent INDENT]",
  "               [--tabs] [--strip-comments]",
  "               [--log-level \x7bDEBUG,INFO,WARNING,ERROR,CRITICAL\x7d] [--version]",
  "               [path]"]

def helpLines : List Text := usageLines ++ ([
  "",
  "Compile braceml markup to HTML",
  "",
  "positional arguments:",
  "  path                  DSL file to compile (default: read stdin)",
  "",
  "options:",
  "  -h, --help            show this help message and exit",
  "  --no-format           Write the flat HTML without pretty-printing; keeps",
  "                        every duplicate attribute",
  "  --formatter \x7bsoup,none\x7d",
  "                        Formatter backend (default from settings); soup keeps",
  "                        only the last duplicate attribute",
  "  --indent INDENT       Indentation width",
  "  --tabs                Indent with tabs",
  "  --strip-comments      Drop HTML comments",
  "  --log-level \x7bDEBUG,INFO,WARNING,ERROR,CRITICAL\x7d",
  "                        Logging level (default from settings)",
  "  --version             show program's version number and exit"] : List Text)

def ofLines (lines : List Text) : Text := lines.flatMap (· ++ ['\n'])

def helpText : Text := ofLines helpLines

def versionText : Text := ofLines [commandName ++ ' ' :: version]

/-- What is said to someone who used the command wrongly. -/
def misuseText (message : Text) : Text :=
  ofLines (usageLines ++ [commandName ++ (": error: " : Text) ++ message])

end Command

open Command

/-- The formatter that the flags ask for, otherwise the one in the settings. -/
def Command.Arguments.backend (a : Arguments) (s : Settings) : Backend :=
  if a.noFormat then .asIs else a.formatter.getD (if s.formatOutput then s.formatter else .asIs)

/-- The options in the settings, with those that the flags replace. -/
def Command.Arguments.formatOptions (a : Arguments) (s : Settings) : Checked FormatOptions :=
  (a.indent.elim (.ok s.indentSize) fun n => readUpTo maxIndent (.int n)).map fun n =>
    { s.formatOptions with
      indentSize := n
      useTabs := a.tabs || s.useTabs
      stripComments := a.stripComments || s.stripComments }

def Settings.lineStyle (s : Settings) : LineStyle :=
  if s.environment = .production then .json else if s.debug then .coloured else .plain

inductive LogError where
  | folder (e : FileError)
  | file
  deriving DecidableEq, Repr

def logFileMessage : Text := "Unable to configure handler 'file'"

def LogError.message : LogError → Text
  | .folder e => e.message
  | .file => logFileMessage

/-- Makes the log file and the folder that it is in, if the settings name one. -/
def Directory.makeLog (d : Directory) (s : Settings) : Directory × Except LogError Unit :=
  match s.logFile with
  | none => (d, .ok ())
  | some path =>
    match d.makeParent path with
    | .error e => (d, .error (.folder e))
    | .ok d =>
      match d.touch path with
      | .error _ => (d, .error .file)
      | .ok d => (d, .ok ())

/-- Standard input: its bytes, and how they are read as text, or why they cannot be. That is up to
the system, and may be another way than the one for files. -/
structure Stream where
  bytes : Bytes
  read : Bytes → Except Text Text

/-- Input that is read as a file is. -/
def Stream.utf8 (bytes : Bytes) : Stream :=
  ⟨bytes, fun bs => (readUtf8 bs).mapError DecodeError.message⟩

inductive ReadError where
  | file (e : FileError)
  | undecodable (message : Text)
  deriving DecidableEq, Repr

def ReadError.message : ReadError → Text
  | .file e => e.message
  | .undecodable message => message

/-- The source at a path, or the one on standard input. -/
def Directory.readSource (d : Directory) (stdin : Stream) :
    Option Text → Except ReadError Text
  | none => (stdin.read stdin.bytes).mapError .undecodable
  | some path =>
    match d.read path with
    | .error e => .error (.file e)
    | .ok content => (readUtf8 content).mapError fun e => .undecodable e.message

namespace Command

structure Output where
  exitCode : Nat
  stdout : Text
  stderr : Text
  deriving DecidableEq, Repr

/-- What breaks the command off, so that there is no exit code. -/
inductive Abort where
  | settings (e : LoadError)
  | log (e : LogError)
  | path (e : FileError)
  | unsupported (message : Text)
  | crash (message : Text)
  deriving DecidableEq, Repr

def issueText (e : Issue) : Text :=
  let path := e.path.map fun
    | .key name => name
    | .index n => Text.ofNat n
  ['.'].intercalate path ++ (": " : Text) ++ e.problem.message.getD e.problem.code

def Abort.message : Abort → Text
  | .settings (.issues es) => ['\n'].intercalate (es.map issueText)
  | .settings (.undecodable e) => e.message
  | .log e => e.message
  | .path e => e.message
  | .unsupported message | .crash message => message

abbrev Outcome := Except Abort Output

def parseFailed : Nat := 1

def inputFailed : Nat := 2

def Stop.output : Stop → Output
  | .help => ⟨0, helpText, []⟩
  | .version => ⟨0, versionText, []⟩
  | .misuse message => ⟨inputFailed, [], misuseText message⟩

def optionsMessage (es : List Issue) : Text :=
  ("invalid formatting options: " : Text) ++ ((es.head?.bind (·.problem.message)).getD [])

def readErrorText (path : Option Text) (e : ReadError) : Text :=
  ([ "Error reading file '", path.getD "None", "': ", e.message, "\n" ] : List Text).flatten

def commandLogger : Text := "braceml.cli"

/-- The record of a source that was given up. -/
def abortedRecord (e : SyntaxError) : Record :=
  ⟨.debug, commandLogger, "Compilation aborted", [("error_type", .text e.construct.errorName)]⟩

/-- The text ends its last line. -/
def endLine (t : Text) : Text := if t.getLast? = some '\n' then t else t ++ ['\n']

def syntaxErrorText (e : SyntaxError) : Text := ("Parsing error: " : Text) ++ e.message ++ ['\n']

def formatterErrorText (message : Option Text) : Text :=
  match message with
  | none | some [] => []
  | some m => ("Error formatting HTML: " : Text) ++ m ++ ['\n']

/-- Compiles a source that has been read; `log` turns records into what is written of them. -/
def compileSource (log : List Record → Text) (f : Formatter) (o : FormatOptions) (s : Settings)
    (source : Text) : Outcome :=
  let compiled := compile source (some f) (some o) s
  match compiled.value with
  | .ok c =>
    .ok ⟨0, endLine c.html, log compiled.records ++ formatterErrorText c.formatterError⟩
  | .error (.source e) =>
    .ok ⟨parseFailed, [], log (compiled.records ++ [abortedRecord e]) ++ syntaxErrorText e⟩
  | .error (.unsupported message) => .error (.unsupported message)
  | .error (.crash message) => .error (.crash message)

def runWith (print : Layout.Printer) (a : Arguments) (time : Text) (s : Settings) (d : Directory)
    (stdin : Stream) : Outcome :=
  match a.formatOptions s with
  | .error es => .ok (Stop.misuse (optionsMessage es)).output
  | .ok o =>
    match createFormatter print (a.backend s).name with
    | .error message => .error (.unsupported message)
    | .ok f =>
      match d.readSource stdin a.path with
      | .error (.file .nullInPath) => .error (.path .nullInPath)
      | .error e => .ok ⟨inputFailed, [], readErrorText a.path e⟩
      | .ok source =>
        compileSource (logLines s.lineStyle time (a.logLevel.getD s.logLevel)) f o s source

/-- Runs the command in a session; `time` is what log lines show as the time. -/
def run (print : Layout.Printer) (argv : List Text) (time : Text) (stdin : Stream) (s : Session) :
    Session × Outcome :=
  match Arguments.read argv with
  | .error stop => (s, .ok stop.output)
  | .ok a =>
    match s.currentSettings with
    | (s, .error e) => (s, .error (.settings e))
    | (s, .ok settings) =>
      match s.directory.makeLog settings with
      | (d, .error e) => ({ s with directory := d }, .error (.log e))
      | (d, .ok ()) => ({ s with directory := d }, runWith print a time settings d stdin)

end Command

end CurlyMarkup
