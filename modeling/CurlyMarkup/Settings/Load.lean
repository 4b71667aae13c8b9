import CurlyMarkup.Settings.Basic
import CurlyMarkup.Settings.EnvFile
import CurlyMarkup.Directory
set_option autoImplicit false

/-!
Where settings come from. Given values come first, then the variables of the environment, then
those of a file; a variable is the name of a setting after `BRACEML_`, in any case.
-/

namespace CurlyMarkup

/-- Variables in the order in which they were set. -/
abbrev Variables := List (Text × Text)

def settingNames : List Text := [
  "app_name", "app_version", "environment", "debug", "log_level", "log_file", "format_output",
  "formatter", "indent_size", "use_tabs", "indent_attributes", "indent_cdata", "strip_comments"]

/-- What the variables for settings begin with, in lower case. -/
def variableStem : Text := "braceml_"

/-- The last variable of this name; case does not count. -/
def Variables.find? (vs : Variables) (name : Text) : Option Text :=
  ((vs.reverse.find? fun v => v.1.lower = name)).map Prod.snd

/-- A variable that is set already keeps its place. -/
def Variables.put (name value : Text) : Variables → Variables
  | [] => [(name, value)]
  | v :: vs => if v.1 = name then (name, value) :: vs else v :: put name value vs

def fileVariables (file : Text) : Variables :=
  (EnvFile.bindings file).filterMap fun b => b.value.map (b.name, ·)

/-- The value for a setting, from the first source that has one. -/
def settingSource (given : Fields) (env file : Variables) (name : Text) : Option Datum :=
  given.lookup name <|> ((env.find? (variableStem ++ name)).map Datum.string) <|>
    ((file.find? (variableStem ++ name)).map Datum.string)

/-- The names in a file that are no setting's, spelled with or without the stem. -/
def strayVariables (file : Variables) : List Text :=
  (file.filterMap fun v =>
    let name := v.1.lower
    if v.2.isEmpty || settingNames.contains name ||
      settingNames.any (fun n => variableStem ++ n = name) then none
    else some name).eraseDups

/-- What is given under no setting's name. -/
def strayNames (given : Fields) (file : Variables) : List Text :=
  (strayVariables file ++
    (given.map Prod.fst).filter (!settingNames.contains ·)).eraseDups

def readChoice {α : Type} (choose : Text → Option α) (d : Datum) : Checked α :=
  (readText d).bind fun t => (choose t).elim (Checked.refuse .notAllowed) .ok

def readPath : Reader Text
  | .string t => .ok (normalPath t)
  | _ => .refuse .notPath

def readSettings (fields : Fields) : Checked Settings :=
  let s : Settings := {}
  (Checked.both (fields.optional "app_name" s.appName readText) <|
    Checked.both (fields.optional "app_version" s.appVersion readText) <|
    Checked.both (fields.optional "environment" s.environment (readChoice Environment.ofName?)) <|
    Checked.both (fields.optional "debug" s.debug readBool) <|
    Checked.both (fields.optional "log_level" s.logLevel (readChoice (Level.ofName? ·.upper))) <|
    Checked.both (fields.optional "log_file" s.logFile (readNullable readPath)) <|
    Checked.both (fields.optional "format_output" s.formatOutput readBool) <|
    Checked.both (fields.optional "formatter" s.formatter (readChoice (Backend.ofName? ·.lower))) <|
    Checked.both (fields.optional "indent_size" s.indentSize (readUpTo maxIndent)) <|
    Checked.both (fields.optional "use_tabs" s.useTabs readBool) <|
    Checked.both (fields.optional "indent_attributes" s.indentAttributes readBool) <|
    Checked.both (fields.optional "indent_cdata" s.indentCdata readBool)
      (fields.optional "strip_comments" s.stripComments readBool)).map
    fun (appName, appVersion, environment, debug, logLevel, logFile, formatOutput, formatter,
      indentSize, useTabs, indentAttributes, indentCdata, stripComments) =>
      { appName, appVersion, environment, debug, logLevel, logFile, formatOutput, formatter,
        indentSize, useTabs, indentAttributes, indentCdata, stripComments }

/-- Nothing may be given that is not a setting. -/
def refuseStray (names : List Text) : Checked Unit :=
  if names.isEmpty then .ok () else .error (names.map fun n => ⟨[.key n], .extraField⟩)

def Settings.load (given : Fields) (env file : Variables) : Checked Settings :=
  let fields := settingNames.filterMap fun n => (settingSource given env file n).map (n, ·)
  (Checked.both (readSettings fields) (refuseStray (strayNames given file))).map Prod.fst

def Settings.fields (s : Settings) : Fields := [
  ("app_name", .string s.appName),
  ("app_version", .string s.appVersion),
  ("environment", .string s.environment.name),
  ("debug", .bool s.debug),
  ("log_level", .string s.logLevel.name),
  ("log_file", s.logFile.elim .null .string),
  ("format_output", .bool s.formatOutput),
  ("formatter", .string s.formatter.name),
  ("indent_size", .int s.indentSize.val),
  ("use_tabs", .bool s.useTabs),
  ("indent_attributes", .bool s.indentAttributes),
  ("indent_cdata", .bool s.indentCdata),
  ("strip_comments", .bool s.stripComments)]

end CurlyMarkup
