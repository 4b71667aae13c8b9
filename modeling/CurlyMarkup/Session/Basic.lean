import CurlyMarkup.Directory
import CurlyMarkup.Settings.Load
set_option autoImplicit false

/-!
A session: a working directory, an environment, and the settings, which are loaded when they are
first needed and then kept until someone asks to load them anew.
-/

namespace CurlyMarkup

inductive LoadError where
  | issues (es : List Issue)
  /-- The file of variables is no text. -/
  | undecodable (e : DecodeError)
  deriving DecidableEq, Repr

def variablesPath : Text := ".env"

/-- The text of the file of variables, empty if there is no such file. -/
def Directory.variablesText (d : Directory) : Except DecodeError Text :=
  match d.read variablesPath with
  | .ok content => readUtf8 content
  | .error _ => .ok []

def Directory.loadSettings (d : Directory) (given : Fields) (env : Variables) :
    Except LoadError Settings :=
  match d.variablesText with
  | .error e => .error (.undecodable e)
  | .ok t => (Settings.load given env (fileVariables t)).mapError .issues

structure Session where
  directory : Directory := {}
  environment : Variables := []
  settings : Option Settings := none
  /-- How often settings have been loaded. -/
  loads : Nat := 0
  /-- The count of loads when the settings were last shown. -/
  shown : Option Nat := none

namespace Session

/-- Loads the settings anew. If that fails, those loaded before remain. -/
def reload (s : Session) : Session × Except LoadError Settings :=
  match s.directory.loadSettings [] s.environment with
  | .ok settings => ({ s with settings := some settings, loads := s.loads+1 }, .ok settings)
  | .error e => (s, .error e)

/-- The settings, loaded only if they have not been before. -/
def currentSettings (s : Session) : Session × Except LoadError Settings :=
  match s.settings with
  | some settings => (s, .ok settings)
  | none => s.reload

end Session

end CurlyMarkup
