import CurlyMarkup.Command.Run
set_option autoImplicit false

namespace CurlyMarkup

inductive Step where
  /-- Sets variables, and removes those without a value. -/
  | variables (vs : List (Text × Option Text))
  | settings
  | reload
  | compile (source : Text)
  | write (path : Text) (content : Bytes)
  | run (argv : List Text) (stdin : Bytes)
  deriving DecidableEq, Repr

inductive Answer where
  | done
  /-- Settings that are the `same` as those shown before have not been loaded since. -/
  | settings (same : Bool) (s : Settings)
  | loadFailed (e : LoadError)
  | compiled (r : Except CompileError Compiled)
  /-- The outcome of the command, and the paths that it has made. -/
  | ran (o : Command.Outcome) (created : List Text)

def Variables.set (vs : Variables) : List (Text × Option Text) → Variables
  | [] => vs
  | (name, some value) :: rest => set (Variables.put name value vs) rest
  | (name, none) :: rest => set (vs.filter (·.1 ≠ name)) rest

namespace Session

def showSettings : Session × Except LoadError Settings → Session × Answer
  | (s, .error e) => (s, .loadFailed e)
  | (s, .ok settings) =>
    ({ s with shown := some s.loads }, .settings (s.shown = some s.loads) settings)

/-- Compiles with the formatter and the options in the settings. -/
def compileSource (s : Session) (source : Text) : Session × Answer :=
  match s.currentSettings with
  | (s, .error e) => (s, .loadFailed e)
  | (s, .ok settings) => (s, .compiled (compile source none none settings).value)

def runCommand (s : Session) (time : Text) (argv : List Text) (stdin : Bytes) : Session × Answer :=
  let (after, o) := Command.run Layout.print argv time (.utf8 stdin) s
  (after, .ran o (after.directory.paths.filter (!s.directory.paths.contains ·)))

def step (time : Text) (s : Session) : Step → Session × Answer
  | .variables vs => ({ s with environment := s.environment.set vs }, .done)
  | .settings => showSettings s.currentSettings
  | .reload => showSettings s.reload
  | .compile source => s.compileSource source
  | .write path content => ({ s with directory := s.directory.write path content }, .done)
  | .run argv stdin => s.runCommand time argv stdin

def steps (time : Text) : Session → List Step → List Answer
  | _, [] => []
  | s, x :: xs => let (s, a) := s.step time x; a :: steps time s xs

end Session

end CurlyMarkup
