import CurlyMarkup.Command.Run
import Std.Time.Format
import Std.Time.Zoned
set_option autoImplicit false

namespace CurlyMarkup

/-- The working directory, with a file or folder that is there put in place. -/
def fetch (path : String) (d : Directory) : IO Directory := do
  try
    return d.write path (← IO.FS.readBinFile path).toList
  catch
    | .inappropriateType _ 21 _ => return (d.addWay (.start (pathRoot path)) (pathParts path)).1
    | .inappropriateType _ _ _ =>
      return d.write (pathText (pathRoot path) (pathParts path).dropLast) []
    | _ => return d

def settingVariables : IO Variables := do
  let names := settingNames.map fun n => (variableStem ++ n).upper
  names.filterMapM fun n => return (← IO.getEnv (String.ofList n)).map fun v => (n, (v : Text))

/-- The session, with the files that the settings and the arguments name. -/
def fetchSession (path : Option Text) : IO Session := do
  let d ← fetch (String.ofList variablesPath) {}
  let s : Session := { directory := d, environment := ← settingVariables }
  let log := match s.currentSettings.2 with
    | .ok settings => settings.logFile
    | .error _ => none
  let d ← (path.toList ++ log.toList).foldlM (fun d p => fetch (String.ofList p) d) d
  return { s with directory := d }

def now : IO Text := do
  return (← Std.Time.PlainDateTime.now).format "uuuu-MM-dd HH:mm:ss,SSS"

/-- Makes the files and folders that are new in a directory. -/
def makeNew (before after : Directory) : IO Unit := do
  for p in after.folders do
    if !before.folders.contains p then
      IO.FS.createDirAll (String.ofList (['/'].intercalate p))
  for f in after.files do
    if (before.files.lookup f.1).isNone then
      IO.FS.writeFile (String.ofList (['/'].intercalate f.1)) ""

/-- Runs the command, writes what it has to say, and gives its exit code. -/
def Session.perform (s : Session) (argv : List Text) (stdin : Bytes) : IO UInt32 := do
  let (after, outcome) := Command.run Layout.print argv (← now) (.utf8 stdin) s
  makeNew s.directory after.directory
  match outcome with
  | .ok o =>
    IO.eprint (String.ofList o.stderr)
    IO.print (String.ofList o.stdout)
    return o.exitCode.toUInt32
  | .error a =>
    IO.eprintln (String.ofList a.message)
    return 1

def perform (argv : List Text) : IO UInt32 :=
  match Command.Arguments.read argv with
  | .error _ => Session.perform {} argv []
  | .ok a => do
    let s ← fetchSession a.path
    let stdin ← if a.path.isSome then pure ByteArray.empty else (← IO.getStdin).readBinToEnd
    s.perform argv stdin.toList

end CurlyMarkup

def main (args : List String) : IO UInt32 := CurlyMarkup.perform (args.map String.toList)
