import CurlyMarkup.Command.Word
import CurlyMarkup.Settings.Basic
set_option autoImplicit false

namespace CurlyMarkup.Command

structure Arguments where
  path : Option Text := none
  noFormat : Bool := false
  formatter : Option Backend := none
  indent : Option Int := none
  tabs : Bool := false
  stripComments : Bool := false
  logLevel : Option Level := none
  deriving DecidableEq, Repr

def choiceMessage (t : Text) (choices : List Text) : Text :=
  ([ "invalid choice: ", t.quoted, " (choose from ",
    (", " : Text).intercalate (choices.map Text.quoted), ")" ] : List Text).flatten

/-- What a flag does, `value` being its value if it takes one; of several values the last counts. -/
def Arguments.apply (a : Arguments) (value : Text) : Flag → Except Stop Arguments
  | .help => .error .help
  | .version => .error .version
  | .noFormat => .ok { a with noFormat := true }
  | .tabs => .ok { a with tabs := true }
  | .stripComments => .ok { a with stripComments := true }
  | .indent =>
    match readInt? value with
    | some n => .ok { a with indent := some n }
    | none => Flag.refuse .indent (("invalid int value: " : Text) ++ value.quoted)
  | .formatter =>
    match Backend.ofName? value with
    | some b => .ok { a with formatter := some b }
    | none => Flag.refuse .formatter (choiceMessage value (Backend.all.map Backend.name))
  | .logLevel =>
    match Level.ofName? value with
    | some l => .ok { a with logLevel := some l }
    | none => Flag.refuse .logLevel (choiceMessage value (Level.all.map Level.name))

def ignoredMessage (value : Text) : Text := ("ignored explicit argument " : Text) ++ value.quoted

/-- A flag with a value set off from it. Letters after a flag of one letter are such flags too. -/
def Arguments.applySetOff (a : Arguments) (f : Flag) (spelling value : Text) :
    Except Stop Arguments :=
  if f.takesValue then a.apply value f
  else if ['-', '-'].isPrefixOf spelling || value.isEmpty then f.refuse (ignoredMessage value)
  else
    match value.dropWhile fun c => Flag.spellings.lookup ['-', c] = some f with
    | [] => a.apply [] f
    | more => f.refuse (ignoredMessage more)

/-- Arguments in the making: whether a path may still come, and the words that have no use. -/
structure Reading where
  arguments : Arguments
  hasPath : Bool
  unused : List Text

def Reading.takePlain (r : Reading) (t : Text) : Reading :=
  if r.hasPath then { r with unused := r.unused ++ [t] }
  else { r with arguments.path := some t, hasPath := true }

/-- The words after the last flag. Two dashes next to the path are left out, others have no use. -/
def Reading.finish (r : Reading) (words : List Word) : Reading :=
  let shown := words.map fun
    | .plain t | .flag _ t _ | .unknown t => t
    | .separator => ['-', '-']
  if r.hasPath then { r with unused := r.unused ++ shown }
  else match words, shown with
    | .separator :: _ :: _, _ :: t :: rest
    | .plain _ :: .separator :: _, t :: _ :: rest
    | .plain _ :: _, t :: rest => { r.takePlain t with unused := r.unused ++ rest }
    | _, _ => r

def Word.isFlag : Word → Bool
  | .flag _ _ _ | .unknown _ => true
  | .plain _ | .separator => false

def Reading.run (r : Reading) (words : List Word) : Except Stop Reading :=
  if !words.any Word.isFlag then .ok (r.finish words)
  else match words with
    | .flag f spelling (some v) :: rest =>
      (r.arguments.applySetOff f spelling v).bind fun a => run { r with arguments := a } rest
    | .flag f _ none :: rest =>
      if f.takesValue then
        match rest with
        | .plain t :: rest =>
          (r.arguments.apply t f).bind fun a => run { r with arguments := a } rest
        | _ => f.refuse "expected one argument"
      else (r.arguments.apply [] f).bind fun a => run { r with arguments := a } rest
    | .unknown t :: rest => run { r with unused := r.unused ++ [t] } rest
    | .plain t :: rest => run (r.takePlain t) rest
    | .separator :: rest => run r rest
    | [] => .ok r

def unusedMessage (ts : List Text) : Text :=
  ("unrecognized arguments: " : Text) ++ [' '].intercalate ts

def Arguments.read (argv : List Text) : Except Stop Arguments :=
  (classifyAll argv).bind fun words =>
    (Reading.run ⟨{}, false, []⟩ words).bind fun r =>
      if r.unused.isEmpty then .ok r.arguments
      else .error (.misuse (unusedMessage r.unused))

end CurlyMarkup.Command
