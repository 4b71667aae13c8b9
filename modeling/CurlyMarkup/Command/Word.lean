import CurlyMarkup.Text.Printable
set_option autoImplicit false

/-!
The words of a command line. An option may be cut short as long as only one begins like that; two
dashes end the options.
-/

namespace CurlyMarkup

/-- The zeros of the scripts beyond ASCII; each is followed by the digits one to nine. -/
def zeroDigits : List Nat := [
  1632, 1776, 1984, 2406, 2534, 2662, 2790, 2918, 3046, 3174, 3302, 3430, 3558, 3664, 3792,
  3872, 4160, 4240, 6112, 6160, 6470, 6608, 6784, 6800, 6992, 7088, 7232, 7248, 42528, 43216,
  43264, 43472, 43504, 43600, 44016, 65296, 66720, 68912, 69734, 69872, 69942, 70096, 70384,
  70736, 70864, 71248, 71360, 71472, 71904, 72016, 72784, 73040, 73120, 92768, 92864, 93008,
  120782, 120792, 120802, 120812, 120822, 123200, 123632, 125264, 130032]

def decimalDigit? (c : Char) : Option Nat :=
  if c.isDigit then some (c.toNat-48)
  else (zeroDigits.find? fun z => z ≤ c.toNat && c.toNat < z+10).map (c.toNat - ·)

/-- Digits with single underscores between them; `digits` holds those read so far, last first. -/
def readDigits : List Nat → Text → Option (List Nat)
  | digits, [] => some digits
  | [], c :: t => (decimalDigit? c).bind fun d => readDigits [d] t
  | digits@(_ :: _), '_' :: c :: t => (decimalDigit? c).bind fun d => readDigits (d :: digits) t
  | digits@(_ :: _), c :: t => (decimalDigit? c).bind fun d => readDigits (d :: digits) t

def readNat? (t : Text) : Option Nat :=
  match readDigits [] t with
  | none | some [] => none
  | some digits =>
    if maxDigits < digits.length then none else some (digits.foldr (fun d n => 10*n+d) 0)

/-- A sign may lead, and blanks may stand around the number. -/
def readInt? (t : Text) : Option Int :=
  match t.strip with
  | '-' :: r => (readNat? r).map fun n => -(n : Int)
  | '+' :: r => (readNat? r).map Int.ofNat
  | r => (readNat? r).map Int.ofNat

namespace Command

inductive Flag where
  | help | noFormat | formatter | indent | tabs | stripComments | logLevel | version
  deriving DecidableEq, Repr

def Flag.spellings : List (Text × Flag) := [
  ("-h", .help), ("--help", .help), ("--no-format", .noFormat), ("--formatter", .formatter),
  ("--indent", .indent), ("--tabs", .tabs), ("--strip-comments", .stripComments),
  ("--log-level", .logLevel), ("--version", .version)]

/-- The flag as messages call it, by all its spellings. -/
def Flag.title (f : Flag) : Text :=
  ['/'].intercalate ((Flag.spellings.filter fun s => s.2 = f).map Prod.fst)

def Flag.takesValue : Flag → Bool
  | .formatter | .indent | .logLevel => true
  | .help | .noFormat | .tabs | .stripComments | .version => false

/-- Why the command ends before it has done anything. -/
inductive Stop where
  | help
  | version
  | misuse (message : Text)
  deriving DecidableEq, Repr

def Flag.refuse {α : Type} (f : Flag) (message : Text) : Except Stop α :=
  .error (.misuse (("argument " : Text) ++ f.title ++ (": " : Text) ++ message))

/-- A word of the command line by its look. -/
inductive Word where
  | plain (t : Text)
  | separator
  | flag (f : Flag) (spelling : Text) (value : Option Text)
  | unknown (t : Text)
  deriving DecidableEq, Repr

/-- A word up to its first equals sign, and what follows that. -/
def splitValue (t : Text) : Text × Option Text :=
  match Text.cut? '=' t with
  | some (name, value) => (name, some value)
  | none => (t, none)

/-- The flags that a word can mean, with the value that it sets off. -/
def candidates (t : Text) : List (Flag × Text × Option Text) :=
  match t with
  | '-' :: '-' :: _ =>
    let (name, value) := splitValue t
    (Flag.spellings.filter fun s => name.isPrefixOf s.1).map fun s => (s.2, s.1, value)
  | '-' :: c :: value =>
    Flag.spellings.filterMap fun s =>
      if s.1 = ['-', c] then some (s.2, s.1, some value)
      else if t.isPrefixOf s.1 then some (s.2, s.1, none)
      else none
  | _ => []

/-- A dash and digits, of which one point may stand before or among. -/
def looksNegative (t : Text) : Bool :=
  match t with
  | '-' :: r =>
    let isDigit := fun c => (decimalDigit? c).isSome
    match r.dropWhile isDigit with
    | [] => !r.isEmpty
    | '.' :: part => !part.isEmpty && part.all isDigit
    | _ => false
  | _ => false

def ambiguityMessage (t : Text) (spellings : List Text) : Text :=
  ("ambiguous option: " : Text) ++ t ++ (" could match " : Text) ++
    (", " : Text).intercalate spellings

def classify (t : Text) : Except Stop Word :=
  match t with
  | [] | ['-'] => .ok (.plain t)
  | c :: _ =>
    if c ≠ '-' then .ok (.plain t)
    else
      let (name, value) := splitValue t
      match Flag.spellings.lookup t, value.bind fun v => (Flag.spellings.lookup name).map (·, v) with
      | some f, _ => .ok (.flag f t none)
      | none, some (f, v) => .ok (.flag f name (some v))
      | none, none =>
        match candidates t with
        | [(f, spelling, v)] => .ok (.flag f spelling v)
        | [] => .ok (if looksNegative t || t.contains ' ' then .plain t else .unknown t)
        | many => .error (.misuse (ambiguityMessage t (many.map fun m => m.2.1)))

def classifyAll : List Text → Except Stop (List Word)
  | [] => .ok []
  | t :: ts =>
    if t = ['-', '-'] then .ok (.separator :: ts.map .plain)
    else (classify t).bind fun w => (classifyAll ts).map (w :: ·)

end Command

end CurlyMarkup
