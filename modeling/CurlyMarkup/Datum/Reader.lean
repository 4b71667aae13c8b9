import CurlyMarkup.Datum.Basic
import CurlyMarkup.Text.Case
set_option autoImplicit false

namespace CurlyMarkup

abbrev Reader (α : Type) := Datum → Checked α

def readText : Reader Text
  | .string t => .ok t
  | _ => .refuse .notString

def readNonempty : Reader Text
  | .string [] => .refuse .emptyString
  | d => readText d

def trueWords : List Text := ["1", "t", "y", "on", "yes", "true"]

def falseWords : List Text := ["0", "f", "n", "no", "off", "false"]

/-- A truth value, also from a word or a number that says the same. -/
def readBool : Reader Bool
  | .bool b => .ok b
  | .int n =>
    if n = 1 then .ok true else if n = 0 then .ok false else .refuse .unreadableBool
  | .decimal m p =>
    if m = powerOfTen p then .ok true else if m = 0 then .ok false else .refuse .unreadableBool
  | .string t =>
    if trueWords.contains t.lower then .ok true
    else if falseWords.contains t.lower then .ok false
    else .refuse .unreadableBool
  | _ => .refuse .notBool

/-- Digits with single underscores between them. -/
def digitGroups? (t : Text) : Option Nat :=
  let groups := Text.split '_' t
  if groups.all fun g => !g.isEmpty && g.all Char.isDigit then
    some (groups.flatten.foldl (fun n c => 10*n+(c.toNat-48)) 0)
  else none

/-- A fraction of zeros adds nothing to a whole number. -/
def dropZeroFraction (t : Text) : Text :=
  match Text.cut? '.' t with
  | some (whole, part) => if part.all (· = '0') then whole else t
  | none => t

/-- A whole number in plain digits, possibly with a sign and a fraction of zeros. -/
def plainInt? (t : Text) : Option Int :=
  match dropZeroFraction t.strip with
  | '-' :: r => (digitGroups? r).map fun n => -(n : Int)
  | '+' :: r => (digitGroups? r).map Int.ofNat
  | r => (digitGroups? r).map Int.ofNat

def readInt : Reader Int
  | .bool b => .ok (if b then 1 else 0)
  | .int n => .ok n
  | .decimal m p => if m % powerOfTen p = 0 then .ok (m / powerOfTen p) else .refuse .fractional
  | .string t => (plainInt? t).elim (.refuse .unreadableInt) .ok
  | _ => .refuse .notInt

/-- A whole number from 0 to `greatest`. -/
def readUpTo (greatest : Nat) (d : Datum) : Checked (Fin (greatest+1)) :=
  (readInt d).bind fun n =>
    if n < 0 then Checked.refuse (.belowMinimum 0)
    else if h : n.toNat < greatest+1 then .ok ⟨n.toNat, h⟩
    else Checked.refuse (.aboveMaximum greatest)

def readNullable {α : Type} (r : Reader α) : Reader (Option α)
  | .null => .ok none
  | d => (r d).map some

/-- The items in order, or all that is wrong with any; `n` is the index of the first. -/
def readItems {α : Type} (r : Reader α) (n : Nat) : List Datum → Checked (List α)
  | [] => .ok []
  | d :: ds =>
    (Checked.both ((r d).under (.index n)) (readItems r (n+1) ds)).map fun (a, as) => a :: as

def readTuple {α : Type} (r : Reader α) : Reader (List α)
  | .list items => readItems r 0 items
  | _ => .refuse .notTuple

def readList {α : Type} (r : Reader α) : Reader (List α)
  | .list items => readItems r 0 items
  | _ => .refuse .notList

def Fields.required {α : Type} (fields : Fields) (name : Text) (r : Reader α) : Checked α :=
  ((fields.lookup name).elim (.refuse .missing) r).under (.key name)

def Fields.optional {α : Type} (fields : Fields) (name : Text) (value : α) (r : Reader α) :
    Checked α :=
  ((fields.lookup name).elim (.ok value) r).under (.key name)

namespace Fields

variable {α : Type} {fields : Fields} {name : Text} {r : Reader α} {d : Datum} {a : α}

theorem required_of_lookup (hd : fields.lookup name = some d) (hr : r d = .ok a) :
    fields.required name r = .ok a := by
  rw [required, hd, Option.elim_some, hr]
  rfl

theorem optional_of_lookup {value : α} (hd : fields.lookup name = some d) (hr : r d = .ok a) :
    fields.optional name value r = .ok a := by
  rw [optional, hd, Option.elim_some, hr]
  rfl

theorem optional_of_absent {value : α} (hd : fields.lookup name = none) :
    fields.optional name value r = .ok value := by
  rw [optional, hd]
  rfl

end Fields

/-- The object that a model of this name is read from. -/
def readModel {α : Type} (name : Text) (r : Fields → Checked α) : Reader α
  | .object fields => r fields
  | _ => .refuse (.notModel name)

/-- A field that may be left out, and that holds one fixed string. -/
def Fields.fixed (fields : Fields) (name value : Text) : Checked Unit :=
  fields.optional name () fun d =>
    match d with
    | .string t => if t = value then .ok () else .refuse (.notLiteral value)
    | _ => .refuse (.notLiteral value)

end CurlyMarkup
