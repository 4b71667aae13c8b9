import CurlyMarkup.Text.Printable
set_option autoImplicit false

namespace CurlyMarkup

inductive Datum where
  | null
  | bool (value : Bool)
  | int (value : Int)
  /-- The number `mantissa` with its last `places` digits after the point. -/
  | decimal (mantissa : Int) (places : Nat)
  | string (value : Text)
  | list (items : List Datum)
  | object (fields : List (Text × Datum))
  deriving Repr

abbrev Fields := List (Text × Datum)

/-- One with `places` zeros. -/
def powerOfTen (places : Nat) : Nat := Nat.pow 10 places

/-- The digits of a decimal number, with at least one after the point and no idle zeros. -/
def decimalDigits (mantissa places : Nat) : Text :=
  let whole := Text.ofNat (mantissa / powerOfTen places)
  let part := Text.ofNat (mantissa % powerOfTen places)
  let padded := List.replicate (places-part.length) '0' ++ part
  let kept := Text.trimEnd (· = '0') padded
  whole ++ '.' :: (if kept.isEmpty then ['0'] else kept)

mutual

/-- The datum in the notation in which messages quote data. -/
def Datum.quoted : Datum → Text
  | .null => "None"
  | .bool b => if b then "True" else "False"
  | .int n => Text.ofInt n
  | .decimal m p => (if m < 0 then ['-'] else []) ++ decimalDigits m.natAbs p
  | .string t => t.quoted
  | .list items => '[' :: (", " : Text).intercalate (Datum.quotedItems items) ++ [']']
  | .object fields => '\x7b' :: (", " : Text).intercalate (Datum.quotedFields fields) ++ ['\x7d']

def Datum.quotedItems : List Datum → List Text
  | [] => []
  | d :: ds => d.quoted :: Datum.quotedItems ds

def Datum.quotedFields : List (Text × Datum) → List Text
  | [] => []
  | (k, d) :: fields => (k.quoted ++ (": " : Text) ++ d.quoted) :: Datum.quotedFields fields

end

/-- A string shows as it is. -/
def Datum.shown : Datum → Text
  | .string t => t
  | d => d.quoted


inductive PathStep where
  | key (name : Text)
  | index (n : Nat)
  deriving DecidableEq, Repr

inductive Problem where
  | missing
  | notString
  | emptyString
  | notBool
  | unreadableBool
  | notInt
  | unreadableInt
  | fractional
  | belowMinimum (least : Int)
  | aboveMaximum (greatest : Int)
  | notTuple
  | notList
  | notObject
  | notModel (name : Text)
  | notLiteral (expected : Text)
  | noKind
  | unknownKind (found : Text)
  | notPath
  | notNumber
  | extraField
  /-- Outside the values that a setting may take. -/
  | notAllowed
  deriving DecidableEq, Repr

def Problem.code : Problem → Text
  | .missing => "missing"
  | .notString => "string_type"
  | .emptyString => "string_too_short"
  | .notBool => "bool_type"
  | .unreadableBool => "bool_parsing"
  | .notInt => "int_type"
  | .unreadableInt => "int_parsing"
  | .fractional => "int_from_float"
  | .belowMinimum _ => "greater_than_equal"
  | .aboveMaximum _ => "less_than_equal"
  | .notTuple => "tuple_type"
  | .notList => "list_type"
  | .notObject => "model_attributes_type"
  | .notModel _ => "model_type"
  | .notLiteral _ => "literal_error"
  | .noKind => "union_tag_not_found"
  | .unknownKind _ => "union_tag_invalid"
  | .notPath => "path_type"
  | .notNumber => "float_type"
  | .extraField => "extra_forbidden"
  | .notAllowed => "value_error"

/-- There is no fixed message for a value outside those allowed. -/
def Problem.message : Problem → Option Text
  | .missing => some "Field required"
  | .notString => some "Input should be a valid string"
  | .emptyString => some "String should have at least 1 character"
  | .notBool => some "Input should be a valid boolean"
  | .unreadableBool => some "Input should be a valid boolean, unable to interpret input"
  | .notInt => some "Input should be a valid integer"
  | .unreadableInt =>
    some "Input should be a valid integer, unable to parse string as an integer"
  | .fractional => some "Input should be a valid integer, got a number with a fractional part"
  | .belowMinimum n =>
    some (("Input should be greater than or equal to " : Text) ++ Text.ofInt n)
  | .aboveMaximum n => some (("Input should be less than or equal to " : Text) ++ Text.ofInt n)
  | .notTuple => some "Input should be a valid tuple"
  | .notList => some "Input should be a valid list"
  | .notObject =>
    some "Input should be a valid dictionary or object to extract fields from"
  | .notModel name =>
    some (("Input should be a valid dictionary or instance of " : Text) ++ name)
  | .notLiteral expected => some (("Input should be " : Text) ++ expected.quoted)
  | .noKind => some "Unable to extract tag using discriminator 'kind'"
  | .unknownKind found =>
    some (("Input tag '" : Text) ++ found ++
      ("' found using 'kind' does not match any of the expected tags: 'plain', 'tag'" : Text))
  | .notPath => some "Input is not a valid path for <class 'pathlib.Path'>"
  | .notNumber => some "Input should be a valid number"
  | .extraField => some "Extra inputs are not permitted"
  | .notAllowed => none

structure Issue where
  path : List PathStep
  problem : Problem
  deriving DecidableEq, Repr

/-- A value, or the issues that stand against it. -/
abbrev Checked (α : Type) := Except (List Issue) α

namespace Checked

variable {α β : Type}

def refuse (p : Problem) : Checked α := .error [⟨[], p⟩]

def under (s : PathStep) : Checked α → Checked α
  | .ok a => .ok a
  | .error es => .error (es.map fun e => { e with path := s :: e.path })

/-- Both values, or the issues of both. -/
def both : Checked α → Checked β → Checked (α × β)
  | .ok a, .ok b => .ok (a, b)
  | .ok _, .error es => .error es
  | .error es, .ok _ => .error es
  | .error es, .error fs => .error (es ++ fs)

end Checked

end CurlyMarkup
