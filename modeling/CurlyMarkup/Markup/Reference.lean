import CurlyMarkup.Markup.Named
import CurlyMarkup.Text.Printable
set_option autoImplicit false

/-!
Character references, by number or by name. In running text and in the values of attributes
they are read by different rules.
-/

namespace CurlyMarkup.Markup

/-- Why a text is not accepted as HTML at all. -/
inductive Rejection where
  | nameExpected (found : Text)
  | unknownKeyword (keyword : Text)
  | tooManyDigits (count : Nat)
  deriving DecidableEq, Repr

def Rejection.message : Rejection → Text
  | .nameExpected found => ("expected name token at " : Text) ++ found.quoted
  | .unknownKeyword keyword =>
    ("unknown status keyword " : Text) ++ keyword.quoted ++ (" in marked section" : Text)
  | .tooManyDigits count =>
    ([ "Exceeds the limit (", Text.ofNat maxDigits, " digits) for integer string conversion: ",
      "value has ", Text.ofNat count, " digits; use sys.set_int_max_str_digits() ",
      "to increase the limit" ] : List Text).flatten

def isLetter (c : Char) : Bool := c.isAlpha

def replacementChar : Char := Char.ofNat 0xfffd

/-- Numbers that stand for characters of the Windows code page of Western Europe. -/
def windowsChars : List (Nat × Nat) := [
  (0x80, 0x20ac), (0x82, 0x201a), (0x83, 0x0192), (0x84, 0x201e), (0x85, 0x2026),
  (0x86, 0x2020), (0x87, 0x2021), (0x88, 0x02c6), (0x89, 0x2030), (0x8a, 0x0160),
  (0x8b, 0x2039), (0x8c, 0x0152), (0x8e, 0x017d), (0x91, 0x2018), (0x92, 0x2019),
  (0x93, 0x201c), (0x94, 0x201d), (0x95, 0x2022), (0x96, 0x2013), (0x97, 0x2014),
  (0x98, 0x02dc), (0x99, 0x2122), (0x9a, 0x0161), (0x9b, 0x203a), (0x9c, 0x0153),
  (0x9e, 0x017e), (0x9f, 0x0178)]

def isSurrogate (n : Nat) : Bool := 0xd800 ≤ n && n ≤ 0xdfff

/-- The character that a number stands for in running text, as the standard for HTML has it: zero,
surrogates and numbers beyond the last character are replaced before the code page is looked at. -/
def textChar (n : Nat) : Char :=
  if n = 0 || isSurrogate n || 0x10ffff < n then replacementChar
  else Char.ofNat ((windowsChars.lookup n).getD n)

/-- Control characters and numbers of no character, which stand for nothing in a value. -/
def isVoidNumber (n : Nat) : Bool :=
  (1 ≤ n && n ≤ 8) || n = 0xb || (0xe ≤ n && n ≤ 0x1f) || n = 0x7f ||
    (0xfdd0 ≤ n && n ≤ 0xfdef) || n % 0x10000 = 0xfffe || n % 0x10000 = 0xffff

/-- What a number stands for in the value of an attribute. -/
def valueText (n : Nat) : Text :=
  if n = 0 then [replacementChar]
  else match windowsChars.lookup n with
    | some m => [Char.ofNat m]
    | none =>
      if isSurrogate n || 0x10ffff < n then [replacementChar]
      else if isVoidNumber n then []
      else [Char.ofNat n]

/-- A number as it is written. -/
structure Numeral where
  base : Nat
  digits : Text

def Numeral.value (n : Numeral) : Except Rejection Nat :=
  if n.base = 10 && maxDigits < n.digits.length then .error (.tooManyDigits n.digits.length)
  else .ok (readNumber n.base n.digits)

/-- A reference by number at the start of `s`, which follows `&#`: the number and what is left.
The digits run on until something else comes, which may be the end. -/
def readNumeral? : Text → Option (Numeral × Text)
  | [] => none
  | c :: t =>
    if c = 'x' || c = 'X' then
      let digits := t.takeWhile isHexDigit
      if digits.isEmpty then none else some (⟨16, digits⟩, t.dropWhile isHexDigit)
    else if c.isDigit then
      some (⟨10, (c :: t).takeWhile Char.isDigit⟩, t.dropWhile Char.isDigit)
    else none

def dropSemicolon : Text → Text
  | ';' :: t => t
  | t => t

def isNameEnd (c : Char) : Bool := ['\t', '\n', '\x0c', ' ', '<', '&', '#', ';'].contains c

/-- The longest name that a reference in the value of an attribute may have. -/
def maxNameLength : Nat := 32

/-- A reference in a value, of which `s` follows the ampersand: what it stands for, and what is
left. -/
def readReference? (s : Text) : Option (Except Rejection Text × Text) :=
  match s with
  | '#' :: t => (readNumeral? t).map fun (n, r) => (n.value.map valueText, dropSemicolon r)
  | _ =>
    let name := (s.take maxNameLength).takeWhile (!isNameEnd ·)
    let r := s.drop name.length
    let whole := if r.head? = some ';' then namedText? name else none
    match whole with
    | some v => some (.ok v, r.drop 1)
    | none => (longestBare? name name.length).map fun (v, more) => (.ok v, more ++ r)

/-- Replaces references, each of which takes up one step of `bound` at least. -/
def replaceReferences : Text → Text → Except Rejection Text
  | _ :: bound, '&' :: t =>
    match readReference? t with
    | some (v, r) => v.bind fun v => (replaceReferences bound r).map (v ++ ·)
    | none => (replaceReferences bound t).map ('&' :: ·)
  | _ :: bound, c :: t => (replaceReferences bound t).map (c :: ·)
  | _, t => .ok t

/-- The value of an attribute with its references replaced. -/
def unescapeValue (t : Text) : Except Rejection Text := replaceReferences t t

end CurlyMarkup.Markup
