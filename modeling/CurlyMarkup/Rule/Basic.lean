import CurlyMarkup.SyntaxError
import CurlyMarkup.Text.Basic
set_option autoImplicit false

/-!
Grammar rules as data, and what running one at a cursor gives.

A failure is uncommitted at first: alternatives and repetitions may try something else at the
same place. A committed failure goes through every rule around it and ends the reading.
-/

namespace CurlyMarkup

structure Failure where
  cursor : Cursor
  expected : Text
  construct : Option Construct
  committed : Bool

def Cursor.missing (c : Cursor) (expected : Text) : Failure := ⟨c, expected, none, false⟩

def Failure.commit (f : Failure) : Failure := { f with committed := true }

/-- The first construct that a failure is blamed on stays. -/
def Failure.blame (f : Failure) (k : Construct) : Failure :=
  { f with construct := f.construct <|> some k }

/-- A failure that no rule has blamed on a construct counts against the element. -/
def Failure.toError (f : Failure) : SyntaxError :=
  .at f.cursor (f.construct.getD .element) f.expected

/-- `endless` is the outcome of a repetition whose rounds consume nothing and never fail. -/
inductive Result (α : Type) where
  | ok (value : α) (cursor : Cursor)
  | fail (failure : Failure)
  | endless

/-- What one turn inside a bracketed tree can read. -/
inductive Turn (η β : Type) where
  | opened (head : η)
  | leaf (item : β)
  | closed

/-- Escapes in the order in which they are listed to the user. -/
abbrev EscapeTable := List (Text × Text)

/-- A key that is listed already keeps its place and takes the new value. -/
def EscapeTable.insert (key value : Text) : EscapeTable → EscapeTable
  | [] => [(key, value)]
  | (k, v) :: table => if k = key then (k, value) :: table else (k, v) :: insert key value table

inductive Rule : Type → Type 1 where
  | succeed {α : Type} (value : α) : Rule α
  | refuse {α : Type} (expected : Text) : Rule α
  | literal (text expected : Text) : Rule Text
  | takeWhile (p : Char → Bool) : Rule Text
  | takeWhile1 (p : Char → Bool) (expected : Text) : Rule Text
  | endOfText (expected : Text) : Rule Unit
  /-- A run of `normal` characters and of escapes, which `mark` begins. -/
  | unescape (normal : Char → Bool) (mark : Char) (table : EscapeTable) (k : Construct) : Rule Text
  | pair {α β : Type} (first : Rule α) (second : Rule β) : Rule (α × β)
  | orElse {α : Type} (first second : Rule α) : Rule α
  /-- An uncommitted failure is reported at the start and under this name. -/
  | relabel {α : Type} (expected : Text) (inner : Rule α) : Rule α
  | optional {α : Type} (inner : Rule α) : Rule (Option α)
  | many {α : Type} (item : Rule α) : Rule (List α)
  /-- A separator that no item follows is left to whatever comes next. -/
  | separated {α β : Type} (item : Rule α) (separator : Rule β) : Rule (List α)
  | map {α β : Type} (f : α → β) (inner : Rule α) : Rule β
  | commit {α : Type} (inner : Rule α) : Rule α
  | blame {α : Type} (k : Construct) (inner : Rule α) : Rule α
  /-- A tree of any depth: its head, then turns until the bracket of that head is closed. -/
  | nested {η β : Type} (opening : Rule η) (turn : Rule (Turn η β)) (build : η → List β → β) :
      Rule (η × List β)

end CurlyMarkup
