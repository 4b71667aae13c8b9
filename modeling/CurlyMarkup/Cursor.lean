import CurlyMarkup.Text.Basic
set_option autoImplicit false

namespace CurlyMarkup

/-- A place in a text, with what follows it; nothing follows a place beyond the end. Offsets count
characters from 0, lines and columns from 1. -/
structure Cursor where
  text : Text
  offset : Nat
  rest : Text
  rest_eq : rest = text.drop offset

namespace Cursor

theorem eq_of_offset_eq {c d : Cursor} (ht : c.text = d.text) (ho : c.offset = d.offset) :
    c = d := by
  obtain ⟨_, _, _, rfl⟩ := c
  obtain ⟨_, _, _, rfl⟩ := d
  cases ht
  cases ho
  rfl

def ofText (t : Text) : Cursor := ⟨t, 0, t, rfl⟩

def place (t : Text) (offset : Nat) : Cursor := ⟨t, offset, t.drop offset, rfl⟩

def atEnd (c : Cursor) : Bool := c.rest.isEmpty

def peek (c : Cursor) : Option Char := c.rest.head?

/-- Nothing starts beyond the end, not even the empty text. -/
def startsWith (c : Cursor) : Text → Bool
  | [] => c.offset ≤ c.text.length
  | t@(_ :: _) => t.isPrefixOf c.rest

/-- The place `n` characters further on, whether or not the text reaches that far. -/
def skip (c : Cursor) (n : Nat) : Cursor :=
  ⟨c.text, c.offset+n, c.rest.drop n, by rw [c.rest_eq, List.drop_drop]⟩

/-- The place `n` characters further on, or the end if that is nearer. -/
def advance (c : Cursor) (n : Nat) : Cursor := place c.text (min (c.offset+n) c.text.length)

/-- What precedes the place; all of the text for a place beyond the end. -/
def before (c : Cursor) : Text := c.text.take c.offset

def line (c : Cursor) : Nat := c.before.count '\n' + 1

/-- The offset at which the line begins. -/
def lineStart (c : Cursor) : Nat :=
  c.before.length - (c.before.reverse.takeWhile (· ≠ '\n')).length

def column (c : Cursor) : Nat := c.offset-c.lineStart+1

end Cursor

end CurlyMarkup
