import CurlyMarkup.Text.Basic
set_option autoImplicit false

namespace CurlyMarkup

inductive Level where
  | debug | info | warning | error | critical
  deriving DecidableEq, Repr

def Level.all : List Level := [.debug, .info, .warning, .error, .critical]

def Level.name : Level → Text
  | .debug => "DEBUG"
  | .info => "INFO"
  | .warning => "WARNING"
  | .error => "ERROR"
  | .critical => "CRITICAL"

def Level.ofName? (t : Text) : Option Level := Level.all.find? (·.name = t)

def Level.severity : Level → Nat
  | .debug => 10
  | .info => 20
  | .warning => 30
  | .error => 40
  | .critical => 50

inductive FieldValue where
  | text (value : Text)
  | count (value : Nat)
  | flag (value : Bool)
  deriving DecidableEq, Repr

/-- The fields come in the order in which they were given. -/
structure Record where
  level : Level
  logger : Text
  event : Text
  fields : List (Text × FieldValue)
  deriving DecidableEq, Repr

/-- A value together with what was reported on the way to it, in order. -/
structure Logged (α : Type) where
  value : α
  records : List Record

namespace Logged

variable {α β : Type}

def quiet (a : α) : Logged α := ⟨a, []⟩

def bind (x : Logged α) (f : α → Logged β) : Logged β :=
  let y := f x.value
  ⟨y.value, x.records ++ y.records⟩

def map (f : α → β) (x : Logged α) : Logged β := ⟨f x.value, x.records⟩

end Logged

end CurlyMarkup
