import CurlyMarkup.Format.Formatter
import CurlyMarkup.Log.Record
set_option autoImplicit false

namespace CurlyMarkup

inductive Environment where
  | development | testing | production
  deriving DecidableEq, Repr

def Environment.all : List Environment := [.development, .testing, .production]

def Environment.name : Environment → Text
  | .development => "development"
  | .testing => "testing"
  | .production => "production"

def Environment.ofName? (t : Text) : Option Environment := Environment.all.find? (·.name = t)

structure Settings where
  appName : Text := "braceml"
  appVersion : Text := "1.0.0"
  environment : Environment := .development
  debug : Bool := false
  logLevel : Level := .warning
  logFile : Option Text := none
  formatOutput : Bool := true
  formatter : Backend := .layout
  indentSize : Fin (maxIndent+1) := defaultIndent
  useTabs : Bool := false
  indentAttributes : Bool := false
  indentCdata : Bool := false
  stripComments : Bool := false
  deriving DecidableEq, Repr

def Settings.formatOptions (s : Settings) : FormatOptions where
  useTabs := s.useTabs
  indentSize := s.indentSize
  indentAttributes := s.indentAttributes
  indentCdata := s.indentCdata
  stripComments := s.stripComments

end CurlyMarkup
