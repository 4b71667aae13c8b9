import CurlyMarkup.Settings.Basic
set_option autoImplicit false

namespace CurlyMarkup

def consoleHandler (s : Settings) (level : Text) : Datum := .object [
  ("class", .string "logging.StreamHandler"),
  ("level", .string level),
  ("formatter", .string (if s.environment = .production then "json" else "standard")),
  ("stream", .string "ext://sys.stderr")]

/-- A log file is replaced when it has grown to this many bytes. -/
def maxLogSize : Nat := 10485760

/-- As many replaced log files are kept. -/
def keptLogs : Nat := 5

def fileHandler (path level : Text) : Datum := .object [
  ("class", .string "logging.handlers.RotatingFileHandler"),
  ("level", .string level),
  ("formatter", .string "detailed"),
  ("filename", .string path),
  ("maxBytes", .int maxLogSize),
  ("backupCount", .int keptLogs)]

def logFormatters : Datum := .object [
  ("standard", .object [("format", .string "%(message)s")]),
  ("detailed", .object [
    ("format", .string "%(asctime)s [%(levelname)s] %(name)s:%(lineno)d: %(message)s"),
    ("datefmt", .string "%Y-%m-%d %H:%M:%S")]),
  ("json", .object [
    ("()", .string "pythonjsonlogger.jsonlogger.JsonFormatter"),
    ("format", .string "%(asctime)s %(name)s %(levelname)s %(message)s")])]

/-- The level given, unless it is empty, takes the place of the one in the settings. -/
def effectiveLevel (s : Settings) (level : Text) : Text :=
  if level.isEmpty then s.logLevel.name else level.upper

def logConfig (s : Settings) (level : Text) : Datum :=
  let level := effectiveLevel s level
  let file := s.logFile.map fun path => (("file" : Text), fileHandler path level)
  let handlers : Fields := ("console", consoleHandler s level) :: file.toList
  .object [
    ("version", .int 1),
    ("disable_existing_loggers", .bool false),
    ("formatters", logFormatters),
    ("handlers", .object handlers),
    ("loggers", .object [("", .object [
      ("level", .string level),
      ("handlers", .list (handlers.map fun h => .string h.1)),
      ("propagate", .bool false)])])]

end CurlyMarkup
