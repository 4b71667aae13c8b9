import CurlyMarkup.Command.Run
import CurlyMarkup.Proofs.Encoding
import CurlyMarkup.Proofs.Fallback
import CurlyMarkup.Proofs.FlatHtml
set_option autoImplicit false

namespace CurlyMarkup

/-- The text that a file holds, with its lines ended by line feeds, or that the standard input is
read as. -/
def Directory.Holds (d : Directory) (stdin : Stream) (path : Option Text) (t : Text) : Prop :=
  match path with
  | none => stdin.read stdin.bytes = .ok t
  | some p => ∃ u, d.read p = .ok (encodeUtf8 u) ∧ t = normalizeLines u

theorem readUtf8_eq_ok {bytes : Bytes} {t : Text} :
    readUtf8 bytes = .ok t ↔ ∃ u, bytes = encodeUtf8 u ∧ t = normalizeLines u := by
  simp only [← decodeUtf8_eq_ok]
  rw [readUtf8]
  cases decodeUtf8 bytes with
  | error e => simp [Except.map]
  | ok u => simp [Except.map, eq_comm]

theorem mapError_eq_ok {ε δ α : Type} {f : ε → δ} {x : Except ε α} {v : α} :
    x.mapError f = .ok v ↔ x = .ok v := by
  cases x with
  | error e => constructor <;> (intro h; cases h)
  | ok u => constructor <;> (intro h; cases h; rfl)

theorem Directory.readSource_eq_ok {d : Directory} {stdin : Stream} {path : Option Text}
    {t : Text} : d.readSource stdin path = .ok t ↔ d.Holds stdin path t := by
  cases path with
  | none => rw [readSource, mapError_eq_ok, Holds]
  | some p =>
    rw [readSource, Holds]
    cases d.read p with
    | error e => simp
    | ok bytes => simp [mapError_eq_ok, readUtf8_eq_ok]

theorem Directory.Holds.unique {d : Directory} {stdin : Stream} {path : Option Text} {t u : Text}
    (ht : d.Holds stdin path t) (hu : d.Holds stdin path u) : t = u := by
  rw [← readSource_eq_ok] at ht hu
  rw [ht] at hu
  exact Except.ok.inj hu

namespace Command

variable {print : Layout.Printer} {a : Arguments} {s : Settings} {d : Directory} {stdin : Stream}

namespace Arguments

/-- The width of one level, by the flag or else by the settings. -/
def width (a : Arguments) (s : Settings) : Int := a.indent.getD s.indentSize.val

end Arguments

end Command

end CurlyMarkup
