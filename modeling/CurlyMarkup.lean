import CurlyMarkup.Log.Config
import CurlyMarkup.Main
import CurlyMarkup.Proofs.Agreement
import CurlyMarkup.Proofs.Blame
import CurlyMarkup.Proofs.CommitPoints
import CurlyMarkup.Proofs.Commitment
import CurlyMarkup.Proofs.Completeness
import CurlyMarkup.Proofs.CursorBounds
import CurlyMarkup.Proofs.Descent
import CurlyMarkup.Proofs.Diagnostics
import CurlyMarkup.Proofs.DumpedTrees
import CurlyMarkup.Proofs.ErrorPosition
import CurlyMarkup.Proofs.ExitCode
import CurlyMarkup.Proofs.Failures
import CurlyMarkup.Proofs.Fallback
import CurlyMarkup.Proofs.FlatHtml
import CurlyMarkup.Proofs.Follows
import CurlyMarkup.Proofs.GuardedReading
import CurlyMarkup.Proofs.LaidOut
import CurlyMarkup.Proofs.Language
import CurlyMarkup.Proofs.Locality
import CurlyMarkup.Proofs.NormalForm
import CurlyMarkup.Proofs.OpeningTags
import CurlyMarkup.Proofs.Outcomes
import CurlyMarkup.Proofs.Positions
import CurlyMarkup.Proofs.Printing
import CurlyMarkup.Proofs.Reads
import CurlyMarkup.Proofs.Recognition
import CurlyMarkup.Proofs.Repetition
import CurlyMarkup.Proofs.Reports
import CurlyMarkup.Proofs.RootAlone
import CurlyMarkup.Proofs.Rounds
import CurlyMarkup.Proofs.SeparatedLists
import CurlyMarkup.Proofs.Shift
import CurlyMarkup.Proofs.Soundness
import CurlyMarkup.Proofs.StrippedComments
import CurlyMarkup.Proofs.Tokens
import CurlyMarkup.Proofs.ValidatedTrees
import CurlyMarkup.Results
import CurlyMarkup.Session.Step
