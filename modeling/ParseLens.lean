import ParseLens.Main
import ParseLens.Viewer.Expectation
import ParseLens.Viewer.Sample
import ParseLens.Proofs.Automaton.Coverage
import ParseLens.Proofs.CommandLine.Agreement
import ParseLens.Proofs.CommandLine.Showing
import ParseLens.Proofs.Exchange.Layouts
import ParseLens.Proofs.Grammar.Canonical
import ParseLens.Proofs.Viewer.Newest
import ParseLens.Proofs.Json.Integer
import ParseLens.Proofs.Json.Line
import ParseLens.Proofs.Json.Yield
import ParseLens.Proofs.Exchange.Rereading
import ParseLens.Proofs.Viewer.Banner
import ParseLens.Proofs.Automaton.Cursor
import ParseLens.Proofs.Viewer.Editing
import ParseLens.Proofs.Viewer.Submission
import ParseLens.Proofs.Viewer.Replaying
import ParseLens.Proofs.Viewer.Warnings
import ParseLens.Proofs.Automaton.Rekeying
import ParseLens.Proofs.Text.Words
import ParseLens.Proofs.Automaton.KeySpelling
import ParseLens.Proofs.Automaton.ItemReading
import ParseLens.Proofs.Grammar.Kinds
import ParseLens.Proofs.Text.Lines
import ParseLens.Proofs.Automaton.Headings
import ParseLens.Proofs.Grammar.Offences
import ParseLens.Proofs.Automaton.Navigation
import ParseLens.Proofs.CommandLine.AllOrNothing
import ParseLens.Proofs.Exchange.Refusals
import ParseLens.Proofs.Viewer.Comparing
import ParseLens.Proofs.Settings.RequestAddress
import ParseLens.Proofs.Settings.Restating
