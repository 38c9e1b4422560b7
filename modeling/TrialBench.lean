import TrialBench.Outcome
import TrialBench.ErrorChain
import TrialBench.Names
import TrialBench.Stats
import TrialBench.Shutdown
import TrialBench.Text.Lowercase
import TrialBench.Text.Blank
import TrialBench.Registry.Classes
import TrialBench.Number.Shortest
import TrialBench.Duration.Read
import TrialBench.FileTree
import TrialBench.Toml.Read
import TrialBench.Settings.Load
import TrialBench.Report.Reporter
import TrialBench.Suite.Hosted
import TrialBench.Log.Listener
import TrialBench.Proofs.Effects
import TrialBench.Proofs.Site
import TrialBench.Proofs.RunMoves
import TrialBench.Proofs.Moments
import TrialBench.Proofs.Histories
import TrialBench.Proofs.Runs
import TrialBench.Proofs.Gates
import TrialBench.Proofs.Answers
import TrialBench.Proofs.Alone
import TrialBench.Proofs.RunResult
import TrialBench.Proofs.WaitEnd
import TrialBench.Proofs.Delivery
import TrialBench.Proofs.Scene
import TrialBench.Proofs.Stopping
import TrialBench.Proofs.Shutdown
import TrialBench.Proofs.SuiteRun
import TrialBench.Proofs.Chronicle
import TrialBench.Proofs.EventGrammar
import TrialBench.Proofs.RepeatedNames
import TrialBench.Proofs.Counters
import TrialBench.Proofs.Series
import TrialBench.Proofs.LateMessages
import TrialBench.Proofs.Likeness
import TrialBench.Proofs.Forgetting
import TrialBench.Proofs.CancelRequests
import TrialBench.Proofs.SuiteStates
import TrialBench.Proofs.Truncation
import TrialBench.Proofs.FailFast
import TrialBench.Proofs.Layers
import TrialBench.Proofs.Reading
import TrialBench.Proofs.Resolution
import TrialBench.Proofs.Lineage
import TrialBench.Proofs.Ambiguity
import TrialBench.Proofs.HostErrors
import TrialBench.Proofs.Segments
import TrialBench.Proofs.ReportText
import TrialBench.Proofs.StoredFiles
import TrialBench.Proofs.ReportCases
import TrialBench.Proofs.ReporterEvents
import TrialBench.Proofs.Slots
import TrialBench.Proofs.Posting
import TrialBench.Proofs.EndLines
import TrialBench.Proofs.Registrations
import TrialBench.Proofs.Instantiation
import TrialBench.Proofs.BaseClass
import TrialBench.Proofs.RunLines
import TrialBench.Proofs.ShownCauses
import TrialBench.Proofs.SharedMarks
import TrialBench.Proofs.ReportPlaces
import TrialBench.Proofs.Trimming
import TrialBench.Proofs.Rereading
import TrialBench.Proofs.UnknownKeys
import TrialBench.Proofs.KeyWarnings
