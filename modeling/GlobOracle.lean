import GlobOracle.Service
import GlobOracle.Shell.Script
import GlobOracle.Proofs.Action
import GlobOracle.Proofs.Canonical
import GlobOracle.Proofs.Entries
import GlobOracle.Proofs.ToolOptions
import GlobOracle.Proofs.SingleMatch
import GlobOracle.Proofs.Containment
import GlobOracle.Proofs.InTurn
import GlobOracle.Proofs.Steady
import GlobOracle.Proofs.Batch.Step
import GlobOracle.Proofs.Batch.Course
import GlobOracle.Proofs.Batch.Permits
import GlobOracle.Proofs.Batch.Agreement
import GlobOracle.Proofs.ErrorPolicy
import GlobOracle.Proofs.Batch.Discipline
import GlobOracle.Proofs.Shown
import GlobOracle.Proofs.LaunchFailure
import GlobOracle.Proofs.Classification
import GlobOracle.Proofs.Number.Double
import GlobOracle.Proofs.Number.Literal
import GlobOracle.Proofs.Number.Integer
import GlobOracle.Proofs.ListTool
import GlobOracle.Proofs.RootLogger
import GlobOracle.Proofs.Startup
import GlobOracle.Proofs.IntegerVariable
import GlobOracle.Proofs.LogHistory
import GlobOracle.Proofs.ShellPath.Use
import GlobOracle.Proofs.ShellPath.Indifference
import GlobOracle.Proofs.ShellPath.Moment
import GlobOracle.Proofs.ShellPath.Epoch
import GlobOracle.Proofs.CanonicalRecord
import GlobOracle.Proofs.ReadBack
import GlobOracle.Proofs.Streams
import GlobOracle.Proofs.ShellPath.Race
import GlobOracle.Proofs.ShellPath.Once
import GlobOracle.Proofs.ShellPath.InOneGo
import GlobOracle.Proofs.PolicyDefault
import GlobOracle.Proofs.Warnings
import GlobOracle.Proofs.Batch.Account
import GlobOracle.Proofs.SuppressedErrors
