import ProcedureAudit.Audit
import ProcedureAudit.Audit.Run
import ProcedureAudit.Audit.Survey
import ProcedureAudit.CommandLine.Argument
import ProcedureAudit.CommandLine.Grammar
import ProcedureAudit.CommandLine.Misuse
import ProcedureAudit.CommandLine.Run
import ProcedureAudit.CommandLine.Task
import ProcedureAudit.Config.Basic
import ProcedureAudit.Config.Flaw
import ProcedureAudit.Config.Load
import ProcedureAudit.Config.LogFormat
import ProcedureAudit.Config.Override
import ProcedureAudit.Config.Schema
import ProcedureAudit.Config.Settings
import ProcedureAudit.Database.Address
import ProcedureAudit.Database.Fault
import ProcedureAudit.Database.HostNumber
import ProcedureAudit.Database.Session
import ProcedureAudit.Failure
import ProcedureAudit.Files.Glob
import ProcedureAudit.Files.IgnoreRules
import ProcedureAudit.Files.Path
import ProcedureAudit.Files.Tree
import ProcedureAudit.Files.Wildcard
import ProcedureAudit.Files.Workspace
import ProcedureAudit.Fixture.Seeding
import ProcedureAudit.Fixture.Statement
import ProcedureAudit.Number.Binary64
import ProcedureAudit.Number.Numeral
import ProcedureAudit.Number.Shortest
import ProcedureAudit.Plan
import ProcedureAudit.Proofs.Audit.Accounting
import ProcedureAudit.Proofs.Audit.Course
import ProcedureAudit.Proofs.Audit.InSession
import ProcedureAudit.Proofs.CommandLine.Run
import ProcedureAudit.Proofs.CommandLine.Status
import ProcedureAudit.Proofs.Database.Session
import ProcedureAudit.Proofs.Fixture.InSession
import ProcedureAudit.Proofs.Fixture.Running
import ProcedureAudit.Proofs.Fixture.Tables
import ProcedureAudit.Proofs.Fixture.TokenPresence
import ProcedureAudit.Proofs.Plan.Labels
import ProcedureAudit.Proofs.Query.Dissection
import ProcedureAudit.Proofs.Query.Literal
import ProcedureAudit.Proofs.Query.Parentheses
import ProcedureAudit.Proofs.Query.Placeholder
import ProcedureAudit.Proofs.Query.Registry
import ProcedureAudit.Proofs.Query.TwoPasses
import ProcedureAudit.Proofs.Routine.Bodies
import ProcedureAudit.Proofs.Routine.Catalog
import ProcedureAudit.Proofs.Routine.Delimiters
import ProcedureAudit.Proofs.Routine.Grammar
import ProcedureAudit.Proofs.Routine.Line
import ProcedureAudit.Proofs.Routine.Partition
import ProcedureAudit.Proofs.Routine.Scan
import ProcedureAudit.Proofs.Text.Basic
import ProcedureAudit.Proofs.Text.LetterCase
import ProcedureAudit.Query.Normal
import ProcedureAudit.Query.Parentheses
import ProcedureAudit.Query.Placeholder
import ProcedureAudit.Query.Registry
import ProcedureAudit.Report
import ProcedureAudit.Routine.Callers
import ProcedureAudit.Routine.Catalog
import ProcedureAudit.Routine.Files
import ProcedureAudit.Routine.Line
import ProcedureAudit.Routine.Scan
import ProcedureAudit.Text.Base64
import ProcedureAudit.Text.Basic
import ProcedureAudit.Text.CaseTables
import ProcedureAudit.Text.CodePoint
import ProcedureAudit.Text.Digits
import ProcedureAudit.Text.LetterCase
import ProcedureAudit.Text.Lines
import ProcedureAudit.Text.Printable
import ProcedureAudit.Text.Quoted
import ProcedureAudit.Text.Ranges
import ProcedureAudit.Text.Utf8
import ProcedureAudit.Text.WordTable
import ProcedureAudit.Value
import ProcedureAudit.Yaml.Atom
import ProcedureAudit.Yaml.BlockScalar
import ProcedureAudit.Yaml.Cursor
import ProcedureAudit.Yaml.Datum
import ProcedureAudit.Yaml.Graph
import ProcedureAudit.Yaml.Moment
import ProcedureAudit.Yaml.MomentForm
import ProcedureAudit.Yaml.Node
import ProcedureAudit.Yaml.PlainScalar
import ProcedureAudit.Yaml.Problem
import ProcedureAudit.Yaml.QuotedScalar
import ProcedureAudit.Yaml.Scalar
import ProcedureAudit.Yaml.Schema
import ProcedureAudit.Yaml.Tag
import ProcedureAudit.Yaml.Token
import ProcedureAudit.Main
import ProcedureAudit.Proofs.Routine.Indexing
import ProcedureAudit.Proofs.Audit.Collecting
import ProcedureAudit.Proofs.Routine.Declaring
import ProcedureAudit.Proofs.Routine.Callers
import ProcedureAudit.Proofs.Audit.Respelling
import ProcedureAudit.Proofs.Fixture.Attempts
import ProcedureAudit.Proofs.Fixture.Script
import ProcedureAudit.Proofs.Fixture.CutShort
import ProcedureAudit.Proofs.Fixture.OneToken
import ProcedureAudit.Proofs.Files.Path
import ProcedureAudit.Proofs.Files.Tree
import ProcedureAudit.Proofs.Query.Characters
import ProcedureAudit.Proofs.CommandLine.Preview
import ProcedureAudit.Proofs.Query.Confined
import ProcedureAudit.Proofs.Query.ArgumentName
import ProcedureAudit.Proofs.Query.Settled
import ProcedureAudit.Proofs.Query.WholeName
import ProcedureAudit.Proofs.Config.Redaction
import ProcedureAudit.Proofs.Database.Connections
import ProcedureAudit.Proofs.Query.Surplus
import ProcedureAudit.Proofs.Query.EitherForm
import ProcedureAudit.Proofs.Query.Balance
import ProcedureAudit.Proofs.Fixture.Recorded
import ProcedureAudit.Proofs.Routine.FullName
import ProcedureAudit.Proofs.Text.LineEnds
import ProcedureAudit.Proofs.Routine.Trailer
import ProcedureAudit.Proofs.Files.Walk
import ProcedureAudit.Proofs.Routine.Chunks
import ProcedureAudit.Proofs.Routine.Selection
import ProcedureAudit.Proofs.Database.Percent
import ProcedureAudit.Proofs.Database.Address
import ProcedureAudit.Proofs.Config.Arguments
import ProcedureAudit.Proofs.Config.Acceptance
import ProcedureAudit.Proofs.Config.Revalidation
import ProcedureAudit.Proofs.CommandLine.Overrides
import ProcedureAudit.Proofs.Text.LowerCase
import ProcedureAudit.Proofs.Query.History
import ProcedureAudit.Proofs.Config.KnownArguments
import ProcedureAudit.Proofs.Audit.SetupFailure
import ProcedureAudit.Proofs.Text.Digits
import ProcedureAudit.Proofs.Report.Reading
import ProcedureAudit.Proofs.Text.Pattern
import ProcedureAudit.Proofs.Routine.CallSearch
import ProcedureAudit.Proofs.Config.LogFormat
