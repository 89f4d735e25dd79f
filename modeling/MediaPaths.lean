import MediaPaths.Backend
import MediaPaths.Browse
import MediaPaths.CommandLine.Folder
import MediaPaths.CommandLine.Options
import MediaPaths.CommandLine.Program
import MediaPaths.CommandLine.Report
import MediaPaths.Distinct
import MediaPaths.Event
import MediaPaths.Expression
import MediaPaths.Fault
import MediaPaths.Filter
import MediaPaths.Level
import MediaPaths.Library
import MediaPaths.Main
import MediaPaths.Registry
import MediaPaths.Rule
import MediaPaths.RuleFile
import MediaPaths.Table
import MediaPaths.Template
import MediaPaths.Text.Basic
import MediaPaths.Text.ExtendingMark
import MediaPaths.Text.Quoted
import MediaPaths.Text.Unprintable
import MediaPaths.Walk
import MediaPaths.Weight
import MediaPaths.Wildcard
import MediaPaths.Proofs.Collapse
import MediaPaths.Proofs.Conjunction
import MediaPaths.Proofs.Course
import MediaPaths.Proofs.DeadEnd
import MediaPaths.Proofs.Deeper
import MediaPaths.Proofs.Denotation
import MediaPaths.Proofs.DrillDown
import MediaPaths.Proofs.Elements
import MediaPaths.Proofs.Legible
import MediaPaths.Proofs.Listing
import MediaPaths.Proofs.Merge
import MediaPaths.Proofs.Narrowing
import MediaPaths.Proofs.PathWalk
import MediaPaths.Proofs.Position
import MediaPaths.Proofs.ReadBack
import MediaPaths.Proofs.TrailingSlash
import MediaPaths.Proofs.TypedElement
import MediaPaths.Proofs.Compilation
import MediaPaths.Proofs.RegistryRuns
import MediaPaths.Proofs.Sharing
import MediaPaths.Proofs.LeftmostFirst
import MediaPaths.Proofs.Occurrence
import MediaPaths.Proofs.Splitting
import MediaPaths.Proofs.BadLines
import MediaPaths.Proofs.Reloading
import MediaPaths.Proofs.OfferedActions
import MediaPaths.Proofs.ExactComparison
import MediaPaths.Proofs.RoundTrip
import MediaPaths.Proofs.Conditions
import MediaPaths.Proofs.LikeForm
import MediaPaths.Proofs.GroupedRows
import MediaPaths.Proofs.LibraryTable
import MediaPaths.Proofs.ActionCompletion
import MediaPaths.Proofs.BeyondDepth
import MediaPaths.Proofs.Grammar
import MediaPaths.Proofs.IndependentAdditions
import MediaPaths.Proofs.JoinedFiles
import MediaPaths.Proofs.LineEndings
import MediaPaths.Proofs.Arguments
import MediaPaths.Proofs.AttachedValue
import MediaPaths.Proofs.OptionPrecedence
import MediaPaths.Proofs.InRange
import MediaPaths.Proofs.Placeholders
