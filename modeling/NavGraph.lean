import NavGraph.Text.Class
import NavGraph.Text.Trim
import NavGraph.Text.LetterCase
import NavGraph.Text.Digit
import NavGraph.Text.Quoted
import NavGraph.Pattern.Search
import NavGraph.Number.Shortest
import NavGraph.Number.Reading
import NavGraph.Json.Reader
import NavGraph.Json.Writer
import NavGraph.Time.Timestamp
import NavGraph.Model.Document
import NavGraph.Model.Shape
import NavGraph.Host.Address
import NavGraph.Source.Declaration
import NavGraph.Source.Kind
import NavGraph.Source.Feature
import NavGraph.Source.Complexity
import NavGraph.Source.Reference
import NavGraph.Demo.Dataset
import NavGraph.Demo.Provider
import NavGraph.Graph.Builder
import NavGraph.Graph.Journeys
import NavGraph.Report.Diagram
import NavGraph.Report.Summary
import NavGraph.Host.Script
import NavGraph.Service
import NavGraph.Main
import NavGraph.Proofs.Graph.Connection
import NavGraph.Proofs.Graph.Identity
import NavGraph.Proofs.Run.Outcome
import NavGraph.Proofs.Host.Client
import NavGraph.Proofs.Analysis.Sound
import NavGraph.Proofs.Analyzer.Soundness
import NavGraph.Proofs.Run.Truncation
import NavGraph.Proofs.Analyzer.Cancellation
import NavGraph.Proofs.Host.Folder
import NavGraph.Proofs.Host.Serving
import NavGraph.Proofs.Analyzer.Traversal
import NavGraph.Proofs.Analyzer.Substitution
import NavGraph.Proofs.Analyzer.Calls
import NavGraph.Proofs.Host.Attempts
import NavGraph.Proofs.Analyzer.Course
import NavGraph.Proofs.Pattern.Capture
import NavGraph.Proofs.Source.Description
import NavGraph.Proofs.Analyzer.Marker
import NavGraph.Proofs.Source.File
import NavGraph.Proofs.Graph.Assignment
import NavGraph.Proofs.Graph.Growth
import NavGraph.Proofs.Pattern.Extent
import NavGraph.Proofs.Text.LowerCase
import NavGraph.Proofs.Text.Trim
import NavGraph.Proofs.Source.Route
import NavGraph.Proofs.Graph.Linking
import NavGraph.Proofs.Host.Defect
import NavGraph.Proofs.Analyzer.Defect
import NavGraph.Proofs.Graph.Table
import NavGraph.Proofs.Host.Pacing
import NavGraph.Proofs.Pattern.Order
import NavGraph.Proofs.Pattern.Spelling
import NavGraph.Proofs.Source.Reference
import NavGraph.Proofs.Pattern.Running
import NavGraph.Proofs.Source.Segment
import NavGraph.Proofs.Source.Extension
import NavGraph.Proofs.Source.Directory
import NavGraph.Proofs.Pattern.Language
import NavGraph.Proofs.Pattern.Growth
import NavGraph.Proofs.Source.Complexity
import NavGraph.Proofs.Host.Address
import NavGraph.Proofs.Host.Query
import NavGraph.Proofs.Source.Bare
import NavGraph.Proofs.Graph.Pages
import NavGraph.Proofs.Graph.Grid
import NavGraph.Proofs.Report.Agreement
import NavGraph.Proofs.Source.RoundTrip
import NavGraph.Proofs.Pattern.First
import NavGraph.Proofs.Pattern.Moving
import NavGraph.Proofs.Source.Declaration
import NavGraph.Proofs.Graph.Journeys
import NavGraph.Proofs.Text.Digit
import NavGraph.Proofs.Time.Calendar
import NavGraph.Proofs.Number.Integer
import NavGraph.Proofs.Time.Timestamp
import NavGraph.Proofs.Time.Moment
import NavGraph.Proofs.Host.ResetTime
import NavGraph.Proofs.Assoc
import NavGraph.Proofs.Host.FirstRequest
import NavGraph.Proofs.Settings.Field
import NavGraph.Proofs.Settings.Load
import NavGraph.Proofs.CommandLine.Execute
import NavGraph.Proofs.Analyzer.Interruption
import NavGraph.Proofs.Model.Document
import NavGraph.Proofs.Model.Shape
import NavGraph.Proofs.Json.Lexeme
import NavGraph.Proofs.Json.Reader
import NavGraph.Proofs.Json.Unique
import NavGraph.Proofs.Json.Nesting
import NavGraph.Proofs.CommandLine.Recovery
