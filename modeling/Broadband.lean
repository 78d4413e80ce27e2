import Broadband.Main
import Broadband.Proofs.Query.WellFormed
import Broadband.Proofs.Checks
import Broadband.Proofs.Token.Characters
import Broadband.Proofs.Token.Decomposition
import Broadband.Proofs.Spelling
import Broadband.Service
import Broadband.Proofs.Query.Grammar
import Broadband.Proofs.Query.Terminals
import Broadband.Proofs.Query.Printer
import Broadband.Proofs.Query.RoundTrip
import Broadband.Proofs.Query.Spelled
import Broadband.Proofs.Query.Acceptance
import Broadband.Proofs.Query.FirstFault
import Broadband.Proofs.Query.Years
import Broadband.Proofs.Historical.Shares
import Broadband.Proofs.Historical.Acceptance
import Broadband.Proofs.Sql.Marks
import Broadband.Proofs.Sql.Formula
import Broadband.Proofs.Sql.Rendering
import Broadband.Proofs.Sql.Comparisons
import Broadband.Proofs.Sql.Conditions
import Broadband.Proofs.Report.Requirement
import Broadband.Proofs.Report.Comparisons
import Broadband.Proofs.Report.TwoRuns
import Broadband.Proofs.Report.Literals
import Broadband.Proofs.Report.Meaning
import Broadband.Proofs.Sql.Sources
import Broadband.Proofs.Report.Sources
import Broadband.Proofs.Report.Rejections
import Broadband.Proofs.Sql.Subqueries
import Broadband.Proofs.Report.Membership
import Broadband.Proofs.Report.Files
import Broadband.Proofs.Token.Layout
import Broadband.Proofs.Token.Places
import Broadband.Proofs.Token.Progress
import Broadband.Proofs.Sql.Columns
import Broadband.Proofs.Report.Columns
import Broadband.Proofs.Sql.Evaluation
import Broadband.Proofs.Sql.Selections
import Broadband.Proofs.Sql.Keys
import Broadband.Proofs.Report.Figures
import Broadband.Proofs.Report.National
import Broadband.Proofs.Report.SideBySide
import Broadband.Proofs.Report.Population
import Broadband.Proofs.Report.CoveredPart
import Broadband.Proofs.Query.Detection
import Broadband.Proofs.Token.LetterCase
import Broadband.Proofs.Json.ReadBack
import Broadband.Proofs.Service.Counts
import Broadband.Proofs.FrontEnds
import Broadband.Proofs.Report.Rewording
import Broadband.Proofs.Sql.Parentheses
import Broadband.Proofs.Report.Alternatives
import Broadband.Proofs.Report.Tables
import Broadband.Proofs.Query.EndOfText
import Broadband.Proofs.Sql.FileColumns
import Broadband.Proofs.Report.FileColumns
import Broadband.Proofs.Sql.ReadBack
import Broadband.Proofs.Sql.Pieces
import Broadband.Proofs.Sql.Clauses
import Broadband.Proofs.Sql.Phrases
import Broadband.Proofs.Sql.Sketch
import Broadband.Proofs.Report.Sketch
import Broadband.Proofs.Sql.Sketch
import Broadband.Proofs.Report.Sketch
import Broadband.Proofs.Report.Sketch
