import JavaHomes.CommandLine.Arguments
import JavaHomes.CommandLine.Options
import JavaHomes.CommandLine.Run
import JavaHomes.CommandLine.Setting
import JavaHomes.CommandLine.Table
import JavaHomes.Config.Basic
import JavaHomes.Config.Environment
import JavaHomes.Config.Json
import JavaHomes.Config.Schema
import JavaHomes.Duration
import JavaHomes.Environment
import JavaHomes.FileTree.Basic
import JavaHomes.FileTree.Edit
import JavaHomes.Home
import JavaHomes.Installation
import JavaHomes.Installation.Json
import JavaHomes.Json.Basic
import JavaHomes.Json.Reader
import JavaHomes.Json.Record
import JavaHomes.Launcher.Pool
import JavaHomes.Launcher.Probe
import JavaHomes.Launcher.Report
import JavaHomes.Machine
import JavaHomes.Main
import JavaHomes.Path
import JavaHomes.Pattern
import JavaHomes.Pattern.CharClass
import JavaHomes.Pattern.Expr
import JavaHomes.Pattern.Meaning
import JavaHomes.Pattern.Named
import JavaHomes.Pattern.Parser
import JavaHomes.Pattern.Reader
import JavaHomes.Pattern.Term
import JavaHomes.Population
import JavaHomes.Proofs.BoundedPatterns
import JavaHomes.Proofs.ByVersion
import JavaHomes.Proofs.Canonical
import JavaHomes.Proofs.ConstraintText
import JavaHomes.Proofs.Construction
import JavaHomes.Proofs.CurrentHome
import JavaHomes.Proofs.Decimal
import JavaHomes.Proofs.DeclaredVendor
import JavaHomes.Proofs.DetectedHome
import JavaHomes.Proofs.Discovery
import JavaHomes.Proofs.Exactness
import JavaHomes.Proofs.Grounds
import JavaHomes.Proofs.HintNames
import JavaHomes.Proofs.JsonText
import JavaHomes.Proofs.Layering
import JavaHomes.Proofs.LineEndings
import JavaHomes.Proofs.Lines
import JavaHomes.Proofs.Listing
import JavaHomes.Proofs.Lists
import JavaHomes.Proofs.Notation
import JavaHomes.Proofs.Order
import JavaHomes.Proofs.Override
import JavaHomes.Proofs.PatternSearch
import JavaHomes.Proofs.Pool
import JavaHomes.Proofs.Population
import JavaHomes.Proofs.Probe
import JavaHomes.Proofs.Properties
import JavaHomes.Proofs.PropertyDump
import JavaHomes.Proofs.PropertyLine
import JavaHomes.Proofs.Registry
import JavaHomes.Proofs.ReportedVersion
import JavaHomes.Proofs.Resolution
import JavaHomes.Proofs.RoundTrip
import JavaHomes.Proofs.Satisfiable
import JavaHomes.Proofs.Scan
import JavaHomes.Proofs.Selection
import JavaHomes.Proofs.Session
import JavaHomes.Proofs.SettledHome
import JavaHomes.Proofs.Sorted
import JavaHomes.Proofs.SortedMap
import JavaHomes.Proofs.Steady
import JavaHomes.Proofs.Streams
import JavaHomes.Proofs.Summary
import JavaHomes.Proofs.Text
import JavaHomes.Proofs.VersionRange
import JavaHomes.Proofs.VersionText
import JavaHomes.Proofs.Walk
import JavaHomes.Registry
import JavaHomes.Requirement
import JavaHomes.Scan
import JavaHomes.Selection
import JavaHomes.Service
import JavaHomes.Session
import JavaHomes.Sorted
import JavaHomes.Text.Blank
import JavaHomes.Text.Decimal
import JavaHomes.Text.Quoted
import JavaHomes.Text.Utf8
import JavaHomes.Text.Width
import JavaHomes.Unicode.Category
import JavaHomes.Unicode.CodePoints
import JavaHomes.Unicode.Fold
import JavaHomes.Unicode.Property
import JavaHomes.Unicode.Script
import JavaHomes.Vendor
import JavaHomes.Version.Basic
import JavaHomes.Version.Constraint
import JavaHomes.Version.Json
