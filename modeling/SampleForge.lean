import SampleForge.Artifact.Generator
import SampleForge.Artifact.Map
import SampleForge.Artifact.OutputPath
import SampleForge.Artifact.Selection
import SampleForge.Artifact.Write
import SampleForge.Binary64
import SampleForge.Binary64.Reader
import SampleForge.CommandLine.Arguments
import SampleForge.CommandLine.Options
import SampleForge.Diagnostics
import SampleForge.Digest.Blake3
import SampleForge.Error
import SampleForge.Files.Fault
import SampleForge.Files.Path
import SampleForge.Files.Place
import SampleForge.Files.Tree
import SampleForge.Identifier
import SampleForge.Json.Decode
import SampleForge.Json.Fault
import SampleForge.Json.Printer
import SampleForge.Json.Reader
import SampleForge.Json.Value
import SampleForge.KeyMap
import SampleForge.Language
import SampleForge.Log.Directive
import SampleForge.Log.Event
import SampleForge.Log.Fault
import SampleForge.Log.Filter
import SampleForge.Log.Line
import SampleForge.Log.Pattern
import SampleForge.Log.Plan
import SampleForge.Main
import SampleForge.NameSet
import SampleForge.Orchestrator
import SampleForge.Orchestrator.Journal
import SampleForge.OutputView
import SampleForge.OutputView.Json
import SampleForge.Policy
import SampleForge.Product
import SampleForge.Product.Json
import SampleForge.Program
import SampleForge.Proofs.Artifact.BlankRoot
import SampleForge.Proofs.Artifact.Fingerprint
import SampleForge.Proofs.Artifact.NormalForm
import SampleForge.Proofs.Artifact.OutputPath
import SampleForge.Proofs.Artifact.Selection
import SampleForge.Proofs.Artifact.Targets
import SampleForge.Proofs.Artifact.Write
import SampleForge.Proofs.Error
import SampleForge.Proofs.Files.Filling
import SampleForge.Proofs.Files.Path
import SampleForge.Proofs.Files.Tree
import SampleForge.Proofs.Identifier
import SampleForge.Proofs.Json.Nesting
import SampleForge.Proofs.Json.Reader
import SampleForge.Proofs.Json.Records
import SampleForge.Proofs.Json.Tokens
import SampleForge.Proofs.KeyMap
import SampleForge.Proofs.Log.Directive
import SampleForge.Proofs.Log.Plan
import SampleForge.Proofs.NameSet
import SampleForge.Proofs.Orchestrator.Agreement
import SampleForge.Proofs.Orchestrator.Blame
import SampleForge.Proofs.Orchestrator.DisjointMerge
import SampleForge.Proofs.Orchestrator.Merge
import SampleForge.Proofs.Orchestrator.Subselection
import SampleForge.Proofs.Outcome
import SampleForge.Proofs.OutputView.WireForm
import SampleForge.Proofs.Product.Document
import SampleForge.Proofs.Product.Moment
import SampleForge.Proofs.Product.Text
import SampleForge.Proofs.Product.WireForm
import SampleForge.Proofs.Report
import SampleForge.Proofs.Sample.Clock
import SampleForge.Proofs.Sample.ImportSection
import SampleForge.Proofs.Sample.Locator
import SampleForge.Proofs.Sample.Manifest
import SampleForge.Proofs.Sample.Run
import SampleForge.Proofs.Sample.Spelling
import SampleForge.Proofs.Session.Clock
import SampleForge.Proofs.Session.Generate
import SampleForge.Proofs.Settings.KeyExpression
import SampleForge.Proofs.Settings.Merge
import SampleForge.Proofs.Settings.Precedence
import SampleForge.Proofs.Settings.Reading
import SampleForge.Proofs.Settings.Validation
import SampleForge.Proofs.SymbolTable.Again
import SampleForge.Proofs.SymbolTable.Disambiguation
import SampleForge.Proofs.SymbolTable.FreeName
import SampleForge.Proofs.SymbolTable.History
import SampleForge.Proofs.SymbolTable.Identity
import SampleForge.Proofs.SymbolTable.Imports
import SampleForge.Proofs.SymbolTable.Languages
import SampleForge.Proofs.SymbolTable.Nicknames
import SampleForge.Proofs.SymbolTable.Numbering
import SampleForge.Proofs.SymbolTable.OneEntry
import SampleForge.Proofs.SymbolTable.OrderFree
import SampleForge.Proofs.SymbolTable.Permanence
import SampleForge.Proofs.SymbolTable.Refusal
import SampleForge.Proofs.SymbolTable.Reservation
import SampleForge.Proofs.SymbolTable.Walk
import SampleForge.Proofs.Text.Order
import SampleForge.Proofs.Text.Pieces
import SampleForge.Proofs.Text.Replaced
import SampleForge.Proofs.TypeRef.Chain
import SampleForge.Proofs.TypeRef.Decoding
import SampleForge.Proofs.TypeRef.Members
import SampleForge.Proofs.TypeRef.WellFormed
import SampleForge.Proofs.TypeRef.WireForm
import SampleForge.Report
import SampleForge.Sample.ImportSection
import SampleForge.Sample.Locator
import SampleForge.Sample.Manifest
import SampleForge.Session
import SampleForge.Session.Journal
import SampleForge.Settings
import SampleForge.Settings.Decode
import SampleForge.Settings.Entry
import SampleForge.Settings.Environment
import SampleForge.Settings.Fault
import SampleForge.Settings.Json
import SampleForge.Settings.KeyExpression
import SampleForge.Settings.Load
import SampleForge.Settings.Source
import SampleForge.SymbolTable
import SampleForge.SymbolTable.Collect
import SampleForge.SymbolTable.Journal
import SampleForge.Text.AlphanumericTable
import SampleForge.Text.Blank
import SampleForge.Text.Case
import SampleForge.Text.CaseTable
import SampleForge.Text.Digits
import SampleForge.Text.Ligature
import SampleForge.Text.NumeralTable
import SampleForge.Text.PassedOverTable
import SampleForge.Text.Pieces
import SampleForge.Text.Quoted
import SampleForge.Text.ShapeTable
import SampleForge.Text.Width
import SampleForge.Text.WidthTable
import SampleForge.Text.Wrap
import SampleForge.Timestamp
import SampleForge.Toml.Moment
import SampleForge.Toml.Number
import SampleForge.Toml.Outline
import SampleForge.Toml.Printer
import SampleForge.Toml.Reader
import SampleForge.Toml.Text
import SampleForge.Toml.Value
import SampleForge.TypeRef
import SampleForge.TypeRef.Json
import SampleForge.ViewError
