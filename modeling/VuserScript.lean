import VuserScript.Console.Arguments
import VuserScript.Console.Command
import VuserScript.Console.Run
import VuserScript.Console.Screen
import VuserScript.Console.Table
import VuserScript.Console.Wrap
import VuserScript.Conversion.DataFiles
import VuserScript.Conversion.FolderName
import VuserScript.Conversion.LogText
import VuserScript.Conversion.Report
import VuserScript.Conversion.Run
import VuserScript.Inspection
import VuserScript.Json
import VuserScript.Log
import VuserScript.Main
import VuserScript.Options
import VuserScript.OptionsFile
import VuserScript.Plan.Correlation
import VuserScript.Plan.DataSet
import VuserScript.Plan.Item
import VuserScript.Plan.Load
import VuserScript.Plan.Pairing
import VuserScript.Plan.Property
import VuserScript.Plan.Request
import VuserScript.Plan.Summary
import VuserScript.Problem
import VuserScript.Proofs.Conversion.Agreement
import VuserScript.Proofs.Conversion.Beginnings
import VuserScript.Proofs.Conversion.Bundles
import VuserScript.Proofs.Conversion.Confinement
import VuserScript.Proofs.Conversion.DataCopies
import VuserScript.Proofs.Conversion.Endings
import VuserScript.Proofs.Conversion.FolderNames
import VuserScript.Proofs.Conversion.Parameters
import VuserScript.Proofs.Conversion.Steps
import VuserScript.Proofs.Plan.Counting
import VuserScript.Proofs.Plan.Reach
import VuserScript.Proofs.Plan.Sites
import VuserScript.Proofs.Script.Quoting
import VuserScript.Proofs.Script.Scopes
import VuserScript.Proofs.Script.Sections
import VuserScript.Proofs.Script.Tallies
import VuserScript.Proofs.Session
import VuserScript.Proofs.Storage.Deposits
import VuserScript.Proofs.Storage.Growth
import VuserScript.Proofs.Storage.Operations
import VuserScript.Proofs.Storage.Paths
import VuserScript.Proofs.Text.Literals
import VuserScript.Proofs.Text.References
import VuserScript.Script.Action
import VuserScript.Script.Bundle
import VuserScript.Script.ParameterSet
import VuserScript.Script.Statement
import VuserScript.Session
import VuserScript.Storage.Disk
import VuserScript.Storage.FileTree
import VuserScript.Storage.Path
import VuserScript.Storage.Trouble
import VuserScript.Text.Blank
import VuserScript.Text.CellWidth
import VuserScript.Text.DecimalDigit
import VuserScript.Text.Emoji
import VuserScript.Text.Feed
import VuserScript.Text.LineEnd
import VuserScript.Text.Literal
import VuserScript.Text.LowerCase
import VuserScript.Text.Markup
import VuserScript.Text.Printable
import VuserScript.Text.Quoted
import VuserScript.Text.Ranges
import VuserScript.Text.Reference
import VuserScript.Text.SafeName
import VuserScript.Text.Similarity
import VuserScript.Text.Style
import VuserScript.Text.Utf8
import VuserScript.Tool
import VuserScript.Xml.Content
import VuserScript.Xml.Declaration
import VuserScript.Xml.Doctype.Declarations
import VuserScript.Xml.Doctype.Expansion
import VuserScript.Xml.Doctype.Grammar
import VuserScript.Xml.Doctype.Token
import VuserScript.Xml.Document
import VuserScript.Xml.Element
import VuserScript.Xml.Encoding.Basic
import VuserScript.Xml.Encoding.Catalogue
import VuserScript.Xml.Encoding.Tables
import VuserScript.Xml.Fault
import VuserScript.Xml.NameChar
import VuserScript.Xml.Namespace
import VuserScript.Xml.Position
import VuserScript.Xml.Scan
import VuserScript.Xml.Symbol
import VuserScript.Xml.Tree
import VuserScript.Yaml.Cursor
import VuserScript.Yaml.Document
import VuserScript.Yaml.Fault
import VuserScript.Yaml.Graph
import VuserScript.Yaml.Graph.OfTokens
import VuserScript.Yaml.Schema
import VuserScript.Yaml.Source
import VuserScript.Yaml.Token
import VuserScript.Yaml.Token.Block
import VuserScript.Yaml.Token.Directive
import VuserScript.Yaml.Token.Plain
import VuserScript.Yaml.Token.Property
import VuserScript.Yaml.Token.Quoted
import VuserScript.Yaml.Token.Stream
import VuserScript.Yaml.Value
import VuserScript.Yaml.Value.OfGraph
import VuserScript.Yaml.Value.OfScalar
import VuserScript.Proofs.Plan.Containers
import VuserScript.Proofs.Script.Naming
import VuserScript.Proofs.Script.Calls
import VuserScript.Proofs.Text.Rewriting
import VuserScript.Proofs.Plan.Queries
import VuserScript.Proofs.Script.Fields
import VuserScript.Proofs.Storage.Retracing
import VuserScript.Proofs.Conversion.Repetition
import VuserScript.Proofs.Conversion.OpenFiles
import VuserScript.Proofs.Conversion.SecondRun
import VuserScript.Proofs.Script.Requests
import VuserScript.Proofs.Script.Registrations
import VuserScript.Proofs.Script.Insertions
import VuserScript.Proofs.Conversion.Refusals
import VuserScript.Proofs.Conversion.Loading
import VuserScript.Proofs.Console.OptionsErrors
import VuserScript.Proofs.Conversion.Records
import VuserScript.Proofs.Conversion.Warnings
import VuserScript.Proofs.Plan.Layout
import VuserScript.Proofs.Json
import VuserScript.Proofs.Text.Markup
import VuserScript.Proofs.Console.Words
import VuserScript.Proofs.Tool
import VuserScript.Proofs.Console.Showing
import VuserScript.Proofs.Console.Converting
import VuserScript.Proofs.FrontEnds
import VuserScript.Proofs.Options
import VuserScript.Proofs.Text.Cuts
import VuserScript.Proofs.Script.References
import VuserScript.Proofs.Text.Parts
import VuserScript.Proofs.Conversion.VariableNames
