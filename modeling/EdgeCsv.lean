import EdgeCsv.Action
import EdgeCsv.CommandLine.Arguments
import EdgeCsv.CommandLine.Program
import EdgeCsv.CommandLine.Snapshot
import EdgeCsv.CommandLine.Usage
import EdgeCsv.Conversion.Convert
import EdgeCsv.Conversion.Error
import EdgeCsv.Conversion.Rows
import EdgeCsv.Conversion.Summary
import EdgeCsv.Conversion.Writer
import EdgeCsv.FileSystem.Access
import EdgeCsv.FileSystem.Basic
import EdgeCsv.Files
import EdgeCsv.Generate
import EdgeCsv.IoError
import EdgeCsv.LoadScript.Cypher
import EdgeCsv.LoadScript.Error
import EdgeCsv.LoadScript.Script
import EdgeCsv.LoadScript.Template
import EdgeCsv.Log
import EdgeCsv.Main
import EdgeCsv.Path
import EdgeCsv.Plan.Basic
import EdgeCsv.Plan.Error
import EdgeCsv.Plan.File
import EdgeCsv.Plan.Reading
import EdgeCsv.Plan.Shown
import EdgeCsv.Plan.Writing
import EdgeCsv.Proofs.Conversion.Limit
import EdgeCsv.Proofs.Conversion.Rows
import EdgeCsv.Proofs.LoadScript.Lexemes
import EdgeCsv.Proofs.Plan.RoundTrip
import EdgeCsv.Proofs.Plan.Resolve
import EdgeCsv.Proofs.Row
import EdgeCsv.Proofs.Text.Utf8
import EdgeCsv.Proofs.Yaml.BlockScalar
import EdgeCsv.Proofs.Yaml.Document
import EdgeCsv.Proofs.Yaml.Events
import EdgeCsv.Proofs.Yaml.FlowScalar
import EdgeCsv.Proofs.Yaml.Outline
import EdgeCsv.Proofs.Yaml.Reader
import EdgeCsv.Proofs.Yaml.Tokens
import EdgeCsv.Row
import EdgeCsv.Run
import EdgeCsv.Text.Binary64
import EdgeCsv.Text.Printable
import EdgeCsv.Text.Quoted
import EdgeCsv.Text.Utf8
import EdgeCsv.Yaml.Character
import EdgeCsv.Yaml.Document
import EdgeCsv.Yaml.Error
import EdgeCsv.Yaml.Event
import EdgeCsv.Yaml.Event.Stream
import EdgeCsv.Yaml.Fault
import EdgeCsv.Yaml.Mark
import EdgeCsv.Yaml.Scalar
import EdgeCsv.Yaml.Source
import EdgeCsv.Yaml.Style
import EdgeCsv.Yaml.Token
import EdgeCsv.Yaml.Token.BlockScalar
import EdgeCsv.Yaml.Token.Directive
import EdgeCsv.Yaml.Token.FlowScalar
import EdgeCsv.Yaml.Token.Stream
import EdgeCsv.Yaml.Token.Tag
import EdgeCsv.Proofs.Conversion.Append
import EdgeCsv.Proofs.FileSystem.Access
import EdgeCsv.Proofs.Conversion.Buffer
import EdgeCsv.Proofs.Conversion.Convert
import EdgeCsv.Proofs.Action
import EdgeCsv.Proofs.Files
import EdgeCsv.Proofs.Run.Follow
import EdgeCsv.Proofs.FileSystem.WorkingDirectory
import EdgeCsv.Proofs.Generate
import EdgeCsv.Proofs.Row.Fields
import EdgeCsv.Proofs.Text.Split
import EdgeCsv.Proofs.Path.Steps
import EdgeCsv.Proofs.Path.Components
import EdgeCsv.Proofs.Path.Join
import EdgeCsv.Proofs.Run.PlanFile
import EdgeCsv.Proofs.Run.Again
import EdgeCsv.Proofs.FileSystem.Walk
import EdgeCsv.Proofs.FileSystem.Base
import EdgeCsv.Proofs.FileSystem.Tree
import EdgeCsv.Proofs.LoadScript.Lines
import EdgeCsv.Proofs.Run.Respelled
import EdgeCsv.Proofs.Run.Tree
import EdgeCsv.Proofs.Row.Index
import EdgeCsv.Proofs.Conversion.Verbatim
import EdgeCsv.Proofs.Conversion.Separators
import EdgeCsv.Proofs.Conversion.FullDevice
import EdgeCsv.Proofs.Files.Effect
import EdgeCsv.Proofs.Conversion.Announced
import EdgeCsv.Proofs.LoadScript.Literal
