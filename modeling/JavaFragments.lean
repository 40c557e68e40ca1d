import JavaFragments.FileTree.Basic
import JavaFragments.FileTree.Creation
import JavaFragments.FileTree.Node
import JavaFragments.FileTree.Path
import JavaFragments.Fragment.Call
import JavaFragments.Fragment.Declaration
import JavaFragments.Fragment.Draw
import JavaFragments.Fragment.Failure
import JavaFragments.Fragment.Lineage
import JavaFragments.Fragment.Literal
import JavaFragments.Fragment.Statement
import JavaFragments.Ini.Annotated
import JavaFragments.Ini.Document
import JavaFragments.Ini.Error
import JavaFragments.Ini.Interpolation
import JavaFragments.Ini.Line
import JavaFragments.Ini.Reader
import JavaFragments.Ini.Writer
import JavaFragments.Kind
import JavaFragments.Number.Binary64
import JavaFragments.Number.Digits
import JavaFragments.Number.FloatText
import JavaFragments.Number.Numeral
import JavaFragments.Number.Rounding
import JavaFragments.Number.Shortest
import JavaFragments.Options.Basic
import JavaFragments.Options.Check
import JavaFragments.Options.Configuration
import JavaFragments.Options.Failure
import JavaFragments.Options.Location
import JavaFragments.Options.Lookup
import JavaFragments.Options.Override
import JavaFragments.Options.Sample
import JavaFragments.Options.Settings
import JavaFragments.OrderedMap
import JavaFragments.Proofs.Calls.CallText
import JavaFragments.Proofs.Calls.Decoding
import JavaFragments.Proofs.Calls.Run
import JavaFragments.Proofs.Effects.Consumption
import JavaFragments.Proofs.Effects.Ensures
import JavaFragments.Proofs.Effects.RefusedOperation
import JavaFragments.Proofs.Effects.Result
import JavaFragments.Proofs.FileTree.Descent
import JavaFragments.Proofs.FileTree.Occupant
import JavaFragments.Proofs.FileTree.Placement
import JavaFragments.Proofs.FileTree.PlainPath
import JavaFragments.Proofs.Generation.Initializers
import JavaFragments.Proofs.Generation.Limits
import JavaFragments.Proofs.Ini.DoubledPercent
import JavaFragments.Proofs.Ini.HelpTable
import JavaFragments.Proofs.Ini.PlainSet
import JavaFragments.Proofs.Ini.ReadBack
import JavaFragments.Proofs.Ini.RefusedValue
import JavaFragments.Proofs.Ini.Reserved
import JavaFragments.Proofs.Ini.SecondReading
import JavaFragments.Proofs.Ini.SettledDocument
import JavaFragments.Proofs.Ini.ShownHelp
import JavaFragments.Proofs.Ini.WrittenLine
import JavaFragments.Proofs.Naming.Counting
import JavaFragments.Proofs.Naming.Distinct
import JavaFragments.Proofs.Naming.IssuedName
import JavaFragments.Proofs.Naming.LocalName
import JavaFragments.Proofs.Naming.LocalRun
import JavaFragments.Proofs.Naming.Run
import JavaFragments.Proofs.Naming.TakenOver
import JavaFragments.Proofs.Number.WrittenInteger
import JavaFragments.Proofs.Number.WrittenNumber
import JavaFragments.Proofs.Options.Conversion
import JavaFragments.Proofs.Options.FileAgreement
import JavaFragments.Proofs.Options.FileValue
import JavaFragments.Proofs.Options.Getter
import JavaFragments.Proofs.Options.Loading
import JavaFragments.Proofs.Options.Priority
import JavaFragments.Proofs.Options.SampleFile
import JavaFragments.Proofs.Options.SampleText
import JavaFragments.Proofs.Records.Ancestors
import JavaFragments.Proofs.Records.Construction
import JavaFragments.Proofs.Records.Descent
import JavaFragments.Proofs.Records.Parenting
import JavaFragments.Proofs.Records.Reparenting
import JavaFragments.Proofs.Records.Walk
import JavaFragments.Proofs.Replay.Actions
import JavaFragments.Proofs.Replay.Draws
import JavaFragments.Proofs.Replay.Handling
import JavaFragments.Proofs.Replay.Operations
import JavaFragments.Proofs.Replay.Overlay
import JavaFragments.Proofs.Replay.Records
import JavaFragments.Proofs.Replay.Reset
import JavaFragments.Proofs.Text.LiteralRoundTrip
import JavaFragments.Proofs.Text.LowerCase
import JavaFragments.Proofs.Text.SourceText
import JavaFragments.Proofs.Text.Strip
import JavaFragments.Proofs.Text.UnitwiseEscape
import JavaFragments.Proofs.Text.Utf16
import JavaFragments.Random.Seed
import JavaFragments.Random.Sha512
import JavaFragments.Random.Source
import JavaFragments.Random.Twister
import JavaFragments.Record.Ancestry
import JavaFragments.Record.Attribute
import JavaFragments.Record.Basic
import JavaFragments.Record.Equality
import JavaFragments.Record.Members
import JavaFragments.Record.View
import JavaFragments.Script.Handle
import JavaFragments.Script.Op
import JavaFragments.Script.Perform
import JavaFragments.Script.World
import JavaFragments.Session.Calls
import JavaFragments.Session.Lifecycle
import JavaFragments.Session.Naming
import JavaFragments.Session.Registry
import JavaFragments.Session.Workbench
import JavaFragments.Text.Blank
import JavaFragments.Text.CharRanges
import JavaFragments.Text.DecimalDigit
import JavaFragments.Text.Escape
import JavaFragments.Text.Lines
import JavaFragments.Text.LowerCase
import JavaFragments.Text.LowerCase.Table
import JavaFragments.Text.Printable
import JavaFragments.Text.Quoted
import JavaFragments.Text.Template
import JavaFragments.Text.Utf8
import JavaFragments.Value
import JavaFragments.Value.Arithmetic
import JavaFragments.Value.Key
import JavaFragments.Value.Misuse
import JavaFragments.Value.Order
