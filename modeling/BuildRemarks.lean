import BuildRemarks.Analysis.Analyze
import BuildRemarks.Analysis.Form
import BuildRemarks.Analysis.Result
import BuildRemarks.Build.Form
import BuildRemarks.Build.Record
import BuildRemarks.Collect.Config
import BuildRemarks.Collect.Run
import BuildRemarks.Collect.Session
import BuildRemarks.Decimal.Layout
import BuildRemarks.Decimal.Nearest
import BuildRemarks.Decimal.Shortest
import BuildRemarks.Failure
import BuildRemarks.Grammar
import BuildRemarks.Json.Flaw
import BuildRemarks.Json.Numerals
import BuildRemarks.Json.Print
import BuildRemarks.Json.Reader
import BuildRemarks.Json.Source
import BuildRemarks.Json.Strings
import BuildRemarks.Json.Text
import BuildRemarks.Json.Value
import BuildRemarks.Kernel.Descriptor
import BuildRemarks.Kernel.Form
import BuildRemarks.Kernel.Heading
import BuildRemarks.Kernel.MemoryAccess
import BuildRemarks.Kernel.Merged
import BuildRemarks.Kernel.PassTag
import BuildRemarks.Kernel.Scan
import BuildRemarks.Kernel.Sentence
import BuildRemarks.Kernel.Totals
import BuildRemarks.Location
import BuildRemarks.Location.Form
import BuildRemarks.NameMap
import BuildRemarks.Number
import BuildRemarks.Printed.Inlining
import BuildRemarks.Printed.Line
import BuildRemarks.Printed.Parse
import BuildRemarks.Proofs.NameMap
import BuildRemarks.Query
import BuildRemarks.Record.Arguments
import BuildRemarks.Record.Message
import BuildRemarks.Record.Parse
import BuildRemarks.Record.Typed
import BuildRemarks.Remark.Basic
import BuildRemarks.Remark.Form
import BuildRemarks.Text.Blank
import BuildRemarks.Text.Bracket
import BuildRemarks.Text.CharRange
import BuildRemarks.Text.DecimalDigit
import BuildRemarks.Text.Lines
import BuildRemarks.Text.Numeral
import BuildRemarks.Text.Printable
import BuildRemarks.Text.Quoted
import BuildRemarks.Text.Run
import BuildRemarks.Text.Search
import BuildRemarks.Text.Word
import BuildRemarks.Yaml.Block
import BuildRemarks.Yaml.Characters
import BuildRemarks.Yaml.Cursor
import BuildRemarks.Yaml.Folding
import BuildRemarks.Yaml.Lexer
import BuildRemarks.Yaml.Links
import BuildRemarks.Yaml.Load
import BuildRemarks.Yaml.Node
import BuildRemarks.Yaml.Plain
import BuildRemarks.Yaml.Quoted
import BuildRemarks.Yaml.Scalar
import BuildRemarks.Yaml.Tags
import BuildRemarks.Yaml.Token
import BuildRemarks.Yaml.Value
import BuildRemarks.Proofs.Kernel.Gauges
import BuildRemarks.Proofs.Kernel.Merging
import BuildRemarks.Proofs.Kernel.Headings
import BuildRemarks.Proofs.Text.Encoding
import BuildRemarks.Proofs.Kernel.TagEndings
import BuildRemarks.Proofs.Kernel.ScanRun
import BuildRemarks.Proofs.Kernel.Attribution
import BuildRemarks.Proofs.Kernel.Account
import BuildRemarks.Proofs.Kernel.ByFunction
import BuildRemarks.Proofs.Kernel.SentenceForms
import BuildRemarks.Proofs.Kernel.SentenceReading
import BuildRemarks.Proofs.Kernel.WrittenLine
import BuildRemarks.Proofs.Text.Splitting
import BuildRemarks.Proofs.Printed.Parameters
import BuildRemarks.Proofs.Printed.InliningLine
import BuildRemarks.Proofs.Build.Identifiers
import BuildRemarks.Proofs.Collect.Composition
import BuildRemarks.Proofs.Kernel.Consistency
import BuildRemarks.Proofs.Kernel.Reachable
import BuildRemarks.Proofs.Collect.SessionRuns
import BuildRemarks.Proofs.Printed.AcceptedLine
import BuildRemarks.Proofs.Record.Documents
import BuildRemarks.Proofs.Record.ToldArguments
import BuildRemarks.Proofs.Record.Fragments
import BuildRemarks.Proofs.Kernel.SharedLines
import BuildRemarks.Proofs.Json.Schemas
import BuildRemarks.Proofs.Json.PrintedStrings
import BuildRemarks.Proofs.Json.PrintedNumbers
import BuildRemarks.Proofs.Json.PrintedText
import BuildRemarks.Proofs.Remark.RoundTrip
import BuildRemarks.Proofs.Printed.SubjectLine
import BuildRemarks.Proofs.Kernel.PassTags
import BuildRemarks.Proofs.Text.Boundaries
import BuildRemarks.Proofs.Collect.Readable
import BuildRemarks.Proofs.Collect.Locality
import BuildRemarks.Proofs.Collect.PrintedLines
import BuildRemarks.Proofs.Text.Cases
import BuildRemarks.Proofs.Collect.Descriptors
import BuildRemarks.Proofs.Query.Balance
import BuildRemarks.Proofs.Record.Pairing
import BuildRemarks.Proofs.Record.Rendering
import BuildRemarks.Proofs.Record.Places
import BuildRemarks.Proofs.Record.KeyOrder
import BuildRemarks.Proofs.Kernel.Shapes
import BuildRemarks.Proofs.Kernel.Resumption
import BuildRemarks.Proofs.Text.Trimming
import BuildRemarks.Proofs.Kernel.TaggedLines
import BuildRemarks.Proofs.Text.SignedNumerals
import BuildRemarks.Proofs.Location.Triples
import BuildRemarks.Proofs.Query.Grouping
import BuildRemarks.Proofs.Analysis.WastedMemory
import BuildRemarks.Proofs.Analysis.Recommendations
import BuildRemarks.Proofs.Analysis.Bottlenecks
