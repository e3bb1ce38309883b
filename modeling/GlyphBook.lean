import GlyphBook.Bytes
import GlyphBook.CommandLine.GlobalOption
import GlyphBook.CommandLine.Help
import GlyphBook.CommandLine.Output
import GlyphBook.CommandLine.Parse
import GlyphBook.CommandLine.Request
import GlyphBook.CommandLine.Run
import GlyphBook.Config.Basic
import GlyphBook.Config.Faults
import GlyphBook.Config.Load
import GlyphBook.Config.Writing
import GlyphBook.Decimal.Binary64
import GlyphBook.Decimal.Layout
import GlyphBook.Decimal.Shortest
import GlyphBook.Files.Basic
import GlyphBook.Files.Inquiry
import GlyphBook.Files.Tree
import GlyphBook.Icon
import GlyphBook.Json.Icons
import GlyphBook.Json.Number
import GlyphBook.Json.Reader
import GlyphBook.Json.Text
import GlyphBook.Main
import GlyphBook.Media.Category
import GlyphBook.Media.CompoundFile
import GlyphBook.Media.Container
import GlyphBook.Media.Extension
import GlyphBook.Media.FileType
import GlyphBook.Media.Signature
import GlyphBook.Mismatch
import GlyphBook.Picker.HelpLine
import GlyphBook.Picker.History
import GlyphBook.Picker.IconList
import GlyphBook.Picker.Panes
import GlyphBook.Picker.Preview
import GlyphBook.Picker.Session
import GlyphBook.Picker.State
import GlyphBook.Picker.Walk
import GlyphBook.Proofs.Config.Loading
import GlyphBook.Proofs.Config.Schema
import GlyphBook.Proofs.Json.Form
import GlyphBook.Proofs.Json.Spelling
import GlyphBook.Proofs.Media.Agreement
import GlyphBook.Proofs.Media.Detection
import GlyphBook.Proofs.Picker.Highlight
import GlyphBook.Proofs.Picker.Invariant
import GlyphBook.Proofs.Picker.Loop
import GlyphBook.Proofs.Picker.Panes
import GlyphBook.Proofs.Picker.Scrolling
import GlyphBook.Proofs.Registry.Boundary
import GlyphBook.Proofs.Registry.Exact
import GlyphBook.Proofs.Registry.Lookup
import GlyphBook.Proofs.Registry.Table
import GlyphBook.Proofs.Terminal.Painting
import GlyphBook.Proofs.Theme.Listing
import GlyphBook.Proofs.Toml.Assembly
import GlyphBook.Proofs.Toml.Spelling
import GlyphBook.Registry.Basic
import GlyphBook.Registry.Builtin
import GlyphBook.Style
import GlyphBook.Terminal.Input
import GlyphBook.Terminal.Key
import GlyphBook.Terminal.Panel
import GlyphBook.Terminal.Screen
import GlyphBook.Text.CaseFold
import GlyphBook.Text.Hex
import GlyphBook.Text.Printable
import GlyphBook.Text.Quoted
import GlyphBook.Text.Width
import GlyphBook.Text.Wrap
import GlyphBook.Theme
import GlyphBook.Toml.Assembly
import GlyphBook.Toml.Blank
import GlyphBook.Toml.Highlight
import GlyphBook.Toml.Moment
import GlyphBook.Toml.Number
import GlyphBook.Toml.Reader
import GlyphBook.Toml.Text
import GlyphBook.Toml.Value
import GlyphBook.Toml.Writing
import GlyphBook.Verbosity
import GlyphBook.Proofs.Toml.Form
import GlyphBook.Proofs.Toml.Lines
import GlyphBook.Proofs.Toml.Tables
import GlyphBook.Proofs.Config.Spellings
import GlyphBook.Proofs.CommandLine.Records
import GlyphBook.Proofs.CommandLine.Certificate
import GlyphBook.Proofs.CommandLine.Reading
import GlyphBook.Proofs.Picker.Tiling
import GlyphBook.Proofs.Picker.Drawing
import GlyphBook.Proofs.Picker.Details
import GlyphBook.Proofs.Picker.Restoration
import GlyphBook.Proofs.Theme.RoundTrip
import GlyphBook.Proofs.CommandLine.Sides
import GlyphBook.Proofs.CommandLine.Arguments
import GlyphBook.Proofs.CommandLine.Encoding
import GlyphBook.Proofs.Json.Numeral
import GlyphBook.Proofs.Json.Magnitude
import GlyphBook.Proofs.Json.Stream
import GlyphBook.Proofs.Json.Kinds
import GlyphBook.Proofs.Registry.FirstProblem
import GlyphBook.Proofs.Registry.Order
import GlyphBook.Proofs.Theme.Usage
import GlyphBook.Proofs.Config.Pointing
