import Formulary.Calendar.Date
import Formulary.Calendar.Timestamp
import Formulary.Calendar.Written
import Formulary.Command.Arguments
import Formulary.Command.Failure
import Formulary.Command.Help
import Formulary.Command.Input
import Formulary.Command.Report
import Formulary.Command.Request
import Formulary.Command.Run
import Formulary.Command.Values
import Formulary.Command.World
import Formulary.Config.Basic
import Formulary.Config.Reader
import Formulary.Editor.Basic
import Formulary.Editor.External
import Formulary.Files.Device
import Formulary.Files.Fault
import Formulary.Files.Tree
import Formulary.Image.Bitmap
import Formulary.Image.Decode
import Formulary.Image.Deflate.Codes
import Formulary.Image.Deflate.Stream
import Formulary.Image.Jpeg.Basic
import Formulary.Image.Jpeg.Reader
import Formulary.Image.Kind
import Formulary.Image.Png.Basic
import Formulary.Image.Png.Pixels
import Formulary.Image.Png.Reader
import Formulary.Image.Quantization
import Formulary.Json.Basic
import Formulary.Json.Numeral
import Formulary.Json.Reader
import Formulary.Json.Writer
import Formulary.Main
import Formulary.Number.Arithmetic
import Formulary.Number.Binary
import Formulary.Number.Layout
import Formulary.Number.Reading
import Formulary.Number.Shortest
import Formulary.Page.Band
import Formulary.Page.Plan
import Formulary.Page.Size
import Formulary.Pdf.Document
import Formulary.Pdf.FileName
import Formulary.Pdf.TextString
import Formulary.Proofs.Calendar.Days
import Formulary.Proofs.Calendar.Formats
import Formulary.Proofs.Calendar.Forms
import Formulary.Proofs.Calendar.Spelling
import Formulary.Proofs.Calendar.Written
import Formulary.Proofs.Command.Saving
import Formulary.Proofs.Command.Sources
import Formulary.Proofs.Editor.Choice
import Formulary.Proofs.Overlay
import Formulary.Proofs.Page.Binary
import Formulary.Proofs.Page.Exact
import Formulary.Proofs.Page.Slices
import Formulary.Proofs.Page.Within
import Formulary.Proofs.Pdf.Pages
import Formulary.Proofs.Pdf.TextString
import Formulary.Proofs.Record.Dates
import Formulary.Proofs.Record.Entries
import Formulary.Proofs.Record.Frame
import Formulary.Proofs.Record.Normalize
import Formulary.Proofs.Record.Spelling
import Formulary.Proofs.Record.Store
import Formulary.Proofs.Sample.Autofill
import Formulary.Proofs.Sample.Draws
import Formulary.Proofs.Sample.Invent
import Formulary.Proofs.Sample.Shapes
import Formulary.Proofs.Session.Export
import Formulary.Proofs.Session.InPlace
import Formulary.Proofs.Session.Provenance
import Formulary.Proofs.Session.Views
import Formulary.Proofs.Template.Agreement
import Formulary.Proofs.Template.Cut
import Formulary.Proofs.Template.Lines
import Formulary.Proofs.Template.Markup
import Formulary.Proofs.Template.Slices
import Formulary.Proofs.Template.Stages
import Formulary.Proofs.Template.Upload
import Formulary.Proofs.Template.Values
import Formulary.Proofs.Template.Walk
import Formulary.Proofs.Text.Reader
import Formulary.Record.Normalize
import Formulary.Record.Store
import Formulary.Render.Basic
import Formulary.Sample.Draw
import Formulary.Sample.KeyStream
import Formulary.Sample.Pool
import Formulary.Sample.Rule
import Formulary.Session.Acting
import Formulary.Session.Basic
import Formulary.Session.Collaborator
import Formulary.Session.Encoding
import Formulary.Session.Fault
import Formulary.Session.History
import Formulary.Session.InPlace
import Formulary.Session.View
import Formulary.Table
import Formulary.Template.Basic
import Formulary.Template.Fill
import Formulary.Template.Token
import Formulary.Template.Upload
import Formulary.Text.Blank
import Formulary.Text.LetterCase
import Formulary.Text.Lowercase
import Formulary.Text.Markup
import Formulary.Text.Numeral
import Formulary.Text.Quoted
import Formulary.Text.Reader
import Formulary.Text.Search
import Formulary.Text.Slice
import Formulary.Text.Terminal
import Formulary.Text.Utf8
import Formulary.Text.Visible
import Formulary.Toml.Basic
import Formulary.Toml.Reader
import Formulary.Toml.Scalar
import Formulary.Toml.Section
import Formulary.Toml.Tagged
