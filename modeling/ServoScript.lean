import ServoScript.Api
import ServoScript.Api.Request
import ServoScript.Api.Route
import ServoScript.Archive
import ServoScript.Archive.Cells
import ServoScript.Archive.Content
import ServoScript.Archive.Directory
import ServoScript.Archive.Display
import ServoScript.Archive.Header
import ServoScript.Archive.Inflate
import ServoScript.Archive.Kind
import ServoScript.Archive.Member
import ServoScript.Archive.Nested
import ServoScript.Archive.Table
import ServoScript.Archive.Time
import ServoScript.ChannelTable
import ServoScript.Clipboard
import ServoScript.Draft.ChannelList
import ServoScript.Draft.Frame
import ServoScript.Draft.Script
import ServoScript.Draft.Session
import ServoScript.Fault
import ServoScript.File
import ServoScript.Frame
import ServoScript.Json.Basic
import ServoScript.Json.Coercion
import ServoScript.Json.Order
import ServoScript.Json.Printer
import ServoScript.Json.Reader
import ServoScript.Literal.Basic
import ServoScript.Literal.Escape
import ServoScript.Literal.Lexeme
import ServoScript.Literal.Numeral
import ServoScript.Literal.OldNotation
import ServoScript.Literal.Reader
import ServoScript.Literal.SetOrder
import ServoScript.Number.Binary64
import ServoScript.Number.Shortest
import ServoScript.Number.Width
import ServoScript.Payload
import ServoScript.Proofs.Answers
import ServoScript.Proofs.ArchiveContent
import ServoScript.Proofs.ArchiveRoundTrip
import ServoScript.Proofs.Basic
import ServoScript.Proofs.ChannelTable
import ServoScript.Proofs.Clipboard
import ServoScript.Proofs.ClipboardLines
import ServoScript.Proofs.ClosedScript
import ServoScript.Proofs.Document
import ServoScript.Proofs.DocumentFile
import ServoScript.Proofs.Headers
import ServoScript.Proofs.Identifier
import ServoScript.Proofs.KeyOrder
import ServoScript.Proofs.Layout
import ServoScript.Proofs.LazyWalk
import ServoScript.Proofs.Line
import ServoScript.Proofs.LineCount
import ServoScript.Proofs.LoopedPlayback
import ServoScript.Proofs.MinimalUpdate
import ServoScript.Proofs.NumberedKeys
import ServoScript.Proofs.Payload
import ServoScript.Proofs.PayloadAgain
import ServoScript.Proofs.PayloadForm
import ServoScript.Proofs.Playback
import ServoScript.Proofs.ProgramPlayback
import ServoScript.Proofs.Readable
import ServoScript.Proofs.Reader
import ServoScript.Proofs.Registry
import ServoScript.Proofs.RegistryHistory
import ServoScript.Proofs.Rounding
import ServoScript.Proofs.Session
import ServoScript.Proofs.SharedRegistry
import ServoScript.Proofs.ShortestDecimal
import ServoScript.Proofs.StableSort
import ServoScript.Proofs.Store
import ServoScript.Proofs.StoreContent
import ServoScript.Proofs.StoreRoundTrip
import ServoScript.Proofs.StoreUpdate
import ServoScript.Proofs.TargetsText
import ServoScript.Proofs.Token
import ServoScript.Proofs.TokenStream
import ServoScript.Proofs.Transport
import ServoScript.Proofs.Word
import ServoScript.Proofs.WordGrammar
import ServoScript.Proofs.Words
import ServoScript.Proofs.WrappedLines
import ServoScript.Proofs.WrittenNumber
import ServoScript.Proofs.WrittenText
import ServoScript.Registry
import ServoScript.RunSort
import ServoScript.Script.Line
import ServoScript.Script.Machine
import ServoScript.Script.Program
import ServoScript.Session
import ServoScript.Store
import ServoScript.Text.Basic
import ServoScript.Text.Case
import ServoScript.Text.CharacterName
import ServoScript.Text.CharacterName.From0000
import ServoScript.Text.CharacterName.From1132
import ServoScript.Text.CharacterName.From12185
import ServoScript.Text.CharacterName.From1B1A4
import ServoScript.Text.CharacterName.From1F3B0
import ServoScript.Text.CharacterName.From22E6
import ServoScript.Text.CharacterName.From2E21
import ServoScript.Text.CharacterName.FromFD4F
import ServoScript.Text.Codes
import ServoScript.Text.Decimal
import ServoScript.Text.Encoding
import ServoScript.Text.Normal
import ServoScript.Text.Normal.Table
import ServoScript.Text.Numeral
import ServoScript.Text.Quoted
import ServoScript.Text.Run
import ServoScript.Text.Utf8
import ServoScript.Update
import ServoScript.Url
import ServoScript.Url.Address
import ServoScript.Url.Host
import ServoScript.Url.Host.Table
import ServoScript.Url.Punycode
import ServoScript.Word
