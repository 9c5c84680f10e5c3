import SignedBlog.Author
import SignedBlog.Bytes.Base64
import SignedBlog.Bytes.Basic
import SignedBlog.Bytes.Hex
import SignedBlog.Canonical
import SignedBlog.CommandLine.Command
import SignedBlog.CommandLine.Part
import SignedBlog.CommandLine.Run
import SignedBlog.Crypto.Ed25519
import SignedBlog.Crypto.Sha2
import SignedBlog.Database.Cell
import SignedBlog.Database.Dialogue
import SignedBlog.Database.Numeral
import SignedBlog.Database.PostStore
import SignedBlog.Database.Row
import SignedBlog.Database.Settings
import SignedBlog.Database.Stamp
import SignedBlog.Database.Statement
import SignedBlog.Database.Url
import SignedBlog.Encoding
import SignedBlog.Entries
import SignedBlog.Environment
import SignedBlog.Fault
import SignedBlog.Http.App
import SignedBlog.Http.Body
import SignedBlog.Http.Host
import SignedBlog.Http.Message
import SignedBlog.Http.Route
import SignedBlog.Http.Token
import SignedBlog.Identifier
import SignedBlog.Identity
import SignedBlog.Json.Basic
import SignedBlog.Json.Encoding
import SignedBlog.Json.Reader
import SignedBlog.Json.Writer
import SignedBlog.Log.Group
import SignedBlog.Log.Level
import SignedBlog.Log.Line
import SignedBlog.Log.Settings
import SignedBlog.Main
import SignedBlog.Metrics
import SignedBlog.Node.Basic
import SignedBlog.Node.Blogs
import SignedBlog.Node.Feed
import SignedBlog.Node.Health
import SignedBlog.Node.Startup
import SignedBlog.Number.Binary64
import SignedBlog.Number.Integer
import SignedBlog.Post
import SignedBlog.Proofs.Accounting
import SignedBlog.Proofs.Action
import SignedBlog.Proofs.Addressing
import SignedBlog.Proofs.Agreement
import SignedBlog.Proofs.Authenticity
import SignedBlog.Proofs.Authorship
import SignedBlog.Proofs.Base64
import SignedBlog.Proofs.BearerToken
import SignedBlog.Proofs.ConnectionReader
import SignedBlog.Proofs.ConnectionText
import SignedBlog.Proofs.Content
import SignedBlog.Proofs.Conversation
import SignedBlog.Proofs.Counting
import SignedBlog.Proofs.Credentials
import SignedBlog.Proofs.Cutting
import SignedBlog.Proofs.Delivery
import SignedBlog.Proofs.Derivation
import SignedBlog.Proofs.Digits
import SignedBlog.Proofs.EntryFields
import SignedBlog.Proofs.Exchanges
import SignedBlog.Proofs.FeedBody
import SignedBlog.Proofs.FeedGrowth
import SignedBlog.Proofs.FeedOrder
import SignedBlog.Proofs.FieldOrder
import SignedBlog.Proofs.FloatText
import SignedBlog.Proofs.Framing
import SignedBlog.Proofs.Interruption
import SignedBlog.Proofs.JsonAscii
import SignedBlog.Proofs.JsonBlanks
import SignedBlog.Proofs.JsonNumbers
import SignedBlog.Proofs.JsonReading
import SignedBlog.Proofs.JsonStrings
import SignedBlog.Proofs.JsonSurrogates
import SignedBlog.Proofs.JsonValues
import SignedBlog.Proofs.Latencies
import SignedBlog.Proofs.Ledger
import SignedBlog.Proofs.Listing
import SignedBlog.Proofs.Log
import SignedBlog.Proofs.LogColumns
import SignedBlog.Proofs.LogLines
import SignedBlog.Proofs.Mirror
import SignedBlog.Proofs.Nearest
import SignedBlog.Proofs.NormalForm
import SignedBlog.Proofs.Ownership
import SignedBlog.Proofs.PercentForm
import SignedBlog.Proofs.Phases
import SignedBlog.Proofs.Posting
import SignedBlog.Proofs.Preimages
import SignedBlog.Proofs.Printing
import SignedBlog.Proofs.Publication
import SignedBlog.Proofs.Publishing
import SignedBlog.Proofs.Rejection
import SignedBlog.Proofs.Relay
import SignedBlog.Proofs.Repetition
import SignedBlog.Proofs.Requests
import SignedBlog.Proofs.Restart
import SignedBlog.Proofs.Rounding
import SignedBlog.Proofs.Routing
import SignedBlog.Proofs.Server
import SignedBlog.Proofs.Serving
import SignedBlog.Proofs.Sessions
import SignedBlog.Proofs.ShortestDecimal
import SignedBlog.Proofs.Strangers
import SignedBlog.Proofs.Tables
import SignedBlog.Proofs.Transactions
import SignedBlog.Proofs.Unambiguity
import SignedBlog.Proofs.UnitOfWork
import SignedBlog.Proofs.Utf8
import SignedBlog.Proofs.Validity
import SignedBlog.Proofs.VersionMark
import SignedBlog.Proofs.Wiring
import SignedBlog.Proofs.Workers
import SignedBlog.Record
import SignedBlog.Signature
import SignedBlog.Sorting.Merge
import SignedBlog.Sorting.Run
import SignedBlog.Sorting.Sort
import SignedBlog.Store
import SignedBlog.Text.Address
import SignedBlog.Text.Blank
import SignedBlog.Text.Case
import SignedBlog.Text.CodePoint
import SignedBlog.Text.Digit
import SignedBlog.Text.Escaped
import SignedBlog.Text.Percent
import SignedBlog.Text.Printable
import SignedBlog.Text.Quoted
import SignedBlog.Text.Range
import SignedBlog.Text.Utf8
import SignedBlog.Value.Basic
import SignedBlog.Value.Literal
import SignedBlog.Value.Wire
